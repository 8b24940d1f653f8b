import Crumblr.Persistence.Journal

/-!
# One order for every reader

Whoever reads the journal reads the same list: some part of it, some end of it, or backwards.
-/

namespace Crumblr.EventJournal

variable {events : List Event}

theorem stream_perm : (stream events).Perm events := by
  have hperm : ((rows events).mergeSort ascending).Perm (rows events) := List.mergeSort_perm _ _
  have hmapped := hperm.map Prod.fst
  rw [rows, List.zipIdx_map_fst] at hmapped
  exact hmapped

/-- Rows that a condition on their event selects, in order. -/
theorem selected (events : List Event) (p : Event → Bool) :
    (((rows events).filter fun r => p r.1).mergeSort ascending).map (·.1)
      = (stream events).filter p := by
  unfold stream
  have hselect := Numbered.mergeSort_filter (fun e : Event => e.occurredAtUtc)
    (Numbered.distinct_zipIdx (l := events)) fun r => p r.1
  rw [ascending, rows, hselect, List.filter_map]
  rfl

/-- What a filter admits depends on the event alone. -/
def Filter.admitsEvent (f : Filter) (e : Event) : Bool := f.admits (e, 0)

theorem readAll_eq (f : Filter) :
    readAll events f = match f.limit with
      | none => (stream events).filter f.admitsEvent
      | some n => ((stream events).filter f.admitsEvent).take n := by
  have hselected := selected events f.admitsEvent
  have hadmits : (fun r : Row => f.admitsEvent r.1) = f.admits := rfl
  rw [hadmits] at hselected
  unfold readAll limited
  cases f.limit with
  | none => exact hselected
  | some n =>
      simp only [List.map_take]
      rw [hselected]

theorem readAll_all : readAll events .all = stream events := by
  rw [readAll_eq]
  change (stream events).filter (Filter.all).admitsEvent = stream events
  refine List.filter_eq_self.mpr fun e _ => ?_
  rfl

theorem stream_ordered :
    (stream events).Pairwise fun e e' => e.occurredAtUtc ≤ e'.occurredAtUtc := by
  have hsorted : ((rows events).mergeSort ascending).Pairwise fun r r' => ascending r r' :=
    Numbered.sorted
  unfold stream
  rw [List.pairwise_map]
  refine hsorted.imp ?_
  intro r r' h
  rcases of_decide_eq_true h with hlt | ⟨heq, -⟩
  · exact le_of_lt hlt
  · exact le_of_eq heq

/-- The events of one instant are read in the order they were stored in. -/
theorem stream_instant (t : UtcDatetime) :
    (stream events).filter (fun e => decide (e.occurredAtUtc = t))
      = events.filter fun e => decide (e.occurredAtUtc = t) := by
  refine Numbered.read_in_order (fun e : Event => e.occurredAtUtc) _ ?_
  refine List.pairwise_of_forall_mem_list ?_
  intro e he e' he'
  have ht : e.occurredAtUtc = t := by simpa using (List.mem_filter.mp he).2
  have ht' : e'.occurredAtUtc = t := by simpa using (List.mem_filter.mp he').2
  exact le_of_eq (ht.trans ht'.symm)

/-- A query from the end reads the stream backwards. -/
theorem selected_descending (events : List Event) (p : Event → Bool) :
    (((rows events).filter fun r => p r.1).mergeSort descending).map (·.1)
      = ((stream events).filter p).reverse := by
  have hback := Numbered.mergeSort_descending (fun e : Event => e.occurredAtUtc)
    ((Numbered.distinct_zipIdx (l := events)).filter fun r => p r.1)
  have hselected := selected events p
  change (((rows events).filter fun r => p r.1).mergeSort
    fun r r' => Numbered.ascending (fun e : Event => e.occurredAtUtc) r' r).map (·.1) = _
  rw [rows, hback, List.map_reverse]
  rw [rows, ascending] at hselected
  rw [hselected]

theorem latest_eq (eventType : EventType) :
    latest events eventType
      = ((stream events).filter fun e => decide (e.eventType = eventType)).getLast? := by
  have hback := selected_descending events fun e => decide (e.eventType = eventType)
  unfold latest limited
  simp only [List.map_take]
  rw [hback, List.head?_take, if_neg (by omega), List.head?_reverse]

theorem recent_eq (limit : Nat) :
    recent events limit = (stream events).drop ((stream events).length - limit) := by
  have hback := selected_descending events fun _ => true
  rw [List.filter_true, List.filter_true] at hback
  unfold recent limited
  simp only [List.map_take]
  rw [hback, List.take_reverse, List.reverse_reverse]

/-- What was read is read again in the same order, with what came since in between. -/
theorem stream_grows (more : List Event) : (stream events).Sublist (stream (events ++ more)) := by
  have holder : (rows (events ++ more)).filter (fun r => decide (r.2 < events.length))
      = rows events := by
    unfold rows
    rw [List.zipIdx_append, List.filter_append]
    have hold : events.zipIdx.filter (fun r => decide (r.2 < events.length)) = events.zipIdx := by
      refine List.filter_eq_self.mpr ?_
      rintro ⟨e, i⟩ hr
      have hi := List.snd_lt_of_mem_zipIdx hr
      simpa using hi
    have hnew : (more.zipIdx (0 + events.length)).filter
        (fun r => decide (r.2 < events.length)) = [] := by
      refine List.filter_eq_nil_iff.mpr ?_
      rintro ⟨e, i⟩ hr
      have hi := List.le_snd_of_mem_zipIdx hr
      simp only [decide_eq_true_eq]
      omega
    rw [hold, hnew, List.append_nil]
  have hselect := Numbered.mergeSort_filter (fun e : Event => e.occurredAtUtc)
    (Numbered.distinct_zipIdx (l := events ++ more)) fun r => decide (r.2 < events.length)
  have hstream : stream events = (((rows (events ++ more)).mergeSort ascending).filter
      fun r => decide (r.2 < events.length)).map (·.1) := by
    rw [rows, ascending, ← hselect]
    rw [rows] at holder
    rw [holder]
    rfl
  rw [hstream]
  exact List.filter_sublist.map _

/-- **Whoever reads the journal reads one list**, in market time and within an instant as it was
stored: a query reads a part of it, a dashboard its end. As the journal grows, whatever was read
keeps its order. -/
theorem readers_agree (events more : List Event) :
    ((stream events).Perm events
        ∧ ((stream events).Pairwise fun e e' => e.occurredAtUtc ≤ e'.occurredAtUtc)
        ∧ ∀ t, (stream events).filter (fun e => decide (e.occurredAtUtc = t))
          = events.filter fun e => decide (e.occurredAtUtc = t))
      ∧ (∀ f : Filter, readAll events f
          = ((stream events).filter f.admitsEvent).take (f.limit.getD events.length))
      ∧ (∀ type, latest events type
          = ((stream events).filter fun e => decide (e.eventType = type)).getLast?)
      ∧ (∀ n, recent events n = (stream events).drop (events.length - n))
      ∧ (stream events).Sublist (stream (events ++ more)) := by
  have hlength : (stream events).length = events.length := stream_perm.length_eq
  refine ⟨⟨stream_perm, stream_ordered, stream_instant⟩, ?_, latest_eq, ?_, stream_grows more⟩
  · intro f
    rw [readAll_eq]
    cases f.limit with
    | none =>
        have hle : ((stream events).filter f.admitsEvent).length ≤ events.length :=
          hlength ▸ List.length_filter_le ..
        exact (List.take_of_length_le hle).symm
    | some n => rfl
  · intro n
    rw [recent_eq, hlength]

end Crumblr.EventJournal
