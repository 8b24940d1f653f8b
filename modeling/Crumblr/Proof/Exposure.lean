import Crumblr.Application.ExpectedState

/-!
# What makes a request determined

A request is determined only by a rejection or by a resolved ambiguity, as the
last event of its history that says anything of exposure. In a history that has
not been reconciled every event does, so that event is simply the last one.
-/

namespace Crumblr

/-- **Only a rejection or a resolution determines a request.** -/
theorem requestExposure_determined {orderRequestId : Uuid} {events : List ExecutionEventRecord}
    {one : RequestExposure} (h : requestExposure orderRequestId events = .ok one)
    (hd : one.determined.isSome) :
    ∃ e, lastExposureRelevant events = some e
      ∧ (e.eventType = .rejected ∨ e.eventType = .ambiguousOutcomeResolved) := by
  unfold requestExposure at h
  split at h
  · cases h
    cases hd
  · rename_i e he
    refine ⟨e, he, ?_⟩
    split at h
    · cases h; cases hd
    · cases h; cases hd
    · rename_i ht; exact .inl ht
    · rename_i ht; exact .inr ht
    · cases h; cases hd

/-! ## What each history contributes -/

/-- What a request's history contributes; nothing where it cannot be read. -/
def contribution (history : Uuid × List ExecutionEventRecord) : RequestExposure :=
  match requestExposure history.1 history.2 with
  | .ok one => one
  | .error _ => ⟨none, none, []⟩

theorem contribution_of_ok {history : Uuid × List ExecutionEventRecord} {one : RequestExposure}
    (h : requestExposure history.1 history.2 = .ok one) : contribution history = one := by
  unfold contribution
  rw [h]

/-- The requests' contributions, side by side. -/
def gathered (histories : List (Uuid × List ExecutionEventRecord)) : DerivedExposure where
  expectedPositionTickets := histories.flatMap fun h => (contribution h).determined.getD []
  expectedPendingOrderIds := []
  undeterminedReasons := histories.flatMap fun h => (contribution h).reasons
  ticketsByRequest :=
    histories.flatMap fun h => ((contribution h).determined.map fun t => (h.1, t)).toList
  determinedRequestIds :=
    histories.flatMap fun h => ((contribution h).determined.map fun _ => h.1).toList
  expectedStopLossByRequest :=
    histories.flatMap fun h => ((contribution h).stopLoss.map fun s => (h.1, s)).toList

/-- **Gathering succeeds when every history can be read, and sets their parts side by side.** -/
theorem gatherExposure_iff {histories : List (Uuid × List ExecutionEventRecord)}
    {exposure : DerivedExposure} :
    gatherExposure histories = .ok exposure
      ↔ (∀ h ∈ histories, ∃ one, requestExposure h.1 h.2 = .ok one)
        ∧ exposure = gathered histories := by
  induction histories generalizing exposure with
  | nil => simp [gatherExposure, gathered, DerivedExposure.empty, eq_comm]
  | cons history histories ih =>
      obtain ⟨rid, events⟩ := history
      rw [List.forall_mem_cons]
      unfold gatherExposure
      cases hone : requestExposure rid events with
      | error e =>
          constructor
          · intro h; cases h
          · rintro ⟨⟨⟨one, h⟩, -⟩, -⟩; cases h
      | ok one =>
          have hcontribution : contribution (rid, events) = one := contribution_of_ok hone
          cases hmore : gatherExposure histories with
          | error e =>
              constructor
              · intro h; cases h
              · rintro ⟨⟨-, hread⟩, -⟩
                rw [ih.mpr ⟨hread, rfl⟩] at hmore
                cases hmore
          | ok more =>
              obtain ⟨hread, rfl⟩ := ih.mp hmore
              simp only [gathered, List.flatMap_cons, hcontribution]
              constructor
              · intro h
                cases h
                exact ⟨⟨⟨one, rfl⟩, hread⟩, rfl⟩
              · rintro ⟨-, rfl⟩
                rfl

/-- What an occurrence contributes; nothing where it cannot be read. -/
def flattenContribution (history : Uuid × List FlattenEventRecord) : List Int × List String :=
  match flattenOccurrence history.1 history.2 with
  | .ok one => one
  | .error _ => ([], [])

theorem flattenContribution_of_ok {history : Uuid × List FlattenEventRecord}
    {one : List Int × List String} (h : flattenOccurrence history.1 history.2 = .ok one) :
    flattenContribution history = one := by
  unfold flattenContribution
  rw [h]

theorem flattenRemovedAndUndetermined_iff {histories : List (Uuid × List FlattenEventRecord)}
    {removed : List Int × List String} :
    flattenRemovedAndUndetermined histories = .ok removed
      ↔ (∀ h ∈ histories, ∃ one, flattenOccurrence h.1 h.2 = .ok one)
        ∧ removed = (histories.flatMap fun h => (flattenContribution h).1,
            histories.flatMap fun h => (flattenContribution h).2) := by
  induction histories generalizing removed with
  | nil => simp [flattenRemovedAndUndetermined, eq_comm]
  | cons history histories ih =>
      obtain ⟨rid, events⟩ := history
      rw [List.forall_mem_cons]
      unfold flattenRemovedAndUndetermined
      cases hone : flattenOccurrence rid events with
      | error e =>
          constructor
          · intro h; cases h
          · rintro ⟨⟨⟨one, h⟩, -⟩, -⟩; cases h
      | ok one =>
          have hcontribution : flattenContribution (rid, events) = one :=
            flattenContribution_of_ok hone
          cases hmore : flattenRemovedAndUndetermined histories with
          | error e =>
              constructor
              · intro h; cases h
              · rintro ⟨⟨-, hread⟩, -⟩
                rw [ih.mpr ⟨hread, rfl⟩] at hmore
                cases hmore
          | ok more =>
              obtain ⟨hread, rfl⟩ := ih.mp hmore
              simp only [List.flatMap_cons, hcontribution]
              constructor
              · intro h
                cases h
                exact ⟨⟨⟨one, rfl⟩, hread⟩, rfl⟩
              · rintro ⟨-, rfl⟩
                rfl

/-- The tickets resolved flattens closed. -/
def closedByFlatten (flattens : List (Uuid × List FlattenEventRecord)) : List Int :=
  flattens.flatMap fun h => (flattenContribution h).1

/-- What is derived when everything can be read. -/
def derived (histories : List (Uuid × List ExecutionEventRecord))
    (flattens : List (Uuid × List FlattenEventRecord)) : DerivedExposure :=
  { gathered histories with
    expectedPositionTickets :=
      (gathered histories).expectedPositionTickets.filter (fun t => t ∉ closedByFlatten flattens)
    ticketsByRequest := (gathered histories).ticketsByRequest.map fun (rid, tickets) =>
      (rid, tickets.filter (fun t => t ∉ closedByFlatten flattens))
    undeterminedReasons := (gathered histories).undeterminedReasons
      ++ flattens.flatMap fun h => (flattenContribution h).2 }

/-- **Deriving succeeds when every history can be read, and what it gives is then plain.** -/
theorem deriveExpectedExposure_iff {histories : List (Uuid × List ExecutionEventRecord)}
    {flattens : List (Uuid × List FlattenEventRecord)} {exposure : DerivedExposure} :
    deriveExpectedExposure histories flattens = .ok exposure
      ↔ (∀ h ∈ histories, ∃ one, requestExposure h.1 h.2 = .ok one)
        ∧ (∀ h ∈ flattens, ∃ one, flattenOccurrence h.1 h.2 = .ok one)
        ∧ exposure = derived histories flattens := by
  unfold deriveExpectedExposure
  cases hg : gatherExposure histories with
  | error e =>
      constructor
      · intro h; cases h
      · rintro ⟨hread, -, -⟩
        rw [gatherExposure_iff.mpr ⟨hread, rfl⟩] at hg
        cases hg
  | ok gathered =>
      obtain ⟨hread, rfl⟩ := gatherExposure_iff.mp hg
      cases hf : flattenRemovedAndUndetermined flattens with
      | error e =>
          constructor
          · intro h; cases h
          · rintro ⟨-, hread', -⟩
            rw [flattenRemovedAndUndetermined_iff.mpr ⟨hread', rfl⟩] at hf
            cases hf
      | ok removed =>
          obtain ⟨hread', rfl⟩ := flattenRemovedAndUndetermined_iff.mp hf
          constructor
          · intro h
            cases h
            exact ⟨hread, hread', rfl⟩
          · rintro ⟨-, -, rfl⟩
            rfl

/-! ## Which requests are determined -/

/-- **A determined request is one whose own history determines it.** -/
theorem determined_of_derive {orderRequestId : Uuid}
    {histories : List (Uuid × List ExecutionEventRecord)}
    {flattens : List (Uuid × List FlattenEventRecord)} {exposure : DerivedExposure}
    (h : deriveExpectedExposure histories flattens = .ok exposure)
    (hd : orderRequestId ∈ exposure.determinedRequestIds) :
    ∃ events one, (orderRequestId, events) ∈ histories
      ∧ requestExposure orderRequestId events = .ok one ∧ one.determined.isSome := by
  obtain ⟨hread, -, rfl⟩ := deriveExpectedExposure_iff.mp h
  obtain ⟨history, hmem, hd⟩ := List.mem_flatMap.mp hd
  obtain ⟨one, hone⟩ := hread history hmem
  rw [contribution_of_ok hone, Option.mem_toList, Option.map_eq_some_iff] at hd
  obtain ⟨tickets, ht, rfl⟩ := hd
  exact ⟨history.2, one, hmem, hone, by rw [ht]; rfl⟩

/-- Before a request is reconciled, its last event is the last that says something. -/
theorem lastExposureRelevant_of_unreconciled {events : List ExecutionEventRecord}
    (h : events.any (fun e => e.eventType = .reconciled) = false) :
    lastExposureRelevant events = events.getLast? := by
  have hall : ∀ e ∈ events, exposureByEvent e.eventType ≠ .notExposureRelevant := by
    intro e he
    have hne : e.eventType ≠ .reconciled := by simpa using List.any_eq_false.mp h e he
    cases ht : e.eventType <;> simp_all [exposureByEvent]
  unfold lastExposureRelevant
  rw [← List.head?_reverse]
  cases hr : events.reverse with
  | nil => rfl
  | cons e es =>
      have he : e ∈ events := by simpa using (by simp [hr] : e ∈ events.reverse)
      simp [hall e he]

/--
**What reconciliation may close.** A determined request whose history has not been
reconciled ends in a rejection or in a resolution.
-/
theorem determined_last {histories : List (Uuid × List ExecutionEventRecord)}
    {flattens : List (Uuid × List FlattenEventRecord)} {exposure : DerivedExposure}
    {orderRequestId : Uuid} {events : List ExecutionEventRecord}
    (h : deriveExpectedExposure histories flattens = .ok exposure)
    (hnodup : (histories.map Prod.fst).Nodup) (hmem : (orderRequestId, events) ∈ histories)
    (hd : orderRequestId ∈ exposure.determinedRequestIds)
    (hrec : events.any (fun e => e.eventType = .reconciled) = false) :
    ∃ e, events.getLast? = some e
      ∧ (e.eventType = .rejected ∨ e.eventType = .ambiguousOutcomeResolved) := by
  obtain ⟨events', one, hmem', hreq, hsome⟩ := determined_of_derive h hd
  have heq : (orderRequestId, events') = (orderRequestId, events) :=
    List.inj_on_of_nodup_map hnodup hmem' hmem rfl
  cases heq
  rw [← lastExposureRelevant_of_unreconciled hrec]
  exact requestExposure_determined hreq hsome

end Crumblr
