import Crumblr.Proof.AtMostOnce

/-!
# One worker follows the life cycle

A single worker is the only one to append, so what it knows of a history is that
history, to the event, through crashes and restarts: a fresh process knows nothing
until it reads. Three passes append, each deciding from the last event alone, and
from every last event they append only what the life cycle has there.
-/

namespace Crumblr

/-- Only worker `i` does anything; the world around it is free. -/
def Alone (i : Nat) : Guard := fun _ m _ => m.only i = true

/-- Worker `i` knows histories as they are, and they are stages of life cycles. -/
structure Faithful (i : Nat) (S : Scene) : Prop where
  /-- What the worker knows of a history is that history. -/
  exact : ∀ r events, known r (S.past i) = some events → events = S.ledger.eventsFor r
  /-- Every history is a stage of a life cycle. -/
  grammar : ∀ r, types (S.ledger.eventsFor r) ∈ histories

namespace Faithful

variable {S : Scene} {i : Nat} {c : Call} {a : Except PyError c.Answer} {l : Ledger}

theorem init {l : Ledger} (hev : l.events = []) : Faithful i ⟨l, fun _ => []⟩ where
  exact := by intro r events h; cases h
  grammar := by
    intro r
    simp only [Ledger.eventsFor, hev, List.filter_nil]
    exact nil_mem_histories

theorem reset (h : Faithful i S) (j : Nat) : Faithful i (S.reset j) where
  exact := by
    intro r events hk
    rcases S.reset_past (i := j) i with hp | hp <;> rw [hp] at hk
    · cases hk
    · exact h.exact r events hk
  grammar := h.grammar

theorem settled {sends : List Send} (h : Faithful i S) : Faithful i (S.settled sends) :=
  ⟨h.exact, h.grammar⟩

/-- A call that tells nothing and appends nothing. -/
theorem silent (h : Faithful i S) (hnews : ∀ r, executionNews r ⟨c, a⟩ = .silent)
    (hev : l.events = S.ledger.events) : Faithful i (S.called i c a l) where
  exact := by
    intro r events hk
    simp only [Scene.called_past_self, known, recollect, hnews] at hk
    exact (h.exact r events hk).trans (Ledger.eventsFor_congr hev).symm
  grammar := by
    intro r
    rw [Scene.called_ledger, Ledger.eventsFor_congr hev]
    exact h.grammar r

/-- The history grows by what comes next, and the worker knows it. -/
theorem grow (h : Faithful i S) {e : ExecutionEventRecord}
    (hnews : ∀ r, executionNews r ⟨c, a⟩ = if e.orderRequestId = r then .grew e else .silent)
    (hev : l.events = S.ledger.events ++ [e])
    (hnext : e.eventType ∈ advances (types (S.ledger.eventsFor e.orderRequestId)).getLast?
      ++ resolves (types (S.ledger.eventsFor e.orderRequestId)).getLast?) :
    Faithful i (S.called i c a l) := by
  have hself : l.eventsFor e.orderRequestId = S.ledger.eventsFor e.orderRequestId ++ [e] := by
    simp [Ledger.eventsFor, hev]
  have hother : ∀ r, e.orderRequestId ≠ r → l.eventsFor r = S.ledger.eventsFor r := by
    intro r hr
    simp [Ledger.eventsFor, hev, hr]
  constructor
  · intro r events hk
    rw [Scene.called_ledger]
    by_cases hr : e.orderRequestId = r
    · subst hr
      simp only [Scene.called_past_self, known, recollect, hnews, if_true,
        Option.map_eq_some_iff] at hk
      obtain ⟨events', hk', rfl⟩ := hk
      rw [hself, h.exact _ events' hk']
    · simp only [Scene.called_past_self, known, recollect, hnews, if_neg hr] at hk
      rw [hother r hr, h.exact r events hk]
  · intro r
    rw [Scene.called_ledger]
    by_cases hr : e.orderRequestId = r
    · subst hr
      rw [hself, types_append]
      exact (histories_grow _ (h.grammar _) _ hnext).1
    · rw [hother r hr]
      exact h.grammar r

variable [Externals]

/-- What a worker that knows the history may append is what comes next in it. -/
theorem next (h : Faithful i S) {e : ExecutionEventRecord} (hmay : MayAppend (S.past i) e) :
    e.eventType ∈ advances (types (S.ledger.eventsFor e.orderRequestId)).getLast?
      ++ resolves (types (S.ledger.eventsFor e.orderRequestId)).getLast? := by
  obtain ⟨events, hk, hor⟩ := hmay.continues
  rw [← h.exact _ events hk]
  rcases hor with ⟨-, hadv, -⟩ | hres
  · exact List.mem_append_left _ hadv
  · exact List.mem_append_right _ hres

/-- **Every call of the worker keeps histories on their life cycles.** -/
theorem call (h : Faithful i S) (hown : Ownership S) (hmay : mayCall (S.past i) c)
    (heff : Effect S.ledger c a l) : Faithful i (S.called i c a l) := by
  cases heff with
  | claimed row hfree =>
      obtain ⟨hblank, -⟩ := hown.blank (Table.lookup_eq_none.mp hfree)
      refine ⟨?_, h.grammar⟩
      intro r events hk
      by_cases hr : row.orderRequestId = r
      · subst hr
        simp only [Scene.called_past_self, known, recollect, executionNews, if_true] at hk
        cases hk
        exact hblank.symm
      · simp only [Scene.called_past_self, known, recollect, executionNews, if_neg hr] at hk
        exact h.exact r events hk
  | appended e hfree hrow => exact h.grow (e := e) (fun _ => rfl) rfl (h.next hmay)
  | repeated e e' hthere hsame =>
      exact absurd (Ledger.mem_types_of_lookup hthere)
        (histories_grow _ (h.grammar _) _ (h.next hmay)).2
  | read r =>
      refine ⟨?_, h.grammar⟩
      intro r' events hk
      by_cases hr : r = r'
      · subst hr
        simp only [Scene.called_past_self, known, recollect, executionNews, if_true] at hk
        cases hk
        rfl
      · simp only [Scene.called_past_self, known, recollect, executionNews, if_neg hr] at hk
        exact h.exact r' events hk
  | committed permitId r now payload hfree hnew hrow =>
      refine h.grow (e := ⟨r, .submissionStarted, now, [], none, some payload⟩)
        (fun _ => rfl) rfl ?_
      obtain ⟨-, events, hk, hlast⟩ := hmay
      simp [← h.exact r events hk, hlast, advances]
  | recommitted permitId r now payload e hfree hthere =>
      exact (hown.not_recommitted hmay hthere).elim
  | refused permitId r now payload a ha =>
      refine h.silent (fun r' => ?_) rfl
      cases a with
      | error e => rfl
      | ok outcome => cases outcome <;> first | exact absurd rfl ha | rfl
  | sent order fate a => exact h.silent (fun _ => rfl) rfl
  | idle c a hidle => exact h.silent hidle.news rfl
  | claimedFlatten row hfree => exact h.silent (fun _ => rfl) rfl
  | appendedFlatten e hfree hrow => exact h.silent (fun _ => rfl) rfl
  | repeatedFlatten e e' hthere hsame => exact h.silent (fun _ => rfl) rfl
  | readFlatten f => exact h.silent (fun _ => rfl) rfl
  | closed instruction a => exact h.silent (fun _ => rfl) rfl

end Faithful

section

variable [Externals]

theorem faithful_reachable {w : World} {s : Config Nat Task World Call Call.Answer PyError}
    {i : Nat} (hev : w.db.executionEvents = []) (hcon : w.db.canaryPermitConsumptions = [])
    (hsends : w.sends = []) (h : ReachUnder (Alone i) w s) : Faithful i (scene s.view) := by
  have hinv := scene_invariant (G := Alone i) (I := fun S => Ownership S ∧ Faithful i S)
    ⟨Ownership.init hev hcon hsends, Faithful.init hev⟩
    (fun _ j hI => ⟨hI.1.reset j, hI.2.reset j⟩)
    (fun _ _ hI hs => ⟨hI.1.settled hs, hI.2.settled⟩) ?_ h
  · exact hinv.1.2
  · intro v j o c a l hI hG hmay heff _
    have hj : j = i := of_decide_eq_true hG
    subst hj
    exact ⟨hI.1.call hmay heff, hI.2.call hI.1 hmay heff⟩

/-- While one worker is alone, the others have done nothing. -/
theorem others_idle {w : World} {s : Config Nat Task World Call Call.Answer PyError} {i j : Nat}
    (h : ReachUnder (Alone i) w s) (hj : j ≠ i) : (scene s.view).past j = [] := by
  refine (scene_invariant (G := Alone i) (I := fun S => S.past j = []) rfl ?_ ?_ ?_ h).1
  · intro S k hI
    rcases S.reset_past (i := k) j with hp | hp
    · exact hp
    · exact hp.trans hI
  · exact fun _ _ hI _ => hI
  · intro v k o c a l hI hG _ _ _
    have hk : k = i := of_decide_eq_true hG
    rw [Scene.called_past_of_ne (hk ▸ hj)]
    exact hI

/--
**One worker keeps every history on a life cycle.** The history of a request is at
every moment a life cycle cut short; no event type is in it twice; and a refusal,
where there is one, is the last event.
-/
theorem history_follows_life_cycle {w : World}
    {s : Config Nat Task World Call Call.Answer PyError} {i : Nat}
    (hev : w.db.executionEvents = []) (hcon : w.db.canaryPermitConsumptions = [])
    (hsends : w.sends = []) (h : ReachUnder (Alone i) w s) (r : Uuid) :
    (∃ word ∈ lifeCycles, types (s.world.db.eventsFor r) <+: word)
      ∧ (types (s.world.db.eventsFor r)).Nodup
      ∧ ∀ t ∈ refusals, t ∈ types (s.world.db.eventsFor r) →
          (types (s.world.db.eventsFor r)).getLast? = some t := by
  have hmem : types (s.world.db.eventsFor r) ∈ histories :=
    (faithful_reachable hev hcon hsends h).grammar r
  exact ⟨mem_histories.mp hmem, histories_nodup _ hmem, histories_refusal _ hmem⟩

end

open Sample in
theorem history_follows_life_cycle_sample :
    ∃ s, ReachUnder (Alone 0) Sample.world s
      ∧ types (s.world.db.eventsFor (orderRequestIdFor intent)) = committedPrefix ++ [.filled]
      ∧ ((∃ word ∈ lifeCycles,
            types (s.world.db.eventsFor (orderRequestIdFor intent)) <+: word)
          ∧ (types (s.world.db.eventsFor (orderRequestIdFor intent))).Nodup
          ∧ ∀ t ∈ refusals, t ∈ types (s.world.db.eventsFor (orderRequestIdFor intent)) →
              (types (s.world.db.eventsFor (orderRequestIdFor intent))).getLast? = some t) := by
  have hrun : (workers.run (fun _ m => m.only 0) (Machine.idle Sample.world)
      (submission ++ served 0 2)).any (fun s => decide (types (s.world.db.eventsFor
        (orderRequestIdFor intent)) = committedPrefix ++ [.filled])) = true := by
    decide +kernel
  obtain ⟨s, hs, hp⟩ := Machine.Reach.exists_of_run (G := Alone 0) _ _ (fun _ _ hm => hm) hrun
  exact ⟨s, hs, of_decide_eq_true hp, history_follows_life_cycle rfl rfl rfl hs _⟩

end Crumblr
