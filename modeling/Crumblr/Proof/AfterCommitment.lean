import Crumblr.Proof.Ownership

/-!
# What follows a commitment

Once a submission is committed, nothing that belongs before the commitment is recorded
any more: a pass that holds the claim knows of the commitment, and everyone else has read
something that comes after it. So the last event of a committed request is the
commitment, a broker's outcome, or what a pass made of these.
-/

namespace Crumblr

/-- The commitment, and the event types that come after it. -/
def late : List ExecutionEventType :=
  [.submissionStarted, .filled, .rejected, .submitted, .ambiguousOutcomeResolved, .reconciled]

/-- A history that has the commitment ends in it or in something after it. -/
def EndsLate (ts : List ExecutionEventType) : Prop :=
  .submissionStarted ∈ ts → ∃ t ∈ late, ts.getLast? = some t

variable {ts : List ExecutionEventType} {t : ExecutionEventType}

theorem EndsLate.nil : EndsLate [] := nofun

theorem EndsLate.grow (h : .submissionStarted ∈ ts → t ∈ late) : EndsLate (ts ++ [t]) := by
  intro hstarted
  refine ⟨t, ?_, List.getLast?_concat⟩
  rcases List.mem_append.mp hstarted with hstarted | hself
  · exact h hstarted
  · rw [← List.mem_singleton.mp hself]
    decide

/-- What may be appended after a late event is late. -/
theorem late_of_advances {l : ExecutionEventType} (hl : l ∈ late) (h : t ∈ advances (some l)) :
    t ∈ late := by
  revert t
  revert l
  decide

theorem late_of_resolved {l : Option ExecutionEventType} (h : t ∈ resolves l) : t ∈ late := by
  unfold resolves at h
  split at h
  all_goals revert t; decide

/-- Only a rejection or a resolution is reconciled. -/
theorem resolves_reconciled {l : Option ExecutionEventType} (h : .reconciled ∈ resolves l) :
    l = some .rejected ∨ l = some .ambiguousOutcomeResolved := by
  unfold resolves at h
  split at h
  · simp at h
  · simp at h
  · exact .inl rfl
  · exact .inr rfl
  · simp at h

theorem not_reconciled_of_advances {l : Option ExecutionEventType}
    (h : .reconciled ∈ advances l) : False := by
  unfold advances at h
  split at h <;> simp at h

/-- **Nothing early follows a commitment.** -/
structure Sealed (S : Scene) : Prop where
  /-- Histories on record. -/
  recorded : ∀ r, EndsLate (types (S.ledger.eventsFor r))
  /-- Histories as passes know them. -/
  known : ∀ i r events, known r (S.past i) = some events → EndsLate (types events)
  /-- A pass that committed knows it. -/
  holder : ∀ i r, holding r (S.past i) = .committed →
    ∃ events, Crumblr.known r (S.past i) = some events ∧ .submissionStarted ∈ types events
  /-- What is reconciled was rejected or resolved. -/
  reconciled : ∀ r, .reconciled ∈ types (S.ledger.eventsFor r) →
    .rejected ∈ types (S.ledger.eventsFor r)
      ∨ .ambiguousOutcomeResolved ∈ types (S.ledger.eventsFor r)

namespace Sealed

variable {S : Scene} {i : Nat} {r : Uuid} {c : Call} {a : Except PyError c.Answer} {l : Ledger}

theorem init {l : Ledger} (hev : l.events = []) : Sealed ⟨l, fun _ => []⟩ where
  recorded := by
    intro r
    simpa [Ledger.eventsFor, hev, types] using EndsLate.nil
  known := by intro i r events h; cases h
  holder := by intro i r h; cases h
  reconciled := by
    intro r h
    simp [Ledger.eventsFor, hev, types] at h

theorem reset (h : Sealed S) (j : Nat) : Sealed (S.reset j) where
  recorded := h.recorded
  known := by
    intro k r events hk
    rcases S.reset_past (i := j) k with hp | hp <;> rw [hp] at hk
    · cases hk
    · exact h.known k r events hk
  holder := by
    intro k r hk
    rcases S.reset_past (i := j) k with hp | hp <;> rw [hp] at hk ⊢
    · cases hk
    · exact h.holder k r hk
  reconciled := h.reconciled

theorem settled {sends : List Send} (h : Sealed S) : Sealed (S.settled sends) :=
  ⟨h.recorded, h.known, h.holder, h.reconciled⟩

/-- A call after which every worker knows and holds what it did, and no event is new. -/
theorem frame (h : Sealed S)
    (hknown : ∀ r events, Crumblr.known r ((S.called i c a l).past i) = some events →
      EndsLate (types events))
    (hheld : ∀ r, holding r ((S.called i c a l).past i) = .committed →
      ∃ events, Crumblr.known r ((S.called i c a l).past i) = some events
        ∧ .submissionStarted ∈ types events)
    (hev : l.events = S.ledger.events) : Sealed (S.called i c a l) where
  recorded := by
    intro r
    rw [Scene.called_ledger, Ledger.eventsFor_congr hev]
    exact h.recorded r
  known := by
    intro j r events hk
    by_cases hj : j = i
    · subst hj
      exact hknown r events hk
    · rw [Scene.called_past_of_ne hj] at hk
      exact h.known j r events hk
  holder := by
    intro j r hk
    by_cases hj : j = i
    · subst hj
      exact hheld r hk
    · rw [Scene.called_past_of_ne hj] at hk ⊢
      exact h.holder j r hk
  reconciled := by
    intro r
    rw [Scene.called_ledger, Ledger.eventsFor_congr hev]
    exact h.reconciled r

/-- A call that tells nothing and commits nothing. -/
theorem silent (h : Sealed S) (hnews : ∀ r, executionNews r ⟨c, a⟩ = .silent)
    (hhold : ∀ r s, holdingAfter r s ⟨c, a⟩ = .committed → s = .committed)
    (hev : l.events = S.ledger.events) : Sealed (S.called i c a l) := by
  refine h.frame (fun r events hk => ?_) (fun r hk => ?_) hev
  · simp only [Scene.called_past_self, Crumblr.known, recollect, hnews] at hk
    exact h.known i r events hk
  · rw [Scene.called_past_self] at hk
    obtain ⟨events, hkn, hmem⟩ := h.holder i r (hhold r _ hk)
    refine ⟨events, ?_, hmem⟩
    simpa only [Scene.called_past_self, Crumblr.known, recollect, hnews] using hkn

variable [Externals]

/-- What may be appended to a committed history is late. -/
theorem may_append (h : Sealed S) (hown : Ownership S) {e : ExecutionEventRecord}
    (hmay : MayAppend (S.past i) e)
    (hstarted : .submissionStarted ∈ types (S.ledger.eventsFor e.orderRequestId)) :
    e.eventType ∈ late := by
  obtain ⟨events, hk, hor⟩ := hmay.continues
  rcases hor with ⟨hheld, hadv, -⟩ | hres
  · have hearly : holding e.orderRequestId (S.past i) = .committed := by
      cases hh : holding e.orderRequestId (S.past i) with
      | none => exact absurd hh hheld
      | committed => rfl
      | owned => exact absurd ((hown.fresh i _ (.inl hh)).2.2.2 _ hstarted) (by decide)
      | refused => exact absurd ((hown.fresh i _ (.inr hh)).2.2.2 _ hstarted) (by decide)
    obtain ⟨events', hk', hmem⟩ := h.holder i _ hearly
    obtain rfl : events = events' := Option.some.inj (hk.symm.trans hk')
    obtain ⟨last, hlate, hlast⟩ := h.known i _ _ hk hmem
    rw [hlast] at hadv
    exact late_of_advances hlate hadv
  · exact late_of_resolved hres

/-- What is recorded as reconciled had been rejected or resolved. -/
theorem may_reconcile (hown : Ownership S) {e : ExecutionEventRecord}
    (hmay : MayAppend (S.past i) e) (htype : e.eventType = .reconciled) :
    .rejected ∈ types (S.ledger.eventsFor e.orderRequestId)
      ∨ .ambiguousOutcomeResolved ∈ types (S.ledger.eventsFor e.orderRequestId) := by
  obtain ⟨events, hk, hor⟩ := hmay.continues
  rw [htype] at hor
  have hthere : ∀ t, (types events).getLast? = some t →
      t ∈ types (S.ledger.eventsFor e.orderRequestId) :=
    fun t ht => hown.remembered i _ _ hk t (List.mem_of_getLast? ht)
  rcases hor with ⟨-, hadv, -⟩ | hres
  · exact (not_reconciled_of_advances hadv).elim
  · exact (resolves_reconciled hres).imp (hthere _) (hthere _)

omit [Externals] in
/-- The pass that makes a history grow knows it grown. -/
theorem grown (h : Sealed S) {e : ExecutionEventRecord}
    (hnews : ∀ r, executionNews r ⟨c, a⟩ = if e.orderRequestId = r then .grew e else .silent)
    (hhold : ∀ r s, holdingAfter r s ⟨c, a⟩ = .committed →
      s = .committed ∨ e.orderRequestId = r ∧ e.eventType = .submissionStarted)
    (hk : ∃ events, Crumblr.known e.orderRequestId (S.past i) = some events
      ∧ (.submissionStarted ∈ types events → e.eventType ∈ late)) :
    (∀ r events, Crumblr.known r ((S.called i c a l).past i) = some events →
        EndsLate (types events))
      ∧ ∀ r, holding r ((S.called i c a l).past i) = .committed →
        ∃ events, Crumblr.known r ((S.called i c a l).past i) = some events
          ∧ .submissionStarted ∈ types events := by
  obtain ⟨known₀, hknown₀, hlate⟩ := hk
  have hself : Crumblr.known e.orderRequestId ((S.called i c a l).past i)
      = some (known₀ ++ [e]) := by
    have hrec : recollect (executionNews e.orderRequestId) (S.past i) = some known₀ := hknown₀
    simp [Crumblr.known, recollect, hnews, hrec]
  have hother : ∀ r, e.orderRequestId ≠ r →
      Crumblr.known r ((S.called i c a l).past i) = Crumblr.known r (S.past i) := by
    intro r hr
    simp [Crumblr.known, recollect, hnews, hr]
  constructor
  · intro r events hkr
    by_cases hr : e.orderRequestId = r
    · subst hr
      rw [hself] at hkr
      cases hkr
      rw [types_append]
      exact EndsLate.grow hlate
    · rw [hother r hr] at hkr
      exact h.known i r events hkr
  · intro r hheld
    rw [Scene.called_past_self] at hheld
    by_cases hr : e.orderRequestId = r
    · subst hr
      refine ⟨_, hself, ?_⟩
      rw [types_append]
      rcases hhold _ _ hheld with hold | ⟨-, htype⟩
      · obtain ⟨events, hk', hmem⟩ := h.holder i _ hold
        obtain rfl : known₀ = events := Option.some.inj (hknown₀.symm.trans hk')
        exact List.mem_append_left _ hmem
      · rw [htype]
        simp
    · rw [hother r hr]
      rcases hhold r _ hheld with hold | ⟨habs, -⟩
      · exact h.holder i r hold
      · exact absurd habs hr

omit [Externals] in
/-- A new event, and what the pass that appended it knows now. -/
theorem append (h : Sealed S) {e : ExecutionEventRecord}
    (hself : (∀ r events, Crumblr.known r ((S.called i c a l).past i) = some events →
        EndsLate (types events))
      ∧ ∀ r, holding r ((S.called i c a l).past i) = .committed →
        ∃ events, Crumblr.known r ((S.called i c a l).past i) = some events
          ∧ .submissionStarted ∈ types events)
    (hev : l.events = S.ledger.events ++ [e])
    (hlate : .submissionStarted ∈ types (S.ledger.eventsFor e.orderRequestId) →
      e.eventType ∈ late)
    (hrec : e.eventType = .reconciled →
      .rejected ∈ types (S.ledger.eventsFor e.orderRequestId)
        ∨ .ambiguousOutcomeResolved ∈ types (S.ledger.eventsFor e.orderRequestId)) :
    Sealed (S.called i c a l) := by
  have hgrown : l.eventsFor e.orderRequestId = S.ledger.eventsFor e.orderRequestId ++ [e] := by
    simp [Ledger.eventsFor, hev]
  have hother : ∀ r, e.orderRequestId ≠ r → l.eventsFor r = S.ledger.eventsFor r := by
    intro r hr
    simp [Ledger.eventsFor, hev, hr]
  refine ⟨fun r => ?_, fun j r events hk => ?_, fun j r hk => ?_, fun r hmem => ?_⟩
  · rw [Scene.called_ledger]
    by_cases hr : e.orderRequestId = r
    · subst hr
      rw [hgrown, types_append]
      exact EndsLate.grow hlate
    · rw [hother r hr]
      exact h.recorded r
  · by_cases hj : j = i
    · subst hj
      exact hself.1 r events hk
    · rw [Scene.called_past_of_ne hj] at hk
      exact h.known j r events hk
  · by_cases hj : j = i
    · subst hj
      exact hself.2 r hk
    · rw [Scene.called_past_of_ne hj] at hk ⊢
      exact h.holder j r hk
  · rw [Scene.called_ledger] at hmem ⊢
    by_cases hr : e.orderRequestId = r
    · subst hr
      rw [hgrown, types_append] at hmem ⊢
      refine (?_ : _ ∨ _).imp (List.mem_append_left _) (List.mem_append_left _)
      rcases List.mem_append.mp hmem with hmem | hmem
      · exact h.reconciled _ hmem
      · exact hrec (List.mem_singleton.mp hmem).symm
    · rw [hother r hr] at hmem ⊢
      exact h.reconciled r hmem

/-- **Every call keeps histories sealed.** -/
theorem call (h : Sealed S) (hown : Ownership S) (hmay : mayCall (S.past i) c)
    (heff : Effect S.ledger c a l) : Sealed (S.called i c a l) := by
  have hknows : ∀ e, MayAppend (S.past i) e →
      ∃ events, Crumblr.known e.orderRequestId (S.past i) = some events
        ∧ (.submissionStarted ∈ types events → e.eventType ∈ late) := by
    intro e hmay
    obtain ⟨events, hk, -⟩ := hmay.continues
    exact ⟨events, hk, fun hmem => h.may_append hown hmay (hown.remembered i _ _ hk _ hmem)⟩
  have hholds : ∀ (e : ExecutionEventRecord) (b : Bool) (r : Uuid) (s : Holding),
      holdingAfter r s ⟨.append e, .ok b⟩ = .committed →
        s = .committed ∨ e.orderRequestId = r ∧ e.eventType = .submissionStarted := by
    intro e b r s hs
    simp only [holdingAfter] at hs
    split at hs
    · rename_i hboth
      exact .inr hboth
    · exact .inl hs
  cases heff with
  | claimed row hfree =>
      refine h.frame (fun r events hk => ?_) (fun r hk => ?_) rfl
      · by_cases hr : row.orderRequestId = r
        · subst hr
          simp only [Scene.called_past_self, Crumblr.known, recollect, executionNews,
            if_true] at hk
          cases hk
          exact EndsLate.nil
        · simp only [Scene.called_past_self, Crumblr.known, recollect, executionNews,
            if_neg hr] at hk
          exact h.known i r events hk
      · by_cases hr : row.orderRequestId = r
        · simp [holding, holdingAfter, hr] at hk
        · simp only [Scene.called_past_self, holding, holdingAfter, if_neg hr] at hk
          obtain ⟨events, hkn, hmem⟩ := h.holder i r hk
          refine ⟨events, ?_, hmem⟩
          simpa only [Scene.called_past_self, Crumblr.known, recollect, executionNews,
            if_neg hr] using hkn
  | appended e hfree hrow =>
      refine h.append (e := e) (h.grown (fun _ => rfl) (hholds e true) (hknows e hmay)) rfl
        (h.may_append hown hmay) (may_reconcile hown hmay)
  | repeated e e' hthere hsame =>
      obtain ⟨hknown, hheld⟩ := h.grown (l := S.ledger) (fun _ => rfl) (hholds e false)
        (hknows e hmay)
      exact h.frame hknown hheld rfl
  | read r =>
      refine h.frame (fun r' events hk => ?_) (fun r' hk => ?_) rfl
      · by_cases hr : r = r'
        · subst hr
          simp only [Scene.called_past_self, Crumblr.known, recollect, executionNews,
            if_true] at hk
          cases hk
          exact h.recorded r
        · simp only [Scene.called_past_self, Crumblr.known, recollect, executionNews,
            if_neg hr] at hk
          exact h.known i r' events hk
      · have hk' : holding r' (S.past i) = .committed := by
          simpa [holding, holdingAfter] using hk
        obtain ⟨events, hkn, hmem⟩ := h.holder i r' hk'
        by_cases hr : r = r'
        · subst hr
          refine ⟨S.ledger.eventsFor r, ?_, hown.remembered i r _ hkn _ hmem⟩
          simp [Crumblr.known, recollect, executionNews]
        · refine ⟨events, ?_, hmem⟩
          simpa only [Scene.called_past_self, Crumblr.known, recollect, executionNews,
            if_neg hr] using hkn
  | committed permitId r now payload hfree hnew hrow =>
      obtain ⟨-, events, hk, -⟩ := hmay
      have hlate : ExecutionEventType.submissionStarted ∈ late := by decide
      refine h.append (e := ⟨r, .submissionStarted, now, [], none, some payload⟩)
        (h.grown (e := ⟨r, .submissionStarted, now, [], none, some payload⟩) (fun _ => rfl)
          (fun r' s hs => ?_) ⟨events, hk, fun _ => hlate⟩) rfl (fun _ => hlate)
          (fun h => by cases h)
      simp only [holdingAfter] at hs
      split at hs
      · rename_i hr
        exact .inr ⟨hr, rfl⟩
      · exact .inl hs
  | recommitted permitId r now payload e hfree hthere =>
      exact (hown.not_recommitted hmay hthere).elim
  | refused permitId r now payload a ha =>
      refine h.silent (fun r' => ?_) (fun r' s hs => ?_) rfl
      · cases a with
        | error e => rfl
        | ok outcome => cases outcome <;> first | exact absurd rfl ha | rfl
      · have hafter : holdingAfter r' s ⟨.consumeAndStart permitId r now payload, a⟩
            = if r = r' then .refused else s := by
          cases a with
          | error e => rfl
          | ok outcome => cases outcome <;> first | exact absurd rfl ha | rfl
        rw [hafter] at hs
        split at hs
        · cases hs
        · exact hs
  | sent order fate a => exact h.silent (fun _ => rfl) (fun _ _ hs => hs) rfl
  | idle c a hidle => exact h.silent hidle.news (fun r s hs => hidle.holding r s ▸ hs) rfl
  | claimedFlatten row hfree => exact h.silent (fun _ => rfl) (fun _ _ hs => hs) rfl
  | appendedFlatten e hfree hrow => exact h.silent (fun _ => rfl) (fun _ _ hs => hs) rfl
  | repeatedFlatten e e' hthere hsame => exact h.silent (fun _ => rfl) (fun _ _ hs => hs) rfl
  | readFlatten f => exact h.silent (fun _ => rfl) (fun _ _ hs => hs) rfl
  | closed instruction a => exact h.silent (fun _ => rfl) (fun _ _ hs => hs) rfl

end Sealed

/-- Every reachable state is sealed. -/
theorem sealed_reachable [Externals] {w : World}
    {s : Config Nat Task World Call Call.Answer PyError} {G : Guard}
    (hev : w.db.executionEvents = []) (hcon : w.db.canaryPermitConsumptions = [])
    (hsends : w.sends = []) (h : ReachUnder G w s) :
    Ownership (scene s.view) ∧ Sealed (scene s.view) := by
  refine (scene_invariant (G := G) (I := fun S => Ownership S ∧ Sealed S)
    ⟨Ownership.init hev hcon hsends, Sealed.init hev⟩
    (fun _ j hI => ⟨hI.1.reset j, hI.2.reset j⟩)
    (fun _ _ hI hs => ⟨hI.1.settled hs, hI.2.settled⟩) ?_ h).1
  intro v j o c a l hI _ hmay heff _
  exact ⟨hI.1.call hmay heff, hI.2.call hI.1 hmay heff⟩

end Crumblr
