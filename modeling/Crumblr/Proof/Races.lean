import Crumblr.Proof.Ownership

/-!
# Histories in a race

A pass appends what comes next in a history as it read it. Meanwhile others may have added to
the history, so that what it appends need not come next in the history as it is. Two things
still hold of what workers leave that race each other.

The owner of a claim is alone until it has committed, and only it hears the broker's answer.
So what it records comes next in whatever order things happen, and what is recorded by
resolving its answer comes after it. Out of turn come only the events by which whoever looked
at the broker afterwards says what it saw: what a recovery found, and that a book was accounted
for. Without these, a history is on its life cycle in every race.

An occurrence is committed by the pass that won its claim, and settled by one event. So it is
on its life cycle in every race.
-/

namespace Crumblr

/-! ## Out of turn -/

/-- What is recorded by looking at the broker afterwards. -/
def hindsight : List ExecutionEventType := [.ambiguousOutcomeResolved, .reconciled]

/-- What the broker's answer to an order is recorded as. -/
def brokerAnswers : List ExecutionEventType := [.filled, .rejected, .submitted]

/-- What follows a commitment on some life cycle, but for what is recorded in hindsight. -/
def outcomes : List (List ExecutionEventType) :=
  [[], [.filled], [.rejected], [.submitted], [.submitted, .filled]]

/-- The history without what was recorded in hindsight. -/
def inTurn (ts : List ExecutionEventType) : List ExecutionEventType :=
  ts.filter fun t => t ∉ hindsight

/-- What follows a commitment in a race. -/
structure Aftermath (rest : List ExecutionEventType) : Prop where
  nodup : rest.Nodup
  /-- In turn is what the broker answered, and what that was resolved to. -/
  outcome : inTurn rest ∈ outcomes
  /-- What is reconciled had been rejected or recovered. -/
  reconciled : ∀ before, before ++ [.reconciled] <+: rest →
    .rejected ∈ before ∨ .ambiguousOutcomeResolved ∈ before

/-- A history as workers leave it that race each other. -/
structure Raced (ts : List ExecutionEventType) : Prop where
  /-- Before the commitment nothing is out of turn. -/
  before : .submissionStarted ∉ ts → ts ∈ histories ∧ ∀ t ∈ ts, t ∈ early
  after : .submissionStarted ∈ ts → ∃ rest, ts = committedPrefix ++ rest ∧ Aftermath rest

variable {ts rest : List ExecutionEventType} {t : ExecutionEventType}

theorem inTurn_append (ts ts' : List ExecutionEventType) :
    inTurn (ts ++ ts') = inTurn ts ++ inTurn ts' := List.filter_append ..

theorem mem_inTurn : t ∈ inTurn ts ↔ t ∈ ts ∧ t ∉ hindsight := by
  simp [inTurn]

theorem inTurn_eq_self (h : ∀ t ∈ ts, t ∉ hindsight) : inTurn ts = ts :=
  List.filter_eq_self.mpr fun t ht => decide_eq_true (h t ht)

theorem hindsight_late : ∀ t ∈ hindsight, t ∉ early := by decide

theorem outcomes_late : ∀ ts ∈ outcomes, ∀ t ∈ ts, t ∉ early := by decide +kernel

/-- Where the broker's answer is not on record, it comes next. -/
theorem outcomes_answer : ∀ ts ∈ outcomes, (∀ t ∈ brokerAnswers, t ∉ ts) →
    ∀ t ∈ brokerAnswers, ts ++ [t] ∈ outcomes := by
  decide +kernel

/-- A resting order is filled once. -/
theorem outcomes_fill : ∀ ts ∈ outcomes, .submitted ∈ ts → .filled ∉ ts →
    ts ++ [.filled] ∈ outcomes := by
  decide +kernel

/-- A rejection is the only answer. -/
theorem outcomes_rejected : ∀ ts ∈ outcomes, .rejected ∈ ts → ts = [.rejected] := by
  decide +kernel

theorem outcomes_histories : ∀ ts ∈ outcomes, committedPrefix ++ ts ∈ histories := by
  decide +kernel

/-- Whoever commits comes from the submission gate. -/
theorem committed_of_early : ∀ ts ∈ histories, (∀ t ∈ ts, t ∈ early) →
    .submissionStarted ∈ advances ts.getLast? → ts ++ [.submissionStarted] = committedPrefix := by
  decide +kernel

namespace Aftermath

theorem nil : Aftermath [] where
  nodup := List.nodup_nil
  outcome := by decide
  reconciled := by
    intro before h
    exact absurd (List.prefix_nil.mp h) (by simp)

/-- Nothing after a commitment could have come before it. -/
theorem late (h : Aftermath rest) (ht : t ∈ rest) : t ∉ early := by
  by_cases hhind : t ∈ hindsight
  · exact hindsight_late t hhind
  · exact outcomes_late _ h.outcome _ (mem_inTurn.mpr ⟨ht, hhind⟩)

/-- One more event, in turn or in hindsight. -/
theorem append (h : Aftermath rest) (hfree : t ∉ rest)
    (hturn : inTurn rest ++ inTurn [t] ∈ outcomes)
    (hafter : t = .reconciled → .rejected ∈ rest ∨ .ambiguousOutcomeResolved ∈ rest) :
    Aftermath (rest ++ [t]) where
  nodup := by
    refine List.nodup_append.mpr ⟨h.nodup, List.nodup_singleton t, ?_⟩
    rintro u hu v hv rfl
    exact hfree (List.mem_singleton.mp hv ▸ hu)
  outcome := by
    rw [inTurn_append]
    exact hturn
  reconciled := by
    intro before hb
    rcases List.prefix_concat_iff.mp hb with heq | hb
    · obtain ⟨rfl, hlast⟩ := List.append_inj' heq rfl
      exact hafter (List.cons.inj hlast).1.symm
    · exact h.reconciled before hb

theorem hindsighted (h : Aftermath rest) (hfree : t ∉ rest) (ht : t ∈ hindsight)
    (hafter : t = .reconciled → .rejected ∈ rest ∨ .ambiguousOutcomeResolved ∈ rest) :
    Aftermath (rest ++ [t]) := by
  refine h.append hfree ?_ hafter
  have hnone : inTurn [t] = [] := by simp [inTurn, ht]
  rw [hnone, List.append_nil]
  exact h.outcome

/-- The broker's answer is recorded where none is. -/
theorem answered (h : Aftermath rest) (hnone : ∀ t ∈ brokerAnswers, t ∉ rest)
    (ht : t ∈ brokerAnswers) : Aftermath (rest ++ [t]) := by
  have hself : inTurn [t] = [t] := by
    revert ht
    revert t
    decide
  refine h.append (hnone t ht) ?_ ?_
  · rw [hself]
    exact outcomes_answer _ h.outcome (fun u hu hmem => hnone u hu (mem_inTurn.mp hmem).1) t ht
  · rintro rfl
    exact absurd ht (by decide)

/-- A resting order turns out to be filled. -/
theorem filled (h : Aftermath rest) (hsubmitted : .submitted ∈ rest) (hfree : .filled ∉ rest) :
    Aftermath (rest ++ [.filled]) := by
  refine h.append hfree ?_ (fun h => by cases h)
  exact outcomes_fill _ h.outcome (mem_inTurn.mpr ⟨hsubmitted, by decide⟩)
    (fun hmem => hfree (mem_inTurn.mp hmem).1)

/-- Only a recovery lets a history leave its life cycle. -/
theorem history (h : Aftermath rest) (hrecovered : .ambiguousOutcomeResolved ∉ rest) :
    committedPrefix ++ rest ∈ histories := by
  by_cases hreconciled : .reconciled ∈ rest
  · -- what is reconciled was rejected, and nothing else happened
    obtain ⟨before, after, rfl⟩ := List.append_of_mem hreconciled
    have hsplit : before ++ [.reconciled] <+: before ++ .reconciled :: after :=
      ⟨after, by simp⟩
    have hbefore : .rejected ∈ before := by
      rcases h.reconciled before hsplit with hr | hr
      · exact hr
      · exact absurd (List.mem_append_left _ hr) hrecovered
    have hnodup := (List.perm_middle.nodup_iff).mp h.nodup
    have hself : inTurn (before ++ after) = before ++ after := by
      refine inTurn_eq_self fun t ht hhind => ?_
      simp only [hindsight, List.mem_cons, List.not_mem_nil, or_false] at hhind
      rcases hhind with rfl | rfl
      · exact hrecovered (List.mem_append.mpr ((List.mem_append.mp ht).imp_right
          (List.mem_cons_of_mem _)))
      · exact (List.nodup_cons.mp hnodup).1 ht
    have hturn : inTurn (before ++ .reconciled :: after) = before ++ after := by
      rw [← hself, inTurn_append, inTurn_append]
      rfl
    have honly := outcomes_rejected _ h.outcome
      (hturn ▸ List.mem_append_left _ hbefore)
    rw [hturn] at honly
    rcases List.append_eq_singleton_iff.mp honly with ⟨rfl, -⟩ | ⟨rfl, rfl⟩
    · cases hbefore
    · decide
  · have hself : inTurn rest = rest := by
      refine inTurn_eq_self fun t ht hhind => ?_
      simp only [hindsight, List.mem_cons, List.not_mem_nil, or_false] at hhind
      rcases hhind with rfl | rfl
      · exact hrecovered ht
      · exact hreconciled ht
    rw [← hself]
    exact outcomes_histories _ h.outcome

end Aftermath

/-- The commitment itself comes once. -/
theorem Aftermath.not_started (h : Aftermath rest) : .submissionStarted ∉ rest := by
  intro hmem
  have hnone : ∀ ts ∈ outcomes, .submissionStarted ∉ ts := by decide
  exact hnone _ h.outcome (mem_inTurn.mpr ⟨hmem, by decide⟩)

namespace Raced

theorem of_early (hhist : ts ∈ histories) (hearly : ∀ t ∈ ts, t ∈ early) : Raced ts where
  before := fun _ => ⟨hhist, hearly⟩
  after := fun h => absurd (hearly _ h) (by decide)

/-- The owner commits where nobody else has been. -/
theorem committed (hhist : ts ∈ histories) (hearly : ∀ t ∈ ts, t ∈ early)
    (hnext : .submissionStarted ∈ advances ts.getLast?) : Raced (ts ++ [.submissionStarted]) where
  before := fun h => absurd (List.mem_append_right _ (List.mem_singleton_self _)) h
  after := fun _ => ⟨[], by rw [committed_of_early _ hhist hearly hnext]; rfl, Aftermath.nil⟩

/-- After a commitment, a history goes on as its aftermath does. -/
theorem concat (h : Raced ts) (hstarted : .submissionStarted ∈ ts)
    (hnext : ∀ rest, ts = committedPrefix ++ rest → Aftermath rest → Aftermath (rest ++ [t])) :
    Raced (ts ++ [t]) where
  before := fun hnone => absurd (List.mem_append_left _ hstarted) hnone
  after := by
    intro _
    obtain ⟨rest, hrest, hafter⟩ := h.after hstarted
    refine ⟨rest ++ [t], ?_, hnext rest hrest hafter⟩
    rw [hrest, List.append_assoc]

/-- **Without what was recorded in hindsight, a history is on its life cycle.** -/
theorem inTurn_mem (h : Raced ts) : inTurn ts ∈ histories := by
  by_cases hstarted : .submissionStarted ∈ ts
  · obtain ⟨rest, rfl, hafter⟩ := h.after hstarted
    rw [inTurn_append]
    exact outcomes_histories _ hafter.outcome
  · obtain ⟨hhist, hearly⟩ := h.before hstarted
    rw [inTurn_eq_self fun t ht hhind => hindsight_late t hhind (hearly t ht)]
    exact hhist

/-- **Without a recovery, all of it is.** -/
theorem mem_histories (h : Raced ts) (hrecovered : .ambiguousOutcomeResolved ∉ ts) :
    ts ∈ histories := by
  by_cases hstarted : .submissionStarted ∈ ts
  · obtain ⟨rest, rfl, hafter⟩ := h.after hstarted
    exact hafter.history fun hmem => hrecovered (List.mem_append_right _ hmem)
  · exact (h.before hstarted).1

/-- What is recorded in hindsight is of a submission that was committed. -/
theorem hindsighted (h : Raced ts) (ht : t ∈ hindsight) (hmem : t ∈ ts) :
    committedPrefix <+: ts := by
  by_cases hstarted : .submissionStarted ∈ ts
  · obtain ⟨rest, rfl, -⟩ := h.after hstarted
    exact List.prefix_append ..
  · exact absurd ((h.before hstarted).2 t hmem) (hindsight_late t ht)

/-- What is reconciled had been rejected or recovered. -/
theorem reconciled (h : Raced ts) {before : List ExecutionEventType}
    (hp : before ++ [.reconciled] <+: ts) :
    .rejected ∈ before ∨ .ambiguousOutcomeResolved ∈ before := by
  have hmem : .reconciled ∈ ts := hp.subset (List.mem_append_right _ (List.mem_singleton_self _))
  have hstarted : .submissionStarted ∈ ts := by
    by_contra hnone
    exact hindsight_late .reconciled (by decide) ((h.before hnone).2 _ hmem)
  obtain ⟨rest, rfl, hafter⟩ := h.after hstarted
  have hnone : .reconciled ∉ committedPrefix := by decide
  rcases List.prefix_or_prefix_of_prefix hp (List.prefix_append committedPrefix rest) with
    hshort | ⟨middle, hlong⟩
  · exact absurd (hshort.subset (List.mem_append_right _ (List.mem_singleton_self _))) hnone
  · -- the reconciliation is among what followed the commitment
    rcases List.eq_nil_or_concat middle with rfl | ⟨between, t, rfl⟩
    · rw [List.append_nil] at hlong
      exact absurd (hlong ▸ List.mem_append_right _ (List.mem_singleton_self _)) hnone
    · rw [List.concat_eq_append, ← List.append_assoc] at hlong
      obtain ⟨rfl, hlast⟩ := List.append_inj' hlong rfl
      cases hlast
      rw [List.append_assoc, List.prefix_append_right_inj] at hp
      exact (hafter.reconciled between hp).imp (List.mem_append_right _) (List.mem_append_right _)

end Raced

/-! ## Races for a request -/

/-- A history as the owner of its commitment knows it: it ends after the commitment, or with it
and then nobody has recorded what the broker answered. -/
def Awaits (ts : List ExecutionEventType) (last : Option ExecutionEventType) : Prop :=
  ∃ t, last = some t ∧ t ∉ early ∧ (t = .submissionStarted → ∀ u ∈ brokerAnswers, u ∉ ts)

/-- Who reads a history after a commitment knows it so. -/
theorem Raced.awaits (h : Raced ts) (hstarted : .submissionStarted ∈ ts) :
    Awaits ts ts.getLast? := by
  obtain ⟨rest, rfl, hafter⟩ := h.after hstarted
  rw [List.getLast?_append]
  cases hlast : rest.getLast? with
  | none =>
      obtain rfl := List.getLast?_eq_none_iff.mp hlast
      exact ⟨.submissionStarted, rfl, by decide, fun _ => by decide⟩
  | some t =>
      have hmem := List.mem_of_getLast? hlast
      refine ⟨t, rfl, hafter.late hmem, ?_⟩
      rintro rfl
      exact absurd hmem hafter.not_started

/-- Whoever has committed advances by what the broker answered. -/
theorem answer_of_advances {u : ExecutionEventType} (ht : t ∉ early)
    (h : u ∈ advances (some t)) : t = .submissionStarted ∧ u ∈ brokerAnswers := by
  cases t with
  | submissionStarted => exact ⟨rfl, h⟩
  | requestClaimed | finalRiskPassed | orderChecked | submissionGatePassed =>
      exact absurd (by decide) ht
  | _ => cases h

/-- What can be resolved, and to what. -/
theorem resolves_cases {u : ExecutionEventType} (h : u ∈ resolves (some t)) :
    u = .ambiguousOutcomeResolved ∨ (u = .filled ∧ t = .submitted)
      ∨ u = .reconciled ∧ (t = .rejected ∨ t = .ambiguousOutcomeResolved) := by
  cases t with
  | submissionStarted => exact .inl (List.mem_singleton.mp h)
  | submitted =>
      rcases List.mem_pair.mp h with rfl | rfl
      · exact .inr (.inl ⟨rfl, rfl⟩)
      · exact .inl rfl
  | rejected => exact .inr (.inr ⟨List.mem_singleton.mp h, .inl rfl⟩)
  | ambiguousOutcomeResolved => exact .inr (.inr ⟨List.mem_singleton.mp h, .inr rfl⟩)
  | _ => cases h

/-- **Histories that workers race for.** -/
structure Racing (S : Scene) : Prop where
  raced : ∀ r, Raced (types (S.ledger.eventsFor r))
  /-- A commitment that is held is on record. -/
  begun : ∀ i r, holding r (S.past i) = .committed →
    .submissionStarted ∈ types (S.ledger.eventsFor r)
  /-- Only who holds it has heard the broker's answer. -/
  awaits : ∀ i r events, holding r (S.past i) = .committed → known r (S.past i) = some events →
    Awaits (types (S.ledger.eventsFor r)) (types events).getLast?

namespace Racing

variable {S : Scene} {i : Nat} {c : Call} {a : Except PyError c.Answer} {l : Ledger}

theorem init {l : Ledger} (hev : l.events = []) : Racing ⟨l, fun _ => []⟩ where
  raced := by
    intro r
    simp only [Ledger.eventsFor, hev, List.filter_nil]
    exact .of_early nil_mem_histories (by simp [types])
  begun := by intro i r h; cases h
  awaits := by intro i r events h; cases h

theorem reset (h : Racing S) (j : Nat) : Racing (S.reset j) where
  raced := h.raced
  begun := by
    intro i r hi
    rcases S.reset_past (i := j) i with hp | hp <;> rw [hp] at hi
    · cases hi
    · exact h.begun i r hi
  awaits := by
    intro i r events hi hk
    rcases S.reset_past (i := j) i with hp | hp <;> rw [hp] at hi hk
    · cases hi
    · exact h.awaits i r events hi hk

theorem settled {sends : List Send} (h : Racing S) : Racing (S.settled sends) :=
  ⟨h.raced, h.begun, h.awaits⟩

/-- A call that records nothing and leaves what the holder of a commitment knows. -/
theorem frame (h : Racing S) (hev : l.events = S.ledger.events)
    (hheld : ∀ r, holding r (⟨c, a⟩ :: S.past i) = .committed →
      holding r (S.past i) = .committed ∧ executionNews r ⟨c, a⟩ = .silent) :
    Racing (S.called i c a l) where
  raced := by
    intro r
    rw [Scene.called_ledger, Ledger.eventsFor_congr hev]
    exact h.raced r
  begun := by
    intro j r hj
    rw [Scene.called_ledger, Ledger.eventsFor_congr hev]
    by_cases hji : j = i
    · subst hji
      rw [Scene.called_past_self] at hj
      exact h.begun j r (hheld r hj).1
    · rw [Scene.called_past_of_ne hji] at hj
      exact h.begun j r hj
  awaits := by
    intro j r events hj hk
    rw [Scene.called_ledger, Ledger.eventsFor_congr hev]
    by_cases hji : j = i
    · subst hji
      rw [Scene.called_past_self] at hj hk
      obtain ⟨hbefore, hsilent⟩ := hheld r hj
      simp only [known, recollect, hsilent] at hk
      exact h.awaits j r events hbefore hk
    · rw [Scene.called_past_of_ne hji] at hj hk
      exact h.awaits j r events hj hk

/-- Who holds a request and has not committed is still its owner, or was refused. -/
theorem fresh_of_held {r : Uuid} {past : Past} (hheld : holding r past ≠ .none)
    (hcommitted : holding r past ≠ .committed) :
    holding r past = .owned ∨ holding r past = .refused := by
  cases hhold : holding r past with
  | none => exact absurd hhold hheld
  | owned => exact .inl rfl
  | committed => exact absurd hhold hcommitted
  | refused => exact .inr rfl

variable [Externals]

/-- **What a worker may append, and is not on record, goes on with the race.** -/
theorem next (h : Racing S) (hown : Ownership S) {e : ExecutionEventRecord}
    (hmay : MayAppend (S.past i) e)
    (hfree : e.eventType ∉ types (S.ledger.eventsFor e.orderRequestId)) :
    Raced (types (S.ledger.eventsFor e.orderRequestId) ++ [e.eventType]) := by
  obtain ⟨events, hk, ⟨hheld, hadv, -⟩ | hres⟩ := hmay.continues
  · by_cases hcommitted : holding e.orderRequestId (S.past i) = .committed
    · -- what it knows ends with its commitment, so nobody has recorded an answer
      obtain ⟨t, hlast, hlate, hnone⟩ := h.awaits i _ events hcommitted hk
      rw [hlast] at hadv
      obtain ⟨rfl, hanswer⟩ := answer_of_advances hlate hadv
      refine (h.raced _).concat (h.begun i _ hcommitted) fun rest hrest hafter => ?_
      refine hafter.answered (fun u hu hmem => ?_) hanswer
      exact hnone rfl u hu (hrest ▸ List.mem_append_right _ hmem)
    · -- until it commits, the owner alone adds to the history
      have hfresh := fresh_of_held hheld hcommitted
      obtain ⟨-, -, hhist, hearly⟩ := hown.fresh i _ hfresh
      obtain ⟨-, -, hadv, -⟩ := hown.owner_appends hmay hfresh
      by_cases hstarted : e.eventType = .submissionStarted
      · rw [hstarted] at hadv ⊢
        exact .committed hhist hearly hadv
      · refine .of_early (histories_grow _ hhist _ (List.mem_append_left _ hadv)).1 ?_
        intro t ht
        rcases List.mem_append.mp ht with ht | ht
        · exact hearly t ht
        · rw [List.mem_singleton.mp ht]
          exact early_advances _ hhist hearly _ hadv hstarted
  · -- what is resolved was read at some time and is still there, whatever came after it
    obtain ⟨t, hlast, hlate⟩ := late_of_resolves hres
    have hmem := hown.remembered i _ events hk t (List.mem_of_getLast? hlast)
    have hstarted : .submissionStarted ∈ types (S.ledger.eventsFor e.orderRequestId) := by
      by_contra hnone
      exact hlate (((h.raced _).before hnone).2 t hmem)
    refine (h.raced _).concat hstarted fun rest hrest hafter => ?_
    have hfree' : e.eventType ∉ rest := fun hr => hfree (hrest ▸ List.mem_append_right _ hr)
    have hrest_of : t ≠ .submissionStarted → t ∈ rest := by
      intro hne
      rw [hrest] at hmem
      rcases List.mem_append.mp hmem with hp | hr
      · have hnot : ∀ t ∈ committedPrefix, t ∉ early → t = .submissionStarted := by decide
        exact absurd (hnot t hp hlate) hne
      · exact hr
    rw [hlast] at hres
    rcases resolves_cases hres with htype | ⟨htype, rfl⟩ | ⟨htype, hor⟩ <;> rw [htype] at hfree' ⊢
    · exact hafter.hindsighted hfree' (by decide) (fun h => by cases h)
    · exact hafter.filled (hrest_of (by decide)) hfree'
    · refine hafter.hindsighted hfree' (by decide) fun _ => ?_
      rcases hor with rfl | rfl
      · exact .inl (hrest_of (by decide))
      · exact .inr (hrest_of (by decide))

/-- What is appended though it's on record was resolved from what another had recorded. -/
theorem resolves_of_recorded (h : Racing S) (hown : Ownership S) {e : ExecutionEventRecord}
    (hmay : MayAppend (S.past i) e)
    (hmem : e.eventType ∈ types (S.ledger.eventsFor e.orderRequestId)) :
    ∃ t ∈ types (S.ledger.eventsFor e.orderRequestId), e.eventType ∈ resolves (some t) := by
  obtain ⟨events, hk, ⟨hheld, hadv, -⟩ | hres⟩ := hmay.continues
  · exfalso
    by_cases hcommitted : holding e.orderRequestId (S.past i) = .committed
    · obtain ⟨t, hlast, hlate, hnone⟩ := h.awaits i _ events hcommitted hk
      rw [hlast] at hadv
      obtain ⟨rfl, hanswer⟩ := answer_of_advances hlate hadv
      exact hnone rfl _ hanswer hmem
    · have hfresh := fresh_of_held hheld hcommitted
      obtain ⟨-, -, hhist, -⟩ := hown.fresh i _ hfresh
      obtain ⟨-, -, hadv, -⟩ := hown.owner_appends hmay hfresh
      exact (histories_grow _ hhist _ (List.mem_append_left _ hadv)).2 hmem
  · obtain ⟨t, hlast, -⟩ := late_of_resolves hres
    rw [hlast] at hres
    exact ⟨t, hown.remembered i _ events hk t (List.mem_of_getLast? hlast), hres⟩

/-- Whoever appends, appends to a request on record. -/
theorem requested (hown : Ownership S) {e : ExecutionEventRecord} (hmay : MayAppend (S.past i) e) :
    ∃ row ∈ S.ledger.requests, row.orderRequestId = e.orderRequestId := by
  obtain ⟨events, hk, ⟨hheld, -⟩ | hres⟩ := hmay.continues
  · exact hown.claimed i _ hheld
  · obtain ⟨t, hlast, -⟩ := late_of_resolves hres
    obtain ⟨e', he', hkey⟩ := Ledger.mem_types_eventsFor.mp
      (hown.remembered i _ events hk t (List.mem_of_getLast? hlast))
    obtain ⟨row, hrow, hid⟩ := hown.refs e' he'
    exact ⟨row, hrow, hid.trans (congrArg Prod.fst hkey)⟩

/-- What the holder of a commitment has appended last is the commitment, or came after it. -/
theorem own (h : Racing S) (hown : Ownership S) {e : ExecutionEventRecord} {b : Bool}
    (hmay : MayAppend (S.past i) e)
    (hheld : holding e.orderRequestId (⟨.append e, .ok b⟩ :: S.past i) = .committed) :
    e.eventType ∉ early ∧ (e.eventType = .submissionStarted →
      ∀ u ∈ brokerAnswers, u ∉ types (S.ledger.eventsFor e.orderRequestId)) := by
  obtain ⟨events, hk, hor⟩ := hmay.continues
  by_cases hstarted : e.eventType = .submissionStarted
  · refine ⟨by rw [hstarted]; decide, fun _ u hu hmem => ?_⟩
    rcases hor with ⟨-, -, howned⟩ | hres
    · obtain ⟨-, -, -, hearly⟩ := hown.fresh i _ (.inl (howned hstarted))
      have hlate : ∀ u ∈ brokerAnswers, u ∉ early := by decide
      exact hlate u hu (hearly u hmem)
    · exact not_started_of_resolves (hstarted ▸ hres)
  · have hcommitted : holding e.orderRequestId (S.past i) = .committed := by
      simpa [holding, holdingAfter, hstarted] using hheld
    refine ⟨?_, fun heq => absurd heq hstarted⟩
    obtain ⟨t, hlast, hlate, -⟩ := h.awaits i _ events hcommitted hk
    rw [hlast] at hor
    rcases hor with ⟨-, hadv, -⟩ | hres
    · have hanswers : ∀ u ∈ brokerAnswers, u ∉ early := by decide
      exact hanswers _ (answer_of_advances hlate hadv).2
    · rcases resolves_cases hres with htype | ⟨htype, -⟩ | ⟨htype, -⟩ <;> rw [htype] <;> decide

/-- What others hold is not disturbed by an append. -/
theorem undisturbed (h : Racing S) (hown : Ownership S) {e : ExecutionEventRecord} {j : Nat}
    (hmay : MayAppend (S.past i) e) (hj : j ≠ i) {events : List ExecutionEventRecord}
    (hheld : holding e.orderRequestId (S.past j) = .committed)
    (hk : known e.orderRequestId (S.past j) = some events) :
    Awaits (types (S.ledger.eventsFor e.orderRequestId) ++ [e.eventType])
      (types events).getLast? := by
  obtain ⟨t, hlast, hlate, hnone⟩ := h.awaits j _ events hheld hk
  refine ⟨t, hlast, hlate, fun ht u hu hmem => ?_⟩
  rcases List.mem_append.mp hmem with hold | hnew
  · exact hnone ht u hu hold
  · -- only the holder hears the answer, and a resting order's fill comes after it
    obtain rfl := List.mem_singleton.mp hnew
    obtain ⟨events', hk', ⟨hheld', -⟩ | hres⟩ := hmay.continues
    · exact hj (hown.unique j i _ (by simp [hheld]) hheld')
    · obtain ⟨t', hlast', -⟩ := late_of_resolves hres
      rw [hlast'] at hres
      rcases resolves_cases hres with htype | ⟨-, rfl⟩ | ⟨htype, -⟩
      · rw [htype] at hu
        exact absurd hu (by decide)
      · exact hnone ht _ (by decide)
          (hown.remembered i _ events' hk' _ (List.mem_of_getLast? hlast'))
      · rw [htype] at hu
        exact absurd hu (by decide)

theorem append (h : Racing S) (hown : Ownership S) {e : ExecutionEventRecord}
    (hmay : MayAppend (S.past i) e)
    (hfree : e.eventType ∉ types (S.ledger.eventsFor e.orderRequestId)) :
    Racing (S.called i (.append e) (.ok true)
      { S.ledger with events := S.ledger.events ++ [e] }) := by
  have hself : types (({ S.ledger with events := S.ledger.events ++ [e] } : Ledger).eventsFor
      e.orderRequestId) = types (S.ledger.eventsFor e.orderRequestId) ++ [e.eventType] := by
    rw [Ledger.eventsFor_append_self (l := S.ledger) rfl, types_append]
  exact {
    raced := by
      intro r
      rw [Scene.called_ledger]
      by_cases hr : e.orderRequestId = r
      · subst hr
        rw [hself]
        exact h.next hown hmay hfree
      · rw [Ledger.eventsFor_append_of_ne (l := S.ledger) hr]
        exact h.raced r
    begun := by
      intro j r hj
      rw [Scene.called_ledger]
      by_cases hr : e.orderRequestId ≠ r ∨ j ≠ i
      · rw [(Ownership.appended_past j r hr).1] at hj
        exact Ledger.types_eventsFor_mono (l := S.ledger) (List.subset_append_left ..)
          (h.begun j r hj)
      · simp only [not_or, Decidable.not_not] at hr
        obtain ⟨rfl, rfl⟩ := hr
        rw [Scene.called_past_self] at hj
        rw [hself]
        by_cases hstarted : e.eventType = .submissionStarted
        · exact List.mem_append_right _ (List.mem_singleton.mpr hstarted.symm)
        · have hcommitted : holding e.orderRequestId (S.past j) = .committed := by
            simpa [holding, holdingAfter, hstarted] using hj
          exact List.mem_append_left _ (h.begun j _ hcommitted)
    awaits := by
      intro j r events hj hk
      rw [Scene.called_ledger]
      by_cases hr : e.orderRequestId = r
      · subst hr
        rw [hself]
        by_cases hji : j = i
        · -- what the worker knows now ends with its own event
          subst hji
          rw [Scene.called_past_self] at hj hk
          obtain ⟨hlate, hnone⟩ := h.own hown hmay hj
          obtain ⟨events', -, rfl⟩ := Option.map_eq_some_iff.mp
            (by simpa [known, recollect, executionNews] using hk)
          refine ⟨e.eventType, by simp [types], hlate, fun hstarted u hu hmem => ?_⟩
          rcases List.mem_append.mp hmem with hold | hnew
          · exact hnone hstarted u hu hold
          · rw [List.mem_singleton.mp hnew, hstarted] at hu
            exact absurd hu (by decide)
        · rw [(Ownership.appended_past j _ (.inr hji)).1] at hj
          rw [(Ownership.appended_past j _ (.inr hji)).2] at hk
          exact h.undisturbed hown hmay hji hj hk
      · rw [(Ownership.appended_past j r (.inl hr)).1] at hj
        rw [(Ownership.appended_past j r (.inl hr)).2] at hk
        rw [Ledger.eventsFor_append_of_ne (l := S.ledger) hr]
        exact h.awaits j r events hj hk }

theorem repeated (h : Racing S) (hown : Ownership S) {e : ExecutionEventRecord}
    (hmay : MayAppend (S.past i) e)
    (hmem : e.eventType ∈ types (S.ledger.eventsFor e.orderRequestId)) :
    Racing (S.called i (.append e) (.ok false) S.ledger) where
  raced := h.raced
  begun := by
    intro j r hj
    by_cases hr : e.orderRequestId ≠ r ∨ j ≠ i
    · rw [(Ownership.appended_past j r hr).1] at hj
      exact h.begun j r hj
    · simp only [not_or, Decidable.not_not] at hr
      obtain ⟨rfl, rfl⟩ := hr
      rw [Scene.called_past_self] at hj
      by_cases hstarted : e.eventType = .submissionStarted
      · exact hstarted ▸ hmem
      · have hcommitted : holding e.orderRequestId (S.past j) = .committed := by
          simpa [holding, holdingAfter, hstarted] using hj
        exact h.begun j _ hcommitted
  awaits := by
    intro j r events hj hk
    by_cases hr : e.orderRequestId ≠ r ∨ j ≠ i
    · rw [(Ownership.appended_past j r hr).1] at hj
      rw [(Ownership.appended_past j r hr).2] at hk
      exact h.awaits j r events hj hk
    · simp only [not_or, Decidable.not_not] at hr
      obtain ⟨rfl, rfl⟩ := hr
      rw [Scene.called_past_self] at hj hk
      obtain ⟨hlate, hnone⟩ := h.own hown hmay hj
      obtain ⟨events', -, rfl⟩ := Option.map_eq_some_iff.mp
        (by simpa [known, recollect, executionNews] using hk)
      exact ⟨e.eventType, by simp [types], hlate, hnone⟩

omit [Externals] in
theorem read (h : Racing S) (r : Uuid) :
    Racing (S.called i (.eventsFor r) (.ok (S.ledger.eventsFor r)) S.ledger) where
  raced := h.raced
  begun := by
    intro j r' hj
    by_cases hji : j = i
    · subst hji
      rw [Scene.called_past_self] at hj
      exact h.begun j r' hj
    · rw [Scene.called_past_of_ne hji] at hj
      exact h.begun j r' hj
  awaits := by
    intro j r' events hj hk
    by_cases hji : j = i
    · subst hji
      rw [Scene.called_past_self] at hj hk
      by_cases hr : r = r'
      · subst hr
        simp only [known, recollect, executionNews, if_true] at hk
        cases hk
        exact (h.raced r).awaits (h.begun j r hj)
      · simp only [known, recollect, executionNews, if_neg hr] at hk
        exact h.awaits j r' events hj hk
    · rw [Scene.called_past_of_ne hji] at hj hk
      exact h.awaits j r' events hj hk

omit [Externals] in
theorem commit (h : Racing S) (hown : Ownership S) {permitId r : Uuid} {now : UtcDatetime}
    {payload : Json} (hmay : MayCommit (S.past i) r) :
    Racing (S.committing i permitId r now payload) := by
  obtain ⟨howned, events, hk, hlast⟩ := hmay
  obtain ⟨-, hfresh, hhist, hearly⟩ := hown.fresh i r (.inl howned)
  obtain rfl := Option.some.inj (hk.symm.trans hfresh)
  exact {
    raced := by
      intro r'
      by_cases hr : r = r'
      · subst hr
        rw [committing_types]
        exact .committed hhist hearly (by simp [hlast, advances])
      · rw [committing_eventsFor hr]
        exact h.raced r'
    begun := by
      intro j r' hj
      by_cases hr : r = r'
      · subst hr
        rw [committing_types]
        exact List.mem_append_right _ (List.mem_singleton_self _)
      · rw [committing_holding hr] at hj
        exact committing_mono (h.begun j r' hj)
    awaits := by
      intro j r' events' hj hk'
      by_cases hr : r = r'
      · subst hr
        by_cases hji : j = i
        · subst hji
          rw [committing_types]
          obtain ⟨events'', -, rfl⟩ := Option.map_eq_some_iff.mp
            (by simpa [known, recollect, executionNews] using hk')
          refine ⟨.submissionStarted, by simp [types], by decide, fun _ u hu hmem => ?_⟩
          rcases List.mem_append.mp hmem with hold | hnew
          · have hlate : ∀ u ∈ brokerAnswers, u ∉ early := by decide
            exact hlate u hu (hearly u hold)
          · rw [List.mem_singleton.mp hnew] at hu
            exact absurd hu (by decide)
        · -- nobody else holds the request
          rw [Scene.called_past_of_ne hji, hown.commit_alone howned hji] at hj
          cases hj
      · rw [committing_holding hr] at hj
        rw [committing_known hr] at hk'
        rw [committing_eventsFor hr]
        exact h.awaits j r' events' hj hk' }

/-- **Every call the discipline allows goes on with the race.** -/
theorem call (h : Racing S) (hown : Ownership S) (hmay : mayCall (S.past i) c)
    (heff : Effect S.ledger c a l) : Racing (S.called i c a l) := by
  cases heff with
  | claimed row hfree =>
      refine h.frame rfl fun r hheld => ?_
      by_cases hr : row.orderRequestId = r
      · simp [holding, holdingAfter, hr] at hheld
      · exact ⟨by simpa [holding, holdingAfter, hr] using hheld, by simp [executionNews, hr]⟩
  | appended e hfree hrow => exact h.append hown hmay (Ledger.lookup_eq_none.mp hfree)
  | repeated e e' hthere hsame => exact h.repeated hown hmay (Ledger.mem_types_of_lookup hthere)
  | read r => exact h.read r
  | committed permitId r now payload hfree hnew hrow => exact h.commit hown hmay
  | recommitted permitId r now payload e hfree hthere => exact (hown.not_recommitted hmay hthere).elim
  | refused permitId r now payload a ha =>
      -- a refused commitment tells its owner that it holds none
      refine h.frame rfl fun r' hheld => ⟨?_, executionNews_refused ha r'⟩
      rw [holding, holdingAfter_refused ha] at hheld
      split at hheld
      · cases hheld
      · exact hheld
  | idle c a hidle => exact h.frame rfl fun r hheld => ⟨(hidle.holding r _).symm.trans hheld, hidle.news r⟩
  | _ => exact h.frame rfl fun r hheld => ⟨hheld, rfl⟩

end Racing

/-! ## Histories of occurrences in the ledger -/

namespace Ledger

variable {l l' : Ledger} {f : Uuid}

theorem flattenEventsFor_congr (h : l'.flattenEvents = l.flattenEvents) :
    l'.flattenEventsFor f = l.flattenEventsFor f := by
  simp [flattenEventsFor, h]

theorem flattenEventsFor_append_self {e : FlattenEventRecord} (h : e.flattenRequestId = f) :
    ({ l with flattenEvents := l.flattenEvents ++ [e] } : Ledger).flattenEventsFor f
      = l.flattenEventsFor f ++ [e] := by
  simp [flattenEventsFor, h]

theorem flattenEventsFor_append_of_ne {e : FlattenEventRecord} (h : e.flattenRequestId ≠ f) :
    ({ l with flattenEvents := l.flattenEvents ++ [e] } : Ledger).flattenEventsFor f
      = l.flattenEventsFor f := by
  simp [flattenEventsFor, h]

theorem flattenTypes_append (events : List FlattenEventRecord) (e : FlattenEventRecord) :
    flattenTypes (events ++ [e]) = flattenTypes events ++ [e.eventType] := by
  simp [flattenTypes]

theorem mem_flattenTypes {t : FlattenEventType} :
    t ∈ flattenTypes (l.flattenEventsFor f) ↔ ∃ e ∈ l.flattenEvents, e.key = (f, t) := by
  simp only [flattenTypes, flattenEventsFor, List.mem_map, List.mem_filter, decide_eq_true_eq,
    FlattenEventRecord.key, Prod.mk.injEq]
  constructor
  · rintro ⟨e, ⟨hmem, hf⟩, ht⟩
    exact ⟨e, hmem, hf, ht⟩
  · rintro ⟨e, hmem, hf, ht⟩
    exact ⟨e, ⟨hmem, hf⟩, ht⟩

/-- An event type is free in an occurrence when its key is free in the table. -/
theorem flattenLookup_eq_none {t : FlattenEventType} :
    Table.lookup FlattenEventRecord.key l.flattenEvents (f, t) = none
      ↔ t ∉ flattenTypes (l.flattenEventsFor f) := by
  rw [Table.lookup_eq_none, mem_flattenTypes]
  constructor
  · rintro h ⟨e, he, hk⟩
    exact h e he hk
  · intro h e he hk
    exact h ⟨e, he, hk⟩

end Ledger

/-! ## Races for an occurrence -/

/-- The owner of an occurrence knows all of it, or what it knows ends with its commitment or the
outcome of it. -/
def Commands (events : List FlattenEventRecord) (known : Option (List FlattenEventRecord)) : Prop :=
  ∃ events', known = some events' ∧ (events' = events
    ∨ (flattenTypes events').getLast? = some .flattenSubmissionStarted
    ∨ (flattenTypes events').getLast? = some .flattenOutcomeResolved)

/-- **Occurrences that workers race for.** -/
structure FlattenRacing (S : Scene) : Prop where
  grammar : ∀ f, flattenTypes (S.ledger.flattenEventsFor f) ∈ flattenHistories
  /-- An event belongs to an occurrence on record. -/
  refs : ∀ e ∈ S.ledger.flattenEvents,
    ∃ row ∈ S.ledger.flattenRequests, row.flattenRequestId = e.flattenRequestId
  /-- A claim that was won is on record. -/
  won : ∀ i f, ownsFlatten f (S.past i) →
    ∃ row ∈ S.ledger.flattenRequests, row.flattenRequestId = f
  /-- A claim is won by one pass. -/
  unique : ∀ i j f, ownsFlatten f (S.past i) → ownsFlatten f (S.past j) → i = j
  /-- What a pass knows of an occurrence is true of it. -/
  remembered : ∀ i f events, knownFlatten f (S.past i) = some events →
    ∀ t ∈ flattenTypes events, t ∈ flattenTypes (S.ledger.flattenEventsFor f)
  owned : ∀ i f, ownsFlatten f (S.past i) →
    Commands (S.ledger.flattenEventsFor f) (knownFlatten f (S.past i))

namespace FlattenRacing

variable {S : Scene} {i : Nat} {c : Call} {a : Except PyError c.Answer} {l : Ledger}

theorem init {l : Ledger} (hev : l.flattenEvents = []) : FlattenRacing ⟨l, fun _ => []⟩ where
  grammar := by
    intro f
    simp only [Ledger.flattenEventsFor, hev, List.filter_nil]
    exact mem_flattenHistories.mpr ⟨_, List.mem_cons_self .., List.nil_prefix⟩
  refs := by simp [hev]
  won := by rintro i f ⟨_, -, h⟩; cases h
  unique := by rintro i j f ⟨_, -, h⟩; cases h
  remembered := by intro i f events h; cases h
  owned := by rintro i f ⟨_, -, h⟩; cases h

theorem not_owns_nil {f : Uuid} : ¬ ownsFlatten f [] := by
  rintro ⟨_, -, h⟩
  cases h

theorem reset (h : FlattenRacing S) (j : Nat) : FlattenRacing (S.reset j) where
  grammar := h.grammar
  refs := h.refs
  won := by
    intro i f hi
    rcases S.reset_past (i := j) i with hp | hp <;> rw [hp] at hi
    · exact (not_owns_nil hi).elim
    · exact h.won i f hi
  unique := by
    intro i k f hi hk
    rcases S.reset_past (i := j) i with hp | hp <;> rw [hp] at hi
    · exact (not_owns_nil hi).elim
    rcases S.reset_past (i := j) k with hp' | hp' <;> rw [hp'] at hk
    · exact (not_owns_nil hk).elim
    exact h.unique i k f hi hk
  remembered := by
    intro i f events hi
    rcases S.reset_past (i := j) i with hp | hp <;> rw [hp] at hi
    · cases hi
    · exact h.remembered i f events hi
  owned := by
    intro i f hi
    rcases S.reset_past (i := j) i with hp | hp <;> rw [hp] at hi ⊢
    · exact (not_owns_nil hi).elim
    · exact h.owned i f hi

theorem settled {sends : List Send} (h : FlattenRacing S) : FlattenRacing (S.settled sends) :=
  ⟨h.grammar, h.refs, h.won, h.unique, h.remembered, h.owned⟩

/-- Only a claim that is won makes an owner. -/
theorem owns_cons {f : Uuid} {past : Past} {entry : Entry Call Call.Answer PyError}
    (h : ownsFlatten f (entry :: past)) :
    ownsFlatten f past ∨ ∃ row, row.flattenRequestId = f ∧ entry = ⟨.claimFlatten row, .ok true⟩ := by
  obtain ⟨row, hid, hmem⟩ := h
  rcases List.mem_cons.mp hmem with heq | hmem
  · exact .inr ⟨row, hid, heq.symm⟩
  · exact .inl ⟨row, hid, hmem⟩

/-- A call that tells nothing of an occurrence and records nothing of one. -/
theorem frame (h : FlattenRacing S) (hnews : ∀ f, flattenNews f ⟨c, a⟩ = .silent)
    (hrows : l.flattenRequests = S.ledger.flattenRequests)
    (hev : l.flattenEvents = S.ledger.flattenEvents) : FlattenRacing (S.called i c a l) := by
  have howns : ∀ j f, ownsFlatten f ((S.called i c a l).past j) → ownsFlatten f (S.past j) := by
    intro j f hj
    by_cases hji : j = i
    · subst hji
      rw [Scene.called_past_self] at hj
      rcases owns_cons hj with hj | ⟨row, hid, heq⟩
      · exact hj
      · have hopened := hnews f
        rw [heq] at hopened
        simp [flattenNews, hid] at hopened
    · rwa [Scene.called_past_of_ne hji] at hj
  have hknown : ∀ j f, knownFlatten f ((S.called i c a l).past j) = knownFlatten f (S.past j) := by
    intro j f
    by_cases hji : j = i
    · subst hji
      rw [Scene.called_past_self]
      simp only [knownFlatten, recollect, hnews]
    · rw [Scene.called_past_of_ne hji]
  exact {
    grammar := by
      intro f
      rw [Scene.called_ledger, Ledger.flattenEventsFor_congr hev]
      exact h.grammar f
    refs := by
      rw [Scene.called_ledger, hrows, hev]
      exact h.refs
    won := by
      intro j f hj
      rw [Scene.called_ledger, hrows]
      exact h.won j f (howns j f hj)
    unique := fun j k f hj hk => h.unique j k f (howns j f hj) (howns k f hk)
    remembered := by
      intro j f events hk
      rw [hknown] at hk
      rw [Scene.called_ledger, Ledger.flattenEventsFor_congr hev]
      exact h.remembered j f events hk
    owned := by
      intro j f hj
      rw [Scene.called_ledger, Ledger.flattenEventsFor_congr hev, hknown]
      exact h.owned j f (howns j f hj) }

/-- Whoever wins a claim opens an occurrence that has no history. -/
theorem claim (h : FlattenRacing S) {row : FlattenRequest}
    (hfree : Table.lookup (·.flattenRequestId) S.ledger.flattenRequests row.flattenRequestId = none) :
    FlattenRacing (S.called i (.claimFlatten row) (.ok true)
      { S.ledger with flattenRequests := S.ledger.flattenRequests ++ [row] }) := by
  have hnone := Table.lookup_eq_none.mp hfree
  have hblank : S.ledger.flattenEventsFor row.flattenRequestId = [] := by
    rw [Ledger.flattenEventsFor, List.filter_eq_nil_iff]
    intro e he hid
    obtain ⟨row', hrow', hr⟩ := h.refs e he
    exact hnone row' hrow' (hr.trans (of_decide_eq_true hid))
  -- who had won the claim before would have left its row
  have hnobody : ∀ j, ¬ ownsFlatten row.flattenRequestId (S.past j) := by
    intro j hj
    obtain ⟨row', hrow', hid⟩ := h.won j _ hj
    exact hnone row' hrow' hid
  have howner : ∀ j f, ownsFlatten f ((S.called i (.claimFlatten row) (.ok true)
      { S.ledger with flattenRequests := S.ledger.flattenRequests ++ [row] }).past j) →
      ownsFlatten f (S.past j) ∨ j = i ∧ row.flattenRequestId = f := by
    intro j f hj
    by_cases hji : j = i
    · subst hji
      rw [Scene.called_past_self] at hj
      rcases owns_cons hj with hj | ⟨row', hid, heq⟩
      · exact .inl hj
      · cases heq
        exact .inr ⟨rfl, hid⟩
    · rw [Scene.called_past_of_ne hji] at hj
      exact .inl hj
  have hknown : ∀ j f, (j ≠ i ∨ row.flattenRequestId ≠ f) →
      knownFlatten f ((S.called i (.claimFlatten row) (.ok true)
        { S.ledger with flattenRequests := S.ledger.flattenRequests ++ [row] }).past j)
        = knownFlatten f (S.past j) := by
    intro j f hor
    by_cases hji : j = i
    · subst hji
      have hne : row.flattenRequestId ≠ f := by simpa using hor
      simp [knownFlatten, recollect, flattenNews, hne]
    · rw [Scene.called_past_of_ne hji]
  exact {
    grammar := h.grammar
    refs := by
      intro e he
      obtain ⟨row', hrow', hid⟩ := h.refs e he
      exact ⟨row', List.mem_append_left _ hrow', hid⟩
    won := by
      intro j f hj
      rcases howner j f hj with hj | ⟨-, hid⟩
      · obtain ⟨row', hrow', hid⟩ := h.won j f hj
        exact ⟨row', List.mem_append_left _ hrow', hid⟩
      · exact ⟨row, List.mem_append_right _ (List.mem_singleton_self _), hid⟩
    unique := by
      intro j k f hj hk
      rcases howner j f hj with hj | ⟨hji, rfl⟩
      · rcases howner k f hk with hk | ⟨-, rfl⟩
        · exact h.unique j k f hj hk
        · exact (hnobody j hj).elim
      · rcases howner k _ hk with hk | ⟨hki, -⟩
        · exact (hnobody k hk).elim
        · rw [hji, hki]
    remembered := by
      intro j f events hk
      by_cases hor : j ≠ i ∨ row.flattenRequestId ≠ f
      · rw [hknown j f hor] at hk
        exact h.remembered j f events hk
      · simp only [not_or, Decidable.not_not] at hor
        obtain ⟨rfl, rfl⟩ := hor
        simp only [Scene.called_past_self, knownFlatten, recollect, flattenNews, if_true] at hk
        cases hk
        simp [flattenTypes]
    owned := by
      intro j f hj
      by_cases hor : j ≠ i ∨ row.flattenRequestId ≠ f
      · rw [hknown j f hor]
        rcases howner j f hj with hj | ⟨hji, hid⟩
        · exact h.owned j f hj
        · rcases hor with hne | hne
          · exact absurd hji hne
          · exact absurd hid hne
      · simp only [not_or, Decidable.not_not] at hor
        obtain ⟨rfl, rfl⟩ := hor
        refine ⟨[], by simp [knownFlatten, recollect, flattenNews], .inl hblank.symm⟩ }

/-- What an append does to what is owned and known of occurrences. -/
theorem appended_past {e : FlattenEventRecord} {b : Bool} (j : Nat) (f : Uuid) :
    (ownsFlatten f ((S.called i (.appendFlatten e) (.ok b) l).past j) → ownsFlatten f (S.past j))
      ∧ (e.flattenRequestId ≠ f ∨ j ≠ i →
        knownFlatten f ((S.called i (.appendFlatten e) (.ok b) l).past j)
          = knownFlatten f (S.past j)) := by
  by_cases hji : j = i
  · subst hji
    rw [Scene.called_past_self]
    refine ⟨fun howns => ?_, fun hor => ?_⟩
    · rcases owns_cons howns with howns | ⟨row, -, heq⟩
      · exact howns
      · cases heq
    · have hne : e.flattenRequestId ≠ f := by simpa using hor
      simp [knownFlatten, recollect, flattenNews, hne]
  · rw [Scene.called_past_of_ne hji]
    exact ⟨id, fun _ => rfl⟩

theorem appended_known {e : FlattenEventRecord} {b : Bool} {events : List FlattenEventRecord}
    (hk : knownFlatten e.flattenRequestId (S.past i) = some events) :
    knownFlatten e.flattenRequestId ((S.called i (.appendFlatten e) (.ok b) l).past i)
      = some (events ++ [e]) := by
  unfold knownFlatten at hk ⊢
  simp [recollect, flattenNews, hk]

/-- **What a worker may append, and is not on record, comes next in the occurrence.** -/
theorem next (h : FlattenRacing S) {e : FlattenEventRecord} (hmay : MayAppendFlatten (S.past i) e)
    (hfree : e.eventType ∉ flattenTypes (S.ledger.flattenEventsFor e.flattenRequestId)) :
    flattenTypes (S.ledger.flattenEventsFor e.flattenRequestId) ++ [e.eventType]
      ∈ flattenHistories := by
  obtain ⟨events, hk, ⟨howns, hcommits⟩ | hsettles⟩ := hmay
  · obtain ⟨events', hk', hor⟩ := h.owned i _ howns
    obtain rfl := Option.some.inj (hk.symm.trans hk')
    rcases hor with rfl | hlast | hlast
    · exact (flattenHistories_grow _ (h.grammar _) _ (List.mem_append_left _ hcommits)).1
    · rw [hlast] at hcommits
      cases hcommits
    · rw [hlast] at hcommits
      cases hcommits
  · -- nothing but its outcome can follow a commitment
    obtain ⟨hlast, htype⟩ := settles_cases hsettles
    have hstarted := h.remembered i _ events hk _ (List.mem_of_getLast? hlast)
    rw [htype] at hfree ⊢
    exact (flattenHistories_started _ (h.grammar _) hstarted hfree).2

/-- What is appended though it's on record is the outcome. -/
theorem settles_of_recorded (h : FlattenRacing S) {e : FlattenEventRecord}
    (hmay : MayAppendFlatten (S.past i) e)
    (hmem : e.eventType ∈ flattenTypes (S.ledger.flattenEventsFor e.flattenRequestId)) :
    e.eventType = .flattenOutcomeResolved := by
  obtain ⟨events, hk, ⟨howns, hcommits⟩ | hsettles⟩ := hmay
  · obtain ⟨events', hk', hor⟩ := h.owned i _ howns
    obtain rfl := Option.some.inj (hk.symm.trans hk')
    rcases hor with rfl | hlast | hlast
    · exact absurd hmem
        (flattenHistories_grow _ (h.grammar _) _ (List.mem_append_left _ hcommits)).2
    · rw [hlast] at hcommits
      cases hcommits
    · rw [hlast] at hcommits
      cases hcommits
  · exact (settles_cases hsettles).2

/-- Whoever appends, appends to an occurrence on record. -/
theorem requested (h : FlattenRacing S) {e : FlattenEventRecord}
    (hmay : MayAppendFlatten (S.past i) e) :
    ∃ row ∈ S.ledger.flattenRequests, row.flattenRequestId = e.flattenRequestId := by
  obtain ⟨events, hk, ⟨howns, -⟩ | hsettles⟩ := hmay
  · exact h.won i _ howns
  · obtain ⟨hlast, -⟩ := settles_cases hsettles
    obtain ⟨e', he', hkey⟩ := Ledger.mem_flattenTypes.mp
      (h.remembered i _ events hk _ (List.mem_of_getLast? hlast))
    obtain ⟨row, hrow, hid⟩ := h.refs e' he'
    exact ⟨row, hrow, hid.trans (congrArg Prod.fst hkey)⟩

/-- The owner of an occurrence knows what it has appended itself. -/
theorem own (h : FlattenRacing S) {e : FlattenEventRecord} {events : List FlattenEventRecord}
    (hmay : MayAppendFlatten (S.past i) e)
    (hk : knownFlatten e.flattenRequestId (S.past i) = some events)
    (howns : ownsFlatten e.flattenRequestId (S.past i)) :
    events = S.ledger.flattenEventsFor e.flattenRequestId
      ∧ e.eventType ∉ flattenTypes (S.ledger.flattenEventsFor e.flattenRequestId)
      ∨ (flattenTypes (events ++ [e])).getLast? = some .flattenOutcomeResolved := by
  obtain ⟨events', hk', ⟨-, hcommits⟩ | hsettles⟩ := hmay
  · obtain rfl := Option.some.inj (hk.symm.trans hk')
    obtain ⟨events', hk', hor⟩ := h.owned i _ howns
    obtain rfl := Option.some.inj (hk.symm.trans hk')
    rcases hor with rfl | hlast | hlast
    · exact .inl ⟨rfl,
        (flattenHistories_grow _ (h.grammar _) _ (List.mem_append_left _ hcommits)).2⟩
    · rw [hlast] at hcommits
      cases hcommits
    · rw [hlast] at hcommits
      cases hcommits
  · refine .inr ?_
    rw [Ledger.flattenTypes_append, List.getLast?_concat, (settles_cases hsettles).2]

/-- Who else owns the occurrence still knows its commitment. -/
theorem undisturbed (h : FlattenRacing S) {e : FlattenEventRecord} {j : Nat}
    (hmay : MayAppendFlatten (S.past i) e) (hj : j ≠ i)
    (hfree : e.eventType ∉ flattenTypes (S.ledger.flattenEventsFor e.flattenRequestId))
    (howns : ownsFlatten e.flattenRequestId (S.past j)) (events : List FlattenEventRecord) :
    Commands events (knownFlatten e.flattenRequestId (S.past j)) := by
  obtain ⟨events', hk', hor⟩ := h.owned j _ howns
  refine ⟨events', hk', .inr ?_⟩
  rcases hor with rfl | hlast
  · obtain ⟨events, hk, ⟨howns', -⟩ | hsettles⟩ := hmay
    · exact absurd (h.unique j i _ howns howns') hj
    · obtain ⟨hlast, htype⟩ := settles_cases hsettles
      have hstarted := h.remembered i _ events hk _ (List.mem_of_getLast? hlast)
      rw [htype] at hfree
      exact .inl (flattenHistories_started _ (h.grammar _) hstarted hfree).1
  · exact hlast

theorem append (h : FlattenRacing S) {e : FlattenEventRecord}
    (hmay : MayAppendFlatten (S.past i) e)
    (hfree : e.eventType ∉ flattenTypes (S.ledger.flattenEventsFor e.flattenRequestId))
    (hrow : ∃ row ∈ S.ledger.flattenRequests, row.flattenRequestId = e.flattenRequestId) :
    FlattenRacing (S.called i (.appendFlatten e) (.ok true)
      { S.ledger with flattenEvents := S.ledger.flattenEvents ++ [e] }) := by
  have hself : ({ S.ledger with
      flattenEvents := S.ledger.flattenEvents ++ [e] } : Ledger).flattenEventsFor e.flattenRequestId
      = S.ledger.flattenEventsFor e.flattenRequestId ++ [e] :=
    Ledger.flattenEventsFor_append_self (l := S.ledger) rfl
  obtain ⟨events, hk, -⟩ := id hmay
  exact {
    grammar := by
      intro f
      rw [Scene.called_ledger]
      by_cases hf : e.flattenRequestId = f
      · subst hf
        rw [hself, Ledger.flattenTypes_append]
        exact h.next hmay hfree
      · rw [Ledger.flattenEventsFor_append_of_ne (l := S.ledger) hf]
        exact h.grammar f
    refs := by
      intro e' he'
      rcases List.mem_append.mp he' with hold | hnew
      · exact h.refs e' hold
      · rw [List.mem_singleton.mp hnew]
        exact hrow
    won := fun j f hj => h.won j f ((appended_past j f).1 hj)
    unique := fun j k f hj hk =>
      h.unique j k f ((appended_past j f).1 hj) ((appended_past k f).1 hk)
    remembered := by
      intro j f events' hk' t ht
      rw [Scene.called_ledger]
      by_cases hf : e.flattenRequestId = f
      · subst hf
        rw [hself, Ledger.flattenTypes_append]
        by_cases hji : j = i
        · subst hji
          obtain rfl := Option.some.inj (hk'.symm.trans (appended_known hk))
          rw [Ledger.flattenTypes_append] at ht
          rcases List.mem_append.mp ht with ht | ht
          · exact List.mem_append_left _ (h.remembered j _ events hk t ht)
          · exact List.mem_append_right _ ht
        · rw [(appended_past j _).2 (.inr hji)] at hk'
          exact List.mem_append_left _ (h.remembered j _ events' hk' t ht)
      · rw [(appended_past j f).2 (.inl hf)] at hk'
        rw [Ledger.flattenEventsFor_append_of_ne (l := S.ledger) hf]
        exact h.remembered j f events' hk' t ht
    owned := by
      intro j f hj
      have howns := (appended_past j f).1 hj
      rw [Scene.called_ledger]
      by_cases hf : e.flattenRequestId = f
      · subst hf
        rw [hself]
        by_cases hji : j = i
        · -- the owner still knows all of it, or has recorded the outcome
          subst hji
          refine ⟨_, appended_known hk, ?_⟩
          rcases h.own hmay hk howns with ⟨rfl, -⟩ | hlast
          · exact .inl rfl
          · exact .inr (.inr hlast)
        · rw [(appended_past j _).2 (.inr hji)]
          exact h.undisturbed hmay hji hfree howns _
      · rw [(appended_past j f).2 (.inl hf),
          Ledger.flattenEventsFor_append_of_ne (l := S.ledger) hf]
        exact h.owned j f howns }

theorem repeated (h : FlattenRacing S) {e : FlattenEventRecord}
    (hmay : MayAppendFlatten (S.past i) e)
    (hmem : e.eventType ∈ flattenTypes (S.ledger.flattenEventsFor e.flattenRequestId)) :
    FlattenRacing (S.called i (.appendFlatten e) (.ok false) S.ledger) := by
  obtain ⟨events, hk, -⟩ := id hmay
  exact {
    grammar := h.grammar
    refs := h.refs
    won := fun j f hj => h.won j f ((appended_past j f).1 hj)
    unique := fun j k f hj hk =>
      h.unique j k f ((appended_past j f).1 hj) ((appended_past k f).1 hk)
    remembered := by
      intro j f events' hk' t ht
      by_cases hor : e.flattenRequestId ≠ f ∨ j ≠ i
      · rw [(appended_past j f).2 hor] at hk'
        exact h.remembered j f events' hk' t ht
      · simp only [not_or, Decidable.not_not] at hor
        obtain ⟨rfl, rfl⟩ := hor
        obtain rfl := Option.some.inj (hk'.symm.trans (appended_known hk))
        rw [Ledger.flattenTypes_append] at ht
        rcases List.mem_append.mp ht with ht | ht
        · exact h.remembered j _ events hk t ht
        · rw [List.mem_singleton.mp ht]
          exact hmem
    owned := by
      intro j f hj
      have howns := (appended_past j f).1 hj
      by_cases hor : e.flattenRequestId ≠ f ∨ j ≠ i
      · rw [(appended_past j f).2 hor]
        exact h.owned j f howns
      · simp only [not_or, Decidable.not_not] at hor
        obtain ⟨rfl, rfl⟩ := hor
        refine ⟨_, appended_known hk, ?_⟩
        rcases h.own hmay hk howns with ⟨-, hfree⟩ | hlast
        · exact absurd hmem hfree
        · exact .inr (.inr hlast) }

theorem read (h : FlattenRacing S) (f : Uuid) :
    FlattenRacing (S.called i (.flattenEventsFor f) (.ok (S.ledger.flattenEventsFor f)) S.ledger) := by
  have howns : ∀ j f', ownsFlatten f' ((S.called i (.flattenEventsFor f)
      (.ok (S.ledger.flattenEventsFor f)) S.ledger).past j) → ownsFlatten f' (S.past j) := by
    intro j f' hj
    by_cases hji : j = i
    · subst hji
      rw [Scene.called_past_self] at hj
      rcases owns_cons hj with hj | ⟨row, -, heq⟩
      · exact hj
      · cases heq
    · rwa [Scene.called_past_of_ne hji] at hj
  have hknown : ∀ j f', knownFlatten f' ((S.called i (.flattenEventsFor f)
      (.ok (S.ledger.flattenEventsFor f)) S.ledger).past j) = knownFlatten f' (S.past j)
      ∨ knownFlatten f' ((S.called i (.flattenEventsFor f)
        (.ok (S.ledger.flattenEventsFor f)) S.ledger).past j) = some (S.ledger.flattenEventsFor f') := by
    intro j f'
    by_cases hji : j = i
    · subst hji
      by_cases hf : f = f'
      · subst hf
        exact .inr (by simp [knownFlatten, recollect, flattenNews])
      · exact .inl (by simp [knownFlatten, recollect, flattenNews, hf])
    · rw [Scene.called_past_of_ne hji]
      exact .inl rfl
  exact {
    grammar := h.grammar
    refs := h.refs
    won := fun j f' hj => h.won j f' (howns j f' hj)
    unique := fun j k f' hj hk => h.unique j k f' (howns j f' hj) (howns k f' hk)
    remembered := by
      intro j f' events hk t ht
      rcases hknown j f' with heq | heq <;> rw [heq] at hk
      · exact h.remembered j f' events hk t ht
      · cases hk
        exact ht
    owned := by
      intro j f' hj
      rcases hknown j f' with heq | heq <;> rw [heq]
      · exact h.owned j f' (howns j f' hj)
      · exact ⟨_, rfl, .inl rfl⟩ }

/-- **Every call the discipline allows goes on with the race.** -/
theorem call [Externals] (h : FlattenRacing S) (hmay : mayCall (S.past i) c)
    (heff : Effect S.ledger c a l) : FlattenRacing (S.called i c a l) := by
  cases heff with
  | claimedFlatten row hfree => exact h.claim hfree
  | appendedFlatten e hfree hrow => exact h.append hmay (Ledger.flattenLookup_eq_none.mp hfree) hrow
  | repeatedFlatten e e' hthere hsame =>
      obtain ⟨hmem, hkey⟩ := Table.lookup_eq_some hthere
      exact h.repeated hmay (Ledger.mem_flattenTypes.mpr ⟨e', hmem, hkey⟩)
  | readFlatten f => exact h.read f
  | idle c a hidle => exact h.frame hidle.flattenNews rfl rfl
  | refused permitId r now payload a ha => exact h.frame (fun _ => rfl) rfl rfl
  | _ => exact h.frame (fun _ => rfl) rfl rfl

end FlattenRacing

end Crumblr
