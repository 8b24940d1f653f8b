import Crumblr.Proof.Observed
import Crumblr.Proof.Authorization

/-!
# Whose observation a reconciliation judges

Every reconciliation follows an observation the same pass recorded. What it looks up
is the latest row of a table all processes write to, and the children of that row. So
it judges its own observation as long as that row is the newest when it is looked up,
and nobody else wrote under its id.
-/

namespace Crumblr

open ExecutionOrchestrator

/-- The stored snapshot a pass has looked up since it recorded its own. -/
def lookedUp : Past → Option BrokerAccountSnapshot
  | [] => none
  | ⟨.record _, _⟩ :: _ => none
  | ⟨.latestAccountSnapshot, .ok snapshot⟩ :: _ => snapshot
  | _ :: past => lookedUp past

/-- The call is neither a recording nor a look at the latest snapshot. -/
def LeavesLookup : Call → Prop
  | .record _ | .latestAccountSnapshot => False
  | _ => True

theorem lookedUp_cons {c : Call} (h : LeavesLookup c) (a : Except PyError c.Answer)
    (past : Past) : lookedUp (⟨c, a⟩ :: past) = lookedUp past := by
  cases c <;> first | rfl | exact h.elim

/-! ## The lookups of a pass -/

/-- A snapshot is looked up after one was recorded, and children under the snapshot
that was looked up. -/
def judgeDiscipline : Discipline Call Call.Answer PyError where
  allows := fun past c => match c with
    | .latestAccountSnapshot => ∃ observation, (sight past).recorded = some observation
    | .positionsFor id | .pendingOrdersFor id =>
        ∃ snapshot, lookedUp past = some snapshot ∧ snapshot.snapshotId = id
    | _ => True
  answers := fun _ _ => True

section

variable [Externals] {self : ExecutionOrchestrator} {past : Past} {now : UtcDatetime} {α : Type}
  {topics : List Topic}

omit [Externals] in
theorem judgeDiscipline_lets (h : ∀ t ∈ topics, t ≠ .judging) : Lets judgeDiscipline topics := by
  intro past c hc
  have ht := h _ hc.mem
  cases c <;> trivial

/-- The program looks up what belongs together. -/
abbrev Judges (past : Past) (p : Pass α) : Prop :=
  Leads judgeDiscipline.protocol past p fun _ _ => True

omit [Externals] in
theorem judges_nothing {p : Pass α} (hp : Only (About topics) p)
    (h : ∀ t ∈ topics, t ≠ .judging) : Judges past p :=
  (judgeDiscipline_lets h).frame hp (fun _ _ _ _ _ => trivial) trivial

omit [Externals] in
/-- A program that leaves the recording alone. -/
theorem keeps_recorded {observation : BrokerStateObservation} {p : Pass α}
    (hp : Only (About topics) p) (h : ∀ t ∈ topics, t ≠ .watching ∧ t ≠ .judging)
    (hrec : (sight past).recorded = some observation) :
    Leads judgeDiscipline.protocol past p fun past' _ =>
      (sight past').recorded = some observation :=
  (judgeDiscipline_lets fun t ht => (h t ht).2).frame hp
    (fun past c a hr hc => by rw [sight_of_blind (About.blind h c hc)]; exact hr) hrec

/-- **A reconciliation looks up one snapshot, and that snapshot's children.** -/
theorem judges_reconcile {expectation : ExpectedState} {observation : BrokerStateObservation}
    (h : (sight past).recorded = some observation) :
    Judges past (reconcile expectation now) := by
  refine Leads.next ⟨observation, h⟩ fun latest _ => ?_
  cases latest with
  | none => exact Leads.ret.mpr trivial
  | some snapshot =>
      dsimp only
      split
      · exact Leads.ret.mpr trivial
      split
      · exact Leads.ret.mpr trivial
      refine Leads.next trivial fun spec _ => ?_
      cases spec with
      | none => exact Leads.ret.mpr trivial
      | some spec =>
          refine Leads.next ⟨snapshot, rfl, rfl⟩ fun positions _ => ?_
          refine Leads.next ⟨snapshot, rfl, rfl⟩ fun orders _ => Leads.ret.mpr trivial

theorem judges_observeAndReconcile {capsule : DecisionCapsule} {chain : ApprovalChain}
    {orderRequestId : Uuid} :
    Judges past (self.observeAndReconcile capsule chain orderRequestId now) := by
  refine Leads.seq (leads_observe self (judgeDiscipline_lets (by decide))) ?_
  intro past₁ observation hobs
  refine leads_lift fun account _ => Leads.seq (judges_reconcile hobs.recorded) ?_
  intro past₂ result _
  split
  · exact judges_nothing (ofRecords_refuse ..) (by decide)
  · exact judges_nothing (ofEntry_priceAndRisk ..) (by decide)

theorem judges_processClaimed {capsule : DecisionCapsule} {chain : ApprovalChain}
    {orderRequestId : Uuid} :
    Judges past (self.processClaimed capsule chain orderRequestId now) := by
  refine Leads.seq (judges_nothing (ofRecords_append ..) (by decide)) fun past₁ _ _ => ?_
  dsimp only
  split
  · exact judges_nothing (ofRecords_refuse ..) (by decide)
  refine Leads.next trivial fun killSwitch _ => ?_
  split
  · exact judges_nothing (ofRecords_refuse ..) (by decide)
  · exact judges_observeAndReconcile

theorem judges_process {capsule : DecisionCapsule} : Judges past (self.process capsule now) := by
  refine leads_lift fun chain _ => ?_
  split
  · exact Leads.raise.mpr trivial
  refine Leads.next trivial fun claimed _ => ?_
  cases claimed with
  | false =>
      exact judges_nothing (ofRecords_recoverAmbiguousSubmission ..) (by decide)
  | true => exact Leads.seq judges_processClaimed fun _ _ _ => Leads.ret.mpr trivial

theorem judges_reconcileOnce : Judges past self.reconcileOnce := by
  refine Leads.next trivial fun candidates _ => ?_
  split
  · exact Leads.ret.mpr trivial
  refine Leads.seq (judges_nothing (show Only (About [.recording]) _ from
    Only.collect fun _ _ => Only.bind (only_ask rfl) fun _ => trivial) (by decide)) ?_
  intro past₁ histories _
  split
  · exact Leads.ret.mpr trivial
  refine Leads.next trivial fun flattens _ => leads_lift fun exposure _ =>
    Leads.next trivial fun now _ => ?_
  refine Leads.seq (leads_observe self (judgeDiscipline_lets (by decide))) ?_
  intro past₂ observation hobs
  refine Leads.seq (judges_reconcile hobs.recorded) fun past₃ result _ => ?_
  split
  · exact Leads.ret.mpr trivial
  refine judges_nothing (show Only (About recordTopics) _ from Only.collect fun history _ => ?_)
    (by decide)
  exact ofRecords_reconcileRequest ..

theorem judges_commitFlatten {m : FlattenMoment} {observation : BrokerStateObservation}
    {pastDeadline crossedWeeklyClose : Bool} (h : (sight past).recorded = some observation) :
    Judges past (self.commitFlatten m observation pastDeadline crossedWeeklyClose) := by
  refine Leads.seq (keeps_recorded (show Only (About [.flattening]) _ from
    Only.bind (only_ask rfl) fun _ => trivial) (by decide) h) fun past₁ _ h₁ => ?_
  refine leads_lift fun account _ => Leads.seq (judges_reconcile h₁) fun past₂ result _ => ?_
  refine Leads.next trivial fun killSwitch _ => ?_
  dsimp only
  split
  · exact judges_nothing (Only.bind (ofClosing_appendFlatten ..) fun _ => trivial) (by decide)
  · exact judges_nothing (Only.bind (ofClosing_appendFlatten ..) fun _ => Only.bind only_lift
      fun _ => Only.bind (ofClosing_appendFlatten ..) fun _ => trivial) (by decide)

theorem judges_flattenOnce : Judges past self.flattenOnce := by
  refine Leads.next trivial fun now _ => ?_
  split
  · exact Leads.ret.mpr trivial
  rename_i m _
  refine Leads.next trivial fun priorEvents _ => ?_
  split
  · unfold flattenClaimed
    split
    · exact Leads.ret.mpr trivial
    · exact judges_nothing (show Only (About closeTopics) _ from
          Only.bind (ofClosing (only_observe ..) (by decide)) fun _ =>
          Only.bind (ofClosing (only_tripOvernightExposure ..) (by decide)) fun _ =>
          ofClosing_resolveFlattenOutcome ..) (by decide)
  · refine Leads.seq (leads_observe self (judgeDiscipline_lets (by decide))) ?_
    intro past₁ observation hobs
    refine Leads.seq (keeps_recorded (only_tripUnlessBookKnown ..) (by decide) hobs.recorded) ?_
    intro past₂ _ h₂
    dsimp only
    split
    · exact Leads.ret.mpr trivial
    refine Leads.next trivial fun claimed _ => ?_
    refine Leads.seq (keeps_recorded (only_tripOvernightExposure ..) (by decide) (by exact h₂)) ?_
    intro past₃ _ h₃
    split
    · exact judges_nothing (show Only (About closeTopics) _ from
          Only.bind (only_ask rfl) fun _ => ofClosing_resolveFlattenOutcome ..) (by decide)
    · exact Leads.seq (judges_commitFlatten h₃) fun _ _ _ => Leads.ret.mpr trivial

theorem judges_runOnce : Judges past self.runOnce := by
  refine Leads.seq judges_flattenOnce fun past₁ _ _ => ?_
  refine Leads.next trivial fun now _ => Leads.next trivial fun capsules _ => ?_
  refine Leads.seq (Leads.mono (Leads.collect (I := fun _ _ _ => True)
    (fun _ _ _ _ _ => judges_process) _ [] trivial) fun _ _ _ => trivial) fun past₂ _ _ => ?_
  exact Leads.seq judges_reconcileOnce fun _ _ _ => Leads.ret.mpr trivial

theorem program_judges (q : Task) :
    Conforms judgeDiscipline.protocol [] q.program fun _ _ => True := by
  have hjudges : Judges [] q.program := by
    unfold Task.program
    split
    · exact Leads.seq judges_runOnce fun _ _ _ => Leads.ret.mpr trivial
    · exact judges_nothing (Only.bind (ofRecords_resolvePendingOnce _) fun _ => trivial)
        (by decide)
    · exact Leads.seq judges_reconcileOnce fun _ _ _ => Leads.ret.mpr trivial
  exact Conforms.mono (fun _ _ _ => trivial) hjudges

/-! ## What a pass has read, and whose it is -/

omit [Externals] in
/-- Every snapshot and every set of children a pass has read is the one it had
recorded last. -/
def OwnReads : Past → Prop
  | [] => True
  | ⟨.latestAccountSnapshot, .ok snapshot⟩ :: past =>
      (∃ observation, (sight past).recorded = some observation
        ∧ snapshot = some observation.account) ∧ OwnReads past
  | ⟨.positionsFor id, .ok rows⟩ :: past =>
      (∃ observation, (sight past).recorded = some observation
        ∧ id = observation.account.snapshotId ∧ rows = observation.positions) ∧ OwnReads past
  | ⟨.pendingOrdersFor id, .ok rows⟩ :: past =>
      (∃ observation, (sight past).recorded = some observation
        ∧ id = observation.account.snapshotId ∧ rows = observation.pendingOrders)
        ∧ OwnReads past
  | _ :: past => OwnReads past

/--
What others may not do to a pass between its recording and its lookups: record an
account observed no earlier than its own, or rows under its own snapshot's id.
-/
def Undisturbed : Guard := fun v m c =>
  ∀ i o q past observation, m = .call i o → v.seen i = some (q, past) →
    (sight past).recorded = some observation →
    match c with
    | some .latestAccountSnapshot =>
        Table.Latest (·.observedAtUtc) v.world.db.brokerAccountSnapshots observation.account
    | some (.positionsFor _) =>
        v.world.db.positionsFor observation.account.snapshotId = observation.positions
    | some (.pendingOrdersFor _) =>
        v.world.db.pendingOrdersFor observation.account.snapshotId = observation.pendingOrders
    | _ => True

/-- What a pass has read is its own, and so is what it has looked up. -/
structure JudgesOwn (past : Past) : Prop where
  reads : OwnReads past
  lookup : ∀ snapshot, lookedUp past = some snapshot →
    ∃ observation, (sight past).recorded = some observation ∧ snapshot = observation.account

omit [Externals] in
/-- Only a recording changes what is recorded. -/
theorem recorded_cons {c : Call} (h : ∀ observation, c ≠ .record observation)
    (a : Except PyError c.Answer) :
    (sight (⟨c, a⟩ :: past)).recorded = (sight past).recorded := by
  cases c <;> first
    | rfl
    | (cases a <;> rfl)
    | exact absurd rfl (h _)

/-- **One call keeps a pass judging its own**, when it is let go and undisturbed. -/
theorem JudgesOwn.call {w : World} {o : Oracle} {i : Nat} {c : Call} (h : JudgesOwn past)
    (hallow : judgeDiscipline.allows past c)
    (hguard : ∀ observation, (sight past).recorded = some observation →
      match c with
      | .latestAccountSnapshot =>
          Table.Latest (·.observedAtUtc) w.db.brokerAccountSnapshots observation.account
      | .positionsFor _ => w.db.positionsFor observation.account.snapshotId = observation.positions
      | .pendingOrdersFor _ =>
          w.db.pendingOrdersFor observation.account.snapshotId = observation.pendingOrders
      | _ => True) :
    JudgesOwn (⟨c, (w.serve o i c).1⟩ :: past) := by
  have hserved : (w.serve o i c).1 = (w.answer o.replies i c).1
      ∨ ∃ e, (w.serve o i c).1 = .error e := by
    unfold World.serve
    split
    · split
      · exact .inr ⟨_, rfl⟩
      · exact .inl rfl
    · exact .inl rfl
  generalize (w.serve o i c).1 = a at hserved ⊢
  have hlookup : LeavesLookup c → ∀ snapshot, lookedUp (⟨c, a⟩ :: past) = some snapshot →
      ∃ observation, (sight (⟨c, a⟩ :: past)).recorded = some observation
        ∧ snapshot = observation.account := by
    intro hc snapshot hs
    rw [lookedUp_cons hc] at hs
    rw [recorded_cons (by rintro observation rfl; exact hc)]
    exact h.lookup snapshot hs
  cases c with
  | latestAccountSnapshot =>
      rcases hserved with rfl | ⟨e, rfl⟩
      · obtain ⟨observation, hrec⟩ := hallow
        have hlatest : w.db.latestAccountSnapshot = some observation.account :=
          Database.latestAccountSnapshot_eq_some.mpr (hguard observation hrec)
        refine ⟨⟨⟨observation, hrec, hlatest⟩, h.reads⟩, ?_⟩
        intro snapshot hs
        have hs' : w.db.latestAccountSnapshot = some snapshot := hs
        rw [hlatest] at hs'
        exact ⟨observation, hrec, (Option.some.inj hs').symm⟩
      · exact ⟨h.reads, h.lookup⟩
  | positionsFor id =>
      refine ⟨?_, hlookup trivial⟩
      rcases hserved with rfl | ⟨e, rfl⟩
      · obtain ⟨snapshot, hsnap, rfl⟩ := hallow
        obtain ⟨observation, hrec, rfl⟩ := h.lookup snapshot hsnap
        exact ⟨⟨observation, hrec, rfl, hguard observation hrec⟩, h.reads⟩
      · exact h.reads
  | pendingOrdersFor id =>
      refine ⟨?_, hlookup trivial⟩
      rcases hserved with rfl | ⟨e, rfl⟩
      · obtain ⟨snapshot, hsnap, rfl⟩ := hallow
        obtain ⟨observation, hrec, rfl⟩ := h.lookup snapshot hsnap
        exact ⟨⟨observation, hrec, rfl, hguard observation hrec⟩, h.reads⟩
      · exact h.reads
  | record observation => exact ⟨h.reads, fun snapshot hs => by cases hs⟩
  | _ => exact ⟨h.reads, hlookup trivial⟩

/--
**A reconciliation judges its own pass's observation**, in every run of any number of
workers in which nobody records a later snapshot, or rows under the pass's own, between
its recording and its lookups.
-/
theorem reconcile_reads_own {w : World} {s : Config Nat Task World Call Call.Answer PyError}
    (h : ReachUnder Undisturbed w s) {i : Nat} {t : Thread Task Call Call.Answer PyError}
    (ht : s.threads i = some t) : OwnReads t.past := by
  have hfresh : JudgesOwn [] := ⟨trivial, fun _ hs => by cases hs⟩
  have hown := Machine.Reach.threads (D := fun _ _ => judgeDiscipline)
    (I := fun _ _ _ past => JudgesOwn past) (fun _ q => program_judges q)
    (fun _ _ _ _ _ => trivial) (fun _ => rfl) (fun _ _ _ _ => hfresh) ?_
    (fun _ _ _ _ _ _ _ _ h => h) (fun _ _ _ _ _ _ h => h) (fun _ _ _ _ _ h => h) h ht
  · exact hown.reads
  intro v o i q past c hi hI hallow hG
  refine hI.call hallow fun observation hrec => ?_
  have hg := hG i o q past observation rfl hi hrec
  cases c <;> exact hg

end

/-! ## A pass that judges its own observation, and one that judges another's -/

/-- The step leaves the pass it serves undisturbed. -/
def servesOwn (s : Config Nat Task World Call Call.Answer PyError)
    (m : Move Nat Task Oracle World.Event) : Bool :=
  match m with
  | .call i _ => ((s.threads i).bind fun t => (sight t.past).recorded).all fun observation =>
      match Machine.asked s m with
      | some .latestAccountSnapshot =>
          decide (s.world.db.latestAccountSnapshot = some observation.account)
      | some (.positionsFor _) =>
          decide (s.world.db.positionsFor observation.account.snapshotId = observation.positions)
      | some (.pendingOrdersFor _) =>
          decide (s.world.db.pendingOrdersFor observation.account.snapshotId
            = observation.pendingOrders)
      | _ => true
  | _ => true

theorem undisturbed_of_servesOwn {s : Config Nat Task World Call Call.Answer PyError}
    {m : Move Nat Task Oracle World.Event} (h : servesOwn s m = true) :
    Undisturbed s.view m (Machine.asked s m) := by
  rintro i o q past observation rfl hseen hrec
  obtain ⟨t, ht, heq⟩ := Option.map_eq_some_iff.mp hseen
  cases heq
  dsimp only [servesOwn] at h
  rw [ht, Option.bind_some, hrec, Option.all_some] at h
  generalize Machine.asked s (Move.call i o : Move Nat Task Oracle World.Event) = asked at h ⊢
  cases asked with
  | none => trivial
  | some c =>
      cases c with
      | latestAccountSnapshot =>
          exact Database.latestAccountSnapshot_eq_some.mp (of_decide_eq_true h)
      | positionsFor id => exact of_decide_eq_true h
      | pendingOrdersFor id => exact of_decide_eq_true h
      | _ => trivial

open Sample in
theorem reconcile_reads_own_sample :
    ∃ s q past order k, ReachUnder Undisturbed Sample.world s
      ∧ s.threads 0 = some ⟨q, past, .call (.orderSend order) k⟩ ∧ OwnReads past := by
  have hrun : (workers.run servesOwn (Machine.idle Sample.world) observed).any
      (fun s => (dueOrder s 0).isSome) = true := by decide +kernel
  obtain ⟨s, hs, hp⟩ := Machine.Reach.exists_of_run (G := Undisturbed) _ _
    (fun _ _ h => undisturbed_of_servesOwn h) hrun
  obtain ⟨⟨q, past, order⟩, hdue⟩ := Option.isSome_iff_exists.mp hp
  obtain ⟨k, ht⟩ := dueOrder_eq_some hdue
  exact ⟨s, q, past, order, k, hs, ht, reconcile_reads_own hs ht⟩

/-- The last thing read is a snapshot other than the one recorded before. -/
def readsForeign : Past → Bool
  | ⟨.latestAccountSnapshot, .ok snapshot⟩ :: past =>
      (sight past).recorded.any fun observation => decide (snapshot ≠ some observation.account)
  | _ => false

theorem not_ownReads {past : Past} (h : readsForeign past = true) : ¬ OwnReads past := by
  unfold readsForeign at h
  split at h
  · rintro ⟨⟨observation, hrec, hown⟩, -⟩
    rw [hrec] at h
    exact of_decide_eq_true h hown
  · cases h

open Sample in
/-- A pass judges the account row another process recorded. -/
theorem reconcile_reads_foreign :
    ∃ s t, Reachable Sample.world s ∧ s.threads 0 = some t ∧ ¬ OwnReads t.past := by
  have hrun : (workers.run Machine.unchecked (Machine.idle Sample.world)
      (overlooked.take 26)).any (fun s => (s.threads 0).any fun t => readsForeign t.past)
        = true := by decide +kernel
  obtain ⟨s, hs, hp⟩ := Machine.Reach.exists_of_run (G := Machine.Always) _ _
    (fun _ _ _ => trivial) hrun
  obtain ⟨t, ht, hforeign⟩ := (Option.any_eq_true _ _).mp hp
  exact ⟨s, t, hs, ht, not_ownReads hforeign⟩

end Crumblr
