import Crumblr.Proof.Parts
import Crumblr.Proof.Scene

/-!
# What the recorded events carry

Whoever reads a history back relies on the payloads it finds there. Every event a
worker records is checked here once: a commitment carries the order it commits to, a
resolution what the recovery found, a flatten its plan and its outcome. So the events
of any store workers have written to can be read.
-/

namespace Crumblr

open ExecutionOrchestrator

variable [Externals]

/-- What a recovery has found, as it records it. -/
inductive Resolution : Option Json → Prop where
  /-- One position, or nothing. -/
  | found (orderRequestId : Uuid) (positions : List PositionState) :
      Resolution (some (ambiguousPayload orderRequestId positions))
  /-- Several positions under one magic. -/
  | shared (orderRequestId : Uuid) (positions : List PositionState) :
      Resolution (some (integrityPayload orderRequestId positions))
  /-- Several resting orders under one magic. -/
  | sharedPending (orderRequestId : Uuid) (orders : List PendingOrderState) :
      Resolution (some (integrityPendingPayload orderRequestId orders))

/-- The events of a request that are read back carry what their readers expect. -/
structure WellRecorded (e : ExecutionEventRecord) : Prop where
  /-- A commitment carries its order. -/
  started : e.eventType = .submissionStarted → ∃ order : ApprovedOrder, e.payload = some order.dump
  /-- A resolution carries what was found. -/
  resolved : e.eventType = .ambiguousOutcomeResolved → Resolution e.payload

/-- The events of an occurrence that are read back carry what their readers expect. -/
structure WellRecordedFlatten (e : FlattenEventRecord) : Prop where
  /-- A commitment carries its plan. -/
  started : e.eventType = .flattenSubmissionStarted →
    ∃ plan : FlattenPlan, e.payload = some plan.dump
  /-- An outcome carries what became of the targets. -/
  resolved : e.eventType = .flattenOutcomeResolved → ∃ targets stillOpen flattened,
    e.payload = some (flattenOutcomePayload targets stillOpen flattened)

/-- The call records nothing that cannot be read back. -/
def RecordsWell : Call → Prop
  | .append e => WellRecorded e
  | .consumeAndStart _ _ _ payload => ∃ order : ApprovedOrder, payload = order.dump
  | .appendFlatten e => WellRecordedFlatten e
  | _ => True

variable {α : Type}

/-- Most events are never read back for their payload. -/
theorem wellRecorded_of_ne {e : ExecutionEventRecord} (hs : e.eventType ≠ .submissionStarted)
    (hr : e.eventType ≠ .ambiguousOutcomeResolved) : WellRecorded e :=
  ⟨fun h => absurd h hs, fun h => absurd h hr⟩

omit [Externals] in
theorem wellRecordedFlatten_of_ne {e : FlattenEventRecord}
    (hs : e.eventType ≠ .flattenSubmissionStarted)
    (hr : e.eventType ≠ .flattenOutcomeResolved) : WellRecordedFlatten e :=
  ⟨fun h => absurd h hs, fun h => absurd h hr⟩

/-- What is about no history records nothing. -/
theorem recordsWell_of_about {topics : List Topic} {p : Pass α} (hp : Only (About topics) p)
    (h : ∀ t ∈ topics, t ≠ .recording ∧ t ≠ .flattening) : Only RecordsWell p := by
  refine Only.mono (fun c hc => ?_) hp
  have ht := h _ hc.mem
  cases c <;> first
    | trivial | exact absurd rfl ht.1 | exact absurd rfl ht.2

/-! ## The entry chain -/

theorem recordsWell_append {orderRequestId : Uuid} {eventType : ExecutionEventType}
    {now : UtcDatetime} {reasonCodes : List ReasonCode} {detail : Option String}
    {payload : Option Json}
    (h : WellRecorded ⟨orderRequestId, eventType, now, reasonCodes, detail, payload⟩) :
    Only RecordsWell (append orderRequestId eventType now reasonCodes detail payload) :=
  Only.bind (only_ask h) fun _ => trivial

theorem recordsWell_refuse {orderRequestId : Uuid} {capsule : DecisionCapsule}
    {eventType : ExecutionEventType} {reasonCodes : List ReasonCode} {now : UtcDatetime}
    {detail : Option String} {payload : Option Json}
    (h : WellRecorded ⟨orderRequestId, eventType, now, reasonCodes, detail, payload⟩) :
    Only RecordsWell (refuse orderRequestId capsule eventType reasonCodes now detail payload) :=
  Only.bind (recordsWell_append h) fun _ => trivial

theorem recordsWell_trip (reasonCodes : List ReasonCode) (trippedBy : String)
    (now : UtcDatetime) (detail : Option String) :
    Only RecordsWell (tripUnlessHalted reasonCodes trippedBy now detail) :=
  recordsWell_of_about (only_tripUnlessHalted ..) (by decide)

theorem recordsWell_observe (self : ExecutionOrchestrator) (environment : Environment) :
    Only RecordsWell (self.observe environment) :=
  recordsWell_of_about (only_observe ..) (by decide)

theorem recordsWell_reconcile (expectation : ExpectedState) (now : UtcDatetime) :
    Only RecordsWell (reconcile expectation now) :=
  recordsWell_of_about (only_reconcile ..) (by decide)

omit [Externals] in
/-- The event a broker response is recorded as is neither a commitment nor a resolution. -/
theorem normalized_ne {result : ExecutionResult} {eventType : ExecutionEventType} {payload : Json}
    (h : normalizeExecutionResult result = .ok (eventType, payload)) :
    eventType ≠ .submissionStarted ∧ eventType ≠ .ambiguousOutcomeResolved := by
  unfold normalizeExecutionResult at h
  split at h <;> cases h <;> exact ⟨by decide, by decide⟩

theorem recordsWell_sendOrder (p : Prepared) : Only RecordsWell (sendOrder p) := by
  refine Only.bind (Only.rescue (Only.bind (only_ask trivial) fun _ => trivial) fun e => ?_)
    fun result => ?_
  · split <;> trivial
  · split
    · trivial
    refine only_bind_lift fun event hevent => ?_
    obtain ⟨eventType, payload⟩ := event
    obtain ⟨hs, hr⟩ := normalized_ne hevent
    exact Only.bind (only_ask trivial) fun _ =>
      Only.bind (recordsWell_append (wellRecorded_of_ne hs hr)) fun _ => trivial

theorem recordsWell_attemptRealEntrySubmission (self : ExecutionOrchestrator)
    (canaryConfig : CanaryEntrySubmissionConfig) (p : Prepared) :
    Only RecordsWell (self.attemptRealEntrySubmission canaryConfig p) := by
  have hblocked : ∀ reasons, Only RecordsWell (refuse p.orderRequestId p.capsule
      .canaryPermitBlocked reasons p.finalNow none none) :=
    fun _ => recordsWell_refuse (wellRecorded_of_ne (by simp) (by simp))
  unfold attemptRealEntrySubmission
  split
  · exact hblocked _
  refine Only.bind (only_ask trivial) fun permit => Only.bind only_lift fun mismatches => ?_
  split
  · exact hblocked _
  refine Only.bind only_lift fun permit => Only.bind (only_ask ⟨p.order, rfl⟩) fun outcome => ?_
  split
  · exact recordsWell_sendOrder p
  · exact hblocked _

theorem recordsWell_checkAndSubmit (self : ExecutionOrchestrator) (p : Prepared) :
    Only RecordsWell (self.checkAndSubmit p) := by
  refine Only.bind (only_ask trivial) fun check => Only.bind (recordsWell_append ?_) fun _ => ?_
  · refine wellRecorded_of_ne ?_ ?_ <;> dsimp only <;> split <;> decide
  split
  · trivial
  refine Only.bind (Only.bind (only_ask trivial) fun _ =>
    Only.bind (recordsWell_append ?_) fun _ => trivial) fun decision => ?_
  · refine wellRecorded_of_ne ?_ ?_ <;> dsimp only <;> split <;> decide
  split
  · trivial
  split
  · exact Only.bind (recordsWell_append ⟨fun _ => ⟨p.order, rfl⟩, by simp⟩) fun _ => trivial
  · exact recordsWell_attemptRealEntrySubmission ..

theorem recordsWell_finalRisk (self : ExecutionOrchestrator) (q : Priced) :
    Only RecordsWell (self.finalRisk q) := by
  refine Only.bind (only_ask trivial) fun _ => Only.bind (only_ask trivial) fun _ =>
    Only.bind only_lift fun finalRisk => ?_
  split
  · exact recordsWell_refuse (wellRecorded_of_ne (by simp) (by simp))
  · exact Only.bind only_lift fun _ => Only.bind only_lift fun _ => Only.bind only_lift fun _ =>
      Only.bind (recordsWell_append (wellRecorded_of_ne (by simp) (by simp))) fun _ =>
      recordsWell_checkAndSubmit ..

theorem recordsWell_priceAndRisk (self : ExecutionOrchestrator) (capsule : DecisionCapsule)
    (chain : ApprovalChain) (orderRequestId : Uuid) (observation : BrokerStateObservation)
    (account : AccountState) (now : UtcDatetime) :
    Only RecordsWell (self.priceAndRisk capsule chain orderRequestId observation account now) := by
  have hblocked : ∀ reasons now detail, Only RecordsWell (refuse orderRequestId capsule
      .finalRiskBlocked reasons now detail none) :=
    fun _ _ _ => recordsWell_refuse (wellRecorded_of_ne (by simp) (by simp))
  refine Only.bind (only_ask trivial) fun spec => ?_
  split
  · exact hblocked ..
  refine Only.bind (only_ask trivial) fun ticks => ?_
  split
  · exact hblocked ..
  refine Only.bind only_lift fun snapshot => Only.bind (only_ask trivial) fun finalNow =>
    Only.bind ?_ fun recovered => ?_
  · exact Only.rescue (Only.bind
      (recordsWell_of_about (only_recoverRiskSession ..) (by decide)) fun _ => trivial)
      fun _ => trivial
  split
  · exact Only.bind (recordsWell_trip ..) fun _ => hblocked ..
  split
  · exact Only.bind (recordsWell_trip ..) fun _ => hblocked ..
  · exact recordsWell_finalRisk ..

theorem recordsWell_processClaimed (self : ExecutionOrchestrator) (capsule : DecisionCapsule)
    (chain : ApprovalChain) (orderRequestId : Uuid) (now : UtcDatetime) :
    Only RecordsWell (self.processClaimed capsule chain orderRequestId now) := by
  refine Only.bind (recordsWell_append (wellRecorded_of_ne (by simp) (by simp))) fun _ => ?_
  dsimp only
  split
  · exact recordsWell_refuse (wellRecorded_of_ne (by simp) (by simp))
  refine Only.bind (only_ask trivial) fun killSwitch => ?_
  split
  · exact recordsWell_refuse (wellRecorded_of_ne (by simp) (by simp))
  refine Only.bind (recordsWell_observe ..) fun observation => Only.bind only_lift fun account =>
    Only.bind (recordsWell_reconcile ..) fun result => ?_
  split
  · exact recordsWell_refuse (wellRecorded_of_ne (by simp) (by simp))
  · exact recordsWell_priceAndRisk ..

theorem recordsWell_recoverAmbiguousSubmission (orderRequestId : Uuid)
    (capsule : DecisionCapsule) :
    Only RecordsWell (recoverAmbiguousSubmission orderRequestId capsule) := by
  have hresolve : ∀ now payload, Resolution (some payload) →
      Only RecordsWell (resolveAmbiguous orderRequestId capsule now payload) :=
    fun _ _ h => Only.bind (recordsWell_append ⟨by simp, fun _ => h⟩) fun _ => trivial
  refine Only.bind (only_ask trivial) fun events => ?_
  split
  · trivial
  refine Only.bind (only_ask trivial) fun positions => Only.bind (only_ask trivial) fun now => ?_
  dsimp only
  split
  · exact Only.bind (hresolve _ _ (.shared ..)) fun _ =>
      Only.bind (recordsWell_trip ..) fun _ => trivial
  split
  · refine Only.bind (only_ask trivial) fun orders => ?_
    split
    · exact Only.bind (hresolve _ _ (.sharedPending ..)) fun _ =>
        Only.bind (recordsWell_trip ..) fun _ => trivial
    split
    · trivial
    · exact Only.bind (hresolve _ _ (.found ..)) fun _ => trivial
  · exact Only.bind (hresolve _ _ (.found ..)) fun _ => trivial

theorem recordsWell_process (self : ExecutionOrchestrator) (capsule : DecisionCapsule)
    (now : UtcDatetime) : Only RecordsWell (self.process capsule now) := by
  refine Only.bind only_lift fun chain => ?_
  split
  · trivial
  refine Only.bind (only_ask trivial) fun claimed => ?_
  split
  · exact Only.bind (recordsWell_processClaimed ..) fun _ => trivial
  · exact recordsWell_recoverAmbiguousSubmission ..

/-! ## Reconciling and resolving -/

theorem recordsWell_reconcileOnce (self : ExecutionOrchestrator) :
    Only RecordsWell self.reconcileOnce := by
  refine Only.bind (only_ask trivial) fun candidates => ?_
  split
  · trivial
  refine Only.bind (Only.collect fun _ _ => Only.bind (only_ask trivial) fun _ => trivial)
    fun histories => ?_
  split
  · trivial
  refine Only.bind (only_ask trivial) fun flattens => Only.bind only_lift fun exposure =>
    Only.bind (only_ask trivial) fun now => Only.bind (recordsWell_observe ..) fun observation =>
    Only.bind (recordsWell_reconcile ..) fun result => ?_
  split
  · trivial
  refine Only.collect fun history _ => ?_
  obtain ⟨rid, events⟩ := history
  unfold reconcileRequest
  dsimp only
  split
  · trivial
  · exact Only.bind only_lift fun _ => Only.bind only_lift fun _ =>
      Only.bind (recordsWell_of_about (only_tripOnIssues ..) (by decide)) fun _ =>
      Only.bind (recordsWell_append (wellRecorded_of_ne (by simp) (by simp))) fun _ => trivial

theorem recordsWell_resolvePendingOnce (self : ExecutionOrchestrator) :
    Only RecordsWell self.resolvePendingOnce := by
  refine Only.bind (only_ask trivial) fun ids => ?_
  split
  · trivial
  refine Only.bind (only_ask trivial) fun now => Only.bind (only_ask trivial) fun positions =>
    Only.bind (only_ask trivial) fun orders => Only.collect fun r _ => ?_
  refine Only.bind (only_ask trivial) fun events => ?_
  split
  · trivial
  split
  · trivial
  refine Only.bind only_lift fun ticket => ?_
  split
  · trivial
  split
  · trivial
  split
  · trivial
  · exact Only.bind (recordsWell_append (wellRecorded_of_ne (by simp) (by simp))) fun _ => trivial
  · exact Only.bind (recordsWell_append ⟨by simp, fun _ => .shared ..⟩) fun _ =>
      Only.bind (recordsWell_trip ..) fun _ => trivial

/-! ## Flattening -/

theorem recordsWell_appendFlatten {flattenRequestId : Uuid} {eventType : FlattenEventType}
    {now : UtcDatetime} {reasonCodes : List ReasonCode} {detail : Option String}
    {payload : Option Json}
    (h : WellRecordedFlatten ⟨flattenRequestId, eventType, now, reasonCodes, detail, payload⟩) :
    Only RecordsWell (appendFlatten flattenRequestId eventType now reasonCodes detail payload) :=
  Only.bind (only_ask h) fun _ => trivial

theorem recordsWell_settleFlatten (flattenRequestId : Uuid)
    (instructions open_ : List FlattenInstruction) (attempted : Bool) (now : UtcDatetime) :
    Only RecordsWell (settleFlatten flattenRequestId instructions open_ attempted now) := by
  have houtcome : ∀ stillOpen flattened, Only RecordsWell (appendFlatten flattenRequestId
      .flattenOutcomeResolved now [] none (some (flattenOutcomePayload
        (instructions.map (·.ticket)) stillOpen flattened))) :=
    fun _ _ => recordsWell_appendFlatten ⟨by simp, fun _ => ⟨_, _, _, rfl⟩⟩
  unfold settleFlatten
  dsimp only
  split
  · exact Only.bind (houtcome ..) fun _ => trivial
  split
  · exact Only.bind (recordsWell_trip ..) fun _ => trivial
  · exact Only.bind (houtcome ..) fun _ => trivial

theorem recordsWell_resolveFlattenOutcome (self : ExecutionOrchestrator) (flattenRequestId : Uuid)
    (positions : List PositionState) (events : List FlattenEventRecord) (now : UtcDatetime) :
    Only RecordsWell (self.resolveFlattenOutcome flattenRequestId positions events now) := by
  unfold resolveFlattenOutcome
  split
  · trivial
  split
  · trivial
  refine Only.bind only_lift fun instructions => Only.bind ?_ fun _ => trivial
  unfold attemptAndResolveFlatten
  dsimp only
  split
  · exact Only.bind (recordsWell_of_about (only_closes _) (by decide)) fun _ =>
      Only.bind (recordsWell_observe ..) fun _ => Only.bind (only_ask trivial) fun _ =>
      recordsWell_settleFlatten ..
  · exact recordsWell_settleFlatten ..

theorem recordsWell_commitFlatten (self : ExecutionOrchestrator) (m : FlattenMoment)
    (observation : BrokerStateObservation) (pastDeadline crossedWeeklyClose : Bool) :
    Only RecordsWell (self.commitFlatten m observation pastDeadline crossedWeeklyClose) := by
  have hgate : ∀ t now reasons payload, t ≠ .flattenSubmissionStarted →
      t ≠ .flattenOutcomeResolved → Only RecordsWell
        (appendFlatten m.flattenRequestId t now reasons none payload) :=
    fun _ _ _ _ hs hr => recordsWell_appendFlatten (wellRecordedFlatten_of_ne hs hr)
  refine Only.bind (hgate _ _ _ _ (by decide) (by decide)) fun _ =>
    Only.bind only_lift fun account => Only.bind (recordsWell_reconcile ..) fun result =>
    Only.bind (only_ask trivial) fun killSwitch => ?_
  dsimp only
  split
  · exact Only.bind (hgate _ _ _ _ (by decide) (by decide)) fun _ => trivial
  · exact Only.bind (hgate _ _ _ _ (by decide) (by decide)) fun _ => Only.bind only_lift fun plan =>
      Only.bind (recordsWell_appendFlatten ⟨fun _ => ⟨plan, rfl⟩, by simp⟩) fun _ => trivial

theorem recordsWell_flattenOnce (self : ExecutionOrchestrator) :
    Only RecordsWell self.flattenOnce := by
  refine Only.bind (only_ask trivial) fun now => ?_
  split
  · trivial
  rename_i m _
  refine Only.bind (only_ask trivial) fun priorEvents => ?_
  split
  · unfold flattenClaimed
    split
    · trivial
    · exact Only.bind (recordsWell_observe ..) fun _ =>
        Only.bind (recordsWell_of_about (only_tripOvernightExposure ..) (by decide)) fun _ =>
        recordsWell_resolveFlattenOutcome ..
  · refine Only.bind (recordsWell_observe ..) fun observation =>
      Only.bind (recordsWell_of_about (only_tripUnlessBookKnown ..) (by decide)) fun _ => ?_
    dsimp only
    split
    · trivial
    refine Only.bind (only_ask trivial) fun claimed =>
      Only.bind (recordsWell_of_about (only_tripOvernightExposure ..) (by decide)) fun _ => ?_
    split
    · exact Only.bind (only_ask trivial) fun _ => recordsWell_resolveFlattenOutcome ..
    · exact Only.bind (recordsWell_commitFlatten ..) fun _ => trivial

/-! ## Every store workers have written to -/

/-- **No pass records an event that cannot be read back.** -/
theorem recordsWell_program (q : Task) : Only RecordsWell q.program := by
  unfold Task.program
  split
  · refine Only.bind (Only.bind (recordsWell_flattenOnce ..) fun _ =>
      Only.bind (only_ask trivial) fun now => Only.bind (only_ask trivial) fun capsules =>
      Only.bind (Only.collect fun _ _ => recordsWell_process ..) fun _ =>
      Only.bind (recordsWell_reconcileOnce ..) fun _ => trivial) fun _ => trivial
  · exact Only.bind (recordsWell_resolvePendingOnce ..) fun _ => trivial
  · exact Only.bind (recordsWell_reconcileOnce ..) fun _ => trivial

/-- Every event of the ledger can be read back. -/
structure Readable (l : Ledger) : Prop where
  events : ∀ e ∈ l.events, WellRecorded e
  flattenEvents : ∀ e ∈ l.flattenEvents, WellRecordedFlatten e

theorem Readable.effect {l l' : Ledger} {c : Call} {a : Except PyError c.Answer}
    (h : Readable l) (hc : RecordsWell c) (he : Effect l c a l') : Readable l' := by
  cases he with
  | appended e hnew hrow =>
      refine ⟨?_, h.flattenEvents⟩
      intro e' he'
      rcases List.mem_append.mp he' with he' | he'
      · exact h.events e' he'
      · rw [List.mem_singleton.mp he']
        exact hc
  | committed permitId r now payload hfree hnew hrow =>
      refine ⟨?_, h.flattenEvents⟩
      intro e' he'
      obtain ⟨order, rfl⟩ := hc
      rcases List.mem_append.mp he' with he' | he'
      · exact h.events e' he'
      · rw [List.mem_singleton.mp he']
        exact ⟨fun _ => ⟨order, rfl⟩, by simp⟩
  | appendedFlatten e hnew hrow =>
      refine ⟨h.events, ?_⟩
      intro e' he'
      rcases List.mem_append.mp he' with he' | he'
      · exact h.flattenEvents e' he'
      · rw [List.mem_singleton.mp he']
        exact hc
  | _ => exact ⟨h.events, h.flattenEvents⟩

/-- **What workers have recorded can be read.** -/
theorem readable_reachable {G : Guard} {w : World}
    {s : Config Nat Task World Call Call.Answer PyError} (hinit : Readable w.ledger)
    (h : ReachUnder G w s) : Readable s.world.ledger := by
  refine (Machine.Reach.world (I := fun w => Readable w.ledger)
    (fun _ q => recordsWell_program q) ?_ ?_ ?_ (fun _ => rfl) hinit h).1
  · exact fun o i w c hw hc => hw.effect hc (serve_effect o i w c)
  · intro i w hw
    have hl : (workers.restart i w).ledger = w.ledger := restart_ledger i w
    rw [hl]
    exact hw
  · intro n w hw
    obtain ⟨sends, hl, -⟩ := nature_ledger n w
    show Readable (World.nature n w).ledger
    rw [hl]
    exact ⟨hw.events, hw.flattenEvents⟩

end Crumblr
