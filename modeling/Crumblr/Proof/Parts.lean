import Crumblr.Proof.Knowledge

/-!
# Which calls each part of a pass makes

Calls fall into a few kinds, and each function of the worker makes calls of some
kinds only. The entry chain never touches a flatten, a flatten never touches a
request, a halt reads and writes nothing but the kill switch. What a function makes
no calls about, it leaves as it was.
-/

namespace Crumblr

open ExecutionOrchestrator

/-- What a call is about. -/
inductive Topic where
  /-- The time, or a fresh id. -/
  | time
  /-- The kill switch. -/
  | halting
  /-- The broker's account and books, as they are now. -/
  | watching
  /-- The stored broker state. -/
  | judging
  /-- The stored instrument specifications. -/
  | specifying
  /-- Which capsules there are. -/
  | capsules
  /-- What the entry chain and reconciliation look up. -/
  | asking
  /-- A request's history. -/
  | recording
  /-- A request's order. -/
  | sending
  /-- An occurrence's history. -/
  | flattening
  /-- The closing of a position. -/
  | closing
  deriving DecidableEq, Repr

def Call.topic : Call → Topic
  | .clock | .uuid4 => .time
  | .killSwitch | .trip _ => .halting
  | .accountWithExtras | .terminalHealth | .positions | .pendingOrders | .record _ => .watching
  | .latestAccountSnapshot | .positionsFor _ | .pendingOrdersFor _ => .judging
  | .latestSpec _ => .specifying
  | .readAll .. => .capsules
  | .countEventsSince .. | .requestIdsWithEvent .. | .permitFor _ | .occurrenceHistories ..
  | .loadRiskSession _ | .ticks .. | .orderCheck _ => .asking
  | .claim _ | .append _ | .eventsFor _ | .consumeAndStart .. => .recording
  | .orderSend _ => .sending
  | .claimFlatten _ | .appendFlatten _ | .flattenEventsFor _ => .flattening
  | .closePosition _ => .closing

/-- The call is about one of these. -/
def About (topics : List Topic) (c : Call) : Prop := topics.contains c.topic = true

theorem About.mem {topics : List Topic} {c : Call} (hc : About topics c) : c.topic ∈ topics :=
  List.contains_iff_mem.mp hc

theorem About.mono {topics topics' : List Topic} (h : ∀ t ∈ topics, t ∈ topics') (c : Call)
    (hc : About topics c) : About topics' c := List.contains_iff_mem.mpr (h _ hc.mem)

/-- A call is quiet when it is about no history and sends no order. -/
theorem About.quiet {topics : List Topic}
    (h : ∀ t ∈ topics, t ≠ .recording ∧ t ≠ .sending ∧ t ≠ .flattening) (c : Call)
    (hc : About topics c) : Quiet c := by
  have ht := h _ hc.mem
  cases c <;> first
    | trivial | exact absurd rfl ht.1 | exact absurd rfl ht.2.1 | exact absurd rfl ht.2.2

variable {α : Type} {topics : List Topic}

theorem only_ask {N : Call → Prop} {c : Call} (hc : N c) : Only N (ask c) := Only.perform hc

theorem only_lift {N : Call → Prop} {x : Except PyError α} : Only N (lift x) := Only.ofExcept

/-- A pure computation, and then the rest with its value. -/
theorem only_bind_lift {β : Type} {N : Call → Prop} {x : Except PyError α} {f : α → Pass β}
    (hf : ∀ a, x = .ok a → Only N (f a)) : Only N (Prog.bind (lift x) f) := by
  cases x with
  | ok a => exact hf a rfl
  | error e => trivial

theorem leads_lift {S β : Type} {P : Protocol S Call Call.Answer PyError} {s : S}
    {x : Except PyError α} {f : α → Pass β} {Q : S → β → Prop}
    (hf : ∀ a, x = .ok a → Leads P s (f a) Q) : Leads P s (Prog.bind (lift x) f) Q :=
  Leads.bind.mpr (Leads.ofExcept.mpr hf)

/-! ## What both halves of a pass use -/

theorem only_orFailed {N : Call → Prop} {read : Pass (List α)} (hr : Only N read) :
    Only N (orFailed read) := by
  refine Only.rescue (Only.bind hr fun _ => trivial) fun e => ?_
  split <;> trivial

theorem only_tripUnlessHalted (reasonCodes : List ReasonCode) (trippedBy : String)
    (now : UtcDatetime) (detail : Option String) :
    Only (About [.halting]) (tripUnlessHalted reasonCodes trippedBy now detail) := by
  refine Only.bind (only_ask rfl) fun k => ?_
  split
  · trivial
  · split
    · trivial
    · exact only_ask rfl

theorem only_tripOvernightExposure (positions : List PositionState) (now : UtcDatetime) :
    Only (About [.halting]) (tripOvernightExposure positions now) := by
  unfold tripOvernightExposure
  split
  · trivial
  · exact only_tripUnlessHalted ..

theorem only_tripOnIssues (orderRequestId : Uuid) (issues : List ProtectiveStopIssue)
    (now : UtcDatetime) : Only (About [.halting]) (tripOnIssues orderRequestId issues now) := by
  unfold tripOnIssues
  split
  · trivial
  · exact only_tripUnlessHalted ..

theorem only_closes (instructions : List FlattenInstruction) :
    Only (About [.closing]) (Prog.forEach tryClose instructions) :=
  Only.forEach fun _ _ =>
    Only.rescue (Only.bind (only_ask rfl) fun _ => trivial) fun _ => trivial

variable [Externals]

theorem only_tripUnlessBookKnown (self : ExecutionOrchestrator) (m : FlattenMoment)
    (observation : BrokerStateObservation) :
    Only (About [.halting]) (self.tripUnlessBookKnown m observation) := by
  unfold tripUnlessBookKnown
  split
  · exact only_tripUnlessHalted ..
  · trivial

theorem only_captureBrokerState (environment : Environment) (canonicalSymbol : String) :
    Only (About [.time, .watching]) (captureBrokerState environment canonicalSymbol) := by
  refine Only.bind (only_ask rfl) fun _ => Only.bind (only_ask rfl) fun _ =>
    Only.bind (only_ask rfl) fun _ => Only.bind (only_ask rfl) fun _ =>
    Only.bind (only_orFailed (only_ask rfl)) fun _ =>
    Only.bind (only_orFailed (only_ask rfl)) fun _ =>
    Only.bind (only_ask rfl) fun _ => trivial

theorem only_observe (self : ExecutionOrchestrator) (environment : Environment) :
    Only (About [.time, .watching]) (self.observe environment) :=
  Only.bind (only_captureBrokerState ..) fun _ =>
    Only.bind (only_ask rfl) fun _ => trivial

theorem only_reconcile (expectation : ExpectedState) (now : UtcDatetime) :
    Only (About [.judging, .specifying]) (reconcile expectation now) := by
  refine Only.bind (only_ask rfl) fun snapshot => ?_
  split
  · trivial
  · split
    · trivial
    · split
      · trivial
      · refine Only.bind (only_ask rfl) fun spec => ?_
        split
        · trivial
        · refine Only.bind (only_ask rfl) fun _ => ?_
          exact Only.bind (only_ask rfl) fun _ => trivial

/-! ## The entry chain -/

/-- What a program is about that looks at the broker and keeps histories. -/
def recordTopics : List Topic := [.time, .halting, .watching, .specifying, .asking, .recording]

/-- The program looks at the broker and keeps histories. -/
abbrev OfRecords (p : Pass α) : Prop := Only (About recordTopics) p

/-- The program may send an order as well. -/
abbrev OfEntry (p : Pass α) : Prop := Only (About (.sending :: recordTopics)) p

/-- The program is a whole entry chain: it judges the stored broker state besides. -/
abbrev OfChain (p : Pass α) : Prop := Only (About (.judging :: .sending :: recordTopics)) p

omit [Externals] in
theorem ofRecords {p : Pass α} (hp : Only (About topics) p) (h : ∀ t ∈ topics, t ∈ recordTopics) :
    OfRecords p := Only.mono (About.mono h) hp

omit [Externals] in
theorem ofEntry {p : Pass α} (hp : Only (About topics) p)
    (h : ∀ t ∈ topics, t ∈ Topic.sending :: recordTopics) : OfEntry p :=
  Only.mono (About.mono h) hp

omit [Externals] in
theorem ofChain {p : Pass α} (hp : Only (About topics) p)
    (h : ∀ t ∈ topics, t ∈ Topic.judging :: .sending :: recordTopics) : OfChain p :=
  Only.mono (About.mono h) hp

omit [Externals] in
theorem ofChain_records {p : Pass α} (hp : OfRecords p) : OfChain p := ofChain hp (by decide)

omit [Externals] in
theorem ofEntry_records {p : Pass α} (hp : OfRecords p) : OfEntry p := ofEntry hp (by decide)

omit [Externals] in
theorem ofRecords_trip {p : Pass α} (hp : Only (About [.halting]) p) : OfRecords p :=
  ofRecords hp (by decide)

omit [Externals] in
theorem ofRecords_append (orderRequestId : Uuid) (eventType : ExecutionEventType)
    (now : UtcDatetime) (reasonCodes : List ReasonCode) (detail : Option String)
    (payload : Option Json) :
    OfRecords (append orderRequestId eventType now reasonCodes detail payload) :=
  Only.bind (only_ask rfl) fun _ => trivial

omit [Externals] in
theorem ofRecords_refuse (orderRequestId : Uuid) (capsule : DecisionCapsule)
    (eventType : ExecutionEventType) (reasonCodes : List ReasonCode) (now : UtcDatetime)
    (detail : Option String) (payload : Option Json) :
    OfRecords (refuse orderRequestId capsule eventType reasonCodes now detail payload) :=
  Only.bind (ofRecords_append ..) fun _ => trivial

omit [Externals] in
theorem ofEntry_sendOrder (p : Prepared) : OfEntry (sendOrder p) := by
  refine Only.bind (Only.rescue (Only.bind (only_ask rfl) fun _ => trivial) fun e => ?_)
    fun result => ?_
  · split <;> trivial
  · split
    · trivial
    · exact Only.bind only_lift fun _ => Only.bind (only_ask rfl) fun _ =>
        Only.bind (ofEntry_records (ofRecords_append ..)) fun _ => trivial

theorem ofEntry_attemptRealEntrySubmission (self : ExecutionOrchestrator)
    (canaryConfig : CanaryEntrySubmissionConfig) (p : Prepared) :
    OfEntry (self.attemptRealEntrySubmission canaryConfig p) := by
  unfold attemptRealEntrySubmission
  split
  · exact ofEntry_records (ofRecords_refuse ..)
  · refine Only.bind (only_ask rfl) fun permit => Only.bind only_lift fun mismatches => ?_
    split
    · exact ofEntry_records (ofRecords_refuse ..)
    · refine Only.bind only_lift fun permit => Only.bind (only_ask rfl) fun outcome => ?_
      split
      · exact ofEntry_sendOrder p
      · exact ofEntry_records (ofRecords_refuse ..)

theorem ofEntry_checkAndSubmit (self : ExecutionOrchestrator) (p : Prepared) :
    OfEntry (self.checkAndSubmit p) := by
  refine Only.bind (only_ask rfl) fun check => Only.bind (ofEntry_records (ofRecords_append ..)) fun _ => ?_
  split
  · trivial
  · refine Only.bind ?_ fun decision => ?_
    · exact Only.bind (only_ask rfl) fun _ => Only.bind (ofEntry_records (ofRecords_append ..)) fun _ => trivial
    · split
      · trivial
      · split
        · exact Only.bind (ofEntry_records (ofRecords_append ..)) fun _ => trivial
        · exact ofEntry_attemptRealEntrySubmission ..

theorem ofEntry_finalRisk (self : ExecutionOrchestrator) (q : Priced) :
    OfEntry (self.finalRisk q) := by
  refine Only.bind (only_ask rfl) fun _ => Only.bind (only_ask rfl) fun _ =>
    Only.bind only_lift fun finalRisk => ?_
  split
  · exact ofEntry_records (ofRecords_refuse ..)
  · exact Only.bind only_lift fun _ => Only.bind only_lift fun _ => Only.bind only_lift fun _ =>
      Only.bind (ofEntry_records (ofRecords_append ..)) fun _ => ofEntry_checkAndSubmit ..

theorem only_recoverRiskSession (self : ExecutionOrchestrator)
    (observation : BrokerStateObservation) (account : AccountState) (now : UtcDatetime) :
    Only (About [.asking]) (self.recoverRiskSession observation account now) :=
  Only.bind (only_ask rfl) fun _ => only_lift

theorem ofEntry_priceAndRisk (self : ExecutionOrchestrator) (capsule : DecisionCapsule)
    (chain : ApprovalChain) (orderRequestId : Uuid) (observation : BrokerStateObservation)
    (account : AccountState) (now : UtcDatetime) :
    OfEntry (self.priceAndRisk capsule chain orderRequestId observation account now) := by
  refine Only.bind (only_ask rfl) fun spec => ?_
  split
  · exact ofEntry_records (ofRecords_refuse ..)
  refine Only.bind (only_ask rfl) fun ticks => ?_
  split
  · exact ofEntry_records (ofRecords_refuse ..)
  refine Only.bind only_lift fun snapshot => Only.bind (only_ask rfl) fun finalNow =>
    Only.bind ?_ fun recovered => ?_
  · exact Only.rescue (Only.bind (ofEntry (only_recoverRiskSession ..) (by decide))
      fun _ => trivial) fun _ => trivial
  split
  · exact Only.bind (ofEntry (only_tripUnlessHalted ..) (by decide)) fun _ => ofEntry_records (ofRecords_refuse ..)
  split
  · exact Only.bind (ofEntry (only_tripUnlessHalted ..) (by decide)) fun _ => ofEntry_records (ofRecords_refuse ..)
  · exact ofEntry_finalRisk ..

theorem ofChain_processClaimed (self : ExecutionOrchestrator) (capsule : DecisionCapsule)
    (chain : ApprovalChain) (orderRequestId : Uuid) (now : UtcDatetime) :
    OfChain (self.processClaimed capsule chain orderRequestId now) := by
  refine Only.bind (ofChain_records (ofRecords_append ..)) fun _ => ?_
  dsimp only
  split
  · exact ofChain_records (ofRecords_refuse ..)
  refine Only.bind (only_ask rfl) fun killSwitch => ?_
  split
  · exact ofChain_records (ofRecords_refuse ..)
  refine Only.bind (ofChain (only_observe ..) (by decide)) fun observation =>
    Only.bind only_lift fun account =>
    Only.bind (ofChain (only_reconcile ..) (by decide)) fun result => ?_
  split
  · exact ofChain_records (ofRecords_refuse ..)
  · exact ofChain (ofEntry_priceAndRisk ..) (by decide)

theorem ofRecords_recoverAmbiguousSubmission (orderRequestId : Uuid) (capsule : DecisionCapsule) :
    OfRecords (recoverAmbiguousSubmission orderRequestId capsule) := by
  have hresolve : ∀ now payload, OfRecords (resolveAmbiguous orderRequestId capsule now payload) :=
    fun _ _ => Only.bind (ofRecords_append ..) fun _ => trivial
  refine Only.bind (only_ask rfl) fun events => ?_
  split
  · trivial
  refine Only.bind (only_ask rfl) fun positions => Only.bind (only_ask rfl) fun now => ?_
  dsimp only
  split
  · exact Only.bind (hresolve ..) fun _ =>
      Only.bind (ofRecords_trip (only_tripUnlessHalted ..)) fun _ => trivial
  split
  · refine Only.bind (only_ask rfl) fun orders => ?_
    split
    · exact Only.bind (hresolve ..) fun _ =>
        Only.bind (ofRecords_trip (only_tripUnlessHalted ..)) fun _ => trivial
    split
    · trivial
    · exact Only.bind (hresolve ..) fun _ => trivial
  · exact Only.bind (hresolve ..) fun _ => trivial

theorem ofChain_process (self : ExecutionOrchestrator) (capsule : DecisionCapsule)
    (now : UtcDatetime) : OfChain (self.process capsule now) := by
  refine Only.bind only_lift fun chain => ?_
  split
  · trivial
  refine Only.bind (only_ask rfl) fun claimed => ?_
  split
  · exact Only.bind (ofChain_processClaimed ..) fun _ => trivial
  · exact ofChain_records (ofRecords_recoverAmbiguousSubmission ..)

omit [Externals] in
theorem ofRecords_reconcileRequest (exposure : DerivedExposure) (positions : List PositionState)
    (status : ReconciliationStatus) (now : UtcDatetime)
    (history : Uuid × List ExecutionEventRecord) :
    OfRecords (reconcileRequest exposure positions status now history) := by
  obtain ⟨rid, events⟩ := history
  unfold reconcileRequest
  dsimp only
  split
  · trivial
  · exact Only.bind only_lift fun _ => Only.bind only_lift fun _ =>
      Only.bind (ofRecords_trip (only_tripOnIssues ..)) fun _ =>
      Only.bind (ofRecords_append ..) fun _ => trivial

theorem only_reconcileOnce (self : ExecutionOrchestrator) :
    Only (About (.judging :: recordTopics)) self.reconcileOnce := by
  have hrecords : ∀ {p : Pass (Option ReconciliationAttemptOutcome)}, OfRecords p →
      Only (About (.judging :: recordTopics)) p := Only.mono (About.mono (by decide))
  refine Only.bind (only_ask rfl) fun candidates => ?_
  split
  · trivial
  refine Only.bind (Only.collect fun _ _ => Only.bind (only_ask rfl) fun _ => trivial)
    fun histories => ?_
  split
  · trivial
  refine Only.bind (only_ask rfl) fun flattens => Only.bind only_lift fun exposure =>
    Only.bind (only_ask rfl) fun now =>
    Only.bind (Only.mono (About.mono (by decide)) (only_observe ..)) fun observation =>
    Only.bind (Only.mono (About.mono (by decide)) (only_reconcile ..)) fun result => ?_
  split
  · trivial
  exact Only.collect fun history _ => hrecords (ofRecords_reconcileRequest ..)

theorem ofRecords_resolvePendingOnce (self : ExecutionOrchestrator) :
    OfRecords self.resolvePendingOnce := by
  refine Only.bind (only_ask rfl) fun ids => ?_
  split
  · trivial
  refine Only.bind (only_ask rfl) fun now => Only.bind (only_ask rfl) fun positions =>
    Only.bind (only_ask rfl) fun orders => Only.collect fun r _ => ?_
  refine Only.bind (only_ask rfl) fun events => ?_
  split
  · trivial
  split
  · trivial
  refine Only.bind only_lift fun ticket => ?_
  split
  · trivial
  split
  · trivial
  split
  · trivial
  · exact Only.bind (ofRecords_append ..) fun _ => trivial
  · exact Only.bind (ofRecords_append ..) fun _ =>
      Only.bind (ofRecords_trip (only_tripUnlessHalted ..)) fun _ => trivial

/-! ## Flattening -/

/-- What a program is about that closes positions and keeps an occurrence's history. -/
def closeTopics : List Topic := [.time, .halting, .watching, .flattening, .closing]

/-- What a flatten is about: it judges the stored broker state besides. -/
def flattenTopics : List Topic := .judging :: .specifying :: closeTopics

/-- The program closes positions and keeps an occurrence's history. -/
abbrev OfClosing (p : Pass α) : Prop := Only (About closeTopics) p

/-- The program is part of a flatten. -/
abbrev OfFlatten (p : Pass α) : Prop := Only (About flattenTopics) p

omit [Externals] in
theorem ofClosing {p : Pass α} (hp : Only (About topics) p)
    (h : ∀ t ∈ topics, t ∈ closeTopics) : OfClosing p := Only.mono (About.mono h) hp

omit [Externals] in
theorem ofFlatten {p : Pass α} (hp : Only (About topics) p)
    (h : ∀ t ∈ topics, t ∈ flattenTopics) : OfFlatten p := Only.mono (About.mono h) hp

omit [Externals] in
theorem ofFlatten_closing {p : Pass α} (hp : OfClosing p) : OfFlatten p :=
  ofFlatten hp (by decide)

omit [Externals] in
theorem ofClosing_appendFlatten (flattenRequestId : Uuid) (eventType : FlattenEventType)
    (now : UtcDatetime) (reasonCodes : List ReasonCode) (detail : Option String)
    (payload : Option Json) :
    OfClosing (appendFlatten flattenRequestId eventType now reasonCodes detail payload) :=
  Only.bind (only_ask rfl) fun _ => trivial

omit [Externals] in
theorem ofClosing_settleFlatten (flattenRequestId : Uuid)
    (instructions open_ : List FlattenInstruction) (attempted : Bool) (now : UtcDatetime) :
    OfClosing (settleFlatten flattenRequestId instructions open_ attempted now) := by
  unfold settleFlatten
  dsimp only
  split
  · exact Only.bind (ofClosing_appendFlatten ..) fun _ => trivial
  split
  · exact Only.bind (ofClosing (only_tripUnlessHalted ..) (by decide)) fun _ => trivial
  · exact Only.bind (ofClosing_appendFlatten ..) fun _ => trivial

theorem ofClosing_resolveFlattenOutcome (self : ExecutionOrchestrator) (flattenRequestId : Uuid)
    (positions : List PositionState) (events : List FlattenEventRecord) (now : UtcDatetime) :
    OfClosing (self.resolveFlattenOutcome flattenRequestId positions events now) := by
  unfold resolveFlattenOutcome
  split
  · trivial
  split
  · trivial
  refine Only.bind only_lift fun instructions => Only.bind ?_ fun _ => trivial
  unfold attemptAndResolveFlatten
  dsimp only
  split
  · exact Only.bind (ofClosing (only_closes _) (by decide)) fun _ =>
      Only.bind (ofClosing (only_observe ..) (by decide)) fun _ =>
      Only.bind (only_ask rfl) fun _ => ofClosing_settleFlatten ..
  · exact ofClosing_settleFlatten ..

theorem ofFlatten_commitFlatten (self : ExecutionOrchestrator) (m : FlattenMoment)
    (observation : BrokerStateObservation) (pastDeadline crossedWeeklyClose : Bool) :
    OfFlatten (self.commitFlatten m observation pastDeadline crossedWeeklyClose) := by
  refine Only.bind (ofFlatten_closing (ofClosing_appendFlatten ..)) fun _ => Only.bind only_lift fun account =>
    Only.bind (ofFlatten (only_reconcile ..) (by decide)) fun result =>
    Only.bind (only_ask rfl) fun killSwitch => ?_
  dsimp only
  split
  · exact Only.bind (ofFlatten_closing (ofClosing_appendFlatten ..)) fun _ => trivial
  · exact Only.bind (ofFlatten_closing (ofClosing_appendFlatten ..)) fun _ => Only.bind only_lift fun _ =>
      Only.bind (ofFlatten_closing (ofClosing_appendFlatten ..)) fun _ => trivial

theorem ofFlatten_flattenOnce (self : ExecutionOrchestrator) : OfFlatten self.flattenOnce := by
  refine Only.bind (only_ask rfl) fun now => ?_
  split
  · trivial
  rename_i m _
  refine Only.bind (only_ask rfl) fun priorEvents => ?_
  split
  · unfold flattenClaimed
    split
    · trivial
    · exact Only.bind (ofFlatten (only_observe ..) (by decide)) fun _ =>
        Only.bind (ofFlatten (only_tripOvernightExposure ..) (by decide)) fun _ =>
        ofFlatten_closing (ofClosing_resolveFlattenOutcome ..)
  · refine Only.bind (ofFlatten (only_observe ..) (by decide)) fun observation =>
      Only.bind (ofFlatten (only_tripUnlessBookKnown ..) (by decide)) fun _ => ?_
    dsimp only
    split
    · trivial
    refine Only.bind (only_ask rfl) fun claimed =>
      Only.bind (ofFlatten (only_tripOvernightExposure ..) (by decide)) fun _ => ?_
    split
    · exact Only.bind (only_ask rfl) fun _ => ofFlatten_closing (ofClosing_resolveFlattenOutcome ..)
    · exact Only.bind (ofFlatten_commitFlatten ..) fun _ => trivial

end Crumblr
