import Crumblr.Application.Execution

/-!
# The passes of a worker

`flattenOnce` decides from the clock and the durable history whether the book must
be flattened, commits to it in one pass and closes in the next. `reconcileOnce` and
`resolvePendingOnce` walk requests, not capsules. `runOnce` is what a timer drives.
-/

namespace Crumblr

namespace ExecutionOrchestrator

variable [Externals] (self : ExecutionOrchestrator)

/-! ## Flattening -/

/-- When a flatten is decided: the moment, and what the calendar makes of it. -/
structure FlattenMoment where
  now : UtcDatetime
  day : Date
  sessionCloseUtc : UtcDatetime
  flattenRequestId : Uuid

/-- The occurrence the clock and the configuration name, when there is one. -/
def flattenMoment (now : UtcDatetime) : Option FlattenMoment :=
  if !(policyFromConfig self.config.intraday).enabled then none
  else
    (self.calendar.weeklyClose now).map fun sessionCloseUtc =>
      { now, day := Sessions.tradingDay now, sessionCloseUtc
        flattenRequestId := flattenRequestIdFor self.config.environment self.canonicalSymbol
          (Sessions.tradingDay now) }

def flattenDeadline (m : FlattenMoment) : UtcDatetime :=
  m.sessionCloseUtc - (policyFromConfig self.config.intraday).flattenOffset

/-- Close one target; whatever goes wrong, the observation after it decides. -/
def tryClose (instruction : FlattenInstruction) : Pass Unit :=
  Prog.rescue (do let _ ← ask (.closePosition instruction)) fun _ => pure ()

/-- The instructions whose tickets are among the open positions. -/
def stillOpen (instructions : List FlattenInstruction) (positions : List PositionState) :
    List FlattenInstruction :=
  instructions.filter fun i => positions.any fun p => p.ticket = i.ticket

/-- The payload of a resolved flatten. -/
def flattenOutcomePayload (targetTickets stillOpenTickets : List Int) (flattened : Bool) : Json :=
  .obj [
    ("target_tickets", .list (targetTickets.map .int)),
    ("still_open_tickets", .list (stillOpenTickets.map .int)),
    ("closed_tickets",
      .list ((targetTickets.filter fun t => t ∉ stillOpenTickets).map .int)),
    ("flattened", .bool flattened)]

/-- Record, or not yet, what became of a flatten's targets. -/
def settleFlatten (flattenRequestId : Uuid) (instructions open_ : List FlattenInstruction)
    (attempted : Bool) (now : UtcDatetime) : Pass FlattenAttemptOutcome := do
  let targetTickets := instructions.map (·.ticket)
  let stillOpenTickets := open_.map (·.ticket)
  let closed := (targetTickets.filter fun t => t ∉ stillOpenTickets).length
  if open_ = [] then
    appendFlatten flattenRequestId .flattenOutcomeResolved now [] none
      (some (flattenOutcomePayload targetTickets [] true))
    pure ⟨flattenRequestId, .flattenOutcomeResolved, [], targetTickets.length, closed⟩
  else if attempted then
    -- a residual after a real attempt: nothing is recorded, the next pass tries again
    tripFlattenCloseFailed flattenRequestId stillOpenTickets now
    pure ⟨flattenRequestId, .flattenSubmissionStarted, [.flattenCloseFailed],
      targetTickets.length, closed⟩
  else
    appendFlatten flattenRequestId .flattenOutcomeResolved now [] none
      (some (flattenOutcomePayload targetTickets stillOpenTickets false))
    pure ⟨flattenRequestId, .flattenOutcomeResolved, [], targetTickets.length, closed⟩

/-- Whether a real close is possible right now. -/
def canClose : Bool := self.flattenCloseAdapter && self.executionConfig.flattenSubmissionEnabled

def attemptAndResolveFlatten (flattenRequestId : Uuid) (positions : List PositionState)
    (instructions : List FlattenInstruction) (now : UtcDatetime) :
    Pass FlattenAttemptOutcome := do
  let open_ := stillOpen instructions positions
  if open_ ≠ [] ∧ self.canClose then
    Prog.forEach tryClose open_
    let observation ← self.observe self.config.environment
    let now ← ask .clock
    settleFlatten flattenRequestId instructions
      (stillOpen instructions observation.positionStates) true now
  else settleFlatten flattenRequestId instructions open_ false now

/-- The instructions a commitment named. -/
def committedInstructions (payload : Option Json) : Except PyError (List FlattenInstruction) :=
  match payload with
  | none => .ok []
  | some p => (instructionsOf p).mapM FlattenInstruction.modelValidate

def resolveFlattenOutcome (flattenRequestId : Uuid) (positions : List PositionState)
    (events : List FlattenEventRecord) (now : UtcDatetime) :
    Pass (Option FlattenAttemptOutcome) := do
  match events.getLast? with
  | none => pure none
  | some last =>
      if last.eventType ≠ .flattenSubmissionStarted then pure none
      else
        let instructions ← lift (committedInstructions last.payload)
        let outcome ← self.attemptAndResolveFlatten flattenRequestId positions instructions now
        pure (some outcome)

def flattenGateContext (observation : BrokerStateObservation) (account : AccountState)
    (status : ReconciliationStatus) (killSwitch : KillSwitch) (flattenRequired : Bool)
    (now : UtcDatetime) : FlattenGateContext where
  environment := self.config.environment
  account := account
  terminalTradeAllowed := observation.account.terminalTradeAllowed.getD false
  positionBookComplete := observation.account.positionSetState = .complete
  reconciliationStatus := status
  killSwitch := killSwitch
  flattenRequired := flattenRequired
  riskConfigVersion := self.config.configVersion
  approvedRiskConfigVersion := self.riskConfig.approvedConfigVersion
  flattenSubmissionEnabled := self.executionConfig.flattenSubmissionEnabled
  feedback20Approved := self.executionConfig.feedback20Approved
  now := now

def flattenGatePayload (context : FlattenGateContext) : Json :=
  .obj [
    ("environment", .str context.environment.value),
    ("terminal_trade_allowed", .bool context.terminalTradeAllowed),
    ("position_book_complete", .bool context.positionBookComplete),
    ("reconciliation_status", .str context.reconciliationStatus.value),
    ("flatten_required", .bool context.flattenRequired),
    ("risk_config_version", .str context.riskConfigVersion),
    ("approved_risk_config_version", .opt .str context.approvedRiskConfigVersion),
    ("flatten_submission_enabled", .bool context.flattenSubmissionEnabled),
    ("feedback_2_0_approved", .bool context.feedback20Approved)]

/-- Gate a just-claimed occurrence, and commit or refuse. -/
def commitFlatten (m : FlattenMoment) (observation : BrokerStateObservation)
    (pastDeadline crossedWeeklyClose : Bool) : Pass FlattenAttemptOutcome := do
  appendFlatten m.flattenRequestId .flattenRequestClaimed m.now [] none none
  let account ← lift (assertSome observation.accountState)
  let reconciliation ← reconcile self.flatExpectation m.now
  let killSwitch ← ask .killSwitch
  let context := self.flattenGateContext observation account reconciliation.status killSwitch
    (pastDeadline || crossedWeeklyClose) m.now
  let decision := evaluateFlattenGate context
  if !decision.isOpen then
    appendFlatten m.flattenRequestId .flattenGateBlocked m.now decision.reasonCodes none
      (some (flattenGatePayload context))
    pure ⟨m.flattenRequestId, .flattenGateBlocked, decision.reasonCodes, 0, 0⟩
  else
    appendFlatten m.flattenRequestId .flattenGatePassed m.now [] none
      (some (flattenGatePayload context))
    let plan ← lift (buildFlattenPlan observation.positionStates m.flattenRequestId
      self.config.environment self.canonicalSymbol m.day m.sessionCloseUtc
      (self.flattenDeadline m) pastDeadline observation.account.snapshotId m.now self.calendar)
    appendFlatten m.flattenRequestId .flattenSubmissionStarted m.now [] none (some plan.dump)
    pure ⟨m.flattenRequestId, .flattenSubmissionStarted, [], plan.instructions.length, 0⟩

/-- The claim row of an occurrence. -/
def flattenClaimRow (m : FlattenMoment) : FlattenRequest where
  flattenRequestId := m.flattenRequestId
  environment := self.config.environment
  canonicalSymbol := self.canonicalSymbol
  tradingDay := m.day
  sessionCloseUtc := m.sessionCloseUtc
  flattenDeadlineUtc := self.flattenDeadline m
  fingerprint :=
    let policy := policyFromConfig self.config.intraday
    digestOf (.obj [
      ("environment", .str self.config.environment.value),
      ("canonical_symbol", .str self.canonicalSymbol),
      ("trading_day", .str (isoDate m.day)),
      ("session_close_utc", .time m.sessionCloseUtc),
      ("flatten_deadline_utc", .time (self.flattenDeadline m)),
      ("intraday_policy", .obj [
        ("enabled", .bool policy.enabled),
        ("last_entry_offset_seconds", .int (policy.lastEntryOffset / seconds 1)),
        ("flatten_offset_seconds", .int (policy.flattenOffset / seconds 1))])])
  claimedBy := self.workerId
  claimedAtUtc := m.now

/-- Near the weekly close, a position book that cannot be read halts. -/
def tripUnlessBookKnown (m : FlattenMoment) (observation : BrokerStateObservation) : Pass Unit :=
  if phaseAt m.now (policyFromConfig self.config.intraday) self.calendar = .flattenRequired
      ∧ observation.account.positionSetState ≠ .complete then
    tripFlattenStateUnknown m.now
  else pure ()

/-- A pass over an occurrence that has not been claimed yet. -/
def flattenUnclaimed (m : FlattenMoment) : Pass (Option FlattenAttemptOutcome) := do
  let policy := policyFromConfig self.config.intraday
  let observation ← self.observe self.config.environment
  let positions := observation.positionStates
  self.tripUnlessBookKnown m observation
  let pastDeadline := requiresFlat m.now policy self.calendar
  let crossedWeeklyClose :=
    positions.any fun p => hasCrossedWeeklyClose p.openedAtUtc m.now self.calendar
  if positions = [] ∨ !(pastDeadline || crossedWeeklyClose) then pure none
  else
    let claimed ← ask (.claimFlatten (self.flattenClaimRow m))
    tripOvernightExposure positions m.now
    if !claimed then
      -- another worker claimed it in between: go on from what it committed
      let events ← ask (.flattenEventsFor m.flattenRequestId)
      self.resolveFlattenOutcome m.flattenRequestId positions events m.now
    else
      let outcome ← self.commitFlatten m observation pastDeadline crossedWeeklyClose
      pure (some outcome)

/-- A pass over an occurrence that has a history. -/
def flattenClaimed (m : FlattenMoment) (priorEvents : List FlattenEventRecord)
    (last : FlattenEventRecord) : Pass (Option FlattenAttemptOutcome) := do
  if last.eventType ≠ .flattenSubmissionStarted then
    -- blocked or resolved already: no broker read needed
    pure none
  else
    let observation ← self.observe self.config.environment
    tripOvernightExposure observation.positionStates m.now
    self.resolveFlattenOutcome m.flattenRequestId observation.positionStates priorEvents m.now

def flattenOnce : Pass (Option FlattenAttemptOutcome) := do
  let now ← ask .clock
  match self.flattenMoment now with
  | none => pure none
  | some m =>
      let priorEvents ← ask (.flattenEventsFor m.flattenRequestId)
      match priorEvents.getLast? with
      | some last => self.flattenClaimed m priorEvents last
      | none => self.flattenUnclaimed m

/-! ## Reconciling requests -/

/-- The tickets the last resolution of a history matched. -/
def rawMatching (events : List ExecutionEventRecord) : Except PyError (List Int) :=
  match events.reverse.find? (fun e =>
    e.eventType = .ambiguousOutcomeResolved && (e.payload.map Json.truthy).getD false) with
  | none => .ok []
  | some e => (e.payload.getD .null).intsAt "matching_tickets"

def protectiveStopIssueJson (issue : ProtectiveStopIssue) : Json :=
  .obj [
    ("ticket", .int issue.ticket),
    ("reason", .str issue.reason.value),
    ("expected", .opt .decimal issue.expected),
    ("observed", .opt .decimal issue.observed)]

/-- The payload of a RECONCILED event. -/
def reconciledPayload (attributed openTickets closedByFlatten : List Int)
    (status : ReconciliationStatus) (issues : List ProtectiveStopIssue) : Json :=
  .obj [
    ("expected_position_tickets", .list ((sortedSet attributed).map .int)),
    ("observed_open_tickets",
      .list ((sortedSet (attributed.filter fun t => t ∈ openTickets)).map .int)),
    ("closed_tickets", .list ((sortedSet closedByFlatten).map .int)),
    ("expected_pending_order_ids", .list []),
    ("book_status", .str status.value),
    ("protective_stop_issues", .list (issues.map protectiveStopIssueJson))]

/-- A position without the stop it should have halts. -/
def tripOnIssues (orderRequestId : Uuid) (issues : List ProtectiveStopIssue)
    (now : UtcDatetime) : Pass Unit :=
  if issues = [] then pure () else tripProtectiveStopIssue orderRequestId issues now

/-- Record that one request's exposure is accounted for, when it is. -/
def reconcileRequest (exposure : DerivedExposure) (positions : List PositionState)
    (status : ReconciliationStatus) (now : UtcDatetime)
    (history : Uuid × List ExecutionEventRecord) : Pass (Option ReconciliationAttemptOutcome) := do
  let (orderRequestId, events) := history
  let openTickets := positions.map (·.ticket)
  let attributed := (lookupLast exposure.ticketsByRequest orderRequestId).getD []
  if events.any (fun e => e.eventType = .reconciled)
      ∨ orderRequestId ∉ exposure.determinedRequestIds
      ∨ attributed.any (fun t => t ∉ openTickets) then pure none
  else
    let matching ← lift (rawMatching events)
    let closedByFlatten := matching.filter fun t => t ∉ attributed
    let issues ← lift (verifyProtectiveStops positions attributed
      (lookupLast exposure.expectedStopLossByRequest orderRequestId))
    tripOnIssues orderRequestId issues now
    append orderRequestId .reconciled now [] none
      (some (reconciledPayload attributed openTickets closedByFlatten status issues))
    pure (some ⟨orderRequestId, .reconciled, status, (sortedSet attributed).length⟩)

/-- The history of one request, beside its id. -/
def readHistory (orderRequestId : Uuid) :
    Pass (Option (Uuid × List ExecutionEventRecord)) := do
  let events ← ask (.eventsFor orderRequestId)
  pure (some (orderRequestId, events))

def reconcileOnce : Pass (List ReconciliationAttemptOutcome) := do
  let candidates ← ask (.requestIdsWithEvent .submissionStarted self.config.environment
    self.canonicalSymbol)
  if candidates = [] then pure []
  else
    let requestHistories ← Prog.collect readHistory candidates
    if requestHistories.all (fun h => h.2.any fun e => e.eventType = .reconciled) then pure []
    else
      let flattenHistories ← ask
        (.occurrenceHistories self.config.environment self.canonicalSymbol)
      let exposure ← lift (deriveExpectedExposure requestHistories flattenHistories)
      let expectation := ExpectedState.fromDurableExposure self.config.accountGuard exposure
        self.canonicalSymbol self.expectedSpecVersion
      let now ← ask .clock
      let observation ← self.observe self.config.environment
      let result ← reconcile expectation now
      if result.status = .unknown then pure []
      else
        Prog.collect (reconcileRequest exposure observation.positionStates result.status now)
          requestHistories

/-! ## Resolving resting orders -/

/-- The payload of a fill found by resolving a resting order. -/
def resolvedFillPayload (orderRequestId : Uuid) (submittedTicket : Int)
    (position : PositionState) : Json :=
  .obj [
    ("resolved_from", .str ExecutionEventType.submitted.value),
    ("submitted_pending_order_id", .int submittedTicket),
    ("ticket", .int position.ticket),
    ("broker_symbol", .str position.brokerSymbol),
    ("side", .str position.side.value),
    ("volume", .decimal position.volume.val),
    ("open_price", .decimal position.openPrice.val),
    ("opened_at_utc", .time position.openedAtUtc),
    ("magic_number", .int (mt5MagicNumber orderRequestId))]

/-- The broker's ticket for the order a SUBMITTED event recorded. -/
def submittedTicketOf (payload : Option Json) : Except PyError (Option Int) :=
  match payload.bind (Json.get? "mt5_order_ticket") with
  | none | some .null => .ok none
  | some raw => do pure (some (← raw.toInt))

/-- Resolve one resting order, once it no longer rests and one position is its fill. -/
def resolvePending (positions : List PositionState) (pendingOrders : List PendingOrderState)
    (now : UtcDatetime) (orderRequestId : Uuid) : Pass (Option PendingResolutionOutcome) := do
  let events ← ask (.eventsFor orderRequestId)
  match events.getLast? with
  | none => pure none
  | some last =>
      if last.eventType ≠ .submitted then pure none
      else
        match ← lift (submittedTicketOf last.payload) with
        | none => pure none
        | some submittedTicket =>
            if pendingOrders.any (fun o => o.orderId = submittedTicket) then pure none
            else
              match positionMatches orderRequestId positions with
              | [] => pure none
              | [position] =>
                  append orderRequestId .filled now [] none
                    (some (resolvedFillPayload orderRequestId submittedTicket position))
                  pure (some ⟨orderRequestId, .filled, some position.ticket⟩)
              | found =>
                  append orderRequestId .ambiguousOutcomeResolved now [] none
                    (some (integrityPayload orderRequestId found))
                  tripSubmissionIntegrityAmbiguous orderRequestId found now
                  pure (some ⟨orderRequestId, .ambiguousOutcomeResolved, none⟩)

def resolvePendingOnce : Pass (List PendingResolutionOutcome) := do
  let submittedIds ← ask (.requestIdsWithEvent .submitted self.config.environment
    self.canonicalSymbol)
  if submittedIds = [] then pure []
  else
    let now ← ask .clock
    let positions ← ask .positions
    let pendingOrders ← ask .pendingOrders
    Prog.collect (resolvePending positions pendingOrders now) submittedIds

/-! ## The timer's pass -/

def runOnce : Pass (List ExecutionAttemptOutcome) := do
  let _ ← self.flattenOnce
  let now ← ask .clock
  let capsules ← ask (.readAll self.config.environment self.canonicalSymbol)
  let outcomes ← Prog.collect (fun capsule => self.process capsule now)
    (capsules.filter isIntentTimeApproved)
  let _ ← self.reconcileOnce
  pure outcomes

end ExecutionOrchestrator

end Crumblr
