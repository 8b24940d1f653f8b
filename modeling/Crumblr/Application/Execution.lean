import Crumblr.Application.Reconciliation
import Crumblr.Application.Flatten
import Crumblr.Risk.Policies

/-!
# The execution worker

One pass of a worker flattens what must be flat, takes every approved capsule of
its market through the chain of refusals up to the broker, and reconciles. Every
refusal appends one event to the request's history and moves on to the next
capsule.

The chain is long, so it is cut where it changes its subject: claiming, observing
and reconciling, pricing and the risk session, FINAL risk, the order check, the
submission. Each part ends by calling the next.
-/

namespace Crumblr

/-- The one canary identity a worker may submit under. -/
structure CanaryEntrySubmissionConfig where
  permitId : Uuid
  capsuleId : Uuid
  agentId : Option Uuid
  assignmentId : Option Uuid
  strategyArtifactHash : Option String

structure ExecutionAttemptOutcome where
  orderRequestId : Uuid
  capsuleId : Uuid
  eventType : ExecutionEventType
  reasonCodes : List ReasonCode

structure FlattenAttemptOutcome where
  flattenRequestId : Uuid
  eventType : FlattenEventType
  reasonCodes : List ReasonCode
  targetCount : Nat
  closedCount : Nat

structure ReconciliationAttemptOutcome where
  orderRequestId : Uuid
  eventType : ExecutionEventType
  bookStatus : ReconciliationStatus
  accountedTicketCount : Nat

structure PendingResolutionOutcome where
  orderRequestId : Uuid
  eventType : ExecutionEventType
  ticket : Option Int

/--
A worker's constant part. The entry adapter, the permit store and the canary
configuration come together or not at all, so their presence is one option; the
market's risk limits are the merged ones, which the merge must have admitted.
-/
structure ExecutionOrchestrator where
  config : PlatformConfig
  canonicalSymbol : String
  activationWatermark : Option UtcDatetime
  workerId : String
  currentStrategyVersion : String
  /-- Whether a real close adapter was injected. -/
  flattenCloseAdapter : Bool
  entrySubmission : Option CanaryEntrySubmissionConfig
  riskConfig : RiskConfig
  riskConfigMerged : config.riskFor canonicalSymbol = .ok riskConfig

/-! ## Identities -/

/-- The idempotency key of a decision. -/
def orderRequestIdFor [Externals] (intent : TradeIntent) : Uuid :=
  Externals.uuid5 ("crumblr:order:" ++ intent.decisionHash)

/-- The identity of one trading day's flatten occurrence. -/
def flattenRequestIdFor [Externals] (environment : Environment) (canonicalSymbol : String)
    (tradingDay : Date) : Uuid :=
  Externals.uuid5
    ("crumblr:flatten:" ++ environment.value ++ ":" ++ canonicalSymbol ++ ":" ++ isoDate tradingDay)

def snapshotIdFor [Externals] (canonicalSymbol : String) (eventTimeUtc : UtcDatetime) : Uuid :=
  Externals.uuid5 ("crumblr:snapshot:" ++ canonicalSymbol ++ ":" ++ isoTime eventTimeUtc)

/-- The three decisions a capsule must carry to be executed at all. -/
structure ApprovalChain where
  intent : TradeIntent
  riskDecision : RiskDecision
  supervisorDecision : SupervisorDecision

/-- The approval chain of a capsule that has one. -/
def DecisionCapsule.approvalChain (capsule : DecisionCapsule) : Option ApprovalChain := do
  let intent ← capsule.tradeIntent
  let riskDecision ← capsule.riskDecision
  let supervisorDecision ← capsule.supervisorDecision
  pure ⟨intent, riskDecision, supervisorDecision⟩

def isIntentTimeApproved (capsule : DecisionCapsule) : Bool :=
  match capsule.approvalChain with
  | some chain => chain.riskDecision.verdict = .pass ∧ chain.supervisorDecision.verdict = .approve
  | none => false

/-- The digest that binds the whole chain of approvals, not only the intent. -/
def approvalChainFingerprint [Externals] (capsule : DecisionCapsule) (chain : ApprovalChain) :
    String :=
  digestOf (.obj [
    ("provenance_fingerprint", .str capsule.provenanceFingerprint),
    ("trade_intent_decision_hash", .str chain.intent.decisionHash),
    ("intent_risk_decision", chain.riskDecision.dump),
    ("supervisor_decision", chain.supervisorDecision.dump)])

/-- Every reason the configured permit may not authorise this order now. -/
def canaryPermitScopeMismatches [Externals] (permit : Option CanaryPermit)
    (account : AccountState) (canonicalSymbol : String) (order : ApprovedOrder)
    (intent : TradeIntent) (canaryConfig : CanaryEntrySubmissionConfig) (now : UtcDatetime) :
    Except PyError (List ReasonCode) :=
  match permit with
  | none => .ok [.canaryPermitNotFound]
  | some permit => do
      let requestedRiskFraction ← assertSome intent.requestedRiskFraction
      pure (failing [
        (decide (permit.validUntilUtc < now), .canaryPermitExpired),
        (decide (permit.approvedAccountRef ≠ account.loginHash), .canaryPermitAccountMismatch),
        (decide (permit.expectedServer ≠ account.server), .canaryPermitServerMismatch),
        (decide (permit.canonicalSymbol ≠ canonicalSymbol), .canaryPermitSymbolMismatch),
        (decide (permit.entryType ≠ order.entryType), .canaryPermitEntryTypeMismatch),
        (decide (permit.agentId ≠ canaryConfig.agentId), .canaryPermitAgentMismatch),
        (decide (permit.assignmentId ≠ canaryConfig.assignmentId),
          .canaryPermitAssignmentMismatch),
        (decide (permit.strategyArtifactHash ≠ canaryConfig.strategyArtifactHash),
          .canaryPermitStrategyArtifactMismatch),
        (decide (permit.maxRequestedRiskFraction.val < requestedRiskFraction.val),
          .canaryPermitRiskFractionExceeded)])

/-! ## Appending and halting -/

/-- `ExecutionEventStore.append`. -/
def append (orderRequestId : Uuid) (eventType : ExecutionEventType) (now : UtcDatetime)
    (reasonCodes : List ReasonCode) (detail : Option String) (payload : Option Json) :
    Pass Unit := do
  let _ ← ask (.append ⟨orderRequestId, eventType, now, reasonCodes, detail, payload⟩)

def appendFlatten (flattenRequestId : Uuid) (eventType : FlattenEventType) (now : UtcDatetime)
    (reasonCodes : List ReasonCode) (detail : Option String) (payload : Option Json) :
    Pass Unit := do
  let _ ← ask (.appendFlatten ⟨flattenRequestId, eventType, now, reasonCodes, detail, payload⟩)

/-- Append a refusal and report it. -/
def refuse (orderRequestId : Uuid) (capsule : DecisionCapsule) (eventType : ExecutionEventType)
    (reasonCodes : List ReasonCode) (now : UtcDatetime) (detail : Option String)
    (payload : Option Json) : Pass ExecutionAttemptOutcome := do
  append orderRequestId eventType now reasonCodes detail payload
  pure ⟨orderRequestId, capsule.capsuleId, eventType, reasonCodes⟩

/-- Halt, unless halted already. -/
def tripUnlessHalted (reasonCodes : List ReasonCode) (trippedBy : String) (now : UtcDatetime)
    (detail : Option String) : Pass Unit := do
  let killSwitch ← ask .killSwitch
  if killSwitch.isHalted then pure ()
  else if reasonCodes = [] then throw ⟨.value, "a halt must record why it happened"⟩
  else ask (.trip ⟨now, reasonCodes, trippedBy, detail⟩)

def tripSubmissionIntegrityAmbiguous [Externals] (orderRequestId : Uuid)
    (matches_ : List PositionState) (now : UtcDatetime) : Pass Unit :=
  tripUnlessHalted [.submissionIntegrityAmbiguous] "ambiguous_recovery_driver" now
    (some (s!"order_request_id {orderRequestId.text}: {matches_.length} broker "
      ++ s!"positions share magic number {mt5MagicNumber orderRequestId} "
      ++ s!"(tickets={matches_.map (·.ticket)}) -- cannot safely attribute any of them"))

def tripSubmissionIntegrityAmbiguousPending [Externals] (orderRequestId : Uuid)
    (matches_ : List PendingOrderState) (now : UtcDatetime) : Pass Unit :=
  tripUnlessHalted [.submissionIntegrityAmbiguous] "ambiguous_recovery_driver" now
    (some (s!"order_request_id {orderRequestId.text}: {matches_.length} pending "
      ++ s!"orders share magic number {mt5MagicNumber orderRequestId} "
      ++ s!"(order_ids={matches_.map (·.orderId)}) -- cannot safely attribute any of them"))

def tripFlattenCloseFailed (flattenRequestId : Uuid) (stillOpenTickets : List Int)
    (now : UtcDatetime) : Pass Unit :=
  tripUnlessHalted [.flattenCloseFailed] "flatten_driver" now
    (some (s!"flatten_request_id {flattenRequestId.text}: a real close attempt left "
      ++ s!"{stillOpenTickets.length} position(s) still open (tickets={stillOpenTickets})"))

/-- Exposure past the deadline halts; an empty book is no exposure. -/
def tripOvernightExposure (positions : List PositionState) (now : UtcDatetime) : Pass Unit :=
  if positions = [] then pure ()
  else
    tripUnlessHalted [.overnightExposure] "flatten_driver" now
      (some (s!"{positions.length} position(s) still open past the flatten "
        ++ "deadline or the weekly close"))

def tripFlattenStateUnknown (now : UtcDatetime) : Pass Unit :=
  tripUnlessHalted [.flattenStateUnknown] "flatten_driver" now
    (some "position book could not be confirmed flat by the Friday deadline")

def protectiveStopIssueText (issue : ProtectiveStopIssue) : String :=
  let shown : Option Decimal → String := fun d => (d.map Decimal.text).getD "None"
  s!"ticket={issue.ticket} {issue.reason.value} expected={shown issue.expected} "
    ++ s!"observed={shown issue.observed}"

def tripProtectiveStopIssue (orderRequestId : Uuid) (issues : List ProtectiveStopIssue)
    (now : UtcDatetime) : Pass Unit :=
  tripUnlessHalted
    ((issues.map (·.reason)).eraseDups.mergeSort fun a b => decide (a.value ≤ b.value))
    "reconciliation_driver" now
    (some (s!"order_request_id {orderRequestId.text} protective-stop verification failed: "
      ++ "; ".intercalate (issues.map protectiveStopIssueText)))

namespace ExecutionOrchestrator

variable [Externals] (self : ExecutionOrchestrator)

def executionConfig : ExecutionConfig := self.config.executionFor self.canonicalSymbol

def calendar : TradingCalendar :=
  match self.config.marketFor self.canonicalSymbol with
  | some market => calendarFor market.assetClass market.sessionPolicyApproved
  | none => fxWeekdayCalendar

def expectedSpecVersion : Option String :=
  (self.config.marketFor self.canonicalSymbol).bind (·.expectedSpecVersion)

/-- The expectation of a worker that has nothing at the broker. -/
def flatExpectation : ExpectedState :=
  .flat self.config.accountGuard self.canonicalSymbol self.expectedSpecVersion

def riskContext : RiskContext where
  risk := self.riskConfig
  execution := self.executionConfig
  allowedSymbols := self.config.enabledSymbols
  requireDemoAccount := self.config.accountGuard.requireDemoAccount
  expectedServer := self.config.accountGuard.expectedServer
  expectedLogin := none
  riskConfigVersion := self.config.configVersion
  expectedCurrency := self.config.accountGuard.expectedCurrency
  expectedLeverage := self.config.accountGuard.expectedLeverage
  intraday := policyFromConfig self.config.intraday
  calendar := self.calendar

/-- Observe the broker and store what was seen. -/
def observe (environment : Environment) : Pass BrokerStateObservation := do
  let observation ← captureBrokerState environment self.canonicalSymbol
  ask (.record observation)
  pure observation

/-! ## Recovering a submission whose outcome is not known -/

/-- What a recovery records when it finds one position, or nothing at all. -/
def ambiguousPayload (orderRequestId : Uuid) (matches_ : List PositionState) : Json :=
  .obj [
    ("magic_number", .int (mt5MagicNumber orderRequestId)),
    ("submitted", .bool (matches_.length = 1)),
    ("matching_position_count", .int matches_.length),
    ("matching_tickets", .list (matches_.map fun p => .int p.ticket))]

/-- What is recorded when several positions carry one request's magic. -/
def integrityPayload (orderRequestId : Uuid) (matches_ : List PositionState) : Json :=
  .obj [
    ("magic_number", .int (mt5MagicNumber orderRequestId)),
    ("integrity_ambiguity", .bool true),
    ("matching_position_count", .int matches_.length),
    ("matching_tickets", .list (matches_.map fun p => .int p.ticket))]

def integrityPendingPayload (orderRequestId : Uuid) (matches_ : List PendingOrderState) : Json :=
  .obj [
    ("magic_number", .int (mt5MagicNumber orderRequestId)),
    ("integrity_ambiguity", .bool true),
    ("matching_pending_order_count", .int matches_.length),
    ("matching_pending_order_ids", .list (matches_.map fun o => .int o.orderId))]

/-- The positions that carry a request's magic. -/
def positionMatches (orderRequestId : Uuid) (positions : List PositionState) :
    List PositionState :=
  positions.filter fun p => p.magic = some (mt5MagicNumber orderRequestId)

/-- The resting orders that carry a request's magic. -/
def pendingMatches (orderRequestId : Uuid) (orders : List PendingOrderState) :
    List PendingOrderState :=
  orders.filter fun o => o.magic = some (mt5MagicNumber orderRequestId)

/-- Record a resolution and report it. -/
def resolveAmbiguous (orderRequestId : Uuid) (capsule : DecisionCapsule) (now : UtcDatetime)
    (payload : Json) : Pass ExecutionAttemptOutcome := do
  append orderRequestId .ambiguousOutcomeResolved now [] none (some payload)
  pure ⟨orderRequestId, capsule.capsuleId, .ambiguousOutcomeResolved, []⟩

/-- Whether a history ends in a given event. -/
def endsWith (events : List ExecutionEventRecord) (eventType : ExecutionEventType) : Bool :=
  (events.getLast?).any fun e => e.eventType = eventType

def recoverAmbiguousSubmission (orderRequestId : Uuid) (capsule : DecisionCapsule) :
    Pass (Option ExecutionAttemptOutcome) := do
  let events ← ask (.eventsFor orderRequestId)
  if !endsWith events .submissionStarted then pure none
  else
    let found := positionMatches orderRequestId (← ask .positions)
    let now ← ask .clock
    if 1 < found.length then
      let outcome ← resolveAmbiguous orderRequestId capsule now
        (integrityPayload orderRequestId found)
      tripSubmissionIntegrityAmbiguous orderRequestId found now
      pure (some outcome)
    else if found.length = 0 then
      let resting := pendingMatches orderRequestId (← ask .pendingOrders)
      if 1 < resting.length then
        let outcome ← resolveAmbiguous orderRequestId capsule now
          (integrityPendingPayload orderRequestId resting)
        tripSubmissionIntegrityAmbiguousPending orderRequestId resting now
        pure (some outcome)
      else if resting.length = 1 then
        -- still resting at the broker: nothing is decided, the next pass looks again
        pure none
      else
        let outcome ← resolveAmbiguous orderRequestId capsule now
          (ambiguousPayload orderRequestId found)
        pure (some outcome)
    else
      let outcome ← resolveAmbiguous orderRequestId capsule now
        (ambiguousPayload orderRequestId found)
      pure (some outcome)

/-! ## Submitting -/

/-- What the chain has established by the time the broker is asked about an order. -/
structure Prepared where
  capsule : DecisionCapsule
  intent : TradeIntent
  orderRequestId : Uuid
  observation : BrokerStateObservation
  account : AccountState
  tick : MarketTick
  finalNow : UtcDatetime
  order : ApprovedOrder

/-- The durable commitment, with no broker call behind it. -/
def startSubmission (p : Prepared) : Pass ExecutionAttemptOutcome := do
  append p.orderRequestId .submissionStarted p.finalNow [] none (some p.order.dump)
  pure ⟨p.orderRequestId, p.capsule.capsuleId, .submissionStarted, []⟩

/-- After the commitment: call the broker, and record what it says when it says anything. -/
def sendOrder (p : Prepared) : Pass ExecutionAttemptOutcome := do
  let result ← Prog.rescue (do pure (some (← ask (.orderSend p.order)))) fun e =>
    -- the outcome is unknown: the commitment stays the last event on purpose
    if e.kind = .mt5CallFailed then pure none else throw e
  match result with
  | none => pure ⟨p.orderRequestId, p.capsule.capsuleId, .submissionStarted, []⟩
  | some result =>
      let (eventType, payload) ← lift (normalizeExecutionResult result)
      let now ← ask .clock
      append p.orderRequestId eventType now [] none (some payload)
      pure ⟨p.orderRequestId, p.capsule.capsuleId, eventType, []⟩

def attemptRealEntrySubmission (canaryConfig : CanaryEntrySubmissionConfig) (p : Prepared) :
    Pass ExecutionAttemptOutcome := do
  if p.capsule.capsuleId ≠ canaryConfig.capsuleId then
    refuse p.orderRequestId p.capsule .canaryPermitBlocked [.canaryPermitCapsuleMismatch]
      p.finalNow none none
  else
    let permit ← ask (.permitFor canaryConfig.permitId)
    let mismatches ← lift (canaryPermitScopeMismatches permit p.account self.canonicalSymbol
      p.order p.intent canaryConfig p.finalNow)
    if mismatches ≠ [] then
      refuse p.orderRequestId p.capsule .canaryPermitBlocked mismatches p.finalNow none none
    else
      let permit ← lift (assertSome permit)
      let outcome ← ask
        (.consumeAndStart permit.permitId p.orderRequestId p.finalNow p.order.dump)
      if outcome = .consumed then sendOrder p
      else
        refuse p.orderRequestId p.capsule .canaryPermitBlocked [.canaryPermitAlreadyConsumed]
          p.finalNow none none

def submissionGateContext (p : Prepared) (killSwitch : KillSwitch) : SubmissionGateContext where
  environment := self.config.environment
  account := p.account
  -- only a matched pass comes this far
  reconciliationStatus := .matched
  freshTick := some p.tick
  maxMarketDataAgeMs := self.executionConfig.maxMarketDataAgeMs
  killSwitch := killSwitch
  riskConfigVersion := self.config.configVersion
  approvedRiskConfigVersion := self.riskConfig.approvedConfigVersion
  submissionEnabled := self.executionConfig.submissionEnabled
  terminalTradeAllowed := p.observation.account.terminalTradeAllowed.getD false
  feedback20Approved := self.executionConfig.feedback20Approved
  approvedAccountRef := self.executionConfig.approvedCanaryAccountRef
  now := p.finalNow

def submissionGatePayload (context : SubmissionGateContext) : Json :=
  .obj [
    ("environment", .str context.environment.value),
    ("reconciliation_status", .str context.reconciliationStatus.value),
    ("max_market_data_age_ms", .int context.maxMarketDataAgeMs),
    ("risk_config_version", .str context.riskConfigVersion),
    ("approved_risk_config_version", .opt .str context.approvedRiskConfigVersion),
    ("submission_enabled", .bool context.submissionEnabled),
    ("terminal_trade_allowed", .bool context.terminalTradeAllowed),
    ("feedback_2_0_approved", .bool context.feedback20Approved),
    ("approved_account_ref", .opt .str context.approvedAccountRef),
    ("observed_account_ref", .str context.account.loginHash)]

/-- Evaluate the submission gate and record its verdict. -/
def evaluateSubmissionReadiness (p : Prepared) : Pass GateDecision := do
  let killSwitch ← ask .killSwitch
  let context := self.submissionGateContext p killSwitch
  let decision := evaluateSubmissionGate context
  append p.orderRequestId
    (if decision.isOpen then .submissionGatePassed else .submissionGateBlocked) p.finalNow
    decision.reasonCodes none (some (submissionGatePayload context))
  pure decision

/-- The chain from the order check on. -/
def checkAndSubmit (p : Prepared) : Pass ExecutionAttemptOutcome := do
  let check ← ask (.orderCheck p.order)
  let eventType := if check.accepted then .orderChecked else .orderCheckRejected
  append p.orderRequestId eventType p.finalNow [] none (some check.dump)
  if !check.accepted then
    pure ⟨p.orderRequestId, p.capsule.capsuleId, eventType, []⟩
  else
    let decision ← self.evaluateSubmissionReadiness p
    if !decision.isOpen then
      pure ⟨p.orderRequestId, p.capsule.capsuleId, .submissionGateBlocked,
        decision.reasonCodes⟩
    else
      match self.entrySubmission with
      | none => startSubmission p
      | some canaryConfig => self.attemptRealEntrySubmission canaryConfig p

/-! ## FINAL risk -/

/-- What the chain has established by the time FINAL risk is asked. -/
structure Priced where
  capsule : DecisionCapsule
  chain : ApprovalChain
  orderRequestId : Uuid
  observation : BrokerStateObservation
  account : AccountState
  spec : InstrumentSpec
  tick : MarketTick
  freshSnapshot : MarketSnapshot
  finalNow : UtcDatetime
  ledger : EquityLedger

/-- The event payload that binds a FINAL decision to the order it authorised. -/
def finalRiskPayload (finalRisk : RiskDecision) (order : ApprovedOrder) : Json :=
  .obj [
    ("final_risk_decision", finalRisk.dump),
    ("order_fingerprint", .str (digestOf (.obj [
      ("order_request_id", .uuid order.orderRequestId),
      ("final_risk_decision", finalRisk.dump),
      ("approved_order", order.dump)])))]

/-- The order a FINAL decision authorises. Its price is never set here. -/
def approvedOrder (q : Priced) (finalRisk : RiskDecision) (volume : Volume)
    (stopLossPrice : Price) : Except PyError ApprovedOrder :=
  ApprovedOrder.create q.orderRequestId q.chain.intent.intentId q.chain.riskDecision.decisionId
    (some finalRisk.decisionId) q.chain.supervisorDecision.decisionId q.spec.brokerSymbol
    q.chain.intent.side q.chain.intent.entryType volume none stopLossPrice
    q.chain.intent.takeProfitPrice self.executionConfig.maxSlippagePoints q.finalNow
    q.chain.intent.expiresAtUtc q.capsule.environment

/-- The portfolio FINAL risk sees. -/
def freshPortfolio (q : Priced) (ordersInLastHour : Nat) (openRisk : OpenRiskAssessment) :
    PortfolioState where
  account := q.account
  openPositions := q.observation.positionStates
  ledger := q.ledger
  ordersInLastHour := ordersInLastHour
  seenDecisionHashes := []
  openRiskFraction := openRisk.fraction

/-- FINAL risk on a pass's inputs. -/
def finalRiskDecision (q : Priced) (ordersInLastHour : Nat) (killSwitch : KillSwitch) :
    Except PyError RiskDecision := do
  let openRisk ← assessOpenRisk q.observation.positionStates q.spec q.account.equity
  revalidateFixedVolumeAtExecutionTime q.chain.intent q.chain.riskDecision q.freshSnapshot q.spec
    (freshPortfolio q ordersInLastHour openRisk) self.riskContext killSwitch q.finalNow

/-- The chain from FINAL risk on. -/
def finalRisk (q : Priced) : Pass ExecutionAttemptOutcome := do
  let ordersInLastHour ← ask (.countEventsSince .submissionStarted (q.finalNow - hours 1)
    self.config.environment self.canonicalSymbol)
  let killSwitch ← ask .killSwitch
  let finalRisk ← lift (self.finalRiskDecision q ordersInLastHour killSwitch)
  if finalRisk.verdict ≠ .pass then
    refuse q.orderRequestId q.capsule .finalRiskBlocked finalRisk.reasonCodes q.finalNow none
      (some finalRisk.dump)
  else
    let volume ← lift (assertSome finalRisk.approvedVolume)
    let stopLossPrice ← lift (assertSome q.chain.intent.stopLossPrice)
    let order ← lift (self.approvedOrder q finalRisk volume stopLossPrice)
    append q.orderRequestId .finalRiskPassed q.finalNow [] none
      (some (finalRiskPayload finalRisk order))
    self.checkAndSubmit ⟨q.capsule, q.chain.intent, q.orderRequestId, q.observation, q.account,
      q.tick, q.finalNow, order⟩

/-! ## Pricing and the risk session -/

/-- The market as the newest tick shows it. -/
def freshMarketSnapshot (spec : InstrumentSpec) (tick : MarketTick) :
    Except PyError MarketSnapshot := do
  let spreadPoints ← priceToPoints (tick.ask.val - tick.bid.val) spec.point.val
  MarketSnapshot.create (snapshotIdFor self.canonicalSymbol tick.eventTimeUtc)
    self.canonicalSymbol tick.eventTimeUtc tick.receivedTimeUtc tick.bid tick.ask spreadPoints
    "M5" .open spec.specVersion tick.dataQuality

/-- Read the risk session under its lock and recover it. -/
def recoverRiskSession (observation : BrokerStateObservation) (account : AccountState)
    (finalNow : UtcDatetime) : Pass SessionRecovery := do
  let record ← ask (.loadRiskSession self.canonicalSymbol)
  lift (recoverSession record account.equity observation.positionStates.length
    (Sessions.tradingDay finalNow) self.riskConfig.maxDailyLoss.val
    self.riskConfig.maxDrawdown.val)

/-- The chain from the matched reconciliation on. -/
def priceAndRisk (capsule : DecisionCapsule) (chain : ApprovalChain) (orderRequestId : Uuid)
    (observation : BrokerStateObservation) (account : AccountState) (now : UtcDatetime) :
    Pass ExecutionAttemptOutcome := do
  match ← ask (.latestSpec self.canonicalSymbol) with
  | none =>
      refuse orderRequestId capsule .finalRiskBlocked [.symbolNotAllowed] now
        (some "no instrument spec has been observed") none
  | some spec =>
      let freshTicks ← ask
        (.ticks self.canonicalSymbol (now - seconds 30) 100 "execution_orchestrator")
      match freshTicks.getLast? with
      | none =>
          refuse orderRequestId capsule .finalRiskBlocked [.staleMarketData] now
            (some "no fresh tick was available") none
      | some tick =>
          let freshSnapshot ← lift (self.freshMarketSnapshot spec tick)
          let finalNow ← ask .clock
          let recovered ← Prog.rescue
            (do pure (Except.ok (← self.recoverRiskSession observation account finalNow)))
            fun e => pure (Except.error e)
          match recovered with
          | .error e =>
              let detail := s!"risk-ledger lock unavailable: {e.message}"
              tripUnlessHalted [.riskLedgerLockUnavailable] "execution_orchestrator" finalNow
                (some detail)
              refuse orderRequestId capsule .finalRiskBlocked [.riskLedgerLockUnavailable]
                finalNow (some detail) none
          | .ok sessionRecovery =>
              if sessionRecovery.mustHalt then
                tripUnlessHalted sessionRecovery.reasonCodes "execution_orchestrator" finalNow
                  sessionRecovery.detail
                refuse orderRequestId capsule .finalRiskBlocked sessionRecovery.reasonCodes
                  finalNow sessionRecovery.detail none
              else
                self.finalRisk ⟨capsule, chain, orderRequestId, observation, account, spec, tick,
                  freshSnapshot, finalNow, sessionRecovery.ledger⟩

/-! ## Observing and reconciling -/

/-- The chain from the first broker read on. -/
def observeAndReconcile (capsule : DecisionCapsule) (chain : ApprovalChain)
    (orderRequestId : Uuid) (now : UtcDatetime) : Pass ExecutionAttemptOutcome := do
  let observation ← self.observe capsule.environment
  let account ← lift (assertSome observation.accountState)
  let reconciliation ← reconcile self.flatExpectation now
  if reconciliation.status ≠ .matched then
    refuse orderRequestId capsule .reconciliationBlocked
      [if reconciliation.status = .mismatched then .reconciliationMismatch
        else .reconciliationUnknown]
      now
      (if reconciliation.reasons = [] then none
        else some ("; ".intercalate reconciliation.reasons))
      none
  else self.priceAndRisk capsule chain orderRequestId observation account now

/-! ## Claiming -/

/-- The chain from a won claim on. -/
def processClaimed (capsule : DecisionCapsule) (chain : ApprovalChain) (orderRequestId : Uuid)
    (now : UtcDatetime) : Pass ExecutionAttemptOutcome := do
  append orderRequestId .requestClaimed now [] none none
  let eligibility := evaluateExecutionEligibility capsule chain.intent self.activationWatermark
    now self.currentStrategyVersion self.config.configVersion
    (policyFromConfig self.config.intraday) self.calendar
  if !eligibility.isOpen then
    refuse orderRequestId capsule .ineligible eligibility.reasonCodes now none none
  else
    let killSwitch ← ask .killSwitch
    let gate := evaluatePreflightGate capsule.environment self.canonicalSymbol
      self.config.enabledSymbols killSwitch
    if !gate.isOpen then
      refuse orderRequestId capsule .gateClosed gate.reasonCodes now none none
    else self.observeAndReconcile capsule chain orderRequestId now

/-- The claim row of a capsule. -/
def claimRow (capsule : DecisionCapsule) (chain : ApprovalChain) (now : UtcDatetime) :
    ExecutionRequest where
  orderRequestId := orderRequestIdFor chain.intent
  capsuleId := capsule.capsuleId
  intentId := chain.intent.intentId
  fingerprint := approvalChainFingerprint capsule chain
  claimedBy := self.workerId
  claimedAtUtc := now

/-- Take one approved capsule through the chain. -/
def process (capsule : DecisionCapsule) (now : UtcDatetime) :
    Pass (Option ExecutionAttemptOutcome) := do
  let chain ← lift (assertSome capsule.approvalChain)
  if capsule.canonicalSymbol ≠ self.canonicalSymbol ∨ chain.intent.symbol ≠ self.canonicalSymbol
  then throw ⟨.assertion, "cross-market routing"⟩
  else
    let claimed ← ask (.claim (self.claimRow capsule chain now))
    if claimed then
      let outcome ← self.processClaimed capsule chain (orderRequestIdFor chain.intent) now
      pure (some outcome)
    else recoverAmbiguousSubmission (orderRequestIdFor chain.intent) capsule

end ExecutionOrchestrator

end Crumblr
