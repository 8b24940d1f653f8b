import Crumblr.AgentGateway.Gateway
import Crumblr.AgentGateway.MarketContext
import Crumblr.Application.PaperLite
import Crumblr.Persistence.PaperLite

/-!
# One observation at a time

A paper process takes a snapshot: it moves the simulated book to it, meets the session phase,
claims the bar's decision window, shows the agent a context, puts the agent's answer to the
gateway, and what the gateway accepts to risk, policy and the reviewing agent. What all of them
let through fills on paper.

The portfolio is in the process's memory; every change of it is journalled first. A death between
the two leaves what a death right after both leaves, so each operation is one contact.
-/

namespace Crumblr.PaperLite

/-! ## The process's contacts -/

/-- What a paper process remembers of the risk session. -/
structure RiskMemory where
  ledger : Option EquityLedger
  tradingDay : Option Date
  recordedAtUtc : Option UtcDatetime

/-- The contacts besides those of the decision path. -/
inductive PaperOwnCall where
  /-- The portfolio in memory. -/
  | book
  | operate (o : PaperOperation)
  | memory
  | remember (m : RiskMemory)
  /-- Append a risk session under the risk-ledger lock, and commit. -/
  | saveRiskSession (state : RiskSessionState)
  | recordEvidence (evidence : AgentContextEvidence)
  | freshId
  | issueContextBundle (bundle : DecisionContextBundle)
  | decide (context : AgentMarketContext)
  /-- The gateway checks who is asking. -/
  | authenticateOwn (agentId : Uuid) (credentialSecret : String) (submission : AgentSubmission)
      (now : UtcDatetime)
  /-- The gateway's transaction. -/
  | transact (call : GatewayCall)

abbrev PaperOwnCall.Answer : PaperOwnCall → Type
  | .book => DurablePaperBroker
  | .operate o => o.Answer
  | .memory => RiskMemory
  | .freshId => Uuid
  | .decide _ => AgentSubmission
  | .authenticateOwn .. => GatewayCall
  | .transact _ => AgentDecisionOutcomeResult
  | _ => Unit

/-- Every contact: the decision path's and the process's own. -/
abbrev PaperCall : Type := AgentCall ⊕ PaperOwnCall

abbrev PaperCall.Answer : PaperCall → Type := Sum.elim AgentCall.Answer PaperOwnCall.Answer

abbrev PaperPass (α : Type) : Type := Prog PaperCall PaperCall.Answer PyError α

def own (c : PaperOwnCall) : PaperPass c.Answer := Prog.perform (Sum.inr c : PaperCall)

def agent (c : AgentCall) : PaperPass c.Answer := Prog.perform (Sum.inl c : PaperCall)

/-- A pure computation that may raise. -/
def lift {α : Type} (x : Except PyError α) : PaperPass α := Prog.ofExcept x

/-! ## What a call is given and what it comes to -/

/-- One call: what it is given, and its one reading of the clock. -/
structure Observation where
  snapshot : BarredSnapshot
  spec : InstrumentSpec
  incidentStatus : IncidentStatus
  now : UtcDatetime

inductive PaperLiteOutcomeType where
  | alreadyProcessed
  | noTrade
  | gatewayRejected
  | sessionBlocked
  | riskBlocked
  | policyBlocked
  | externalSupervisorBlocked
  | paperOrderCheckBlocked
  | paperFilled
  deriving DecidableEq, Repr

/-- The value the enumeration carries. -/
def PaperLiteOutcomeType.value : PaperLiteOutcomeType → String
  | .alreadyProcessed => "ALREADY_PROCESSED"
  | .noTrade => "NO_TRADE"
  | .gatewayRejected => "GATEWAY_REJECTED"
  | .sessionBlocked => "SESSION_BLOCKED"
  | .riskBlocked => "RISK_BLOCKED"
  | .policyBlocked => "POLICY_BLOCKED"
  | .externalSupervisorBlocked => "EXTERNAL_SUPERVISOR_BLOCKED"
  | .paperOrderCheckBlocked => "PAPER_ORDER_CHECK_BLOCKED"
  | .paperFilled => "PAPER_FILLED"

structure PaperLiteOutcome where
  outcomeType : PaperLiteOutcomeType
  context : Option AgentMarketContext
  gatewayResult : Option AgentDecisionOutcomeResult
  portfolio : PaperPortfolioView
  decisionPath : Option AgentDecisionPathResult
  executionResult : Option SimulatedResult
  closedTrades : List ClosedTrade
  detail : Option String

/-- The simulator's view of a snapshot: its newest bar and its quote. -/
def generatedTickFromSnapshot (snapshot : BarredSnapshot) : Except PyError GeneratedTick :=
  match snapshot.bars.getLast? with
  | none => .error ⟨.value, "PAPER_LITE requires at least one confirmed closed bar"⟩
  | some bar => .ok {
      bar
      bid := snapshot.bid.val
      ask := snapshot.ask.val
      spreadPoints := snapshot.spreadPoints
      eventTimeUtc := snapshot.eventTimeUtc
      receivedTimeUtc := snapshot.receivedTimeUtc
      dataQuality := snapshot.dataQuality
      injectedFault := none }

def safetyError (message : String) : PyError := ⟨.other, message⟩

namespace PaperLiteOrchestrator

variable [Externals] (self : PaperLiteOrchestrator)

/-! ## The risk session -/

def trippedBy : String := "paper_lite_risk_session_recovery"

/-- Halt and journal it at once, unless halted already. -/
def tripRiskSessionAt (reasonCodes : List ReasonCode) (occurredAtUtc : UtcDatetime)
    (correlationId : Uuid) (detail : Option String) : PaperPass Unit := do
  let killSwitch ← agent .killSwitch
  if killSwitch.isHalted then pure ()
  else if reasonCodes = [] then throw ⟨.value, "a halt must record why it happened"⟩
  else
    agent (.trip ⟨occurredAtUtc, reasonCodes, trippedBy, detail⟩)
    agent (.record ⟨.halted ⟨killSwitch.state, .halted, reasonCodes, trippedBy, detail⟩,
      correlationId, occurredAtUtc, "paper_lite"⟩)
    agent .flush

def tripRiskSession (reasonCodes : List ReasonCode) (snapshot : BarredSnapshot)
    (detail : Option String) : PaperPass Unit :=
  tripRiskSessionAt reasonCodes snapshot.receivedTimeUtc snapshot.snapshotId detail

/-- The recorded session, read under the lock, or what went wrong. -/
def loadRiskSession : PaperPass (Except PyError SessionRecord) :=
  Prog.rescue
    (do
      agent (.lock self.assignment.canonicalSymbol)
      let record ← agent (.loadRiskSession self.assignment.canonicalSymbol)
      pure (Except.ok record))
    fun e => pure (Except.error e)

def rememberSession (ledger : EquityLedger) (tradingDay : Option Date) : PaperPass Unit := do
  let m ← own .memory
  own (.remember { m with ledger := some ledger, tradingDay })

/-- Recover the session the paper account has now. -/
def recoverRiskSession (snapshot : BarredSnapshot) : PaperPass Unit := do
  let b ← own .book
  let account ← lift b.broker.account
  let positions ← lift b.broker.positions
  let marketDay := Sessions.tradingDay snapshot.eventTimeUtc
  match ← self.loadRiskSession with
  | .error error =>
      let ledger ← lift (EquityLedger.create account.equity)
      rememberSession ledger (some marketDay)
      tripRiskSession [.riskLedgerLockUnavailable] snapshot
        (some s!"risk-ledger lock/recover failed: {error.message}")
  | .ok record =>
      if record.isKnown ∧ record.state.isNone ∧ positions ≠ [] then
        let ledger ← lift (EquityLedger.create account.equity)
        rememberSession ledger (some marketDay)
        tripRiskSession [.safetyStateUnknown] snapshot
          (some "paper journal contains exposure but the durable risk session is absent")
      else
        let recovery ← lift (self.sessionRecovery record account.equity positions.length marketDay)
        rememberSession recovery.ledger recovery.tradingDay
        if recovery.mustHalt then tripRiskSession recovery.reasonCodes snapshot recovery.detail

/-- Mark the account's equity and put the session on record; a write that fails halts. -/
def persistRiskSession : PaperPass Unit := do
  let m ← own .memory
  match m.ledger, m.tradingDay, m.recordedAtUtc with
  | some ledger, some tradingDay, some recordedAtUtc =>
      let b ← own .book
      let account ← lift b.broker.account
      let positions ← lift b.broker.positions
      let openRisk ← lift b.openRiskAssessment
      let ledger := ledger.update account.equity
      own (.remember { m with ledger := some ledger })
      let view ← lift b.portfolioView
      let state := Crumblr.snapshot ledger self.assignment.canonicalSymbol tradingDay
        view.realizedProfit openRisk.fraction positions.length recordedAtUtc
      Prog.rescue (own (.saveRiskSession state)) fun e =>
        tripRiskSessionAt [.riskLedgerLockUnavailable] recordedAtUtc
          (Externals.uuid5
            ("crumblr:paper-lite:persist-lock-failure:" ++ isoTime recordedAtUtc))
          (some s!"risk-ledger lock/persist failed: {e.message}")
  | _, _, _ => pure ()

/-! ## Taking a snapshot -/

/-- Refuse what is not about the assignment. -/
def checkObservation (q : Observation) : Except PyError Unit :=
  if q.spec.canonicalSymbol ≠ self.assignment.canonicalSymbol then
    .error (safetyError "instrument spec does not match the assignment symbol")
  else if q.snapshot.symbol ≠ self.assignment.canonicalSymbol then
    .error (safetyError "market snapshot does not match the assignment symbol")
  else if q.snapshot.timeframe ≠ self.assignment.timeframe then
    .error (safetyError "market snapshot timeframe does not match the assignment")
  else if q.snapshot.symbolSpecVersion ≠ q.spec.specVersion then
    .error (safetyError "market snapshot and instrument spec versions disagree")
  else if q.incidentStatus = .clear ∧ self.incidentClearAssertion.isNone then
    .error (safetyError "IncidentStatus.CLEAR requires an operator-bound PAPER_LITE assertion")
  else .ok ()

/-- Move the simulated book to the snapshot, with the session recovered before if there is anything
to recover, and after otherwise. -/
def takeSnapshot (q : Observation) : PaperPass (List ClosedTrade) := do
  lift (self.checkObservation q)
  let b ← own .book
  if b.hasMarketObservation then self.recoverRiskSession q.snapshot
  let tick ← lift (generatedTickFromSnapshot q.snapshot)
  let closedTrades ← own (.operate (.advance tick))
  let m ← own .memory
  if m.ledger.isNone then self.recoverRiskSession q.snapshot
  let m ← own .memory
  own (.remember { m with recordedAtUtc := some q.snapshot.receivedTimeUtc })
  pure closedTrades

omit [Externals] in
/-- Where the clock stands in the trading week. -/
def sessionPhase (now : UtcDatetime) : SessionPhase :=
  phaseAt now (policyFromConfig self.config.intraday) self.calendar

def flattenReason : String := "owner_policy_v1_friday_flatten"

/-- One flatten a New York day. -/
def flattenId (now : UtcDatetime) : Uuid :=
  Externals.uuid5 ("crumblr:paper-lite:friday-flatten:" ++ isoDate (dateOf (newYorkWall now)))

def weekendExposure : String :=
  "paper exposure reached a closed weekend without a confirmed Friday flatten"

/-- Close the book before the weekly close. -/
def flattenBook (now : UtcDatetime) (closedTrades : List ClosedTrade) :
    PaperPass (List ClosedTrade) := do
  let b ← own .book
  let tickets ← own (.operate (.flattenAll (flattenId now) flattenReason))
  let b' ← own .book
  let flattened := b'.broker.closed.drop b.broker.closed.length
  if flattened.map (·.ticket) ≠ tickets then
    throw (safetyError "Friday flatten result does not match the paper closed-trade ledger")
  else pure (closedTrades ++ flattened)

/-- What the phase asks of the open positions. -/
def meetSession (q : Observation) (closedTrades : List ClosedTrade) :
    PaperPass (List ClosedTrade) := do
  let phase := self.sessionPhase q.now
  if phase = .flattenRequired ∨ phase = .closed then
    let b ← own .book
    let positions ← lift b.broker.positions
    if positions = [] then pure closedTrades
    else if phase = .flattenRequired then flattenBook q.now closedTrades
    else
      tripRiskSession [.overnightExposure] q.snapshot (some weekendExposure)
      self.persistRiskSession
      throw (safetyError weekendExposure)
  else pure closedTrades

/-! ## The decision window -/

def windowId (snapshot : BarredSnapshot) (bar : Bar) : Uuid :=
  Externals.uuid5 ("crumblr:paper-lite:decision-window:" ++ self.assignment.assignmentId.text
    ++ ":" ++ snapshot.symbol ++ ":" ++ snapshot.timeframe ++ ":" ++ isoTime bar.openTimeUtc)

/-- Claim the newest bar's window; once is all there is. -/
def claimWindow (snapshot : BarredSnapshot) : PaperPass Bool := do
  match snapshot.bars.getLast? with
  | none => throw ⟨.lookup, "tuple index out of range"⟩
  | some bar => own (.operate (.recordAuditFact "PAPER_LITE_DECISION_WINDOW_CLAIMED"
      (self.windowId snapshot bar) (some (isoTime bar.openTimeUtc))))

/-! ## Asking the agent -/

/-- The digest of the portfolio an agent is told of. -/
def portfolioSummaryHash (account : AccountState) (positions : List PositionState) : String :=
  digestOf (.obj [("account", account.dump), ("positions", .list (positions.map (·.dump)))])

omit [Externals] in
def policyHints (now : UtcDatetime) : Except PyError PolicyHints :=
  if h : 0 < self.riskConfig.minStopDistancePoints then
    .ok {
      maxIntentsPerHourHint := some self.assignment.maxProposalsPerHour
      minStopDistancePointsHint := some ⟨self.riskConfig.minStopDistancePoints, h⟩
      sessionBlackoutActive := self.sessionPhase now ≠ .open
      notes := some paperLitePolicyVersion }
  else .error ⟨.validation, "min_stop_distance_points_hint: Input should be greater than 0"⟩

/-- The evidence of an observation. -/
def evidence (q : Observation) : AgentContextEvidence :=
  buildAgentContextEvidence q.snapshot.symbol q.now q.snapshot.snapshotId q.spec.specVersion
    q.snapshot.sessionState q.snapshot.dataQuality

/-- The bundle that refers to an observation. -/
def contextBundle (q : Observation) (contextId : Uuid) (portfolioSummaryHash : String)
    (policyHints : PolicyHints) : DecisionContextBundle where
  contextId
  assignmentId := self.assignment.assignmentId
  marketSnapshotId := q.snapshot.snapshotId
  instrumentSpecVersion := q.spec.specVersion
  portfolioSummaryHash
  sessionState := q.snapshot.sessionState
  dataQuality := q.snapshot.dataQuality
  featureSnapshotId := (evidence q).featureSnapshotId
  policyHints := some policyHints
  newsSnapshotId := none
  issuedAtUtc := q.now
  expiresAtUtc := q.now + minutes 5
  expiry := Int.lt_add_of_pos_right _ (by decide)

/-- Publish the context of an observation. -/
def publishContext (q : Observation) (account : AccountState) (positions : List PositionState) :
    PaperPass DecisionContextBundle := do
  let hints ← lift (self.policyHints q.now)
  own (.recordEvidence (evidence q))
  let contextId ← own .freshId
  let bundle := self.contextBundle q contextId (portfolioSummaryHash account positions) hints
  own (.issueContextBundle bundle)
  pure bundle

/-- What the agent is shown. -/
def contextOf (q : Observation) (bundle : DecisionContextBundle) (safetyState : KillSwitchState)
    (openPositionCount : Nat) (openRiskFraction : Option OpenRiskFraction) : AgentMarketContext :=
  buildAgentMarketContext
    { contextId := bundle.contextId
      contentHash := bundle.contentHash
      assignmentId := self.assignment.assignmentId
      strategyArtifactId := self.assignment.strategyArtifactId
      strategyArtifactHash := self.assignment.strategyArtifactHash
      issuedAtUtc := bundle.issuedAtUtc
      expiresAtUtc := bundle.expiresAtUtc }
    q.snapshot q.spec
    { sessionState := q.snapshot.sessionState
      safetyState
      reconciliationStatus := .matched
      featureSnapshotId := bundle.featureSnapshotId
      openPositionCount
      openRiskFraction }
    bundle.policyHints

/-- Show the agent a context, and take its decision. -/
def askAgent (q : Observation) : PaperPass (AgentMarketContext × AgentSubmission) := do
  let b ← own .book
  let account ← lift b.broker.account
  let positions ← lift b.broker.positions
  let openRisk ← lift b.openRiskAssessment
  let bundle ← self.publishContext q account positions
  let killSwitch ← agent .killSwitch
  -- a flat book is shown as no fraction at all
  let fraction ← lift (match (if positions = [] then none else openRisk.fraction) with
    | none => .ok none
    | some d => (OpenRiskFraction.create d).map some)
  let context := self.contextOf q bundle killSwitch.state positions.length fraction
  let decision ← own (.decide context)
  pure (context, decision)

omit [Externals] in
/-- Put a decision to the gateway. -/
def submitToGateway (decision : AgentSubmission) (now : UtcDatetime) :
    PaperPass AgentDecisionOutcomeResult := do
  let call ← own (.authenticateOwn self.agentId self.credentialSecret decision now)
  own (.transact call)

/-! ## The result -/

/-- Put the session on record and say what the call came to. -/
def outcome (outcomeType : PaperLiteOutcomeType) (context : AgentMarketContext)
    (gatewayResult : AgentDecisionOutcomeResult) (closedTrades : List ClosedTrade)
    (detail : Option String) (decisionPath : Option AgentDecisionPathResult)
    (executionResult : Option SimulatedResult) : PaperPass PaperLiteOutcome := do
  self.persistRiskSession
  let b ← own .book
  let portfolio ← lift b.portfolioView
  pure {
    outcomeType
    context := some context
    gatewayResult := some gatewayResult
    portfolio
    decisionPath
    executionResult
    closedTrades
    detail }

/-! ## Risk, policy and review -/

/-- What the decision path is given for an outcome. -/
def decisionPath (q : Observation) (outcomeId : Uuid) (proposal : Option TradeProposal) :
    AgentDecisionPath where
  outcomeId
  strategyVersion := self.assignment.strategyArtifactHash
  snapshot := q.snapshot.toMarketSnapshot
  spec := q.spec
  features := (evidence q).features
  config := self.config
  environment := .paper
  codeCommit := self.codeCommit
  now := q.now
  seenDecisionHashes := []
  ordersInLastHour := 0
  incidentStatus := q.incidentStatus
  proposal
  externalSupervisor := proposal.isSome && self.externalSupervisor

/-- Evaluate an intent, or the decision not to trade. -/
def evaluate (q : Observation) (outcomeId : Uuid) (proposal : Option TradeProposal)
    (intent : Option TradeIntent) : PaperPass AgentDecisionPathResult :=
  ((self.decisionPath q outcomeId proposal).evaluateAgentTradeIntent intent).inl

def audit (fact : String) (outcomeId : Uuid) (detail : Option String) : PaperPass Unit := do
  let _ ← own (.operate (.recordAuditFact fact outcomeId detail))

omit [Externals] in
/-- Reasons in one text. -/
def reasonText (reasonCodes : ReasonCodes) : String :=
  match ",".intercalate reasonCodes.strings with
  | "" => "-"
  | text => text

omit [Externals] in
def reviewDetail (outcome : SupervisorReviewOutcome) : String :=
  "verdict=" ++ outcome.verdict.value ++ " reason_codes=" ++ reasonText outcome.reasonCodes
    ++ " review_id=" ++ (match outcome.review with
      | some review => review.reviewId.text
      | none => "None")

/-- Put the reviewing agent's verdict on record: why it blocks, if it does. -/
def reviewVerdict (outcomeId : Uuid) (path : AgentDecisionPathResult) :
    PaperPass (Option String) :=
  if self.externalSupervisor then do
    let outcome ← lift (assertSome path.externalSupervisorOutcome)
    audit "PAPER_LITE_EXTERNAL_SUPERVISOR_REVIEWED" outcomeId (some (reviewDetail outcome))
    if outcome.verdict ≠ .approve then
      pure (some (outcome.verdict.value ++ ": " ++ reasonText outcome.reasonCodes))
    else pure none
  else do
    audit "SUPERVISOR_SKIPPED_PAPER_MODE" outcomeId
      (some "external Supervisor omitted; Core Risk and platform Policy approved")
    pure none

/-! ## The order -/

def orderId (intent : TradeIntent) : Uuid :=
  Externals.uuid5 ("crumblr:paper-lite:order:" ++ intent.decisionHash)

/-- A broker symbol is one the contract admits. -/
def paperOrder (order : ApprovedOrder) : Except PyError PaperOrder :=
  if h : IsSymbol order.brokerSymbol then .ok ⟨order, h⟩
  else .error ⟨.validation, "broker_symbol: Input should be a valid symbol"⟩

/-- The order an approved intent stands for, and the risk it was authorized with. -/
def approvedOrder (q : Observation) (intent : TradeIntent) (risk : RiskDecision)
    (policy : SupervisorDecision) : Except PyError (PaperOrder × Decimal) := do
  let approvedVolume ← assertSome risk.approvedVolume
  let riskAmount ← assertSome risk.riskAmount
  let stopLossPrice ← assertSome intent.stopLossPrice
  let order ← ApprovedOrder.create (orderId intent) intent.intentId risk.decisionId none
    policy.decisionId q.spec.brokerSymbol intent.side intent.entryType approvedVolume
    (if intent.entryType = .market then none else some intent.referencePrice) stopLossPrice
    intent.takeProfitPrice self.executionConfig.maxSlippagePoints q.now intent.expiresAtUtc .paper
  let order ← paperOrder order
  pure (order, riskAmount)

/-- Check the order with the paper broker, and fill it. -/
def fill (q : Observation) (context : AgentMarketContext)
    (gatewayResult : AgentDecisionOutcomeResult) (closedTrades : List ClosedTrade)
    (path : AgentDecisionPathResult) (intent : TradeIntent) (risk : RiskDecision)
    (policy : SupervisorDecision) : PaperPass PaperLiteOutcome := do
  let (order, riskAmount) ← lift (self.approvedOrder q intent risk policy)
  let b ← own .book
  let check ← lift (b.broker.orderCheck order.val)
  if !check.accepted then
    audit "PAPER_LITE_ORDER_CHECK_BLOCKED" gatewayResult.outcomeId check.comment
    self.outcome .paperOrderCheckBlocked context gatewayResult closedTrades check.comment
      (some path) none
  else
    let execution ←
      own (.operate (.submit order riskAmount (some gatewayResult.outcomeId)))
    self.outcome .paperFilled context gatewayResult closedTrades none (some path) (some execution)

/-- What follows an accepted proposal. -/
def judgeProposal (q : Observation) (context : AgentMarketContext) (proposal : TradeProposal)
    (gatewayResult : AgentDecisionOutcomeResult) (closedTrades : List ClosedTrade) :
    PaperPass PaperLiteOutcome := do
  let killSwitch ← agent .killSwitch
  if killSwitch.isHalted then
    let detail := ",".intercalate (killSwitch.activeReasons.map (·.value))
    audit "PAPER_LITE_SAFETY_HALTED" gatewayResult.outcomeId (some detail)
    self.outcome .riskBlocked context gatewayResult closedTrades (some detail) none none
  else if self.sessionPhase q.now ≠ .open then
    let detail := (self.sessionPhase q.now).value
    audit "PAPER_LITE_SESSION_BLOCKED" gatewayResult.outcomeId (some detail)
    self.outcome .sessionBlocked context gatewayResult closedTrades (some detail) none none
  else
    let intent ← lift (assertSome gatewayResult.tradeIntent)
    let path ← self.evaluate q gatewayResult.outcomeId (some proposal) (some intent)
    match path.riskDecision with
    | none => self.outcome .riskBlocked context gatewayResult closedTrades none (some path) none
    | some risk =>
        if risk.verdict ≠ .pass then
          self.outcome .riskBlocked context gatewayResult closedTrades none (some path) none
        else
          match path.supervisorDecision with
          | none =>
              self.outcome .policyBlocked context gatewayResult closedTrades none (some path) none
          | some policy =>
              if policy.verdict ≠ .approve then
                self.outcome .policyBlocked context gatewayResult closedTrades none (some path)
                  none
              else
                match ← self.reviewVerdict gatewayResult.outcomeId path with
                | some detail =>
                    self.outcome .externalSupervisorBlocked context gatewayResult closedTrades
                      (some detail) (some path) none
                | none =>
                    self.fill q context gatewayResult closedTrades path intent risk policy

/-- What follows the agent's decision. -/
def judgeDecision (q : Observation) (context : AgentMarketContext) (decision : AgentSubmission)
    (gatewayResult : AgentDecisionOutcomeResult) (closedTrades : List ClosedTrade) :
    PaperPass PaperLiteOutcome :=
  if !gatewayResult.accepted then
    self.outcome .gatewayRejected context gatewayResult closedTrades
      (gatewayResult.reason.map (·.value)) none none
  else
    match decision with
    | .noTrade _ => do
        let path ← self.evaluate q gatewayResult.outcomeId none none
        self.outcome .noTrade context gatewayResult closedTrades none (some path) none
    | .proposal proposal => self.judgeProposal q context proposal gatewayResult closedTrades

/-! ## The call -/

/-- Take a snapshot, ask the agent, and evaluate what it decides. -/
def process (q : Observation) : PaperPass PaperLiteOutcome := do
  let closedTrades ← self.takeSnapshot q
  let closedTrades ← self.meetSession q closedTrades
  self.persistRiskSession
  let claimed ← self.claimWindow q.snapshot
  if !claimed then
    let b ← own .book
    let portfolio ← lift b.portfolioView
    pure {
      outcomeType := .alreadyProcessed
      context := none
      gatewayResult := none
      portfolio
      decisionPath := none
      executionResult := none
      closedTrades
      detail := some "this assignment/bar decision window was already claimed" }
  else
    let (context, decision) ← self.askAgent q
    let gatewayResult ← self.submitToGateway decision q.now
    self.judgeDecision q context decision gatewayResult closedTrades

end PaperLiteOrchestrator

end Crumblr.PaperLite
