import Crumblr.AgentGateway.SupervisorReview
import Crumblr.Application.LiveDecision

/-!
# From an agent's intent to a capsule

An intent the gateway accepted goes through risk and the platform's policy gate, and ends in
a capsule whatever they say. A reviewing agent is asked about what the gate approved, and its
answer is handed back beside the capsule.
-/

namespace Crumblr

/-- One coherent view of the account and its positions. -/
structure PortfolioSnapshot where
  account : AccountState
  openPositions : List PositionState
  reconciliationStatus : ReconciliationStatus

/-! ## The path's contacts -/

inductive AgentCall where
  /-- The account and the positions now. -/
  | portfolio
  | killSwitch
  /-- Take the risk-ledger lock and open its transaction. -/
  | lock (canonicalSymbol : String)
  | loadRiskSession (canonicalSymbol : String)
  | trip (halt : HaltRecord)
  | record (event : LiveEvent)
  | flush
  /-- Ask the reviewing agent. -/
  | review (proposal : TradeProposal) (intent : TradeIntent)
      (riskDecisionId policyGateDecisionId : Uuid) (now : UtcDatetime)
  | seal (capsule : SealedCapsule)

abbrev AgentCall.Answer : AgentCall → Type
  | .portfolio => PortfolioSnapshot
  | .killSwitch => KillSwitch
  | .loadRiskSession _ => SessionRecord
  | .review .. => Option SupervisorReview
  | _ => Unit

abbrev AgentPass (α : Type) : Type := Prog AgentCall AgentCall.Answer PyError α

structure AgentDecisionPathResult where
  capsule : SealedCapsule
  riskDecision : Option RiskDecision
  supervisorDecision : Option SupervisorDecision
  externalSupervisorOutcome : Option SupervisorReviewOutcome
  externalSupervisorRecord : Option ExternalSupervisorReviewRecord

/-- What one evaluation is given besides the intent. -/
structure AgentDecisionPath where
  outcomeId : Uuid
  strategyVersion : String
  snapshot : MarketSnapshot
  spec : InstrumentSpec
  features : FeatureEvidence
  config : PlatformConfig
  environment : Environment
  codeCommit : String
  now : UtcDatetime
  seenDecisionHashes : List String
  ordersInLastHour : Nat
  incidentStatus : IncidentStatus
  proposal : Option TradeProposal
  /-- Whether a reviewing agent was provided. -/
  externalSupervisor : Bool

namespace AgentDecisionPath

def ask (c : AgentCall) : AgentPass c.Answer := Prog.perform c

/-- A pure computation that may raise. -/
def lift {α : Type} (x : Except PyError α) : AgentPass α := Prog.ofExcept x

def policyVersion : String := "external-agent-policy-v1"

/-- Halt and journal it at once, unless halted already. -/
def trip (reasonCodes : List ReasonCode) (trippedBy : String) (occurredAtUtc : UtcDatetime)
    (correlationId : Uuid) (detail : Option String) : AgentPass Unit := do
  let killSwitch ← ask .killSwitch
  if killSwitch.isHalted then pure ()
  else if reasonCodes = [] then throw ⟨.value, "a halt must record why it happened"⟩
  else
    ask (.trip ⟨occurredAtUtc, reasonCodes, trippedBy, detail⟩)
    ask (.record ⟨.halted ⟨killSwitch.state, .halted, reasonCodes, trippedBy, detail⟩,
      correlationId, occurredAtUtc, "risk_engine"⟩)
    ask .flush

/-- The limits one market's intents are judged by. -/
def riskContext [Externals] (config : PlatformConfig) (canonicalSymbol : String) :
    Except PyError RiskContext := do
  let calendar := match config.marketFor canonicalSymbol with
    | some market => calendarFor market.assetClass market.sessionPolicyApproved
    | none => fxWeekdayCalendar
  let risk ← config.riskFor canonicalSymbol
  pure {
    risk
    execution := config.executionFor canonicalSymbol
    allowedSymbols := config.enabledSymbols
    requireDemoAccount := config.accountGuard.requireDemoAccount
    expectedServer := config.accountGuard.expectedServer
    expectedLogin := none
    riskConfigVersion := config.configVersion
    expectedCurrency := config.accountGuard.expectedCurrency
    expectedLeverage := config.accountGuard.expectedLeverage
    intraday := policyFromConfig config.intraday
    calendar }

/-! ## The policy gate -/

def platformPolicyDecision [Externals] (intent : TradeIntent) (verdict : SupervisorVerdict)
    (reasonCodes : List ReasonCode) (now : UtcDatetime)
    (reasons : verdict ≠ .approve → reasonCodes ≠ []) : SupervisorDecision where
  decisionId := Externals.uuid5 ("crumblr:agent-policy:" ++ intent.decisionHash ++ ":"
    ++ verdict.value)
  intentId := intent.intentId
  verdict
  reasonCodes
  decidedAtUtc := now
  policyVersion
  statisticalMonitorVersion := none
  observedRegime := .unknown
  notes := none
  uncalibratedChecks := []
  reasons

/-- Whether the platform itself is fit to trade; the strategy has no part in it. -/
def evaluatePlatformPolicy [Externals] (intent : TradeIntent) (incidentStatus : IncidentStatus)
    (reconciliationStatus : ReconciliationStatus) (now : UtcDatetime) : SupervisorDecision :=
  match reconciliationStatus with
  | .mismatched => platformPolicyDecision intent .halt [.reconciliationMismatch] now
      (SupervisorDecision.refusal_reasons _)
  | .unknown => platformPolicyDecision intent .halt [.reconciliationUnknown] now
      (SupervisorDecision.refusal_reasons _)
  | .matched =>
      match incidentStatus with
      | .active => platformPolicyDecision intent .veto [.activeIncident] now
          (SupervisorDecision.refusal_reasons _)
      | .unknown => platformPolicyDecision intent .veto [.incidentStateUnknown] now
          (SupervisorDecision.refusal_reasons _)
      | .clear => platformPolicyDecision intent .approve [] now
          SupervisorDecision.approval_reasons

/-! ## The external review -/

def externalSupervisorRecord [Externals] (outcome : SupervisorReviewOutcome)
    (proposalId tradeIntentId : Uuid) (tradeIntentDecisionHash : String) (now : UtcDatetime) :
    ExternalSupervisorReviewRecord where
  recordId := Externals.uuid5 ("crumblr:external-supervisor-record:" ++ proposalId.text ++ ":"
    ++ tradeIntentDecisionHash ++ ":" ++ outcome.verdict.value ++ ":"
    ++ (match outcome.review with
        | some review => review.reviewId.text
        | none => "None")
    ++ ":" ++ ",".intercalate outcome.reasonCodes.strings)
  proposalId
  tradeIntentId
  tradeIntentDecisionHash
  verdict := outcome.verdict
  reasonCodes := outcome.reasonCodes
  reviewId := outcome.review.map (·.reviewId)
  evaluatedAtUtc := now

variable [Externals] (self : AgentDecisionPath)

/-- Ask the reviewing agent, if there is one and there is a proposal to review. -/
def askSupervisor (intent : TradeIntent) (riskDecision : RiskDecision)
    (supervisorDecision : SupervisorDecision) :
    AgentPass (Option (SupervisorReviewOutcome × ExternalSupervisorReviewRecord)) :=
  match self.proposal with
  | none => pure none
  | some proposal =>
      if supervisorDecision.verdict = .approve ∧ self.externalSupervisor then do
        let review ← ask (.review proposal intent riskDecision.decisionId
          supervisorDecision.decisionId self.now)
        let outcome := SupervisorReview.evaluateSupervisorReview review proposal.proposalId
          intent.intentId intent.decisionHash self.now
        pure (some (outcome, externalSupervisorRecord outcome proposal.proposalId intent.intentId
          intent.decisionHash self.now))
      else pure none

/-! ## The session -/

omit [Externals] in
/-- What a risk session is recovered to. -/
def sessionRecovery (record : SessionRecord) (equity : Decimal) (openPositions : Nat)
    (marketDay : Date) : Except PyError SessionRecovery :=
  Crumblr.recoverSession record equity openPositions marketDay self.config.risk.maxDailyLoss.val
    self.config.risk.maxDrawdown.val

omit [Externals] in
/-- The recovery when the lock or the recovery itself fails: a fresh ledger, halted. -/
def unlockedRecovery (equity : Decimal) (marketDay : Date) (error : PyError) :
    Except PyError SessionRecovery :=
  haltedRecovery equity marketDay [.riskLedgerLockUnavailable]
    s!"risk-ledger lock/recover failed: {error.message}"

omit [Externals] in
/-- Recover the session under the lock. -/
def recoverRiskSession (portfolio : PortfolioSnapshot) : AgentPass SessionRecovery := do
  let marketDay := Sessions.tradingDay self.now
  let recovered ← Prog.rescue
    (do
      ask (.lock self.snapshot.symbol)
      let record ← ask (.loadRiskSession self.snapshot.symbol)
      pure (Except.ok (← lift (self.sessionRecovery record portfolio.account.equity
        portfolio.openPositions.length marketDay))))
    fun e => pure (Except.error e)
  match recovered with
  | .ok recovery => pure recovery
  | .error e => lift (unlockedRecovery portfolio.account.equity marketDay e)

/-! ## The evaluation -/

omit [Externals] in
def recordStage (payload : LivePayload) (source : String) : AgentPass Unit :=
  ask (.record ⟨payload, self.snapshot.snapshotId, self.snapshot.eventTimeUtc, source⟩)

/-- The record of an evaluation. -/
def capsuleOf (intent : Option TradeIntent) (riskDecision : Option RiskDecision)
    (supervisorDecision : Option SupervisorDecision) (positions : List PositionState) :
    SealedCapsule where
  capsuleId := Externals.uuid5 ("crumblr:agent-capsule:" ++ self.outcomeId.text)
  occurredAtUtc := self.snapshot.eventTimeUtc
  correlationId := self.snapshot.snapshotId
  canonicalSymbol := self.snapshot.symbol
  brokerSymbol := self.spec.brokerSymbol
  marketSnapshotId := self.snapshot.snapshotId
  featureSetVersion := self.features.featureSetVersion
  featureValuesHash := self.features.featureValuesHash
  strategyVersion := self.strategyVersion
  modelVersion := none
  tradeIntent := intent
  riskConfigVersion := self.config.configVersion
  riskDecision
  supervisorDecision
  positionStateBefore := positions
  positionStateAfter := positions
  codeCommit := self.codeCommit
  environment := self.environment

/-- The policy gate and the review, of an intent that risk has passed. -/
def gateAndReview (portfolio : PortfolioSnapshot) (intent : TradeIntent)
    (riskDecision : RiskDecision) : AgentPass AgentDecisionPathResult := do
  let supervisorDecision := evaluatePlatformPolicy intent self.incidentStatus
    portfolio.reconciliationStatus self.now
  self.recordStage (.supervisor supervisorDecision) "supervisor"
  if supervisorDecision.verdict = .halt then
    trip supervisorDecision.reasonCodes "supervisor" self.now self.snapshot.snapshotId none
  let review ← self.askSupervisor intent riskDecision supervisorDecision
  let capsule := self.capsuleOf (some intent) (some riskDecision) (some supervisorDecision)
    portfolio.openPositions
  ask (.seal capsule)
  pure ⟨capsule, some riskDecision, some supervisorDecision, review.map (·.1), review.map (·.2)⟩

/-- Risk's verdict on an intent, and what follows. -/
def judgeIntent (portfolio : PortfolioSnapshot) (intent : TradeIntent) :
    AgentPass AgentDecisionPathResult := do
  self.recordStage (.intent intent) "agent_gateway"
  let recovery ← self.recoverRiskSession portfolio
  if recovery.mustHalt then
    trip recovery.reasonCodes "agent_decision_path_risk_session_recovery" self.now
      self.snapshot.snapshotId recovery.detail
  let openRisk ← lift (assessOpenRisk portfolio.openPositions self.spec portfolio.account.equity)
  let context ← lift (riskContext self.config self.snapshot.symbol)
  let killSwitch ← ask .killSwitch
  let riskDecision ← lift (evaluate intent self.snapshot self.spec {
      account := portfolio.account
      openPositions := portfolio.openPositions
      ledger := recovery.ledger
      ordersInLastHour := self.ordersInLastHour
      seenDecisionHashes := self.seenDecisionHashes
      openRiskFraction := openRisk.fraction } context killSwitch self.now)
  self.recordStage (.risk riskDecision) "risk_engine"
  if riskDecision.verdict = .halt then
    trip riskDecision.reasonCodes "risk_engine" self.now self.snapshot.snapshotId none
  if riskDecision.verdict ≠ .pass then
    let capsule := self.capsuleOf (some intent) (some riskDecision) none portfolio.openPositions
    ask (.seal capsule)
    pure ⟨capsule, some riskDecision, none, none, none⟩
  else self.gateAndReview portfolio intent riskDecision

/-- Evaluate an intent, or the decision not to trade, and seal the result. -/
def evaluateAgentTradeIntent (intent : Option TradeIntent) :
    AgentPass AgentDecisionPathResult := do
  let portfolio ← ask .portfolio
  match intent with
  | none =>
      let capsule := self.capsuleOf none none none portfolio.openPositions
      ask (.seal capsule)
      pure ⟨capsule, none, none, none, none⟩
  | some intent => self.judgeIntent portfolio intent

end AgentDecisionPath

end Crumblr
