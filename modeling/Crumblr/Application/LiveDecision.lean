import Crumblr.Lib.System
import Crumblr.Application.DecisionWindow
import Crumblr.Application.Execution
import Crumblr.Application.SessionCycles
import Crumblr.Evaluator.Pretrade

/-!
# Live decisions

One closed bar at a time: recover the risk session, claim the bar's window on record, ask
the strategy, risk and the supervisor, remember the decision's hash on record, and seal a
capsule. Nothing is ever sent to a broker from here.

What the worker keeps in memory outlives a call that raises, and not its process.
-/

namespace Crumblr

/-- A live decision worker's constant part. -/
structure LiveDecisionService extends LiveDecisionOrchestrator where
  config : PlatformConfig
  supervisor : SupervisorConfig
  strategy : StrategyEntry
  timeframe : String
  riskConfigMerged : config.riskFor canonicalSymbol = .ok riskConfig
  resolved : strategy.strategyId = config.tradingAgent.strategyId

/-! ## What is recorded -/

/-- A capsule, with what the execution chain does not read of it. -/
structure SealedCapsule extends DecisionCapsule where
  correlationId : Uuid
  positionStateBefore : List PositionState
  positionStateAfter : List PositionState

structure SignalGenerated where
  signalId : Uuid
  snapshotId : Uuid
  symbol : String
  strategyId : String
  strategyVersion : String
  modelVersion : Option String
  proposedSide : Side
  confidence : PyFloat
  regime : Regime
  featureSnapshotId : Uuid
  featureSetVersion : String
  reasonCodes : List String

structure SystemHalted where
  stateBefore : KillSwitchState
  stateAfter : KillSwitchState
  reasonCodes : List ReasonCode
  trippedBy : String
  detail : Option String

/-- What the worker journals. -/
inductive LivePayload where
  | signal (signal : SignalGenerated)
  | intent (intent : TradeIntent)
  | risk (decision : RiskDecision)
  | supervisor (decision : SupervisorDecision)
  | halted (halt : SystemHalted)
  /-- The sealing of a window. -/
  | sealed (capsule : SealedCapsule)

/-- A journalled payload with where and when it belongs. -/
structure LiveEvent where
  payload : LivePayload
  correlationId : Uuid
  occurredAtUtc : UtcDatetime
  source : String

structure LiveDecisionOutcome where
  capsule : Option SealedCapsule
  skippedReason : Option String

/-! ## The worker's contacts -/

/-- What the worker remembers from one call to the next. -/
structure LiveMemory where
  killSwitch : KillSwitch
  decisionWindowRecovered : Bool
  lastDecidedOpenTime : Option UtcDatetime
  seenHashes : List String
  /-- Events that wait for the window to be sealed. -/
  pending : List LiveEvent

inductive LiveCall where
  | memory
  /-- Remember what the record says was decided. -/
  | restore (lastDecided : Option UtcDatetime) (seenHashes : List String)
  | markRecovered
  | claimWindow (openTime : UtcDatetime)
  | addSeen (decisionHash : String)
  | clock
  | loadWindow (canonicalSymbol strategyId configVersion : String)
  | saveWindow (state : DecisionWindowState)
  | latestSpec (canonicalSymbol : String)
  | recentBars (canonicalSymbol timeframe : String) (limit : Nat)
  | latestTick (canonicalSymbol : String)
  | latestAccountSnapshot
  | positionsFor (snapshotId : Uuid)
  /-- Take the risk-ledger lock and open its transaction. -/
  | lock (canonicalSymbol : String)
  | loadRiskSession (canonicalSymbol : String)
  /-- Append a risk session, commit, and release the lock. -/
  | saveRiskSession (state : RiskSessionState)
  | trip (halt : HaltRecord)
  | strategy (snapshot : MarketSnapshot) (history : List Bar) (spec : InstrumentSpec)
      (context : AgentContext)
  /-- The status a reconciliation comes to, on reads of its own. -/
  | reconcile (now : UtcDatetime)
  | recordFeatures (features : FeatureEvidence)
  | record (event : LiveEvent)
  | flush
  | seal (capsule : SealedCapsule)
  /-- What the caller is handed. -/
  | report (outcome : LiveDecisionOutcome)
  /-- An operator resets the kill switch from the worker's process. -/
  | resetHalt (operator incidentNote : String)

abbrev LiveCall.Answer : LiveCall → Type
  | .memory => LiveMemory
  | .clock => UtcDatetime
  | .loadWindow .. => DecisionWindowRecord
  | .latestSpec _ => Option InstrumentSpec
  | .recentBars .. => List Bar
  | .latestTick _ => Option MarketTick
  | .latestAccountSnapshot => Option BrokerAccountSnapshot
  | .positionsFor _ => List BrokerPositionSnapshot
  | .loadRiskSession _ => SessionRecord
  | .strategy .. => StrategyOutcome
  | .reconcile _ => ReconciliationStatus
  | _ => Unit

/-- The worker's program. -/
abbrev LivePass (α : Type) : Type := Prog LiveCall LiveCall.Answer PyError α

namespace LiveDecisionService

/-- Make a call. -/
def ask (c : LiveCall) : LivePass c.Answer := Prog.perform c

/-- A pure computation that may raise. -/
def lift {α : Type} (x : Except PyError α) : LivePass α := Prog.ofExcept x

def recentBarWindow : Nat := 400

def codeCommit : String := "uncommitted-prototype"

/-- The account as risk sees it. A snapshot carries no login; zero stands for none. -/
def accountStateFromSnapshot (snapshot : BrokerAccountSnapshot) (isDemo : Bool) :
    AccountState where
  login := 0
  server := snapshot.server
  currency := snapshot.currency
  isDemo
  tradeAllowed := snapshot.accountTradeAllowed
  expertAllowed := snapshot.accountTradeAllowed
  connected := true
  balance := snapshot.balance
  equity := snapshot.equity
  margin := snapshot.margin
  marginFree := snapshot.marginFree
  marginLevel := snapshot.marginLevel
  leverage := snapshot.leverage
  observedAtUtc := snapshot.observedAtUtc

def positionStateFromSnapshot (position : BrokerPositionSnapshot) : PositionState where
  ticket := position.ticket
  brokerSymbol := position.brokerSymbol
  side := position.side
  volume := position.volume
  openPrice := position.openPrice
  currentPrice := position.currentPrice
  stopLossPrice := position.stopLossPrice
  takeProfitPrice := position.takeProfitPrice
  openedAtUtc := position.openedAtUtc
  profit := position.profit
  swap := position.swap
  magic := position.magic
  observedAtUtc := position.observedAtUtc
  directional := position.directional

/-- A fraction with four decimals. -/
def fourDecimals (d : Decimal) : String := (d.rescale .halfEven (-4)).text

variable [Externals] (self : LiveDecisionService)

def executionConfig : ExecutionConfig := self.config.executionFor self.canonicalSymbol

def calendar : TradingCalendar :=
  match self.config.marketFor self.canonicalSymbol with
  | some market => calendarFor market.assetClass market.sessionPolicyApproved
  | none => fxWeekdayCalendar

def riskContext : RiskContext where
  risk := self.riskConfig
  execution := self.executionConfig
  allowedSymbols := self.config.enabledSymbols
  requireDemoAccount := self.config.accountGuard.requireDemoAccount
  expectedServer := self.config.accountGuard.expectedServer
  expectedLogin := none
  riskConfigVersion := self.config.configVersion
  expectedCurrency := self.config.accountGuard.expectedCurrency
  expectedLeverage := self.config.accountGuard.expectedLeverage
  intraday := policyFromConfig self.config.intraday
  calendar := self.calendar

omit [Externals] in
def policy : Pretrade.SupervisorPolicy where
  enabled := self.supervisor.enabled
  vetoOnUnknownRegime := self.supervisor.vetoOnUnknownRegime
  allowedStrategyIds := [self.config.tradingAgent.strategyId]
  allowedModelVersions := none
  maxIntentsPerHour := self.supervisor.maxIntentsPerHour

/-- The snapshot handed to the strategy. -/
def buildMarketSnapshot (tick : MarketTick) (spec : InstrumentSpec) :
    Except PyError MarketSnapshot := do
  let spreadPoints ← priceToPoints (tick.ask.val - tick.bid.val) spec.point.val
  MarketSnapshot.create (snapshotIdFor spec.canonicalSymbol tick.eventTimeUtc)
    spec.canonicalSymbol tick.eventTimeUtc tick.receivedTimeUtc tick.bid tick.ask spreadPoints
    self.timeframe .open spec.specVersion tick.dataQuality

/-! ## Halting -/

omit [Externals] in
/-- Halt and journal it at once, unless halted already. -/
def trip (reasonCodes : List ReasonCode) (trippedBy : String) (occurredAtUtc : UtcDatetime)
    (correlationId : Uuid) (detail : Option String) : LivePass Unit := do
  let killSwitch := (← ask .memory).killSwitch
  if killSwitch.isHalted then pure ()
  else if reasonCodes = [] then throw ⟨.value, "a halt must record why it happened"⟩
  else
    ask (.trip ⟨occurredAtUtc, reasonCodes, trippedBy, detail⟩)
    ask (.record ⟨.halted ⟨killSwitch.state, .halted, reasonCodes, trippedBy, detail⟩,
      correlationId, occurredAtUtc, "risk_engine"⟩)
    ask .flush

omit [Externals] in
def skip (reason : String) : LivePass LiveDecisionOutcome := pure ⟨none, some reason⟩

/-! ## The decision window -/

/-- Restore what was decided, and halt when it cannot be told. -/
def recoverDecisionWindow : LivePass Unit := do
  let record ← ask (.loadWindow self.canonicalSymbol self.strategy.strategyId
    self.config.configVersion)
  let recovery := Crumblr.recoverDecisionWindow record
  ask (.restore recovery.lastDecidedOpenTimeUtc recovery.seenDecisionHashes)
  if recovery.mustHalt then
    let now ← ask .clock
    trip recovery.reasonCodes "decision_window_recovery" now
      (Externals.uuid5 ("crumblr:decision-window-recovery:" ++ self.canonicalSymbol ++ ":"
        ++ self.strategy.strategyId ++ ":" ++ self.config.configVersion ++ ":" ++ isoTime now))
      recovery.detail

omit [Externals] in
def saveDecisionWindow (now : UtcDatetime) : LivePass Unit := do
  let memory ← ask .memory
  let lastDecided ← lift (assertSome memory.lastDecidedOpenTime)
  ask (.saveWindow {
    canonicalSymbol := self.canonicalSymbol
    strategyId := self.strategy.strategyId
    configVersion := self.config.configVersion
    lastDecidedOpenTimeUtc := lastDecided
    seenDecisionHashes := memory.seenHashes
    recordedAtUtc := now
    schemaVersion := decisionWindowSchemaVersion })

/-! ## The risk session -/

omit [Externals] in
/-- What a risk session is recovered to. -/
def sessionRecovery (record : SessionRecord) (equity : Decimal) (openPositions : Nat)
    (marketDay : Date) : Except PyError SessionRecovery :=
  Crumblr.recoverSession record equity openPositions marketDay self.riskConfig.maxDailyLoss.val
    self.riskConfig.maxDrawdown.val

/-- Recover, mark and persist under the lock; the ledger it leaves. -/
def recoverUpdatePersistSession (accountSnapshot : BrokerAccountSnapshot) (marketDay : Date)
    (positions : List PositionState) (openRisk : OpenRiskAssessment) (now : UtcDatetime) :
    LivePass EquityLedger := do
  ask (.lock self.canonicalSymbol)
  let record ← ask (.loadRiskSession self.canonicalSymbol)
  let livePositions ← ask (.positionsFor accountSnapshot.snapshotId)
  let recovery ← lift (self.sessionRecovery record accountSnapshot.equity livePositions.length
    marketDay)
  if recovery.mustHalt then
    trip recovery.reasonCodes "risk_session_recovery" accountSnapshot.observedAtUtc
      (Externals.uuid5 ("crumblr:live-recovery:" ++ accountSnapshot.snapshotId.text))
      recovery.detail
  let ledger := recovery.ledger.update accountSnapshot.equity
  match recovery.tradingDay with
  | none => pure ()
  | some day =>
      ask (.saveRiskSession (snapshot ledger self.canonicalSymbol day
        (ledger.currentEquity - ledger.startingEquity) openRisk.fraction positions.length now))
  pure ledger

def checkLossGates (ledger : EquityLedger) (now : UtcDatetime) : LivePass Unit := do
  let memory ← ask .memory
  let breached :=
    (if self.riskConfig.maxDrawdown.val ≤ ledger.drawdownFraction then [ReasonCode.maxDrawdown]
      else [])
    ++ (if self.riskConfig.maxDailyLoss.val ≤ ledger.sessionLossFraction
      then [.dailyLossLimit] else [])
  if memory.killSwitch.isHalted ∨ breached = [] then pure ()
  else
    trip breached "risk_engine" now
      (Externals.uuid5 ("crumblr:live-loss-gate:" ++ isoTime now))
      (some (s!"drawdown={fourDecimals ledger.drawdownFraction} "
        ++ s!"session_loss={fourDecimals ledger.sessionLossFraction}"))

def checkSessionBoundary (moment : UtcDatetime) (positions : List PositionState)
    (now : UtcDatetime) : LivePass Unit := do
  let memory ← ask .memory
  if memory.killSwitch.isHalted then pure ()
  else if overnightBreach positions moment self.riskContext.intraday self.calendar then
    trip [.overnightExposure] "risk_engine" now
      (Externals.uuid5 ("crumblr:live-session-boundary:" ++ isoTime moment))
      (some (s!"{positions.length} position(s) still open at {isoTime moment}, "
        ++ "past the flatten deadline"))

/-! ## One window -/

/-- The identity of a window's capsule. -/
def liveCapsuleId (snapshotId : Uuid) : Uuid :=
  Externals.uuid5 ("crumblr:live-capsule:" ++ snapshotId.text)

/-- The record of a window. -/
def windowCapsule (snapshot : MarketSnapshot) (spec : InstrumentSpec) (features : FeatureEvidence)
    (intent : Option TradeIntent) (riskDecision : Option RiskDecision)
    (supervisorDecision : Option SupervisorDecision) (positions : List PositionState) :
    SealedCapsule where
  capsuleId := liveCapsuleId snapshot.snapshotId
  occurredAtUtc := snapshot.eventTimeUtc
  correlationId := snapshot.snapshotId
  canonicalSymbol := snapshot.symbol
  brokerSymbol := spec.brokerSymbol
  marketSnapshotId := snapshot.snapshotId
  featureSetVersion := features.featureSetVersion
  featureValuesHash := features.featureValuesHash
  strategyVersion := self.strategy.version
  modelVersion := none
  tradeIntent := intent
  riskConfigVersion := self.config.configVersion
  riskDecision
  supervisorDecision
  positionStateBefore := positions
  positionStateAfter := positions
  codeCommit
  environment := self.config.environment

omit [Externals] in
/-- Seal a window and return its record. -/
def sealCapsule (capsule : SealedCapsule) : LivePass LiveDecisionOutcome := do
  ask (.seal capsule)
  pure ⟨some capsule, none⟩

/-- Everything a window is judged on. -/
structure Window where
  snapshot : MarketSnapshot
  history : List Bar
  spec : InstrumentSpec
  account : AccountState
  positions : List PositionState
  openRisk : OpenRiskAssessment
  ledger : EquityLedger
  now : UtcDatetime

omit [Externals] in
/-- Journal a stage of a window. -/
def recordStage (w : Window) (payload : LivePayload) (source : String) : LivePass Unit :=
  ask (.record ⟨payload, w.snapshot.snapshotId, w.snapshot.eventTimeUtc, source⟩)

def signalOf (w : Window) (decision : StrategyDecision) (features : FeatureEvidence) :
    SignalGenerated where
  signalId := Externals.uuid5 ("crumblr:signal:" ++ w.snapshot.snapshotId.text ++ ":"
    ++ self.strategy.strategyId)
  snapshotId := w.snapshot.snapshotId
  symbol := w.snapshot.symbol
  strategyId := self.strategy.strategyId
  strategyVersion := self.strategy.version
  modelVersion := self.config.tradingAgent.modelVersion
  proposedSide := decision.side
  confidence := decision.confidence
  regime := features.regime
  featureSnapshotId := features.featureSnapshotId
  featureSetVersion := features.featureSetVersion
  reasonCodes := decision.reasonCodes

omit [Externals] in
def portfolioOf (w : Window) (seenHashes : List String) : PortfolioState where
  account := w.account
  openPositions := w.positions
  ledger := w.ledger
  ordersInLastHour := 0
  seenDecisionHashes := seenHashes
  openRiskFraction := w.openRisk.fraction

/-- The supervisor's verdict on an intent risk has passed. -/
def superviseAndSeal (w : Window) (features : FeatureEvidence) (intent : TradeIntent)
    (status : ReconciliationStatus) (riskDecision : RiskDecision) :
    LivePass LiveDecisionOutcome := do
  let supervisorDecision := Pretrade.evaluate intent features self.policy ⟨0, .clear, status⟩ w.now
  recordStage w (.supervisor supervisorDecision) "supervisor"
  if supervisorDecision.verdict = .halt then
    trip supervisorDecision.reasonCodes "supervisor" w.now w.snapshot.snapshotId none
  ask (.addSeen intent.decisionHash)
  self.saveDecisionWindow w.now
  sealCapsule (self.windowCapsule w.snapshot w.spec features (some intent) (some riskDecision)
    (some supervisorDecision) w.positions)

/-- Risk's verdict on an intent, and what follows. -/
def judgeIntent (w : Window) (features : FeatureEvidence) (intent : TradeIntent) :
    LivePass LiveDecisionOutcome := do
  recordStage w (.intent intent) "trading_agent"
  let status ← ask (.reconcile w.now)
  let memory ← ask .memory
  let riskDecision ← lift (evaluate intent w.snapshot w.spec (portfolioOf w memory.seenHashes)
    self.riskContext memory.killSwitch w.now)
  recordStage w (.risk riskDecision) "risk_engine"
  if riskDecision.verdict = .halt then
    trip riskDecision.reasonCodes "risk_engine" w.now w.snapshot.snapshotId none
  if riskDecision.verdict ≠ .pass then
    sealCapsule (self.windowCapsule w.snapshot w.spec features (some intent) (some riskDecision) none
      w.positions)
  else self.superviseAndSeal w features intent status riskDecision

/-- Ask the strategy about a claimed window, and judge what it says. -/
def judge (w : Window) : LivePass LiveDecisionOutcome := do
  let outcome ← ask (.strategy w.snapshot w.history w.spec {
    openPositionSides := w.positions.map (·.side)
    requestedRiskFraction := self.riskConfig.maxRiskPerTrade
    minStopDistancePoints := self.riskConfig.minStopDistancePoints })
  match outcome.features with
  | none => skip "strategy has too little history to say anything"
  | some features =>
      ask (.recordFeatures features)
      recordStage w (.signal (self.signalOf w outcome.decision features)) "trading_agent"
      match outcome.decision.intent with
      | none =>
          sealCapsule (self.windowCapsule w.snapshot w.spec features none none none w.positions)
      | some intent => self.judgeIntent w features intent

/-- Claim a window in memory and on record, and then judge it. -/
def claimAndJudge (latestOpenTime : UtcDatetime) (w : Window) : LivePass LiveDecisionOutcome := do
  ask (.claimWindow latestOpenTime)
  self.saveDecisionWindow w.now
  self.judge w

/-- A window that has not been decided: the risk session first, then the window. -/
def decideWindow (spec : InstrumentSpec) (bars : List Bar) (latestOpenTime : UtcDatetime)
    (tick : MarketTick) (accountSnapshot : BrokerAccountSnapshot) :
    LivePass LiveDecisionOutcome := do
  let now ← ask .clock
  let positions := (← ask (.positionsFor accountSnapshot.snapshotId)).map positionStateFromSnapshot
  let account := accountStateFromSnapshot accountSnapshot self.config.accountGuard.requireDemoAccount
  let openRisk ← lift (assessOpenRisk positions spec account.equity)
  let persisted ← Prog.rescue
    (do pure (Except.ok (← self.recoverUpdatePersistSession accountSnapshot
      (Sessions.tradingDay tick.eventTimeUtc) positions openRisk now)))
    fun e => pure (Except.error e)
  match persisted with
  | .error e =>
      let detail := s!"risk-ledger lock/recover/persist failed: {e.message}"
      trip [.riskLedgerLockUnavailable] "risk_ledger_lock" now
        (Externals.uuid5 ("crumblr:live-lock-failure:" ++ isoTime now)) (some detail)
      skip detail
  | .ok ledger =>
      self.checkLossGates ledger now
      self.checkSessionBoundary tick.eventTimeUtc positions now
      let snapshot ← lift (self.buildMarketSnapshot tick spec)
      self.claimAndJudge latestOpenTime
        ⟨snapshot, bars, spec, account, positions, openRisk, ledger, now⟩

/-- The newest closed bar, once the windows are recovered. -/
def evaluateNewest : LivePass LiveDecisionOutcome := do
  match ← ask (.latestSpec self.canonicalSymbol) with
  | none => skip "no instrument spec has been observed yet"
  | some spec =>
      let bars ← ask (.recentBars self.canonicalSymbol self.timeframe recentBarWindow)
      if bars.length < self.strategy.minimumBars then
        skip s!"only {bars.length} bars stored, strategy needs {self.strategy.minimumBars}"
      else
        match bars.getLast? with
        | none => throw ⟨.other, "tuple index out of range"⟩
        | some newest =>
            let latestOpenTime := newest.openTimeUtc
            let memory ← ask .memory
            if memory.lastDecidedOpenTime.any (fun last => decide (latestOpenTime ≤ last)) then
              skip "no new closed bar since the last decision"
            else
              match ← ask (.latestTick self.canonicalSymbol) with
              | none => skip "no tick has been observed yet"
              | some tick =>
                  match ← ask .latestAccountSnapshot with
                  | none => skip "no broker-state snapshot has ever been captured"
                  | some accountSnapshot =>
                      self.decideWindow spec bars latestOpenTime tick accountSnapshot

/-- Evaluate the newest closed bar, if it has not been judged yet. -/
def decideOnce : LivePass LiveDecisionOutcome := do
  if !(← ask .memory).decisionWindowRecovered then
    self.recoverDecisionWindow
    ask .markRecovered
  self.evaluateNewest

/-- The caller's loop body: decide, and hand over what came of it. -/
def program : LivePass Unit := do
  let outcome ← self.decideOnce
  ask (.report outcome)

end LiveDecisionService

end Crumblr
