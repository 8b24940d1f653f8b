import Crumblr.Application.Recording
import Crumblr.Application.Replay
import Crumblr.Lib.Raising
import Crumblr.Risk.Policies

/-!
# The transaction flow of a replay

A replay drives a strategy, risk, the supervisor and a simulated broker over a list of ticks. Each
window goes through its stages in order, and each stage that is reached is recorded and counted;
a window in which the strategy had something to say is sealed into a capsule, whatever came of it.
-/

namespace Crumblr

/-! ## Synthetic market data -/

/-- Where the observations of a replay come from. -/
def syntheticSource : String := "synthetic:seeded-random-walk-v1"

namespace GeneratedTick

variable (tick : GeneratedTick) (spec : InstrumentSpec)

/-- A price the contracts admit. -/
def contractPrice (name : String) (price : Decimal) : Except PyError Price :=
  if h : 0 < price then .ok ⟨price, h⟩
  else .error ⟨.validation, s!"{name}: Input should be greater than 0"⟩

/-- The raw record of the quote. -/
def asMarketTick [Externals] : Except PyError StoredTick := do
  let bid ← contractPrice "bid" tick.bid
  let ask ← contractPrice "ask" tick.ask
  pure {
    tickId := tickIdentity syntheticSource spec.canonicalSymbol tick.eventTimeUtc bid ask
    source := syntheticSource
    canonicalSymbol := spec.canonicalSymbol
    brokerSymbol := spec.brokerSymbol
    eventTimeUtc := tick.eventTimeUtc
    receivedTimeUtc := tick.receivedTimeUtc
    bid
    ask
    dataQuality := tick.dataQuality
    anomalies := []
    last := none
    volume := none
    flags := none }

/-- The raw record of the bar; the generator emits bars, it does not aggregate ticks. -/
def asMarketBar [Externals] (timeframe : String) : MarketBar where
  barId := Pipeline.barIdentity syntheticSource spec.canonicalSymbol timeframe tick.bar.openTimeUtc
  source := syntheticSource
  canonicalSymbol := spec.canonicalSymbol
  brokerSymbol := spec.brokerSymbol
  timeframe
  bar := tick.bar
  origin := .synthetic
  pipelineVersion := none
  tickCount := none
  receivedTimeUtc := tick.receivedTimeUtc
  dataQuality := tick.dataQuality
  anomalies := []

/-- The snapshot handed to the strategy. -/
def buildSnapshot [Externals] (timeframe : String) : Except PyError MarketSnapshot := do
  let bid ← contractPrice "bid" tick.bid
  let ask ← contractPrice "ask" tick.ask
  MarketSnapshot.create (snapshotIdFor spec.canonicalSymbol tick.eventTimeUtc) spec.canonicalSymbol
    tick.eventTimeUtc tick.receivedTimeUtc bid ask tick.spreadPoints timeframe .open
    spec.specVersion tick.dataQuality

end GeneratedTick

/-! ## The tally -/

/-- How often each key was counted, in the order in which the keys were first met. -/
abbrev Counts : Type := List (String × Nat)

/-- `bucket[key] = bucket.get(key, 0) + 1` -/
def Counts.count : Counts → String → Counts
  | [], key => [(key, 1)]
  | (k, n) :: rest, key => if k = key then (k, n + 1) :: rest else (k, n) :: Counts.count rest key

def Counts.countAll (bucket : Counts) (keys : List String) : Counts := keys.foldl Counts.count bucket

/-- Counters for the run report. -/
structure RunTally where
  windows : Nat := 0
  featuresUnavailable : Nat := 0
  noTrade : Nat := 0
  intents : Nat := 0
  riskPassed : Nat := 0
  riskBlocked : Nat := 0
  riskHalted : Nat := 0
  supervisorApproved : Nat := 0
  supervisorVetoed : Nat := 0
  supervisorHalted : Nat := 0
  orderCheckRejected : Nat := 0
  ordersFilled : Nat := 0
  noTradeReasons : Counts := []
  riskReasons : Counts := []
  supervisorReasons : Counts := []
  injectedFaults : Counts := []
  deriving DecidableEq

/-- A verdict of risk, counted with its reasons. -/
def RunTally.risk (tally : RunTally) (decision : RiskDecision) : RunTally :=
  let tally := { tally with
    riskReasons := tally.riskReasons.countAll (decision.reasonCodes.map ReasonCode.value) }
  match decision.verdict with
  | .pass => { tally with riskPassed := tally.riskPassed + 1 }
  | .block => { tally with riskBlocked := tally.riskBlocked + 1 }
  | .halt => { tally with riskHalted := tally.riskHalted + 1 }

/-- A verdict of the supervisor, counted with its reasons. -/
def RunTally.supervisor (tally : RunTally) (decision : SupervisorDecision) : RunTally :=
  let tally := { tally with
    supervisorReasons := tally.supervisorReasons.countAll (decision.reasonCodes.map ReasonCode.value) }
  match decision.verdict with
  | .approve => { tally with supervisorApproved := tally.supervisorApproved + 1 }
  | .veto => { tally with supervisorVetoed := tally.supervisorVetoed + 1 }
  | .halt => { tally with supervisorHalted := tally.supervisorHalted + 1 }

/-! ## The orchestrator -/

/-- A replay's constant part. -/
structure ReplaySetup where
  config : PlatformConfig
  supervisor : SupervisorConfig
  spec : InstrumentSpec
  strategy : StrategyEntry
  riskConfig : RiskConfig
  riskConfigMerged : config.riskFor spec.canonicalSymbol = .ok riskConfig
  resolved : strategy.strategyId = config.tradingAgent.strategyId

/-- What a run changes: the orchestrator's fields, the locals of its run, and the calls its
recorder was given. -/
structure ReplayState extends ReplayOrchestrator where
  broker : SimulatedBroker
  killSwitch : KillSwitch
  history : List Bar
  seenHashes : List String
  orderTimes : List UtcDatetime
  recentIntents : List UtcDatetime
  tally : RunTally
  capsules : List RunCapsule
  reportedStart : Decimal
  calls : List RecorderCall

structure RunResult where
  tally : RunTally
  capsules : List RunCapsule
  closedTrades : List ClosedTrade
  startingEquity : Decimal
  finalEquity : Decimal
  peakEquity : Decimal
  maxDrawdownFraction : Decimal
  halted : Bool
  haltReasons : List ReasonCode
  sessionStartEquity : Decimal
  sessionResumed : Bool
  uncalibratedChecks : List String
  haltDetail : Option String

abbrev ReplayRun (α : Type) : Type := Raising ReplayState PyError α

/-- Rolling window handed to the strategy. -/
def maxHistoryBars : Nat := 400

/-- A bar more, and the oldest one less if there are too many. -/
def pushBar (history : List Bar) (bar : Bar) : List Bar :=
  (history ++ [bar]).drop ((history ++ [bar]).length - maxHistoryBars)

/-- Drop entries that have aged out of the rolling rate-limit window. -/
def trimWindow (entries : List UtcDatetime) (now : UtcDatetime) (window : Timedelta) :
    List UtcDatetime :=
  entries.dropWhile fun entry => decide (window < now - entry)

namespace ReplaySetup

open Raising (read change)

def timeframe : String := "M5"

def replayCodeCommit : String := "uncommitted-prototype"

variable (self : ReplaySetup)

def calendar [Externals] : TradingCalendar :=
  match self.config.marketFor self.spec.canonicalSymbol with
  | some market => calendarFor market.assetClass market.sessionPolicyApproved
  | none => fxWeekdayCalendar

def executionConfig : ExecutionConfig := self.config.executionFor self.spec.canonicalSymbol

def riskContext [Externals] : RiskContext where
  risk := self.riskConfig
  execution := self.executionConfig
  allowedSymbols := self.config.enabledSymbols
  requireDemoAccount := self.config.accountGuard.requireDemoAccount
  expectedServer := self.config.accountGuard.expectedServer
  expectedLogin := self.config.accountGuard.expectedLogin
  riskConfigVersion := self.config.configVersion
  expectedCurrency := self.config.accountGuard.expectedCurrency
  expectedLeverage := self.config.accountGuard.expectedLeverage
  intraday := policyFromConfig self.config.intraday
  calendar := self.calendar

def policy : Pretrade.SupervisorPolicy where
  enabled := self.supervisor.enabled
  vetoOnUnknownRegime := self.supervisor.vetoOnUnknownRegime
  allowedStrategyIds := [self.config.tradingAgent.strategyId]
  allowedModelVersions := none
  maxIntentsPerHour := self.supervisor.maxIntentsPerHour

/-- An orchestrator before its run. -/
def create (broker : SimulatedBroker) (startingEquity : Decimal) (killSwitch : KillSwitch)
    (sessionStore : RiskSessionStates) : Except PyError ReplayState := do
  let session ← ReplayOrchestrator.create self.spec.canonicalSymbol self.riskConfig sessionStore
    startingEquity
  pure { session with
    broker
    killSwitch
    history := []
    seenHashes := []
    orderTimes := []
    recentIntents := []
    tally := {}
    capsules := []
    reportedStart := startingEquity
    calls := [] }

/-! ### The recorder -/

def call (c : RecorderCall) : ReplayRun Unit := change fun s => { s with calls := s.calls ++ [c] }

/-- Record a stage of a window. -/
def recordStage (snapshot : MarketSnapshot) (payload : RunPayload) (source : String) :
    ReplayRun Unit :=
  call (.record payload snapshot.snapshotId snapshot.eventTimeUtc source)

def tallied (f : RunTally → RunTally) : ReplayRun Unit := change fun s => { s with tally := f s.tally }

/-! ### Halting -/

/-- Halt, and make the halt durable before doing anything else. -/
def trip (reasonCodes : List ReasonCode) (trippedBy : String) (occurredAtUtc : UtcDatetime)
    (correlationId : Uuid) (detail : Option String) : ReplayRun Unit := do
  let s ← read
  if s.killSwitch.isHalted then pure ()
  else if reasonCodes = [] then Raising.lift (.error ⟨.value, "a halt must record why it happened"⟩)
  else do
    change fun s => { s with
      killSwitch := s.killSwitch.tripped ⟨occurredAtUtc, reasonCodes, trippedBy, detail⟩ }
    call (.record (.systemHalted ⟨s.killSwitch.state, .halted, reasonCodes, trippedBy, detail⟩)
      correlationId occurredAtUtc "risk_engine")
    call .flush

def recordRisk (decision : RiskDecision) (snapshot : MarketSnapshot) : ReplayRun Unit := do
  tallied (·.risk decision)
  if decision.verdict = .halt then
    trip decision.reasonCodes "risk_engine" snapshot.receivedTimeUtc snapshot.snapshotId none
  else pure ()

def recordSupervisor (decision : SupervisorDecision) (snapshot : MarketSnapshot) :
    ReplayRun Unit := do
  tallied (·.supervisor decision)
  if decision.verdict = .halt then
    trip decision.reasonCodes "supervisor" snapshot.receivedTimeUtc snapshot.snapshotId none
  else pure ()

variable [Externals]

/-! ### The risk session -/

/-- The tick, as the session sees it at its end. -/
def sessionTick (tick : GeneratedTick) (b : SimulatedBroker) : Except PyError ReplayTick := do
  let positions ← b.positions
  let equity ← b.equity
  let openRisk ← assessOpenRisk positions self.spec equity
  pure {
    day := Sessions.tradingDay tick.eventTimeUtc
    receivedTimeUtc := tick.receivedTimeUtc
    equity
    openPositions := positions.length
    balanceAfter := b.balance
    positionsAfter := positions.length
    openRiskAfter := openRisk.fraction }

/-- Pick the risk budget up where the last process left it. -/
def recoverSession (first : GeneratedTick) : ReplayRun Unit := do
  let s ← read
  let equity ← Raising.lift s.broker.equity
  let positions ← Raising.lift s.broker.positions
  let recovery ← Raising.lift (Crumblr.recoverSession
    (s.sessionStore.loadLatest self.spec.canonicalSymbol none) equity positions.length
    (Sessions.tradingDay first.eventTimeUtc) self.riskConfig.maxDailyLoss.val
    self.riskConfig.maxDrawdown.val)
  change fun s => { s with
    ledger := recovery.ledger
    currentTradingDay := recovery.tradingDay
    sessionResumed := recovery.resumed }
  if recovery.mustHalt then
    trip recovery.reasonCodes "risk_session_recovery" first.receivedTimeUtc
      (snapshotIdFor self.spec.canonicalSymbol first.eventTimeUtc) recovery.detail
  else pure ()

omit [Externals] in
/-- A step of the session; nothing else moves. -/
def onSession (f : ReplayOrchestrator → ReplayOrchestrator) : ReplayRun Unit :=
  change fun s => { s with toReplayOrchestrator := f s.toReplayOrchestrator }

omit [Externals] in
def markEquity : ReplayRun Unit := do
  let s ← read
  let equity ← Raising.lift s.broker.equity
  onSession (·.mark equity)

def persistSession (tick : GeneratedTick) : ReplayRun Unit := do
  let s ← read
  if s.currentTradingDay.isNone then pure ()
  else do
    let t ← Raising.lift (self.sessionTick tick s.broker)
    onSession (·.persistSession t)

/-- Trip the kill switch when a loss gate is breached. -/
def checkLossGates (tick : GeneratedTick) : ReplayRun Unit := do
  let s ← read
  let breached :=
    (if self.riskConfig.maxDrawdown.val ≤ s.ledger.drawdownFraction then [ReasonCode.maxDrawdown]
      else [])
    ++ (if self.riskConfig.maxDailyLoss.val ≤ s.ledger.sessionLossFraction
      then [.dailyLossLimit] else [])
  if s.killSwitch.isHalted ∨ breached = [] then pure ()
  else
    trip breached "risk_engine" tick.receivedTimeUtc
      (snapshotIdFor self.spec.canonicalSymbol tick.eventTimeUtc)
      (some (s!"drawdown={LiveDecisionService.fourDecimals s.ledger.drawdownFraction} "
        ++ s!"session_loss={LiveDecisionService.fourDecimals s.ledger.sessionLossFraction}"))

/-- What a deadline is called where a halt names it. -/
def deadlineDetail (moment : UtcDatetime) : String :=
  match self.calendar.weeklyClose moment with
  | some closesAt => s!"trading week ending {isoTime closesAt}"
  | none => "this calendar's own deadline (no owner-approved weekly close exists for it)"

/-- Halt if exposure outlived its weekly deadline. -/
def checkSessionBoundary (tick : GeneratedTick) : ReplayRun Unit := do
  let s ← read
  if s.killSwitch.isHalted then pure ()
  else do
    let positions ← Raising.lift s.broker.positions
    if overnightBreach positions tick.eventTimeUtc self.riskContext.intraday self.calendar then
      trip [.overnightExposure] "risk_engine" tick.receivedTimeUtc
        (snapshotIdFor self.spec.canonicalSymbol tick.eventTimeUtc)
        (some (s!"{positions.length} position(s) still open at {isoTime tick.eventTimeUtc}, "
          ++ s!"past the flatten deadline for the {self.deadlineDetail tick.eventTimeUtc}"))
    else pure ()

/-! ### One decision window -/

/-- Everything a window is judged on. -/
structure Window where
  snapshot : MarketSnapshot
  features : FeatureEvidence
  positionsBefore : List PositionState

/-- The record of a window, sealed. -/
def sealWindow (w : Window) (intent : Option TradeIntent) (riskDecision : Option RiskDecision)
    (supervisorDecision : Option SupervisorDecision) (executionResult : Option SimulatedResult) :
    ReplayRun RunCapsule := do
  let s ← read
  let positionsAfter ← Raising.lift s.broker.positions
  let capsule : RunCapsule := {
    capsuleId := Externals.uuid5 ("crumblr:capsule:" ++ w.snapshot.snapshotId.text)
    occurredAtUtc := w.snapshot.eventTimeUtc
    correlationId := w.snapshot.snapshotId
    canonicalSymbol := w.snapshot.symbol
    brokerSymbol := self.spec.brokerSymbol
    marketSnapshotId := w.snapshot.snapshotId
    featureSetVersion := w.features.featureSetVersion
    featureValuesHash := w.features.featureValuesHash
    strategyVersion := self.strategy.version
    modelVersion := none
    tradeIntent := intent
    riskConfigVersion := self.config.configVersion
    riskDecision
    supervisorDecision
    executionResult
    positionStateBefore := w.positionsBefore
    positionStateAfter := positionsAfter
    codeCommit := replayCodeCommit
    environment := self.config.environment }
  call (.seal capsule)
  pure capsule

def signalOf (w : Window) (decision : StrategyDecision) : SignalGenerated where
  signalId := Externals.uuid5 ("crumblr:signal:" ++ w.snapshot.snapshotId.text ++ ":"
    ++ self.strategy.strategyId)
  snapshotId := w.snapshot.snapshotId
  symbol := w.snapshot.symbol
  strategyId := self.strategy.strategyId
  strategyVersion := self.strategy.version
  modelVersion := self.config.tradingAgent.modelVersion
  proposedSide := decision.side
  confidence := decision.confidence
  regime := w.features.regime
  featureSnapshotId := w.features.featureSnapshotId
  featureSetVersion := w.features.featureSetVersion
  reasonCodes := decision.reasonCodes

/-- Portfolio and open risk, on one account read. -/
def portfolio (s : ReplayState) (positions : List PositionState) : Except PyError PortfolioState := do
  let account ← s.broker.account
  let openRisk ← assessOpenRisk positions self.spec account.equity
  pure {
    account
    openPositions := positions
    ledger := s.ledger
    ordersInLastHour := s.orderTimes.length
    seenDecisionHashes := s.seenHashes
    openRiskFraction := openRisk.fraction }

/-- The order that an approved intent comes to. -/
def orderOf (intent : TradeIntent) (riskDecision : RiskDecision)
    (supervisorDecision : SupervisorDecision) (snapshot : MarketSnapshot) :
    Except PyError ApprovedOrder := do
  let approvedVolume ← assertSome riskDecision.approvedVolume
  let stopLossPrice ← assertSome intent.stopLossPrice
  ApprovedOrder.create (Externals.uuid5 ("crumblr:order:" ++ intent.decisionHash)) intent.intentId
    riskDecision.decisionId none supervisorDecision.decisionId self.spec.brokerSymbol intent.side
    intent.entryType approvedVolume none stopLossPrice intent.takeProfitPrice
    self.executionConfig.maxSlippagePoints snapshot.receivedTimeUtc intent.expiresAtUtc
    self.config.environment

/-- Submit an order, and keep what the broker has become even if it raises. -/
def orderSend (order : ApprovedOrder) : ReplayRun SimulatedResult := fun s =>
  let (result, broker) := s.broker.orderSend order
  (result, { s with broker })

/-- Build the order, pre-flight it, then submit it. -/
def execute (intent : TradeIntent) (riskDecision : RiskDecision)
    (supervisorDecision : SupervisorDecision) (snapshot : MarketSnapshot) :
    ReplayRun (Option SimulatedResult) := do
  let order ← Raising.lift (self.orderOf intent riskDecision supervisorDecision snapshot)
  let s ← read
  let check ← Raising.lift (s.broker.orderCheck order)
  recordStage snapshot (.orderCheckCompleted check) "mt5_gateway"
  if !check.accepted then do
    tallied fun t => { t with orderCheckRejected := t.orderCheckRejected + 1 }
    pure none
  else do
    let before ← Raising.lift s.broker.positions
    recordStage snapshot (.orderSubmitted {
      orderRequestId := order.orderRequestId
      intentId := order.intentId
      brokerSymbol := order.brokerSymbol
      side := order.side
      submittedAtUtc := order.createdAtUtc
      idempotencyKey := order.orderRequestId }) "mt5_gateway"
    let result ← orderSend order
    recordStage snapshot (.orderResultReceived ⟨result, result.state⟩) "mt5_gateway"
    let s ← read
    let after ← Raising.lift s.broker.positions
    recordStage snapshot (.positionChanged ⟨before, after, "order_send"⟩) "mt5_gateway"
    tallied fun t => { t with ordersFilled := t.ordersFilled + 1 }
    change fun s => { s with
      orderTimes := trimWindow (s.orderTimes ++ [snapshot.eventTimeUtc]) snapshot.eventTimeUtc
        (hours 1) }
    pure (some result)

/-- The supervisor's verdict on an intent that risk has passed, and what follows. -/
def supervise (w : Window) (intent : TradeIntent) (riskDecision : RiskDecision) :
    ReplayRun RunCapsule := do
  let s ← read
  let supervisorDecision := Pretrade.evaluate intent w.features self.policy
    ⟨s.recentIntents.length, .clear, .matched⟩ w.snapshot.receivedTimeUtc
  recordStage w.snapshot (.supervisorDecision supervisorDecision) "supervisor"
  recordSupervisor supervisorDecision w.snapshot
  if supervisorDecision.verdict ≠ .approve then
    self.sealWindow w (some intent) (some riskDecision) (some supervisorDecision) none
  else do
    let execution ← self.execute intent riskDecision supervisorDecision w.snapshot
    change fun s => { s with seenHashes := s.seenHashes ++ [intent.decisionHash] }
    self.sealWindow w (some intent) (some riskDecision) (some supervisorDecision) execution

/-- Risk's verdict on an intent, and what follows. -/
def judgeIntent (w : Window) (intent : TradeIntent) : ReplayRun RunCapsule := do
  tallied fun t => { t with intents := t.intents + 1 }
  recordStage w.snapshot (.tradeIntent intent) "trading_agent"
  change fun s => { s with
    recentIntents := trimWindow (s.recentIntents ++ [w.snapshot.eventTimeUtc])
      w.snapshot.eventTimeUtc (hours 1) }
  let s ← read
  let portfolio ← Raising.lift (self.portfolio s w.positionsBefore)
  let riskDecision ← Raising.lift (evaluate intent w.snapshot self.spec portfolio self.riskContext
    s.killSwitch w.snapshot.receivedTimeUtc)
  recordStage w.snapshot (.riskDecision riskDecision) "risk_engine"
  recordRisk riskDecision w.snapshot
  if riskDecision.verdict ≠ .pass then
    self.sealWindow w (some intent) (some riskDecision) none none
  else self.supervise w intent riskDecision

/-- What a strategy said about a window, and what follows. -/
def judge (w : Window) (decision : StrategyDecision) : ReplayRun RunCapsule := do
  call (.recordFeatures w.features)
  recordStage w.snapshot (.signalGenerated (self.signalOf w decision)) "trading_agent"
  match decision.intent with
  | none => do
      tallied fun t => { t with
        noTrade := t.noTrade + 1
        noTradeReasons := t.noTradeReasons.countAll decision.reasonCodes }
      self.sealWindow w none none none none
  | some intent => self.judgeIntent w intent

omit [Externals] in
/-- A window in which there was too little to go by. -/
def unavailable : ReplayRun (Option RunCapsule) := do
  tallied fun t => { t with featuresUnavailable := t.featuresUnavailable + 1 }
  pure none

/-- One decision window, from observation to audit. -/
def processWindow (tick : GeneratedTick) : ReplayRun (Option RunCapsule) := do
  let s ← read
  if s.history.length < self.strategy.minimumBars then unavailable
  else do
    let snapshot ← Raising.lift (tick.buildSnapshot self.spec timeframe)
    let positionsBefore ← Raising.lift s.broker.positions
    let outcome ← Raising.lift (self.strategy.evaluate snapshot s.history self.spec {
      openPositionSides := positionsBefore.map (·.side)
      requestedRiskFraction := self.riskConfig.maxRiskPerTrade
      minStopDistancePoints := self.riskConfig.minStopDistancePoints })
    match outcome.features with
    | none => unavailable
    | some features => do
        let capsule ← self.judge ⟨snapshot, features, positionsBefore⟩ outcome.decision
        pure (some capsule)

/-! ### The run -/

omit [Externals] in
/-- The faults that were injected into a tick, by name. -/
def faultNames (tick : GeneratedTick) : List String :=
  match tick.injectedFault with
  | some fault => if fault = "" then [] else [fault]
  | none => []

/-- What the market showed, before anything is decided about it. -/
def observeTick (tick : GeneratedTick) : ReplayRun Unit := do
  tallied fun t => { t with injectedFaults := t.injectedFaults.countAll (faultNames tick) }
  let stored ← Raising.lift (tick.asMarketTick self.spec)
  call (.observe stored (some (tick.asMarketBar self.spec timeframe)))
  change fun s => { s with history := pushBar s.history tick.bar }
  tallied fun t => { t with windows := t.windows + 1 }

/-- The decision of a tick's window, and the checks after it. -/
def settleTick (tick : GeneratedTick) : ReplayRun Unit := do
  let capsule ← self.processWindow tick
  change fun s => { s with capsules := s.capsules ++ capsule.toList }
  self.checkLossGates tick
  self.checkSessionBoundary tick
  self.persistSession tick

/-- The body of the loop, but for the recovery on the first tick. -/
def takeTick (tick : GeneratedTick) : ReplayRun Unit := do
  onSession (·.rollSession (Sessions.tradingDay tick.eventTimeUtc))
  markEquity
  self.observeTick tick
  self.settleTick tick

omit [Externals] in
def advance (tick : GeneratedTick) : ReplayRun Unit :=
  change fun s => { s with broker := (s.broker.advance tick).1 }

/-- The first tick recovers the session. -/
def firstTick (tick : GeneratedTick) : ReplayRun Unit := do
  advance tick
  self.recoverSession tick
  change fun s => { s with reportedStart := s.ledger.startingEquity }
  self.takeTick tick

def nextTick (tick : GeneratedTick) : ReplayRun Unit := do
  advance tick
  self.takeTick tick

def takeTicks : List GeneratedTick → ReplayRun Unit
  | [] => pure ()
  | first :: ticks => do
      self.firstTick first
      Raising.each self.nextTick ticks

omit [Externals] in
/-- What a run reports. -/
def report (s : ReplayState) : Except PyError RunResult := do
  let finalEquity ← s.broker.equity
  pure {
    tally := s.tally
    capsules := s.capsules
    closedTrades := s.broker.closed
    startingEquity := s.reportedStart
    finalEquity
    peakEquity := s.ledger.peakEquity
    maxDrawdownFraction := s.ledger.maxDrawdownFraction
    halted := s.killSwitch.isHalted
    haltReasons := s.killSwitch.activeReasons
    sessionStartEquity := s.ledger.sessionStartEquity
    sessionResumed := s.sessionResumed
    uncalibratedChecks := Pretrade.uncalibratedChecks self.policy
    haltDetail :=
      if s.killSwitch.isHalted then s.killSwitch.history.getLast?.bind (·.detail) else none }

/-- One replay from end to end. -/
def run (ticks : List GeneratedTick) : ReplayRun RunResult := do
  self.takeTicks ticks
  markEquity
  call .flush
  let s ← read
  Raising.lift (self.report s)

end ReplaySetup

end Crumblr
