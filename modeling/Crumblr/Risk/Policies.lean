import Crumblr.Risk.Gates
import Crumblr.Risk.Session

/-!
# Risk: sizing, open risk, and the two verdicts

`evaluate` sizes an intent and passes or refuses it. At execution time the volume
is no longer up for discussion: `revalidateFixedVolumeAtExecutionTime` runs the
whole of `evaluate` again on fresh data, measures the stop from the price that
would now be paid, and passes the volume approved before or nothing.
-/

namespace Crumblr

/-! ## Sizing -/

structure SizingResult where
  volume : Option Decimal
  riskAmount : Decimal
  lossPerLot : Decimal
  rejection : Option String

def lossPerLot (stopDistancePrice : Decimal) (spec : InstrumentSpec) : Except PyError Decimal :=
  if stopDistancePrice ≤ 0 then
    .error ⟨.value, s!"stop distance must be positive, got {stopDistancePrice.text}"⟩
  else .ok (stopDistancePrice / spec.tickSize.val * spec.tickValue.val)

def normaliseVolume (volume : Decimal) (spec : InstrumentSpec) : Decimal :=
  let steps := (volume / spec.volumeStep.val).toIntegralValue .down
  Decimal.min (steps * spec.volumeStep.val) spec.volumeMax.val

def sizePosition (equity riskFraction stopDistancePrice : Decimal) (spec : InstrumentSpec) :
    Except PyError SizingResult :=
  if equity ≤ 0 then .ok ⟨none, 0, 0, some "non_positive_equity"⟩
  else do
    let riskAmount := equity * riskFraction
    let perLot ← lossPerLot stopDistancePrice spec
    if perLot ≤ 0 then return ⟨none, riskAmount, perLot, some "degenerate_loss_per_lot"⟩
    let volume := normaliseVolume (riskAmount / perLot) spec
    if volume < spec.volumeMin.val then
      return ⟨none, riskAmount, perLot, some "risk_budget_below_broker_minimum"⟩
    if volume ≤ 0 then return ⟨none, riskAmount, perLot, some "volume_rounds_to_zero"⟩
    return ⟨some volume, riskAmount, perLot, none⟩

def realisedRisk (volume stopDistancePrice : Decimal) (spec : InstrumentSpec) :
    Except PyError Decimal := do
  let perLot ← lossPerLot stopDistancePrice spec
  pure (volume * perLot)

/-! ## Open risk -/

/-- What the open positions put at risk; no fraction when that cannot be told. -/
structure OpenRiskAssessment where
  fraction : Option Decimal
  riskAmount : Option Decimal

def adverseDistance (position : PositionState) (stop : Price) : Decimal :=
  if position.side = .buy then position.openPrice.val - stop.val
  else stop.val - position.openPrice.val

/-- The risk of the positions so far and whether every one could be valued. -/
def openRiskTotal (spec : InstrumentSpec) :
    List PositionState → Decimal → Bool → Except PyError (Decimal × Bool)
  | [], total, trusted => .ok (total, trusted)
  | position :: rest, total, trusted =>
      if position.brokerSymbol ≠ spec.brokerSymbol then openRiskTotal spec rest total false
      else
        match position.stopLossPrice with
        | none => openRiskTotal spec rest total false
        | some stop =>
            let adverse := adverseDistance position stop
            if 0 < adverse then do
              let risk ← realisedRisk position.volume.val adverse spec
              openRiskTotal spec rest (total + risk) trusted
            else openRiskTotal spec rest total trusted

/-- The open risk under one known specification, keyed by its broker symbol. -/
def assessOpenRisk (positions : List PositionState) (spec : InstrumentSpec) (equity : Decimal) :
    Except PyError OpenRiskAssessment :=
  if positions = [] then .ok ⟨some 0, some 0⟩
  else if equity ≤ 0 then .ok ⟨none, none⟩
  else do
    let (total, trusted) ← openRiskTotal spec positions 0 true
    if trusted then pure ⟨some (total / equity), some total⟩ else pure ⟨none, none⟩

/-! ## The verdicts -/

structure PortfolioState where
  account : AccountState
  openPositions : List PositionState
  ledger : EquityLedger
  ordersInLastHour : Nat
  seenDecisionHashes : List String
  openRiskFraction : Option Decimal

structure RiskContext where
  risk : RiskConfig
  execution : ExecutionConfig
  allowedSymbols : List String
  requireDemoAccount : Bool
  expectedServer : String
  expectedLogin : Option Int
  riskConfigVersion : String
  expectedCurrency : Option String
  expectedLeverage : Option Nat
  intraday : IntradayPolicy
  calendar : TradingCalendar

/-- The refusals that halt instead of merely blocking. -/
def haltReasons : List ReasonCode :=
  [.liveAccountInPaperMode, .wrongAccount, .reconciliationMismatch, .maxDrawdown,
   .dailyLossLimit, .overnightExposure, .flattenStateUnknown]

def riskDecisionId [Externals] (intent : TradeIntent) (discriminator : String) : Uuid :=
  Externals.uuid5 ("crumblr:risk:" ++ intent.decisionHash ++ ":" ++ discriminator)

def refusalVerdict (reasons : List ReasonCode) : RiskVerdict :=
  if reasons.any (fun r => decide (r ∈ haltReasons)) then .halt else .block

/-- A refusal; the reasons once each, in the order they were met. -/
def refuseRisk [Externals] (intent : TradeIntent) (reasons : List ReasonCode)
    (context : RiskContext) (now : UtcDatetime) (stage : String) : Except PyError RiskDecision :=
  let unique := reasons.eraseDups
  let verdict := refusalVerdict unique
  RiskDecision.createRefusal (riskDecisionId intent (stage ++ verdict.value)) intent.intentId
    verdict unique now context.riskConfigVersion

def overnightBreach (positions : List PositionState) (moment : UtcDatetime)
    (policy : IntradayPolicy) (calendar : TradingCalendar) : Bool :=
  policy.enabled && !positions.isEmpty
    && (requiresFlat moment policy calendar
      || positions.any (fun p => hasCrossedWeeklyClose p.openedAtUtc moment calendar))

/-- What a stop distance is refused for. -/
def stopLegs (distance : Decimal) (points : Int) (risk : RiskConfig) (spec : InstrumentSpec) :
    List (Bool × ReasonCode) :=
  let tooClose := decide (distance ≤ 0 ∨ points < risk.minStopDistancePoints)
  [(tooClose, .invalidStop),
   (!tooClose && decide (points < spec.stopsLevel), .stopDistanceViolation)]

/-- The legs of `evaluate` on account, market and intent. -/
def entryLegs [Externals] (intent : TradeIntent) (snapshot : MarketSnapshot)
    (portfolio : PortfolioState) (context : RiskContext) (killSwitch : KillSwitch)
    (now : UtcDatetime) : List (Bool × ReasonCode) :=
  let account := portfolio.account
  let dataAge := ageMs snapshot.eventTimeUtc now
  [(killSwitch.isHalted, .systemHalted),
   (!account.connected, .accountNotConnected),
   (!account.tradeAllowed, .marketDisabled),
   (!account.expertAllowed, .expertTradingDisabled),
   (context.requireDemoAccount && !account.isDemo, .liveAccountInPaperMode),
   (decide (account.server ≠ context.expectedServer), .wrongAccount),
   (context.expectedLogin.any (fun l => decide (account.login ≠ l)), .wrongAccount),
   (context.expectedCurrency.any (fun c => decide (account.currency ≠ c)), .wrongAccount),
   (context.expectedLeverage.any (fun l => decide (account.leverage ≠ l)), .wrongAccount),
   (decide (intent.symbol ∉ context.allowedSymbols), .symbolNotAllowed),
   (decide (snapshot.dataQuality ∉ tradeableDataQuality), .staleMarketData),
   (decide ((context.execution.maxMarketDataAgeMs : Int) < dataAge ∨ dataAge < 0),
     .staleMarketData),
   (decide (snapshot.ask.val < snapshot.bid.val ∨ snapshot.bid.val ≤ 0), .invalidQuote),
   (decide ((context.execution.maxSpreadPoints : Int) < snapshot.spreadPoints), .spreadTooWide),
   (!permitsNewEntry snapshot.eventTimeUtc context.intraday context.calendar, .sessionBlackout),
   (intent.isExpired now, .intentExpired),
   (decide (intent.decisionHash ∈ portfolio.seenDecisionHashes), .duplicateIntent),
   (decide (intent.side = .flat), .invalidStop)]

/-- The legs of `evaluate` on exposure, budget and losses. -/
def exposureLegs (intent : TradeIntent) (snapshot : MarketSnapshot) (portfolio : PortfolioState)
    (context : RiskContext) : List (Bool × ReasonCode) :=
  [(overnightBreach portfolio.openPositions snapshot.eventTimeUtc context.intraday
      context.calendar, .overnightExposure),
   (decide (context.risk.maxOpenPositions ≤ portfolio.openPositions.length),
     .maxOpenPositions),
   (decide (context.risk.maxOrdersPerHour ≤ portfolio.ordersInLastHour),
     .orderFrequencyLimit)]
  ++ (match intent.requestedRiskFraction with
    | none => [(true, .invalidStop)]
    | some requested =>
        [(decide (context.risk.maxRiskPerTrade.val < requested.val), .riskPerTradeLimit),
         (match portfolio.openRiskFraction with
          | none => (true, .openRiskUnknown)
          | some openRisk =>
              (decide (context.risk.maxOpenRisk.val < openRisk + requested.val),
                .openRiskLimit))])
  ++ [(decide (context.risk.maxDailyLoss.val ≤ portfolio.ledger.sessionLossFraction),
        .dailyLossLimit),
      (decide (context.risk.maxDrawdown.val ≤ portfolio.ledger.drawdownFraction),
        .maxDrawdown)]

/-- The distance from `price` to the intent's stop. -/
def stopDistanceFrom (price : Decimal) (stop : Price) : Decimal := (price - stop.val).abs

def evaluate [Externals] (intent : TradeIntent) (snapshot : MarketSnapshot)
    (spec : InstrumentSpec) (portfolio : PortfolioState) (context : RiskContext)
    (killSwitch : KillSwitch) (now : UtcDatetime) : Except PyError RiskDecision := do
  let stop ← assertSome intent.stopLossPrice
  let stopDistance := stopDistanceFrom intent.referencePrice.val stop
  let stopDistancePoints ← priceToPoints stopDistance spec.point.val
  let reasons := failing (entryLegs intent snapshot portfolio context killSwitch now
    ++ stopLegs stopDistance stopDistancePoints context.risk spec
    ++ exposureLegs intent snapshot portfolio context)
  if reasons ≠ [] then refuseRisk intent reasons context now ""
  else
    let requested ← assertSome intent.requestedRiskFraction
    let sizing ← sizePosition portfolio.account.equity requested.val stopDistance spec
    match sizing.volume with
    | none => refuseRisk intent [.volumeOutOfRange] context now ""
    | some volume =>
        let carried ← realisedRisk volume stopDistance spec
        if sizing.riskAmount < carried then refuseRisk intent [.openRiskLimit] context now ""
        else
          RiskDecision.createPass (riskDecisionId intent "pass") intent.intentId now
            context.riskConfigVersion volume portfolio.account.equity stopDistancePoints carried

/-- The price an entry would be filled at now. -/
def executablePrice (intent : TradeIntent) (snapshot : MarketSnapshot) : Decimal :=
  if intent.entryType = .market then
    if intent.side = .buy then snapshot.ask.val else snapshot.bid.val
  else intent.referencePrice.val

def revalidateFixedVolumeAtExecutionTime [Externals] (intent : TradeIntent)
    (priorDecision : RiskDecision) (freshSnapshot : MarketSnapshot) (spec : InstrumentSpec)
    (freshPortfolio : PortfolioState) (context : RiskContext) (killSwitch : KillSwitch)
    (now : UtcDatetime) : Except PyError RiskDecision := do
  let approvedVolume ← assertSome priorDecision.approvedVolume
  let stop ← assertSome intent.stopLossPrice
  let fresh ← evaluate intent freshSnapshot spec freshPortfolio context killSwitch now
  let freshStopDistance := stopDistanceFrom (executablePrice intent freshSnapshot) stop
  let freshStopDistancePoints ← priceToPoints freshStopDistance spec.point.val
  let executionTimeReasons :=
    failing (stopLegs freshStopDistance freshStopDistancePoints context.risk spec)
  if fresh.verdict ≠ .pass ∨ executionTimeReasons ≠ [] then
    refuseRisk intent (fresh.reasonCodes ++ executionTimeReasons ++ [.executionTimeRiskBlock])
      context now "execution-"
  else
    let requested ← assertSome intent.requestedRiskFraction
    let currentBudget := freshPortfolio.account.equity * requested.val
    let carried ← realisedRisk approvedVolume.val freshStopDistance spec
    if currentBudget < carried then
      refuseRisk intent [.riskPerTradeLimit, .executionTimeRiskBlock] context now "execution-"
    else
      RiskDecision.createPass (riskDecisionId intent "execution-pass") intent.intentId now
        context.riskConfigVersion approvedVolume.val freshPortfolio.account.equity
        freshStopDistancePoints carried

end Crumblr
