import Crumblr.Lib.DecimalValue
import Crumblr.Risk.Policies

/-!
# Risk, in exact arithmetic

The sizing, the open risk and the evaluation once more, computed over the rationals: every
operation is the exact one, where the platform's own rounds to 28 significant digits. What is
no arithmetic is shared. A volume is still a decimal, being a whole number of steps or a bound.
-/

namespace Crumblr.Exact

/-- The integral part of a rational, towards zero. -/
def truncate (t : ℚ) : Int := if 0 ≤ t then ⌊t⌋ else ⌈t⌉

/-- The nearest integer, half away from zero. -/
def roundHalfUp (t : ℚ) : Int := if 0 ≤ t then ⌊t + 1 / 2⌋ else ⌈t - 1 / 2⌉

/-! ## Sizing -/

structure SizingResult where
  volume : Option Decimal
  riskAmount : ℚ
  lossPerLot : ℚ
  rejection : Option String

def lossPerLot (stopDistancePrice : ℚ) (spec : InstrumentSpec) : Except PyError ℚ :=
  if stopDistancePrice ≤ 0 then .error ⟨.value, "stop distance must be positive"⟩
  else .ok (stopDistancePrice / spec.tickSize.val.value * spec.tickValue.val.value)

def normaliseVolume (volume : ℚ) (spec : InstrumentSpec) : Decimal :=
  let steps := truncate (volume / spec.volumeStep.val.value)
  Decimal.min ⟨steps * spec.volumeStep.val.coeff, spec.volumeStep.val.exp⟩ spec.volumeMax.val

def sizePosition (equity riskFraction stopDistancePrice : ℚ) (spec : InstrumentSpec) :
    Except PyError SizingResult :=
  if equity ≤ 0 then .ok ⟨none, 0, 0, some "non_positive_equity"⟩
  else do
    let riskAmount := equity * riskFraction
    let perLot ← lossPerLot stopDistancePrice spec
    if perLot ≤ 0 then return ⟨none, riskAmount, perLot, some "degenerate_loss_per_lot"⟩
    let volume := normaliseVolume (riskAmount / perLot) spec
    if volume < spec.volumeMin.val then
      return ⟨none, riskAmount, perLot, some "risk_budget_below_broker_minimum"⟩
    if volume ≤ 0 then return ⟨none, riskAmount, perLot, some "volume_rounds_to_zero"⟩
    return ⟨some volume, riskAmount, perLot, none⟩

def realisedRisk (volume stopDistancePrice : ℚ) (spec : InstrumentSpec) : Except PyError ℚ := do
  let perLot ← lossPerLot stopDistancePrice spec
  pure (volume * perLot)

/-! ## Open risk -/

structure OpenRiskAssessment where
  fraction : Option ℚ
  riskAmount : Option ℚ

def adverseDistance (position : PositionState) (stop : Price) : ℚ :=
  if position.side = .buy then position.openPrice.val.value - stop.val.value
  else stop.val.value - position.openPrice.val.value

/-- The risk of the positions so far and whether every one could be valued. -/
def openRiskTotal (spec : InstrumentSpec) :
    List PositionState → ℚ → Bool → Except PyError (ℚ × Bool)
  | [], total, trusted => .ok (total, trusted)
  | position :: rest, total, trusted =>
      if position.brokerSymbol ≠ spec.brokerSymbol then openRiskTotal spec rest total false
      else
        match position.stopLossPrice with
        | none => openRiskTotal spec rest total false
        | some stop =>
            let adverse := adverseDistance position stop
            if 0 < adverse then do
              let risk ← realisedRisk position.volume.val.value adverse spec
              openRiskTotal spec rest (total + risk) trusted
            else openRiskTotal spec rest total trusted

def assessOpenRisk (positions : List PositionState) (spec : InstrumentSpec) (equity : ℚ) :
    Except PyError OpenRiskAssessment :=
  if positions = [] then .ok ⟨some 0, some 0⟩
  else if equity ≤ 0 then .ok ⟨none, none⟩
  else do
    let (total, trusted) ← openRiskTotal spec positions 0 true
    if trusted then pure ⟨some (total / equity), some total⟩ else pure ⟨none, none⟩

/-! ## The evaluation -/

/-- A price distance in whole broker points, half away from zero. -/
def priceToPoints (distance point : ℚ) : Except PyError Int :=
  if point ≤ 0 then .error ⟨.value, "point size must be positive"⟩
  else .ok (roundHalfUp (distance / point))

def stopLegs (distance : ℚ) (points : Int) (risk : RiskConfig) (spec : InstrumentSpec) :
    List (Bool × ReasonCode) :=
  let tooClose := decide (distance ≤ 0 ∨ points < risk.minStopDistancePoints)
  [(tooClose, .invalidStop),
   (!tooClose && decide (points < spec.stopsLevel), .stopDistanceViolation)]

/-- The legs on exposure, budget and losses, for an open risk computed exactly. -/
def exposureLegs (intent : TradeIntent) (snapshot : MarketSnapshot) (portfolio : PortfolioState)
    (openRiskFraction : Option ℚ) (context : RiskContext) : List (Bool × ReasonCode) :=
  [(overnightBreach portfolio.openPositions snapshot.eventTimeUtc context.intraday
      context.calendar, .overnightExposure),
   (decide (context.risk.maxOpenPositions ≤ portfolio.openPositions.length),
     .maxOpenPositions),
   (decide (context.risk.maxOrdersPerHour ≤ portfolio.ordersInLastHour),
     .orderFrequencyLimit)]
  ++ (match intent.requestedRiskFraction with
    | none => [(true, .invalidStop)]
    | some requested =>
        [(decide (context.risk.maxRiskPerTrade.val.value < requested.val.value),
           .riskPerTradeLimit),
         (match openRiskFraction with
          | none => (true, .openRiskUnknown)
          | some openRisk =>
              (decide (context.risk.maxOpenRisk.val.value < openRisk + requested.val.value),
                .openRiskLimit))])
  ++ [(decide (context.risk.maxDailyLoss.val ≤ portfolio.ledger.sessionLossFraction),
        .dailyLossLimit),
      (decide (context.risk.maxDrawdown.val ≤ portfolio.ledger.drawdownFraction),
        .maxDrawdown)]

/-- What a verdict says of volume and risk; only a PASS names them. -/
structure RiskDecision where
  verdict : RiskVerdict
  reasonCodes : List ReasonCode
  approvedVolume : Option Volume
  stopDistancePoints : Option Int
  riskAmount : Option ℚ

def refuse (reasons : List ReasonCode) : RiskDecision :=
  ⟨refusalVerdict reasons.eraseDups, reasons.eraseDups, none, none, none⟩

/-- A PASS, as the contract admits it. -/
def pass (volume : Decimal) (stopDistancePoints : Int) (riskAmount : ℚ) :
    Except PyError RiskDecision :=
  if h : 0 < volume then
    if 0 < stopDistancePoints then
      .ok ⟨.pass, [], some ⟨volume, h⟩, some stopDistancePoints, some riskAmount⟩
    else .error ⟨.validation, "Input should be greater than 0"⟩
  else .error ⟨.validation, "Input should be greater than 0"⟩

def stopDistanceFrom (price : ℚ) (stop : Price) : ℚ := |price - stop.val.value|

/-- `evaluate`, with the open risk of the portfolio beside it. -/
def evaluate [Externals] (intent : TradeIntent) (snapshot : MarketSnapshot)
    (spec : InstrumentSpec) (portfolio : PortfolioState) (openRiskFraction : Option ℚ)
    (context : RiskContext) (killSwitch : KillSwitch) (now : UtcDatetime) :
    Except PyError RiskDecision := do
  let stop ← assertSome intent.stopLossPrice
  let stopDistance := stopDistanceFrom intent.referencePrice.val.value stop
  let stopDistancePoints ← priceToPoints stopDistance spec.point.val.value
  let reasons := failing (entryLegs intent snapshot portfolio context killSwitch now
    ++ stopLegs stopDistance stopDistancePoints context.risk spec
    ++ exposureLegs intent snapshot portfolio openRiskFraction context)
  if reasons ≠ [] then return refuse reasons
  else
    let requested ← assertSome intent.requestedRiskFraction
    let sizing ← sizePosition portfolio.account.equity.value requested.val.value stopDistance spec
    match sizing.volume with
    | none => return refuse [.volumeOutOfRange]
    | some volume =>
        let carried ← realisedRisk volume.value stopDistance spec
        if sizing.riskAmount < carried then return refuse [.openRiskLimit]
        else pass volume stopDistancePoints carried

end Crumblr.Exact
