import Crumblr.Domain.TimeUtils
import Crumblr.TradingAgent.Imbalance
import Crumblr.TradingAgent.Liquidity
import Crumblr.TradingAgent.Sessions
import Mathlib.Data.List.DropRight

/-!
# The ICT entry model

Price sweeps a pool of liquidity, displaces back through structure leaving a gap, and retraces into
that gap. Each clause is a condition of its own, which may be required or not; the evaluation stops
at the first required one that fails.
-/

namespace Crumblr

namespace Ict

def strategyId : String := "ict_v1"

def strategyVersion : String := "1.0.0"

def featureSetVersion : String := "ict-features-v1"

/-- Enough history for swings, a dealing range and an average range. -/
def minimumBars : Nat := 120

/-! ## Parameters -/

/-- Which clauses of the model are mandatory. -/
structure IctConditions where
  requireMarketOpen : Bool := true
  requireKillzone : Bool := true
  requireLiquiditySweep : Bool := true
  requireStructureShift : Bool := true
  requireFairValueGap : Bool := true
  requirePriceInZone : Bool := true
  requireOrderBlock : Bool := false
  requireDiscountPremium : Bool := true
  requireOptimalTradeEntry : Bool := true
  requireLiquidityTarget : Bool := false

structure IctConfig where
  conditions : IctConditions := {}
  swingStrength : Int := 2
  sweepLookbackBars : Int := 24
  structureLookbackBars : Int := 24
  minDisplacementRatio : Decimal := ⟨15, -1⟩
  fvgMaxAgeBars : Int := 30
  oteLow : Decimal := ⟨62, -2⟩
  oteHigh : Decimal := ⟨79, -2⟩
  equilibriumTolerance : Decimal := ⟨2, -2⟩
  stopBufferAtr : Decimal := ⟨25, -2⟩
  fallbackRewardMultiple : Decimal := ⟨20, -1⟩
  minRewardMultiple : Decimal := ⟨15, -1⟩
  intentLifetimeSeconds : Int := 300
  tradeableKillzones : List Killzone := tradingKillzones

/-! ## Evidence -/

/-- The structural evidence behind one decision. -/
structure IctFeatureSnapshot where
  featureSnapshotId : Uuid
  featureSetVersion : String
  symbol : String
  computedAtUtc : UtcDatetime
  barsUsed : Nat
  killzone : Killzone
  marketOpen : Bool
  structureState : StructureState
  rangePosition : RangePosition
  retracement : Decimal
  atr : Decimal
  sweptLevel : Option Decimal := none
  sweepDirection : Option Side := none
  shiftedUp : Bool
  shiftedDown : Bool
  fvgLower : Option Decimal := none
  fvgUpper : Option Decimal := none
  displacementRatio : Option Decimal := none
  orderBlockLow : Option Decimal := none
  orderBlockHigh : Option Decimal := none
  liquidityTarget : Option Decimal := none
  conditionsMet : List String
  conditionsFailed : List String

namespace IctFeatureSnapshot

variable (features : IctFeatureSnapshot)

def featureValuesHash [Externals] : String :=
  digestOf (.obj [
    ("feature_set_version", .str features.featureSetVersion),
    ("killzone", .str features.killzone.value),
    ("structure_state", .str features.structureState.value),
    ("range_position", .str features.rangePosition.value),
    ("retracement", .decimal features.retracement.normalize),
    ("atr", .decimal features.atr.normalize),
    ("swept_level", .opt (fun d => .decimal d.normalize) features.sweptLevel),
    ("sweep_direction", .opt (fun s => .str s.value) features.sweepDirection),
    ("shifted_up", .bool features.shiftedUp),
    ("shifted_down", .bool features.shiftedDown),
    ("fvg_lower", .opt (fun d => .decimal d.normalize) features.fvgLower),
    ("fvg_upper", .opt (fun d => .decimal d.normalize) features.fvgUpper),
    ("displacement_ratio", .opt (fun d => .decimal d.normalize) features.displacementRatio),
    ("conditions_met", .list (features.conditionsMet.map .str)),
    ("conditions_failed", .list (features.conditionsFailed.map .str))])

/-- A confirmed shift is a directional read, as a state that is clear. -/
def regime : Regime :=
  if features.shiftedUp || features.shiftedDown then .trend
  else if features.structureState = .bullish ∨ features.structureState = .bearish then .trend
  else .unknown

/-- The evidence as the decision path reads it. -/
def evidence [Externals] : FeatureEvidence where
  featureSnapshotId := features.featureSnapshotId
  featureSetVersion := features.featureSetVersion
  featureValuesHash := features.featureValuesHash
  regime := features.regime
  symbol := features.symbol
  modelDump := .obj [
    ("feature_snapshot_id", .uuid features.featureSnapshotId),
    ("feature_set_version", .str features.featureSetVersion),
    ("symbol", .str features.symbol),
    ("computed_at_utc", .time features.computedAtUtc),
    ("bars_used", .int features.barsUsed),
    ("killzone", .str features.killzone.value),
    ("market_open", .bool features.marketOpen),
    ("structure_state", .str features.structureState.value),
    ("range_position", .str features.rangePosition.value),
    ("retracement", .decimal features.retracement),
    ("atr", .decimal features.atr),
    ("swept_level", .opt .decimal features.sweptLevel),
    ("sweep_direction", .opt (fun s => .str s.value) features.sweepDirection),
    ("shifted_up", .bool features.shiftedUp),
    ("shifted_down", .bool features.shiftedDown),
    ("fvg_lower", .opt .decimal features.fvgLower),
    ("fvg_upper", .opt .decimal features.fvgUpper),
    ("displacement_ratio", .opt .decimal features.displacementRatio),
    ("order_block_low", .opt .decimal features.orderBlockLow),
    ("order_block_high", .opt .decimal features.orderBlockHigh),
    ("liquidity_target", .opt .decimal features.liquidityTarget),
    ("conditions_met", .list (features.conditionsMet.map .str)),
    ("conditions_failed", .list (features.conditionsFailed.map .str))]

end IctFeatureSnapshot

/-! ## Conditions in order -/

/-- Why there is no trade. -/
inductive Refusal where
  | marketClosed
  | outsideKillzone (killzone : Killzone)
  | atrUnavailable
  | noLiquiditySweep
  | noDirection
  | alreadyPositioned
  | noStructureShift
  | noFairValueGap
  | priceNotInZone
  | noOrderBlock
  | noDealingRange
  | wrongRangeHalf (position : RangePosition)
  | outsideOte
  | degenerateStop
  | noLiquidityTarget
  | degeneratePriceLevels
  deriving DecidableEq, Repr

/-- The reason code of a refusal. -/
def Refusal.text : Refusal → String
  | .marketClosed => "market_closed"
  | .outsideKillzone killzone => s!"outside_killzone:{killzone.value.toLower}"
  | .atrUnavailable => "atr_unavailable"
  | .noLiquiditySweep => "no_liquidity_sweep"
  | .noDirection => "no_direction"
  | .alreadyPositioned => "already_positioned"
  | .noStructureShift => "no_structure_shift"
  | .noFairValueGap => "no_fair_value_gap"
  | .priceNotInZone => "price_not_in_zone"
  | .noOrderBlock => "no_order_block"
  | .noDealingRange => "no_dealing_range"
  | .wrongRangeHalf position => s!"wrong_range_half:{position.value.toLower}"
  | .outsideOte => "outside_ote"
  | .degenerateStop => "degenerate_stop"
  | .noLiquidityTarget => "no_liquidity_target"
  | .degeneratePriceLevels => "degenerate_price_levels"

/-- What was met and what failed, as the conditions are checked in order. -/
structure Evaluation where
  met : List String := []
  failed : List String := []

/-- How an evaluation ends before a trade. -/
inductive Ending where
  | noTrade (refusal : Refusal) (evaluation : Evaluation)
  | raised (error : PyError)

namespace Evaluation

variable (evaluation : Evaluation)

def check (name : String) (passed : Bool) : Evaluation :=
  if passed then { evaluation with met := evaluation.met ++ [name] }
  else { evaluation with failed := evaluation.failed ++ [name] }

/-- Record a condition; there is no trade where a required one fails. -/
def require (name : String) (passed required : Bool) (refusal : Refusal) :
    Except Ending Evaluation :=
  let evaluation := evaluation.check name passed
  if passed || !required then .ok evaluation else .error (.noTrade refusal evaluation)

/-- There is no trade where this holds, whatever is required. -/
def refuse (degenerate : Bool) (refusal : Refusal) : Except Ending Unit :=
  if degenerate then .error (.noTrade refusal evaluation) else .ok ()

/-- There is no trade without this, whatever is required. -/
def need {α : Type} (value : Option α) (refusal : Refusal) : Except Ending α :=
  match value with
  | some a => .ok a
  | none => .error (.noTrade refusal evaluation)

end Evaluation

/-- What raises, raises out of the evaluation. -/
def attempt {α : Type} : Except PyError α → Except Ending α
  | .ok a => .ok a
  | .error error => .error (.raised error)

/-! ## Prices -/

/-- Snap a price to a symbol's quoting precision. -/
def quantizePrice (price : Decimal) (digits : Nat) (rounding : Rounding) : Except PyError Decimal :=
  match price.quantize rounding (-digits) with
  | some quantized => .ok quantized
  | none => .error ⟨.invalidOperation, "quantize result has too many digits for current context"⟩

/-- `entry + distance` for a long, `entry - distance` for a short: toward profit. -/
def ahead (direction : Side) (price distance : Decimal) : Decimal :=
  if direction = .buy then price + distance else price - distance

/-- Away from profit. -/
def behind (direction : Side) (price distance : Decimal) : Decimal :=
  if direction = .buy then price - distance else price + distance

/-- A stop is rounded away from the entry. -/
def quantizeBehind (direction : Side) (price : Decimal) (digits : Nat) : Except PyError Decimal :=
  quantizePrice price digits (if direction = .buy then .down else .up)

/-- So is a target. -/
def quantizeAhead (direction : Side) (price : Decimal) (digits : Nat) : Except PyError Decimal :=
  quantizePrice price digits (if direction = .buy then .up else .down)

/-- The leg from the swept extreme to the farthest point reached since, if it spans anything. -/
def impulseLeg (bars : List Bar) (sweep : LiquiditySweep) (direction : Side) : Option DealingRange :=
  match bars.drop sweep.barIndex with
  | [] => none
  | first :: rest =>
      let lastTime := ((first :: rest).getLast (List.cons_ne_nil _ _)).openTimeUtc
      let range : DealingRange :=
        if direction = .buy then
          { low := sweep.extreme, high := (rest.map (·.high.val)).foldl .max first.high.val,
            lowTimeUtc := sweep.timeUtc, highTimeUtc := lastTime }
        else
          { high := sweep.extreme, low := (rest.map (·.low.val)).foldl .min first.low.val,
            lowTimeUtc := lastTime, highTimeUtc := sweep.timeUtc }
      if range.high ≤ range.low then none else some range

/-! ## Intents -/

/-- Confidence in thousandths: an eighth for each condition met, a tenth for a strong gap. -/
def confidenceThousandths (conditionsMet : Nat) (gap : Option FairValueGap) : Nat :=
  let base := min (125 * conditionsMet) 1000
  if gap.any fun gap => decide ((⟨25, -1⟩ : Decimal) < gap.displacementRatio) then
    min (base + 100) 1000
  else base

/-- A float of so many thousandths, up to one. -/
def thousandthsFloat (n : Nat) : PyFloat :=
  if n = 1000 then ⟨"1.0"⟩
  else
    let digits := (pad 3 n).toList
    let shown := (digits.rdropWhile (· = '0'))
    ⟨"0." ++ String.ofList (if shown = [] then ['0'] else shown)⟩

def confidence (conditionsMet : Nat) (gap : Option FairValueGap) : PyFloat :=
  thousandthsFloat (confidenceThousandths conditionsMet gap)

/-- What is wrong with where the stop and the target are, if anything. -/
def stopDirectionError (side : Side) (referencePrice stopLossPrice takeProfitPrice : Decimal) :
    Option String :=
  match side with
  | .buy =>
      if referencePrice ≤ stopLossPrice then some "BUY stop_loss_price must be below reference_price"
      else if takeProfitPrice ≤ referencePrice then
        some "BUY take_profit_price must be above reference_price"
      else none
  | .sell =>
      if stopLossPrice ≤ referencePrice then some "SELL stop_loss_price must be above reference_price"
      else if referencePrice ≤ takeProfitPrice then
        some "SELL take_profit_price must be below reference_price"
      else none
  | .flat => some "FLAT intent must not carry stop or target prices"

theorem stopDirection_buy {side : Side} {referencePrice stopLossPrice takeProfitPrice : Decimal}
    (h : stopDirectionError side referencePrice stopLossPrice takeProfitPrice = none)
    (hside : side = .buy) : stopLossPrice < referencePrice ∧ referencePrice < takeProfitPrice := by
  subst hside
  unfold stopDirectionError at h
  dsimp only at h
  split at h
  · cases h
  rename_i hstop
  split at h
  · cases h
  rename_i htarget
  exact ⟨Decimal.not_le.mp hstop, Decimal.not_le.mp htarget⟩

theorem stopDirection_sell {side : Side} {referencePrice stopLossPrice takeProfitPrice : Decimal}
    (h : stopDirectionError side referencePrice stopLossPrice takeProfitPrice = none)
    (hside : side = .sell) : referencePrice < stopLossPrice ∧ takeProfitPrice < referencePrice := by
  subst hside
  unfold stopDirectionError at h
  dsimp only at h
  split at h
  · cases h
  rename_i hstop
  split at h
  · cases h
  rename_i htarget
  exact ⟨Decimal.not_le.mp hstop, Decimal.not_le.mp htarget⟩

theorem stopDirection_flat {side : Side} {referencePrice stopLossPrice takeProfitPrice : Decimal}
    (h : stopDirectionError side referencePrice stopLossPrice takeProfitPrice = none) :
    side ≠ .flat := by
  rintro rfl
  cases h

/-- `moment + timedelta(seconds=n)`. -/
def expiryOf (moment : UtcDatetime) (lifetimeSeconds : Int) : Except PyError UtcDatetime :=
  PyDatetime.shift moment (seconds lifetimeSeconds)

/-- A price, of what is positive. -/
def price? (d : Decimal) : Option Price := if h : 0 < d then some ⟨d, h⟩ else none

/-! ## Evaluating -/

section

variable [Externals] (snapshot : MarketSnapshot) (bars : List Bar) (spec : InstrumentSpec)
  (context : AgentContext) (config : IctConfig)

def featureId : Uuid :=
  Externals.uuid5 s!"crumblr:ict-features:{snapshot.symbol}:{isoTime snapshot.eventTimeUtc}"

/-- The evidence of an evaluation that came this far, with no more than every evaluation has. -/
def snapshotOf (read : StructureRead) (evaluation : Evaluation) : IctFeatureSnapshot where
  featureSnapshotId := featureId snapshot
  featureSetVersion := featureSetVersion
  symbol := snapshot.symbol
  computedAtUtc := snapshot.eventTimeUtc
  barsUsed := bars.length
  killzone := killzoneAt snapshot.eventTimeUtc
  marketOpen := Sessions.isMarketOpen snapshot.eventTimeUtc
  structureState := read.state
  rangePosition := .equilibrium
  retracement := 0
  atr := averageTrueRange bars atrPeriod
  shiftedUp := read.shiftedUp
  shiftedDown := read.shiftedDown
  conditionsMet := evaluation.met
  conditionsFailed := evaluation.failed

def checkSession : Except Ending Evaluation := do
  let killzone := killzoneAt snapshot.eventTimeUtc
  let evaluation ← Evaluation.require {} "market_open" (Sessions.isMarketOpen snapshot.eventTimeUtc)
    config.conditions.requireMarketOpen .marketClosed
  let evaluation ← evaluation.require "killzone" (decide (killzone ∈ config.tradeableKillzones))
    config.conditions.requireKillzone (.outsideKillzone killzone)
  evaluation.refuse (decide (averageTrueRange bars atrPeriod ≤ 0)) .atrUnavailable
  pure evaluation

/-- The pools above old highs, or below old lows. -/
def poolsOf (read : StructureRead) (isBuySide : Bool) : List LiquidityPool :=
  findLiquidityPools (if isBuySide then read.swingHighs else read.swingLows) isBuySide
    equalityTolerance

def sweepOf (read : StructureRead) : Option LiquiditySweep :=
  detectSweep bars (poolsOf read true ++ poolsOf read false) config.sweepLookbackBars 0 true

/-- The sweep names the direction. -/
def checkSweep (read : StructureRead) (evaluation : Evaluation) :
    Except Ending (Evaluation × LiquiditySweep) := do
  let sweep := sweepOf bars config read
  let evaluation ← evaluation.require "liquidity_sweep" sweep.isSome
    config.conditions.requireLiquiditySweep .noLiquiditySweep
  let sweep ← evaluation.need sweep .noDirection
  evaluation.refuse (decide (sweep.direction ∈ context.openPositionSides)) .alreadyPositioned
  let shiftAgrees := if sweep.direction = .buy then read.shiftedUp else read.shiftedDown
  let evaluation ← evaluation.require "structure_shift" shiftAgrees
    config.conditions.requireStructureShift .noStructureShift
  pure (evaluation, sweep)

/-- The newest open gap in a direction. -/
def alignedGap (direction : Side) : Option FairValueGap :=
  ((findFairValueGaps bars config.minDisplacementRatio atrPeriod config.fvgMaxAgeBars false).filter
    fun gap => gap.direction == direction).getLast?

def orderBlockOf (direction : Side) : Option OrderBlock :=
  (alignedGap bars config direction).bind fun gap =>
    findOrderBlock bars gap.createdIndex direction orderBlockLookback

/-- A long is entered at the ask, a short at the bid. -/
def entryOf (direction : Side) : Price := if direction = .buy then snapshot.ask else snapshot.bid

/-- Price must have come back into the imbalance. -/
def checkEntry (direction : Side) (evaluation : Evaluation) : Except Ending Evaluation := do
  let gap := alignedGap bars config direction
  let evaluation ← evaluation.require "fair_value_gap" gap.isSome
    config.conditions.requireFairValueGap .noFairValueGap
  let inZone := gap.any fun gap => gap.contains (entryOf snapshot direction).val
  let evaluation ← evaluation.require "price_in_zone" inZone
    config.conditions.requirePriceInZone .priceNotInZone
  evaluation.require "order_block" (orderBlockOf bars config direction).isSome
    config.conditions.requireOrderBlock .noOrderBlock

/-- The optimal trade entry, for a short on the mirrored band. -/
def inOptimalTradeEntry (direction : Side) (retracement : Decimal) : Bool :=
  let depth := if direction = .sell then 1 - retracement else retracement
  decide (config.oteLow ≤ depth ∧ depth ≤ config.oteHigh)

/-- Premium and discount are measured against the impulse leg. -/
def checkLocation (sweep : LiquiditySweep) (evaluation : Evaluation) :
    Except Ending (Evaluation × DealingRange) := do
  let entry := (entryOf snapshot sweep.direction).val
  let range ← evaluation.need (impulseLeg bars sweep sweep.direction) .noDealingRange
  let position := range.positionOf entry config.equilibriumTolerance
  let wants := if sweep.direction = .buy then RangePosition.discount else .premium
  let evaluation ← evaluation.require "discount_premium" (position == wants)
    config.conditions.requireDiscountPremium (.wrongRangeHalf position)
  let evaluation ← evaluation.require "optimal_trade_entry"
    (inOptimalTradeEntry config sweep.direction (range.retracementOf entry))
    config.conditions.requireOptimalTradeEntry .outsideOte
  pure (evaluation, range)

/-- The least distance a stop may have. -/
def policyFloor : Decimal :=
  spec.point.val * ⟨(max context.minStopDistancePoints spec.stopsLevel : Nat), 0⟩

/-- The stop goes beyond the swept extreme; one that is too near is widened to policy. -/
def stopOf (sweep : LiquiditySweep) : Except PyError Decimal := do
  let entry := (entryOf snapshot sweep.direction).val
  let bufferDistance := averageTrueRange bars atrPeriod * config.stopBufferAtr
  let stop ← quantizeBehind sweep.direction (behind sweep.direction sweep.extreme bufferDistance)
    spec.digits
  if (entry - stop).abs < policyFloor spec context then
    quantizeBehind sweep.direction (behind sweep.direction entry (policyFloor spec context))
      spec.digits
  else pure stop

/-- The nearest opposing level that is worth the risk. -/
def targetLevelOf (read : StructureRead) (direction : Side) (entry stopDistance : Decimal) :
    Option Decimal :=
  (nearestTarget (poolsOf read (direction == .buy)) entry direction).filter fun level =>
    !decide ((level - entry).abs / stopDistance < config.minRewardMultiple)

/-- Where no level is, the target is a multiple of the risk. -/
def checkTarget (read : StructureRead) (direction : Side) (stop : Decimal)
    (evaluation : Evaluation) : Except Ending (Evaluation × Price × Price) := do
  let entry := (entryOf snapshot direction).val
  let stopDistance := (entry - stop).abs
  evaluation.refuse (decide (stopDistance ≤ 0)) .degenerateStop
  let targetLevel := targetLevelOf config read direction entry stopDistance
  let evaluation ← evaluation.require "liquidity_target" targetLevel.isSome
    config.conditions.requireLiquidityTarget .noLiquidityTarget
  let level := targetLevel.getD
    (ahead direction entry (stopDistance * config.fallbackRewardMultiple))
  let target ← attempt (quantizeAhead direction level spec.digits)
  let target ← evaluation.need (price? target) .degeneratePriceLevels
  let stop ← evaluation.need (price? stop) .degeneratePriceLevels
  pure (evaluation, stop, target)

/-- The intent of a complete setup. -/
def intentOf (evaluation : Evaluation) (direction : Side) (reasonCode : String)
    (reasonCodes : List String) (stop target : Price) : Except PyError TradeIntent := do
  let entry := entryOf snapshot direction
  let expiresAtUtc ← expiryOf snapshot.eventTimeUtc config.intentLifetimeSeconds
  if hlifetime : snapshot.eventTimeUtc < expiresAtUtc then
    match hstops : stopDirectionError direction entry.val stop.val target.val with
    | some message => .error ⟨.validation, message⟩
    | none =>
        pure {
          intentId := Externals.uuid5
            s!"crumblr:intent:{strategyId}:{strategyVersion}:{(featureId snapshot).text}"
          strategyId := strategyId
          strategyVersion := strategyVersion
          modelVersion := none
          symbol := snapshot.symbol
          side := direction
          createdAtUtc := snapshot.eventTimeUtc
          expiresAtUtc
          entryType := .market
          referencePrice := entry
          stopLossPrice := some stop
          takeProfitPrice := some target
          confidence := confidence evaluation.met.length (alignedGap bars config direction)
          reasonCodes := reasonCode :: reasonCodes
          requestedRiskFraction := some context.requestedRiskFraction
          featureSnapshotId := featureId snapshot
          lifetime := hlifetime
          directional := fun _ => ⟨rfl, rfl, List.cons_ne_nil _ _⟩
          flat := fun h => absurd h (stopDirection_flat hstops)
          buyStops := fun h => ⟨fun _ hs => Option.mem_some.mp hs ▸ (stopDirection_buy hstops h).1,
            fun _ ht => Option.mem_some.mp ht ▸ (stopDirection_buy hstops h).2⟩
          sellStops := fun h => ⟨fun _ hs => Option.mem_some.mp hs ▸ (stopDirection_sell hstops h).1,
            fun _ ht => Option.mem_some.mp ht ▸ (stopDirection_sell hstops h).2⟩ }
  else .error ⟨.validation, "expires_at_utc must be after created_at_utc"⟩

/-- The intent and its evidence. -/
def propose (read : StructureRead) (evaluation : Evaluation) (sweep : LiquiditySweep)
    (range : DealingRange) (stop target : Price) :
    Except PyError (TradeIntent × IctFeatureSnapshot) := do
  let entry := (entryOf snapshot sweep.direction).val
  let gap := alignedGap bars config sweep.direction
  let orderBlock := orderBlockOf bars config sweep.direction
  let position := range.positionOf entry config.equilibriumTolerance
  let retracement := range.retracementOf entry
  let features := { snapshotOf snapshot bars read evaluation with
    rangePosition := position
    retracement
    sweptLevel := some sweep.sweptLevel
    sweepDirection := some sweep.direction
    fvgLower := gap.map (·.lower)
    fvgUpper := gap.map (·.upper)
    displacementRatio := gap.map (·.displacementRatio)
    orderBlockLow := orderBlock.map (·.low)
    orderBlockHigh := orderBlock.map (·.high)
    liquidityTarget := some target.val }
  let shown ← quantizePrice retracement 2 .halfEven
  let intent ← intentOf snapshot bars context config evaluation sweep.direction
    s!"killzone:{(killzoneAt snapshot.eventTimeUtc).value.toLower}"
    [s!"swept:{sweep.sweptLevel.text}", s!"structure:{read.state.value.toLower}",
      s!"range:{position.value.toLower}", s!"retracement:{shown.text}"]
    stop target
  pure (intent, features)

/-- The conditions in the order the model narrates them. -/
def runConditions (read : StructureRead) : Except Ending (TradeIntent × IctFeatureSnapshot) := do
  let evaluation ← checkSession snapshot bars config
  let (evaluation, sweep) ← checkSweep bars context config read evaluation
  let evaluation ← checkEntry snapshot bars config sweep.direction evaluation
  let (evaluation, range) ← checkLocation snapshot bars config sweep evaluation
  let stop ← attempt (stopOf snapshot bars spec context config sweep)
  let (evaluation, stop, target) ←
    checkTarget snapshot spec config read sweep.direction stop evaluation
  attempt (propose snapshot bars context config read evaluation sweep range stop target)

/-- The decision and its evidence. -/
def decide? (read : StructureRead) : Except PyError (StrategyDecision × IctFeatureSnapshot) :=
  match runConditions snapshot bars spec context config read with
  | .ok (intent, features) =>
      .ok (⟨intent.side, intent.confidence, intent.reasonCodes, some intent⟩, features)
  | .error (.noTrade refusal evaluation) =>
      .ok (⟨.flat, ⟨"0.0"⟩, [refusal.text], none⟩, snapshotOf snapshot bars read evaluation)
  | .error (.raised error) => .error error

/-- Run the entry model. -/
def evaluate : Except PyError (StrategyDecision × Option IctFeatureSnapshot) :=
  if bars.length < minimumBars then .ok (⟨.flat, ⟨"0.0"⟩, ["warming_up"], none⟩, none)
  else do
    let read ← readStructure bars config.swingStrength config.structureLookbackBars
    let (decision, features) ← decide? snapshot bars spec context config read
    pure (decision, some features)

end

/-- The strategy as it is registered. -/
def strategy [Externals] : StrategyEntry where
  strategyId := strategyId
  version := strategyVersion
  minimumBars := minimumBars
  evaluate := fun snapshot bars spec context =>
    (evaluate snapshot bars spec context {}).map fun outcome =>
      ⟨outcome.1, outcome.2.map (·.evidence)⟩

end Ict

end Crumblr
