import Crumblr.Lib.Binary64
import Crumblr.TradingAgent.Ict

/-!
# The baseline strategy

Two averages of the closes, and how far apart they are in units of the range of a bar: in a trend
the strategy goes along with the faster one. It has no edge to claim, and most windows come to
nothing.
-/

namespace Crumblr

/-! ## Features -/

namespace Features

def featureSetVersion : String := "features-v1"

def emaFastPeriod : Nat := 12

def emaSlowPeriod : Nat := 26

def atrPeriod : Nat := 14

def atrBaselinePeriod : Nat := 50

def highVolatilityRatio : Decimal := ⟨160, -2⟩

def lowVolatilityRatio : Decimal := ⟨60, -2⟩

def trendScoreThreshold : Decimal := ⟨50, -2⟩

/-- The history any regime needs. -/
def minimumBars : Nat := atrBaselinePeriod + atrPeriod + 1

/-- `sum(values, ZERO)` -/
def sum (values : List Decimal) : Decimal := values.foldl (· + ·) 0

def mean (values : List Decimal) : Decimal := sum values / ⟨values.length, 0⟩

/-- The exponential moving average, seeded with the mean of the first values. -/
def ema (values : List Decimal) (period : Nat) : Option Decimal :=
  if values.length < period then none
  else
    let alpha : Decimal := 2 / ⟨period + 1, 0⟩
    some ((values.drop period).foldl (fun ema value => alpha * value + (1 - alpha) * ema)
      (sum (values.take period) / ⟨period, 0⟩))

/-- The first bar yields none: it takes the close before. -/
def trueRanges (bars : List Bar) : List Decimal := List.zipWith trueRange bars bars.tail

/-- The last values. -/
def lastOf (n : Nat) (values : List Decimal) : List Decimal := values.drop (values.length - n)

/-- Volatility comes first: a market far beyond its usual range is volatile, not trending. -/
def classify (volatilityRatio trendScore : Decimal) : Regime :=
  if highVolatilityRatio ≤ volatilityRatio then .highVolatility
  else if volatilityRatio ≤ lowVolatilityRatio then .lowVolatility
  else if trendScoreThreshold ≤ trendScore.abs then .trend
  else .range

end Features

structure FeatureSnapshot where
  featureSnapshotId : Uuid
  featureSetVersion : String
  symbol : String
  computedAtUtc : UtcDatetime
  barsUsed : Nat
  emaFast : Decimal
  emaSlow : Decimal
  atr : Decimal
  atrBaseline : Decimal
  volatilityRatio : Decimal
  trendScore : Decimal
  regime : Regime

namespace FeatureSnapshot

variable (features : FeatureSnapshot)

def featureValuesHash [Externals] : String :=
  digestOf (.obj [
    ("feature_set_version", .str features.featureSetVersion),
    ("ema_fast", .decimal features.emaFast.normalize),
    ("ema_slow", .decimal features.emaSlow.normalize),
    ("atr", .decimal features.atr.normalize),
    ("atr_baseline", .decimal features.atrBaseline.normalize),
    ("volatility_ratio", .decimal features.volatilityRatio.normalize),
    ("trend_score", .decimal features.trendScore.normalize),
    ("regime", .str features.regime.value)])

/-- The evidence as the decision path reads it. -/
def evidence [Externals] : FeatureEvidence where
  featureSnapshotId := features.featureSnapshotId
  featureSetVersion := features.featureSetVersion
  featureValuesHash := features.featureValuesHash
  regime := features.regime
  symbol := features.symbol
  modelDump := .obj [
    ("feature_snapshot_id", .uuid features.featureSnapshotId),
    ("feature_set_version", .str features.featureSetVersion),
    ("symbol", .str features.symbol),
    ("computed_at_utc", .time features.computedAtUtc),
    ("bars_used", .int features.barsUsed),
    ("ema_fast", .decimal features.emaFast),
    ("ema_slow", .decimal features.emaSlow),
    ("atr", .decimal features.atr),
    ("atr_baseline", .decimal features.atrBaseline),
    ("volatility_ratio", .decimal features.volatilityRatio),
    ("trend_score", .decimal features.trendScore),
    ("regime", .str features.regime.value)]

end FeatureSnapshot

namespace Features

/-- The features of closed bars; nothing where there are too few, or where none has a range. -/
def computeFeatures [Externals] (bars : List Bar) (symbol : String) (computedAtUtc : UtcDatetime) :
    Option FeatureSnapshot :=
  if bars.length < minimumBars then none
  else do
    let closes := bars.map (·.close.val)
    let emaFast ← ema closes emaFastPeriod
    let emaSlow ← ema closes emaSlowPeriod
    let ranges := trueRanges bars
    if ranges.length < atrBaselinePeriod then none
    else
      let atr := mean (lastOf atrPeriod ranges)
      let atrBaseline := mean (lastOf atrBaselinePeriod ranges)
      if atrBaseline ≤ 0 then none
      else
        let volatilityRatio := atr / atrBaseline
        let trendScore := if 0 < atr then (emaFast - emaSlow) / atr else 0
        some {
          featureSnapshotId :=
            Externals.uuid5 s!"crumblr:features:{symbol}:{isoTime computedAtUtc}"
          featureSetVersion
          symbol
          computedAtUtc
          barsUsed := bars.length
          emaFast
          emaSlow
          atr
          atrBaseline
          volatilityRatio
          trendScore
          regime := classify volatilityRatio trendScore }

end Features

/-! ## Deciding -/

namespace Baseline

def strategyId : String := "baseline_v1"

def strategyVersion : String := "1.0.0"

def tradeableRegimes : List Regime := [.trend]

structure StrategyConfig where
  stopAtrMultiple : Decimal := ⟨15, -1⟩
  rewardMultiple : Decimal := ⟨20, -1⟩
  intentLifetimeSeconds : Int := 60
  minTrendScore : Decimal := ⟨50, -2⟩
  /-- A move beyond this is taken for over. -/
  maxTrendScore : Decimal := ⟨60, -1⟩

/-- `float(d)`, as it is written. -/
def floatOf (d : Decimal) : PyFloat := ⟨String.ofList (Binary64.read d.text.toList).repr⟩

/-- How far the averages are apart, on a scale from zero to one. -/
def confidenceFrom (trendScore : Decimal) (config : StrategyConfig) : PyFloat :=
  let magnitude := trendScore.abs.min config.maxTrendScore
  let span := config.maxTrendScore - config.minTrendScore
  if span ≤ 0 then ⟨"0.0"⟩
  else
    let scaled := (magnitude - config.minTrendScore) / span
    floatOf (Decimal.max 0 (Decimal.min 1 scaled))

/-- No trade, and why. -/
def noTrade (reasonCode : String) : StrategyDecision := ⟨.flat, ⟨"0.0"⟩, [reasonCode], none⟩

section

variable [Externals] (snapshot : MarketSnapshot) (features : FeatureSnapshot)
  (spec : InstrumentSpec) (context : AgentContext) (config : StrategyConfig)

/-- The side the faster average is on. -/
def direction : Side := if 0 < features.trendScore then .buy else .sell

/-- The wider of what volatility asks for and what policy asks for. -/
def stopDistance : Decimal :=
  (features.atr * config.stopAtrMultiple).max (Ict.policyFloor spec context)

/-- The stop, rounded away from the entry. -/
def stopOf : Except PyError Decimal :=
  Ict.quantizeBehind (direction features)
    (Ict.behind (direction features) (Ict.entryOf snapshot (direction features)).val
      (stopDistance features spec context config))
    spec.digits

/-- The target, rounded away from the entry too. -/
def targetOf : Except PyError Decimal :=
  Ict.quantizeAhead (direction features)
    (Ict.ahead (direction features) (Ict.entryOf snapshot (direction features)).val
      (stopDistance features spec context config * config.rewardMultiple))
    spec.digits

/-- The intent of a trend. -/
def intentOf (stop target : Price) : Except PyError TradeIntent := do
  let entry := Ict.entryOf snapshot (direction features)
  let shown ← Ict.quantizePrice features.trendScore 2 .halfEven
  let expiresAtUtc ← Ict.expiryOf snapshot.eventTimeUtc config.intentLifetimeSeconds
  if hlifetime : snapshot.eventTimeUtc < expiresAtUtc then
    match hstops : Ict.stopDirectionError (direction features) entry.val stop.val target.val with
    | some message => .error ⟨.validation, message⟩
    | none =>
        pure {
          intentId := Externals.uuid5
            s!"crumblr:intent:{strategyId}:{strategyVersion}:{features.featureSnapshotId.text}"
          strategyId := strategyId
          strategyVersion := strategyVersion
          modelVersion := none
          symbol := snapshot.symbol
          side := direction features
          createdAtUtc := snapshot.eventTimeUtc
          expiresAtUtc
          entryType := .market
          referencePrice := entry
          stopLossPrice := some stop
          takeProfitPrice := some target
          confidence := confidenceFrom features.trendScore config
          reasonCodes := [s!"regime:{features.regime.value.toLower}", "ema_separation",
            s!"trend_score:{shown.text}"]
          requestedRiskFraction := some context.requestedRiskFraction
          featureSnapshotId := features.featureSnapshotId
          lifetime := hlifetime
          directional := fun _ => ⟨rfl, rfl, List.cons_ne_nil _ _⟩
          flat := fun h => absurd h (Ict.stopDirection_flat hstops)
          buyStops := fun h =>
            ⟨fun _ hs => Option.mem_some.mp hs ▸ (Ict.stopDirection_buy hstops h).1,
              fun _ ht => Option.mem_some.mp ht ▸ (Ict.stopDirection_buy hstops h).2⟩
          sellStops := fun h =>
            ⟨fun _ hs => Option.mem_some.mp hs ▸ (Ict.stopDirection_sell hstops h).1,
              fun _ ht => Option.mem_some.mp ht ▸ (Ict.stopDirection_sell hstops h).2⟩ }
  else .error ⟨.validation, "expires_at_utc must be after created_at_utc"⟩

/-- The state of the market as an intent, or as no trade. -/
def decide : Except PyError StrategyDecision :=
  if features.regime ∉ tradeableRegimes then
    .ok (noTrade s!"regime_not_traded:{features.regime.value.toLower}")
  else if direction features ∈ context.openPositionSides then .ok (noTrade "already_positioned")
  else if config.maxTrendScore < features.trendScore.abs then .ok (noTrade "trend_overextended")
  else if features.atr ≤ 0 then .ok (noTrade "atr_unavailable")
  else do
    let stop ← stopOf snapshot features spec context config
    let target ← targetOf snapshot features spec context config
    match Ict.price? stop, Ict.price? target with
    | some stop, some target => do
        let intent ← intentOf snapshot features context config stop target
        pure ⟨intent.side, intent.confidence, intent.reasonCodes, some intent⟩
    | _, _ => pure (noTrade "degenerate_price_levels")

/-- Compute the features and decide. -/
def evaluate (bars : List Bar) : Except PyError (StrategyDecision × Option FeatureSnapshot) :=
  if bars.length < Features.minimumBars then .ok (noTrade "warming_up", none)
  else
    match Features.computeFeatures bars snapshot.symbol snapshot.eventTimeUtc with
    | none => .ok (noTrade "warming_up", none)
    | some features => do
        let decision ← decide snapshot features spec context config
        pure (decision, some features)

end

/-- The strategy as it is registered. -/
def strategy [Externals] : StrategyEntry where
  strategyId := strategyId
  version := strategyVersion
  minimumBars := Features.minimumBars
  evaluate := fun snapshot bars spec context =>
    (evaluate snapshot spec context {} bars).map fun outcome =>
      ⟨outcome.1, outcome.2.map (·.evidence)⟩

end Baseline

/-! ## The registry -/

def strategies [Externals] : List StrategyEntry := [Baseline.strategy, Ict.strategy]

/-- Look up a strategy; there's no default for an unknown id. -/
def resolve [Externals] (strategyId : String) : Except PyError StrategyEntry :=
  match strategies.find? fun entry => entry.strategyId = strategyId with
  | some entry => .ok entry
  | none => .error ⟨.lookup,
      s!"unknown strategy_id '{strategyId}'; registered: baseline_v1, ict_v1"⟩

end Crumblr
