import Crumblr.Domain.Models

/-!
# What a strategy is asked and what it answers

A strategy sees one snapshot with the bars before it and returns a decision, with the
evidence behind it unless it has too little history to say anything. Which strategy it
is makes no difference to whoever asks.
-/

namespace Crumblr

/-- One OHLC bar. -/
structure Bar where
  openTimeUtc : UtcDatetime
  openPrice : Price
  high : Price
  low : Price
  close : Price
  tickVolume : Nat
  realVolume : Option Nat
  spreadPoints : Option Nat
  ohlc : ¬ high.val < low.val ∧ ¬ high.val < openPrice.val.max close.val
    ∧ ¬ openPrice.val.min close.val < low.val

/-- The portfolio and the policy, as far as a strategy may know them. -/
structure AgentContext where
  openPositionSides : List Side
  requestedRiskFraction : RiskFraction
  minStopDistancePoints : Nat

/-- A decision, even when it is to do nothing. -/
structure StrategyDecision where
  side : Side
  confidence : PyFloat
  reasonCodes : List String
  intent : Option TradeIntent

/-- The inputs a strategy acted on. -/
structure FeatureEvidence where
  featureSnapshotId : Uuid
  featureSetVersion : String
  featureValuesHash : String
  regime : Regime
  symbol : String
  modelDump : Json

structure StrategyOutcome where
  decision : StrategyDecision
  features : Option FeatureEvidence

/-- A registered strategy. -/
structure StrategyEntry where
  strategyId : String
  version : String
  minimumBars : Nat
  evaluate : MarketSnapshot → List Bar → InstrumentSpec → AgentContext →
    Except PyError StrategyOutcome

end Crumblr
