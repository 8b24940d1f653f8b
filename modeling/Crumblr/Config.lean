import Crumblr.Domain.Models

/-!
# Configuration

The platform's configuration, with the per-market overrides merged the way the
source merges them. A merged section is validated again, so merging can refuse.
-/

namespace Crumblr

/-- What is wrong with the order of the budgets. -/
def budgetOrderingError (maxRiskPerTrade maxOpenRisk maxDailyLoss maxDrawdown : Decimal) : String :=
  if maxOpenRisk < maxRiskPerTrade then
    s!"max_risk_per_trade {maxRiskPerTrade.text} exceeds max_open_risk {maxOpenRisk.text}: "
      ++ "one trade cannot outweigh the portfolio"
  else
    s!"max_daily_loss {maxDailyLoss.text} exceeds max_drawdown {maxDrawdown.text}: "
      ++ "the daily gate would never trip first"

structure RiskConfig where
  maxRiskPerTrade : RiskFraction
  maxOpenRisk : RiskFraction
  maxDailyLoss : RiskFraction
  maxDrawdown : RiskFraction
  maxOrdersPerHour : Nat
  maxOpenPositions : Nat
  minStopDistancePoints : Nat
  approvedConfigVersion : Option String
  budgetOrdering : ¬ maxOpenRisk.val < maxRiskPerTrade.val ∧ ¬ maxDrawdown.val < maxDailyLoss.val

/-- What one market may say differently; a field left out keeps the platform's value. -/
structure RiskOverrides where
  maxRiskPerTrade : Option RiskFraction
  maxOpenRisk : Option RiskFraction
  maxDailyLoss : Option RiskFraction
  maxDrawdown : Option RiskFraction
  maxOrdersPerHour : Option Nat
  maxOpenPositions : Option Nat
  minStopDistancePoints : Option Nat

structure ExecutionConfig where
  maxSpreadPoints : Nat
  maxMarketDataAgeMs : Nat
  orderTimeoutMs : Nat
  maxSlippagePoints : Nat
  submissionEnabled : Bool
  feedback20Approved : Bool
  flattenSubmissionEnabled : Bool
  approvedCanaryAccountRef : Option String

structure ExecutionOverrides where
  maxSpreadPoints : Option Nat
  maxMarketDataAgeMs : Option Nat
  orderTimeoutMs : Option Nat
  maxSlippagePoints : Option Nat

structure MarketConfig where
  canonicalSymbol : String
  enabled : Bool
  assetClass : AssetClass
  brokerSymbol : String
  expectedSpecVersion : Option String
  sessionPolicyApproved : Bool
  riskOverrides : Option RiskOverrides
  executionOverrides : Option ExecutionOverrides

structure TradingAgentConfig where
  strategyId : String
  strategyVersion : String
  modelVersion : Option String

structure IntradayConfig where
  enabled : Bool
  lastEntryMinutesBeforeClose : Nat
  flattenMinutesBeforeClose : Nat
  deadlineOrdering : flattenMinutesBeforeClose ≤ lastEntryMinutesBeforeClose

structure AccountGuardConfig where
  expectedServer : String
  expectedLogin : Option Int
  requireDemoAccount : Bool
  expectedCurrency : Option String
  expectedLeverage : Option Nat

structure PlatformConfig where
  environment : Environment
  markets : List MarketConfig
  risk : RiskConfig
  execution : ExecutionConfig
  tradingAgent : TradingAgentConfig
  accountGuard : AccountGuardConfig
  intraday : IntradayConfig
  liveTradingAcknowledged : Bool := false
  /-- The digest of the whole configuration less its approvals. -/
  configVersion : String
  marketsDistinct : markets ≠ [] ∧ (markets.map (·.canonicalSymbol)).Nodup
  demoGuard : environment ∈ demoOnlyEnvironments → accountGuard.requireDemoAccount

namespace PlatformConfig

variable (config : PlatformConfig)

def enabledSymbols : List String :=
  (config.markets.filter (·.enabled)).map (·.canonicalSymbol)

def marketFor (canonicalSymbol : String) : Option MarketConfig :=
  config.markets.find? fun market => market.canonicalSymbol == canonicalSymbol

/-- The risk limits in force for one market. -/
def riskFor (canonicalSymbol : String) : Except PyError RiskConfig :=
  match (config.marketFor canonicalSymbol).bind (·.riskOverrides) with
  | none => .ok config.risk
  | some o =>
      let maxRiskPerTrade := o.maxRiskPerTrade.getD config.risk.maxRiskPerTrade
      let maxOpenRisk := o.maxOpenRisk.getD config.risk.maxOpenRisk
      let maxDailyLoss := o.maxDailyLoss.getD config.risk.maxDailyLoss
      let maxDrawdown := o.maxDrawdown.getD config.risk.maxDrawdown
      if h : ¬ maxOpenRisk.val < maxRiskPerTrade.val ∧ ¬ maxDrawdown.val < maxDailyLoss.val then
        .ok { maxRiskPerTrade, maxOpenRisk, maxDailyLoss, maxDrawdown,
              maxOrdersPerHour := o.maxOrdersPerHour.getD config.risk.maxOrdersPerHour,
              maxOpenPositions := o.maxOpenPositions.getD config.risk.maxOpenPositions,
              minStopDistancePoints :=
                o.minStopDistancePoints.getD config.risk.minStopDistancePoints,
              approvedConfigVersion := config.risk.approvedConfigVersion,
              budgetOrdering := h }
      else .error ⟨.validation, budgetOrderingError maxRiskPerTrade.val maxOpenRisk.val
        maxDailyLoss.val maxDrawdown.val⟩

/-- The execution limits in force for one market. -/
def executionFor (canonicalSymbol : String) : ExecutionConfig :=
  match (config.marketFor canonicalSymbol).bind (·.executionOverrides) with
  | none => config.execution
  | some o =>
      { config.execution with
        maxSpreadPoints := o.maxSpreadPoints.getD config.execution.maxSpreadPoints,
        maxMarketDataAgeMs := o.maxMarketDataAgeMs.getD config.execution.maxMarketDataAgeMs,
        orderTimeoutMs := o.orderTimeoutMs.getD config.execution.orderTimeoutMs,
        maxSlippagePoints := o.maxSlippagePoints.getD config.execution.maxSlippagePoints }

end PlatformConfig

end Crumblr
