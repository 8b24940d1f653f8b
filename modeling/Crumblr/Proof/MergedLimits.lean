import Crumblr.ConfigFile
import Crumblr.Lib.Raising
import Crumblr.Proof.AtMostOnce

/-!
# Limits of a configuration that loads

Every section and every override is validated when a configuration loads, each alone. Merging them
can break nothing but the order of the budgets, so that is what the merge checks again: it refuses
a market whose budgets come out of order, and gives every other market its own limits, with the
platform's approvals.
-/

namespace Crumblr

/-! ## What a merged section is -/

/-- The approval is a version tag. -/
def RiskConfig.InBounds (risk : RiskConfig) : Prop :=
  ∀ version ∈ risk.approvedConfigVersion, 1 ≤ version.length ∧ version.length ≤ 128

structure ExecutionConfig.InBounds (execution : ExecutionConfig) : Prop where
  maxSpreadPoints : 1 ≤ execution.maxSpreadPoints
  maxMarketDataAgeMs : 1 ≤ execution.maxMarketDataAgeMs
  orderTimeoutMs : 1 ≤ execution.orderTimeoutMs

structure ExecutionOverrides.InBounds (overrides : ExecutionOverrides) : Prop where
  maxSpreadPoints : ∀ n ∈ overrides.maxSpreadPoints, 1 ≤ n
  maxMarketDataAgeMs : ∀ n ∈ overrides.maxMarketDataAgeMs, 1 ≤ n
  orderTimeoutMs : ∀ n ∈ overrides.orderTimeoutMs, 1 ≤ n

/-- Budgets in order: a trade's risk is no more than the book's, a day's loss than the drawdown. -/
def InOrder (maxRiskPerTrade maxOpenRisk maxDailyLoss maxDrawdown : RiskFraction) : Prop :=
  maxRiskPerTrade.val ≤ maxOpenRisk.val ∧ maxDailyLoss.val ≤ maxDrawdown.val

/-- What a market says of a field, or else what the platform says. -/
def fieldOf {β α : Type} (overrides : Option β) (field : β → Option α) (platform : α) : α :=
  (overrides.bind field).getD platform

/-- Every field is the market's where it has one, and the platform's where it hasn't; the approval
is the platform's. -/
structure RiskConfig.MergedFrom (merged platform : RiskConfig) (overrides : Option RiskOverrides) :
    Prop where
  maxRiskPerTrade :
    merged.maxRiskPerTrade = fieldOf overrides (·.maxRiskPerTrade) platform.maxRiskPerTrade
  maxOpenRisk : merged.maxOpenRisk = fieldOf overrides (·.maxOpenRisk) platform.maxOpenRisk
  maxDailyLoss : merged.maxDailyLoss = fieldOf overrides (·.maxDailyLoss) platform.maxDailyLoss
  maxDrawdown : merged.maxDrawdown = fieldOf overrides (·.maxDrawdown) platform.maxDrawdown
  maxOrdersPerHour :
    merged.maxOrdersPerHour = fieldOf overrides (·.maxOrdersPerHour) platform.maxOrdersPerHour
  maxOpenPositions :
    merged.maxOpenPositions = fieldOf overrides (·.maxOpenPositions) platform.maxOpenPositions
  minStopDistancePoints : merged.minStopDistancePoints
    = fieldOf overrides (·.minStopDistancePoints) platform.minStopDistancePoints
  approvedConfigVersion : merged.approvedConfigVersion = platform.approvedConfigVersion

/-- The four approvals are the platform's. -/
structure ExecutionConfig.MergedFrom (merged platform : ExecutionConfig)
    (overrides : Option ExecutionOverrides) : Prop where
  maxSpreadPoints :
    merged.maxSpreadPoints = fieldOf overrides (·.maxSpreadPoints) platform.maxSpreadPoints
  maxMarketDataAgeMs :
    merged.maxMarketDataAgeMs = fieldOf overrides (·.maxMarketDataAgeMs) platform.maxMarketDataAgeMs
  orderTimeoutMs :
    merged.orderTimeoutMs = fieldOf overrides (·.orderTimeoutMs) platform.orderTimeoutMs
  maxSlippagePoints :
    merged.maxSlippagePoints = fieldOf overrides (·.maxSlippagePoints) platform.maxSlippagePoints
  submissionEnabled : merged.submissionEnabled = platform.submissionEnabled
  feedback20Approved : merged.feedback20Approved = platform.feedback20Approved
  flattenSubmissionEnabled : merged.flattenSubmissionEnabled = platform.flattenSubmissionEnabled
  approvedCanaryAccountRef : merged.approvedCanaryAccountRef = platform.approvedCanaryAccountRef

namespace PlatformConfig

variable (config : PlatformConfig) (symbol : String)

def riskOverridesFor : Option RiskOverrides := (config.marketFor symbol).bind (·.riskOverrides)

def executionOverridesFor : Option ExecutionOverrides :=
  (config.marketFor symbol).bind (·.executionOverrides)

/-- The budgets a market comes to are in order. -/
def BudgetsInOrder : Prop :=
  InOrder
    (fieldOf (config.riskOverridesFor symbol) (·.maxRiskPerTrade) config.risk.maxRiskPerTrade)
    (fieldOf (config.riskOverridesFor symbol) (·.maxOpenRisk) config.risk.maxOpenRisk)
    (fieldOf (config.riskOverridesFor symbol) (·.maxDailyLoss) config.risk.maxDailyLoss)
    (fieldOf (config.riskOverridesFor symbol) (·.maxDrawdown) config.risk.maxDrawdown)

variable {config symbol}

/-- **The merge returns just when the budgets are in order**, and it's the merge. -/
theorem riskFor_ok {risk : RiskConfig} (h : config.riskFor symbol = .ok risk) :
    config.BudgetsInOrder symbol ∧ risk.MergedFrom config.risk (config.riskOverridesFor symbol) := by
  unfold riskFor at h
  unfold BudgetsInOrder riskOverridesFor
  cases hmarket : (config.marketFor symbol).bind (·.riskOverrides) with
  | none =>
      rw [hmarket] at h
      cases h
      obtain ⟨hrisk, hloss⟩ := config.risk.budgetOrdering
      exact ⟨⟨Decimal.not_lt.mp hrisk, Decimal.not_lt.mp hloss⟩,
        ⟨rfl, rfl, rfl, rfl, rfl, rfl, rfl, rfl⟩⟩
  | some overrides =>
      rw [hmarket] at h
      dsimp only at h
      split at h
      · rename_i hordered
        cases h
        exact ⟨⟨Decimal.not_lt.mp hordered.1, Decimal.not_lt.mp hordered.2⟩,
          ⟨rfl, rfl, rfl, rfl, rfl, rfl, rfl, rfl⟩⟩
      · cases h

theorem riskFor_error {error : PyError} (h : config.riskFor symbol = .error error) :
    error.kind = .validation ∧ ¬ config.BudgetsInOrder symbol := by
  unfold riskFor at h
  unfold BudgetsInOrder riskOverridesFor
  cases hmarket : (config.marketFor symbol).bind (·.riskOverrides) with
  | none =>
      rw [hmarket] at h
      cases h
  | some overrides =>
      rw [hmarket] at h
      dsimp only at h
      split at h
      · cases h
      · rename_i hordered
        cases h
        refine ⟨rfl, fun horder => hordered ?_⟩
        exact ⟨Decimal.not_lt.mpr horder.1, Decimal.not_lt.mpr horder.2⟩

theorem executionFor_merged :
    (config.executionFor symbol).MergedFrom config.execution
      (config.executionOverridesFor symbol) := by
  unfold executionFor executionOverridesFor
  cases (config.marketFor symbol).bind (·.executionOverrides) with
  | none => exact ⟨rfl, rfl, rfl, rfl, rfl, rfl, rfl, rfl⟩
  | some overrides => exact ⟨rfl, rfl, rfl, rfl, rfl, rfl, rfl, rfl⟩

end PlatformConfig

/-! ## What loading has checked -/

theorem fieldOf_least {β : Type} {overrides : Option β} {field : β → Option Nat} {platform : Nat}
    (hplatform : 1 ≤ platform) (h : ∀ o ∈ overrides, ∀ n ∈ field o, 1 ≤ n) :
    1 ≤ fieldOf overrides field platform := by
  unfold fieldOf
  cases hvalue : overrides.bind field with
  | none => exact hplatform
  | some n =>
      obtain ⟨o, ho, hn⟩ := Option.bind_eq_some_iff.mp hvalue
      exact h o ho n hn

section

variable [Conversions]

namespace Yaml

theorem natFrom?_le {least n : Nat} {value : Yaml} (h : natFrom? least value = some n) :
    least ≤ n := by
  obtain ⟨i, -, hi⟩ := Option.bind_eq_some_iff.mp h
  split at hi
  · cases hi
    omega
  · cases hi

theorem textOf?_length {least most : Nat} {value : Yaml} {s : String}
    (h : textOf? least most value = some s) : least ≤ s.length ∧ s.length ≤ most := by
  obtain ⟨t, -, ht⟩ := Option.bind_eq_some_iff.mp h
  split at ht
  · cases ht
    assumption
  · cases ht

omit [Conversions] in
/-- What an optional field holds has been converted. -/
theorem optional_mem {α : Type} {convert : Yaml → Option α} {field : Option Yaml} {x : Option α}
    (h : optional convert field = some x) {a : α} (ha : a ∈ x) :
    ∃ value, convert value = some a := by
  unfold optional at h
  split at h
  · cases h
    cases ha
  · cases h
    cases ha
  · obtain ⟨b, hb, rfl⟩ := Option.map_eq_some_iff.mp h
    cases ha
    exact ⟨_, hb⟩

end Yaml

open Yaml

theorem RiskConfig.validate?_bounds {value : Yaml} {risk : RiskConfig}
    (h : RiskConfig.validate? value = some risk) : risk.InBounds := by
  unfold RiskConfig.validate? at h
  iterate 15
    obtain ⟨_, -, h⟩ := Option.bind_eq_some_iff.mp h
  obtain ⟨version, hversion, h⟩ := Option.bind_eq_some_iff.mp h
  split at h
  · cases h
    intro v hv
    obtain ⟨_, hv⟩ := optional_mem hversion hv
    exact textOf?_length hv
  · cases h

theorem ExecutionConfig.validate?_bounds {value : Yaml} {execution : ExecutionConfig}
    (h : ExecutionConfig.validate? value = some execution) : execution.InBounds := by
  unfold ExecutionConfig.validate? at h
  iterate 2
    obtain ⟨_, -, h⟩ := Option.bind_eq_some_iff.mp h
  obtain ⟨spread, hspread, h⟩ := Option.bind_eq_some_iff.mp h
  obtain ⟨_, -, h⟩ := Option.bind_eq_some_iff.mp h
  obtain ⟨age, hage, h⟩ := Option.bind_eq_some_iff.mp h
  obtain ⟨_, -, h⟩ := Option.bind_eq_some_iff.mp h
  obtain ⟨timeout, htimeout, h⟩ := Option.bind_eq_some_iff.mp h
  iterate 6
    obtain ⟨_, -, h⟩ := Option.bind_eq_some_iff.mp h
  cases h
  exact ⟨natFrom?_le hspread, natFrom?_le hage, natFrom?_le htimeout⟩

theorem ExecutionOverrides.validate?_bounds {value : Yaml} {overrides : ExecutionOverrides}
    (h : ExecutionOverrides.validate? value = some overrides) : overrides.InBounds := by
  simp only [ExecutionOverrides.validate?, Option.bind_eq_bind, Option.bind_eq_some_iff] at h
  obtain ⟨_, -, spread, hspread, age, hage, timeout, htimeout, _, -, h⟩ := h
  cases h
  refine ⟨fun n hn => ?_, fun n hn => ?_, fun n hn => ?_⟩
  · obtain ⟨_, hn⟩ := optional_mem hspread hn
    exact natFrom?_le hn
  · obtain ⟨_, hn⟩ := optional_mem hage hn
    exact natFrom?_le hn
  · obtain ⟨_, hn⟩ := optional_mem htimeout hn
    exact natFrom?_le hn

theorem MarketConfig.validate?_bounds {value : Yaml} {market : MarketConfig}
    (h : MarketConfig.validate? value = some market) :
    ∀ overrides ∈ market.executionOverrides, overrides.InBounds := by
  unfold MarketConfig.validate? at h
  iterate 12
    obtain ⟨_, -, h⟩ := Option.bind_eq_some_iff.mp h
  obtain ⟨overrides, hoverrides, h⟩ := Option.bind_eq_some_iff.mp h
  cases h
  intro o ho
  obtain ⟨_, ho⟩ := optional_mem hoverrides ho
  exact ExecutionOverrides.validate?_bounds ho

theorem markets?_bounds {value : Yaml} {markets : List MarketConfig}
    (h : markets? value = some markets) :
    ∀ market ∈ markets, ∀ overrides ∈ market.executionOverrides, overrides.InBounds := by
  unfold markets? at h
  split at h
  · intro market hmarket
    obtain ⟨item, -, hitem⟩ := Traverse.exists_left (Traverse.forall₂_of_some h) hmarket
    exact MarketConfig.validate?_bounds hitem
  · cases h

/-- What a validated configuration holds was validated section by section. -/
theorem PlatformConfig.validate?_sections [Externals] {value : Yaml} {config : PlatformConfig}
    (h : PlatformConfig.validate? value = some config) :
    config.risk.InBounds ∧ config.execution.InBounds ∧
      ∀ market ∈ config.markets, ∀ overrides ∈ market.executionOverrides, overrides.InBounds := by
  unfold PlatformConfig.validate? at h
  obtain ⟨_, -, h⟩ := Option.bind_eq_some_iff.mp h
  iterate 3
    obtain ⟨_, -, h⟩ := Option.bind_eq_some_iff.mp h
  obtain ⟨markets, hmarkets, h⟩ := Option.bind_eq_some_iff.mp h
  obtain ⟨_, -, h⟩ := Option.bind_eq_some_iff.mp h
  obtain ⟨risk, hrisk, h⟩ := Option.bind_eq_some_iff.mp h
  obtain ⟨_, -, h⟩ := Option.bind_eq_some_iff.mp h
  obtain ⟨execution, hexecution, h⟩ := Option.bind_eq_some_iff.mp h
  iterate 9
    obtain ⟨_, -, h⟩ := Option.bind_eq_some_iff.mp h
  split at h
  · split at h
    · split at h
      · cases h
      · cases h
        exact ⟨RiskConfig.validate?_bounds hrisk, ExecutionConfig.validate?_bounds hexecution,
          markets?_bounds hmarkets⟩
    · cases h
  · cases h

variable [Externals] {environment : Environment} {configDir : ConfigDir} {allowLive : Option Bool}
  {liveOverride : Option String} {config : PlatformConfig} {symbol : String}

/-- What loads has been validated. -/
theorem loadConfig_ok (h : loadConfig environment configDir allowLive liveOverride = .ok config) :
    ∃ value, PlatformConfig.validate? value = some config := by
  unfold loadConfig at h
  split at h
  · cases h
  · obtain ⟨base, -, h⟩ := bind_ok h
    obtain ⟨overlay, -, h⟩ := bind_ok h
    obtain ⟨_, -, h⟩ := bind_ok h
    dsimp only at h
    split at h
    · rename_i hvalid
      cases h
      exact ⟨_, hvalid⟩
    · cases h

omit [Conversions] [Externals] in
/-- What is merged from sections in bounds is in bounds. -/
theorem executionFor_bounds (hplatform : config.execution.InBounds)
    (hmarkets : ∀ market ∈ config.markets, ∀ overrides ∈ market.executionOverrides,
      overrides.InBounds) :
    (config.executionFor symbol).InBounds := by
  have hoverrides : ∀ o ∈ config.executionOverridesFor symbol, o.InBounds := by
    intro o ho
    obtain ⟨market, hmarket, ho⟩ := Option.bind_eq_some_iff.mp ho
    exact hmarkets market (List.mem_of_find?_eq_some hmarket) o ho
  have hmerged : (config.executionFor symbol).MergedFrom config.execution
      (config.executionOverridesFor symbol) := config.executionFor_merged
  refine ⟨?_, ?_, ?_⟩
  · rw [hmerged.maxSpreadPoints]
    exact fieldOf_least hplatform.maxSpreadPoints fun o ho => (hoverrides o ho).maxSpreadPoints
  · rw [hmerged.maxMarketDataAgeMs]
    exact fieldOf_least hplatform.maxMarketDataAgeMs
      fun o ho => (hoverrides o ho).maxMarketDataAgeMs
  · rw [hmerged.orderTimeoutMs]
    exact fieldOf_least hplatform.orderTimeoutMs fun o ho => (hoverrides o ho).orderTimeoutMs

/--
**A configuration that loads merges consistently.** For every symbol the execution section is in
bounds and is merged; the risk section is merged and in order where merging leaves the budgets in
order, and is refused as invalid where it doesn't.
-/
theorem loaded_limits_merge
    (h : loadConfig environment configDir allowLive liveOverride = .ok config) (symbol : String) :
    (config.executionFor symbol).InBounds
      ∧ (config.executionFor symbol).MergedFrom config.execution
          (config.executionOverridesFor symbol)
      ∧ (∀ risk, config.riskFor symbol = .ok risk →
          InOrder risk.maxRiskPerTrade risk.maxOpenRisk risk.maxDailyLoss risk.maxDrawdown
            ∧ risk.InBounds ∧ risk.MergedFrom config.risk (config.riskOverridesFor symbol))
      ∧ (∀ error, config.riskFor symbol = .error error → error.kind = .validation)
      ∧ ((∃ risk, config.riskFor symbol = .ok risk) ↔ config.BudgetsInOrder symbol) := by
  obtain ⟨value, hvalid⟩ := loadConfig_ok h
  obtain ⟨hrisk, hexecution, hmarkets⟩ := PlatformConfig.validate?_sections hvalid
  refine ⟨executionFor_bounds hexecution hmarkets, config.executionFor_merged, ?_, ?_, ?_⟩
  · intro risk hok
    obtain ⟨-, hmerged⟩ := PlatformConfig.riskFor_ok hok
    refine ⟨⟨Decimal.not_lt.mp risk.budgetOrdering.1, Decimal.not_lt.mp risk.budgetOrdering.2⟩,
      ?_, hmerged⟩
    unfold RiskConfig.InBounds
    rw [hmerged.approvedConfigVersion]
    exact hrisk
  · intro error herror
    exact (PlatformConfig.riskFor_error herror).1
  · constructor
    · rintro ⟨risk, hok⟩
      exact (PlatformConfig.riskFor_ok hok).1
    · intro horder
      cases houtcome : config.riskFor symbol with
      | ok risk => exact ⟨risk, rfl⟩
      | error error => exact absurd horder (PlatformConfig.riskFor_error houtcome).2

end

/-! ## A market out of order -/

namespace Sample

/-- Scalars as they are written, and fractions in hundredths. -/
instance scalars : Conversions where
  int?
    | .int n => some n
    | _ => none
  bool?
    | .bool b => some b
    | _ => none
  str?
    | .str s => some s
    | _ => none
  decimal?
    | .str "0.02" => some ⟨2, -2⟩
    | .str "0.03" => some ⟨3, -2⟩
    | .str "0.04" => some ⟨4, -2⟩
    | .str "0.05" => some ⟨5, -2⟩
    | .str "0.08" => some ⟨8, -2⟩
    | _ => none

def yamlMap (fields : List (String × Yaml)) : Yaml :=
  .map (fields.map fun field => (.str field.1, field.2))

/-- The one market, with what it says of the risk of a trade. -/
def baseFile (maxRiskPerTrade : String) : Yaml :=
  yamlMap [
    ("markets", .list [yamlMap [
      ("canonical_symbol", .str "EUR/USD"),
      ("enabled", .bool true),
      ("asset_class", .str "FX"),
      ("broker_symbol", .str "EURUSD"),
      ("risk_overrides", yamlMap [("max_risk_per_trade", .str maxRiskPerTrade)])]]),
    ("trading_agent", yamlMap [
      ("strategy_id", .str "ict_v1"), ("strategy_version", .str "1.0.0"),
      ("model_version", .null)]),
    ("supervisor", yamlMap [
      ("enabled", .bool true), ("veto_on_unknown_regime", .bool true),
      ("halt_on_reconciliation_mismatch", .bool true),
      ("policy_version", .str "supervisor-policy-v2"), ("max_intents_per_hour", .null)])]

def paperFile : Yaml :=
  yamlMap [
    ("risk", yamlMap [
      ("max_risk_per_trade", .str "0.02"), ("max_open_risk", .str "0.03"),
      ("max_daily_loss", .str "0.04"), ("max_drawdown", .str "0.08"),
      ("max_orders_per_hour", .int 6), ("max_open_positions", .int 10),
      ("min_stop_distance_points", .int 50)]),
    ("execution", yamlMap [
      ("max_spread_points", .int 25), ("max_market_data_age_ms", .int 2000),
      ("order_timeout_ms", .int 5000), ("max_slippage_points", .int 20)]),
    ("intraday", yamlMap [
      ("enabled", .bool true), ("last_entry_minutes_before_close", .int 15),
      ("flatten_minutes_before_close", .int 5)]),
    ("account_guard", yamlMap [
      ("expected_server", .str "PepperstoneUK-Demo"), ("expected_login", .null),
      ("require_demo_account", .bool true), ("expected_currency", .str "EUR"),
      ("expected_leverage", .int 30), ("broker_account_ref", .str "pepperstone-demo-eurusd")])]

/-- The two files of a paper run. -/
def configFiles (maxRiskPerTrade : String) : ConfigDir
  | "base.yaml" => some (.ok (baseFile maxRiskPerTrade))
  | "paper.yaml" => some (.ok paperFile)
  | _ => none

def loaded (maxRiskPerTrade : String) : Except PyError PlatformConfig :=
  @loadConfig externals _ .paper (configFiles maxRiskPerTrade) none none

/-- Whether a configuration loads, and what its market then comes to. -/
def marketLimits (maxRiskPerTrade : String) : Option (Except PyError Decimal) :=
  (loaded maxRiskPerTrade).toOption.map fun config =>
    (config.riskFor "EUR/USD").map (·.maxRiskPerTrade.val)

/-- A market's trade may risk as much as the portfolio, and no more. -/
theorem marketLimits_budget : marketLimits "0.03" = some (.ok ⟨3, -2⟩)
    ∧ marketLimits "0.05" = some (.error ⟨.validation,
      "max_risk_per_trade 0.05 exceeds max_open_risk 0.03: one trade cannot outweigh the portfolio"⟩)
    := by
  decide +kernel

/-- What comes to limits has loaded. -/
theorem loaded_of_marketLimits {maxRiskPerTrade : String} {outcome : Except PyError Decimal}
    (h : marketLimits maxRiskPerTrade = some outcome) :
    ∃ config, loaded maxRiskPerTrade = .ok config
      ∧ (config.riskFor "EUR/USD").map (·.maxRiskPerTrade.val) = outcome := by
  obtain ⟨config, hconfig, hlimits⟩ := Option.map_eq_some_iff.mp h
  refine ⟨config, ?_, hlimits⟩
  cases hloaded : loaded maxRiskPerTrade with
  | error error =>
      rw [hloaded] at hconfig
      cases hconfig
  | ok config' =>
      rw [hloaded] at hconfig
      cases hconfig
      rfl

end Sample

theorem loaded_limits_merge_sample : ∃ config, Sample.loaded "0.03" = .ok config
    ∧ (config.executionFor "EUR/USD").InBounds ∧ config.BudgetsInOrder "EUR/USD" := by
  obtain ⟨config, hload, hlimits⟩ := Sample.loaded_of_marketLimits Sample.marketLimits_budget.1
  obtain ⟨hbounds, -, -, -, hreturns⟩ := @loaded_limits_merge _ Sample.externals _ _ _ _ _ hload
    "EUR/USD"
  refine ⟨config, hload, hbounds, hreturns.mp ?_⟩
  cases hrisk : config.riskFor "EUR/USD" with
  | error error =>
      rw [hrisk] at hlimits
      cases hlimits
  | ok risk => exact ⟨risk, rfl⟩

/-- A configuration loads though a market of it has no risk limits. -/
theorem loads_out_of_order : ¬ ∀ (environment : Environment) (configDir : ConfigDir)
    (allowLive : Option Bool) (liveOverride : Option String) (config : PlatformConfig),
      @loadConfig Sample.externals Sample.scalars environment configDir allowLive liveOverride
        = .ok config →
      ∀ symbol, ∃ risk, config.riskFor symbol = .ok risk := by
  intro hall
  obtain ⟨config, hload, hlimits⟩ := Sample.loaded_of_marketLimits Sample.marketLimits_budget.2
  obtain ⟨risk, hrisk⟩ := hall _ _ _ _ config hload "EUR/USD"
  rw [hrisk] at hlimits
  cases hlimits

end Crumblr
