import Crumblr.Config
import Mathlib.Data.List.Infix

/-!
# Configuration files

A configuration is `base.yaml` overlaid with the environment's own file: mappings merge, and every
other value replaces. What looks like a credential is refused, and the rest is validated section by
section; a market's overrides are validated alone, before anything is merged with them.

How a YAML text is read, and how a scalar is converted to a field's type, are libraries'.
-/

namespace Crumblr

/-- The key of a mapping: a string, or anything else by its text. -/
inductive YamlKey where
  | str (s : String)
  | other (text : String)
  deriving DecidableEq

def YamlKey.text : YamlKey → String
  | .str s => s
  | .other text => text

/-- What a YAML text is read as. -/
inductive Yaml where
  | null
  | bool (b : Bool)
  | int (n : Int)
  | float (x : PyFloat)
  | str (s : String)
  /-- A date, an instant, bytes. -/
  | other (text : String)
  | list (items : List Yaml)
  | map (fields : List (YamlKey × Yaml))

/-- The conversions of scalars to the types of fields, as the validation library makes them. -/
class Conversions where
  int? : Yaml → Option Int
  bool? : Yaml → Option Bool
  /-- Stripped of white space. -/
  str? : Yaml → Option String
  decimal? : Yaml → Option Decimal

/-! ## Merging -/

namespace Yaml

/-- `fields.get(key)`. -/
def lookup (key : YamlKey) : List (YamlKey × Yaml) → Option Yaml
  | [] => none
  | (k, v) :: fields => if k = key then some v else lookup key fields

/-- `fields[key] = value`. -/
def assign (key : YamlKey) (value : Yaml) : List (YamlKey × Yaml) → List (YamlKey × Yaml)
  | [] => [(key, value)]
  | (k, v) :: fields => if k = key then (k, value) :: fields else (k, v) :: assign key value fields

mutual

/-- Mappings merge; every other value replaces. -/
def deepMerge (merged : List (YamlKey × Yaml)) : List (YamlKey × Yaml) → List (YamlKey × Yaml)
  | [] => merged
  | (key, overlayValue) :: overlay =>
      deepMerge (assign key (mergeValue (lookup key merged) overlayValue) merged) overlay

def mergeValue (baseValue : Option Yaml) : Yaml → Yaml
  | .map overlay =>
      match baseValue with
      | some (.map base) => .map (deepMerge base overlay)
      | _ => .map overlay
  | value => value

end

/-! ## Credentials -/

def secretKeyMarkers : List String :=
  ["password", "secret", "token", "api_key", "apikey", "credential"]

/-- Whether a key is named like a credential. -/
def isSecretKey (key : YamlKey) : Bool :=
  secretKeyMarkers.any fun marker => decide (marker.toList <:+: key.text.toLower.toList)

/-- Where a key is, in the mapping at a path. -/
def location (path : String) (key : YamlKey) : String :=
  if path = "" then key.text else s!"{path}.{key.text}"

mutual

/-- Refuse what looks like it carries a credential. -/
def assertNoSecrets (path : String) : Yaml → Except PyError Unit
  | .map fields => assertNoSecretFields path fields
  | .list items => assertNoSecretItems path 0 items
  | _ => .ok ()

def assertNoSecretFields (path : String) : List (YamlKey × Yaml) → Except PyError Unit
  | [] => .ok ()
  | (key, value) :: fields => do
      if isSecretKey key then
        .error ⟨.value, s!"configuration key '{location path key}' looks like a credential; "
          ++ "secrets belong in the secret store, never in config files"⟩
      else do
        assertNoSecrets (location path key) value
        assertNoSecretFields path fields

def assertNoSecretItems (path : String) (index : Nat) : List Yaml → Except PyError Unit
  | [] => .ok ()
  | item :: items => do
      assertNoSecrets s!"{path}[{index}]" item
      assertNoSecretItems path (index + 1) items

end

/-! ## Fields -/

/-- The fields of a section, all of which are declared. -/
def section? (declared : List String) : Yaml → Option (String → Option Yaml)
  | .map fields =>
      if fields.all fun field => decide (field.1 ∈ declared.map YamlKey.str) then
        some fun name => lookup (.str name) fields
      else none
  | _ => none

/-- A field that may be null, and may be left out. -/
def optional {α : Type} (convert : Yaml → Option α) : Option Yaml → Option (Option α)
  | none => some none
  | some .null => some none
  | some value => (convert value).map some

/-- A field that may be left out. -/
def orDefault {α : Type} (convert : Yaml → Option α) (fallback : α) : Option Yaml → Option α
  | none => some fallback
  | some value => convert value

section

variable [Conversions]

/-- An integer of at least so much. -/
def natFrom? (least : Nat) (value : Yaml) : Option Nat := do
  let n ← Conversions.int? value
  if (least : Int) ≤ n then some n.toNat else none

/-- A string of so many characters. -/
def textOf? (least most : Nat) (value : Yaml) : Option String := do
  let s ← Conversions.str? value
  if least ≤ s.length ∧ s.length ≤ most then some s else none

def symbol? : Yaml → Option String := textOf? 1 64

def versionTag? : Yaml → Option String := textOf? 1 128

/-- A fraction of equity; a binary float isn't exact, and is refused. -/
def riskFraction? : Yaml → Option RiskFraction
  | .float _ => none
  | value => do
      let d ← Conversions.decimal? value
      if h : 0 < d ∧ d ≤ 1 then some ⟨d, h⟩ else none

end

def environment? : Yaml → Option Environment
  | .str s => Environment.ofValue? s
  | _ => none

def assetClass? : Yaml → Option AssetClass
  | .str s => [AssetClass.fx, .crypto, .metal].find? fun c => c.value == s
  | _ => none

end Yaml

/-! ## Sections -/

/-- The whole of the section about the supervisor. -/
structure SupervisorSection where
  enabled : Bool
  vetoOnUnknownRegime : Bool
  haltOnReconciliationMismatch : Bool
  policyVersion : String
  maxIntentsPerHour : Option Nat

section

variable [Conversions]

open Yaml

def RiskConfig.validate? (value : Yaml) : Option RiskConfig := do
  let field ← value.section? ["max_risk_per_trade", "max_open_risk", "max_daily_loss",
    "max_drawdown", "max_orders_per_hour", "max_open_positions", "min_stop_distance_points",
    "approved_config_version"]
  let maxRiskPerTrade ← riskFraction? (← field "max_risk_per_trade")
  let maxOpenRisk ← riskFraction? (← field "max_open_risk")
  let maxDailyLoss ← riskFraction? (← field "max_daily_loss")
  let maxDrawdown ← riskFraction? (← field "max_drawdown")
  let maxOrdersPerHour ← natFrom? 0 (← field "max_orders_per_hour")
  let maxOpenPositions ← natFrom? 0 (← field "max_open_positions")
  let minStopDistancePoints ← natFrom? 0 (← field "min_stop_distance_points")
  let approvedConfigVersion ← optional (textOf? 1 128) (field "approved_config_version")
  if h : ¬ maxOpenRisk.val < maxRiskPerTrade.val ∧ ¬ maxDrawdown.val < maxDailyLoss.val then
    some { maxRiskPerTrade, maxOpenRisk, maxDailyLoss, maxDrawdown, maxOrdersPerHour,
           maxOpenPositions, minStopDistancePoints, approvedConfigVersion, budgetOrdering := h }
  else none

/-- No ordering is checked here: a partial override has none. -/
def RiskOverrides.validate? (value : Yaml) : Option RiskOverrides := do
  let field ← value.section? ["max_risk_per_trade", "max_open_risk", "max_daily_loss",
    "max_drawdown", "max_orders_per_hour", "max_open_positions", "min_stop_distance_points"]
  let maxRiskPerTrade ← optional riskFraction? (field "max_risk_per_trade")
  let maxOpenRisk ← optional riskFraction? (field "max_open_risk")
  let maxDailyLoss ← optional riskFraction? (field "max_daily_loss")
  let maxDrawdown ← optional riskFraction? (field "max_drawdown")
  let maxOrdersPerHour ← optional (natFrom? 0) (field "max_orders_per_hour")
  let maxOpenPositions ← optional (natFrom? 0) (field "max_open_positions")
  let minStopDistancePoints ← optional (natFrom? 0) (field "min_stop_distance_points")
  some { maxRiskPerTrade, maxOpenRisk, maxDailyLoss, maxDrawdown, maxOrdersPerHour,
         maxOpenPositions, minStopDistancePoints }

def ExecutionConfig.validate? (value : Yaml) : Option ExecutionConfig := do
  let field ← value.section? ["max_spread_points", "max_market_data_age_ms", "order_timeout_ms",
    "max_slippage_points", "submission_enabled", "feedback_2_0_approved",
    "flatten_submission_enabled", "approved_canary_account_ref"]
  let maxSpreadPoints ← natFrom? 1 (← field "max_spread_points")
  let maxMarketDataAgeMs ← natFrom? 1 (← field "max_market_data_age_ms")
  let orderTimeoutMs ← natFrom? 1 (← field "order_timeout_ms")
  let maxSlippagePoints ← natFrom? 0 (← field "max_slippage_points")
  let submissionEnabled ← orDefault Conversions.bool? false (field "submission_enabled")
  let feedback20Approved ← orDefault Conversions.bool? false (field "feedback_2_0_approved")
  let flattenSubmissionEnabled ←
    orDefault Conversions.bool? false (field "flatten_submission_enabled")
  let approvedCanaryAccountRef ←
    optional Conversions.str? (field "approved_canary_account_ref")
  some { maxSpreadPoints, maxMarketDataAgeMs, orderTimeoutMs, maxSlippagePoints, submissionEnabled,
         feedback20Approved, flattenSubmissionEnabled, approvedCanaryAccountRef }

def ExecutionOverrides.validate? (value : Yaml) : Option ExecutionOverrides := do
  let field ← value.section? ["max_spread_points", "max_market_data_age_ms", "order_timeout_ms",
    "max_slippage_points"]
  let maxSpreadPoints ← optional (natFrom? 1) (field "max_spread_points")
  let maxMarketDataAgeMs ← optional (natFrom? 1) (field "max_market_data_age_ms")
  let orderTimeoutMs ← optional (natFrom? 1) (field "order_timeout_ms")
  let maxSlippagePoints ← optional (natFrom? 0) (field "max_slippage_points")
  some { maxSpreadPoints, maxMarketDataAgeMs, orderTimeoutMs, maxSlippagePoints }

def MarketConfig.validate? (value : Yaml) : Option MarketConfig := do
  let field ← value.section? ["canonical_symbol", "enabled", "asset_class", "broker_symbol",
    "expected_spec_version", "session_policy_approved", "risk_overrides", "execution_overrides"]
  let canonicalSymbol ← symbol? (← field "canonical_symbol")
  let enabled ← Conversions.bool? (← field "enabled")
  let assetClass ← assetClass? (← field "asset_class")
  let brokerSymbol ← textOf? 1 32 (← field "broker_symbol")
  let expectedSpecVersion ← optional (textOf? 1 128) (field "expected_spec_version")
  let sessionPolicyApproved ← orDefault Conversions.bool? false (field "session_policy_approved")
  let riskOverrides ← optional RiskOverrides.validate? (field "risk_overrides")
  let executionOverrides ← optional ExecutionOverrides.validate? (field "execution_overrides")
  some { canonicalSymbol, enabled, assetClass, brokerSymbol, expectedSpecVersion,
         sessionPolicyApproved, riskOverrides, executionOverrides }

def TradingAgentConfig.validate? (value : Yaml) : Option TradingAgentConfig := do
  let field ← value.section? ["strategy_id", "strategy_version", "model_version"]
  let strategyId ← versionTag? (← field "strategy_id")
  let strategyVersion ← versionTag? (← field "strategy_version")
  let modelVersion ← optional versionTag? (field "model_version")
  some { strategyId, strategyVersion, modelVersion }

/-- The threshold may be null, but not left out. -/
def SupervisorSection.validate? (value : Yaml) : Option SupervisorSection := do
  let field ← value.section? ["enabled", "veto_on_unknown_regime",
    "halt_on_reconciliation_mismatch", "policy_version", "max_intents_per_hour"]
  let enabled ← Conversions.bool? (← field "enabled")
  let vetoOnUnknownRegime ← Conversions.bool? (← field "veto_on_unknown_regime")
  let haltOnReconciliationMismatch ← Conversions.bool? (← field "halt_on_reconciliation_mismatch")
  let policyVersion ← versionTag? (← field "policy_version")
  let maxIntentsPerHour ← optional (natFrom? 1) (some (← field "max_intents_per_hour"))
  some { enabled, vetoOnUnknownRegime, haltOnReconciliationMismatch, policyVersion,
         maxIntentsPerHour }

def IntradayConfig.validate? (value : Yaml) : Option IntradayConfig := do
  let field ← value.section? ["enabled", "last_entry_minutes_before_close",
    "flatten_minutes_before_close"]
  let enabled ← Conversions.bool? (← field "enabled")
  let lastEntryMinutesBeforeClose ← natFrom? 0 (← field "last_entry_minutes_before_close")
  let flattenMinutesBeforeClose ← natFrom? 0 (← field "flatten_minutes_before_close")
  if h : flattenMinutesBeforeClose ≤ lastEntryMinutesBeforeClose then
    some { enabled, lastEntryMinutesBeforeClose, flattenMinutesBeforeClose, deadlineOrdering := h }
  else none

/-- The guard, and the account's label, which nothing checks. -/
def AccountGuardConfig.validate? (value : Yaml) : Option (AccountGuardConfig × Option String) := do
  let field ← value.section? ["expected_server", "expected_login", "require_demo_account",
    "expected_currency", "expected_leverage", "broker_account_ref"]
  let expectedServer ← textOf? 1 128 (← field "expected_server")
  let expectedLogin ← optional Conversions.int? (field "expected_login")
  let requireDemoAccount ← Conversions.bool? (← field "require_demo_account")
  let expectedCurrency ← optional (textOf? 3 8) (field "expected_currency")
  let expectedLeverage ← optional (natFrom? 1) (field "expected_leverage")
  let brokerAccountRef ← optional (textOf? 1 128) (field "broker_account_ref")
  some ({ expectedServer, expectedLogin, requireDemoAccount, expectedCurrency, expectedLeverage },
    brokerAccountRef)

def markets? : Yaml → Option (List MarketConfig)
  | .list items => items.mapM MarketConfig.validate?
  | _ => none

end

/-! ## The digest -/

namespace Json

def nat (n : Nat) : Json := .int n

def fraction (f : RiskFraction) : Json := .decimal f.val

end Json

def RiskOverrides.modelDump (o : RiskOverrides) : Json :=
  .obj [
    ("max_risk_per_trade", .opt .fraction o.maxRiskPerTrade),
    ("max_open_risk", .opt .fraction o.maxOpenRisk),
    ("max_daily_loss", .opt .fraction o.maxDailyLoss),
    ("max_drawdown", .opt .fraction o.maxDrawdown),
    ("max_orders_per_hour", .opt .nat o.maxOrdersPerHour),
    ("max_open_positions", .opt .nat o.maxOpenPositions),
    ("min_stop_distance_points", .opt .nat o.minStopDistancePoints)]

def ExecutionOverrides.modelDump (o : ExecutionOverrides) : Json :=
  .obj [
    ("max_spread_points", .opt .nat o.maxSpreadPoints),
    ("max_market_data_age_ms", .opt .nat o.maxMarketDataAgeMs),
    ("order_timeout_ms", .opt .nat o.orderTimeoutMs),
    ("max_slippage_points", .opt .nat o.maxSlippagePoints)]

def MarketConfig.modelDump (market : MarketConfig) : Json :=
  .obj [
    ("canonical_symbol", .str market.canonicalSymbol),
    ("enabled", .bool market.enabled),
    ("asset_class", .str market.assetClass.value),
    ("broker_symbol", .str market.brokerSymbol),
    ("expected_spec_version", .opt .str market.expectedSpecVersion),
    ("session_policy_approved", .bool market.sessionPolicyApproved),
    ("risk_overrides", .opt RiskOverrides.modelDump market.riskOverrides),
    ("execution_overrides", .opt ExecutionOverrides.modelDump market.executionOverrides)]

section

variable (environment : Environment) (markets : List MarketConfig) (risk : RiskConfig)
  (execution : ExecutionConfig) (tradingAgent : TradingAgentConfig) (supervisor : SupervisorSection)
  (accountGuard : AccountGuardConfig) (brokerAccountRef : Option String)
  (intraday : IntradayConfig) (liveTradingAcknowledged : Bool)

/-- The digest of everything but the approvals, which aren't what they approve. -/
def configVersionOf [Externals] : String :=
  digestOf (.obj [
    ("environment", .str environment.value),
    ("markets", .list (markets.map MarketConfig.modelDump)),
    ("risk", .obj [
      ("max_risk_per_trade", .fraction risk.maxRiskPerTrade),
      ("max_open_risk", .fraction risk.maxOpenRisk),
      ("max_daily_loss", .fraction risk.maxDailyLoss),
      ("max_drawdown", .fraction risk.maxDrawdown),
      ("max_orders_per_hour", .nat risk.maxOrdersPerHour),
      ("max_open_positions", .nat risk.maxOpenPositions),
      ("min_stop_distance_points", .nat risk.minStopDistancePoints)]),
    ("execution", .obj [
      ("max_spread_points", .nat execution.maxSpreadPoints),
      ("max_market_data_age_ms", .nat execution.maxMarketDataAgeMs),
      ("order_timeout_ms", .nat execution.orderTimeoutMs),
      ("max_slippage_points", .nat execution.maxSlippagePoints)]),
    ("trading_agent", .obj [
      ("strategy_id", .str tradingAgent.strategyId),
      ("strategy_version", .str tradingAgent.strategyVersion),
      ("model_version", .opt .str tradingAgent.modelVersion)]),
    ("supervisor", .obj [
      ("enabled", .bool supervisor.enabled),
      ("veto_on_unknown_regime", .bool supervisor.vetoOnUnknownRegime),
      ("halt_on_reconciliation_mismatch", .bool supervisor.haltOnReconciliationMismatch),
      ("policy_version", .str supervisor.policyVersion),
      ("max_intents_per_hour", .opt .nat supervisor.maxIntentsPerHour)]),
    ("account_guard", .obj [
      ("expected_server", .str accountGuard.expectedServer),
      ("expected_login", .opt .int accountGuard.expectedLogin),
      ("require_demo_account", .bool accountGuard.requireDemoAccount),
      ("expected_currency", .opt .str accountGuard.expectedCurrency),
      ("expected_leverage", .opt .nat accountGuard.expectedLeverage),
      ("broker_account_ref", .opt .str brokerAccountRef)]),
    ("intraday", .obj [
      ("enabled", .bool intraday.enabled),
      ("last_entry_minutes_before_close", .nat intraday.lastEntryMinutesBeforeClose),
      ("flatten_minutes_before_close", .nat intraday.flattenMinutesBeforeClose)]),
    ("live_trading_acknowledged", .bool liveTradingAcknowledged)])

end

/-! ## Loading -/

section

variable [Externals] [Conversions]

open Yaml

def PlatformConfig.validate? (value : Yaml) : Option PlatformConfig := do
  let field ← value.section? ["environment", "markets", "risk", "execution", "trading_agent",
    "supervisor", "account_guard", "intraday", "live_trading_acknowledged"]
  let environment ← environment? (← field "environment")
  let markets ← markets? (← field "markets")
  let risk ← RiskConfig.validate? (← field "risk")
  let execution ← ExecutionConfig.validate? (← field "execution")
  let tradingAgent ← TradingAgentConfig.validate? (← field "trading_agent")
  let supervisor ← SupervisorSection.validate? (← field "supervisor")
  let (accountGuard, brokerAccountRef) ← AccountGuardConfig.validate? (← field "account_guard")
  let intraday ← IntradayConfig.validate? (← field "intraday")
  let liveTradingAcknowledged ←
    orDefault Conversions.bool? false (field "live_trading_acknowledged")
  if hmarkets : markets ≠ [] ∧ (markets.map (·.canonicalSymbol)).Nodup then
    if hdemo : environment ∈ demoOnlyEnvironments → accountGuard.requireDemoAccount then
      if environment = .live ∧ liveTradingAcknowledged = false then none
      else
        some {
          environment, markets, risk, execution, tradingAgent, accountGuard, intraday,
          liveTradingAcknowledged
          configVersion := configVersionOf environment markets risk execution tradingAgent
            supervisor accountGuard brokerAccountRef intraday liveTradingAcknowledged
          marketsDistinct := hmarkets
          demoGuard := hdemo }
    else none
  else none

/-- What each file of the directory is read as, if there is one. -/
abbrev ConfigDir := String → Option (Except PyError Yaml)

/-- The mapping in a file. -/
def readYaml (configDir : ConfigDir) (name : String) : Except PyError (List (YamlKey × Yaml)) :=
  match configDir name with
  | none => .error ⟨.os, s!"configuration file not found: {name}"⟩
  | some loaded => do
      match ← loaded with
      | .null => .ok []
      | .map fields => .ok fields
      | _ => .error ⟨.value, s!"{name} must contain a YAML mapping at the top level"⟩

/-- What the base and the environment's overlay come to. -/
def loadConfig (environment : Environment) (configDir : ConfigDir) (allowLive : Option Bool)
    (liveOverride : Option String) : Except PyError PlatformConfig := do
  if environment = .live ∧ allowLive.getD (liveOverride == some "1") = false then
    .error ⟨.os, "refusing to load a live configuration without CRUMBLR_ALLOW_LIVE=1"⟩
  else do
    let base ← readYaml configDir "base.yaml"
    let overlay ← readYaml configDir s!"{environment.value}.yaml"
    let merged := deepMerge base overlay
    assertNoSecrets "" (.map merged)
    let merged := assign (.str "environment") (.str environment.value) merged
    match PlatformConfig.validate? (.map merged) with
    | some config => .ok config
    | none => .error ⟨.validation, "validation errors for PlatformConfig"⟩

end

end Crumblr
