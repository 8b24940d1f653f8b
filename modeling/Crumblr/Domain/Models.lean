import Crumblr.Domain.Enums
import Crumblr.Domain.Values

/-!
# The contracts

The typed boundaries of the platform. A contract validates itself when it is
built, so each structure here carries its own validity: a value that the source
would refuse to construct cannot be written down. The `create` functions are the
constructors that run on data of unknown validity, and raise.

`dump` is a contract's JSON form, with its computed fields.
-/

namespace Crumblr

/-- A tradeable price. -/
abbrev Price := { d : Decimal // 0 < d }

/-- A lot size. -/
abbrev Volume := { d : Decimal // 0 < d }

/-- A fraction of account equity placed at risk. -/
abbrev RiskFraction := { d : Decimal // 0 < d ∧ d ≤ 1 }

/-! ## Market data -/

/-- A broker's specification of a symbol. -/
structure InstrumentSpec where
  canonicalSymbol : String
  brokerSymbol : String
  currencyBase : String
  currencyProfit : String
  contractSize : { d : Decimal // 0 < d }
  digits : Nat
  point : { d : Decimal // 0 < d }
  tickSize : { d : Decimal // 0 < d }
  tickValue : { d : Decimal // 0 < d }
  volumeMin : Volume
  volumeMax : Volume
  volumeStep : Volume
  stopsLevel : Nat
  freezeLevel : Nat
  fillingModes : List String
  tradeMode : String
  capturedAtUtc : UtcDatetime
  volumeBounds : ¬ volumeMax.val < volumeMin.val ∧ ¬ volumeMax.val < volumeStep.val

/-- The digest of the fields a broker's policy fixes; the live tick value is not one. -/
def InstrumentSpec.specVersion [Externals] (s : InstrumentSpec) : String :=
  digestOf (.obj [
    ("broker_symbol", .str s.brokerSymbol),
    ("currency_base", .str s.currencyBase),
    ("currency_profit", .str s.currencyProfit),
    ("contract_size", .decimal s.contractSize.val.normalize),
    ("digits", .int s.digits),
    ("point", .decimal s.point.val.normalize),
    ("tick_size", .decimal s.tickSize.val.normalize),
    ("volume_min", .decimal s.volumeMin.val.normalize),
    ("volume_max", .decimal s.volumeMax.val.normalize),
    ("volume_step", .decimal s.volumeStep.val.normalize),
    ("stops_level", .int s.stopsLevel),
    ("freeze_level", .int s.freezeLevel),
    ("filling_modes", .list ((s.fillingModes.mergeSort (fun a b => decide (a ≤ b))).map .str)),
    ("trade_mode", .str s.tradeMode)])

/-- One quote as a source delivered it; a crossed one is kept as it came. -/
structure MarketTick where
  tickId : Uuid
  source : String
  canonicalSymbol : String
  brokerSymbol : String
  eventTimeUtc : UtcDatetime
  receivedTimeUtc : UtcDatetime
  bid : Price
  ask : Price
  dataQuality : DataQuality
  anomalies : List StreamAnomaly

/-- The normalised view of a market that a risk check sees. -/
structure MarketSnapshot where
  snapshotId : Uuid
  symbol : String
  eventTimeUtc : UtcDatetime
  receivedTimeUtc : UtcDatetime
  bid : Price
  ask : Price
  spreadPoints : Int
  timeframe : String
  sessionState : SessionState
  symbolSpecVersion : String
  dataQuality : DataQuality
  spreadNonneg : 0 ≤ spreadPoints
  uncrossed : ¬ ask.val < bid.val

/-- Build a snapshot from a quote, refusing a crossed one. -/
def MarketSnapshot.create (snapshotId : Uuid) (symbol : String)
    (eventTimeUtc receivedTimeUtc : UtcDatetime) (bid ask : Price) (spreadPoints : Int)
    (timeframe : String) (sessionState : SessionState) (symbolSpecVersion : String)
    (dataQuality : DataQuality) : Except PyError MarketSnapshot :=
  if spreadNonneg : 0 ≤ spreadPoints then
    if uncrossed : ¬ ask.val < bid.val then
      .ok { snapshotId, symbol, eventTimeUtc, receivedTimeUtc, bid, ask, spreadPoints, timeframe,
            sessionState, symbolSpecVersion, dataQuality, spreadNonneg, uncrossed }
    else .error ⟨.validation, s!"crossed quote: ask {ask.val.text} below bid {bid.val.text}"⟩
  else .error ⟨.validation, "spread_points: Input should be greater than or equal to 0"⟩

/-! ## Decisions -/

/-- What a trading agent proposes: a direction, its prices and a risk fraction. -/
structure TradeIntent where
  intentId : Uuid
  strategyId : String
  strategyVersion : String
  modelVersion : Option String
  symbol : String
  side : Side
  createdAtUtc : UtcDatetime
  expiresAtUtc : UtcDatetime
  entryType : EntryType
  referencePrice : Price
  stopLossPrice : Option Price
  takeProfitPrice : Option Price
  confidence : PyFloat
  reasonCodes : List String
  requestedRiskFraction : Option RiskFraction
  featureSnapshotId : Uuid
  lifetime : createdAtUtc < expiresAtUtc
  directional : side ≠ .flat →
    stopLossPrice.isSome ∧ requestedRiskFraction.isSome ∧ reasonCodes ≠ []
  flat : side = .flat →
    stopLossPrice = none ∧ takeProfitPrice = none ∧ requestedRiskFraction = none
  buyStops : side = .buy →
    (∀ s ∈ stopLossPrice, s.val < referencePrice.val)
      ∧ (∀ t ∈ takeProfitPrice, referencePrice.val < t.val)
  sellStops : side = .sell →
    (∀ s ∈ stopLossPrice, referencePrice.val < s.val)
      ∧ (∀ t ∈ takeProfitPrice, t.val < referencePrice.val)

/-- The digest of the decision, whoever generated it. -/
def TradeIntent.decisionHash [Externals] (i : TradeIntent) : String :=
  digestOf (.obj [
    ("strategy_id", .str i.strategyId),
    ("strategy_version", .str i.strategyVersion),
    ("model_version", .opt .str i.modelVersion),
    ("symbol", .str i.symbol),
    ("side", .str i.side.value),
    ("created_at_utc", .time i.createdAtUtc),
    ("expires_at_utc", .time i.expiresAtUtc),
    ("entry_type", .str i.entryType.value),
    ("reference_price", .decimal i.referencePrice.val.normalize),
    ("stop_loss_price", .opt (fun p => .decimal p.val.normalize) i.stopLossPrice),
    ("take_profit_price", .opt (fun p => .decimal p.val.normalize) i.takeProfitPrice),
    ("confidence", .str i.confidence.repr),
    ("reason_codes", .list (i.reasonCodes.map .str)),
    ("requested_risk_fraction", .opt (fun f => .decimal f.val.normalize) i.requestedRiskFraction),
    ("feature_snapshot_id", .uuid i.featureSnapshotId)])

def TradeIntent.isExpired (i : TradeIntent) (at_ : UtcDatetime) : Bool := i.expiresAtUtc ≤ at_

/-- The risk engine's verdict; only a PASS names a volume. -/
structure RiskDecision where
  decisionId : Uuid
  intentId : Uuid
  verdict : RiskVerdict
  reasonCodes : List ReasonCode
  decidedAtUtc : UtcDatetime
  riskConfigVersion : String
  approvedVolume : Option Volume
  accountEquity : Option Decimal
  stopDistancePoints : Option Int
  riskAmount : Option Decimal
  stopDistancePositive : ∀ n ∈ stopDistancePoints, 0 < n
  pass : verdict = .pass → approvedVolume.isSome ∧ stopDistancePoints.isSome
  refusal : verdict ≠ .pass → approvedVolume = none ∧ reasonCodes ≠ []

/-- A PASS, as the contract admits it: the stop must be at least one point away. -/
def RiskDecision.createPass (decisionId intentId : Uuid) (decidedAtUtc : UtcDatetime)
    (riskConfigVersion : String) (approvedVolume : Decimal) (accountEquity : Decimal)
    (stopDistancePoints : Int) (riskAmount : Decimal) : Except PyError RiskDecision :=
  if h : 0 < approvedVolume ∧ 0 < stopDistancePoints then
    .ok { decisionId, intentId, verdict := .pass, reasonCodes := [], decidedAtUtc,
          riskConfigVersion, approvedVolume := some ⟨approvedVolume, h.1⟩,
          accountEquity := some accountEquity, stopDistancePoints := some stopDistancePoints,
          riskAmount := some riskAmount,
          stopDistancePositive := by intro n hn; cases hn; exact h.2
          pass := by simp
          refusal := by simp }
  else .error ⟨.validation, "Input should be greater than 0"⟩

/-- A refusal, as the contract admits it: it must say why. -/
def RiskDecision.createRefusal (decisionId intentId : Uuid) (verdict : RiskVerdict)
    (reasonCodes : List ReasonCode) (decidedAtUtc : UtcDatetime) (riskConfigVersion : String) :
    Except PyError RiskDecision :=
  if h : verdict ≠ .pass ∧ reasonCodes ≠ [] then
    .ok { decisionId, intentId, verdict, reasonCodes, decidedAtUtc, riskConfigVersion,
          approvedVolume := none, accountEquity := none, stopDistancePoints := none,
          riskAmount := none,
          stopDistancePositive := by simp
          pass := fun hv => absurd hv h.1
          refusal := fun _ => ⟨rfl, h.2⟩ }
  else .error ⟨.validation, s!"a {verdict.value} risk decision must carry reason codes"⟩

def RiskDecision.dump (d : RiskDecision) : Json :=
  .obj [
    ("decision_id", .uuid d.decisionId),
    ("intent_id", .uuid d.intentId),
    ("verdict", .str d.verdict.value),
    ("reason_codes", .list (d.reasonCodes.map fun c => .str c.value)),
    ("decided_at_utc", .time d.decidedAtUtc),
    ("risk_config_version", .str d.riskConfigVersion),
    ("approved_volume", .opt (fun v => .decimal v.val) d.approvedVolume),
    ("account_equity", .opt .decimal d.accountEquity),
    ("stop_distance_points", .opt .int d.stopDistancePoints),
    ("risk_amount", .opt .decimal d.riskAmount)]

/-- The supervisor's verdict. -/
structure SupervisorDecision where
  decisionId : Uuid
  intentId : Uuid
  verdict : SupervisorVerdict
  reasonCodes : List ReasonCode
  decidedAtUtc : UtcDatetime
  policyVersion : String
  statisticalMonitorVersion : Option String
  observedRegime : Regime
  notes : Option String
  uncalibratedChecks : List String
  reasons : verdict ≠ .approve → reasonCodes ≠ []

theorem SupervisorDecision.refusal_reasons {verdict : SupervisorVerdict} (reason : ReasonCode) :
    verdict ≠ .approve → [reason] ≠ [] := fun _ => List.cons_ne_nil _ _

theorem SupervisorDecision.approval_reasons :
    SupervisorVerdict.approve ≠ .approve → ([] : List ReasonCode) ≠ [] := fun h => absurd rfl h

def SupervisorDecision.dump (d : SupervisorDecision) : Json :=
  .obj [
    ("decision_id", .uuid d.decisionId),
    ("intent_id", .uuid d.intentId),
    ("verdict", .str d.verdict.value),
    ("reason_codes", .list (d.reasonCodes.map fun c => .str c.value)),
    ("decided_at_utc", .time d.decidedAtUtc),
    ("policy_version", .str d.policyVersion),
    ("statistical_monitor_version", .opt .str d.statisticalMonitorVersion),
    ("observed_regime", .str d.observedRegime.value),
    ("notes", .opt .str d.notes),
    ("uncalibrated_checks", .list (d.uncalibratedChecks.map .str))]

/-- The immutable record of one decision window. -/
structure DecisionCapsule where
  capsuleId : Uuid
  occurredAtUtc : UtcDatetime
  canonicalSymbol : String
  brokerSymbol : String
  marketSnapshotId : Uuid
  featureSetVersion : String
  featureValuesHash : String
  strategyVersion : String
  modelVersion : Option String
  tradeIntent : Option TradeIntent
  riskConfigVersion : String
  riskDecision : Option RiskDecision
  supervisorDecision : Option SupervisorDecision
  codeCommit : String
  environment : Environment

/-- Proof of what produced the decision. -/
def DecisionCapsule.provenanceFingerprint [Externals] (c : DecisionCapsule) : String :=
  digestOf (.obj [
    ("market_snapshot_id", .uuid c.marketSnapshotId),
    ("feature_set_version", .str c.featureSetVersion),
    ("feature_values_hash", .str c.featureValuesHash),
    ("strategy_version", .str c.strategyVersion),
    ("model_version", .opt .str c.modelVersion),
    ("risk_config_version", .str c.riskConfigVersion),
    ("code_commit", .str c.codeCommit),
    ("environment", .str c.environment.value),
    ("decision_hash", .opt (fun i => .str i.decisionHash) c.tradeIntent)])

/-! ## Execution -/

/-- The only thing the execution engine acts on. -/
structure ApprovedOrder where
  orderRequestId : Uuid
  intentId : Uuid
  intentRiskDecisionId : Uuid
  finalRiskDecisionId : Option Uuid
  supervisorDecisionId : Uuid
  brokerSymbol : String
  side : Side
  entryType : EntryType
  volume : Volume
  price : Option Price
  stopLossPrice : Price
  takeProfitPrice : Option Price
  maxSlippagePoints : Nat
  createdAtUtc : UtcDatetime
  expiresAtUtc : UtcDatetime
  environment : Environment
  directional : side ≠ .flat
  priced : entryType ≠ .market → price.isSome
  lifetime : createdAtUtc < expiresAtUtc

/-- Build an order, refusing one that is not directional, not priced or already expired. -/
def ApprovedOrder.create (orderRequestId intentId intentRiskDecisionId : Uuid)
    (finalRiskDecisionId : Option Uuid) (supervisorDecisionId : Uuid) (brokerSymbol : String)
    (side : Side) (entryType : EntryType) (volume : Volume) (price : Option Price)
    (stopLossPrice : Price) (takeProfitPrice : Option Price) (maxSlippagePoints : Nat)
    (createdAtUtc expiresAtUtc : UtcDatetime) (environment : Environment) :
    Except PyError ApprovedOrder :=
  if directional : side ≠ .flat then
    if priced : entryType ≠ .market → price.isSome then
      if lifetime : createdAtUtc < expiresAtUtc then
        .ok { orderRequestId, intentId, intentRiskDecisionId, finalRiskDecisionId,
              supervisorDecisionId, brokerSymbol, side, entryType, volume, price, stopLossPrice,
              takeProfitPrice, maxSlippagePoints, createdAtUtc, expiresAtUtc, environment,
              directional, priced, lifetime }
      else .error ⟨.validation, "expires_at_utc must be after created_at_utc"⟩
    else .error ⟨.validation, s!"{entryType.value} order requires an explicit price"⟩
  else .error ⟨.validation,
    "an approved order must be directional; FLAT is a close instruction"⟩

def ApprovedOrder.dump [Externals] (o : ApprovedOrder) : Json :=
  .obj [
    ("order_request_id", .uuid o.orderRequestId),
    ("intent_id", .uuid o.intentId),
    ("intent_risk_decision_id", .uuid o.intentRiskDecisionId),
    ("final_risk_decision_id", .opt .uuid o.finalRiskDecisionId),
    ("supervisor_decision_id", .uuid o.supervisorDecisionId),
    ("broker_symbol", .str o.brokerSymbol),
    ("side", .str o.side.value),
    ("entry_type", .str o.entryType.value),
    ("volume", .decimal o.volume.val),
    ("price", .opt (fun p => .decimal p.val) o.price),
    ("stop_loss_price", .decimal o.stopLossPrice.val),
    ("take_profit_price", .opt (fun p => .decimal p.val) o.takeProfitPrice),
    ("max_slippage_points", .int o.maxSlippagePoints),
    ("created_at_utc", .time o.createdAtUtc),
    ("expires_at_utc", .time o.expiresAtUtc),
    ("environment", .str o.environment.value),
    ("magic_number", .int (mt5MagicNumber o.orderRequestId))]

/-- The broker's answer to an `order_check`. -/
structure OrderCheckCompleted where
  orderRequestId : Uuid
  intentId : Uuid
  accepted : Bool
  retcode : Option Int
  comment : Option String
  marginRequired : Option { d : Decimal // 0 ≤ d }
  payload : Option Json

def OrderCheckCompleted.dump (c : OrderCheckCompleted) : Json :=
  .obj [
    ("order_request_id", .uuid c.orderRequestId),
    ("intent_id", .uuid c.intentId),
    ("accepted", .bool c.accepted),
    ("retcode", .opt .int c.retcode),
    ("comment", .opt .str c.comment),
    ("margin_required", .opt (fun d => .decimal d.val) c.marginRequired),
    ("payload", .opt id c.payload)]

/-- What the broker said of an order or of a close. -/
structure ExecutionResult where
  executionId : Uuid
  orderRequestId : Uuid
  intentId : Option Uuid
  state : OrderState
  mt5OrderTicket : Option Int
  mt5DealTicket : Option Int
  retcode : Option Int
  retcodeComment : Option String
  requestedPrice : Option Price
  executedPrice : Option Price
  requestedVolume : Option Volume
  executedVolume : Option { d : Decimal // 0 ≤ d }

/-! ## Broker state -/

/-- The account, as one live read saw it. -/
structure AccountState where
  login : Int
  server : String
  currency : String
  isDemo : Bool
  tradeAllowed : Bool
  expertAllowed : Bool
  connected : Bool
  balance : Decimal
  equity : Decimal
  margin : { d : Decimal // 0 ≤ d }
  marginFree : Decimal
  marginLevel : Option Decimal
  leverage : Nat
  observedAtUtc : UtcDatetime

/-- The account's identity in records: a digest prefix, never the login. -/
def accountRef [Externals] (login : Int) (server : String) : String :=
  ((digestOf (.obj [("login", .int login), ("server", .str server)])).take 16).toString

def AccountState.loginHash [Externals] (a : AccountState) : String := accountRef a.login a.server

/-- Account fields that `AccountState` does not carry. -/
structure AccountExtras where
  profit : Decimal
  marginMode : Option String

/-- An open position, as the broker reports it. -/
structure PositionState where
  ticket : Int
  brokerSymbol : String
  side : Side
  volume : Volume
  openPrice : Price
  currentPrice : Option Price
  stopLossPrice : Option Price
  takeProfitPrice : Option Price
  openedAtUtc : UtcDatetime
  profit : Decimal
  swap : Decimal
  magic : Option Int
  observedAtUtc : UtcDatetime
  directional : side ≠ .flat

/-- A resting order, as the broker reports it. -/
structure PendingOrderState where
  orderId : Int
  brokerSymbol : String
  orderType : String
  state : String
  volume : Volume
  price : Price
  stopLossPrice : Option Price
  takeProfitPrice : Option Price
  expiresAtUtc : Option UtcDatetime
  magic : Option Int
  observedAtUtc : UtcDatetime

/-- The durable form of one account observation. -/
structure BrokerAccountSnapshot where
  snapshotId : Uuid
  observedAtUtc : UtcDatetime
  recordedAtUtc : UtcDatetime
  environment : Environment
  server : String
  accountRef : String
  currency : String
  leverage : Nat
  marginMode : Option String
  balance : Decimal
  equity : Decimal
  profit : Decimal
  margin : { d : Decimal // 0 ≤ d }
  marginFree : Decimal
  marginLevel : Option Decimal
  accountTradeAllowed : Bool
  terminalTradeAllowed : Option Bool
  positionSetState : SnapshotCompleteness
  pendingOrderSetState : SnapshotCompleteness
  deriving DecidableEq

/-- One open position of a snapshot. -/
structure BrokerPositionSnapshot where
  snapshotId : Uuid
  observedAtUtc : UtcDatetime
  ticket : Int
  canonicalSymbol : String
  brokerSymbol : String
  side : Side
  volume : Volume
  openedAtUtc : UtcDatetime
  openPrice : Price
  currentPrice : Option Price
  stopLossPrice : Option Price
  takeProfitPrice : Option Price
  profit : Decimal
  swap : Decimal
  magic : Option Int
  directional : side ≠ .flat
  deriving DecidableEq

/-- One resting order of a snapshot. -/
structure BrokerPendingOrderSnapshot where
  snapshotId : Uuid
  observedAtUtc : UtcDatetime
  orderId : Int
  canonicalSymbol : String
  brokerSymbol : String
  orderType : String
  state : String
  volume : Volume
  price : Price
  stopLossPrice : Option Price
  takeProfitPrice : Option Price
  expiresAtUtc : Option UtcDatetime
  magic : Option Int
  deriving DecidableEq

/-! ## Permits -/

/-- An operator's permission to attempt exactly one real submission. -/
structure CanaryPermit where
  permitId : Uuid
  approvedAccountRef : String
  expectedServer : String
  canonicalSymbol : String
  entryType : EntryType
  agentId : Option Uuid
  assignmentId : Option Uuid
  strategyArtifactHash : Option String
  maxRequestedRiskFraction : RiskFraction
  issuedBy : String
  reason : String
  issuedAtUtc : UtcDatetime
  validUntilUtc : UtcDatetime
  firstCanary : canonicalSymbol = "EUR/USD"
  entryScope : entryType = .market ∨ entryType = .limit
  identity : (agentId.isSome ∧ assignmentId.isSome ∧ strategyArtifactHash.isSome)
    ∨ (agentId = none ∧ assignmentId = none ∧ strategyArtifactHash = none)
  window : issuedAtUtc < validUntilUtc ∧ validUntilUtc - issuedAtUtc ≤ hours 24

/-- The one record of a permit having been used. -/
structure CanaryPermitConsumption where
  permitId : Uuid
  orderRequestId : Uuid
  consumedAtUtc : UtcDatetime
  deriving DecidableEq

/-! ## Flattening -/

/-- What a policy-driven close acts on, for one position. -/
structure FlattenInstruction where
  flattenRequestId : Uuid
  ticket : Int
  brokerSymbol : String
  positionSide : Side
  closeSide : Side
  volume : Volume
  openPrice : Price
  openedAtUtc : UtcDatetime
  magic : Option Int
  crossedWeeklyClose : Bool
  observedAtUtc : UtcDatetime
  directional : positionSide ≠ .flat
  inverse : closeSide = if positionSide = .buy then .sell else .buy

def FlattenInstruction.dump (i : FlattenInstruction) : Json :=
  .obj [
    ("flatten_request_id", .uuid i.flattenRequestId),
    ("ticket", .int i.ticket),
    ("broker_symbol", .str i.brokerSymbol),
    ("position_side", .str i.positionSide.value),
    ("close_side", .str i.closeSide.value),
    ("volume", .decimal i.volume.val),
    ("open_price", .decimal i.openPrice.val),
    ("opened_at_utc", .time i.openedAtUtc),
    ("magic", .opt .int i.magic),
    ("crossed_weekly_close", .bool i.crossedWeeklyClose),
    ("observed_at_utc", .time i.observedAtUtc)]

/-- A decimal leaf as a positive quantity. -/
def Json.asPositive? (j : Json) : Option { d : Decimal // 0 < d } :=
  j.asDecimal?.bind fun d => if h : 0 < d then some ⟨d, h⟩ else none

@[simp] theorem Json.asPositive?_decimal (d : { d : Decimal // 0 < d }) :
    (Json.decimal d.val).asPositive? = some d := by
  simp [asPositive?, asDecimal?, d.property]

/-- The fields of a serialised instruction, read back and validated. -/
def FlattenInstruction.decode? (j : Json) : Option FlattenInstruction := do
  let flattenRequestId ← (j.get? "flatten_request_id").bind Json.asUuid?
  let ticket ← (j.get? "ticket").bind Json.asInt?
  let brokerSymbol ← (j.get? "broker_symbol").bind Json.asStr?
  let positionSide ← ((j.get? "position_side").bind Json.asStr?).bind Side.ofValue?
  let closeSide ← ((j.get? "close_side").bind Json.asStr?).bind Side.ofValue?
  let volume ← (j.get? "volume").bind Json.asPositive?
  let openPrice ← (j.get? "open_price").bind Json.asPositive?
  let openedAtUtc ← (j.get? "opened_at_utc").bind Json.asTime?
  let magic ← (j.get? "magic").bind (Json.asOpt? Json.asInt?)
  let crossedWeeklyClose ← (j.get? "crossed_weekly_close").bind Json.asBool?
  let observedAtUtc ← (j.get? "observed_at_utc").bind Json.asTime?
  if h : positionSide ≠ .flat ∧ closeSide = (if positionSide = .buy then .sell else .buy) then
    some { flattenRequestId, ticket, brokerSymbol, positionSide, closeSide, volume, openPrice,
           openedAtUtc, magic, crossedWeeklyClose, observedAtUtc, directional := h.1,
           inverse := h.2 }
  else none

/-- `FlattenInstruction.model_validate`. -/
def FlattenInstruction.modelValidate (j : Json) : Except PyError FlattenInstruction :=
  match FlattenInstruction.decode? j with
  | some i => .ok i
  | none => .error ⟨.validation, "FlattenInstruction"⟩

/-- **A stored instruction reads back as itself.** -/
theorem FlattenInstruction.modelValidate_dump (i : FlattenInstruction) :
    FlattenInstruction.modelValidate i.dump = .ok i := by
  obtain ⟨rid, ticket, sym, side, close, vol, price, opened, magic, crossed, obs, hd, hi⟩ := i
  have hmagic : Json.asOpt? Json.asInt? (Json.opt Json.int magic) = some magic := by
    cases magic <;> rfl
  simp [modelValidate, decode?, dump, Json.asStr?, Json.asInt?, Json.asTime?, Json.asBool?,
    hmagic, hd, ← hi]

/-- One flatten occurrence's commitment. -/
structure FlattenPlan where
  flattenRequestId : Uuid
  environment : Environment
  canonicalSymbol : String
  tradingDay : Date
  sessionCloseUtc : UtcDatetime
  flattenDeadlineUtc : UtcDatetime
  pastDeadline : Bool
  crossedWeeklyClose : Bool
  observedAtUtc : UtcDatetime
  brokerStateSnapshotId : Uuid
  instructions : List FlattenInstruction
  targets : instructions ≠ []
  trigger : pastDeadline || crossedWeeklyClose

def FlattenPlan.dump (p : FlattenPlan) : Json :=
  .obj [
    ("flatten_request_id", .uuid p.flattenRequestId),
    ("environment", .str p.environment.value),
    ("canonical_symbol", .str p.canonicalSymbol),
    ("trading_day", .str (isoDate p.tradingDay)),
    ("session_close_utc", .time p.sessionCloseUtc),
    ("flatten_deadline_utc", .time p.flattenDeadlineUtc),
    ("past_deadline", .bool p.pastDeadline),
    ("crossed_weekly_close", .bool p.crossedWeeklyClose),
    ("observed_at_utc", .time p.observedAtUtc),
    ("broker_state_snapshot_id", .uuid p.brokerStateSnapshotId),
    ("instructions", .list (p.instructions.map FlattenInstruction.dump))]

end Crumblr
