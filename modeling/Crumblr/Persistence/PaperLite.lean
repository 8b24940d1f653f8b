import Crumblr.Lib.Sourcing
import Crumblr.Mt5Gateway.Simulated
import Crumblr.Risk.Policies

/-!
# A paper portfolio in a journal

The fill engine is the simulated broker. Around it there is an append-only journal, chained by
hashes, and its replay: what a process that starts makes of the journal is the portfolio.

A file holds one JSON record a line. A leaf with the text of a decimal or of an instant stands
for the value, and a dictionary has its keys in the order it was written with.
-/

namespace Crumblr

/-! ## Reading contracts -/

/-- What pydantic takes for white space at either end of a text. -/
def whitespace : List Nat :=
  [0x9, 0xA, 0xB, 0xC, 0xD, 0x20, 0x85, 0xA0, 0x1680, 0x2000, 0x2001, 0x2002, 0x2003, 0x2004,
   0x2005, 0x2006, 0x2007, 0x2008, 0x2009, 0x200A, 0x2028, 0x2029, 0x202F, 0x205F, 0x3000]

def stripWhitespace (s : String) : String :=
  let trim := fun (cs : List Char) => cs.dropWhile fun c => decide (c.toNat ∈ whitespace)
  String.ofList (trim (trim s.toList).reverse).reverse

/-- A text the contracts admit for a symbol: stripped, and of 1 to 64 characters. -/
def IsSymbol (s : String) : Prop := stripWhitespace s = s ∧ 1 ≤ s.length ∧ s.length ≤ 64

instance (s : String) : Decidable (IsSymbol s) := inferInstanceAs (Decidable (_ ∧ _))

namespace Json

/-- A required field, read. -/
def field {α : Type} (j : Json) (key : String) (read : Json → Option α) : Except PyError α :=
  match j.get? key with
  | none => .error ⟨.validation, s!"{key}: Field required"⟩
  | some v =>
      match read v with
      | some a => .ok a
      | none => .error ⟨.validation, s!"{key}: Input should be valid"⟩

/-- No field but these. -/
def forbidExtra (known : List String) : Json → Except PyError Unit
  | .obj fields =>
      if fields.all fun f => decide (f.1 ∈ known) then .ok ()
      else .error ⟨.validation, "Extra inputs are not permitted"⟩
  | _ => .error ⟨.validation, "Input should be a valid dictionary"⟩

/-- A decimal; a float is refused. -/
def readDecimal : Json → Option Decimal
  | .decimal d => some d
  | .int n => some ⟨n, 0⟩
  | _ => none

/-- A decimal greater than zero. -/
def readPositive (j : Json) : Option { d : Decimal // 0 < d } :=
  match j.readDecimal with
  | none => none
  | some d => if h : 0 < d then some ⟨d, h⟩ else none

def readNat : Json → Option Nat
  | .int n => if 0 ≤ n then some n.toNat else none
  | _ => none

def readSymbol : Json → Option String
  | .str s =>
      let s := stripWhitespace s
      if 1 ≤ s.length ∧ s.length ≤ 64 then some s else none
  | _ => none

mutual

/-- Whether two values are the same. -/
def same : Json → Json → Bool
  | .null, .null => true
  | .bool a, .bool b => a == b
  | .int a, .int b => a == b
  | .float a, .float b => a == b
  | .str a, .str b => a == b
  | .decimal a, .decimal b => a == b
  | .time a, .time b => a == b
  | .list as, .list bs => sameList as bs
  | .obj fs, .obj gs => sameFields fs gs
  | _, _ => false

def sameList : List Json → List Json → Bool
  | [], [] => true
  | a :: as, b :: bs => same a b && sameList as bs
  | _, _ => false

def sameFields : List (String × Json) → List (String × Json) → Bool
  | [], [] => true
  | (k, a) :: fs, (l, b) :: gs => k == l && same a b && sameFields fs gs
  | _, _ => false

end

/-- The member of an enumeration. -/
def readEnum {α : Type} (ofValue? : String → Option α) : Json → Option α
  | .str s => ofValue? s
  | _ => none

end Json

/-- A bar's JSON form. -/
def Bar.dump (b : Bar) : Json :=
  .obj [
    ("open_time_utc", .time b.openTimeUtc),
    ("open", .decimal b.openPrice.val),
    ("high", .decimal b.high.val),
    ("low", .decimal b.low.val),
    ("close", .decimal b.close.val),
    ("tick_volume", .int b.tickVolume),
    ("real_volume", .opt (fun (n : Nat) => .int n) b.realVolume),
    ("spread_points", .opt (fun (n : Nat) => .int n) b.spreadPoints)]

/-- Build a bar, refusing one whose prices contradict each other. -/
def Bar.create (openTimeUtc : UtcDatetime) (openPrice high low close : Price) (tickVolume : Nat)
    (realVolume spreadPoints : Option Nat) : Except PyError Bar :=
  if ohlc : ¬ high.val < low.val ∧ ¬ high.val < openPrice.val.max close.val
      ∧ ¬ openPrice.val.min close.val < low.val then
    .ok { openTimeUtc, openPrice, high, low, close, tickVolume, realVolume, spreadPoints, ohlc }
  else .error ⟨.validation, "high and low do not contain the open/close range"⟩

/-- `Bar.model_validate`. -/
def Bar.modelValidate (j : Json) : Except PyError Bar := do
  j.forbidExtra ["open_time_utc", "open", "high", "low", "close", "tick_volume", "real_volume",
    "spread_points"]
  let openTimeUtc ← j.field "open_time_utc" Json.asTime?
  let openPrice ← j.field "open" Json.readPositive
  let high ← j.field "high" Json.readPositive
  let low ← j.field "low" Json.readPositive
  let close ← j.field "close" Json.readPositive
  let tickVolume ← j.field "tick_volume" Json.readNat
  let realVolume ← j.field "real_volume" (Json.asOpt? Json.readNat)
  let spreadPoints ← j.field "spread_points" (Json.asOpt? Json.readNat)
  Bar.create openTimeUtc openPrice high low close tickVolume realVolume spreadPoints

/-- `ApprovedOrder.model_validate`; the computed magic number is dropped and computed again. -/
def ApprovedOrder.modelValidate (j : Json) : Except PyError ApprovedOrder := do
  j.forbidExtra ["order_request_id", "intent_id", "intent_risk_decision_id",
    "final_risk_decision_id", "supervisor_decision_id", "broker_symbol", "side", "entry_type",
    "volume", "price", "stop_loss_price", "take_profit_price", "max_slippage_points",
    "created_at_utc", "expires_at_utc", "environment", "magic_number"]
  let orderRequestId ← j.field "order_request_id" Json.asUuid?
  let intentId ← j.field "intent_id" Json.asUuid?
  let intentRiskDecisionId ← j.field "intent_risk_decision_id" Json.asUuid?
  let finalRiskDecisionId ← j.field "final_risk_decision_id" (Json.asOpt? Json.asUuid?)
  let supervisorDecisionId ← j.field "supervisor_decision_id" Json.asUuid?
  let brokerSymbol ← j.field "broker_symbol" Json.readSymbol
  let side ← j.field "side" (Json.readEnum Side.ofValue?)
  let entryType ← j.field "entry_type" (Json.readEnum EntryType.ofValue?)
  let volume ← j.field "volume" Json.readPositive
  let price ← j.field "price" (Json.asOpt? Json.readPositive)
  let stopLossPrice ← j.field "stop_loss_price" Json.readPositive
  let takeProfitPrice ← j.field "take_profit_price" (Json.asOpt? Json.readPositive)
  let maxSlippagePoints ← j.field "max_slippage_points" Json.readNat
  let createdAtUtc ← j.field "created_at_utc" Json.asTime?
  let expiresAtUtc ← j.field "expires_at_utc" Json.asTime?
  let environment ← j.field "environment" (Json.readEnum Environment.ofValue?)
  ApprovedOrder.create orderRequestId intentId intentRiskDecisionId finalRiskDecisionId
    supervisorDecisionId brokerSymbol side entryType volume price stopLossPrice takeProfitPrice
    maxSlippagePoints createdAtUtc expiresAtUtc environment

/-- A specification's JSON form. -/
def InstrumentSpec.dump [Externals] (s : InstrumentSpec) : Json :=
  .obj [
    ("canonical_symbol", .str s.canonicalSymbol),
    ("broker_symbol", .str s.brokerSymbol),
    ("currency_base", .str s.currencyBase),
    ("currency_profit", .str s.currencyProfit),
    ("contract_size", .decimal s.contractSize.val),
    ("digits", .int s.digits),
    ("point", .decimal s.point.val),
    ("tick_size", .decimal s.tickSize.val),
    ("tick_value", .decimal s.tickValue.val),
    ("volume_min", .decimal s.volumeMin.val),
    ("volume_max", .decimal s.volumeMax.val),
    ("volume_step", .decimal s.volumeStep.val),
    ("stops_level", .int s.stopsLevel),
    ("freeze_level", .int s.freezeLevel),
    ("filling_modes", .list (s.fillingModes.map .str)),
    ("trade_mode", .str s.tradeMode),
    ("captured_at_utc", .time s.capturedAtUtc),
    ("spec_version", .str s.specVersion)]

def AccountState.dump [Externals] (a : AccountState) : Json :=
  .obj [
    ("login", .int a.login),
    ("server", .str a.server),
    ("currency", .str a.currency),
    ("is_demo", .bool a.isDemo),
    ("trade_allowed", .bool a.tradeAllowed),
    ("expert_allowed", .bool a.expertAllowed),
    ("connected", .bool a.connected),
    ("balance", .decimal a.balance),
    ("equity", .decimal a.equity),
    ("margin", .decimal a.margin.val),
    ("margin_free", .decimal a.marginFree),
    ("margin_level", .opt .decimal a.marginLevel),
    ("leverage", .int a.leverage),
    ("observed_at_utc", .time a.observedAtUtc),
    ("login_hash", .str a.loginHash)]

def PositionState.dump (p : PositionState) : Json :=
  .obj [
    ("ticket", .int p.ticket),
    ("broker_symbol", .str p.brokerSymbol),
    ("side", .str p.side.value),
    ("volume", .decimal p.volume.val),
    ("open_price", .decimal p.openPrice.val),
    ("current_price", .opt (fun x => .decimal x.val) p.currentPrice),
    ("stop_loss_price", .opt (fun x => .decimal x.val) p.stopLossPrice),
    ("take_profit_price", .opt (fun x => .decimal x.val) p.takeProfitPrice),
    ("opened_at_utc", .time p.openedAtUtc),
    ("profit", .decimal p.profit),
    ("swap", .decimal p.swap),
    ("magic", .opt .int p.magic),
    ("observed_at_utc", .time p.observedAtUtc)]

/-! ## The journal -/

inductive PaperJournalEventType where
  | portfolioCreated
  | marketObserved
  | paperOrderAccepted
  | paperFlattenRequested
  | auditFact
  deriving DecidableEq, Repr

def PaperJournalEventType.value : PaperJournalEventType → String
  | .portfolioCreated => "PORTFOLIO_CREATED"
  | .marketObserved => "MARKET_OBSERVED"
  | .paperOrderAccepted => "PAPER_ORDER_ACCEPTED"
  | .paperFlattenRequested => "PAPER_FLATTEN_REQUESTED"
  | .auditFact => "AUDIT_FACT"

def PaperJournalEventType.ofValue? : String → Option PaperJournalEventType
  | "PORTFOLIO_CREATED" => some .portfolioCreated
  | "MARKET_OBSERVED" => some .marketObserved
  | "PAPER_ORDER_ACCEPTED" => some .paperOrderAccepted
  | "PAPER_FLATTEN_REQUESTED" => some .paperFlattenRequested
  | "AUDIT_FACT" => some .auditFact
  | _ => none

@[simp] theorem PaperJournalEventType.ofValue?_value (t : PaperJournalEventType) :
    PaperJournalEventType.ofValue? t.value = some t := by
  cases t <;> rfl

structure PaperJournalEntry where
  sequence : Nat
  eventType : PaperJournalEventType
  eventKey : String
  previousHash : Option String
  payload : Json
  recordHash : String

/-- What of an entry its own hash covers. -/
def recordMaterial (e : PaperJournalEntry) : List (String × Json) :=
  [("sequence", .int e.sequence),
   ("event_type", .str e.eventType.value),
   ("event_key", .str e.eventKey),
   ("previous_hash", .opt .str e.previousHash),
   ("payload", e.payload)]

def recordHashOf [Externals] (e : PaperJournalEntry) : String := digestOf (.obj (recordMaterial e))

/-- The record of an entry in the file. -/
def PaperJournalEntry.encoded (e : PaperJournalEntry) : Json :=
  .obj (recordMaterial e ++ [("record_hash", .str e.recordHash)])

def corruption (message : String) : PyError := ⟨.journalCorruption, message⟩

def conflict (message : String) : PyError := ⟨.journalConflict, message⟩

/-- One record, read. -/
def PaperJournalEntry.decode (raw : Json) : Except PyError PaperJournalEntry := do
  let sequence ← raw.field "sequence" Json.readNat
  let eventType ← raw.field "event_type" (Json.readEnum PaperJournalEventType.ofValue?)
  let eventKey ← raw.field "event_key" Json.asStr?
  let previousHash ← raw.field "previous_hash" (Json.asOpt? Json.asStr?)
  let payload ← raw.field "payload" fun j => match j with
    | .obj fields => some (.obj fields)
    | _ => none
  let recordHash ← raw.field "record_hash" Json.asStr?
  pure { sequence, eventType, eventKey, previousHash, payload, recordHash }

/-- The next record of a file, after some entries. -/
def readEntry [Externals] (entries : List PaperJournalEntry) (raw : Json) :
    Except PyError (List PaperJournalEntry) := do
  let entry ← match PaperJournalEntry.decode raw with
    | .ok entry => pure entry
    | .error error => throw (corruption
        s!"paper journal line {entries.length + 1} is malformed: {error.message}")
  if entry.sequence ≠ entries.length then
    throw (corruption
      s!"paper journal sequence {entry.sequence} is not expected {entries.length}")
  else if entry.previousHash ≠ entries.getLast?.map (·.recordHash) then
    throw (corruption s!"paper journal hash chain breaks at sequence {entry.sequence}")
  else if entry.recordHash ≠ recordHashOf entry then
    throw (corruption s!"paper journal record hash mismatch at sequence {entry.sequence}")
  else pure (entries ++ [entry])

/-- The entries of a file, which must be a chain. -/
def readEntries [Externals] (file : List Json) : Except PyError (List PaperJournalEntry) :=
  file.foldlM readEntry []

/-! ## The broker -/

/-- What a paper portfolio is set up with. -/
structure PaperPortfolio where
  spec : InstrumentSpec
  startingBalance : { d : Decimal // 0 < d }
  accountCurrency : String
  leverage : Nat

structure DurablePaperBroker where
  startingBalance : Decimal
  broker : SimulatedBroker
  entries : List PaperJournalEntry
  eventPayloadHashes : List (String × String)
  orderFingerprints : List (Uuid × String)
  orderResults : List (Uuid × SimulatedResult)
  orderRiskAmounts : List (Int × Decimal)
  flattenResults : List (Uuid × List Int)
  latestTick : Option GeneratedTick
  barRangesApplied : List String

structure PaperPortfolioView where
  balance : Decimal
  equity : Decimal
  unrealisedProfit : Decimal
  realizedProfit : Decimal
  openPositionCount : Nat
  closedTradeCount : Nat
  authorizedOpenRiskAmount : Decimal
  exactOpenRiskAmount : Option Decimal
  exactOpenRiskFraction : Option Decimal
  latestObservationTimeUtc : Option String

/-- What an operation comes to, with the entry it appends. -/
abbrev PaperEffect (α : Type) : Type :=
  Sourcing.Effect DurablePaperBroker PaperJournalEntry PyError α

/-- A later quote without the range of a bar that was used before: on either side the midpoint,
less or plus half the spread, is the quote. -/
def quoteOnlyTick (tick : GeneratedTick) : Except PyError GeneratedTick := do
  let midpoint ← SimulatedBroker.resultPrice ((tick.bid + tick.ask) / 2)
  let spreadPoints ← match Json.readNat (.int tick.spreadPoints) with
    | some n => pure n
    | none => throw ⟨.validation, "spread_points: Input should be greater than or equal to 0"⟩
  let bar ← Bar.create tick.bar.openTimeUtc midpoint midpoint midpoint midpoint 0 (some 0)
    (some spreadPoints)
  pure { tick with bar }

def tickPayload (tick : GeneratedTick) : List (String × Json) :=
  [("bar", tick.bar.dump),
   ("bid", .decimal tick.bid),
   ("ask", .decimal tick.ask),
   ("spread_points", .int tick.spreadPoints),
   ("event_time_utc", .time tick.eventTimeUtc),
   ("received_time_utc", .time tick.receivedTimeUtc),
   ("data_quality", .str tick.dataQuality.value),
   ("injected_fault", .opt .str tick.injectedFault)]

/-- What is journalled of an observation. -/
def observationPayload (tick : GeneratedTick) (sourceBar : Json) (sourceBarFingerprint : String)
    (historicalBarRangeApplied : Bool) : Json :=
  .obj (tickPayload tick ++
    [("source_bar", sourceBar),
     ("source_bar_fingerprint", .str sourceBarFingerprint),
     ("historical_bar_range_applied", .bool historicalBarRangeApplied)])

def tickFromPayload (payload : Json) : Except PyError GeneratedTick := do
  let bar ← Bar.modelValidate ((payload.get? "bar").getD .null)
  let bid ← payload.field "bid" Json.readDecimal
  let ask ← payload.field "ask" Json.readDecimal
  let spreadPoints ← payload.field "spread_points" Json.asInt?
  let eventTimeUtc ← payload.field "event_time_utc" Json.asTime?
  let receivedTimeUtc ← payload.field "received_time_utc" Json.asTime?
  let dataQuality ← payload.field "data_quality" (Json.readEnum DataQuality.ofValue?)
  let injectedFault ← payload.field "injected_fault" (Json.asOpt? Json.asStr?)
  pure { bar, bid, ask, spreadPoints, eventTimeUtc, receivedTimeUtc, dataQuality, injectedFault }

/-- Two bars with the same values. -/
def Bar.Same (a b : Bar) : Prop :=
  a.openTimeUtc = b.openTimeUtc ∧ a.openPrice.val.compare b.openPrice.val = .eq
    ∧ a.high.val.compare b.high.val = .eq ∧ a.low.val.compare b.low.val = .eq
    ∧ a.close.val.compare b.close.val = .eq ∧ a.tickVolume = b.tickVolume
    ∧ a.realVolume = b.realVolume ∧ a.spreadPoints = b.spreadPoints

instance (a b : Bar) : Decidable (a.Same b) := inferInstanceAs (Decidable (_ ∧ _))

/-- An order as its contract holds it: the symbol is one the contract admits. -/
abbrev PaperOrder := { o : ApprovedOrder // IsSymbol o.brokerSymbol }

namespace DurablePaperBroker

variable [Externals] (b : DurablePaperBroker)

/-! ### Appending -/

/-- The next entry. -/
def nextEntry (eventType : PaperJournalEventType) (eventKey : String) (payload : Json) :
    PaperJournalEntry :=
  let entry : PaperJournalEntry := {
    sequence := b.entries.length
    eventType
    eventKey
    previousHash := b.entries.getLast?.map (·.recordHash)
    payload
    recordHash := "" }
  { entry with recordHash := recordHashOf entry }

/-- The entry is on record, and so is what its key stands for. -/
def journalled (entry : PaperJournalEntry) : DurablePaperBroker :=
  { b with
    entries := b.entries ++ [entry]
    eventPayloadHashes := b.eventPayloadHashes ++ [(entry.eventKey, digestOf entry.payload)] }

/-- Append an entry, unless its key is on record, and go on. -/
def append {α : Type} (eventType : PaperJournalEventType) (eventKey : String) (payload : Json)
    (next : Bool → DurablePaperBroker → Except PyError α × DurablePaperBroker) : PaperEffect α :=
  match b.eventPayloadHashes.lookup eventKey with
  | some existing =>
      if existing ≠ digestOf payload then
        ⟨none, .error (conflict
          s!"paper journal event key '{eventKey}' was reused with different content"), b⟩
      else
        let (outcome, b) := next false b
        ⟨none, outcome, b⟩
  | none =>
      let entry := b.nextEntry eventType eventKey payload
      let (outcome, b) := next true (b.journalled entry)
      ⟨some entry, outcome, b⟩

/-! ### The operations -/

/-- Take a tick that is on record. -/
def observed (tick : GeneratedTick) (appliedRange : Option String) :
    List ClosedTrade × DurablePaperBroker :=
  let (broker, trades) := b.broker.advance tick
  (trades, { b with
    barRangesApplied := b.barRangesApplied ++ appliedRange.toList
    latestTick := some tick
    broker })

/-- The tick the simulation sees: a bar's range is used once. -/
def simulationTick (tick : GeneratedTick) : Except PyError GeneratedTick :=
  if digestOf tick.bar.dump ∈ b.barRangesApplied then quoteOnlyTick tick else .ok tick

/-- The key of an observation. -/
def observationKey (payload : Json) : String := "market:" ++ digestOf payload

def advance (tick : GeneratedTick) : PaperEffect (List ClosedTrade) :=
  match b.simulationTick tick with
  | .error error => ⟨none, .error error, b⟩
  | .ok simulationTick =>
      let sourceBarFingerprint := digestOf tick.bar.dump
      let applyHistoricalRange := decide (sourceBarFingerprint ∉ b.barRangesApplied)
      let payload := observationPayload simulationTick tick.bar.dump sourceBarFingerprint
        applyHistoricalRange
      if (b.eventPayloadHashes.lookup (observationKey payload)).isSome then ⟨none, .ok [], b⟩
      else
        b.append .marketObserved (observationKey payload) payload fun _ b =>
          let (trades, b) := b.observed simulationTick
            (if applyHistoricalRange then some sourceBarFingerprint else none)
          (.ok trades, b)

/-- Send an order to the simulation. -/
def applyOrder (order : ApprovedOrder) (orderFingerprint : String)
    (authorizedRiskAmount : Decimal) : Except PyError SimulatedResult × DurablePaperBroker :=
  match b.broker.orderSend order with
  | (.error error, broker) => (.error error, { b with broker })
  | (.ok result, broker) =>
      (.ok result, { b with
        broker
        orderFingerprints := b.orderFingerprints ++ [(order.orderRequestId, orderFingerprint)]
        orderResults := b.orderResults ++ [(order.orderRequestId, result)]
        orderRiskAmounts := b.orderRiskAmounts
          ++ (result.mt5PositionTicket.map fun t => (t, authorizedRiskAmount)).toList })

def orderPayload (order : ApprovedOrder) (authorizedRiskAmount : Decimal)
    (correlationId : Option Uuid) : Json :=
  .obj [
    ("order", order.dump),
    ("order_fingerprint", .str (digestOf order.dump)),
    ("authorized_risk_amount", .decimal authorizedRiskAmount),
    ("correlation_id", .opt .uuid correlationId)]

def orderKey (orderRequestId : Uuid) : String := "order:" ++ orderRequestId.text

/-- Claim an order durably and simulate it. -/
def submit (order : PaperOrder) (authorizedRiskAmount : Decimal) (correlationId : Option Uuid) :
    PaperEffect SimulatedResult :=
  if authorizedRiskAmount < 0 then
    ⟨none, .error ⟨.value, "authorized_risk_amount must not be negative"⟩, b⟩
  else
    match b.orderFingerprints.lookup order.val.orderRequestId with
    | some existing =>
        if existing ≠ digestOf order.val.dump then
          ⟨none, .error (conflict (s!"paper order_request_id {order.val.orderRequestId.text} was "
            ++ "reused with different content")), b⟩
        else
          match b.orderResults.lookup order.val.orderRequestId with
          | some result => ⟨none, .ok result, b⟩
          | none => ⟨none, .error ⟨.value, order.val.orderRequestId.text⟩, b⟩
    | none =>
        b.append .paperOrderAccepted (orderKey order.val.orderRequestId)
          (orderPayload order.val authorizedRiskAmount correlationId) fun _ b =>
            b.applyOrder order.val (digestOf order.val.dump) authorizedRiskAmount

def flattenPayload (flattenRequestId : Uuid) (reason : String) : Json :=
  .obj [("flatten_request_id", .uuid flattenRequestId), ("reason", .str reason)]

def flattenKey (flattenRequestId : Uuid) : String := "flatten:" ++ flattenRequestId.text

/-- Close the simulated book. -/
def applyFlatten (flattenRequestId : Uuid) (reason : String) :
    Except PyError (List Int) × DurablePaperBroker :=
  match b.broker.closeAllPositions reason with
  | .error error => (.error error, b)
  | .ok (closed, broker) =>
      (.ok closed, { b with
        broker
        flattenResults := b.flattenResults ++ [(flattenRequestId, closed)] })

/-- Claim a flatten durably and close the book at its current quote. -/
def flattenAll (flattenRequestId : Uuid) (reason : String) : PaperEffect (List Int) :=
  match b.flattenResults.lookup flattenRequestId with
  | some closed => ⟨none, .ok closed, b⟩
  | none =>
      b.append .paperFlattenRequested (flattenKey flattenRequestId)
        (flattenPayload flattenRequestId reason) fun _ b => b.applyFlatten flattenRequestId reason

def auditPayload (fact : String) (correlationId : Uuid) (detail : Option String) : Json :=
  .obj [("fact", .str fact), ("correlation_id", .uuid correlationId), ("detail", .opt .str detail)]

def auditKey (fact : String) (correlationId : Uuid) : String :=
  "audit:" ++ fact ++ ":" ++ correlationId.text

def recordAuditFact (fact : String) (correlationId : Uuid) (detail : Option String) :
    PaperEffect Bool :=
  b.append .auditFact (auditKey fact correlationId) (auditPayload fact correlationId detail)
    fun appended b => (.ok appended, b)

/-! ### What it reports -/

omit [Externals] in
def hasMarketObservation : Bool := b.latestTick.isSome

omit [Externals] in
def openRiskAssessment : Except PyError OpenRiskAssessment := do
  let positions ← b.broker.positions
  assessOpenRisk positions b.broker.spec (← b.broker.equity)

omit [Externals] in
/-- What a dashboard is shown. -/
def portfolioView : Except PyError PaperPortfolioView := do
  let positions ← b.broker.positions
  let openTickets := positions.map (·.ticket)
  let authorized := b.orderRiskAmounts.filter fun (ticket, _) => decide (ticket ∈ openTickets)
  let openRisk ← b.openRiskAssessment
  let observations := b.entries.filter fun e => decide (e.eventType = .marketObserved)
  pure {
    balance := b.broker.balance
    equity := ← b.broker.equity
    unrealisedProfit := ← b.broker.unrealisedProfit
    realizedProfit := b.broker.balance - b.startingBalance
    openPositionCount := positions.length
    closedTradeCount := b.broker.closed.length
    authorizedOpenRiskAmount := (authorized.map (·.2)).foldl (· + ·) 0
    exactOpenRiskAmount := openRisk.riskAmount
    exactOpenRiskFraction := openRisk.fraction
    latestObservationTimeUtc := observations.getLast?.bind fun e =>
      (e.payload.get? "received_time_utc").map Json.text }

/-! ### Replaying -/

/-- What an observation on record does. -/
def applyObservation (entry : PaperJournalEntry) : Except PyError DurablePaperBroker := do
  let tick ← tickFromPayload entry.payload
  let sourceBar ← Bar.modelValidate ((entry.payload.get? "source_bar").getD .null)
  let sourceBarFingerprint := ((entry.payload.get? "source_bar_fingerprint").map Json.text).getD
    "None"
  if sourceBarFingerprint ≠ digestOf sourceBar.dump then
    throw (corruption s!"source bar fingerprint mismatch at sequence {entry.sequence}")
  else
    match (entry.payload.get? "historical_bar_range_applied").bind Json.asBool? with
    | none => throw (corruption s!"bar-range marker is invalid at sequence {entry.sequence}")
    | some true =>
        if sourceBarFingerprint ∈ b.barRangesApplied then
          throw (corruption
            s!"historical bar range is applied twice at sequence {entry.sequence}")
        else if ¬ tick.bar.Same sourceBar then
          throw (corruption
            s!"first simulation bar differs from source at sequence {entry.sequence}")
        else pure (b.observed tick (some sourceBarFingerprint)).2
    | some false =>
        if sourceBarFingerprint ∉ b.barRangesApplied then
          throw (corruption (s!"quote-only observation precedes its source bar at sequence "
            ++ s!"{entry.sequence}"))
        else pure (b.observed tick none).2

/-- What an accepted order on record does. -/
def applyAcceptedOrder (entry : PaperJournalEntry) : Except PyError DurablePaperBroker := do
  let order ← ApprovedOrder.modelValidate ((entry.payload.get? "order").getD .null)
  let orderFingerprint ← entry.payload.field "order_fingerprint" Json.asStr?
  if orderFingerprint ≠ digestOf order.dump then
    throw (corruption s!"stored order fingerprint mismatch for {order.orderRequestId.text}")
  else
    let authorizedRiskAmount ← entry.payload.field "authorized_risk_amount" Json.readDecimal
    let (outcome, b) := b.applyOrder order orderFingerprint authorizedRiskAmount
    outcome.map fun _ => b

/-- What a flatten on record does. -/
def applyRequestedFlatten (entry : PaperJournalEntry) : Except PyError DurablePaperBroker := do
  let flattenRequestId ← entry.payload.field "flatten_request_id" Json.asUuid?
  let reason ← entry.payload.field "reason" Json.asStr?
  let (outcome, b) := b.applyFlatten flattenRequestId reason
  outcome.map fun _ => b

/-- What an entry on record does to the portfolio. -/
def applyEntry (entry : PaperJournalEntry) : Except PyError DurablePaperBroker :=
  match b.eventPayloadHashes.lookup entry.eventKey with
  | some existing =>
      if existing ≠ digestOf entry.payload then
        .error (conflict s!"event key '{entry.eventKey}' has conflicting payloads")
      else .ok { b with entries := b.entries ++ [entry] }
  | none =>
      let b := b.journalled entry
      match entry.eventType with
      | .marketObserved => b.applyObservation entry
      | .paperOrderAccepted => b.applyAcceptedOrder entry
      | .paperFlattenRequested => b.applyRequestedFlatten entry
      | .portfolioCreated | .auditFact => .ok b

end DurablePaperBroker

namespace PaperPortfolio

variable [Externals] (p : PaperPortfolio)

/-- A portfolio that nothing has happened to, on no record yet. -/
def fresh : DurablePaperBroker where
  startingBalance := p.startingBalance.val
  broker := SimulatedBroker.create p.spec p.startingBalance.val p.accountCurrency
    "Crumblr-PAPER_LITE" 1000001 p.leverage
  entries := []
  eventPayloadHashes := []
  orderFingerprints := []
  orderResults := []
  orderRiskAmounts := []
  flattenResults := []
  latestTick := none
  barRangesApplied := []

def paperJournalSchemaVersion : String := "1.1"

def headerPayload : Json :=
  .obj [
    ("journal_schema_version", .str paperJournalSchemaVersion),
    ("starting_balance", .decimal p.startingBalance.val),
    ("account_currency", .str p.accountCurrency),
    ("leverage", .int p.leverage),
    ("instrument_spec", p.spec.dump),
    ("instrument_spec_version", .str p.spec.specVersion)]

/-- The journal's first entry. -/
def header : PaperJournalEntry := p.fresh.nextEntry .portfolioCreated "portfolio" p.headerPayload

/-- A new portfolio, its header on record. -/
def created : DurablePaperBroker := p.fresh.journalled p.header

/-- The portfolio that entries on record come to. -/
def replay (entries : List PaperJournalEntry) : Except PyError DurablePaperBroker :=
  match entries with
  | [] => throw (corruption "paper journal exists but is empty")
  | header :: _ =>
      if header.eventType ≠ .portfolioCreated then
        throw (corruption "paper journal does not start with PORTFOLIO_CREATED")
      else if !header.payload.same p.headerPayload then
        throw (conflict ("existing paper journal belongs to a different balance, currency, "
          ++ "leverage, or instrument spec"))
      else entries.foldlM DurablePaperBroker.applyEntry p.fresh

/-- What a process that starts makes of a file that exists. -/
def load (file : List Json) : Except PyError DurablePaperBroker := do
  let entries ← readEntries file
  p.replay entries

end PaperPortfolio

/-! ## The portfolio as a state kept in its journal -/

/-- The operations. -/
inductive PaperOperation where
  | advance (tick : GeneratedTick)
  | submit (order : PaperOrder) (authorizedRiskAmount : Decimal) (correlationId : Option Uuid)
  | flattenAll (flattenRequestId : Uuid) (reason : String)
  | recordAuditFact (fact : String) (correlationId : Uuid) (detail : Option String)

abbrev PaperOperation.Answer : PaperOperation → Type
  | .advance _ => List ClosedTrade
  | .submit .. => SimulatedResult
  | .flattenAll .. => List Int
  | .recordAuditFact .. => Bool

def PaperOperation.run [Externals] : (o : PaperOperation) → DurablePaperBroker →
    PaperEffect o.Answer
  | .advance tick, b => b.advance tick
  | .submit order authorizedRiskAmount correlationId, b =>
      b.submit order authorizedRiskAmount correlationId
  | .flattenAll flattenRequestId reason, b => b.flattenAll flattenRequestId reason
  | .recordAuditFact fact correlationId detail, b => b.recordAuditFact fact correlationId detail

/-- The journal after its header, and the portfolio in memory. -/
def paperSource [Externals] (p : PaperPortfolio) :
    Sourcing.Source DurablePaperBroker PaperJournalEntry PyError PaperOperation
      PaperOperation.Answer where
  start := p.created
  apply := DurablePaperBroker.applyEntry
  run := PaperOperation.run

/-- The file of a journal. -/
def paperFile [Externals] (p : PaperPortfolio) (journal : List PaperJournalEntry) : List Json :=
  (p.header :: journal).map PaperJournalEntry.encoded

end Crumblr
