import Crumblr.Application.Calls
import Crumblr.Application.ExpectedState
import Crumblr.Config

/-!
# Observing the broker and reconciling it

`captureBrokerState` reads the account, the positions and the pending orders once
each; a set that could not be read is recorded as failed, never as empty.
`reconcile` compares the *stored* latest snapshot with an expectation, and says
UNKNOWN whenever either side is not fully known.
-/

namespace Crumblr

/-! ## Observing -/

/-- A read that reports its own failure instead of raising it. -/
def orFailed {α : Type} (read : Pass (List α)) : Pass (List α × SnapshotCompleteness) :=
  Prog.rescue (do pure (← read, .complete)) fun e =>
    if e.kind = .mt5CallFailed then pure ([], .failed) else throw e

def readPositions : Pass (List PositionState × SnapshotCompleteness) := orFailed (ask .positions)

def readPendingOrders : Pass (List PendingOrderState × SnapshotCompleteness) :=
  orFailed (ask .pendingOrders)

def positionSnapshot (snapshotId : Uuid) (observedAtUtc : UtcDatetime) (canonicalSymbol : String)
    (p : PositionState) : BrokerPositionSnapshot where
  snapshotId := snapshotId
  observedAtUtc := observedAtUtc
  ticket := p.ticket
  -- the worker's own symbol, whatever the position's
  canonicalSymbol := canonicalSymbol
  brokerSymbol := p.brokerSymbol
  side := p.side
  volume := p.volume
  openedAtUtc := p.openedAtUtc
  openPrice := p.openPrice
  currentPrice := p.currentPrice
  stopLossPrice := p.stopLossPrice
  takeProfitPrice := p.takeProfitPrice
  profit := p.profit
  swap := p.swap
  magic := p.magic
  directional := p.directional

def pendingOrderSnapshot (snapshotId : Uuid) (observedAtUtc : UtcDatetime)
    (canonicalSymbol : String) (o : PendingOrderState) : BrokerPendingOrderSnapshot where
  snapshotId := snapshotId
  observedAtUtc := observedAtUtc
  orderId := o.orderId
  canonicalSymbol := canonicalSymbol
  brokerSymbol := o.brokerSymbol
  orderType := o.orderType
  state := o.state
  volume := o.volume
  price := o.price
  stopLossPrice := o.stopLossPrice
  takeProfitPrice := o.takeProfitPrice
  expiresAtUtc := o.expiresAtUtc
  magic := o.magic

/-- What was read of the broker in one capture. -/
structure BrokerReading where
  snapshotId : Uuid
  observedAtUtc : UtcDatetime
  account : AccountState
  extras : AccountExtras
  terminalTradeAllowed : Option Bool
  positions : List PositionState
  positionSetState : SnapshotCompleteness
  pendingOrders : List PendingOrderState
  pendingOrderSetState : SnapshotCompleteness
  recordedAtUtc : UtcDatetime

/-- The observation a reading amounts to. -/
def BrokerReading.observation [Externals] (r : BrokerReading) (environment : Environment)
    (canonicalSymbol : String) : BrokerStateObservation where
  account := {
    snapshotId := r.snapshotId
    observedAtUtc := r.observedAtUtc
    recordedAtUtc := r.recordedAtUtc
    environment := environment
    server := r.account.server
    accountRef := accountRef r.account.login r.account.server
    currency := r.account.currency
    leverage := r.account.leverage
    marginMode := r.extras.marginMode
    balance := r.account.balance
    equity := r.account.equity
    profit := r.extras.profit
    margin := r.account.margin
    marginFree := r.account.marginFree
    marginLevel := r.account.marginLevel
    accountTradeAllowed := r.account.tradeAllowed
    terminalTradeAllowed := r.terminalTradeAllowed
    positionSetState := r.positionSetState
    pendingOrderSetState := r.pendingOrderSetState }
  positions := r.positions.map (positionSnapshot r.snapshotId r.observedAtUtc canonicalSymbol)
  pendingOrders :=
    r.pendingOrders.map (pendingOrderSnapshot r.snapshotId r.observedAtUtc canonicalSymbol)
  accountState := some r.account
  positionStates := r.positions

def captureBrokerState [Externals] (environment : Environment) (canonicalSymbol : String) :
    Pass BrokerStateObservation := do
  let snapshotId ← ask .uuid4
  let observedAtUtc ← ask .clock
  let (account, extras) ← ask .accountWithExtras
  let terminalTradeAllowed ← ask .terminalHealth
  let (positions, positionSetState) ← readPositions
  let (pendingOrders, pendingOrderSetState) ← readPendingOrders
  let recordedAtUtc ← ask .clock
  let reading : BrokerReading :=
    { snapshotId, observedAtUtc, account, extras, terminalTradeAllowed, positions,
      positionSetState, pendingOrders, pendingOrderSetState, recordedAtUtc }
  pure (reading.observation environment canonicalSymbol)

/-! ## The expectation -/

structure ExpectedState where
  expectedServer : String
  expectedCurrency : Option String
  expectedLeverage : Option Nat
  canonicalSymbol : String
  expectedAccountRef : Option String
  expectedPositionTickets : List Int
  expectedPendingOrderIds : List Int
  expectedSpecVersion : Option String
  undeterminedReasons : List String

/-- The expectation before any execution history: nothing open, nothing pending. -/
def ExpectedState.flat [Externals] (guard : AccountGuardConfig) (canonicalSymbol : String)
    (expectedSpecVersion : Option String) : ExpectedState where
  expectedServer := guard.expectedServer
  expectedCurrency := guard.expectedCurrency
  expectedLeverage := guard.expectedLeverage
  canonicalSymbol := canonicalSymbol
  expectedAccountRef := guard.expectedLogin.map fun login => accountRef login guard.expectedServer
  expectedPositionTickets := []
  expectedPendingOrderIds := []
  expectedSpecVersion := expectedSpecVersion
  undeterminedReasons := []

def ExpectedState.fromDurableExposure [Externals] (guard : AccountGuardConfig)
    (exposure : DerivedExposure) (canonicalSymbol : String)
    (expectedSpecVersion : Option String) : ExpectedState :=
  { ExpectedState.flat guard canonicalSymbol expectedSpecVersion with
    expectedPositionTickets := exposure.expectedPositionTickets
    expectedPendingOrderIds := exposure.expectedPendingOrderIds
    undeterminedReasons := exposure.undeterminedReasons }

/-! ## The comparison -/

structure ReconciliationResult where
  status : ReconciliationStatus
  reasons : List String
  checkedAtUtc : UtcDatetime
  snapshotId : Option Uuid

/-- The members of a finite set, in order. -/
def sortedSet (xs : List Int) : List Int := xs.eraseDups.insertionSort (· ≤ ·)

/-- A value in quotes, as a message shows it. -/
def quoted (s : String) : String := "'" ++ s ++ "'"

/-- The message, when the condition holds. -/
def mismatchIf (condition : Bool) (message : String) : List String :=
  if condition then [message] else []

def accountMismatches (snapshot : BrokerAccountSnapshot) (expectation : ExpectedState) :
    List String :=
  mismatchIf (snapshot.server ≠ expectation.expectedServer)
    s!"server {quoted snapshot.server} != expected {quoted expectation.expectedServer}"
  ++ mismatchIf (expectation.expectedAccountRef.any fun r => snapshot.accountRef ≠ r)
    "account identity does not match the expected account"
  ++ mismatchIf (expectation.expectedCurrency.any fun c => snapshot.currency ≠ c)
    ("currency " ++ quoted snapshot.currency ++ " != expected "
      ++ quoted (expectation.expectedCurrency.getD ""))
  ++ mismatchIf (expectation.expectedLeverage.any fun l => snapshot.leverage ≠ l)
    s!"leverage {snapshot.leverage} != expected {expectation.expectedLeverage.getD 0}"

/-- A set of observed identifiers against the expected one. -/
def setMismatches (observed expected : List Int) (unexpected missing : String) : List String :=
  (sortedSet (observed.filter (fun t => t ∉ expected))).map (fun t => unexpected ++ toString t)
  ++ (sortedSet (expected.filter (fun t => t ∉ observed))).map (fun t => missing ++ toString t)

def positionMismatches (positions : List BrokerPositionSnapshot) (expectation : ExpectedState) :
    List String :=
  setMismatches (positions.map (·.ticket)) expectation.expectedPositionTickets
    "unexpected open position, ticket=" "expected open position missing, ticket="
  ++ (positions.filter fun p => p.canonicalSymbol ≠ expectation.canonicalSymbol).map fun p =>
    s!"unexpected symbol on position ticket={p.ticket}: {quoted p.canonicalSymbol} != expected {quoted expectation.canonicalSymbol}"

def pendingOrderMismatches (orders : List BrokerPendingOrderSnapshot)
    (expectation : ExpectedState) : List String :=
  setMismatches (orders.map (·.orderId)) expectation.expectedPendingOrderIds
    "unexpected pending order, order_id=" "expected pending order missing, order_id="
  ++ (orders.filter fun o => o.canonicalSymbol ≠ expectation.canonicalSymbol).map fun o =>
    s!"unexpected symbol on pending order order_id={o.orderId}: {quoted o.canonicalSymbol} != expected {quoted expectation.canonicalSymbol}"

def instrumentSpecMismatches [Externals] (expectedSpecVersion : String)
    (current : InstrumentSpec) : List String :=
  mismatchIf (expectedSpecVersion ≠ current.specVersion)
    ("instrument spec does not match the approved baseline: "
      ++ s!"expected spec_version={(expectedSpecVersion.take 12).toString}... "
      ++ s!"!= current spec_version={(current.specVersion.take 12).toString}... "
      ++ s!"(broker_symbol {quoted current.brokerSymbol}, observed {isoTime current.capturedAtUtc})")

/-- How old a snapshot reconciliation still trusts. -/
def defaultMaxSnapshotAge : Timedelta := minutes 5

/-- Why a snapshot, by itself, cannot be judged. -/
def snapshotUnknown (snapshot : BrokerAccountSnapshot) (expectation : ExpectedState)
    (now : UtcDatetime) (maxSnapshotAge : Timedelta := defaultMaxSnapshotAge) : Option String :=
  if maxSnapshotAge < now - snapshot.observedAtUtc then
    some (s!"latest snapshot is {timedeltaText (now - snapshot.observedAtUtc)} old, "
      ++ s!"older than the {timedeltaText maxSnapshotAge} reconciliation trusts")
  else if snapshot.positionSetState ≠ .complete then
    some s!"position set is {snapshot.positionSetState.value}, not COMPLETE"
  else if snapshot.pendingOrderSetState ≠ .complete then
    some s!"pending-order set is {snapshot.pendingOrderSetState.value}, not COMPLETE"
  else if expectation.undeterminedReasons ≠ [] then
    some ("the platform's expected state could not be fully determined: "
      ++ "; ".intercalate expectation.undeterminedReasons)
  else none

/-- Everything a snapshot and its children disagree with the expectation about. -/
def mismatches [Externals] (snapshot : BrokerAccountSnapshot)
    (positions : List BrokerPositionSnapshot) (orders : List BrokerPendingOrderSnapshot)
    (expectation : ExpectedState) (expectedSpecVersion : String) (currentSpec : InstrumentSpec) :
    List String :=
  accountMismatches snapshot expectation
  ++ positionMismatches positions expectation
  ++ pendingOrderMismatches orders expectation
  ++ instrumentSpecMismatches expectedSpecVersion currentSpec

/-- Compare the latest stored observation with the expectation. -/
def reconcile [Externals] (expectation : ExpectedState) (now : UtcDatetime)
    (maxSnapshotAge : Timedelta := defaultMaxSnapshotAge) : Pass ReconciliationResult := do
  match ← ask .latestAccountSnapshot with
  | none =>
      pure ⟨.unknown, ["no broker-state snapshot has ever been captured"], now, none⟩
  | some snapshot =>
      match snapshotUnknown snapshot expectation now maxSnapshotAge with
      | some reason => pure ⟨.unknown, [reason], now, some snapshot.snapshotId⟩
      | none =>
          match expectation.expectedSpecVersion with
          | none =>
              pure ⟨.unknown, [s!"no approved instrument-spec baseline has been pinned for {quoted expectation.canonicalSymbol} — see config.MarketConfig.expected_spec_version"],
                now, some snapshot.snapshotId⟩
          | some expectedSpecVersion =>
              match ← ask (.latestSpec expectation.canonicalSymbol) with
              | none =>
                  pure ⟨.unknown, [s!"no instrument spec has ever been observed for {quoted expectation.canonicalSymbol}"],
                    now, some snapshot.snapshotId⟩
              | some currentSpec =>
                  let positions ← ask (.positionsFor snapshot.snapshotId)
                  let orders ← ask (.pendingOrdersFor snapshot.snapshotId)
                  let found := mismatches snapshot positions orders expectation
                    expectedSpecVersion currentSpec
                  pure ⟨if found = [] then .matched else .mismatched, found, now,
                    some snapshot.snapshotId⟩

/-! ## Protective stops -/

structure ProtectiveStopIssue where
  ticket : Int
  reason : ReasonCode
  expected : Option Decimal
  observed : Option Decimal

/-- What is wrong with the stop of one attributed position. -/
def protectiveStopIssue (ticket : Int) (expected observed : Option Decimal) :
    Option ProtectiveStopIssue :=
  match expected, observed with
  | none, observed => some ⟨ticket, .protectiveStopMissing, none, observed⟩
  | some e, none => some ⟨ticket, .protectiveStopMissing, some e, none⟩
  | some e, some o =>
      if o.compare e ≠ .eq then some ⟨ticket, .protectiveStopMismatch, some e, some o⟩ else none

/-- The last position with a ticket, as a dictionary keyed by ticket would hold it. -/
def positionByTicket (positions : List PositionState) (ticket : Int) : Option PositionState :=
  positions.reverse.find? fun p => p.ticket = ticket

/-- `positions_by_ticket[ticket]`. -/
def positionAt (positions : List PositionState) (ticket : Int) : Except PyError PositionState :=
  match positionByTicket positions ticket with
  | some p => .ok p
  | none => .error ⟨.lookup, toString ticket⟩

def verifyProtectiveStops (positions : List PositionState) (attributed : List Int)
    (expectedStopLossPrice : Option Decimal) : Except PyError (List ProtectiveStopIssue) := do
  let found ← (sortedSet attributed).mapM fun ticket => do
    let p ← positionAt positions ticket
    pure (protectiveStopIssue ticket expectedStopLossPrice (p.stopLossPrice.map (·.val)))
  pure found.reduceOption

end Crumblr
