import Crumblr.TradingAgent.Base

/-!
# A simulated broker for replay

The fill model is an approximation, and a pessimistic one: an entry fills at the far side of the
book and slips by a fraction of the spread; a bar that touches both the stop and the target is
resolved as a stop; a stop fills at its price with slippage against it.
-/

namespace Crumblr

/-- One step of a replay: a closed bar with the quote observed at its close. -/
structure GeneratedTick where
  bar : Bar
  bid : Decimal
  ask : Decimal
  spreadPoints : Int
  eventTimeUtc : UtcDatetime
  receivedTimeUtc : UtcDatetime
  dataQuality : DataQuality
  injectedFault : Option String

/-- Slippage against an entry and a stop, as a fraction of the half spread. -/
def slippageSpreadFraction : Decimal := ⟨25, -2⟩

/-- A round trip, kept for the scorecard. -/
structure ClosedTrade where
  ticket : Int
  side : Side
  volume : Decimal
  entryPrice : Decimal
  exitPrice : Decimal
  openedAtUtc : UtcDatetime
  closedAtUtc : UtcDatetime
  profit : Decimal
  exitReason : String
  entrySlippagePoints : Int
  maxAdverseExcursion : Decimal
  maxFavourableExcursion : Decimal
  deriving DecidableEq

structure OpenPosition where
  ticket : Int
  orderRequestId : Uuid
  intentId : Uuid
  side : Side
  volume : Volume
  entryPrice : Decimal
  stopLossPrice : Price
  takeProfitPrice : Option Price
  openedAtUtc : UtcDatetime
  entrySlippagePoints : Int
  worstPrice : Decimal
  bestPrice : Decimal
  directional : side ≠ .flat

/-- An execution result, with what only a fill has. -/
structure SimulatedResult extends ExecutionResult where
  mt5PositionTicket : Option Int
  slippagePoints : Option Int
  submittedAtUtc : Option UtcDatetime
  brokerTimeUtc : Option UtcDatetime
  completedAtUtc : Option UtcDatetime
  latencyMs : Option Nat

structure SimulatedBroker where
  spec : InstrumentSpec
  balance : Decimal
  currency : String
  server : String
  login : Int
  leverage : Nat
  /-- The positions by ticket, oldest first. -/
  open_ : List OpenPosition
  closed : List ClosedTrade
  handledRequests : List (Uuid × SimulatedResult)
  nextTicket : Int
  tick : Option GeneratedTick
  now : Option UtcDatetime

namespace SimulatedBroker

variable (b : SimulatedBroker)

/-- A broker that has seen nothing. -/
def create (spec : InstrumentSpec) (startingBalance : Decimal) (accountCurrency server : String)
    (login : Int) (leverage : Nat) : SimulatedBroker where
  spec
  balance := startingBalance
  currency := accountCurrency
  server
  login
  leverage
  open_ := []
  closed := []
  handledRequests := []
  nextTicket := 500000
  tick := none
  now := none

def requireTick : Except PyError GeneratedTick :=
  match b.tick with
  | some tick => .ok tick
  | none => .error ⟨.other, "simulated broker has no market data; call advance() first"⟩

def requireNow : Except PyError UtcDatetime :=
  match b.now with
  | some now => .ok now
  | none => .error ⟨.other, "simulated broker has no clock; call advance() first"⟩

def profit (side : Side) (volume entry exitPrice : Decimal) : Decimal :=
  let move := if side = .buy then exitPrice - entry else entry - exitPrice
  move / b.spec.tickSize.val * b.spec.tickValue.val * volume

def halfSpread (tick : GeneratedTick) : Decimal :=
  ⟨tick.spreadPoints, 0⟩ * b.spec.point.val / 2

/-- Take a position out of the book at a price. -/
def close (position : OpenPosition) (exitPrice : Decimal) (reason : String) (at_ : UtcDatetime) :
    SimulatedBroker × ClosedTrade :=
  let profit := b.profit position.side position.volume.val position.entryPrice exitPrice
  let trade : ClosedTrade := {
    ticket := position.ticket
    side := position.side
    volume := position.volume.val
    entryPrice := position.entryPrice
    exitPrice
    openedAtUtc := position.openedAtUtc
    closedAtUtc := at_
    profit
    exitReason := reason
    entrySlippagePoints := position.entrySlippagePoints
    maxAdverseExcursion :=
      b.profit position.side position.volume.val position.entryPrice position.worstPrice
    maxFavourableExcursion :=
      b.profit position.side position.volume.val position.entryPrice position.bestPrice }
  ({ b with
      open_ := b.open_.filter fun p => p.ticket ≠ position.ticket
      balance := b.balance + profit
      closed := b.closed ++ [trade] }, trade)

/-- The prices a bar offers a position: a long exits on the bid, below the traded price, and a
short on the ask, above it. -/
def exitRange (tick : GeneratedTick) (side : Side) : Decimal × Decimal :=
  if side = .buy then (tick.bar.low.val - b.halfSpread tick, tick.bar.high.val - b.halfSpread tick)
  else (tick.bar.low.val + b.halfSpread tick, tick.bar.high.val + b.halfSpread tick)

/-- A position with the worst and the best it has seen. -/
def marked (tick : GeneratedTick) (position : OpenPosition) : OpenPosition :=
  let (low, high) := b.exitRange tick position.side
  if position.side = .buy then
    { position with
      worstPrice := position.worstPrice.min low
      bestPrice := position.bestPrice.max high }
  else
    { position with
      worstPrice := position.worstPrice.max high
      bestPrice := position.bestPrice.min low }

/-- Where a bar takes a position out, if it does. -/
def exitOf (tick : GeneratedTick) (position : OpenPosition) : Option (Decimal × String) :=
  let (low, high) := b.exitRange tick position.side
  let buy := decide (position.side = .buy)
  let hitStop := if buy then decide (low ≤ position.stopLossPrice.val)
    else decide (position.stopLossPrice.val ≤ high)
  let hitTarget := position.takeProfitPrice.filter fun target =>
    if buy then decide (target.val ≤ high) else decide (low ≤ target.val)
  -- a bar that touches both is a stop
  if hitStop then
    let slip := b.halfSpread tick * slippageSpreadFraction
    some (if buy then position.stopLossPrice.val - slip else position.stopLossPrice.val + slip,
      "stop_loss")
  else hitTarget.map fun target => (target.val, "take_profit")

/-- One position of the book at a new tick. -/
def resolveExit (tick : GeneratedTick) (s : SimulatedBroker × List ClosedTrade)
    (position : OpenPosition) : SimulatedBroker × List ClosedTrade :=
  let (b, trades) := s
  let position := b.marked tick position
  let b := { b with
    open_ := b.open_.map fun p => if p.ticket = position.ticket then position else p }
  match b.exitOf tick position with
  | none => (b, trades)
  | some (exitPrice, reason) =>
      let (b, trade) := b.close position exitPrice reason tick.eventTimeUtc
      (b, trades ++ [trade])

/-- Move the simulation to a tick, closing what it triggers. -/
def advance (tick : GeneratedTick) : SimulatedBroker × List ClosedTrade :=
  b.open_.foldl (resolveExit tick) ({ b with tick := some tick, now := some tick.receivedTimeUtc }, [])

/-- A price the result's contract admits. -/
def resultPrice (price : Decimal) : Except PyError Price :=
  if h : 0 < price then .ok ⟨price, h⟩
  else .error ⟨.validation, "Input should be greater than 0"⟩

/-- What an order would be filled at now. -/
structure SimulatedFill where
  tick : GeneratedTick
  now : UtcDatetime
  requested : Decimal
  price : Decimal
  slippagePoints : Int

def fillOf (order : ApprovedOrder) : Except PyError SimulatedFill := do
  let tick ← b.requireTick
  let now ← b.requireNow
  let buy := decide (order.side = .buy)
  let slip ← match (b.halfSpread tick * slippageSpreadFraction).quantize .down
      b.spec.tickSize.val.exp with
    | some slip => pure slip
    | none => throw ⟨.invalidOperation, ""⟩
  let requested := if buy then tick.ask else tick.bid
  let price := if buy then requested + slip else requested - slip
  let slippagePoints ←
    priceToPoints (if buy then price - requested else requested - price) b.spec.point.val
  pure { tick, now, requested, price, slippagePoints }

/-- Put a position into the book. -/
def opened (order : ApprovedOrder) (fill : SimulatedFill) : SimulatedBroker :=
  { b with
    nextTicket := b.nextTicket + 1
    open_ := b.open_ ++ [{
      ticket := b.nextTicket
      orderRequestId := order.orderRequestId
      intentId := order.intentId
      side := order.side
      volume := order.volume
      entryPrice := fill.price
      stopLossPrice := order.stopLossPrice
      takeProfitPrice := order.takeProfitPrice
      openedAtUtc := fill.tick.eventTimeUtc
      entrySlippagePoints := fill.slippagePoints
      worstPrice := fill.price
      bestPrice := fill.price
      directional := order.directional }] }

def fillResult [Externals] (order : ApprovedOrder) (fill : SimulatedFill) (ticket : Int) :
    Except PyError SimulatedResult := do
  let requestedPrice ← resultPrice fill.requested
  let executedPrice ← resultPrice fill.price
  pure {
    executionId := Externals.uuid5 ("crumblr:exec:" ++ order.orderRequestId.text)
    orderRequestId := order.orderRequestId
    intentId := some order.intentId
    state := .filled
    mt5OrderTicket := some ticket
    mt5DealTicket := some ticket
    mt5PositionTicket := some ticket
    retcode := some 10009
    retcodeComment := some "simulated fill"
    requestedPrice := some requestedPrice
    executedPrice := some executedPrice
    requestedVolume := some order.volume
    executedVolume := some ⟨order.volume.val, le_of_lt order.volume.property⟩
    slippagePoints := some fill.slippagePoints
    submittedAtUtc := some fill.now
    brokerTimeUtc := some fill.tick.eventTimeUtc
    completedAtUtc := some fill.now
    latencyMs := some 0 }

/-- Open a position; a request that was handled gets its result again. The position is in the
book before its result is built, and stays there when that fails. -/
def orderSend [Externals] (order : ApprovedOrder) : Except PyError SimulatedResult × SimulatedBroker :=
  match b.handledRequests.lookup order.orderRequestId with
  | some result => (.ok result, b)
  | none =>
      match b.fillOf order with
      | .error error => (.error error, b)
      | .ok fill =>
          match fillResult order fill b.nextTicket with
          | .error error => (.error error, b.opened order fill)
          | .ok result =>
              let b := b.opened order fill
              (.ok result,
                { b with handledRequests := b.handledRequests ++ [(order.orderRequestId, result)] })

/-- Close every open position at the current quote. -/
def closeAllPositions (reason : String) : Except PyError (List Int × SimulatedBroker) := do
  let tick ← b.requireTick
  let (closed, tickets) := b.open_.foldl (fun (b, tickets) position =>
    let exitPrice := if position.side = .buy then tick.bid else tick.ask
    ((b.close position exitPrice reason tick.eventTimeUtc).1, tickets ++ [position.ticket])) (b, [])
  pure (tickets, closed)

/-! ## What it reports -/

/-- What a position would bring now. -/
def profitOf (position : OpenPosition) : Except PyError Decimal := do
  let tick ← b.requireTick
  pure (b.profit position.side position.volume.val position.entryPrice
    (if position.side = .buy then tick.bid else tick.ask))

def unrealisedProfit : Except PyError Decimal := do
  let profits ← b.open_.mapM b.profitOf
  pure (profits.foldl (· + ·) 0)

def equity : Except PyError Decimal := do
  pure (b.balance + (← b.unrealisedProfit))

def marginFor (volume : Volume) : Except PyError Decimal := do
  let tick ← b.requireTick
  pure (volume.val * b.spec.contractSize.val * tick.ask / ⟨b.leverage, 0⟩)

def usedMargin : Except PyError Decimal := do
  let margins ← b.open_.mapM fun position => b.marginFor position.volume
  pure (margins.foldl (· + ·) 0)

/-- A margin the contracts admit. -/
def contractMargin (margin : Decimal) : Except PyError { d : Decimal // 0 ≤ d } :=
  if h : 0 ≤ margin then .ok ⟨margin, h⟩
  else .error ⟨.validation, "Input should be greater than or equal to 0"⟩

def account : Except PyError AccountState := do
  let equity ← b.equity
  let margin ← b.usedMargin
  let observedAtUtc ← b.requireNow
  let contractMargin ← contractMargin margin
  pure {
    login := b.login
    server := b.server
    currency := b.currency
    isDemo := true
    tradeAllowed := true
    expertAllowed := true
    connected := true
    balance := b.balance
    equity
    margin := contractMargin
    marginFree := equity - margin
    marginLevel := if 0 < margin then some (equity / margin * ⟨100, 0⟩) else none
    leverage := b.leverage
    observedAtUtc }

/-- An open position as it is reported; one that was entered at no price a contract admits cannot
be. -/
def positionState (now : UtcDatetime) (position : OpenPosition) : Except PyError PositionState := do
  let profit ← b.profitOf position
  let openPrice ← resultPrice position.entryPrice
  pure {
    ticket := position.ticket
    brokerSymbol := b.spec.brokerSymbol
    side := position.side
    volume := position.volume
    openPrice
    currentPrice := none
    stopLossPrice := some position.stopLossPrice
    takeProfitPrice := position.takeProfitPrice
    openedAtUtc := position.openedAtUtc
    profit
    swap := 0
    magic := none
    observedAtUtc := now
    directional := position.directional }

def positions : Except PyError (List PositionState) := do
  let now ← b.requireNow
  b.open_.mapM (b.positionState now)

/-- Check volume and margin. -/
def orderCheck (order : ApprovedOrder) : Except PyError OrderCheckCompleted := do
  let marginRequired ← b.marginFor order.volume
  let account ← b.account
  let (accepted, comment) :=
    if order.volume.val < b.spec.volumeMin.val ∨ b.spec.volumeMax.val < order.volume.val then
      (false, "volume outside broker limits")
    else if account.marginFree < marginRequired then (false, "insufficient free margin")
    else (true, "ok")
  let contractMargin ← contractMargin marginRequired
  pure {
    orderRequestId := order.orderRequestId
    intentId := order.intentId
    accepted
    retcode := some (if accepted then 0 else 10019)
    comment := some comment
    marginRequired := some contractMargin
    payload := none }

end SimulatedBroker

end Crumblr
