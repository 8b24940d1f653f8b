import Crumblr.Application.Flatten
import Crumblr.Mt5Gateway.OrderRequest

/-!
# Sending an order to MT5

The real `order_send` and the closes: what they ask before they send, and how they read
the terminal's reply. MT5's own package is outside the repository, so its constants
are a table and its reply is data: any reply, or none.
-/

namespace Crumblr

/-- The return codes of the MT5 package that an order's reply is read by. -/
structure RetcodeTable where
  done : Int
  donePartial : Int
  placed : Int
  timeout : Int
  connection : Int

/-- What the terminal says of an order it was sent. -/
structure OrderSendReply where
  retcode : Int
  comment : String
  order : Int
  deal : Int
  /-- A float that is no finite number is `none`. -/
  price : Option Decimal
  volume : Option Decimal

/-- The state a return code stands for. -/
def orderStateOf (module : RetcodeTable) (retcode : Int) : OrderState :=
  if retcode = module.done then .filled
  else if retcode = module.donePartial then .partiallyFilled
  else if retcode = module.placed then .submitted
  else .rejected

/-- The executed price, absent when the terminal reports none. -/
def executedPriceOf (price : Option Decimal) : Except PyError (Option Price) :=
  match price with
  | none => .error ⟨.validation, "executed_price: Input should be a finite number"⟩
  | some d =>
      if d.coeff = 0 then .ok none
      else if positive : 0 < d then .ok (some ⟨d, positive⟩)
      else .error ⟨.validation, "executed_price: Input should be greater than 0"⟩

def executedVolumeOf (volume : Option Decimal) :
    Except PyError { d : Decimal // 0 ≤ d } :=
  match volume with
  | none => .error ⟨.validation, "executed_volume: Input should be a finite number"⟩
  | some d =>
      if nonneg : 0 ≤ d then .ok ⟨d, nonneg⟩
      else .error ⟨.validation, "executed_volume: Input should be greater than or equal to 0"⟩

/-- The comment, absent when it is empty. -/
def retcodeCommentOf (comment : String) : Except PyError (Option String) :=
  if 512 < comment.length then
    .error ⟨.validation, "retcode_comment: String should have at most 512 characters"⟩
  else .ok (if comment = "" then none else some comment)

/-- Read the terminal's reply to an `order_send`. -/
def decodeOrderSendResult (operation : String) (module : RetcodeTable) (lastError : Int × String)
    (executionId : Uuid) (result : Option OrderSendReply) (orderRequestId : Uuid)
    (intentId : Option Uuid) (requestedPrice : Option Price) (requestedVolume : Option Volume) :
    Except PyError ExecutionResult :=
  match result with
  | none => .error ⟨.mt5CallFailed, s!"MT5 {operation} failed: [{lastError.1}] {lastError.2}"⟩
  | some reply => do
      let executedPrice ← executedPriceOf reply.price
      let executedVolume ← executedVolumeOf reply.volume
      let retcodeComment ← retcodeCommentOf reply.comment
      pure {
        executionId
        orderRequestId
        intentId
        state := orderStateOf module reply.retcode
        mt5OrderTicket := if reply.order = 0 then none else some reply.order
        mt5DealTicket := if reply.deal = 0 then none else some reply.deal
        retcode := some reply.retcode
        retcodeComment
        requestedPrice
        executedPrice
        requestedVolume
        executedVolume := some executedVolume }

/-- The reply is read by its return code. -/
theorem decodeOrderSendResult_ok {operation : String} {module : RetcodeTable}
    {lastError : Int × String} {executionId orderRequestId : Uuid}
    {result : Option OrderSendReply} {intentId : Option Uuid} {requestedPrice : Option Price}
    {requestedVolume : Option Volume} {r : ExecutionResult}
    (h : decodeOrderSendResult operation module lastError executionId result orderRequestId
      intentId requestedPrice requestedVolume = .ok r) :
    ∃ reply, result = some reply ∧ r.state = orderStateOf module reply.retcode := by
  unfold decodeOrderSendResult at h
  split at h
  · cases h
  · rename_i reply
    obtain ⟨price, -, h⟩ := bind_ok h
    obtain ⟨volume, -, h⟩ := bind_ok h
    obtain ⟨comment, -, h⟩ := bind_ok h
    cases h
    exact ⟨reply, rfl, rfl⟩

/-- Submit an order: an order without a FINAL decision is refused before it is sent. -/
def orderSend (module : RetcodeTable) (lastError : Int × String) (executionId : Uuid)
    (result : Option OrderSendReply) (order : ApprovedOrder) : Except PyError ExecutionResult :=
  if order.finalRiskDecisionId = none then
    .error ⟨.other, s!"order_send refused for order_request_id={order.orderRequestId.text}: "
      ++ "final_risk_decision_id is None, meaning no FINAL execution-time Risk "
      ++ "revalidation is on record for this order (ADR-001) — the real broker "
      ++ "boundary will not submit an order it cannot prove FINAL Risk approved"⟩
  else
    decodeOrderSendResult "order_send" module lastError executionId result order.orderRequestId
      (some order.intentId) order.price (some order.volume)

theorem orderSend_ok {module : RetcodeTable} {lastError : Int × String} {executionId : Uuid}
    {result : Option OrderSendReply} {order : ApprovedOrder} {r : ExecutionResult}
    (h : orderSend module lastError executionId result order = .ok r) :
    ∃ reply, result = some reply ∧ r.state = orderStateOf module reply.retcode := by
  unfold orderSend at h
  split at h
  · cases h
  · exact decodeOrderSendResult_ok h

/-! ## Closing positions -/

/-- What one attempt to close a position meets. -/
structure CloseReply where
  /-- What reading and verifying the account came to. -/
  account : Except PyError AccountState
  flattenRequestId : Uuid
  observedAtUtc : UtcDatetime
  executionId : Uuid
  lastError : Int × String
  /-- What the terminal says of the close request. -/
  result : Option OrderSendReply

/-- Close exactly one open position at market. -/
def closePosition (module : Mt5Module) (retcodes : RetcodeTable) (reply : CloseReply)
    (instruction : FlattenInstruction) : Except PyError ExecutionResult := do
  let _ ← reply.account
  let _ ← buildCloseOrderRequest module instruction
  decodeOrderSendResult "close_position" retcodes reply.lastError reply.executionId reply.result
    instruction.flattenRequestId none none (some instruction.volume)

/-- The instruction an operator's close gives for a position. -/
def operatorInstruction (reply : CloseReply) (position : PositionState) :
    FlattenInstruction where
  flattenRequestId := reply.flattenRequestId
  ticket := position.ticket
  brokerSymbol := position.brokerSymbol
  positionSide := position.side
  closeSide := closingSide position.side
  volume := position.volume
  openPrice := position.openPrice
  openedAtUtc := position.openedAtUtc
  magic := position.magic
  crossedWeeklyClose := false
  observedAtUtc := reply.observedAtUtc
  directional := position.directional
  inverse := position.closingSide_eq

/-- The loop over the positions; the `n`-th of them meets the `n`-th reply. -/
def closeEach (module : Mt5Module) (retcodes : RetcodeTable) (replies : Nat → CloseReply) :
    Nat → List PositionState → List Int → Except PyError (List Int)
  | _, [], closed => .ok closed
  | n, position :: rest, closed =>
      match closePosition module retcodes (replies n) (operatorInstruction (replies n) position) with
      | .error exc =>
          -- only a failed call leaves the rest to be tried
          if exc.kind = .mt5CallFailed then closeEach module retcodes replies (n + 1) rest closed
          else .error exc
      | .ok result =>
          if result.state = .filled ∨ result.state = .partiallyFilled then
            closeEach module retcodes replies (n + 1) rest (closed ++ [position.ticket])
          else closeEach module retcodes replies (n + 1) rest closed

/-- Close every open position; the tickets that count as closed are returned. -/
def closeAllPositions (module : Mt5Module) (retcodes : RetcodeTable)
    (account : Except PyError AccountState) (positions : Except PyError (List PositionState))
    (replies : Nat → CloseReply) : Except PyError (List Int) := do
  let _ ← account
  let positions ← positions
  closeEach module retcodes replies 0 positions []

end Crumblr
