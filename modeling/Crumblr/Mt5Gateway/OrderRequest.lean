import Crumblr.Domain.Models
import Crumblr.Lib.DecimalValue

/-!
# The request MT5 is sent

`order_check` and `order_send` submit one and the same dictionary for an approved order, a close
another one. MT5's package is outside the repository: its constants are a table of numbers that
differ where they are told apart, and what a dictionary asks for is read off its keys. A float
stands for the exact value of the decimal it is made from.
-/

namespace Crumblr

/-- The request constants of the MT5 package. -/
structure Mt5Module where
  tradeActionDeal : Int
  tradeActionPending : Int
  orderTypeBuy : Int
  orderTypeSell : Int
  orderTypeBuyLimit : Int
  orderTypeSellLimit : Int
  orderTimeGtc : Int
  orderFillingIoc : Int
  orderFillingReturn : Int
  actions : tradeActionDeal ≠ tradeActionPending
  marketTypes : orderTypeBuy ≠ orderTypeSell
  limitTypes : orderTypeBuyLimit ≠ orderTypeSellLimit

inductive Mt5Value where
  | int (n : Int)
  | str (s : String)
  | float (x : ℚ)
  deriving DecidableEq

/-- A request, its keys in the order they are set. -/
abbrev Mt5Request := List (String × Mt5Value)

namespace Mt5Module

def marketOrderType (module : Mt5Module) : Side → Option Int
  | .buy => some module.orderTypeBuy
  | .sell => some module.orderTypeSell
  | .flat => none

def limitOrderType (module : Mt5Module) : Side → Option Int
  | .buy => some module.orderTypeBuyLimit
  | .sell => some module.orderTypeSellLimit
  | .flat => none

end Mt5Module

/-- The `magic` an order is recognised by at the broker: derived, never assigned. -/
def ApprovedOrder.magicNumber [Externals] (order : ApprovedOrder) : Int :=
  mt5MagicNumber order.orderRequestId

/-- The key, if there is a value for it. -/
def optionalKey (key : String) : Option Price → Mt5Request
  | none => []
  | some price => [(key, .float price.val.value)]

/-- The action, order type and filling mode of an entry. -/
def entryConstants (module : Mt5Module) (order : ApprovedOrder) :
    Except PyError (Int × Option Int × Int) :=
  match order.entryType with
  | .market =>
      .ok (module.tradeActionDeal, module.marketOrderType order.side, module.orderFillingIoc)
  | .limit =>
      .ok (module.tradeActionPending, module.limitOrderType order.side, module.orderFillingReturn)
  | .stop =>
      .error ⟨.value, order.entryType.value
        ++ " orders are not supported: ICT LIMIT DEMO EXECUTION "
        ++ "Slice 1 adds LIMIT only, alongside the existing MARKET path -- STOP "
        ++ "remains a later, separate scope decision"⟩

def buildOrderRequest [Externals] (module : Mt5Module) (order : ApprovedOrder) :
    Except PyError Mt5Request := do
  let (action, orderTypeConstant, fillingMode) ← entryConstants module order
  match orderTypeConstant with
  | none => .error ⟨.value, "no MT5 order type for side " ++ order.side.value⟩
  | some orderType =>
      .ok ([("action", .int action),
        ("symbol", .str order.brokerSymbol),
        ("volume", .float order.volume.val.value),
        ("type", .int orderType),
        ("magic", .int order.magicNumber),
        ("sl", .float order.stopLossPrice.val.value),
        ("type_time", .int module.orderTimeGtc),
        ("type_filling", .int fillingMode)]
        ++ (if order.entryType = .market then [("deviation", .int order.maxSlippagePoints)] else [])
        ++ optionalKey "price" order.price
        ++ optionalKey "tp" order.takeProfitPrice)

def buildCloseOrderRequest (module : Mt5Module) (instruction : FlattenInstruction) :
    Except PyError Mt5Request :=
  match module.marketOrderType instruction.closeSide with
  | none =>
      .error ⟨.value, "no MT5 market order type for close_side " ++ instruction.closeSide.value⟩
  | some orderType =>
      .ok [("action", .int module.tradeActionDeal),
        ("symbol", .str instruction.brokerSymbol),
        ("volume", .float instruction.volume.val.value),
        ("type", .int orderType),
        ("position", .int instruction.ticket),
        ("magic", .int (instruction.magic.getD 0)),
        ("type_time", .int module.orderTimeGtc),
        ("type_filling", .int module.orderFillingIoc)]

/-! ## Asking the broker to check an order -/

/-- What the terminal says of an order it was asked to check. -/
structure OrderCheckReply where
  retcode : Int
  balance : PyFloat
  equity : PyFloat
  profit : PyFloat
  margin : PyFloat
  marginFree : PyFloat
  marginLevel : PyFloat
  comment : String
  /-- The decimal the margin's text spells; a float that is no finite number is `none`. -/
  marginDecimal : Option Decimal

namespace OrderCheckReply

/-- The comment, absent when it is empty. -/
def comment? (reply : OrderCheckReply) : Option String :=
  if reply.comment = "" then none else some reply.comment

/-- The broker's own numbers, as it gave them. -/
def payload (reply : OrderCheckReply) : Json :=
  .obj [
    ("retcode", .int reply.retcode),
    ("balance", .float reply.balance),
    ("equity", .float reply.equity),
    ("profit", .float reply.profit),
    ("margin", .float reply.margin),
    ("margin_free", .float reply.marginFree),
    ("margin_level", .float reply.marginLevel),
    ("comment", .opt .str reply.comment?)]

def marginRequired (reply : OrderCheckReply) : Except PyError { d : Decimal // 0 ≤ d } :=
  match reply.marginDecimal with
  | none => .error ⟨.validation, "margin_required: Input should be a finite number"⟩
  | some d =>
      if nonneg : 0 ≤ d then .ok ⟨d, nonneg⟩
      else .error ⟨.validation, "margin_required: Input should be greater than or equal to 0"⟩

end OrderCheckReply

/-- The check of an order the broker answered; its own success code is zero. -/
def readOrderCheck (order : ApprovedOrder) (reply : OrderCheckReply) :
    Except PyError OrderCheckCompleted :=
  if 512 < reply.comment.length then
    .error ⟨.validation, "comment: String should have at most 512 characters"⟩
  else do
    let marginRequired ← reply.marginRequired
    .ok {
      orderRequestId := order.orderRequestId
      intentId := order.intentId
      accepted := reply.retcode = 0
      retcode := some reply.retcode
      comment := reply.comment?
      marginRequired := some marginRequired
      payload := some reply.payload }

/-- Ask the broker to validate an order without placing it. -/
def orderCheck [Externals] (module : Mt5Module) (lastError : Int × String)
    (check : Mt5Request → Option OrderCheckReply) (order : ApprovedOrder) :
    Except PyError OrderCheckCompleted :=
  if order.finalRiskDecisionId = none then
    .error ⟨.other, s!"order_check refused for order_request_id={order.orderRequestId.text}: "
      ++ "final_risk_decision_id is None, meaning no FINAL execution-time Risk "
      ++ "revalidation is on record for this order (ADR-001) — the real broker "
      ++ "boundary will not validate an order it cannot prove FINAL Risk approved"⟩
  else do
    let request ← buildOrderRequest module order
    match check request with
    | none => .error ⟨.mt5CallFailed, s!"MT5 order_check failed: [{lastError.1}] {lastError.2}"⟩
    | some reply => readOrderCheck order reply

/-! ## What MT5 reads in a request -/

/-- How long what was asked for may still be executed. -/
inductive Validity where
  | atOnce
  | untilCancelled
  deriving DecidableEq, Repr

/-- What a request asks for. -/
@[ext] structure Mt5Instruction where
  symbol : String
  side : Side
  kind : EntryType
  volume : ℚ
  price : Option ℚ
  stop : Option ℚ
  target : Option ℚ
  magic : Int
  deviation : Option Int
  /-- The position that is to be reduced. -/
  position : Option Int
  validity : Validity

namespace Mt5Request

def int? (r : Mt5Request) (key : String) : Option Int :=
  match r.lookup key with
  | some (.int n) => some n
  | _ => none

def str? (r : Mt5Request) (key : String) : Option String :=
  match r.lookup key with
  | some (.str s) => some s
  | _ => none

def float? (r : Mt5Request) (key : String) : Option ℚ :=
  match r.lookup key with
  | some (.float x) => some x
  | _ => none

end Mt5Request

/-- The direction of an order type, of the two it may be. -/
def readSide (buy sell orderType : Int) : Option Side :=
  if orderType = buy then some .buy else if orderType = sell then some .sell else none

/-- A deal is executed at once or not at all; a pending order rests at its price for as long as
its time type says. -/
def readRequest (module : Mt5Module) (r : Mt5Request) : Option Mt5Instruction := do
  let action ← r.int? "action"
  let symbol ← r.str? "symbol"
  let volume ← r.float? "volume"
  let orderType ← r.int? "type"
  let magic ← r.int? "magic"
  if action = module.tradeActionDeal then do
    let side ← readSide module.orderTypeBuy module.orderTypeSell orderType
    some ⟨symbol, side, .market, volume, r.float? "price", r.float? "sl", r.float? "tp", magic,
      r.int? "deviation", r.int? "position", .atOnce⟩
  else if action = module.tradeActionPending then do
    let side ← readSide module.orderTypeBuyLimit module.orderTypeSellLimit orderType
    let price ← r.float? "price"
    let typeTime ← r.int? "type_time"
    if typeTime = module.orderTimeGtc then
      some ⟨symbol, side, .limit, volume, some price, r.float? "sl", r.float? "tp", magic,
        r.int? "deviation", none, .untilCancelled⟩
    else none
  else none

/-- When an instruction that was sent at some time may be executed. -/
def Mt5Instruction.MayExecute (i : Mt5Instruction) (sentAt at_ : UtcDatetime) : Prop :=
  match i.validity with
  | .atOnce => at_ = sentAt
  | .untilCancelled => sentAt ≤ at_

/-- A position on a hedging account. -/
structure OpenTicket where
  ticket : Int
  side : Side
  volume : ℚ
  directional : side ≠ .flat

/-- A deal that names a position reduces it, if it is of the other side. -/
def Mt5Instruction.reduce (i : Mt5Instruction) (ticket : Int) (h : OpenTicket) : Option OpenTicket :=
  if h.ticket = ticket ∧ h.side ≠ i.side then
    if h.volume ≤ i.volume then none else some { h with volume := h.volume - i.volume }
  else some h

/-- The positions of an account after a deal: one that names none opens its own. -/
def Mt5Instruction.deal (i : Mt5Instruction) (opened : OpenTicket) (book : List OpenTicket) :
    List OpenTicket :=
  match i.position with
  | some ticket => book.filterMap (i.reduce ticket)
  | none => book ++ [opened]

end Crumblr
