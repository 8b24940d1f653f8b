import Crumblr.Lib.System
import Crumblr.Persistence.Database

/-!
# What an execution worker asks of the world, and what the world does

Every contact a worker has with anything outside its own pass is one call: a
store method, the broker port, the kill switch of its process, the clock. A store
call does what the database does. A broker call answers whatever the oracle says,
so nothing is assumed of the market.

Orders that leave through `order_send` are kept in the order they were sent, each
with what became of it on its way: a call that raised may still have reached the
broker, may be lost, or may be on the wire with its fate open.
-/

namespace Crumblr

/-- A worker's contacts with the world. -/
inductive Call where
  | clock
  | uuid4
  | readAll (environment : Environment) (canonicalSymbol : String)
  | claim (row : ExecutionRequest)
  | append (event : ExecutionEventRecord)
  | eventsFor (orderRequestId : Uuid)
  | countEventsSince (eventType : ExecutionEventType) (since : UtcDatetime)
      (environment : Environment) (canonicalSymbol : String)
  | requestIdsWithEvent (eventType : ExecutionEventType) (environment : Environment)
      (canonicalSymbol : String)
  | permitFor (permitId : Uuid)
  | consumeAndStart (permitId orderRequestId : Uuid) (now : UtcDatetime) (payload : Json)
  | claimFlatten (row : FlattenRequest)
  | appendFlatten (event : FlattenEventRecord)
  | flattenEventsFor (flattenRequestId : Uuid)
  | occurrenceHistories (environment : Environment) (canonicalSymbol : String)
  | record (observation : BrokerStateObservation)
  | latestAccountSnapshot
  | positionsFor (snapshotId : Uuid)
  | pendingOrdersFor (snapshotId : Uuid)
  | latestSpec (canonicalSymbol : String)
  /-- Take the risk-ledger lock, read the session under it, release it. -/
  | loadRiskSession (canonicalSymbol : String)
  | killSwitch
  | trip (halt : HaltRecord)
  | accountWithExtras
  | terminalHealth
  | positions
  | pendingOrders
  | ticks (canonicalSymbol : String) (since : UtcDatetime) (count : Nat) (source : String)
  | orderCheck (order : ApprovedOrder)
  | orderSend (order : ApprovedOrder)
  | closePosition (instruction : FlattenInstruction)

abbrev Call.Answer : Call → Type
  | .clock => UtcDatetime
  | .uuid4 => Uuid
  | .readAll .. => List DecisionCapsule
  | .claim _ => Bool
  | .append _ => Bool
  | .eventsFor _ => List ExecutionEventRecord
  | .countEventsSince .. => Nat
  | .requestIdsWithEvent .. => List Uuid
  | .permitFor _ => Option CanaryPermit
  | .consumeAndStart .. => Database.CanaryPermitConsumeOutcome
  | .claimFlatten _ => Bool
  | .appendFlatten _ => Bool
  | .flattenEventsFor _ => List FlattenEventRecord
  | .occurrenceHistories .. => List (Uuid × List FlattenEventRecord)
  | .record _ => Unit
  | .latestAccountSnapshot => Option BrokerAccountSnapshot
  | .positionsFor _ => List BrokerPositionSnapshot
  | .pendingOrdersFor _ => List BrokerPendingOrderSnapshot
  | .latestSpec _ => Option InstrumentSpec
  | .loadRiskSession _ => SessionRecord
  | .killSwitch => KillSwitch
  | .trip _ => Unit
  | .accountWithExtras => AccountState × AccountExtras
  -- whether the terminal permits algorithmic trading
  | .terminalHealth => Option Bool
  | .positions => List PositionState
  | .pendingOrders => List PendingOrderState
  | .ticks .. => List MarketTick
  | .orderCheck _ => OrderCheckCompleted
  | .orderSend _ => ExecutionResult
  | .closePosition _ => ExecutionResult

/-- A worker's program. -/
abbrev Pass (α : Type) : Type := Prog Call Call.Answer PyError α

/-- Make a call. -/
def ask (c : Call) : Pass c.Answer := Prog.perform c

/-- A pure computation that may raise. -/
def lift {α : Type} (x : Except PyError α) : Pass α := Prog.ofExcept x

/-! ## The world -/

/-- What became of an order that left a worker. -/
inductive SendFate where
  /-- It is still on its way. -/
  | wire
  /-- It reached the broker. -/
  | reached
  /-- It did not and will not. -/
  | lost
  deriving DecidableEq, Repr

/-- One call of `order_send`. -/
structure Send where
  order : ApprovedOrder
  fate : SendFate

/-- Everything outside the workers' programs. -/
structure World where
  db : Database
  now : UtcDatetime
  /-- The kill switch in each worker's memory. -/
  killSwitches : Nat → KillSwitch
  /-- Every `order_send` call ever made for an entry. -/
  sends : List Send
  /-- Every `close_position` call ever made. -/
  closes : List FlattenInstruction

/-- What the broker port, the clock and the id source answer. -/
structure Replies where
  now : UtcDatetime
  freshId : Uuid
  account : AccountState × AccountExtras
  terminalTradeAllowed : Option Bool
  positions : List PositionState
  pendingOrders : List PendingOrderState
  ticks : List MarketTick
  orderCheck : OrderCheckCompleted
  result : ExecutionResult

/-- What the surroundings choose for one call. -/
structure Oracle where
  replies : Replies
  /-- The call raises this instead of answering, and has no effect. -/
  fault : Option PyError
  /-- What becomes of an order whose `order_send` raises. -/
  fate : SendFate

namespace World

/-- An outcome of a store method, which either has its effect or raises. -/
def stored {α : Type} (w : World) : Except PyError (α × Database) → Except PyError α × World
  | .ok (a, db) => (.ok a, { w with db })
  | .error e => (.error e, w)

/-- Answer a call of worker `i` when nothing fails on the way. -/
def answer [Externals] (r : Replies) (i : Nat) (w : World) :
    (c : Call) → Except PyError c.Answer × World
  | .clock => (.ok (max w.now r.now), { w with now := max w.now r.now })
  | .uuid4 => (.ok r.freshId, w)
  | .readAll environment canonicalSymbol => (.ok (w.db.readAll environment canonicalSymbol), w)
  | .claim row => w.stored (w.db.claim row)
  | .append event => w.stored (w.db.appendEvent event)
  | .eventsFor orderRequestId => (.ok (w.db.eventsFor orderRequestId), w)
  | .countEventsSince eventType since environment canonicalSymbol =>
      (.ok (w.db.countEventsSince eventType since environment canonicalSymbol), w)
  | .requestIdsWithEvent eventType environment canonicalSymbol =>
      (.ok (w.db.requestIdsWithEvent eventType environment canonicalSymbol), w)
  | .permitFor permitId => (.ok (w.db.permitFor permitId), w)
  | .consumeAndStart permitId orderRequestId now payload =>
      w.stored (w.db.consumeAndStart permitId orderRequestId now payload)
  | .claimFlatten row => w.stored (w.db.claimFlatten row)
  | .appendFlatten event => w.stored (w.db.appendFlattenEvent event)
  | .flattenEventsFor flattenRequestId => (.ok (w.db.flattenEventsFor flattenRequestId), w)
  | .occurrenceHistories environment canonicalSymbol =>
      (.ok (w.db.occurrenceHistories environment canonicalSymbol), w)
  | .record observation => (.ok (), { w with db := w.db.record observation })
  | .latestAccountSnapshot => (.ok w.db.latestAccountSnapshot, w)
  | .positionsFor snapshotId => (.ok (w.db.positionsFor snapshotId), w)
  | .pendingOrdersFor snapshotId => (.ok (w.db.pendingOrdersFor snapshotId), w)
  | .latestSpec canonicalSymbol => (.ok (w.db.latestSpec canonicalSymbol), w)
  | .loadRiskSession canonicalSymbol => (.ok (w.db.riskSessions canonicalSymbol), w)
  | .killSwitch => (.ok (w.killSwitches i), w)
  | .trip halt =>
      (.ok (), { w with
        db := { w.db with safetyState := some halt.toSafetyState }
        killSwitches := Function.update w.killSwitches i ((w.killSwitches i).tripped halt) })
  | .accountWithExtras => (.ok r.account, w)
  | .terminalHealth => (.ok r.terminalTradeAllowed, w)
  | .positions => (.ok r.positions, w)
  | .pendingOrders => (.ok r.pendingOrders, w)
  | .ticks .. => (.ok r.ticks, w)
  | .orderCheck _ => (.ok r.orderCheck, w)
  | .orderSend order => (.ok r.result, { w with sends := w.sends ++ [⟨order, .reached⟩] })
  | .closePosition instruction =>
      (.ok r.result, { w with closes := w.closes ++ [instruction] })

/-- What is left of a call that raises: nothing, unless it was an order going out. -/
def failed (fate : SendFate) (w : World) : Call → World
  | .orderSend order => { w with sends := w.sends ++ [⟨order, fate⟩] }
  | .closePosition instruction => { w with closes := w.closes ++ [instruction] }
  | _ => w

/-- Reading the clock, a fresh id or the process's own memory cannot fail. -/
def canFail : Call → Bool
  | .clock | .uuid4 | .killSwitch => false
  | _ => true

/-- What the world does with a call of worker `i`. -/
def serve [Externals] (o : Oracle) (i : Nat) (w : World) (c : Call) :
    Except PyError c.Answer × World :=
  match o.fault with
  | some e => if canFail c then (.error e, w.failed o.fate c) else w.answer o.replies i c
  | none => w.answer o.replies i c

/-- A worker's process starts: its kill switch is what the durable record says. -/
def restart (i : Nat) (w : World) : World :=
  { w with
    killSwitches :=
      Function.update w.killSwitches i (KillSwitch.onStartup (w.db.loadSafetyState w.now)) }

/-- What happens without any execution worker's doing. -/
inductive Event where
  /-- The decision tier seals a capsule. -/
  | sealCapsule (capsule : DecisionCapsule)
  /-- An operator issues a permit. -/
  | issue (permit : CanaryPermit)
  /-- Some process records a broker observation. -/
  | observe (observation : BrokerStateObservation)
  /-- Some process records an instrument specification. -/
  | specify (spec : InstrumentSpec)
  /-- Some process records a risk session. -/
  | saveSession (canonicalSymbol : String) (session : SessionRecord)
  /-- Some process halts, or an operator resets, the durable safety state. -/
  | saveSafety (state : SafetyState)
  /-- An order on the wire reaches the broker. -/
  | deliver (n : Nat)
  /-- An order on the wire is lost. -/
  | drop (n : Nat)
  /-- Time passes. -/
  | wait (until_ : UtcDatetime)

/-- Decide the fate of an order that is still on the wire. -/
def settle (fate : SendFate) (n : Nat) (w : World) : World :=
  { w with sends := w.sends.modify n fun s =>
      if s.fate = .wire then { s with fate } else s }

def nature : Event → World → World
  | .sealCapsule capsule, w =>
      if w.db.decisionCapsules.any (fun c => c.capsuleId = capsule.capsuleId) then w
      else { w with db := { w.db with decisionCapsules := w.db.decisionCapsules ++ [capsule] } }
  | .issue permit, w =>
      { w with db := { w.db with canaryPermits :=
          (Table.insert? (·.permitId) w.db.canaryPermits permit).getD w.db.canaryPermits } }
  | .observe observation, w => { w with db := w.db.record observation }
  | .specify spec, w =>
      { w with db := { w.db with instrumentSpecs := w.db.instrumentSpecs ++ [spec] } }
  | .saveSession canonicalSymbol session, w =>
      { w with db := { w.db with
          riskSessions := Function.update w.db.riskSessions canonicalSymbol session } }
  | .saveSafety state, w => { w with db := { w.db with safetyState := some state } }
  | .deliver n, w => w.settle .reached n
  | .drop n, w => w.settle .lost n
  | .wait until_, w => { w with now := max w.now until_ }

end World

end Crumblr
