import Crumblr.Application.Workers
import Crumblr.Mt5Gateway.DemoExecution

/-!
# Workers at MT5

The system of workers with the broker's side of every `order_send` kept: the terminal's
reply, what the gateway made of it, and whether the order was executed or may still be,
which no worker sees. Everything else is as it is without it.
-/

namespace Crumblr

/-- One `order_send`, as it went at the broker. -/
structure Placement where
  order : ApprovedOrder
  /-- What the terminal replied, if it did. -/
  reply : Option OrderSendReply
  /-- What the gateway made of it. -/
  answer : Except PyError ExecutionResult
  /-- Whether the order was executed, or may still be. -/
  executed : Bool

/-- What the surroundings choose for one call when the terminal is one of them. -/
structure TerminalOracle where
  base : Oracle
  reply : Option OrderSendReply
  lastError : Int × String
  executed : Bool

namespace TerminalOracle

/-- What the gateway makes of an order: a fault on the way, or the reply it reads. -/
def answer (module : RetcodeTable) (o : TerminalOracle) (order : ApprovedOrder) :
    Except PyError ExecutionResult :=
  match o.base.fault with
  | some e => .error e
  | none => orderSend module o.lastError o.base.replies.freshId o.reply order

/-- The reply there was. -/
def replied (o : TerminalOracle) : Option OrderSendReply :=
  match o.base.fault with
  | some _ => none
  | none => o.reply

/-- What a call's surroundings look like from a worker. -/
def seen (module : RetcodeTable) (o : TerminalOracle) : Call → Oracle
  | .orderSend order =>
      match o.answer module order with
      | .ok result => { o.base with fault := none, replies := { o.base.replies with result } }
      | .error e => { o.base with fault := some e }
  | _ => o.base

/-- What a call adds to the broker's side. -/
def placed (module : RetcodeTable) (o : TerminalOracle) : Call → List Placement
  | .orderSend order => [⟨order, o.replied, o.answer module order, o.executed⟩]
  | _ => []

end TerminalOracle

/-- The world, and what came of each order at the broker. -/
structure BrokeredWorld where
  world : World
  placements : List Placement

/-- The system of all workers at one terminal. -/
def brokered [Externals] (module : RetcodeTable) :
    Machine Nat Task TerminalOracle World.Event BrokeredWorld Call Call.Answer PyError where
  program := fun _ t => t.program
  serve := fun o i w c =>
    let served := w.world.serve (o.seen module c) i c
    (served.1, ⟨served.2, w.placements ++ o.placed module c⟩)
  restart := fun i w => { w with world := w.world.restart i }
  nature := fun n w => { w with world := w.world.nature n }

variable [Externals] {module : RetcodeTable}

/-- **Workers do not notice.** -/
theorem brokered_refines : Machine.Refines (brokered module) workers BrokeredWorld.world
    (fun o c => o.seen module c) id where
  program := fun _ _ => rfl
  serve := fun _ _ _ _ => rfl
  restart := fun _ _ => rfl
  nature := fun _ _ => rfl

/-- The gateway's answer is the worker's. -/
theorem brokered_answer (o : TerminalOracle) (i : Nat) (w : BrokeredWorld)
    (order : ApprovedOrder) :
    ((brokered module).serve o i w (.orderSend order)).1 = o.answer module order := by
  show (w.world.serve (o.seen module (.orderSend order)) i (.orderSend order)).1 = _
  cases ha : o.answer module order with
  | ok result => simp only [TerminalOracle.seen, ha, World.serve, World.answer]
  | error e => simp [TerminalOracle.seen, ha, World.serve, World.canFail]

omit [Externals] in
/-- An answer that is no error was read off the reply. -/
theorem answer_ok {o : TerminalOracle} {order : ApprovedOrder} {result : ExecutionResult}
    (h : o.answer module order = .ok result) :
    ∃ reply, o.replied = some reply ∧ result.state = orderStateOf module reply.retcode := by
  unfold TerminalOracle.answer at h
  unfold TerminalOracle.replied
  split at h
  · cases h
  · exact orderSend_ok h

end Crumblr
