import Crumblr.Application.Workers

/-!
# All the processes that share the safety store

Beside the execution workers there are the processes that decide: they ask risk about an
intent, halt, and are reset by an operator. Each holds a kill switch of its own in
memory, read from the store when the process starts and never again.
-/

namespace Crumblr

/-- Everything risk is asked about, but the kill switch. -/
structure RiskRequest where
  intent : TradeIntent
  snapshot : MarketSnapshot
  spec : InstrumentSpec
  portfolio : PortfolioState
  context : RiskContext
  now : UtcDatetime

def RiskRequest.evaluate [Externals] (r : RiskRequest) (killSwitch : KillSwitch) :
    Except PyError RiskDecision :=
  Crumblr.evaluate r.intent r.snapshot r.spec r.portfolio r.context killSwitch r.now

/-- The execution workers, and the switch of every decision process that runs. -/
structure Processes where
  execution : Config Nat Task World Call Call.Answer PyError
  decisions : Nat → Option KillSwitch

inductive ProcessMove where
  /-- A step of the execution workers, their broker or their stores. -/
  | execution (m : Move Nat Task Oracle World.Event)
  /-- A decision process starts. -/
  | startDecision (i : Nat)
  /-- A decision process ends, or dies. -/
  | stopDecision (i : Nat)
  /-- A decision process halts. -/
  | tripDecision (i : Nat) (halt : HaltRecord)
  /-- An operator resets the halt from a decision process. -/
  | resetDecision (i : Nat) (operator incidentNote : String)
  /-- A decision process asks risk. -/
  | decide (i : Nat) (request : RiskRequest)

namespace Processes

variable [Externals]

/-- Nobody at work yet. -/
def idle (w : World) : Processes := ⟨Machine.idle w, fun _ => none⟩

/-- Write the shared safety record, and the switch of the process that writes it. -/
def write (s : Processes) (state : SafetyState) (i : Nat) (k : KillSwitch) : Processes where
  execution := { s.execution with world := s.execution.world.nature (.saveSafety state) }
  decisions := Function.update s.decisions i (some k)

/-- One step, when it is possible. -/
def step (s : Processes) : ProcessMove → Option Processes
  | .execution m => (workers.step s.execution m).map fun execution => { s with execution }
  | .startDecision i =>
      match s.decisions i with
      | some _ => none
      | none =>
          let world := s.execution.world
          let switch := KillSwitch.onStartup (world.db.loadSafetyState world.now)
          some { s with decisions := Function.update s.decisions i (some switch) }
  | .stopDecision i => some { s with decisions := Function.update s.decisions i none }
  | .tripDecision i halt =>
      (s.decisions i).bind fun k =>
        if halt.reasonCodes = [] then none
        else some (s.write halt.toSafetyState i (k.tripped halt))
  | .resetDecision i operator incidentNote =>
      (s.decisions i).map fun k =>
        s.write (resetState operator incidentNote s.execution.world.now) i
          { k with state := .running }
  | .decide i _ => (s.decisions i).map fun _ => s

/-- A sequence of steps. -/
def run (s : Processes) : List ProcessMove → Option Processes
  | [] => some s
  | m :: ms => (s.step m).bind fun s' => run s' ms

end Processes

end Crumblr
