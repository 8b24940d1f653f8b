import Crumblr.Application.LiveDecision
import Crumblr.Lib.Solo
import Crumblr.Lib.Table

/-!
# The live decision worker in its world

One process that decides, and is started again when it dies. What it remembers dies with it;
the decision windows, the safety state, the journal and the capsules stay. What it reads of the
market, the account and the risk session is whatever the surroundings have for it: bars may
arrive late or be revised, and any statement may fail, before or after it took effect.

Other processes halt and, by an operator, reset the durable kill switch; the worker's own is
read when its process starts.
-/

namespace Crumblr

/-- A capsule with both approvals. -/
structure LiveApproval where
  /-- The window it was given for. -/
  window : Option UtcDatetime
  decisionHash : Option String
  /-- A start had found the record unreadable, and no operator had reset the halt since. -/
  blind : Bool
  deriving DecidableEq

/-- What happened, for the invariants to speak of. -/
structure LiveNotes where
  /-- Some start found the record of the windows unreadable. -/
  unread : Bool
  /-- One did, and no operator has reset the halt since. -/
  blind : Bool
  /-- The windows put to the strategy. -/
  put : List (Option UtcDatetime)
  approvals : List LiveApproval
  /-- The capsules callers were handed. -/
  reported : List SealedCapsule

structure LiveWorld where
  memory : LiveMemory
  windows : DecisionWindowStates
  safety : SafetyState
  /-- A process that starts can read the safety state. -/
  safetyReadable : Bool
  journal : List LiveEvent
  capsules : List SealedCapsule
  now : UtcDatetime
  notes : LiveNotes

/-- What the surroundings choose for one call. -/
structure LiveOracle where
  failure : Option PyError
  /-- A statement that fails has taken effect all the same. -/
  reached : Bool
  /-- Why the record of the windows cannot be read. -/
  unreadable : Option String
  /-- What a read finds. -/
  reply : (c : LiveCall) → c.Answer

namespace LiveOracle

/-- A read of what the surroundings have. -/
def read (o : LiveOracle) (c : LiveCall) (w : LiveWorld) :
    Except PyError c.Answer × LiveWorld :=
  match o.failure with
  | none => (.ok (o.reply c), w)
  | some e => (.error e, w)

/-- A statement, and what the process remembers of it once it has succeeded. -/
def writeThen (o : LiveOracle) (w w' : LiveWorld) (memory : LiveMemory) :
    Except PyError Unit × LiveWorld :=
  match o.failure with
  | none => (.ok (), { w' with memory })
  | some e => (.error e, if o.reached then w' else w)

/-- A statement that takes the world from one state to another. -/
def write (o : LiveOracle) (w w' : LiveWorld) : Except PyError Unit × LiveWorld :=
  o.writeThen w w' w'.memory

end LiveOracle

namespace LiveWorld

variable (w : LiveWorld)

/-- The switch of a process that starts. -/
def switchAtStart : KillSwitch :=
  KillSwitch.onStartup (if w.safetyReadable then w.safety
    else unknownState "safety state unreadable" w.now)

/-- What a process remembers when it starts. -/
def atStart : LiveMemory where
  killSwitch := w.switchAtStart
  decisionWindowRecovered := false
  lastDecidedOpenTime := none
  seenHashes := []
  pending := []

/-- The process dies and is started again. -/
def restart : LiveWorld := { w with memory := w.atStart }

/-- A capsule's row, unless its id is taken. -/
def insertCapsule (capsule : SealedCapsule) : LiveWorld :=
  { w with capsules := (Table.insert? (·.capsuleId) w.capsules capsule).getD w.capsules }

/-- The note of a capsule on its way to the store. -/
def noteApproval [Externals] (capsule : SealedCapsule) : LiveWorld :=
  if isIntentTimeApproved capsule.toDecisionCapsule then
    { w with notes := { w.notes with approvals := w.notes.approvals ++
        [⟨w.memory.lastDecidedOpenTime, capsule.tradeIntent.map (·.decisionHash),
          w.notes.blind⟩] } }
  else w

/-- What the world does with a call. -/
def serve [Externals] (o : LiveOracle) (w : LiveWorld) :
    (c : LiveCall) → Except PyError c.Answer × LiveWorld
  | .memory => (.ok w.memory, w)
  | .restore lastDecided seenHashes =>
      (.ok (), { w with memory := { w.memory with lastDecidedOpenTime := lastDecided, seenHashes } })
  | .markRecovered =>
      (.ok (), { w with memory := { w.memory with decisionWindowRecovered := true } })
  | .claimWindow openTime =>
      (.ok (), { w with memory := { w.memory with lastDecidedOpenTime := some openTime } })
  | .addSeen decisionHash =>
      (.ok (), { w with memory := { w.memory with
        seenHashes := w.memory.seenHashes ++ [decisionHash] } })
  | .clock => (.ok w.now, w)
  | .loadWindow canonicalSymbol strategyId configVersion =>
      let record := w.windows.loadLatest canonicalSymbol strategyId configVersion o.unreadable
      let lost := record.unreadable.isSome
      (.ok record, { w with notes := { w.notes with
        unread := w.notes.unread || lost, blind := w.notes.blind || lost } })
  | .saveWindow state => o.write w { w with windows := w.windows ++ [state] }
  | .saveRiskSession _ => o.write w w
  | .lock _ => o.write w w
  | .trip halt =>
      o.writeThen w { w with safety := halt.toSafetyState }
        { w.memory with killSwitch := w.memory.killSwitch.tripped halt }
  | .resetHalt operator incidentNote =>
      o.writeThen w
        { w with
          safety := resetState operator incidentNote w.now
          notes := { w.notes with blind := false } }
        { w.memory with killSwitch := { w.memory.killSwitch with state := .running } }
  | .strategy snapshot history spec context =>
      o.read (.strategy snapshot history spec context) { w with notes := { w.notes with
        put := w.notes.put ++ [w.memory.lastDecidedOpenTime] } }
  | .recordFeatures _ => o.write w w
  | .record event =>
      (.ok (), { w with memory := { w.memory with pending := w.memory.pending ++ [event] } })
  | .flush =>
      let emptied := { w with memory := { w.memory with pending := [] } }
      o.write emptied { emptied with journal := w.journal ++ w.memory.pending }
  | .seal capsule =>
      -- the events are forgotten before the transaction that writes them
      let emptied := { w.noteApproval capsule with memory := { w.memory with pending := [] } }
      let sealing : LiveEvent :=
        ⟨.sealed capsule, capsule.correlationId, capsule.occurredAtUtc, "orchestration"⟩
      o.write emptied
        { emptied.insertCapsule capsule with
          journal := w.journal ++ w.memory.pending ++ [sealing] }
  | .report outcome =>
      (.ok (), { w with notes := { w.notes with
        reported := w.notes.reported ++ outcome.capsule.toList } })
  | .loadRiskSession canonicalSymbol => (.ok (o.reply (.loadRiskSession canonicalSymbol)), w)
  | .latestSpec canonicalSymbol => o.read (.latestSpec canonicalSymbol) w
  | .recentBars canonicalSymbol timeframe limit =>
      o.read (.recentBars canonicalSymbol timeframe limit) w
  | .latestTick canonicalSymbol => o.read (.latestTick canonicalSymbol) w
  | .latestAccountSnapshot => o.read .latestAccountSnapshot w
  | .positionsFor snapshotId => o.read (.positionsFor snapshotId) w
  | .reconcile now => o.read (.reconcile now) w

/-- What happens without the worker. -/
inductive Event where
  | time (now : UtcDatetime)
  /-- Another process halts. -/
  | halted (halt : HaltRecord)
  /-- An operator resets the halt from another process. -/
  | reset (operator incidentNote : String)
  | safetyReadable (readable : Bool)

def nature : Event → LiveWorld → LiveWorld
  | .time now, w => { w with now }
  | .halted halt, w => { w with safety := halt.toSafetyState }
  | .reset operator incidentNote, w => { w with
      safety := resetState operator incidentNote w.now
      notes := { w.notes with blind := false } }
  | .safetyReadable readable, w => { w with safetyReadable := readable }

end LiveWorld

/-- What the process is set to do. -/
inductive LiveTask where
  | decide
  | reset (operator incidentNote : String)

/-- The worker's program for a task. -/
def LiveDecisionService.perform [Externals] (self : LiveDecisionService) : LiveTask → LivePass Unit
  | .decide => self.program
  | .reset operator incidentNote => ask (.resetHalt operator incidentNote)

/-- One live decision worker. -/
def liveWorker [Externals] (self : LiveDecisionService) :
    Machine Unit LiveTask LiveOracle LiveWorld.Event LiveWorld LiveCall LiveCall.Answer PyError where
  program := fun _ task => self.perform task
  serve := fun o _ w c => w.serve o c
  restart := fun _ w => w.restart
  nature := LiveWorld.nature

end Crumblr
