import Crumblr.Application.PaperProcess
import Crumblr.Domain.JsonText
import Crumblr.Lib.Solo
import Crumblr.Persistence.RiskSession

/-!
# A paper process in its world

One process with a paper portfolio, and what it works with: the journal of the portfolio, the risk
sessions, the safety state, the gateway, the platform's journal and its capsules. The process dies
and is started again; then the portfolio is what it makes of the journal, and a journal it can make
nothing of leaves no process, so that whatever is asked of it raises.

What an agent and a reviewing agent say is up to the surroundings, and so is which statement fails.
Meanwhile agents are registered and call the gateway, sessions are recorded, and others halt
trading and reset the halt.
-/

namespace Crumblr.PaperLite

/-- What a process has in memory. -/
structure PaperMemory where
  book : DurablePaperBroker
  risk : RiskMemory
  killSwitch : KillSwitch
  /-- Events recorded and not written yet. -/
  pending : List LiveEvent

structure PaperWorld where
  /-- The portfolio's journal after its header. -/
  journal : List PaperJournalEntry
  /-- The process, or what starting it raised. -/
  process : Except PyError PaperMemory
  sessions : RiskSessionStates
  safety : SafetyState
  /-- A process that starts can read the safety state. -/
  safetyReadable : Bool
  gateway : AgentGateway
  events : List LiveEvent
  capsules : List SealedCapsule
  now : UtcDatetime
  /-- Every position that was ever opened, as it was then. -/
  opened : List OpenPosition

/-- What the surroundings choose for one call. -/
structure PaperOracle where
  failure : Option PyError
  /-- A statement that fails has taken effect all the same. -/
  reached : Bool
  /-- Why the recorded session cannot be read. -/
  unreadable : Option PyError
  faults : GatewayFaults
  freshId : Uuid
  decision : AgentSubmission
  review : Option SupervisorReview

namespace PaperOracle

variable (o : PaperOracle)

/-- A read of what the surroundings have. -/
def read {α : Type} (a : α) (w : PaperWorld) : Except PyError α × PaperWorld :=
  match o.failure with
  | none => (.ok a, w)
  | some e => (.error e, w)

/-- A statement, and what the process remembers of it once it has succeeded. -/
def writeThen (w w' : PaperWorld) (m : PaperMemory) : Except PyError Unit × PaperWorld :=
  match o.failure with
  | none => (.ok (), { w' with process := .ok m })
  | some e => (.error e, if o.reached then w' else w)

/-- A statement that takes the world from one state to another. -/
def write (w w' : PaperWorld) : Except PyError Unit × PaperWorld :=
  match o.failure with
  | none => (.ok (), w')
  | some e => (.error e, if o.reached then w' else w)

end PaperOracle

/-- The positions that are in a book now and were not before. -/
def openedBy (before after : SimulatedBroker) : List OpenPosition :=
  after.open_.filter fun p => decide (p.ticket ∉ before.open_.map (·.ticket))

namespace PaperWorld

variable [Externals] (w : PaperWorld)

omit [Externals] in
/-- The switch of a process that starts. -/
def switchAtStart : KillSwitch :=
  KillSwitch.onStartup (if w.safetyReadable then w.safety
    else unknownState "safety state unreadable" w.now)

/-- A process that starts. -/
def started (p : PaperPortfolio) : Except PyError PaperMemory := do
  let book ← p.load (paperFile p w.journal)
  pure { book, risk := ⟨none, none, none⟩, killSwitch := w.switchAtStart, pending := [] }

/-- The process dies and is started again. -/
def restart (p : PaperPortfolio) : PaperWorld := { w with process := w.started p }

omit [Externals] in
def remembering (m : PaperMemory) : PaperWorld := { w with process := .ok m }

omit [Externals] in
/-- A capsule's row, unless its id is taken. -/
def insertCapsule (capsule : SealedCapsule) : PaperWorld :=
  { w with capsules := (Table.insert? (·.capsuleId) w.capsules capsule).getD w.capsules }

/-- An operation on the portfolio. An append that fails leaves nothing. -/
def operate (o : PaperOracle) (m : PaperMemory) (op : PaperOperation) :
    Except PyError op.Answer × PaperWorld :=
  let effect := op.run m.book
  match effect.appended, o.failure with
  | some _, some e => (.error e, w)
  | appended, _ =>
      (effect.outcome, { w with
        journal := w.journal ++ appended.toList
        process := .ok { m with book := effect.left }
        opened := w.opened ++ openedBy m.book.broker effect.left.broker })

/-- What the world does with a call of the decision path. -/
def serveAgent (o : PaperOracle) (m : PaperMemory) :
    (c : AgentCall) → Except PyError c.Answer × PaperWorld
  | .portfolio =>
      (do
        let account ← m.book.broker.account
        let openPositions ← m.book.broker.positions
        pure ⟨account, openPositions, .matched⟩, w)
  | .killSwitch => (.ok m.killSwitch, w)
  | .lock _ => o.write w w
  | .loadRiskSession canonicalSymbol => (.ok (w.sessions.loadLatest canonicalSymbol o.unreadable), w)
  | .trip halt =>
      -- the record is written before the process remembers
      o.writeThen w { w with safety := halt.toSafetyState }
        { m with killSwitch := m.killSwitch.tripped halt }
  | .record event => (.ok (), w.remembering { m with pending := m.pending ++ [event] })
  | .flush =>
      let emptied := w.remembering { m with pending := [] }
      o.write emptied { emptied with events := w.events ++ m.pending }
  | .review .. => o.read o.review w
  | .seal capsule =>
      -- the events are forgotten before the transaction that writes them
      let emptied := w.remembering { m with pending := [] }
      let sealing : LiveEvent :=
        ⟨.sealed capsule, capsule.correlationId, capsule.occurredAtUtc, "orchestration"⟩
      o.write emptied
        { emptied.insertCapsule capsule with events := w.events ++ m.pending ++ [sealing] }

/-- What the world does with a call of the process's own. -/
def serveOwn (o : PaperOracle) (m : PaperMemory) :
    (c : PaperOwnCall) → Except PyError c.Answer × PaperWorld
  | .book => (.ok m.book, w)
  | .operate op => w.operate o m op
  | .memory => (.ok m.risk, w)
  | .remember risk => (.ok (), w.remembering { m with risk })
  | .saveRiskSession state => o.write w { w with sessions := w.sessions ++ [state] }
  | .recordEvidence evidence =>
      o.write w { w with gateway := w.gateway.step (.recordEvidence evidence) }
  | .freshId => (.ok o.freshId, w)
  | .issueContextBundle bundle =>
      match AgentGateway.issueContextBundle w.gateway.registries bundle with
      | .error e => (.error e, w)
      | .ok registries => o.write w { w with gateway := { w.gateway with registries } }
  | .decide _ => o.read o.decision w
  | .authenticateOwn agentId credentialSecret submission now =>
      match o.failure with
      | some e => (.error e, w)
      | none => (AgentGateway.authenticateOwn w.gateway.registries agentId credentialSecret submission now, w)
  | .transact call =>
      match call.submission.transact w.gateway.registries w.gateway.tables o.faults call.identity
          call.now with
      | .error e => (.error e, w)
      | .ok (result, tables) => (.ok result, { w with gateway := { w.gateway with tables } })

/-- What the world does with a call. -/
def serve (o : PaperOracle) (c : PaperCall) :
    Except PyError (PaperCall.Answer c) × PaperWorld :=
  match w.process with
  | .error e => (.error e, w)
  | .ok m =>
      match c with
      | .inl c => w.serveAgent o m c
      | .inr c => w.serveOwn o m c

/-- What happens without the process. -/
inductive Event where
  | time (now : UtcDatetime)
  /-- Another process halts. -/
  | halted (halt : HaltRecord)
  /-- An operator resets the halt. -/
  | reset (operator incidentNote : String)
  | safetyReadable (readable : Bool)
  /-- Another process puts a risk session on record. -/
  | session (state : RiskSessionState)
  | gateway (op : GatewayOperation)

def nature : Event → PaperWorld → PaperWorld
  | .time now, w => { w with now }
  | .halted halt, w => { w with safety := halt.toSafetyState }
  | .reset operator incidentNote, w => { w with safety := resetState operator incidentNote w.now }
  | .safetyReadable readable, w => { w with safetyReadable := readable }
  | .session state, w => { w with sessions := w.sessions ++ [state] }
  | .gateway op, w => { w with gateway := w.gateway.step op }

end PaperWorld

/-- What a process is set to do. -/
inductive PaperTask where
  | process (q : Observation)
  /-- Put on record that an operator cleared the incidents. -/
  | assertIncidentClear

namespace PaperLiteIncidentClearAssertion

variable (self : PaperLiteIncidentClearAssertion)

def auditPayload : Json :=
  .obj [
    ("operator", .str self.operator),
    ("note", .str self.note),
    ("asserted_at_utc", .time self.assertedAtUtc)]

def assertionId [Externals] : Uuid :=
  Externals.uuid5 ("crumblr:paper-lite:incident-clear:" ++ digestOf self.auditPayload)

def detail : String := String.ofList (self.auditPayload.sortKeys.dumps true)

end PaperLiteIncidentClearAssertion

namespace PaperLiteOrchestrator

variable [Externals] (self : PaperLiteOrchestrator)

/-- What the constructor of an orchestrator puts on record. -/
def recordIncidentClear : PaperPass Unit :=
  match self.incidentClearAssertion with
  | none => pure ()
  | some assertion =>
      audit "PAPER_LITE_INCIDENT_CLEAR_ASSERTED" assertion.assertionId (some assertion.detail)

/-- The program of a task. -/
def perform : PaperTask → PaperPass Unit
  | .process q => do
      let _ ← self.process q
  | .assertIncidentClear => self.recordIncidentClear

end PaperLiteOrchestrator

/-- One paper process. -/
def paperWorker [Externals] (self : PaperLiteOrchestrator) (p : PaperPortfolio) :
    Machine Unit PaperTask PaperOracle PaperWorld.Event PaperWorld PaperCall PaperCall.Answer
      PyError where
  program := fun _ task => self.perform task
  serve := fun o _ w c => w.serve o c
  restart := fun _ w => w.restart p
  nature := PaperWorld.nature

end Crumblr.PaperLite
