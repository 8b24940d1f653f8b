import Crumblr.Persistence.Journal
import Crumblr.Persistence.MarketData

/-!
# Writing a run into the journal

A recorder holds the events of a window back until the window seals, and writes them with its
capsule in one transaction; a halt is written at once. What the market showed is written in
batches, and what a strategy saw at once. A recorder forgets what it is about to write before it
writes it, so that a transaction that fails takes its events with it.

Ids come from what is recorded: a run that is started again records the same events under the
same ids.
-/

namespace Crumblr

/-- `model_dump(mode="json")` of a payload. -/
class ModelDump where
  modelDump : RunPayload → Json

/-! ## The stores of a run -/

structure RunStore where
  events : List Event
  capsules : List RunCapsule
  ticks : List StoredTick
  bars : List MarketBar
  features : List FeatureEvidence

/-- The events of a window, and its capsule. -/
def RunStore.seal (batch : List Event) (capsule : RunCapsule) (s : RunStore) : RunStore :=
  { s with
    events := batch.foldl EventJournal.append s.events
    capsules := CapsuleStore.seal s.capsules capsule }

namespace RunStore

def append (batch : List Event) (s : RunStore) : RunStore :=
  { s with events := batch.foldl EventJournal.append s.events }

/-- What the market showed; and how many ticks and bars of it are new. -/
def recordMarketData (ticks : List StoredTick) (bars : List MarketBar) (s : RunStore) :
    Except PyError (RunStore × Nat × Nat) := do
  let (ticks', ticksInserted) ← MarketDataStore.recordWithin s.ticks ⟨ticks, fun _ => none⟩
  let (bars', barsInserted) ← MarketDataStore.recordBars s.bars bars
  pure ({ s with ticks := ticks', bars := bars' }, ticksInserted, barsInserted)

/-- What a strategy saw; every such payload says when it was computed. -/
def recordFeatures (features : FeatureEvidence) (s : RunStore) : Except PyError RunStore :=
  if (features.modelDump.get? "computed_at_utc").isSome then
    .ok { s with
      features := Table.insertNew (·.featureSnapshotId) s.features features }
  else .error ⟨.lookup, "'computed_at_utc'"⟩

end RunStore

/-- What becomes of a transaction. -/
inductive TransactionEnd where
  | commits
  | fails (e : PyError)
  /-- It is committed, but the connection breaks before that is known. -/
  | unconfirmed (e : PyError)

/-- The stores, and what becomes of the transactions to come; those beyond the list commit. -/
structure RunWorld where
  store : RunStore
  ends : List TransactionEnd

/-- `with engine.begin() as connection` -/
def RunWorld.transact {α : Type} (w : RunWorld)
    (statements : RunStore → Except PyError (RunStore × α)) : Except PyError α × RunWorld :=
  match statements w.store with
  | .error e => (.error e, { w with ends := w.ends.tail })
  | .ok (store', a) =>
      match w.ends with
      | [] => (.ok a, ⟨store', []⟩)
      | .commits :: rest => (.ok a, ⟨store', rest⟩)
      | .fails e :: rest => (.error e, ⟨w.store, rest⟩)
      | .unconfirmed e :: rest => (.error e, ⟨store', rest⟩)

/-! ## The recorder -/

/-- How many observations to accumulate before writing them. -/
def marketDataBatch : Nat := 500

/-- A stable digest of a payload as the journal will store it. -/
def payloadDigest [Externals] [ModelDump] (payload : RunPayload) : String :=
  Externals.sha256Hex (ModelDump.modelDump payload)

/-- The deterministic `event_id` for this payload in this window. -/
def eventIdentity [Externals] [ModelDump] (payload : RunPayload) (correlationId : Uuid) : Uuid :=
  Externals.uuid5 ("crumblr:event:" ++ (eventTypeFor payload).value ++ ":" ++ correlationId.text
    ++ ":" ++ payloadDigest payload)

/-- What a recorder holds back, and the chain of the window it is in. -/
structure RecorderBuffer where
  environment : Environment
  pending : List Event
  pendingTicks : List StoredTick
  pendingBars : List MarketBar
  chainCorrelationId : Option Uuid
  chainLastEventId : Option Uuid

/-- The event of a stage, and the chain that it continues. -/
def RecorderBuffer.record [Externals] [ModelDump] (self : RecorderBuffer) (payload : RunPayload)
    (correlationId : Uuid) (occurredAtUtc : UtcDatetime) (source : String) :
    Except PyError RecorderBuffer := do
  -- the chain starts anew with the window
  let chainLastEventId :=
    if self.chainCorrelationId = some correlationId then self.chainLastEventId else none
  let eventId := eventIdentity payload correlationId
  let event ← buildEvent payload correlationId self.environment source chainLastEventId eventId
    occurredAtUtc
  pure { self with
    pending := self.pending ++ [event]
    chainCorrelationId := some correlationId
    chainLastEventId := some eventId }

structure JournalRecorder extends RecorderBuffer where
  ticksWritten : Nat
  barsWritten : Nat
  eventsWritten : Nat
  capsulesWritten : Nat

/-- What a recorder's method comes to. -/
abbrev RecorderStep : Type := Except PyError JournalRecorder × RunWorld

namespace JournalRecorder

def create (environment : Environment) : JournalRecorder where
  environment
  pending := []
  pendingTicks := []
  pendingBars := []
  chainCorrelationId := none
  chainLastEventId := none
  ticksWritten := 0
  barsWritten := 0
  eventsWritten := 0
  capsulesWritten := 0

variable (self : JournalRecorder)

/-- Write the observations in one transaction, then forget them. -/
def flushMarketData (w : RunWorld) : RecorderStep :=
  if self.pendingTicks = [] ∧ self.pendingBars = [] then (.ok self, w)
  else
    let cleared := { self with pendingTicks := [], pendingBars := [] }
    match w.transact (RunStore.recordMarketData self.pendingTicks self.pendingBars) with
    | (.error e, w') => (.error e, w')
    | (.ok (ticksInserted, barsInserted), w') =>
        (.ok { cleared with
          ticksWritten := self.ticksWritten + ticksInserted
          barsWritten := self.barsWritten + barsInserted }, w')

/-- Record what the market showed, before anything was decided about it. -/
def observe (tick : StoredTick) (bar : Option MarketBar) (w : RunWorld) : RecorderStep :=
  let noted := { self with
    pendingTicks := self.pendingTicks ++ [tick]
    pendingBars := self.pendingBars ++ bar.toList }
  if marketDataBatch ≤ noted.pendingTicks.length then noted.flushMarketData w else (.ok noted, w)

/-- Record what the Trading Agent saw for one window. -/
def recordFeatures (features : FeatureEvidence) (w : RunWorld) : RecorderStep :=
  match w.transact fun s => (RunStore.recordFeatures features s).map fun s' => (s', ()) with
  | (.error e, w') => (.error e, w')
  | (.ok (), w') => (.ok self, w')

/-- Note that a stage completed. -/
def record [Externals] [ModelDump] (payload : RunPayload) (correlationId : Uuid)
    (occurredAtUtc : UtcDatetime) (source : String) : Except PyError JournalRecorder := do
  let noted ← self.toRecorderBuffer.record payload correlationId occurredAtUtc source
  pure { self with toRecorderBuffer := noted }

end JournalRecorder

/-- One transaction per window: its events, its sealing, its capsule. -/
def JournalRecorder.seal [Externals] [ModelDump] (self : JournalRecorder) (capsule : RunCapsule)
    (w : RunWorld) : RecorderStep :=
  match self.record (.decisionCapsule capsule) capsule.correlationId capsule.occurredAtUtc
      "orchestration" with
  | .error e => (.error e, w)
  | .ok noted =>
      let batch := noted.pending
      let cleared := { noted with pending := [] }
      match w.transact fun s => .ok (RunStore.seal batch capsule s, ()) with
      | (.error e, w') => (.error e, w')
      | (.ok (), w') =>
          (.ok { cleared with
            eventsWritten := cleared.eventsWritten + batch.length
            capsulesWritten := cleared.capsulesWritten + 1 }, w')

/-- Write anything still buffered. -/
def JournalRecorder.flush (self : JournalRecorder) (w : RunWorld) : RecorderStep :=
  match self.flushMarketData w with
  | (.error e, w') => (.error e, w')
  | (.ok flushed, w') =>
      if flushed.pending = [] then (.ok flushed, w')
      else
        let batch := flushed.pending
        let cleared := { flushed with pending := [] }
        match w'.transact fun s => .ok (RunStore.append batch s, ()) with
        | (.error e, w'') => (.error e, w'')
        | (.ok (), w'') =>
            (.ok { cleared with eventsWritten := cleared.eventsWritten + batch.length }, w'')

/-! ## A run, as its recorder sees it -/

inductive RecorderCall where
  | observe (tick : StoredTick) (bar : Option MarketBar)
  | recordFeatures (features : FeatureEvidence)
  | record (payload : RunPayload) (correlationId : Uuid) (occurredAtUtc : UtcDatetime)
      (source : String)
  | seal (capsule : RunCapsule)
  | flush

namespace JournalRecorder

variable [Externals] [ModelDump]

def perform (self : JournalRecorder) (w : RunWorld) : RecorderCall → RecorderStep
  | .observe tick bar => self.observe tick bar w
  | .recordFeatures features => self.recordFeatures features w
  | .record payload correlationId occurredAtUtc source =>
      (self.record payload correlationId occurredAtUtc source, w)
  | .seal capsule => self.seal capsule w
  | .flush => self.flush w

/-- The calls of a run, until one raises. -/
def performAll : JournalRecorder → RunWorld → List RecorderCall → RecorderStep
  | self, w, [] => (.ok self, w)
  | self, w, c :: calls =>
      match self.perform w c with
      | (.error e, w') => (.error e, w')
      | (.ok self', w') => performAll self' w' calls

end JournalRecorder

/-- A run that was started, with what became of its transactions, and the calls it got to. -/
structure Attempt where
  calls : Nat
  ends : List TransactionEnd

/-- What an attempt leaves; the recorder dies with its process. -/
def Attempt.leaves [Externals] [ModelDump] (environment : Environment) (calls : List RecorderCall)
    (store : RunStore) (a : Attempt) : RunStore :=
  ((JournalRecorder.create environment).performAll ⟨store, a.ends⟩ (calls.take a.calls)).2.store

end Crumblr
