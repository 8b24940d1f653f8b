import Crumblr.Lib.Table
import Crumblr.Risk.Session

/-!
# The shared database

Every table the execution worker reads or writes, and the store methods over
them. A method runs as one transaction, so it either returns and has its effect
or raises and has none: each is a function to `Except`.

Rows stand in the order of their `sequence` column. An event's identity is
derived from its request and its type alone, so the pair stands for the derived
id.
-/

namespace Crumblr

/-! ## Rows -/

structure ExecutionRequest where
  orderRequestId : Uuid
  capsuleId : Uuid
  intentId : Uuid
  fingerprint : String
  claimedBy : String
  claimedAtUtc : UtcDatetime

structure ExecutionEventRecord where
  orderRequestId : Uuid
  eventType : ExecutionEventType
  occurredAtUtc : UtcDatetime
  reasonCodes : List ReasonCode
  detail : Option String
  payload : Option Json

/-- An event's identity: one of each type per request. -/
def ExecutionEventRecord.key (e : ExecutionEventRecord) : Uuid × ExecutionEventType :=
  (e.orderRequestId, e.eventType)

structure FlattenRequest where
  flattenRequestId : Uuid
  environment : Environment
  canonicalSymbol : String
  tradingDay : Date
  sessionCloseUtc : UtcDatetime
  flattenDeadlineUtc : UtcDatetime
  fingerprint : String
  claimedBy : String
  claimedAtUtc : UtcDatetime

structure FlattenEventRecord where
  flattenRequestId : Uuid
  eventType : FlattenEventType
  occurredAtUtc : UtcDatetime
  reasonCodes : List ReasonCode
  detail : Option String
  payload : Option Json

/-- An event's identity: one of each type per occurrence. -/
def FlattenEventRecord.key (e : FlattenEventRecord) : Uuid × FlattenEventType :=
  (e.flattenRequestId, e.eventType)

/-- One capture of the broker: the rows it stores, and the live values they were made from. -/
structure BrokerStateObservation where
  account : BrokerAccountSnapshot
  positions : List BrokerPositionSnapshot
  pendingOrders : List BrokerPendingOrderSnapshot
  accountState : Option AccountState
  positionStates : List PositionState

structure Database where
  decisionCapsules : List DecisionCapsule
  executionRequests : List ExecutionRequest
  executionEvents : List ExecutionEventRecord
  canaryPermits : List CanaryPermit
  canaryPermitConsumptions : List CanaryPermitConsumption
  flattenRequests : List FlattenRequest
  flattenEvents : List FlattenEventRecord
  brokerAccountSnapshots : List BrokerAccountSnapshot
  brokerPositionSnapshots : List BrokerPositionSnapshot
  brokerPendingOrderSnapshots : List BrokerPendingOrderSnapshot
  instrumentSpecs : List InstrumentSpec
  riskSessions : String → SessionRecord
  safetyState : Option SafetyState

namespace Database

/-- A database error, raised by a violated foreign key. -/
def foreignKeyError : PyError := ⟨.database, "violates foreign key constraint"⟩

/-! ## Capsules -/

/-- The capsules of one environment and market, by the time they occurred. -/
def readAll (db : Database) (environment : Environment) (canonicalSymbol : String) :
    List DecisionCapsule :=
  (db.decisionCapsules.filter fun c =>
    c.environment = environment ∧ c.canonicalSymbol = canonicalSymbol).insertionSort
    fun a b => a.occurredAtUtc ≤ b.occurredAtUtc

/-! ## Execution requests -/

/-- The winning insert is the claim; losing to the same content is no error. -/
def claim (db : Database) (row : ExecutionRequest) : Except PyError (Bool × Database) :=
  match Table.lookup (·.orderRequestId) db.executionRequests row.orderRequestId with
  | none =>
      if db.decisionCapsules.any (fun c => c.capsuleId = row.capsuleId) then
        .ok (true, { db with executionRequests := db.executionRequests ++ [row] })
      else .error foreignKeyError
  | some existing =>
      if existing.fingerprint ≠ row.fingerprint then
        .error ⟨.executionRequestConflict,
          s!"order_request_id {row.orderRequestId.text} was already recorded with a different fingerprint"⟩
      else .ok (false, db)

/-! ## Execution events -/

/-- What two appends of one event must agree on. -/
def eventContent (reasonCodes : List ReasonCode) (detail : Option String)
    (payload : Option Json) : Json :=
  .obj [("reason_codes", .list (reasonCodes.map fun c => .str c.value)),
    ("detail", .opt .str detail), ("payload", .opt id payload)]

/-- Append an event once; a repeat must carry the same content. Says whether it was inserted. -/
def appendEvent [Externals] (db : Database) (e : ExecutionEventRecord) :
    Except PyError (Bool × Database) :=
  match Table.lookup ExecutionEventRecord.key db.executionEvents e.key with
  | none =>
      if db.executionRequests.any (fun r => r.orderRequestId = e.orderRequestId) then
        .ok (true, { db with executionEvents := db.executionEvents ++ [e] })
      else .error foreignKeyError
  | some existing => do
      let new ← fingerprint (eventContent e.reasonCodes e.detail e.payload)
      let old ← fingerprint (eventContent existing.reasonCodes existing.detail existing.payload)
      if new ≠ old then
        .error ⟨.executionEventConflict,
          s!"execution event {e.eventType.value} of {e.orderRequestId.text} was already recorded with different content"⟩
      else .ok (false, db)

/-- The history of one request, oldest first. -/
def eventsFor (db : Database) (orderRequestId : Uuid) : List ExecutionEventRecord :=
  db.executionEvents.filter fun e => e.orderRequestId = orderRequestId

/-- Whether an event belongs to a request of one environment and market. -/
def eventInMarket (db : Database) (environment : Environment) (canonicalSymbol : String)
    (e : ExecutionEventRecord) : Bool :=
  db.executionRequests.any fun r =>
    r.orderRequestId = e.orderRequestId
      && db.decisionCapsules.any fun c =>
        c.capsuleId = r.capsuleId ∧ c.environment = environment
          ∧ c.canonicalSymbol = canonicalSymbol

def countEventsSince (db : Database) (eventType : ExecutionEventType) (since : UtcDatetime)
    (environment : Environment) (canonicalSymbol : String) : Nat :=
  (db.executionEvents.filter fun e =>
    decide (e.eventType = eventType ∧ since ≤ e.occurredAtUtc)
      && eventInMarket db environment canonicalSymbol e).length

/-- The requests that have an event of one type, the oldest such event first. -/
def requestIdsWithEvent (db : Database) (eventType : ExecutionEventType)
    (environment : Environment) (canonicalSymbol : String) : List Uuid :=
  ((db.executionEvents.filter fun e =>
    decide (e.eventType = eventType) && eventInMarket db environment canonicalSymbol e).map
      (·.orderRequestId)).eraseDups

/-! ## Canary permits -/

def permitFor (db : Database) (permitId : Uuid) : Option CanaryPermit :=
  Table.lookup (·.permitId) db.canaryPermits permitId

inductive CanaryPermitConsumeOutcome where
  | consumed
  | alreadyConsumed
  | expired
  | notFound
  deriving DecidableEq, Repr

/-- Use a permit: at most one consumption row per permit, ever. -/
def consume (db : Database) (permitId orderRequestId : Uuid) (now : UtcDatetime) :
    CanaryPermitConsumeOutcome × Database :=
  match db.permitFor permitId with
  | none => (.notFound, db)
  | some permit =>
      if permit.validUntilUtc < now then (.expired, db)
      else
        match Table.insert? (·.permitId) db.canaryPermitConsumptions
          ⟨permitId, orderRequestId, now⟩ with
        | some rows => (.consumed, { db with canaryPermitConsumptions := rows })
        | none => (.alreadyConsumed, db)

/--
The one transaction of a real submission: consume the permit and, only when that
succeeded, append the commitment. An error in it leaves nothing behind.
-/
def consumeAndStart [Externals] (db : Database) (permitId orderRequestId : Uuid)
    (now : UtcDatetime) (payload : Json) :
    Except PyError (CanaryPermitConsumeOutcome × Database) :=
  match db.consume permitId orderRequestId now with
  | (.consumed, db') => do
      let (_, db'') ← db'.appendEvent ⟨orderRequestId, .submissionStarted, now, [], none,
        some payload⟩
      pure (.consumed, db'')
  | (outcome, db') => .ok (outcome, db')

/-! ## Flatten requests and events -/

def claimFlatten (db : Database) (row : FlattenRequest) : Except PyError (Bool × Database) :=
  match Table.lookup (·.flattenRequestId) db.flattenRequests row.flattenRequestId with
  | none => .ok (true, { db with flattenRequests := db.flattenRequests ++ [row] })
  | some existing =>
      if existing.fingerprint ≠ row.fingerprint then
        .error ⟨.flattenRequestConflict,
          s!"flatten_request_id {row.flattenRequestId.text} was already recorded with a different fingerprint"⟩
      else .ok (false, db)

def appendFlattenEvent [Externals] (db : Database) (e : FlattenEventRecord) :
    Except PyError (Bool × Database) :=
  match Table.lookup FlattenEventRecord.key db.flattenEvents e.key with
  | none =>
      if db.flattenRequests.any (fun r => r.flattenRequestId = e.flattenRequestId) then
        .ok (true, { db with flattenEvents := db.flattenEvents ++ [e] })
      else .error foreignKeyError
  | some existing => do
      let new ← fingerprint (eventContent e.reasonCodes e.detail e.payload)
      let old ← fingerprint (eventContent existing.reasonCodes existing.detail existing.payload)
      if new ≠ old then
        .error ⟨.flattenEventConflict,
          s!"flatten event {e.eventType.value} of {e.flattenRequestId.text} was already recorded with different content"⟩
      else .ok (false, db)

def flattenEventsFor (db : Database) (flattenRequestId : Uuid) : List FlattenEventRecord :=
  db.flattenEvents.filter fun e => e.flattenRequestId = flattenRequestId

/-- Every occurrence of one environment and market that has events, by trading day. -/
def occurrenceHistories (db : Database) (environment : Environment) (canonicalSymbol : String) :
    List (Uuid × List FlattenEventRecord) :=
  let requests := (db.flattenRequests.filter fun r =>
    r.environment = environment ∧ r.canonicalSymbol = canonicalSymbol).insertionSort
      fun a b => a.tradingDay ≤ b.tradingDay
  (requests.map fun r => (r.flattenRequestId, db.flattenEventsFor r.flattenRequestId)).filter
    fun h => h.2 ≠ []

/-! ## Broker state -/

/-- Store one observation, the account row and its children together. -/
def record (db : Database) (observation : BrokerStateObservation) : Database :=
  { db with
    brokerAccountSnapshots :=
      if db.brokerAccountSnapshots.any
        (fun s => s.snapshotId = observation.account.snapshotId) then db.brokerAccountSnapshots
      else db.brokerAccountSnapshots ++ [observation.account]
    brokerPositionSnapshots := observation.positions.foldl
      (fun rows p => (Table.insert? (fun q => (q.snapshotId, q.ticket)) rows p).getD rows)
      db.brokerPositionSnapshots
    brokerPendingOrderSnapshots := observation.pendingOrders.foldl
      (fun rows o => (Table.insert? (fun q => (q.snapshotId, q.orderId)) rows o).getD rows)
      db.brokerPendingOrderSnapshots }

/-- The most recently observed snapshot; of several, the one inserted last. -/
def latestAccountSnapshot (db : Database) : Option BrokerAccountSnapshot :=
  db.brokerAccountSnapshots.foldl (fun best s =>
    match best with
    | none => some s
    | some b => if b.observedAtUtc ≤ s.observedAtUtc then some s else some b) none

theorem latestAccountSnapshot_eq_some {db : Database} {s : BrokerAccountSnapshot} :
    db.latestAccountSnapshot = some s
      ↔ Table.Latest (·.observedAtUtc) db.brokerAccountSnapshots s := by
  rw [← Table.latest_eq_some]
  unfold latestAccountSnapshot Table.latest
  rw [iff_iff_eq]
  congr 2
  funext best s
  cases best with
  | none => rfl
  | some b => by_cases h : b.observedAtUtc ≤ s.observedAtUtc <;> simp [h]

def positionsFor (db : Database) (snapshotId : Uuid) : List BrokerPositionSnapshot :=
  db.brokerPositionSnapshots.filter fun p => p.snapshotId = snapshotId

def pendingOrdersFor (db : Database) (snapshotId : Uuid) : List BrokerPendingOrderSnapshot :=
  db.brokerPendingOrderSnapshots.filter fun p => p.snapshotId = snapshotId

/-! ## Instrument specifications -/

def latestSpec (db : Database) (canonicalSymbol : String) : Option InstrumentSpec :=
  (db.instrumentSpecs.filter fun s => s.canonicalSymbol = canonicalSymbol).foldl
    (fun best s =>
      match best with
      | none => some s
      | some b => if b.capturedAtUtc ≤ s.capturedAtUtc then some s else some b) none

/-! ## Safety state -/

/-- The durable safety record; an absent one is unknown. -/
def loadSafetyState (db : Database) (now : UtcDatetime) : SafetyState :=
  db.safetyState.getD (unknownState "no safety state recorded" now)

end Database

end Crumblr
