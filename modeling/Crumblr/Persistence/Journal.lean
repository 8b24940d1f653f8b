import Crumblr.Application.LiveDecision
import Crumblr.Lib.Numbered
import Crumblr.Lib.Table
import Crumblr.Mt5Gateway.Simulated

/-!
# The event journal

An event is stored under its id, and one whose id is stored already is left out without a word.
Events are read back by market time; those of one instant in the order they were stored in. A
reader for a dashboard asks for the end of that order, and the database sorts the other way.
-/

namespace Crumblr

/-! ## Events -/

/-- Event names as persisted in the journal. -/
inductive EventType where
  | marketSnapshotReady
  | signalGenerated
  | tradeIntentCreated
  | riskDecisionMade
  | supervisorDecisionMade
  | orderCheckCompleted
  | orderSubmitted
  | orderResultReceived
  | positionChanged
  | reconciliationCompleted
  | evaluationCompleted
  | incidentRaised
  | systemHalted
  | decisionCapsuleSealed
  deriving DecidableEq, Repr

def EventType.value : EventType → String
  | .marketSnapshotReady => "MarketSnapshotReady"
  | .signalGenerated => "SignalGenerated"
  | .tradeIntentCreated => "TradeIntentCreated"
  | .riskDecisionMade => "RiskDecisionMade"
  | .supervisorDecisionMade => "SupervisorDecisionMade"
  | .orderCheckCompleted => "OrderCheckCompleted"
  | .orderSubmitted => "OrderSubmitted"
  | .orderResultReceived => "OrderResultReceived"
  | .positionChanged => "PositionChanged"
  | .reconciliationCompleted => "ReconciliationCompleted"
  | .evaluationCompleted => "EvaluationCompleted"
  | .incidentRaised => "IncidentRaised"
  | .systemHalted => "SystemHalted"
  | .decisionCapsuleSealed => "DecisionCapsuleSealed"

structure OrderSubmitted where
  orderRequestId : Uuid
  intentId : Uuid
  brokerSymbol : String
  side : Side
  submittedAtUtc : UtcDatetime
  idempotencyKey : Uuid

structure OrderResultReceived where
  result : SimulatedResult
  state : OrderState

structure PositionChanged where
  before : List PositionState
  after : List PositionState
  trigger : String

/-- The capsule of a window that may have traded. -/
structure RunCapsule extends SealedCapsule where
  executionResult : Option SimulatedResult

/-- The payloads that a replay records. -/
inductive RunPayload where
  | signalGenerated (signal : SignalGenerated)
  | tradeIntent (intent : TradeIntent)
  | riskDecision (decision : RiskDecision)
  | supervisorDecision (decision : SupervisorDecision)
  | orderCheckCompleted (check : OrderCheckCompleted)
  | orderSubmitted (order : OrderSubmitted)
  | orderResultReceived (result : OrderResultReceived)
  | positionChanged (change : PositionChanged)
  | systemHalted (halt : SystemHalted)
  | decisionCapsule (capsule : RunCapsule)

/-- Which event type a payload class belongs to. -/
def eventTypeFor : RunPayload → EventType
  | .signalGenerated _ => .signalGenerated
  | .tradeIntent _ => .tradeIntentCreated
  | .riskDecision _ => .riskDecisionMade
  | .supervisorDecision _ => .supervisorDecisionMade
  | .orderCheckCompleted _ => .orderCheckCompleted
  | .orderSubmitted _ => .orderSubmitted
  | .orderResultReceived _ => .orderResultReceived
  | .positionChanged _ => .positionChanged
  | .systemHalted _ => .systemHalted
  | .decisionCapsule _ => .decisionCapsuleSealed

/-- Journal envelope; its type is its payload's. -/
structure Event where
  eventId : Uuid
  eventType : EventType
  occurredAtUtc : UtcDatetime
  correlationId : Uuid
  causationId : Option Uuid
  environment : Environment
  source : String
  payload : RunPayload
  typed : eventType = eventTypeFor payload
  sourced : 1 ≤ source.length ∧ source.length ≤ 64

/-- Wrap a payload in an envelope, deriving the event type from its class. -/
def buildEvent (payload : RunPayload) (correlationId : Uuid) (environment : Environment)
    (source : String) (causationId : Option Uuid) (eventId : Uuid) (occurredAtUtc : UtcDatetime) :
    Except PyError Event :=
  if h : 1 ≤ source.length ∧ source.length ≤ 64 then
    .ok { eventId, eventType := eventTypeFor payload, occurredAtUtc, correlationId, causationId,
          environment, source, payload, typed := rfl, sourced := h }
  else .error ⟨.validation, "source: String should have at least 1 and at most 64 characters"⟩

/-! ## The journal -/

namespace EventJournal

/-- Store one event. Safe to call again with the same event. -/
def append (events : List Event) (event : Event) : List Event :=
  Table.insertNew (·.eventId) events event

/-- A row of the table, with the number it was inserted under. -/
abbrev Row : Type := Event × Nat

def rows (events : List Event) : List Row := events.zipIdx

/-- `order_by(occurred_at_utc, sequence)` -/
def ascending : Row → Row → Bool := Numbered.ascending (·.occurredAtUtc)

/-- `order_by(desc(occurred_at_utc), desc(sequence))` -/
def descending (r r' : Row) : Bool := ascending r' r

/-- What is read of the journal. -/
structure Filter where
  correlationId : Option Uuid
  eventType : Option EventType
  since : Option UtcDatetime
  limit : Option Nat

/-- No condition at all. -/
def Filter.all : Filter := ⟨none, none, none, none⟩

def Filter.admits (f : Filter) (r : Row) : Bool :=
  f.correlationId.all (fun id => decide (r.1.correlationId = id))
    && f.eventType.all (fun type => decide (r.1.eventType = type))
    && f.since.all (fun since => decide (since ≤ r.1.occurredAtUtc))

/-- At most so many rows. -/
def limited (limit : Option Nat) (found : List Row) : List Row :=
  match limit with
  | none => found
  | some n => found.take n

/-- Read events in the order they happened. -/
def readAll (events : List Event) (f : Filter) : List Event :=
  (limited f.limit (((rows events).filter f.admits).mergeSort ascending)).map (·.1)

/-- The most recent event of one type. -/
def latest (events : List Event) (eventType : EventType) : Option Event :=
  ((limited (some 1) (((rows events).filter fun r => decide (r.1.eventType = eventType)).mergeSort
    descending)).map (·.1)).head?

/-- The most recent events of any type, oldest first. -/
def recent (events : List Event) (limit : Nat) : List Event :=
  ((limited (some limit) ((rows events).mergeSort descending)).map (·.1)).reverse

/-- The whole journal, in batches. -/
def stream (events : List Event) : List Event := ((rows events).mergeSort ascending).map (·.1)

end EventJournal

/-- Sealed decision capsules, each stored once. -/
def CapsuleStore.seal (capsules : List RunCapsule) (capsule : RunCapsule) : List RunCapsule :=
  Table.insertNew (·.capsuleId) capsules capsule

end Crumblr
