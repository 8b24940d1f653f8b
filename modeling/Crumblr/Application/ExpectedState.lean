import Crumblr.Persistence.Database

/-!
# The exposure the durable history implies

What the platform should have at the broker, read off its own event histories and
never off the broker. Each request's last exposure-relevant event says whether it
expects nothing, expects certain tickets, or cannot tell; a resolved flatten
removes the tickets it closed.
-/

namespace Crumblr

/-- What an event, as the last relevant one, says of a request's exposure. -/
inductive Exposure where
  | none
  | determined
  | undetermined
  | notExposureRelevant
  deriving DecidableEq, Repr

def exposureByEvent : ExecutionEventType → Exposure
  | .requestClaimed | .ineligible | .gateClosed | .reconciliationBlocked | .finalRiskPassed
  | .finalRiskBlocked | .orderChecked | .orderCheckRejected | .submissionGatePassed
  | .submissionGateBlocked | .canaryPermitBlocked => .none
  | .submissionStarted | .submitted | .brokerAck | .filled | .closed => .undetermined
  | .ambiguousOutcomeResolved | .rejected => .determined
  | .reconciled => .notExposureRelevant

structure DerivedExposure where
  expectedPositionTickets : List Int
  expectedPendingOrderIds : List Int
  undeterminedReasons : List String
  ticketsByRequest : List (Uuid × List Int)
  determinedRequestIds : List Uuid
  expectedStopLossByRequest : List (Uuid × Decimal)

def DerivedExposure.empty : DerivedExposure := ⟨[], [], [], [], [], []⟩

/-- The value an association list holds for a key, the last one winning. -/
def lookupLast {α : Type} (table : List (Uuid × α)) (key : Uuid) : Option α :=
  (table.reverse.find? fun e => e.1 = key).map Prod.snd

/-- The last event that says something about exposure. -/
def lastExposureRelevant (events : List ExecutionEventRecord) : Option ExecutionEventRecord :=
  events.reverse.find? fun e => exposureByEvent e.eventType ≠ .notExposureRelevant

/-- The payload of the last event of one type, if the history has one. -/
def lastFlattenPayload (eventType : FlattenEventType) (events : List FlattenEventRecord) :
    Option Json :=
  (events.reverse.find? fun e => e.eventType = eventType).bind (·.payload)

/-- The ticket of one stored instruction. -/
def instructionTicket (target : Json) : Except PyError Int :=
  match target with
  | .obj fields =>
      match (Json.obj fields).get? "ticket" with
      | some t => t.toInt
      | none => .error ⟨.lookup, "ticket"⟩
  | _ => .error ⟨.type, "object is not subscriptable by a string"⟩

/-- The instructions of a commitment's payload. -/
def instructionsOf (payload : Json) : List Json :=
  ((payload.get? "instructions").bind Json.asList?).getD []

/-- The tickets a commitment set out to close. -/
def instructionTickets (payload : Json) : Except PyError (List Int) :=
  match payload.get? "instructions" with
  | none => .ok []
  | some (.list targets) => targets.mapM instructionTicket
  | some _ => .error ⟨.type, "object is not iterable"⟩

/-- What one occurrence adds: the tickets it closed, and why it is still open. -/
def flattenOccurrence (flattenRequestId : Uuid) (events : List FlattenEventRecord) :
    Except PyError (List Int × List String) :=
  match lastFlattenPayload .flattenSubmissionStarted events with
  | none => .ok ([], [])
  | some commitment =>
      match lastFlattenPayload .flattenOutcomeResolved events with
      | some resolved => do pure (← resolved.intsAt "closed_tickets", [])
      | none => do
          let tickets ← instructionTickets commitment
          pure ([], if tickets = [] then [] else
            [s!"flatten occurrence {flattenRequestId.text} committed to closing {tickets} but has not yet confirmed the outcome"])

/-- The tickets resolved flattens removed, and what unresolved ones leave open. -/
def flattenRemovedAndUndetermined :
    List (Uuid × List FlattenEventRecord) → Except PyError (List Int × List String)
  | [] => .ok ([], [])
  | (rid, events) :: rest => do
      let (closed, reasons) ← flattenOccurrence rid events
      let (closed', reasons') ← flattenRemovedAndUndetermined rest
      pure (closed ++ closed', reasons ++ reasons')

/-- The first non-null value under `key` in the commitments of a history. -/
def commitmentField (key : String) (events : List ExecutionEventRecord) : Option Json :=
  events.findSome? fun e =>
    if e.eventType = .submissionStarted then
      match e.payload.bind (Json.get? key) with
      | some .null => none
      | v => v
    else none

def entryTypeOf (events : List ExecutionEventRecord) : Except PyError (Option EntryType) :=
  match commitmentField "entry_type" events with
  | none => .ok none
  | some raw =>
      match raw.asStr?.bind EntryType.ofValue? with
      | some t => .ok (some t)
      | none => .error ⟨.value, "is not a valid EntryType"⟩

def stopLossPriceOf (events : List ExecutionEventRecord) : Except PyError (Option Decimal) :=
  match commitmentField "stop_loss_price" events with
  | none => .ok none
  | some (.decimal d) => .ok (some d)
  | some (.int n) => .ok (some ⟨n, 0⟩)
  | some _ => .error ⟨.invalidOperation, ""⟩

/-- What one request's history adds to the expectation. -/
structure RequestExposure where
  determined : Option (List Int)
  stopLoss : Option Decimal
  reasons : List String

def RequestExposure.unknown (reason : String) : RequestExposure := ⟨none, none, [reason]⟩

/-- The exposure a resolved ambiguity stands for. -/
def resolvedExposure (orderRequestId : Uuid) (payload : Option Json)
    (events : List ExecutionEventRecord) : Except PyError RequestExposure :=
  match payload with
  | none => .ok (.unknown s!"order_request_id {orderRequestId.text}'s AMBIGUOUS_OUTCOME_RESOLVED payload is missing or malformed")
  | some p =>
      if ((p.get? "integrity_ambiguity").map Json.truthy).getD false then
        .ok (.unknown
          (s!"order_request_id {orderRequestId.text}: "
            ++ ((p.get? "matching_position_count").map Json.text).getD "None"
            ++ " broker positions share its magic number -- cannot safely attribute any of "
            ++ "them to this request (integrity ambiguity, not a malformed payload)"))
      else
        match p.get? "submitted" with
        | none => .ok (.unknown s!"order_request_id {orderRequestId.text}'s AMBIGUOUS_OUTCOME_RESOLVED payload is missing or malformed")
        | some submitted =>
            if !submitted.truthy then .ok ⟨some [], none, []⟩
            else do
              let tickets ← p.intsAt "matching_tickets"
              let stopLoss ← stopLossPriceOf events
              let entryType ← entryTypeOf events
              let reasons := match entryType with
                | none | some .market => []
                | some t => [s!"order_request_id {orderRequestId.text} is a {t.value} entry; a resulting pending order cannot be attributed (D-049)"]
              pure ⟨some tickets, stopLoss, reasons⟩

def requestExposure (orderRequestId : Uuid) (events : List ExecutionEventRecord) :
    Except PyError RequestExposure :=
  match lastExposureRelevant events with
  | none => .ok ⟨none, none, []⟩
  | some event =>
      match event.eventType with
      | .submissionStarted => .ok (.unknown s!"order_request_id {orderRequestId.text} is stuck at SUBMISSION_STARTED with its outcome not yet determined")
      | .submitted => .ok (.unknown s!"order_request_id {orderRequestId.text} has a resting SUBMITTED pending order whose eventual fill/cancel/expire/reject is not yet resolved (Slice 2)")
      | .rejected => .ok ⟨some [], none, []⟩
      | .ambiguousOutcomeResolved => resolvedExposure orderRequestId event.payload events
      | _ => .ok ⟨none, none, []⟩

/-- The requests' contributions, gathered, before any flatten is taken off. -/
def gatherExposure :
    List (Uuid × List ExecutionEventRecord) → Except PyError DerivedExposure
  | [] => .ok .empty
  | (rid, events) :: rest => do
      let one ← requestExposure rid events
      let more ← gatherExposure rest
      let tickets := one.determined.getD []
      pure { expectedPositionTickets := tickets ++ more.expectedPositionTickets
             expectedPendingOrderIds := []
             undeterminedReasons := one.reasons ++ more.undeterminedReasons
             ticketsByRequest :=
               (one.determined.map fun t => (rid, t)).toList ++ more.ticketsByRequest
             determinedRequestIds :=
               (one.determined.map fun _ => rid).toList ++ more.determinedRequestIds
             expectedStopLossByRequest :=
               (one.stopLoss.map fun s => (rid, s)).toList ++ more.expectedStopLossByRequest }

def deriveExpectedExposure (requestHistories : List (Uuid × List ExecutionEventRecord))
    (flattenHistories : List (Uuid × List FlattenEventRecord)) :
    Except PyError DerivedExposure := do
  let gathered ← gatherExposure requestHistories
  let (closed, reasons) ← flattenRemovedAndUndetermined flattenHistories
  pure { gathered with
    expectedPositionTickets := gathered.expectedPositionTickets.filter (fun t => t ∉ closed)
    ticketsByRequest :=
      gathered.ticketsByRequest.map fun (rid, tickets) =>
        (rid, tickets.filter (fun t => t ∉ closed))
    undeterminedReasons := gathered.undeterminedReasons ++ reasons }

end Crumblr
