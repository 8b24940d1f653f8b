import Crumblr.Application.Workers

/-!
# What a pass knows, and what it may do about it

A pass that appends to a history decides from what it knows of that history. It
knows one because it opened it (it won the claim, so the history is empty) or
because it read it; everything it appended itself is known to it as well.

The discipline says how knowledge and deed belong together. The owner of a claim
walks the chain of refusals forward; whoever did not win the claim may only
resolve what a committed submission left open; the permit is consumed once, by the
owner, after the submission gate; and an order is sent immediately after its
commitment, or not at all.
-/

namespace Crumblr

open ExecutionOrchestrator

/-! ## Knowledge of a request -/

/-- What one call tells of the history of request `r`. -/
def executionNews (r : Uuid) : Entry Call Call.Answer PyError → News ExecutionEventRecord
  | ⟨.claim row, .ok true⟩ => if row.orderRequestId = r then .opened else .silent
  | ⟨.eventsFor r', .ok events⟩ => if r' = r then .read events else .silent
  | ⟨.append e, .ok _⟩ => if e.orderRequestId = r then .grew e else .silent
  | ⟨.consumeAndStart _ r' now payload, .ok .consumed⟩ =>
      if r' = r then .grew ⟨r', .submissionStarted, now, [], none, some payload⟩ else .silent
  | _ => .silent

/-- The history of request `r` as the pass knows it. -/
def known (r : Uuid) (past : Past) : Option (List ExecutionEventRecord) :=
  recollect (executionNews r) past

/-- What a pass has done with a request it claimed. -/
inductive Holding where
  /-- It did not claim it. -/
  | none
  /-- It claimed it, and has not tried to commit a submission. -/
  | owned
  /-- It committed a submission. -/
  | committed
  /-- It tried to commit a submission, and did not. -/
  | refused
  deriving DecidableEq, Repr

/-- What one call does to the standing of request `r`. -/
def holdingAfter (r : Uuid) (h : Holding) : Entry Call Call.Answer PyError → Holding
  | ⟨.claim row, .ok true⟩ => if row.orderRequestId = r then .owned else h
  | ⟨.append e, .ok _⟩ =>
      if e.orderRequestId = r ∧ e.eventType = .submissionStarted then .committed else h
  | ⟨.consumeAndStart _ r' _ _, .ok .consumed⟩ => if r' = r then .committed else h
  | ⟨.consumeAndStart _ r' _ _, _⟩ => if r' = r then .refused else h
  | _ => h

/-- Where a pass stands with request `r`. -/
def holding (r : Uuid) : Past → Holding
  | [] => .none
  | entry :: past => holdingAfter r (holding r past) entry

/-- The types of a history, oldest first. -/
def types (events : List ExecutionEventRecord) : List ExecutionEventType :=
  events.map (·.eventType)

/-! ## Knowledge of a flatten occurrence -/

/-- What one call tells of the history of occurrence `f`. -/
def flattenNews (f : Uuid) : Entry Call Call.Answer PyError → News FlattenEventRecord
  | ⟨.claimFlatten row, .ok true⟩ => if row.flattenRequestId = f then .opened else .silent
  | ⟨.flattenEventsFor f', .ok events⟩ => if f' = f then .read events else .silent
  | ⟨.appendFlatten e, .ok _⟩ => if e.flattenRequestId = f then .grew e else .silent
  | _ => .silent

/-- The history of occurrence `f` as the pass knows it. -/
def knownFlatten (f : Uuid) (past : Past) : Option (List FlattenEventRecord) :=
  recollect (flattenNews f) past

/-- Whether the pass won the claim of occurrence `f`. -/
def ownsFlatten (f : Uuid) (past : Past) : Prop :=
  ∃ row : FlattenRequest, row.flattenRequestId = f ∧ ⟨.claimFlatten row, .ok true⟩ ∈ past

def flattenTypes (events : List FlattenEventRecord) : List FlattenEventType :=
  events.map (·.eventType)

/-! ## What may be appended -/

/-- What the owner of a claim may append next. -/
def advances : Option ExecutionEventType → List ExecutionEventType
  | none => [.requestClaimed]
  | some .requestClaimed =>
      [.ineligible, .gateClosed, .reconciliationBlocked, .finalRiskBlocked, .finalRiskPassed]
  | some .finalRiskPassed => [.orderChecked, .orderCheckRejected]
  | some .orderChecked => [.submissionGatePassed, .submissionGateBlocked]
  | some .submissionGatePassed => [.canaryPermitBlocked, .submissionStarted]
  | some .submissionStarted => [.filled, .rejected, .submitted]
  | _ => []

/-- What anyone who read the history may append next. -/
def resolves : Option ExecutionEventType → List ExecutionEventType
  | some .submissionStarted => [.ambiguousOutcomeResolved]
  | some .submitted => [.filled, .ambiguousOutcomeResolved]
  | some .rejected => [.reconciled]
  | some .ambiguousOutcomeResolved => [.reconciled]
  | _ => []

/-- What the owner of an occurrence may append next. -/
def commits : Option FlattenEventType → List FlattenEventType
  | none => [.flattenRequestClaimed]
  | some .flattenRequestClaimed => [.flattenGateBlocked, .flattenGatePassed]
  | some .flattenGatePassed => [.flattenSubmissionStarted]
  | _ => []

/-- What anyone who read an occurrence's history may append next. -/
def settles : Option FlattenEventType → List FlattenEventType
  | some .flattenSubmissionStarted => [.flattenOutcomeResolved]
  | _ => []

/-- The event says that a submission of unknown outcome never happened. -/
def ExecutionEventRecord.deniesSubmission (e : ExecutionEventRecord) : Prop :=
  e.eventType = .ambiguousOutcomeResolved
    ∧ (e.payload.bind (Json.get? "submitted")).bind Json.asBool? = some false

instance (e : ExecutionEventRecord) : Decidable e.deniesSubmission :=
  inferInstanceAs (Decidable (_ ∧ _))

/--
What a pass has seen when it denies a submission: it lost the claim, read a
history that stops at the commitment, then found no position and no resting order.
-/
def SawNothing [Externals] (r : Uuid) (past : Past) : Prop :=
  ∃ (row : ExecutionRequest) (events : List ExecutionEventRecord) (now : UtcDatetime)
    (positions : List PositionState) (orders : List PendingOrderState) (rest : Past),
    past = ⟨.pendingOrders, .ok orders⟩ :: ⟨.clock, .ok now⟩ :: ⟨.positions, .ok positions⟩
      :: ⟨.eventsFor r, .ok events⟩ :: ⟨.claim row, .ok false⟩ :: rest
    ∧ row.orderRequestId = r
    ∧ (types events).getLast? = some .submissionStarted
    ∧ positionMatches r positions = []
    ∧ pendingMatches r orders = []

/-- The event may be appended by a pass with this past. -/
structure MayAppend [Externals] (past : Past) (e : ExecutionEventRecord) : Prop where
  /-- It continues the history the pass knows. -/
  continues : ∃ events, known e.orderRequestId past = some events
    ∧ ((holding e.orderRequestId past ≠ .none
        ∧ e.eventType ∈ advances (types events).getLast?
        ∧ (e.eventType = .submissionStarted → holding e.orderRequestId past = .owned))
      ∨ e.eventType ∈ resolves (types events).getLast?)
  /-- It denies a submission only on what there was to see. -/
  evidence : e.deniesSubmission → SawNothing e.orderRequestId past

/-- The flatten event may be appended by a pass with this past. -/
def MayAppendFlatten (past : Past) (e : FlattenEventRecord) : Prop :=
  ∃ events, knownFlatten e.flattenRequestId past = some events
    ∧ ((ownsFlatten e.flattenRequestId past
        ∧ e.eventType ∈ commits (flattenTypes events).getLast?)
      ∨ e.eventType ∈ settles (flattenTypes events).getLast?)

/-- The submission of `r` may be committed by a pass with this past. -/
def MayCommit (past : Past) (r : Uuid) : Prop :=
  holding r past = .owned
    ∧ ∃ events, known r past = some events
        ∧ (types events).getLast? = some .submissionGatePassed

/-- The newest thing the pass did was to commit the submission of `r`. -/
def JustCommitted (past : Past) (r : Uuid) : Prop :=
  ∃ (permitId : Uuid) (now : UtcDatetime) (payload : Json) (rest : Past),
    past = ⟨.consumeAndStart permitId r now payload, .ok .consumed⟩ :: rest

/-! ## The discipline -/

def mayCall [Externals] (past : Past) : Call → Prop
  | .append e => MayAppend past e
  | .appendFlatten e => MayAppendFlatten past e
  | .consumeAndStart _ r _ _ => MayCommit past r
  | .orderSend order => JustCommitted past order.orderRequestId
  | _ => True

/-- What the stores' queries promise of their answers. -/
def mayAnswer : (c : Call) → Except PyError c.Answer → Prop
  | .requestIdsWithEvent .., .ok ids => List.Nodup ids
  | .readAll environment canonicalSymbol, .ok capsules =>
      ∀ c ∈ capsules, c.environment = environment ∧ c.canonicalSymbol = canonicalSymbol
  | _, _ => True

/-- How every pass keeps what it knows and what it does together. -/
def passDiscipline [Externals] : Discipline Call Call.Answer PyError where
  allows := mayCall
  answers := mayAnswer

/-! ## Calls that touch no history -/

/-- The call says nothing of any history and changes none. -/
def Quiet : Call → Prop
  | .claim _ | .append _ | .eventsFor _ | .consumeAndStart .. | .orderSend _ | .claimFlatten _
  | .appendFlatten _ | .flattenEventsFor _ => False
  | _ => True

theorem mayCall_of_quiet [Externals] {past : Past} {c : Call} (h : Quiet c) : mayCall past c := by
  cases c <;> trivial

theorem executionNews_of_quiet {c : Call} (h : Quiet c) (r : Uuid) (a : Except PyError c.Answer) :
    executionNews r ⟨c, a⟩ = .silent := by
  cases c <;> first | rfl | exact h.elim

theorem flattenNews_of_quiet {c : Call} (h : Quiet c) (f : Uuid) (a : Except PyError c.Answer) :
    flattenNews f ⟨c, a⟩ = .silent := by
  cases c <;> first | rfl | exact h.elim

theorem holdingAfter_of_quiet {c : Call} (h : Quiet c) (r : Uuid) (s : Holding)
    (a : Except PyError c.Answer) : holdingAfter r s ⟨c, a⟩ = s := by
  cases c <;> first | rfl | exact h.elim

theorem known_of_quiet {c : Call} (h : Quiet c) (r : Uuid) (a : Except PyError c.Answer)
    (past : Past) : known r (⟨c, a⟩ :: past) = known r past := by
  simp only [known, recollect, executionNews_of_quiet h]

theorem knownFlatten_of_quiet {c : Call} (h : Quiet c) (f : Uuid) (a : Except PyError c.Answer)
    (past : Past) : knownFlatten f (⟨c, a⟩ :: past) = knownFlatten f past := by
  simp only [knownFlatten, recollect, flattenNews_of_quiet h]

theorem holding_of_quiet {c : Call} (h : Quiet c) (r : Uuid) (a : Except PyError c.Answer)
    (past : Past) : holding r (⟨c, a⟩ :: past) = holding r past :=
  holdingAfter_of_quiet h r _ a

end Crumblr
