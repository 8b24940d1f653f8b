import Crumblr.Domain.Models
import Crumblr.Risk.TradingWindow

/-!
# Flatten plans and broker outcomes

The plan a flatten commits to, one instruction for each position it was given, and
the reading of what the broker says of an order or of a close.
-/

namespace Crumblr

/-- The side that closes a position. -/
def closingSide (side : Side) : Side := if side = .buy then .sell else .buy

theorem PositionState.closingSide_eq (position : PositionState) :
    closingSide position.side = if position.side = .buy then .sell else .buy := rfl

/-- The instruction that closes one position, whole. -/
def flattenInstruction (flattenRequestId : Uuid) (now : UtcDatetime) (calendar : TradingCalendar)
    (position : PositionState) : FlattenInstruction where
  flattenRequestId := flattenRequestId
  ticket := position.ticket
  brokerSymbol := position.brokerSymbol
  positionSide := position.side
  closeSide := closingSide position.side
  volume := position.volume
  openPrice := position.openPrice
  openedAtUtc := position.openedAtUtc
  magic := position.magic
  crossedWeeklyClose := hasCrossedWeeklyClose position.openedAtUtc now calendar
  observedAtUtc := now
  directional := position.directional
  inverse := position.closingSide_eq

/-- One instruction per position; a plan without targets or trigger is refused. -/
def buildFlattenPlan (positions : List PositionState) (flattenRequestId : Uuid)
    (environment : Environment) (canonicalSymbol : String) (tradingDay : Date)
    (sessionCloseUtc flattenDeadlineUtc : UtcDatetime) (pastDeadline : Bool)
    (brokerStateSnapshotId : Uuid) (now : UtcDatetime) (calendar : TradingCalendar) :
    Except PyError FlattenPlan :=
  let instructions := positions.map (flattenInstruction flattenRequestId now calendar)
  let crossedWeeklyClose := instructions.any (·.crossedWeeklyClose)
  if targets : instructions ≠ [] then
    if trigger : pastDeadline || crossedWeeklyClose then
      .ok { flattenRequestId, environment, canonicalSymbol, tradingDay, sessionCloseUtc,
            flattenDeadlineUtc, pastDeadline, crossedWeeklyClose, observedAtUtc := now,
            brokerStateSnapshotId, instructions, targets, trigger }
    else .error ⟨.validation,
      "a flatten plan must have a real trigger: past_deadline or crossed_weekly_close"⟩
  else .error ⟨.validation, "a flatten plan must target at least one position"⟩

/-- A plan's instructions are those of the positions it was built from, in order. -/
theorem buildFlattenPlan_instructions {positions : List PositionState} {flattenRequestId : Uuid}
    {environment : Environment} {canonicalSymbol : String} {tradingDay : Date}
    {sessionCloseUtc flattenDeadlineUtc : UtcDatetime} {pastDeadline : Bool}
    {brokerStateSnapshotId : Uuid} {now : UtcDatetime} {calendar : TradingCalendar}
    {plan : FlattenPlan}
    (h : buildFlattenPlan positions flattenRequestId environment canonicalSymbol tradingDay
      sessionCloseUtc flattenDeadlineUtc pastDeadline brokerStateSnapshotId now calendar
        = .ok plan) :
    plan.instructions = positions.map (flattenInstruction flattenRequestId now calendar) := by
  unfold buildFlattenPlan at h
  simp only at h
  split at h
  · split at h
    · cases h; rfl
    · cases h
  · cases h

/-- The event and payload a broker response to an entry is recorded as. -/
def normalizeExecutionResult (result : ExecutionResult) :
    Except PyError (ExecutionEventType × Json) :=
  let text : Option Decimal → Json := fun d =>
    match d with
    | none => .null
    | some d => if d.coeff = 0 then .null else .decimal d
  let payload : Json := .obj [
    ("execution_id", .uuid result.executionId),
    ("state", .str result.state.value),
    ("mt5_order_ticket", .opt .int result.mt5OrderTicket),
    ("mt5_deal_ticket", .opt .int result.mt5DealTicket),
    ("retcode", .opt .int result.retcode),
    ("retcode_comment", .opt .str result.retcodeComment),
    ("requested_volume", text (result.requestedVolume.map (·.val))),
    ("executed_volume", text (result.executedVolume.map (·.val))),
    ("requested_price", text (result.requestedPrice.map (·.val))),
    ("executed_price", text (result.executedPrice.map (·.val)))]
  match result.state with
  | .filled | .partiallyFilled => .ok (.filled, payload)
  | .rejected => .ok (.rejected, payload)
  | .submitted => .ok (.submitted, payload)
  | state => .error ⟨.value, s!"order_send never produces OrderState.{state.value}"⟩

/-- Whether a close's response means the position is flat; a partial close leaves a rest. -/
def closeResultFullyClosed (result : ExecutionResult) : Bool := result.state = .filled

end Crumblr
