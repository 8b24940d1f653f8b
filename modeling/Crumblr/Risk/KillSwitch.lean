import Crumblr.Domain.Models

/-!
# The kill switch and the equity ledger

The switch lives in the memory of one process; its halts are written through to
the durable safety state before the memory changes, and a process that starts
reads that state back. The ledger tracks the equity a session started with, its
peak, and the worst losses against both.
-/

namespace Crumblr

/-! ## The durable safety state -/

structure SafetyState where
  state : KillSwitchState
  reasonCodes : List ReasonCode
  recordedAtUtc : UtcDatetime
  trippedBy : Option String
  detail : Option String

def SafetyState.permitsNewOrders (s : SafetyState) : Bool := s.state = .running

/-- What an unreadable or absent record is taken for. -/
def unknownState (detail : String) (now : UtcDatetime) : SafetyState where
  state := .unknown
  reasonCodes := [.safetyStateUnknown]
  recordedAtUtc := now
  trippedBy := some "startup_guard"
  detail := some detail

/-! ## The switch -/

structure HaltRecord where
  occurredAtUtc : UtcDatetime
  reasonCodes : List ReasonCode
  trippedBy : String
  detail : Option String

/-- The switch in a process's memory. -/
structure KillSwitch where
  state : KillSwitchState
  history : List HaltRecord

namespace KillSwitch

/-- The switch a starting process builds from the durable record. -/
def onStartup (recorded : SafetyState) : KillSwitch :=
  if recorded.permitsNewOrders then ⟨.running, []⟩
  else
    { state := if recorded.state = .halted then .halted else .unknown
      history := [{
        occurredAtUtc := recorded.recordedAtUtc
        reasonCodes :=
          if recorded.reasonCodes = [] then [.safetyStateUnknown] else recorded.reasonCodes
        trippedBy := recorded.trippedBy.getD "startup_guard"
        detail := recorded.detail }] }

def isHalted (k : KillSwitch) : Bool := k.state ≠ .running

def activeReasons (k : KillSwitch) : List ReasonCode :=
  if k.isHalted then ((k.history.getLast?).map (·.reasonCodes)).getD [] else []

/-- The switch after a halt whose durable record was written. -/
def tripped (k : KillSwitch) (record : HaltRecord) : KillSwitch :=
  { state := .halted, history := k.history ++ [record] }

@[simp] theorem tripped_isHalted (k : KillSwitch) (record : HaltRecord) :
    (k.tripped record).isHalted = true := rfl

end KillSwitch

/-- The durable form of a halt. -/
def HaltRecord.toSafetyState (r : HaltRecord) : SafetyState where
  state := .halted
  reasonCodes := r.reasonCodes
  recordedAtUtc := r.occurredAtUtc
  trippedBy := some r.trippedBy
  detail := r.detail

/-- The durable form of an operator's reset. -/
def resetState (operator incidentNote : String) (now : UtcDatetime) : SafetyState where
  state := .running
  reasonCodes := []
  recordedAtUtc := now
  trippedBy := some operator
  detail := some s!"reset by {operator}: {incidentNote}"

/-! ## The equity ledger -/

structure EquityLedger where
  startingEquity : Decimal
  peakEquity : Decimal
  currentEquity : Decimal
  sessionStartEquity : Decimal
  maxDrawdownFraction : Decimal
  maxSessionLossFraction : Decimal

namespace EquityLedger

def create (startingEquity : Decimal) : Except PyError EquityLedger :=
  if startingEquity ≤ 0 then .error ⟨.value, "starting equity must be positive"⟩
  else
    .ok { startingEquity
          peakEquity := startingEquity
          currentEquity := startingEquity
          sessionStartEquity := startingEquity
          maxDrawdownFraction := 0
          maxSessionLossFraction := 0 }

def sessionLossFraction (l : EquityLedger) : Decimal :=
  if l.sessionStartEquity ≤ 0 then 0
  else Decimal.max 0 ((l.sessionStartEquity - l.currentEquity) / l.sessionStartEquity)

def drawdownFraction (l : EquityLedger) : Decimal :=
  if l.peakEquity ≤ 0 then 0
  else Decimal.max 0 ((l.peakEquity - l.currentEquity) / l.peakEquity)

def update (l : EquityLedger) (equity : Decimal) : EquityLedger :=
  let l := { l with currentEquity := equity, peakEquity := Decimal.max l.peakEquity equity }
  { l with
    maxDrawdownFraction := Decimal.max l.maxDrawdownFraction l.drawdownFraction
    maxSessionLossFraction := Decimal.max l.maxSessionLossFraction l.sessionLossFraction }

/-- Roll the daily-loss baseline forward. Drawdown is unaffected. -/
def startNewSession (l : EquityLedger) : EquityLedger :=
  { l with sessionStartEquity := l.currentEquity }

def resumed (startingEquity sessionStartEquity currentEquity peakEquity maxDrawdownFraction
    maxSessionLossFraction : Decimal) : Except PyError EquityLedger := do
  let ledger ← create startingEquity
  pure (update
    { ledger with sessionStartEquity, peakEquity, maxDrawdownFraction, maxSessionLossFraction }
    currentEquity)

end EquityLedger

end Crumblr
