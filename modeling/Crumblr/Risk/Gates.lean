import Crumblr.Domain.TimeUtils
import Crumblr.Risk.TradingWindow
import Crumblr.Risk.KillSwitch

/-!
# Gates

A gate looks at everything it is given, collects every reason to stay closed, and
is open exactly when there is none. The four gates between a sealed decision and
the broker share that shape and differ in their legs.
-/

namespace Crumblr

/-- A gate's verdict. A closed one says why, an open one has nothing to say. -/
structure GateDecision where
  isOpen : Bool
  reasonCodes : List ReasonCode
  reasoned : isOpen = reasonCodes.isEmpty

/-- The reasons of the legs that fail, in order. -/
def failing : List (Bool × ReasonCode) → List ReasonCode
  | [] => []
  | (fails, reason) :: legs => if fails then reason :: failing legs else failing legs

/-- **No leg fails exactly when no reason is collected.** -/
theorem failing_eq_nil {legs : List (Bool × ReasonCode)} :
    failing legs = [] ↔ ∀ leg ∈ legs, leg.1 = false := by
  induction legs with
  | nil => simp [failing]
  | cons leg legs ih =>
      obtain ⟨fails, reason⟩ := leg
      cases fails <;> simp [failing, ih]

/-- The verdict on some legs. -/
def GateDecision.ofLegs (legs : List (Bool × ReasonCode)) : GateDecision where
  isOpen := (failing legs).isEmpty
  reasonCodes := failing legs
  reasoned := rfl

theorem GateDecision.ofLegs_isOpen {legs : List (Bool × ReasonCode)} :
    (GateDecision.ofLegs legs).isOpen = true ↔ ∀ leg ∈ legs, leg.1 = false := by
  rw [← failing_eq_nil]
  exact List.isEmpty_iff

/-! ## Eligibility -/

/-- Whether an approved capsule may be executed at all. -/
def evaluateExecutionEligibility (capsule : DecisionCapsule) (intent : TradeIntent)
    (activationWatermark : Option UtcDatetime) (now : UtcDatetime)
    (currentStrategyVersion currentRiskConfigVersion : String) (intraday : IntradayPolicy)
    (calendar : TradingCalendar) : GateDecision :=
  .ofLegs [
    (match activationWatermark with
      | none => true
      | some watermark => decide (capsule.occurredAtUtc < watermark),
      .decisionPredatesExecutionActivation),
    (decide (capsule.strategyVersion ≠ currentStrategyVersion
      ∨ capsule.riskConfigVersion ≠ currentRiskConfigVersion), .strategyVersionNotCurrent),
    (intent.isExpired now, .intentExpired),
    (!permitsNewEntry now intraday calendar, .sessionBlackout)]

/-! ## Preflight -/

def evaluatePreflightGate (environment : Environment) (canonicalSymbol : String)
    (allowedSymbols : List String) (killSwitch : KillSwitch) : GateDecision :=
  .ofLegs [
    (decide (environment = .live), .liveExecutionNotPermitted),
    (decide (canonicalSymbol ∉ allowedSymbols), .symbolNotAllowed),
    (killSwitch.isHalted, .systemHalted)]

/-! ## Submission -/

structure SubmissionGateContext where
  environment : Environment
  account : AccountState
  reconciliationStatus : ReconciliationStatus
  freshTick : Option MarketTick
  maxMarketDataAgeMs : Nat
  killSwitch : KillSwitch
  riskConfigVersion : String
  approvedRiskConfigVersion : Option String
  submissionEnabled : Bool
  terminalTradeAllowed : Bool
  feedback20Approved : Bool
  approvedAccountRef : Option String
  now : UtcDatetime

/-- The reconciliation leg of a gate that needs a match. -/
def reconciliationLegs (status : ReconciliationStatus) : List (Bool × ReasonCode) :=
  [(decide (status = .mismatched), .reconciliationMismatch),
   (decide (status = .unknown), .reconciliationUnknown)]

/-- The quote legs: a tick there is, recent enough, and good. -/
def tickLegs (freshTick : Option MarketTick) (maxMarketDataAgeMs : Nat) (now : UtcDatetime) :
    List (Bool × ReasonCode) :=
  match freshTick with
  | none => [(true, .staleMarketData)]
  | some tick =>
      [(decide ((maxMarketDataAgeMs : ℚ) < millisecondsOf (now - tick.eventTimeUtc)), .staleMarketData),
       (decide (tick.dataQuality ≠ .good), .invalidQuote)]

def evaluateSubmissionGate [Externals] (context : SubmissionGateContext) : GateDecision :=
  .ofLegs (
    [(decide (context.environment ∉ demoOnlyEnvironments), .liveExecutionNotPermitted),
     (!context.account.isDemo, .liveAccountInPaperMode),
     (!context.account.connected, .accountNotConnected)]
    ++ reconciliationLegs context.reconciliationStatus
    ++ tickLegs context.freshTick context.maxMarketDataAgeMs context.now
    ++ [(context.killSwitch.isHalted, .systemHalted),
        (decide (context.approvedRiskConfigVersion ≠ some context.riskConfigVersion),
          .riskPolicyNotApproved),
        (!context.submissionEnabled, .executionNotExplicitlyEnabled),
        (!context.terminalTradeAllowed, .algotradingDisabled),
        (!context.feedback20Approved, .feedback20NotApproved),
        (decide (context.approvedAccountRef ≠ some context.account.loginHash), .wrongAccount)])

/-! ## Flatten -/

/-- The halts a flatten goes ahead under: it, or exposure it removes, caused them. -/
def toleratedHaltReasons : List ReasonCode :=
  [.overnightExposure, .flattenStateUnknown, .protectiveStopMissing, .protectiveStopMismatch,
   .submissionIntegrityAmbiguous, .flattenCloseFailed]

structure FlattenGateContext where
  environment : Environment
  account : AccountState
  terminalTradeAllowed : Bool
  positionBookComplete : Bool
  reconciliationStatus : ReconciliationStatus
  killSwitch : KillSwitch
  flattenRequired : Bool
  riskConfigVersion : String
  approvedRiskConfigVersion : Option String
  flattenSubmissionEnabled : Bool
  feedback20Approved : Bool
  now : UtcDatetime

def evaluateFlattenGate (context : FlattenGateContext) : GateDecision :=
  .ofLegs [
    (decide (context.environment ∉ demoOnlyEnvironments), .liveExecutionNotPermitted),
    (!context.account.isDemo, .liveAccountInPaperMode),
    (!context.account.connected, .accountNotConnected),
    (!context.terminalTradeAllowed, .algotradingDisabled),
    (!context.positionBookComplete, .positionBookIncomplete),
    (decide (context.reconciliationStatus = .unknown), .reconciliationUnknown),
    (context.killSwitch.isHalted
      && context.killSwitch.activeReasons.any (fun r => decide (r ∉ toleratedHaltReasons)),
      .systemHalted),
    (!context.flattenRequired, .flattenNotRequired),
    (decide (context.approvedRiskConfigVersion ≠ some context.riskConfigVersion),
      .riskPolicyNotApproved),
    (!context.flattenSubmissionEnabled, .flattenSubmissionNotEnabled),
    (!context.feedback20Approved, .feedback20NotApproved)]

end Crumblr
