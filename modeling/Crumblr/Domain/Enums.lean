import Mathlib.Tactic.Common

/-!
# The enumerations

The closed vocabularies of the platform, member by member. Each carries the
string it is stored and fingerprinted under.
-/

namespace Crumblr

/-- Where a platform runs. -/
inductive Environment where
  | backtest
  | replay
  | paper
  | shadow
  | live
  deriving DecidableEq, Repr

/-- The value the enumeration carries. -/
def Environment.value : Environment → String
  | .backtest => "backtest"
  | .replay => "replay"
  | .paper => "paper"
  | .shadow => "shadow"
  | .live => "live"

/-- The member a stored value names. -/
def Environment.ofValue? : String → Option Environment
  | "backtest" => some .backtest
  | "replay" => some .replay
  | "paper" => some .paper
  | "shadow" => some .shadow
  | "live" => some .live
  | _ => none

@[simp] theorem Environment.ofValue?_value (e : Environment) :
    Environment.ofValue? e.value = some e := by
  cases e <;> rfl

/-- The direction of an intent, an order or a position. -/
inductive Side where
  | buy
  | sell
  | flat
  deriving DecidableEq, Repr

/-- The value the enumeration carries. -/
def Side.value : Side → String
  | .buy => "BUY"
  | .sell => "SELL"
  | .flat => "FLAT"

/-- The member a stored value names. -/
def Side.ofValue? : String → Option Side
  | "BUY" => some .buy
  | "SELL" => some .sell
  | "FLAT" => some .flat
  | _ => none

@[simp] theorem Side.ofValue?_value (s : Side) : Side.ofValue? s.value = some s := by
  cases s <;> rfl

/-- How an entry is placed. -/
inductive EntryType where
  | market
  | limit
  | stop
  deriving DecidableEq, Repr

/-- The value the enumeration carries. -/
def EntryType.value : EntryType → String
  | .market => "MARKET"
  | .limit => "LIMIT"
  | .stop => "STOP"

/-- The member a stored value names. -/
def EntryType.ofValue? : String → Option EntryType
  | "MARKET" => some .market
  | "LIMIT" => some .limit
  | "STOP" => some .stop
  | _ => none

@[simp] theorem EntryType.ofValue?_value (t : EntryType) :
    EntryType.ofValue? t.value = some t := by
  cases t <;> rfl

/-- What kind of market a symbol belongs to. -/
inductive AssetClass where
  | fx
  | crypto
  | metal
  deriving DecidableEq, Repr

/-- The value the enumeration carries. -/
def AssetClass.value : AssetClass → String
  | .fx => "FX"
  | .crypto => "CRYPTO"
  | .metal => "METAL"

/-- How far a quote can be trusted. -/
inductive DataQuality where
  | good
  | stale
  | gapped
  | outOfOrder
  | suspect
  deriving DecidableEq, Repr

/-- The value the enumeration carries. -/
def DataQuality.value : DataQuality → String
  | .good => "GOOD"
  | .stale => "STALE"
  | .gapped => "GAPPED"
  | .outOfOrder => "OUT_OF_ORDER"
  | .suspect => "SUSPECT"

/-- The member a stored value names. -/
def DataQuality.ofValue? : String → Option DataQuality
  | "GOOD" => some .good
  | "STALE" => some .stale
  | "GAPPED" => some .gapped
  | "OUT_OF_ORDER" => some .outOfOrder
  | "SUSPECT" => some .suspect
  | _ => none

@[simp] theorem DataQuality.ofValue?_value (q : DataQuality) :
    DataQuality.ofValue? q.value = some q := by
  cases q <;> rfl

/-- What a tick stream did wrong around a tick. -/
inductive StreamAnomaly where
  | gap
  | outOfOrder
  | duplicate
  | crossedQuote
  | stalled
  deriving DecidableEq, Repr

/-- The market session a snapshot was taken in. -/
inductive SessionState where
  | open
  | closed
  | preOpen
  | postClose
  | holiday
  | unknown
  deriving DecidableEq, Repr

/-- The value the enumeration carries. -/
def SessionState.value : SessionState → String
  | .open => "OPEN"
  | .closed => "CLOSED"
  | .preOpen => "PRE_OPEN"
  | .postClose => "POST_CLOSE"
  | .holiday => "HOLIDAY"
  | .unknown => "UNKNOWN"

/-- The market regime a supervisor observed. -/
inductive Regime where
  | trend
  | range
  | highVolatility
  | lowVolatility
  | unknown
  deriving DecidableEq, Repr

/-- The value the enumeration carries. -/
def Regime.value : Regime → String
  | .trend => "TREND"
  | .range => "RANGE"
  | .highVolatility => "HIGH_VOLATILITY"
  | .lowVolatility => "LOW_VOLATILITY"
  | .unknown => "UNKNOWN"

/-- What the risk engine says. -/
inductive RiskVerdict where
  | pass
  | block
  | halt
  deriving DecidableEq, Repr

/-- The value the enumeration carries. -/
def RiskVerdict.value : RiskVerdict → String
  | .pass => "PASS"
  | .block => "BLOCK"
  | .halt => "HALT"

/-- What the supervisor says. -/
inductive SupervisorVerdict where
  | approve
  | veto
  | halt
  deriving DecidableEq, Repr

/-- The value the enumeration carries. -/
def SupervisorVerdict.value : SupervisorVerdict → String
  | .approve => "APPROVE"
  | .veto => "VETO"
  | .halt => "HALT"

/-- Why something was refused, vetoed or halted. -/
inductive ReasonCode where
  | staleMarketData
  | spreadTooWide
  | dailyLossLimit
  | openRiskLimit
  | riskPerTradeLimit
  | invalidStop
  | symbolNotAllowed
  | marketDisabled
  | reconciliationMismatch
  | supervisorVeto
  | accountNotConnected
  | wrongAccount
  | liveAccountInPaperMode
  | expertTradingDisabled
  | invalidQuote
  | volumeOutOfRange
  | volumeStepInvalid
  | stopDistanceViolation
  | maxOpenPositions
  | symbolExposureExists
  | maxDrawdown
  | sessionBlackout
  | overnightExposure
  | intentExpired
  | duplicateIntent
  | orderFrequencyLimit
  | systemHalted
  | reconciliationUnknown
  | incidentStateUnknown
  | safetyStateUnknown
  | decisionStateUnknown
  | riskLedgerLockUnavailable
  | openRiskUnknown
  | flattenStateUnknown
  | flattenCloseFailed
  | protectiveStopMissing
  | protectiveStopMismatch
  | submissionIntegrityAmbiguous
  | unknownRegime
  | confidenceOutOfRange
  | strategyNotEnabled
  | modelVersionNotAllowed
  | signalFrequencyAnomaly
  | criticalDrift
  | activeIncident
  | excessiveSlippage
  | repeatedOrderRejection
  | mt5ConnectionFailure
  | corruptedVersionReference
  | executionTimeRiskBlock
  | decisionPredatesExecutionActivation
  | strategyVersionNotCurrent
  | liveExecutionNotPermitted
  | riskPolicyNotApproved
  | executionNotExplicitlyEnabled
  | algotradingDisabled
  | feedback20NotApproved
  | canaryPermitCapsuleMismatch
  | canaryPermitNotFound
  | canaryPermitExpired
  | canaryPermitAlreadyConsumed
  | canaryPermitAccountMismatch
  | canaryPermitServerMismatch
  | canaryPermitSymbolMismatch
  | canaryPermitEntryTypeMismatch
  | canaryPermitAgentMismatch
  | canaryPermitAssignmentMismatch
  | canaryPermitStrategyArtifactMismatch
  | canaryPermitRiskFractionExceeded
  | positionBookIncomplete
  | flattenNotRequired
  | flattenSubmissionNotEnabled
  | manualHalt
  deriving DecidableEq, Repr

/-- The value the enumeration carries. -/
def ReasonCode.value : ReasonCode → String
  | .staleMarketData => "STALE_MARKET_DATA"
  | .spreadTooWide => "SPREAD_TOO_WIDE"
  | .dailyLossLimit => "DAILY_LOSS_LIMIT"
  | .openRiskLimit => "OPEN_RISK_LIMIT"
  | .riskPerTradeLimit => "RISK_PER_TRADE_LIMIT"
  | .invalidStop => "INVALID_STOP"
  | .symbolNotAllowed => "SYMBOL_NOT_ALLOWED"
  | .marketDisabled => "MARKET_DISABLED"
  | .reconciliationMismatch => "RECONCILIATION_MISMATCH"
  | .supervisorVeto => "SUPERVISOR_VETO"
  | .accountNotConnected => "ACCOUNT_NOT_CONNECTED"
  | .wrongAccount => "WRONG_ACCOUNT"
  | .liveAccountInPaperMode => "LIVE_ACCOUNT_IN_PAPER_MODE"
  | .expertTradingDisabled => "EXPERT_TRADING_DISABLED"
  | .invalidQuote => "INVALID_QUOTE"
  | .volumeOutOfRange => "VOLUME_OUT_OF_RANGE"
  | .volumeStepInvalid => "VOLUME_STEP_INVALID"
  | .stopDistanceViolation => "STOP_DISTANCE_VIOLATION"
  | .maxOpenPositions => "MAX_OPEN_POSITIONS"
  | .symbolExposureExists => "SYMBOL_EXPOSURE_EXISTS"
  | .maxDrawdown => "MAX_DRAWDOWN"
  | .sessionBlackout => "SESSION_BLACKOUT"
  | .overnightExposure => "OVERNIGHT_EXPOSURE"
  | .intentExpired => "INTENT_EXPIRED"
  | .duplicateIntent => "DUPLICATE_INTENT"
  | .orderFrequencyLimit => "ORDER_FREQUENCY_LIMIT"
  | .systemHalted => "SYSTEM_HALTED"
  | .reconciliationUnknown => "RECONCILIATION_UNKNOWN"
  | .incidentStateUnknown => "INCIDENT_STATE_UNKNOWN"
  | .safetyStateUnknown => "SAFETY_STATE_UNKNOWN"
  | .decisionStateUnknown => "DECISION_STATE_UNKNOWN"
  | .riskLedgerLockUnavailable => "RISK_LEDGER_LOCK_UNAVAILABLE"
  | .openRiskUnknown => "OPEN_RISK_UNKNOWN"
  | .flattenStateUnknown => "FLATTEN_STATE_UNKNOWN"
  | .flattenCloseFailed => "FLATTEN_CLOSE_FAILED"
  | .protectiveStopMissing => "PROTECTIVE_STOP_MISSING"
  | .protectiveStopMismatch => "PROTECTIVE_STOP_MISMATCH"
  | .submissionIntegrityAmbiguous => "SUBMISSION_INTEGRITY_AMBIGUOUS"
  | .unknownRegime => "UNKNOWN_REGIME"
  | .confidenceOutOfRange => "CONFIDENCE_OUT_OF_RANGE"
  | .strategyNotEnabled => "STRATEGY_NOT_ENABLED"
  | .modelVersionNotAllowed => "MODEL_VERSION_NOT_ALLOWED"
  | .signalFrequencyAnomaly => "SIGNAL_FREQUENCY_ANOMALY"
  | .criticalDrift => "CRITICAL_DRIFT"
  | .activeIncident => "ACTIVE_INCIDENT"
  | .excessiveSlippage => "EXCESSIVE_SLIPPAGE"
  | .repeatedOrderRejection => "REPEATED_ORDER_REJECTION"
  | .mt5ConnectionFailure => "MT5_CONNECTION_FAILURE"
  | .corruptedVersionReference => "CORRUPTED_VERSION_REFERENCE"
  | .executionTimeRiskBlock => "EXECUTION_TIME_RISK_BLOCK"
  | .decisionPredatesExecutionActivation => "DECISION_PREDATES_EXECUTION_ACTIVATION"
  | .strategyVersionNotCurrent => "STRATEGY_VERSION_NOT_CURRENT"
  | .liveExecutionNotPermitted => "LIVE_EXECUTION_NOT_PERMITTED"
  | .riskPolicyNotApproved => "RISK_POLICY_NOT_APPROVED"
  | .executionNotExplicitlyEnabled => "EXECUTION_NOT_EXPLICITLY_ENABLED"
  | .algotradingDisabled => "ALGOTRADING_DISABLED"
  | .feedback20NotApproved => "FEEDBACK_2_0_NOT_APPROVED"
  | .canaryPermitCapsuleMismatch => "CANARY_PERMIT_CAPSULE_MISMATCH"
  | .canaryPermitNotFound => "CANARY_PERMIT_NOT_FOUND"
  | .canaryPermitExpired => "CANARY_PERMIT_EXPIRED"
  | .canaryPermitAlreadyConsumed => "CANARY_PERMIT_ALREADY_CONSUMED"
  | .canaryPermitAccountMismatch => "CANARY_PERMIT_ACCOUNT_MISMATCH"
  | .canaryPermitServerMismatch => "CANARY_PERMIT_SERVER_MISMATCH"
  | .canaryPermitSymbolMismatch => "CANARY_PERMIT_SYMBOL_MISMATCH"
  | .canaryPermitEntryTypeMismatch => "CANARY_PERMIT_ENTRY_TYPE_MISMATCH"
  | .canaryPermitAgentMismatch => "CANARY_PERMIT_AGENT_MISMATCH"
  | .canaryPermitAssignmentMismatch => "CANARY_PERMIT_ASSIGNMENT_MISMATCH"
  | .canaryPermitStrategyArtifactMismatch => "CANARY_PERMIT_STRATEGY_ARTIFACT_MISMATCH"
  | .canaryPermitRiskFractionExceeded => "CANARY_PERMIT_RISK_FRACTION_EXCEEDED"
  | .positionBookIncomplete => "POSITION_BOOK_INCOMPLETE"
  | .flattenNotRequired => "FLATTEN_NOT_REQUIRED"
  | .flattenSubmissionNotEnabled => "FLATTEN_SUBMISSION_NOT_ENABLED"
  | .manualHalt => "MANUAL_HALT"

/-- Every reason there is. -/
def ReasonCode.all : List ReasonCode :=
  [.staleMarketData, .spreadTooWide, .dailyLossLimit, .openRiskLimit, .riskPerTradeLimit,
   .invalidStop, .symbolNotAllowed, .marketDisabled, .reconciliationMismatch, .supervisorVeto,
   .accountNotConnected, .wrongAccount, .liveAccountInPaperMode, .expertTradingDisabled,
   .invalidQuote, .volumeOutOfRange, .volumeStepInvalid, .stopDistanceViolation,
   .maxOpenPositions, .symbolExposureExists, .maxDrawdown, .sessionBlackout, .overnightExposure,
   .intentExpired, .duplicateIntent, .orderFrequencyLimit, .systemHalted, .reconciliationUnknown,
   .incidentStateUnknown, .safetyStateUnknown, .decisionStateUnknown, .riskLedgerLockUnavailable,
   .openRiskUnknown, .flattenStateUnknown, .flattenCloseFailed, .protectiveStopMissing,
   .protectiveStopMismatch, .submissionIntegrityAmbiguous, .unknownRegime, .confidenceOutOfRange,
   .strategyNotEnabled, .modelVersionNotAllowed, .signalFrequencyAnomaly, .criticalDrift,
   .activeIncident, .excessiveSlippage, .repeatedOrderRejection, .mt5ConnectionFailure,
   .corruptedVersionReference, .executionTimeRiskBlock, .decisionPredatesExecutionActivation,
   .strategyVersionNotCurrent, .liveExecutionNotPermitted, .riskPolicyNotApproved,
   .executionNotExplicitlyEnabled, .algotradingDisabled, .feedback20NotApproved,
   .canaryPermitCapsuleMismatch, .canaryPermitNotFound, .canaryPermitExpired,
   .canaryPermitAlreadyConsumed, .canaryPermitAccountMismatch, .canaryPermitServerMismatch,
   .canaryPermitSymbolMismatch, .canaryPermitEntryTypeMismatch, .canaryPermitAgentMismatch,
   .canaryPermitAssignmentMismatch, .canaryPermitStrategyArtifactMismatch,
   .canaryPermitRiskFractionExceeded, .positionBookIncomplete, .flattenNotRequired,
   .flattenSubmissionNotEnabled, .manualHalt]

/-- The reason a value stands for. -/
def ReasonCode.ofValue? (value : String) : Option ReasonCode :=
  ReasonCode.all.find? fun c => c.value = value

theorem ReasonCode.mem_all (c : ReasonCode) : c ∈ ReasonCode.all := by
  cases c <;> decide +kernel

@[simp] theorem ReasonCode.ofValue?_value (c : ReasonCode) :
    ReasonCode.ofValue? c.value = some c := by
  have hall : ∀ c ∈ ReasonCode.all, ReasonCode.ofValue? c.value = some c := by decide +kernel
  exact hall c (ReasonCode.mem_all c)

/-- What a broker says of an order. -/
inductive OrderState where
  | created
  | riskApproved
  | supervisorApproved
  | orderChecked
  | submitted
  | acknowledged
  | partiallyFilled
  | filled
  | rejected
  | reconciled
  | closed
  | cancelled
  | unknown
  deriving DecidableEq, Repr

/-- The value the enumeration carries. -/
def OrderState.value : OrderState → String
  | .created => "CREATED"
  | .riskApproved => "RISK_APPROVED"
  | .supervisorApproved => "SUPERVISOR_APPROVED"
  | .orderChecked => "ORDER_CHECKED"
  | .submitted => "SUBMITTED"
  | .acknowledged => "ACKNOWLEDGED"
  | .partiallyFilled => "PARTIALLY_FILLED"
  | .filled => "FILLED"
  | .rejected => "REJECTED"
  | .reconciled => "RECONCILED"
  | .closed => "CLOSED"
  | .cancelled => "CANCELLED"
  | .unknown => "UNKNOWN"

/-- Whether new orders are permitted. -/
inductive KillSwitchState where
  | running
  | halted
  | unknown
  deriving DecidableEq, Repr

/-- The value the enumeration carries. -/
def KillSwitchState.value : KillSwitchState → String
  | .running => "RUNNING"
  | .halted => "HALTED"
  | .unknown => "UNKNOWN"

def KillSwitchState.ofValue? : String → Option KillSwitchState
  | "RUNNING" => some .running
  | "HALTED" => some .halted
  | "UNKNOWN" => some .unknown
  | _ => none

@[simp] theorem KillSwitchState.ofValue?_value (s : KillSwitchState) :
    KillSwitchState.ofValue? s.value = some s := by
  cases s <;> rfl

/-- What comparing the broker with the expectation came to. -/
inductive ReconciliationStatus where
  | matched
  | mismatched
  | unknown
  deriving DecidableEq, Repr

/-- The value the enumeration carries. -/
def ReconciliationStatus.value : ReconciliationStatus → String
  | .matched => "MATCHED"
  | .mismatched => "MISMATCHED"
  | .unknown => "UNKNOWN"

/-- Whether the incident register is known to be clear. -/
inductive IncidentStatus where
  | clear
  | active
  | unknown
  deriving DecidableEq, Repr

/-- One step in the life of an execution request. -/
inductive ExecutionEventType where
  | requestClaimed
  | ineligible
  | gateClosed
  | reconciliationBlocked
  | finalRiskPassed
  | finalRiskBlocked
  | orderChecked
  | orderCheckRejected
  | submissionGatePassed
  | submissionGateBlocked
  | submissionStarted
  | ambiguousOutcomeResolved
  | reconciled
  | submitted
  | brokerAck
  | filled
  | closed
  | rejected
  | canaryPermitBlocked
  deriving DecidableEq, Repr

/-- The value the enumeration carries. -/
def ExecutionEventType.value : ExecutionEventType → String
  | .requestClaimed => "REQUEST_CLAIMED"
  | .ineligible => "INELIGIBLE"
  | .gateClosed => "GATE_CLOSED"
  | .reconciliationBlocked => "RECONCILIATION_BLOCKED"
  | .finalRiskPassed => "FINAL_RISK_PASSED"
  | .finalRiskBlocked => "FINAL_RISK_BLOCKED"
  | .orderChecked => "ORDER_CHECKED"
  | .orderCheckRejected => "ORDER_CHECK_REJECTED"
  | .submissionGatePassed => "SUBMISSION_GATE_PASSED"
  | .submissionGateBlocked => "SUBMISSION_GATE_BLOCKED"
  | .submissionStarted => "SUBMISSION_STARTED"
  | .ambiguousOutcomeResolved => "AMBIGUOUS_OUTCOME_RESOLVED"
  | .reconciled => "RECONCILED"
  | .submitted => "SUBMITTED"
  | .brokerAck => "BROKER_ACK"
  | .filled => "FILLED"
  | .closed => "CLOSED"
  | .rejected => "REJECTED"
  | .canaryPermitBlocked => "CANARY_PERMIT_BLOCKED"

/-- One step in the life of a flatten occurrence. -/
inductive FlattenEventType where
  | flattenRequestClaimed
  | flattenGateBlocked
  | flattenGatePassed
  | flattenSubmissionStarted
  | flattenOutcomeResolved
  deriving DecidableEq, Repr

/-- The value the enumeration carries. -/
def FlattenEventType.value : FlattenEventType → String
  | .flattenRequestClaimed => "FLATTEN_REQUEST_CLAIMED"
  | .flattenGateBlocked => "FLATTEN_GATE_BLOCKED"
  | .flattenGatePassed => "FLATTEN_GATE_PASSED"
  | .flattenSubmissionStarted => "FLATTEN_SUBMISSION_STARTED"
  | .flattenOutcomeResolved => "FLATTEN_OUTCOME_RESOLVED"

/-- Whether a broker set was read whole. -/
inductive SnapshotCompleteness where
  | complete
  | failed
  | unknown
  deriving DecidableEq, Repr

/-- The value the enumeration carries. -/
def SnapshotCompleteness.value : SnapshotCompleteness → String
  | .complete => "COMPLETE"
  | .failed => "FAILED"
  | .unknown => "UNKNOWN"

/-- The qualities a risk check accepts. -/
def tradeableDataQuality : List DataQuality := [.good]

/-- The environments that must never hold a live account. -/
def demoOnlyEnvironments : List Environment := [.paper, .shadow]

end Crumblr
