import Crumblr.TradingAgent.Base

/-!
# The supervisor's pre-trade policy

Deterministic rules on one intent. Whether the position state is known comes first and
is no matter of policy: a supervisor that is switched off still halts on it.
-/

namespace Crumblr

/-- The supervisor's section of the configuration, as far as the policy reads it. -/
structure SupervisorConfig where
  enabled : Bool
  vetoOnUnknownRegime : Bool
  maxIntentsPerHour : Option Nat
  calibrated : ∀ n ∈ maxIntentsPerHour, 1 ≤ n

namespace Pretrade

def policyVersion : String := "supervisor-policy-v2"

def signalFrequencyCheck : String := "signal_frequency"

def confidenceBandCheck : String := "confidence_band"

def knownRegimes : List Regime := [.trend, .range, .highVolatility, .lowVolatility]

/-- The envelope a strategy may operate in. The confidence band is always the whole range
of confidences, so it is no field. -/
structure SupervisorPolicy where
  enabled : Bool
  vetoOnUnknownRegime : Bool
  allowedStrategyIds : List String
  allowedModelVersions : Option (List String)
  maxIntentsPerHour : Option Nat

structure SupervisorContext where
  intentsInLastHour : Nat
  incidentStatus : IncidentStatus
  reconciliationStatus : ReconciliationStatus

/-- The checks of a policy that cannot fail. -/
def uncalibratedChecks (policy : SupervisorPolicy) : List String :=
  [confidenceBandCheck]
    ++ (if policy.maxIntentsPerHour.isNone then [signalFrequencyCheck] else [])

variable [Externals]

def decisionId (intent : TradeIntent) (discriminator : String) : Uuid :=
  Externals.uuid5 ("crumblr:supervisor:" ++ intent.decisionHash ++ ":" ++ discriminator)

/-- A verdict with its reasons; without any it can only be an approval. -/
def decide_ (intent : TradeIntent) (verdict : SupervisorVerdict) (reasons : List ReasonCode)
    (now : UtcDatetime) (regime : Regime) (uncalibrated : List String)
    (h : verdict ≠ .approve → reasons ≠ []) : SupervisorDecision where
  decisionId := decisionId intent verdict.value
  intentId := intent.intentId
  verdict
  reasonCodes := reasons
  decidedAtUtc := now
  policyVersion
  statisticalMonitorVersion := none
  observedRegime := regime
  notes := none
  uncalibratedChecks := uncalibrated
  reasons := h

/-- The policy's rules that an intent breaks. -/
def violations (intent : TradeIntent) (features : FeatureEvidence) (policy : SupervisorPolicy)
    (context : SupervisorContext) : List ReasonCode :=
  (if intent.strategyId ∈ policy.allowedStrategyIds then [] else [.strategyNotEnabled])
  ++ (match policy.allowedModelVersions with
      | none => if intent.modelVersion.isSome then [.modelVersionNotAllowed] else []
      | some allowed =>
          if intent.modelVersion.any (fun v => decide (v ∈ allowed)) then []
          else [.modelVersionNotAllowed])
  ++ (if features.regime ∉ knownRegimes ∧ policy.vetoOnUnknownRegime then [.unknownRegime] else [])
  ++ (if policy.maxIntentsPerHour.any (fun n => decide (n < context.intentsInLastHour))
      then [.signalFrequencyAnomaly] else [])
  ++ (match context.incidentStatus with
      | .clear => []
      | .active => [.activeIncident]
      | .unknown => [.incidentStateUnknown])

/-- Judge an intent. -/
def evaluate (intent : TradeIntent) (features : FeatureEvidence) (policy : SupervisorPolicy)
    (context : SupervisorContext) (now : UtcDatetime) : SupervisorDecision :=
  match context.reconciliationStatus with
  | .mismatched =>
      decide_ intent .halt [.reconciliationMismatch] now features.regime [] (by simp)
  | .unknown =>
      decide_ intent .halt [.reconciliationUnknown] now features.regime [] (by simp)
  | .matched =>
      if policy.enabled then
        let reasons := (violations intent features policy context).eraseDups
        if h : reasons = [] then
          decide_ intent .approve [] now features.regime (uncalibratedChecks policy) (by simp)
        else
          decide_ intent .veto reasons now features.regime (uncalibratedChecks policy)
            fun _ => h
      else decide_ intent .approve [] now features.regime [] (by simp)

end Pretrade

end Crumblr
