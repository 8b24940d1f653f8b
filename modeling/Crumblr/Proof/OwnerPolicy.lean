import Crumblr.Application.PaperProcess
import Crumblr.Proof.GatewayRate

/-!
# The owner's risk policy in a paper run

The constructor compares the platform-wide limits with the owner's. The limits in force for the
assignment's symbol are merged later, and what the symbol's market says differently is compared
with nothing. The owner's values hold exactly when that market loosens none of the four limits.
-/

namespace Crumblr.PaperLite

/-- No limit is looser than the owner's. -/
structure WithinOwnerPolicy (risk : RiskConfig) : Prop where
  maxRiskPerTrade : risk.maxRiskPerTrade.val ≤ ownerMaxRiskPerTrade
  maxOpenRisk : risk.maxOpenRisk.val ≤ ownerMaxOpenRisk
  maxDailyLoss : risk.maxDailyLoss.val ≤ ownerMaxDailyLoss
  maxDrawdown : risk.maxDrawdown.val ≤ ownerMaxDrawdown

/-- Nothing a market says differently is looser than the owner's. -/
structure OverridesWithinOwnerPolicy (overrides : RiskOverrides) : Prop where
  maxRiskPerTrade : ∀ d ∈ overrides.maxRiskPerTrade, d.val ≤ ownerMaxRiskPerTrade
  maxOpenRisk : ∀ d ∈ overrides.maxOpenRisk, d.val ≤ ownerMaxOpenRisk
  maxDailyLoss : ∀ d ∈ overrides.maxDailyLoss, d.val ≤ ownerMaxDailyLoss
  maxDrawdown : ∀ d ∈ overrides.maxDrawdown, d.val ≤ ownerMaxDrawdown

/-- The limits a paper run applies to its symbol. -/
inductive PaperLiteOrchestrator.InForce [Externals] (self : PaperLiteOrchestrator) :
    RiskConfig → Prop where
  /-- When the process recovers its session. -/
  | sessionRecovery : InForce self self.riskConfig
  /-- When the decision path recovers the session. -/
  | decisionPathRecovery (q : Observation) (outcomeId : Uuid) (proposal : Option TradeProposal) :
      InForce self (self.decisionPath q outcomeId proposal).config.risk
  /-- When open risk and the other limits are evaluated for an intent. -/
  | evaluation {q : Observation} {outcomeId : Uuid} {proposal : Option TradeProposal}
      {context : RiskContext} : self.checkObservation q = .ok () →
      AgentDecisionPath.riskContext (self.decisionPath q outcomeId proposal).config
        (self.decisionPath q outcomeId proposal).snapshot.symbol = .ok context →
      InForce self context.risk

/-! ## What the constructor and the merge leave -/

/-- The constructor's comparison is exact. -/
theorem OwnerPolicyIsExact.within {risk : RiskConfig}
    (h : OwnerPolicyIsExact risk.maxRiskPerTrade.val risk.maxOpenRisk.val risk.maxDailyLoss.val
      risk.maxDrawdown.val) : WithinOwnerPolicy risk := by
  obtain ⟨htrade, hopen, hloss, hdrawdown⟩ := h
  rw [Decimal.compare_eq] at htrade hopen hloss hdrawdown
  exact ⟨htrade.1, hopen.1, hloss.1, hdrawdown.1⟩

/-- A field of the merge is within a bound exactly when what the market says of it is. -/
theorem getD_within (override : Option RiskFraction) {platform : RiskFraction} {bound : Decimal}
    (h : platform.val ≤ bound) :
    (override.getD platform).val ≤ bound ↔ ∀ d ∈ override, d.val ≤ bound := by
  cases override with
  | none => simp [h]
  | some d => simp

/-- The merge is within the owner's policy exactly when what the market says is. -/
theorem riskFor_within {config : PlatformConfig} {symbol : String} {risk : RiskConfig}
    (hplatform : WithinOwnerPolicy config.risk) (h : config.riskFor symbol = .ok risk) :
    WithinOwnerPolicy risk ↔
      ∀ overrides ∈ (config.marketFor symbol).bind (·.riskOverrides),
        OverridesWithinOwnerPolicy overrides := by
  unfold PlatformConfig.riskFor at h
  cases hmarket : (config.marketFor symbol).bind (·.riskOverrides) with
  | none =>
      rw [hmarket] at h
      cases h
      constructor
      · intro _ overrides ho
        cases ho
      · intro _
        exact hplatform
  | some overrides =>
      simp only [hmarket] at h
      split at h
      · cases h
        have htrade := getD_within overrides.maxRiskPerTrade hplatform.maxRiskPerTrade
        have hopen := getD_within overrides.maxOpenRisk hplatform.maxOpenRisk
        have hloss := getD_within overrides.maxDailyLoss hplatform.maxDailyLoss
        have hdrawdown := getD_within overrides.maxDrawdown hplatform.maxDrawdown
        constructor
        · rintro hw _ ⟨⟩
          exact ⟨htrade.mp hw.maxRiskPerTrade, hopen.mp hw.maxOpenRisk, hloss.mp hw.maxDailyLoss,
            hdrawdown.mp hw.maxDrawdown⟩
        · intro ho
          obtain ⟨h₁, h₂, h₃, h₄⟩ := ho overrides rfl
          exact ⟨htrade.mpr h₁, hopen.mpr h₂, hloss.mpr h₃, hdrawdown.mpr h₄⟩
      · cases h

section

variable [Externals] {config : PlatformConfig} {settings : PaperLiteSettings}
  {assignment : TradingAssignment} {agentId : Uuid} {credentialSecret codeCommit : String}
  {incidentClearAssertion : Option PaperLiteIncidentClearAssertion} {externalSupervisor : Bool}
  {o : PaperLiteOrchestrator}

/-- **What a constructor that accepts has checked and merged.** -/
theorem create_eq_ok (h : PaperLiteOrchestrator.create config settings assignment agentId
      credentialSecret codeCommit incidentClearAssertion externalSupervisor = .ok o) :
    WithinOwnerPolicy config.risk
      ∧ config.riskFor assignment.canonicalSymbol = .ok o.riskConfig
      ∧ o.config = config ∧ o.assignment = assignment := by
  unfold PaperLiteOrchestrator.create at h
  cases hvalid : validatePaperLitePlatformConfig config settings with
  | error e => rw [hvalid] at h; cases h
  | ok =>
      rw [hvalid] at h
      have hexact : OwnerPolicyIsExact config.risk.maxRiskPerTrade.val config.risk.maxOpenRisk.val
          config.risk.maxDailyLoss.val config.risk.maxDrawdown.val := by
        unfold validatePaperLitePlatformConfig at hvalid
        iterate 4
          split at hvalid
          · cases hvalid
        split at hvalid
        · cases hvalid
        · rename_i hexact
          exact Decidable.not_not.mp hexact
      change (if _ then _ else if _ then _ else _) = _ at h
      split at h
      · cases h
      · split at h
        · cases h
        · cases hrisk : config.riskFor assignment.canonicalSymbol with
          | error e => rw [hrisk] at h; cases h
          | ok riskConfig =>
              rw [hrisk] at h
              cases h
              exact ⟨hexact.within, rfl, rfl, rfl⟩

/-- The context of an evaluation has the merged limits. -/
theorem riskContext_risk {symbol : String} {context : RiskContext}
    (h : AgentDecisionPath.riskContext config symbol = .ok context) :
    config.riskFor symbol = .ok context.risk := by
  unfold AgentDecisionPath.riskContext at h
  cases hrisk : config.riskFor symbol with
  | error e => rw [hrisk] at h; cases h
  | ok risk => rw [hrisk] at h; cases h; rfl

/-- An observation that is taken is about the assignment's symbol. -/
theorem checkObservation_symbol {q : Observation} (h : o.checkObservation q = .ok ()) :
    q.snapshot.symbol = o.assignment.canonicalSymbol := by
  unfold PaperLiteOrchestrator.checkObservation at h
  split at h
  · cases h
  · split at h
    · cases h
    · rename_i hsymbol
      exact Decidable.not_not.mp hsymbol

/--
**The owner's policy holds in a paper run exactly when the symbol's market does not loosen it.**
-/
theorem paper_limits_within_owner_policy (h : PaperLiteOrchestrator.create config settings
      assignment agentId credentialSecret codeCommit incidentClearAssertion externalSupervisor
        = .ok o) :
    (∀ risk, o.InForce risk → WithinOwnerPolicy risk) ↔
      ∀ overrides ∈ (config.marketFor assignment.canonicalSymbol).bind (·.riskOverrides),
        OverridesWithinOwnerPolicy overrides := by
  obtain ⟨hplatform, hrisk, hconfig, hassignment⟩ := create_eq_ok h
  have hmerged := riskFor_within hplatform hrisk
  refine ⟨fun hall => hmerged.mp (hall _ .sessionRecovery), fun hoverrides risk hforce => ?_⟩
  cases hforce with
  | sessionRecovery => exact hmerged.mpr hoverrides
  | decisionPathRecovery q outcomeId proposal =>
      change WithinOwnerPolicy o.config.risk
      rw [hconfig]
      exact hplatform
  | @evaluation q outcomeId proposal context hq hcontext =>
      -- the second lookup merges the same section, for the symbol the observation was checked for
      have hcontext : AgentDecisionPath.riskContext o.config q.snapshot.symbol = .ok context :=
        hcontext
      rw [hconfig, checkObservation_symbol hq, hassignment] at hcontext
      exact (riskFor_within hplatform (riskContext_risk hcontext)).mpr hoverrides

end

end Crumblr.PaperLite

namespace Crumblr

open PaperLite (PaperLiteSettings WithinOwnerPolicy ownerMaxRiskPerTrade)

/-! ## A market with a looser limit of its own -/

namespace Sample

/-- The owner's policy, as a settings file repeats it. -/
def settings : PaperLiteSettings where
  mode := "PAPER_LITE"
  startingBalance := spec.contractSize
  accountCurrency := "USD"
  leverage := ⟨100, by decide⟩
  operationalMaxOpenPositions := ⟨3, by decide⟩
  maxRiskPerTrade := fraction 2 (-2)
  maxOpenRisk := fraction 3 (-2)
  maxDailyLoss := fraction 4 (-2)
  maxDrawdown := fraction 8 (-2)
  fridayLastEntryMinutesBeforeClose := 15
  fridayFlattenMinutesBeforeClose := 5
  modeIsPaperLite := rfl
  ownerPolicyIsExact := by decide
  fridayLastEntry := rfl
  fridayFlatten := rfl

/-- The market, with three percent of risk a trade. -/
def looseMarket : MarketConfig :=
  { market with riskOverrides := some ⟨some (fraction 3 (-2)), none, none, none, none, none,
      none⟩ }

def paperConfig (market : MarketConfig) : PlatformConfig :=
  settings.platformConfig
    { config with markets := [market], marketsDistinct := by simp } "paper-cfg"

/-- A paper run of the sample assignment. -/
def paperRun (config : PlatformConfig) : Except PyError PaperLite.PaperLiteOrchestrator :=
  PaperLite.PaperLiteOrchestrator.create config settings assignment ⟨"agent"⟩ "secret" "c" none false

end Sample

open Sample in
/-- A market that says nothing of its own leaves the owner's policy in force. -/
theorem paper_limits_within_owner_policy_sample : ∃ o, paperRun (paperConfig market) = .ok o
    ∧ ∀ risk, o.InForce risk → WithinOwnerPolicy risk := by
  have haccepted : (paperRun (paperConfig market)).toBool = true := by decide +kernel
  cases h : paperRun (paperConfig market) with
  | error e => rw [h] at haccepted; cases haccepted
  | ok o =>
      refine ⟨o, rfl, (PaperLite.paper_limits_within_owner_policy h).mpr ?_⟩
      intro overrides ho
      cases ho

open Sample in
/-- A run is accepted that may lose three percent of the account on one trade. -/
theorem loosened_by_the_market : ∃ o, paperRun (paperConfig looseMarket) = .ok o
    ∧ ∃ risk, o.InForce risk ∧ ownerMaxRiskPerTrade < risk.maxRiskPerTrade.val := by
  have haccepted : (paperRun (paperConfig looseMarket)).toOption.any
      (fun o => decide (ownerMaxRiskPerTrade < o.riskConfig.maxRiskPerTrade.val)) = true := by
    decide +kernel
  cases h : paperRun (paperConfig looseMarket) with
  | error e => rw [h] at haccepted; cases haccepted
  | ok o =>
      rw [h] at haccepted
      exact ⟨o, rfl, o.riskConfig, .sessionRecovery, of_decide_eq_true haccepted⟩

end Crumblr
