import Crumblr.AgentGateway.DecisionPath

/-!
# What a paper run is set up with

A paper run has the owner's risk policy, and its constructor refuses a configuration whose
platform-wide limits are not exactly the owner's. The limits in force for the assignment's symbol
are merged from that section and from what the symbol's market says differently.
-/

namespace Crumblr.PaperLite

def paperLiteMode : String := "PAPER_LITE"

def paperLitePolicyVersion : String := "owner-risk-policy-v1-paper-lite"

def ownerMaxRiskPerTrade : Decimal := ⟨2, -2⟩

def ownerMaxOpenRisk : Decimal := ⟨3, -2⟩

def ownerMaxDailyLoss : Decimal := ⟨4, -2⟩

def ownerMaxDrawdown : Decimal := ⟨8, -2⟩

/-- The values of four limits are the owner's. -/
def OwnerPolicyIsExact (maxRiskPerTrade maxOpenRisk maxDailyLoss maxDrawdown : Decimal) : Prop :=
  maxRiskPerTrade.compare ownerMaxRiskPerTrade = .eq
    ∧ maxOpenRisk.compare ownerMaxOpenRisk = .eq
    ∧ maxDailyLoss.compare ownerMaxDailyLoss = .eq
    ∧ maxDrawdown.compare ownerMaxDrawdown = .eq

instance (a b c d : Decimal) : Decidable (OwnerPolicyIsExact a b c d) :=
  inferInstanceAs (Decidable (_ ∧ _))

/-- The settings of a paper run. They repeat the owner's policy, which is checked. -/
structure PaperLiteSettings where
  mode : String
  startingBalance : { d : Decimal // 0 < d }
  accountCurrency : String
  leverage : { n : Nat // 0 < n }
  operationalMaxOpenPositions : { n : Nat // 1 < n }
  maxRiskPerTrade : RiskFraction
  maxOpenRisk : RiskFraction
  maxDailyLoss : RiskFraction
  maxDrawdown : RiskFraction
  fridayLastEntryMinutesBeforeClose : Nat
  fridayFlattenMinutesBeforeClose : Nat
  modeIsPaperLite : mode = paperLiteMode
  ownerPolicyIsExact :
    OwnerPolicyIsExact maxRiskPerTrade.val maxOpenRisk.val maxDailyLoss.val maxDrawdown.val
  fridayLastEntry : fridayLastEntryMinutesBeforeClose = 15
  fridayFlatten : fridayFlattenMinutesBeforeClose = 5

namespace PaperLiteSettings

variable (self : PaperLiteSettings)

/-- The owner's limits do not contradict each other. -/
theorem budgetOrdering : ¬ self.maxOpenRisk.val < self.maxRiskPerTrade.val
    ∧ ¬ self.maxDrawdown.val < self.maxDailyLoss.val := by
  obtain ⟨htrade, hopen, hloss, hdrawdown⟩ := self.ownerPolicyIsExact
  rw [Decimal.compare_eq] at htrade hopen hloss hdrawdown
  have howner : ownerMaxRiskPerTrade ≤ ownerMaxOpenRisk ∧ ownerMaxDailyLoss ≤ ownerMaxDrawdown := by
    decide
  refine ⟨fun h => ?_, fun h => ?_⟩
  · exact absurd (htrade.1.trans (howner.1.trans hopen.2)) (not_le_of_gt h)
  · exact absurd (hloss.1.trans (howner.2.trans hdrawdown.2)) (not_le_of_gt h)

/-- Apply the owner's policy to a base configuration, without enabling submission. The digest
is that of the result. -/
def platformConfig (base : PlatformConfig) (configVersion : String) : PlatformConfig where
  environment := .paper
  markets := base.markets
  risk := {
    maxRiskPerTrade := self.maxRiskPerTrade
    maxOpenRisk := self.maxOpenRisk
    maxDailyLoss := self.maxDailyLoss
    maxDrawdown := self.maxDrawdown
    maxOrdersPerHour := base.risk.maxOrdersPerHour
    maxOpenPositions := self.operationalMaxOpenPositions.val
    minStopDistancePoints := base.risk.minStopDistancePoints
    approvedConfigVersion := none
    budgetOrdering := self.budgetOrdering }
  execution := { base.execution with
    submissionEnabled := false
    feedback20Approved := false
    flattenSubmissionEnabled := false }
  tradingAgent := base.tradingAgent
  accountGuard := {
    expectedServer := "Crumblr-PAPER_LITE"
    expectedLogin := none
    requireDemoAccount := true
    expectedCurrency := some self.accountCurrency
    expectedLeverage := some self.leverage.val }
  intraday := {
    enabled := true
    lastEntryMinutesBeforeClose := self.fridayLastEntryMinutesBeforeClose
    flattenMinutesBeforeClose := self.fridayFlattenMinutesBeforeClose
    deadlineOrdering := by rw [self.fridayLastEntry, self.fridayFlatten]; decide }
  liveTradingAcknowledged := false
  configVersion
  marketsDistinct := base.marketsDistinct
  demoGuard := fun _ => rfl

end PaperLiteSettings

/-- What an operator asserts when clearing incidents in a paper process. -/
structure PaperLiteIncidentClearAssertion where
  operator : String
  note : String
  assertedAtUtc : UtcDatetime

/-- Refuse a configuration that would weaken a paper run, or mislabel it. -/
def validatePaperLitePlatformConfig (config : PlatformConfig) (settings : PaperLiteSettings) :
    Except PyError Unit :=
  if settings.mode ≠ paperLiteMode then .error ⟨.value, "mode must be PAPER_LITE"⟩
  else if config.environment ≠ .paper then
    .error ⟨.value, "PAPER_LITE requires Environment.PAPER"⟩
  else if config.liveTradingAcknowledged then
    .error ⟨.value, "PAPER_LITE cannot acknowledge live trading"⟩
  else if config.execution.submissionEnabled ∨ config.execution.feedback20Approved
      ∨ config.execution.flattenSubmissionEnabled then
    .error ⟨.value, "every real/flatten submission flag must remain false"⟩
  else if ¬ OwnerPolicyIsExact config.risk.maxRiskPerTrade.val config.risk.maxOpenRisk.val
      config.risk.maxDailyLoss.val config.risk.maxDrawdown.val then
    .error ⟨.value, "platform config does not match Owner Risk Policy v1"⟩
  else .ok ()

/-- A paper orchestrator, as its constructor leaves it. What its process remembers is apart. -/
structure PaperLiteOrchestrator where
  config : PlatformConfig
  settings : PaperLiteSettings
  assignment : TradingAssignment
  agentId : Uuid
  credentialSecret : String
  codeCommit : String
  incidentClearAssertion : Option PaperLiteIncidentClearAssertion
  /-- Whether a reviewing agent was provided. -/
  externalSupervisor : Bool
  riskConfig : RiskConfig
  executionConfig : ExecutionConfig
  calendar : TradingCalendar

namespace PaperLiteOrchestrator

variable [Externals]

def create (config : PlatformConfig) (settings : PaperLiteSettings)
    (assignment : TradingAssignment) (agentId : Uuid) (credentialSecret codeCommit : String)
    (incidentClearAssertion : Option PaperLiteIncidentClearAssertion)
    (externalSupervisor : Bool) : Except PyError PaperLiteOrchestrator := do
  validatePaperLitePlatformConfig config settings
  if assignment.environment ≠ .paper then
    .error ⟨.value, "PAPER_LITE assignment must target PAPER"⟩
  else if assignment.allowedAgentId ≠ agentId then
    .error ⟨.value, "PAPER_LITE Agent does not own the assignment"⟩
  else
    -- a second market must not silently trade against another's limits or calendar
    let riskConfig ← config.riskFor assignment.canonicalSymbol
    pure {
      config
      settings
      assignment
      agentId
      credentialSecret
      codeCommit
      incidentClearAssertion
      externalSupervisor
      riskConfig
      executionConfig := config.executionFor assignment.canonicalSymbol
      calendar := match config.marketFor assignment.canonicalSymbol with
        | some market => calendarFor market.assetClass market.sessionPolicyApproved
        | none => fxWeekdayCalendar }

omit [Externals] in
/-- What a process's risk session is recovered to. -/
def sessionRecovery (self : PaperLiteOrchestrator) (record : SessionRecord) (equity : Decimal)
    (openPositions : Nat) (marketDay : Date) : Except PyError SessionRecovery :=
  recoverSession record equity openPositions marketDay self.riskConfig.maxDailyLoss.val
    self.riskConfig.maxDrawdown.val

end PaperLiteOrchestrator

end Crumblr.PaperLite
