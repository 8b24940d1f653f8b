import Crumblr.AgentGateway.DecisionPath
import Crumblr.Proof.AtMostOnce
import Crumblr.Proof.RiskRecord

/-!
# Three ways to the same session

The live decision service, the agent decision path and the execution worker each recover the
risk session of a market for themselves. They build the same limits to judge an intent by. The
session itself the agent path recovers under the platform's loss limits, the other two under
the market's own, so the three agree exactly when the recorded session has exhausted the same
limits under both.
-/

namespace Crumblr

/-- The execution worker's recovery, with what it reads passed in. -/
def ExecutionOrchestrator.sessionRecovery (self : ExecutionOrchestrator) (record : SessionRecord)
    (equity : Decimal) (openPositions : Nat) (marketDay : Date) :
    Except PyError SessionRecovery :=
  recoverSession record equity openPositions marketDay self.riskConfig.maxDailyLoss.val
    self.riskConfig.maxDrawdown.val

/-- It is what the worker does under the lock. -/
example [Externals] (self : ExecutionOrchestrator) (observation : BrokerStateObservation)
    (account : AccountState) (finalNow : UtcDatetime) :
    self.recoverRiskSession observation account finalNow
      = (do
          let record ← ask (.loadRiskSession self.canonicalSymbol)
          lift (self.sessionRecovery record account.equity observation.positionStates.length
            (Sessions.tradingDay finalNow))) := rfl

/-- What a path goes on with: why it halts, if it does, and the ledger it judges by; no ledger
when it gives the cycle up. -/
structure SessionBasis where
  haltReasons : List ReasonCode
  ledger : Option EquityLedger

namespace SessionBasis

/-- The basis of a path that gives a cycle up when its recovery fails. -/
def orGiveUp : Except PyError SessionRecovery → SessionBasis
  | .ok recovery => ⟨recovery.reasonCodes, some recovery.ledger⟩
  | .error _ => ⟨[.riskLedgerLockUnavailable], none⟩

end SessionBasis

/-- One market of one configuration, with a service of each kind on it. -/
structure RiskPaths where
  live : LiveDecisionService
  execution : ExecutionOrchestrator
  agent : AgentDecisionPath
  sameConfig : execution.config = live.config ∧ agent.config = live.config
  sameSymbol : execution.canonicalSymbol = live.canonicalSymbol
    ∧ agent.snapshot.symbol = live.canonicalSymbol

namespace RiskPaths

variable (p : RiskPaths)

/-- What the live decision service recovers to. -/
def liveBasis (record : SessionRecord) (equity : Decimal) (positions : Nat) (day : Date) :
    SessionBasis :=
  .orGiveUp (p.live.sessionRecovery record equity positions day)

/-- What the execution worker recovers to. -/
def executionBasis (record : SessionRecord) (equity : Decimal) (positions : Nat) (day : Date) :
    SessionBasis :=
  .orGiveUp (p.execution.sessionRecovery record equity positions day)

/-- What the agent path recovers to: where the others give up it builds a ledger of its own, and
raises when there is none to build. -/
def agentBasis (record : SessionRecord) (equity : Decimal) (positions : Nat) (day : Date) :
    Except PyError SessionBasis :=
  match p.agent.sessionRecovery record equity positions day with
  | .ok recovery => .ok ⟨recovery.reasonCodes, some recovery.ledger⟩
  | .error e =>
      (AgentDecisionPath.unlockedRecovery equity day e).map fun recovery =>
        ⟨recovery.reasonCodes, some recovery.ledger⟩

/-- The three come to the same session, and judge by the same limits. -/
structure OneVerdict [Externals] (record : SessionRecord) (equity : Decimal) (positions : Nat)
    (day : Date) : Prop where
  execution : p.executionBasis record equity positions day
    = p.liveBasis record equity positions day
  agent : p.agentBasis record equity positions day
    = .ok (p.liveBasis record equity positions day)
  executionLimits : p.execution.riskContext = p.live.riskContext
  agentLimits : AgentDecisionPath.riskContext p.agent.config p.agent.snapshot.symbol
    = .ok p.live.riskContext

/-- The recorded session is one a recovery goes on to measure against the limits. -/
def Measured (record : SessionRecord) (r : RiskSessionState) (positions : Nat) (day : Date) :
    Prop :=
  record.unreadable = none ∧ record.state = some r ∧ r.schemaVersion = sessionSchemaVersion
    ∧ r.tradingDay ≤ day ∧ r.openPositionCount = positions

/-- The platform's limits and the market's own say the same of a carried session. -/
def SameExhaustion (r : RiskSessionState) (equity : Decimal) (day : Date) : Prop :=
  (p.live.config.risk.maxDrawdown.val ≤ (carried r equity day).maxDrawdownFraction
      ↔ p.live.riskConfig.maxDrawdown.val ≤ (carried r equity day).maxDrawdownFraction)
    ∧ (p.live.config.risk.maxDailyLoss.val ≤ (carried r equity day).maxSessionLossFraction
      ↔ p.live.riskConfig.maxDailyLoss.val ≤ (carried r equity day).maxSessionLossFraction)

/-! ## The recovery as a function of the limits -/

section

variable {record : SessionRecord} {r : RiskSessionState} {equity : Decimal} {positions : Nat}
  {day : Date} {loss drawdown loss' drawdown' : Decimal}

theorem haltedRecovery_basis {reasons : List ReasonCode} {detail : String} (h : 0 < equity) :
    SessionBasis.orGiveUp (haltedRecovery equity day reasons detail)
      = ⟨reasons, some (.fresh equity)⟩ := by
  unfold haltedRecovery
  rw [EquityLedger.create_fresh h]
  rfl

/-- A measured session comes to its exhausted limits, on a fresh ledger, or is carried on. -/
theorem measured_basis (hpos : 0 < equity) (h : Measured record r positions day) :
    SessionBasis.orGiveUp (recoverSession record equity positions day loss drawdown)
      = if exhausted r equity day loss drawdown = [] then ⟨[], some (carried r equity day)⟩
        else ⟨exhausted r equity day loss drawdown, some (.fresh equity)⟩ := by
  obtain ⟨hreadable, hstate, hschema, hnotAhead, hcount⟩ := h
  have hresumed : EquityLedger.resumed equity (carriedStart r day) equity
      (r.peakEquity.max equity) r.maxDrawdownFraction (carriedLoss r day)
        = .ok (carried r equity day) := resumed_carried hpos
  simp only [carriedStart, carriedLoss] at hresumed
  unfold recoverSession
  rw [hreadable, hstate]
  simp only [hschema, hcount, Int.not_lt.mpr hnotAhead, ne_eq, not_true_eq_false, if_false,
    hresumed, bind, Except.bind]
  by_cases hex : exhausted r equity day loss drawdown = []
  · rw [if_pos hex]
    unfold exhausted at hex
    rw [if_neg (not_not.mpr hex)]
    rfl
  · rw [if_neg hex]
    unfold exhausted at hex ⊢
    rw [if_pos hex]
    exact haltedRecovery_basis hpos

/-- What is not measured does not depend on the limits. -/
theorem recoverSession_unmeasured (h : ∀ r, ¬ Measured record r positions day) :
    recoverSession record equity positions day loss drawdown
      = recoverSession record equity positions day loss' drawdown' := by
  unfold recoverSession
  split
  · rfl
  rename_i hreadable
  split
  · rfl
  rename_i r hstate
  split
  · rfl
  rename_i hschema
  split
  · rfl
  rename_i hahead
  split
  · rfl
  rename_i hcount
  exact absurd ⟨hreadable, hstate, not_not.mp hschema, Int.not_lt.mp hahead, not_not.mp hcount⟩
    (h r)

theorem exhausted_eq_iff :
    exhausted r equity day loss drawdown = exhausted r equity day loss' drawdown'
      ↔ (drawdown ≤ (carried r equity day).maxDrawdownFraction
          ↔ drawdown' ≤ (carried r equity day).maxDrawdownFraction)
        ∧ (loss ≤ (carried r equity day).maxSessionLossFraction
          ↔ loss' ≤ (carried r equity day).maxSessionLossFraction) := by
  unfold exhausted
  by_cases h₁ : drawdown ≤ (carried r equity day).maxDrawdownFraction <;>
    by_cases h₂ : drawdown' ≤ (carried r equity day).maxDrawdownFraction <;>
    by_cases h₃ : loss ≤ (carried r equity day).maxSessionLossFraction <;>
    by_cases h₄ : loss' ≤ (carried r equity day).maxSessionLossFraction <;>
    simp [h₁, h₂, h₃, h₄]

/-- Recoveries under two pairs of limits come to the same basis exactly when the limits that
a measured session has exhausted are the same. -/
theorem basis_eq_iff (hpos : 0 < equity) :
    SessionBasis.orGiveUp (recoverSession record equity positions day loss drawdown)
        = SessionBasis.orGiveUp (recoverSession record equity positions day loss' drawdown')
      ↔ ∀ r, Measured record r positions day →
          exhausted r equity day loss drawdown = exhausted r equity day loss' drawdown' := by
  constructor
  · intro h r hr
    rw [measured_basis hpos hr, measured_basis hpos hr] at h
    -- the reasons of either side are its exhausted limits, whichever branch it takes
    have hreasons : ∀ l d : Decimal, (if exhausted r equity day l d = []
        then (⟨[], some (carried r equity day)⟩ : SessionBasis)
        else ⟨exhausted r equity day l d, some (.fresh equity)⟩).haltReasons
          = exhausted r equity day l d := by
      intro l d
      split
      · rename_i hnil
        exact hnil.symm
      · rfl
    rw [← hreasons loss drawdown, ← hreasons loss' drawdown', h]
  · intro h
    by_cases hmeasured : ∃ r, Measured record r positions day
    · obtain ⟨r, hr⟩ := hmeasured
      rw [measured_basis hpos hr, measured_basis hpos hr, h r hr]
    · rw [recoverSession_unmeasured (not_exists.mp hmeasured)]

end

/-! ## The three paths -/

section

variable {p : RiskPaths} {record : SessionRecord} {equity : Decimal} {positions : Nat} {day : Date}

/-- The merge of a market's overrides is the same wherever it is made. -/
theorem execution_riskConfig : p.execution.riskConfig = p.live.riskConfig := by
  have h := p.execution.riskConfigMerged
  rw [p.sameConfig.1, p.sameSymbol.1, p.live.riskConfigMerged] at h
  exact (Except.ok.inj h).symm

theorem execution_basis : p.executionBasis record equity positions day
    = p.liveBasis record equity positions day := by
  unfold executionBasis liveBasis ExecutionOrchestrator.sessionRecovery
    LiveDecisionService.sessionRecovery
  rw [execution_riskConfig]

theorem execution_limits [Externals] : p.execution.riskContext = p.live.riskContext := by
  unfold ExecutionOrchestrator.riskContext LiveDecisionService.riskContext
    ExecutionOrchestrator.executionConfig LiveDecisionService.executionConfig
    ExecutionOrchestrator.calendar LiveDecisionService.calendar
  rw [execution_riskConfig, p.sameConfig.1]
  exact p.sameSymbol.1 ▸ rfl

theorem agent_limits [Externals] :
    AgentDecisionPath.riskContext p.agent.config p.agent.snapshot.symbol
      = .ok p.live.riskContext := by
  unfold AgentDecisionPath.riskContext
  rw [p.sameConfig.2, p.sameSymbol.2, p.live.riskConfigMerged]
  rfl

/-- With equity the agent path's recovery never fails, and is what giving up would leave. -/
theorem agentBasis_eq (hpos : 0 < equity) : p.agentBasis record equity positions day
    = .ok (.orGiveUp (recoverSession record equity positions day
        p.live.config.risk.maxDailyLoss.val p.live.config.risk.maxDrawdown.val)) := by
  unfold agentBasis AgentDecisionPath.sessionRecovery
  rw [p.sameConfig.2]
  cases h : recoverSession record equity positions day p.live.config.risk.maxDailyLoss.val
      p.live.config.risk.maxDrawdown.val with
  | ok recovery => rfl
  | error e =>
      obtain ⟨recovery, hrecovery⟩ := recoverSession_returns_iff.mpr hpos
      rw [h] at hrecovery
      cases hrecovery

theorem agentBasis_error (h : equity ≤ 0) :
    p.agentBasis record equity positions day
      = .error ⟨.value, "starting equity must be positive"⟩ := by
  unfold agentBasis AgentDecisionPath.sessionRecovery AgentDecisionPath.unlockedRecovery
  obtain ⟨e, hraised⟩ := recoverSession_raises h
  rw [hraised]
  simp only [haltedRecovery_error h]
  rfl

end

end RiskPaths

open RiskPaths in
/--
**When the three agree.** The account has equity, and a recorded session that is measured at
all has exhausted the same limits under the platform's figures as under the market's own.
-/
theorem risk_paths_agree [Externals] (p : RiskPaths) (record : SessionRecord) (equity : Decimal)
    (positions : Nat) (day : Date) :
    p.OneVerdict record equity positions day
      ↔ 0 < equity ∧ ∀ r, Measured record r positions day → p.SameExhaustion r equity day := by
  constructor
  · intro h
    have hpos : 0 < equity := by
      by_contra hnot
      have hagent := h.agent
      rw [agentBasis_error (Decimal.not_lt.mp hnot)] at hagent
      cases hagent
    refine ⟨hpos, fun r hr => ?_⟩
    have hagent := h.agent
    rw [agentBasis_eq hpos] at hagent
    exact exhausted_eq_iff.mp ((basis_eq_iff hpos).mp (Except.ok.inj hagent) r hr)
  · rintro ⟨hpos, hsame⟩
    refine ⟨execution_basis, ?_, execution_limits, agent_limits⟩
    rw [agentBasis_eq hpos]
    refine congrArg Except.ok ((basis_eq_iff hpos).mpr fun r hr => ?_)
    exact exhausted_eq_iff.mpr (hsame r hr)

/-! ## A market with a tighter limit of its own -/

namespace Sample

/-- The market, halting at a drawdown of four percent. -/
def tightMarket : MarketConfig :=
  { market with riskOverrides := some ⟨none, none, none, some ⟨⟨40, -3⟩, by decide⟩, none, none,
      none⟩ }

def tightConfig : PlatformConfig :=
  { config with markets := [tightMarket], marketsDistinct := by decide }

def tightRisk : RiskConfig :=
  { risk with maxDrawdown := ⟨⟨40, -3⟩, by decide⟩, budgetOrdering := by decide }

/-- A strategy that never has enough history. -/
def strategy : StrategyEntry where
  strategyId := "s"
  version := "v1"
  minimumBars := 1
  evaluate := fun _ _ _ _ => .ok ⟨⟨.flat, ⟨"0.0"⟩, [], none⟩, none⟩

def quote : MarketSnapshot where
  snapshotId := ⟨"snapshot"⟩
  symbol := "EUR/USD"
  eventTimeUtc := noon
  receivedTimeUtc := noon
  bid := price 110000
  ask := price 110005
  spreadPoints := 5
  timeframe := "M5"
  sessionState := .open
  symbolSpecVersion := "spec"
  dataQuality := .good
  spreadNonneg := by decide
  uncrossed := by decide

/-- One evaluation under a configuration, with nobody to review it. -/
def agentPath (config : PlatformConfig) : AgentDecisionPath where
  outcomeId := ⟨"proposal"⟩
  strategyVersion := "v1"
  snapshot := quote
  spec := spec
  features := ⟨⟨"features"⟩, "f", "h", .unknown, "EUR/USD", .obj []⟩
  config := config
  environment := .paper
  codeCommit := "c"
  now := noon
  seenDecisionHashes := []
  ordersInLastHour := 0
  incidentStatus := .clear
  proposal := none
  externalSupervisor := false

theorem no_ceiling : ∀ n ∈ (none : Option Nat), 1 ≤ n := by decide

def riskPaths : RiskPaths where
  live := {
    canonicalSymbol := "EUR/USD"
    riskConfig := tightRisk
    config := tightConfig
    supervisor := ⟨true, true, none, no_ceiling⟩
    strategy := strategy
    timeframe := "M5"
    riskConfigMerged := rfl
    resolved := rfl }
  execution := { worker with
    config := tightConfig, riskConfig := tightRisk, riskConfigMerged := rfl }
  agent := agentPath tightConfig
  sameConfig := ⟨rfl, rfl⟩
  sameSymbol := ⟨rfl, rfl⟩

/-- Five percent below the peak, and nothing lost since. -/
def fallen : RiskSessionState where
  canonicalSymbol := "EUR/USD"
  tradingDay := 20703
  sessionStartEquity := 1000
  currentEquity := 950
  peakEquity := 1000
  realizedPnl := 0
  maxDrawdownFraction := ⟨5, -2⟩
  maxSessionLossFraction := 0
  openRiskFraction := some 0
  openPositionCount := 0
  recordedAtUtc := noon - days 1
  schemaVersion := 1

end Sample

open Sample in
/-- The market's own limit is exhausted and the platform's is not: the agent path trades on
where the live service has halted. -/
theorem risk_paths_disagree :
    ¬ ∀ (p : RiskPaths) (record : SessionRecord) (equity : Decimal) (positions : Nat)
      (day : Date), p.OneVerdict record equity positions day := by
  intro h
  have hagent := (h riskPaths ⟨some fallen, none⟩ 950 0 20704).agent
  have hreasons := congrArg (fun b => b.toOption.map (·.haltReasons)) hagent
  revert hreasons
  decide +kernel

end Crumblr
