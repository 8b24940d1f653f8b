import Crumblr.Proof.RiskPaths

/-!
# Recovery at an equity no ledger can start from

A ledger cannot be built at an equity of zero or below, and the halting branch of a
recovery builds one too: at such an equity no branch returns. The live service catches
what is raised and halts. The agent's path catches it as well, and builds the same ledger
again in its handler.
-/

namespace Crumblr

variable [Externals]

/-! ## The agent's path -/

namespace AgentDecisionPath

variable (self : AgentDecisionPath) (portfolio : PortfolioSnapshot)

/-- Whatever the lock and the store answer, the session's recovery ends in a ledger, and at
an equity that cannot be used in a halt. -/
def RecoversOrHalts : Prop :=
  ∀ past, Conforms Discipline.free.protocol past (self.recoverRiskSession portfolio)
    fun _ r => ∃ recovery, r = .ok recovery
      ∧ (portfolio.account.equity ≤ 0 → recovery.mustHalt = true)

variable {self portfolio}

/-- At an unusable equity it raises, from the handler too. -/
theorem recoverRiskSession_raises (h : portfolio.account.equity ≤ 0)
    (past : Trace AgentCall AgentCall.Answer PyError) :
    Conforms Discipline.free.protocol past (self.recoverRiskSession portfolio)
      fun _ r => ∃ e, r = .error e := by
  unfold recoverRiskSession
  refine Conforms.bind.mpr (Conforms.rescue.mpr ?_)
  -- whatever it was that failed, the handler cannot build its ledger
  have hhandler : ∀ past e, Conforms Discipline.free.protocol past
      (lift (unlockedRecovery portfolio.account.equity (Sessions.tradingDay self.now) e))
      (fun _ r => ∃ e, r = .error e) := by
    intro past e
    unfold unlockedRecovery
    rw [haltedRecovery_error h]
    exact ⟨_, rfl⟩
  refine Conforms.next (fun _ => Conforms.next (fun record => ?_) ?_) ?_
  · unfold sessionRecovery
    obtain ⟨e, herror⟩ : ∃ e, recoverSession record portfolio.account.equity
        portfolio.openPositions.length (Sessions.tradingDay self.now)
        self.config.risk.maxDailyLoss.val self.config.risk.maxDrawdown.val = .error e :=
      recoverSession_raises h
    rw [herror]
    exact hhandler _ e
  · exact fun e => hhandler _ e
  · exact fun e => hhandler _ e

/-- At a positive one it returns, whatever fails. -/
theorem recoverRiskSession_returns (h : 0 < portfolio.account.equity)
    (past : Trace AgentCall AgentCall.Answer PyError) :
    Conforms Discipline.free.protocol past (self.recoverRiskSession portfolio)
      fun _ r => ∃ recovery, r = .ok recovery := by
  unfold recoverRiskSession
  refine Conforms.bind.mpr (Conforms.rescue.mpr ?_)
  have hhandler : ∀ past e, Conforms Discipline.free.protocol past
      (lift (unlockedRecovery portfolio.account.equity (Sessions.tradingDay self.now) e))
      (fun _ r => ∃ recovery, r = .ok recovery) := by
    intro past e
    unfold unlockedRecovery haltedRecovery
    rw [EquityLedger.create_fresh h]
    exact ⟨_, rfl⟩
  refine Conforms.next (fun _ => Conforms.next (fun record => ?_) ?_) ?_
  · obtain ⟨recovery, hrun⟩ := recoverSession_returns_iff.mpr h
    unfold sessionRecovery
    rw [hrun]
    exact ⟨_, rfl⟩
  · exact fun e => hhandler _ e
  · exact fun e => hhandler _ e

theorem recoversOrHalts_iff : self.RecoversOrHalts portfolio ↔ 0 < portfolio.account.equity := by
  constructor
  · intro hreturns
    by_contra hpos
    have hunusable := Decimal.not_lt.mp hpos
    -- one run both returns and raises
    obtain ⟨⟨recovery, hok, -⟩, e, herror⟩ :=
      ((hreturns []).and (recoverRiskSession_raises hunusable [])).answered
        fun _ _ => .error ⟨.other, ""⟩
    rw [hok] at herror
    cases herror
  · intro hpos past
    refine Conforms.mono ?_ (recoverRiskSession_returns hpos past)
    rintro _ r ⟨recovery, rfl⟩
    exact ⟨recovery, rfl, fun hle => absurd hpos (Decimal.not_lt.mpr hle)⟩

end AgentDecisionPath

/-! ## The live service -/

namespace LiveDecisionService

variable {self : LiveDecisionService} {past : Trace LiveCall LiveCall.Answer PyError}
  {accountSnapshot : BrokerAccountSnapshot}

/-- The service is halted: it found itself so, or it recorded a halt for its risk ledger. -/
def FoundHalted (past : Trace LiveCall LiveCall.Answer PyError) : Prop :=
  (∃ memory : LiveMemory, ⟨.memory, .ok memory⟩ ∈ past ∧ memory.killSwitch.isHalted = true)
    ∨ ∃ halt : HaltRecord, ⟨.trip halt, .ok ()⟩ ∈ past
        ∧ halt.reasonCodes = [.riskLedgerLockUnavailable]

/-- A window ends halted and undecided, unless one of the service's own calls fails. -/
def HaltsUndecided (past : Trace LiveCall LiveCall.Answer PyError)
    (r : Except PyError LiveDecisionOutcome) : Prop :=
  match r with
  | .ok outcome => outcome.capsule = none ∧ FoundHalted past
  | .error e => ∃ c, past.head? = some ⟨c, .error e⟩

/-- At an unusable equity the session is neither recovered nor persisted. -/
theorem recoverUpdatePersistSession_raises (h : accountSnapshot.equity ≤ 0) {marketDay : Date}
    {positions : List PositionState} {openRisk : OpenRiskAssessment} {now : UtcDatetime} :
    Conforms Discipline.free.protocol past
      (self.recoverUpdatePersistSession accountSnapshot marketDay positions openRisk now)
      fun _ r => ∃ e, r = .error e := by
  unfold recoverUpdatePersistSession
  refine Conforms.next (fun _ => Conforms.next (fun record => Conforms.next (fun live => ?_)
    fun e => ⟨e, rfl⟩) fun e => ⟨e, rfl⟩) fun e => ⟨e, rfl⟩
  unfold sessionRecovery
  obtain ⟨e, herror⟩ : ∃ e, recoverSession record accountSnapshot.equity live.length marketDay
      self.riskConfig.maxDailyLoss.val self.riskConfig.maxDrawdown.val = .error e :=
    recoverSession_raises h
  rw [herror]
  exact ⟨e, rfl⟩

omit [Externals] in
/-- **A trip and a skip leave the service halted.** -/
theorem trip_skip_halts {trippedBy detail skipped : String} {now : UtcDatetime}
    {correlationId : Uuid} :
    Conforms Discipline.free.protocol past
      ((trip [.riskLedgerLockUnavailable] trippedBy now correlationId (some detail)).bind
        fun _ => skip skipped) HaltsUndecided := by
  unfold trip
  refine Conforms.bind.mpr (Conforms.next (fun memory => ?_) fun e => ⟨_, rfl⟩)
  dsimp only
  split
  · rename_i hhalted
    exact ⟨rfl, .inl ⟨memory, List.mem_cons_self .., hhalted⟩⟩
  rw [if_neg (by simp)]
  refine Conforms.next (fun _ => Conforms.next (fun _ => ?_) fun e => ⟨_, rfl⟩) fun e => ⟨_, rfl⟩
  refine Conforms.perform.mpr ⟨trivial, ?_⟩
  rintro r tr' ⟨-, rfl⟩
  cases r with
  | ok _ =>
      refine ⟨rfl, .inr ⟨⟨now, [.riskLedgerLockUnavailable], trippedBy, some detail⟩, ?_, rfl⟩⟩
      exact List.mem_cons_of_mem _ (List.mem_cons_of_mem _ (List.mem_cons_self ..))
  | error e => exact ⟨_, rfl⟩

/-- **At an unusable equity the live service halts**, and raises only what its own calls do. -/
theorem decideWindow_halts (h : accountSnapshot.equity ≤ 0) (spec : InstrumentSpec)
    (bars : List Bar) (latestOpenTime : UtcDatetime) (tick : MarketTick) :
    Conforms Discipline.free.protocol past
      (self.decideWindow spec bars latestOpenTime tick accountSnapshot) HaltsUndecided := by
  unfold decideWindow
  refine Conforms.next (fun now => Conforms.next (fun positions => ?_) fun e => ⟨_, rfl⟩)
    fun e => ⟨_, rfl⟩
  -- the open risk cannot be told, which is no error
  obtain ⟨openRisk, hopen⟩ : ∃ openRisk, assessOpenRisk (positions.map positionStateFromSnapshot)
      spec accountSnapshot.equity = .ok openRisk := by
    unfold assessOpenRisk
    rw [if_pos h]
    split <;> exact ⟨_, rfl⟩
  refine Conforms.bind.mpr ?_
  dsimp only [accountStateFromSnapshot]
  rw [hopen]
  refine Conforms.bind.mpr (Conforms.rescue.mpr (Conforms.bind.mpr ?_))
  refine Conforms.mono ?_ (recoverUpdatePersistSession_raises h)
  rintro tr' r ⟨e, rfl⟩
  exact trip_skip_halts

end LiveDecisionService

/-! ## The claim as a whole -/

/-- At this equity a recovery returns whatever is on record, and the two callers end in a
recorded halt if it cannot be used. -/
structure NeverRaises (equity : Decimal) (record : SessionRecord) (positions : Nat) (day : Date)
    (maxDailyLoss maxDrawdown : Decimal) (path : AgentDecisionPath)
    (portfolio : PortfolioSnapshot) (service : LiveDecisionService)
    (accountSnapshot : BrokerAccountSnapshot) : Prop where
  recovers : ∃ recovery,
    recoverSession record equity positions day maxDailyLoss maxDrawdown = .ok recovery
  agent : portfolio.account.equity = equity → path.RecoversOrHalts portfolio
  live : accountSnapshot.equity = equity → equity ≤ 0 →
    ∀ past spec bars latestOpenTime tick, Conforms Discipline.free.protocol past
      (service.decideWindow spec bars latestOpenTime tick accountSnapshot)
      LiveDecisionService.HaltsUndecided

/-- **Recovery never raises exactly at a positive equity.** At any other it always does, and
so does the agent's path; the live service halts. -/
theorem never_raises_iff (equity : Decimal) (record : SessionRecord) (positions : Nat)
    (day : Date) (maxDailyLoss maxDrawdown : Decimal) (path : AgentDecisionPath)
    (portfolio : PortfolioSnapshot) (service : LiveDecisionService)
    (accountSnapshot : BrokerAccountSnapshot) :
    (NeverRaises equity record positions day maxDailyLoss maxDrawdown path portfolio service
        accountSnapshot ↔ 0 < equity)
      ∧ (path.RecoversOrHalts portfolio ↔ 0 < portfolio.account.equity)
      ∧ (accountSnapshot.equity ≤ 0 → ∀ past spec bars latestOpenTime tick,
        Conforms Discipline.free.protocol past
          (service.decideWindow spec bars latestOpenTime tick accountSnapshot)
          LiveDecisionService.HaltsUndecided) := by
  have hlive : accountSnapshot.equity ≤ 0 → ∀ past spec bars latestOpenTime tick,
      Conforms Discipline.free.protocol past
        (service.decideWindow spec bars latestOpenTime tick accountSnapshot)
        LiveDecisionService.HaltsUndecided :=
    fun h past spec bars latestOpenTime tick =>
      LiveDecisionService.decideWindow_halts h spec bars latestOpenTime tick
  refine ⟨⟨fun h => recoverSession_returns_iff.mp h.recovers, fun hpos => ?_⟩,
    AgentDecisionPath.recoversOrHalts_iff, hlive⟩
  refine ⟨recoverSession_returns_iff.mpr hpos, ?_, ?_⟩
  · rintro rfl
    exact AgentDecisionPath.recoversOrHalts_iff.mpr hpos
  · rintro rfl
    exact hlive

end Crumblr

namespace Crumblr

open Sample in
/-- The first start of an account that is empty. -/
theorem recovery_raises_at_zero :
    recoverSession ⟨none, none⟩ 0 0 20704 ⟨30, -3⟩ ⟨100, -3⟩
        = .error ⟨.value, "starting equity must be positive"⟩
      ∧ ¬ (agentPath tightConfig).RecoversOrHalts ⟨{ account with equity := 0 }, [], .matched⟩ :=
  ⟨rfl, fun h => absurd (AgentDecisionPath.recoversOrHalts_iff.mp h) (by decide)⟩

end Crumblr
