import Crumblr.Proof.Reconstruction

/-!
# What a run counts

A window ends somewhere: for want of features or of an intent, before risk, before the supervisor,
at the broker's check, or with a fill. A run's counters say where, and nothing is lost between
them; and what was recorded on the way there is in the order of the stages, with none left out.
-/

namespace Crumblr

/-! ## Where a window ended -/

section

variable {c : RunCapsule}

/-- A capsule has no more than the window got to. -/
theorem RunCapsule.Chained.cases (h : c.Chained) :
    (c.tradeIntent = none ∧ c.riskDecision = none ∧ c.supervisorDecision = none
        ∧ c.executionResult = none)
      ∨ (∃ intent risk, c.tradeIntent = some intent ∧ c.riskDecision = some risk
        ∧ risk.verdict ≠ .pass ∧ c.supervisorDecision = none ∧ c.executionResult = none)
      ∨ ∃ intent risk supervisor, c.tradeIntent = some intent ∧ c.riskDecision = some risk
        ∧ risk.verdict = .pass ∧ c.supervisorDecision = some supervisor
        ∧ (c.executionResult.isSome → supervisor.verdict = .approve) := by
  obtain ⟨hrisk, hsupervisor, hresult⟩ := h
  have hunfilled : c.supervisorDecision = none → c.executionResult = none := by
    intro hnone
    cases hfound : c.executionResult with
    | none => rfl
    | some result =>
        rw [hnone, hfound] at hresult
        cases hresult rfl
  cases hintent : c.tradeIntent with
  | none =>
      rw [hintent, Option.isSome_none] at hrisk
      have hnorisk : c.riskDecision = none := by simpa using hrisk
      rw [hnorisk, Option.any_none] at hsupervisor
      have hnone : c.supervisorDecision = none := by simpa using hsupervisor
      exact .inl ⟨rfl, hnorisk, hnone, hunfilled hnone⟩
  | some intent =>
      rw [hintent, Option.isSome_some] at hrisk
      obtain ⟨risk, hrisk⟩ := Option.isSome_iff_exists.mp hrisk
      rw [hrisk, Option.any_some] at hsupervisor
      right
      cases hverdict : c.supervisorDecision with
      | none =>
          rw [hverdict, Option.isSome_none] at hsupervisor
          have hrefused : risk.verdict ≠ .pass := of_decide_eq_false hsupervisor.symm
          exact .inl ⟨intent, risk, rfl, hrisk, hrefused, rfl, hunfilled hverdict⟩
      | some supervisor =>
          rw [hverdict, Option.isSome_some] at hsupervisor
          have hpassed : risk.verdict = .pass := of_decide_eq_true hsupervisor.symm
          refine .inr ⟨intent, risk, supervisor, rfl, hrisk, hpassed, rfl, fun hsome => ?_⟩
          have happroved := hresult hsome
          rw [hverdict, Option.any_some] at happroved
          exact of_decide_eq_true happroved

end

/-! ## The balance -/

/-- Every window is counted where it ended. -/
structure RunTally.Balanced (t : RunTally) (capsules : List RunCapsule) : Prop where
  windows : t.windows = t.featuresUnavailable + t.noTrade + t.intents
  intents : t.intents = t.riskPassed + t.riskBlocked + t.riskHalted
  passed : t.riskPassed = t.supervisorApproved + t.supervisorVetoed + t.supervisorHalted
  approved : t.supervisorApproved = t.orderCheckRejected + t.ordersFilled
  sealed_ : capsules.length = t.noTrade + t.intents
  filled : (capsules.filter fun c => c.executionResult.isSome).length = t.ordersFilled

section

open Reconstruction

variable {t : RunTally} {capsules : List RunCapsule} {signal : SignalGenerated} {c : RunCapsule}
  {faults : Counts}

/-- A tick without a window. -/
theorem RunTally.Balanced.idle (h : t.Balanced capsules) :
    RunTally.Balanced { t with
      windows := t.windows + 1
      injectedFaults := faults
      featuresUnavailable := t.featuresUnavailable + 1 } capsules := by
  obtain ⟨h₁, h₂, h₃, h₄, h₅, h₆⟩ := h
  exact ⟨by dsimp only; omega, h₂, h₃, h₄, h₅, h₆⟩

/-- **A window keeps the balance**, wherever it ended. -/
theorem RunTally.Balanced.window (h : t.Balanced capsules) (hc : c.Chained) :
    (countWindow { t with windows := t.windows + 1, injectedFaults := faults } signal c).Balanced
      (capsules ++ [c]) := by
  obtain ⟨h₁, h₂, h₃, h₄, h₅, h₆⟩ := h
  unfold countWindow countCapsule
  rcases hc.cases with ⟨hintent, hrisk, hsupervisor, hresult⟩
    | ⟨intent, risk, hintent, hrisk, hrefused, hsupervisor, hresult⟩
    | ⟨intent, risk, supervisor, hintent, hrisk, hpassed, hsupervisor, hfilled⟩
  · rw [hintent]
    constructor <;> simp [hresult, List.filter_append] <;> omega
  · rw [hintent, hrisk, hsupervisor]
    unfold countRisk
    cases hverdict : risk.verdict
    · exact absurd hverdict hrefused
    all_goals constructor <;> simp [hverdict, hresult, List.filter_append] <;> omega
  · rw [hintent, hrisk, hsupervisor]
    unfold countRisk countSupervisor
    cases hverdict : supervisor.verdict
    · cases hresult : c.executionResult
      all_goals constructor <;> simp [hpassed, hverdict, hresult, List.filter_append] <;> omega
    all_goals
      have hresult : c.executionResult = none := by
        cases hfound : c.executionResult with
        | none => rfl
        | some result =>
            rw [hfound, hverdict] at hfilled
            cases hfilled rfl
      constructor <;> simp [hpassed, hverdict, hresult, List.filter_append] <;> omega

end

/-! ## A run -/

/-- What is recorded at a tick: nothing of a window, or its stages in their order, none left out,
and its sealing. -/
structure WindowTrail [Externals] (symbol : String) (tick : GeneratedTick) (ns : List Noted) :
    Prop where
  ids : ∀ n ∈ ns, n.correlationId = snapshotIdFor symbol tick.eventTimeUtc
  times : ∀ n ∈ ns, n.type ≠ .systemHalted → n.occurredAtUtc = tick.eventTimeUtc
  stages : stagesOf ns = []
    ∨ ∃ k ≤ stageFlow.length, stagesOf ns = stageFlow.take k ++ [.decisionCapsuleSealed]

section

variable [Externals] {symbol : String} {b : Block} {bs : List Block} {t : RunTally}
  {capsules : List RunCapsule} {setup : ReplaySetup} {broker : SimulatedBroker} {equity : Decimal}
  {killSwitch : KillSwitch} {sessions : RiskSessionStates} {ticks : List GeneratedTick}
  {start final : ReplayState} {result : RunResult}

theorem Block.Sound.trail (h : b.Sound symbol) : WindowTrail symbol b.tick b.ns where
  ids := h.ids
  times n hn hhalt := by
    refine h.times n hn ?_
    cases hpayload : n.payload.halt? with
    | none => rfl
    | some halt =>
        have his : n.halting = true := by simp [halting_iff, hpayload]
        exact absurd (of_decide_eq_true his) hhalt
  stages := by
    by_cases hw : b.window = none
    · exact .inl (h.idle hw)
    · obtain ⟨k, hk⟩ := h.stages hw
      refine .inr ⟨min k stageFlow.length, Nat.min_le_right _ _, ?_⟩
      rw [hk]
      rcases Nat.le_total k stageFlow.length with hle | hle
      · rw [Nat.min_eq_left hle]
      · rw [Nat.min_eq_right hle, List.take_length, List.take_of_length_le hle]

theorem RunTally.Balanced.blocks (h : t.Balanced capsules) (hsound : ∀ b ∈ bs, b.Sound symbol) :
    (bs.foldl Block.tallied t).Balanced (capsules ++ (windowsOf bs).map (·.2)) := by
  induction bs generalizing t capsules with
  | nil => simpa [windowsOf] using h
  | cons b bs ih =>
      have hrest : ∀ x ∈ bs, x.Sound symbol := fun x hx => hsound x (List.mem_cons_of_mem _ hx)
      have hsplit : windowsOf (b :: bs) = b.window.toList ++ windowsOf bs := rfl
      rw [List.foldl_cons, hsplit, List.map_append, ← List.append_assoc]
      refine ih ?_ hrest
      unfold Block.tallied
      cases hw : b.window with
      | none => simpa using h.idle
      | some w =>
          have hchained := ((hsound b List.mem_cons_self).window w hw).2.2
          exact h.window hchained

/--
**A run loses no window.** Every tick is a window, every window is counted where it ended, and each
counter is the sum of those behind it; every window that got to a signal has its capsule, and
there are as many capsules with a result as there were fills.
-/
theorem run_balanced
    (hcreate : setup.create broker equity killSwitch sessions = .ok start)
    (hrun : setup.run ticks start = (.ok result, final)) :
    result.tally.Balanced result.capsules ∧ result.tally.windows = ticks.length
      ∧ result.tally.injectedFaults
        = Counts.countAll [] (ticks.flatMap ReplaySetup.faultNames) := by
  obtain ⟨⟨bs, hbs, haccounts⟩, -, htally, hcapsules, -⟩ := ReplaySetup.run_ok hrun
  obtain ⟨-, hnone, hzero, -⟩ := create_start hcreate
  have hempty : RunTally.Balanced {} [] := ⟨rfl, rfl, rfl, rfl, rfl, rfl⟩
  obtain ⟨hwindows, -, hfaults⟩ := Reconstruction.foldl_ticks bs {}
  rw [htally, hcapsules, haccounts.tally, haccounts.capsules, hzero, hnone]
  refine ⟨hempty.blocks haccounts.sound, ?_, ?_⟩
  · rw [hwindows, ← hbs, List.length_map]
    exact Nat.zero_add _
  · rw [hfaults, ← hbs, List.flatMap_map]

/--
**A run skips no stage.** What a run records is, tick by tick, a window's stages in the order of
the pipeline with none left out and its sealing behind them, or nothing; and one halt at most, if
the run was not halted when it began.
-/
theorem run_stages
    (hcreate : setup.create broker equity killSwitch sessions = .ok start)
    (hrun : setup.run ticks start = (.ok result, final)) :
    (∃ trails, List.Forall₂ (WindowTrail setup.spec.canonicalSymbol) ticks trails
        ∧ final.noted = trails.flatten)
      ∧ (haltsIn final.noted).length ≤ 1
      ∧ (killSwitch.isHalted = true → haltsIn final.noted = []) := by
  obtain ⟨⟨bs, hbs, haccounts⟩, -⟩ := ReplaySetup.run_ok hrun
  obtain ⟨hnothing, -, -, hswitch⟩ := create_start hcreate
  have hnoted : final.noted = bs.flatMap (·.ns) := by
    rw [haccounts.noted, hnothing, List.nil_append]
  have hcount := haccounts.halts
  rw [← hnoted] at hcount
  have hatMost : final.haltCount ≤ 1 := by
    unfold ReplayState.haltCount
    split <;> omega
  refine ⟨⟨bs.map (·.ns), ?_, ?_⟩, by omega, fun hhalted => ?_⟩
  · rw [← hbs, List.forall₂_map_left_iff, List.forall₂_map_right_iff, List.forall₂_same]
    exact fun b hb => (haccounts.sound b hb).trail
  · rw [hnoted, List.flatMap_def]
  · have hone : start.haltCount = 1 := by
      unfold ReplayState.haltCount
      rw [hswitch, if_pos hhalted]
    exact List.length_eq_zero_iff.mp (by omega)

end

namespace Sample

/-- Two windows: a fill, and an intent that came too late. -/
theorem run_balanced_sample : ∃ result : RunResult,
    result.tally.Balanced result.capsules ∧ result.tally.windows = twoTicks.length
      ∧ result.tally.injectedFaults
        = Counts.countAll [] (twoTicks.flatMap ReplaySetup.faultNames) := by
  obtain ⟨start, result, final, recorder, hcreate, hrun, -⟩ := recordedReplay_runs
  exact ⟨result, run_balanced hcreate hrun⟩

theorem run_stages_sample : ∃ final : ReplayState,
    (∃ trails, List.Forall₂ (WindowTrail replaySetup.spec.canonicalSymbol) twoTicks trails
        ∧ final.noted = trails.flatten)
      ∧ (haltsIn final.noted).length ≤ 1
      ∧ ((⟨.running, []⟩ : KillSwitch).isHalted = true → haltsIn final.noted = []) := by
  obtain ⟨start, result, final, recorder, hcreate, hrun, -⟩ := recordedReplay_runs
  exact ⟨final, run_stages hcreate hrun⟩

end Sample

end Crumblr
