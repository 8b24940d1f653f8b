import Crumblr.Application.Replay
import Crumblr.Lib.DecimalValue
import Crumblr.Proof.RiskRecord

/-!
# Restarting a replay

A process that dies loses its ledger and is followed by one that recovers from the last
row that was persisted. Between ticks that row and the ledger agree on the drawdown and
on the session loss, because both are in the key. They need not agree on the peak, nor
on the equity a new day would start from: neither is.

What a restart forgets is told from the equities alone. The ledger goes on from a row,
or from the equity a run started afresh at, and each equity marked since is measured
against the highest until then and against the one its day opened at. So beside a replay
stands the course of its equities, which no ledger is asked for, and with it what was
marked since the last row was written. The recovered ledger gives no more room just
when what that row says, or the account as the restart finds it, is as bad as each of
these.
-/

namespace Crumblr

/-! ## The course of the equities -/

/-- What a path has come to: its day, and the equities that day opened at, that came last
and that were highest. -/
structure Course where
  day : Date
  opening : Decimal
  last : Decimal
  highest : Decimal

namespace Course

/-- A path goes on from a row, or starts afresh. -/
def begin (first : ReplayTick) : Option RiskSessionState → Course
  | some r => ⟨first.day, carriedStart r first.day, first.equity, r.peakEquity.max first.equity⟩
  | none => ⟨first.day, first.equity, first.equity, first.equity⟩

variable (c : Course)

def step : ReplayStep → Course
  | .roll day => if day ≠ c.day then { c with day, opening := c.last } else c
  | .mark equity => { c with last := equity, highest := c.highest.max equity }
  | .persist _ => c

/-- The equity a day opens at. -/
def entering (day : Date) : Decimal := if day ≠ c.day then c.last else c.opening

end Course

/-- A row that a ledger goes on from, and the day it was taken up. -/
structure Footing where
  row : RiskSessionState
  day : Date

/-- The row that a run recovers from, if it can. -/
def resumedRow (rows : RiskSessionStates) (symbol : String) (riskConfig : RiskConfig)
    (first : ReplayTick) (loadFailure : Option PyError) : Option RiskSessionState :=
  (rows.loadLatest symbol loadFailure).state.filter fun r =>
    decide (Recoverable (rows.loadLatest symbol loadFailure) r first.equity first.openPositions
      first.day riskConfig.maxDailyLoss.val riskConfig.maxDrawdown.val)

/-- A replay with the course of its equities, the row its ledger goes on from, and the
course at each equity marked since. -/
structure Watched where
  replay : ReplayOrchestrator
  course : Course
  footing : Option Footing
  unsaved : List Course

namespace Watched

/-- A replay that has recovered, on the equity it found. -/
def recovered (replay : ReplayOrchestrator) (first : ReplayTick) (row : Option RiskSessionState) :
    Watched where
  replay
  course := .begin first row
  footing := row.map fun r => ⟨r, first.day⟩
  unsaved := [.begin first row]

/-- One step; a row that is persisted covers everything marked before it. -/
def step (w : Watched) (step : ReplayStep) : Watched :=
  let course := w.course.step step
  if (w.replay.step step).sessionStore.length ≠ w.replay.sessionStore.length then
    { replay := w.replay.step step
      course
      footing := (lastRow (w.replay.step step).sessionStore w.replay.canonicalSymbol).map fun r =>
        ⟨r, r.tradingDay⟩
      unsaved := [] }
  else
    { replay := w.replay.step step
      course
      footing := w.footing
      unsaved := match step with
        | .mark _ => w.unsaved ++ [course]
        | _ => w.unsaved }

/-- Watching a replay doesn't change what it does. -/
theorem step_replay (w : Watched) (s : ReplayStep) : (w.step s).replay = w.replay.step s := by
  unfold step
  dsimp only
  split <;> rfl

/-- A replay that has recovered, and where some steps take it. -/
def run (replay : ReplayOrchestrator) (first : ReplayTick) (row : Option RiskSessionState)
    (steps : List ReplayStep) : Watched :=
  steps.foldl step (recovered replay first row)

end Watched

/-! ## Falls -/

/-- A value is below another that is positive. -/
def Falls (top current : Decimal) : Prop := 0 < top ∧ current < top

theorem fallFrom_nonpos_iff {top current : Decimal} :
    fallFrom top current ≤ 0 ↔ ¬ Falls top current := by
  unfold fallFrom Falls
  split
  · rename_i hnonpos
    exact iff_of_true (le_refl _) fun h => absurd h.1 (not_lt_of_ge hnonpos)
  · rename_i hpos
    have htop : 0 < top := Decimal.not_le.mp hpos
    rw [Decimal.max_le_iff, and_iff_right (le_refl _)]
    constructor
    · rintro hle ⟨-, hlt⟩
      refine absurd hle (not_le_of_gt (Decimal.div_pos ?_ htop))
      rw [Decimal.pos_iff_value, Decimal.value_sub]
      exact Decimal.rounded_pos (sub_pos.mpr (Decimal.lt_iff_value.mp hlt))
    · intro hnot
      have hle : top ≤ current := Decimal.not_lt.mp fun hlt => hnot ⟨htop, hlt⟩
      rw [Decimal.nonpos_iff_value, Decimal.value_div _ (Decimal.coeff_ne_zero_of_pos htop),
        ← Decimal.rounded_zero]
      refine Decimal.rounded_mono (div_nonpos_of_nonpos_of_nonneg ?_
        (le_of_lt (Decimal.pos_iff_value.mp htop)))
      rw [Decimal.value_sub, ← Decimal.rounded_zero]
      exact Decimal.rounded_mono (by linarith [Decimal.le_iff_value.mp hle])

theorem fallFrom_nonneg (top current : Decimal) : 0 ≤ fallFrom top current := by
  unfold fallFrom
  split
  · exact le_refl _
  · exact Decimal.le_max_left

/-- Nothing has fallen from itself. -/
theorem fallFrom_self_le {e z : Decimal} : fallFrom e e ≤ z ↔ 0 ≤ z :=
  ⟨fun h => le_trans (fallFrom_nonneg _ _) h,
    fun h => le_trans (fallFrom_nonpos_iff.mpr fun hfalls => lt_irrefl _ hfalls.2) h⟩

section

variable {s s' : ReplayOrchestrator} {first restart : ReplayTick} {w : Watched}
  {loadFailure : Option PyError} {steps : List ReplayStep}

/-- The row a restart would recover from. -/
def ReplayOrchestrator.record (s : ReplayOrchestrator) : Option RiskSessionState :=
  lastRow s.sessionStore s.canonicalSymbol

/-! ## The invariant of a run -/

/-- What holds from one step to the next. -/
structure Tracked (w : Watched) : Prop where
  day : w.replay.currentTradingDay = some w.course.day
  opening : w.replay.ledger.sessionStartEquity = w.course.opening
  last : w.replay.ledger.currentEquity = w.course.last
  highest : w.replay.ledger.peakEquity = w.course.highest
  /-- The key is that of the last row. -/
  key : ∀ k, w.replay.sessionKey = some k → ∃ r, w.replay.record = some r ∧ k = r.key
  footing : ∀ f, w.footing = some f → w.replay.record = some f.row
  /-- The peak is the last row's, or an equity marked since. -/
  peak : ∀ z, w.replay.ledger.peakEquity ≤ z
    ↔ (∀ f, w.footing = some f → f.row.peakEquity ≤ z) ∧ ∀ c ∈ w.unsaved, c.last ≤ z
  drawdown : ∀ z, w.replay.ledger.maxDrawdownFraction ≤ z
    ↔ (∀ f, w.footing = some f → f.row.maxDrawdownFraction ≤ z)
      ∧ ∀ c ∈ w.unsaved, fallFrom c.highest c.last ≤ z
  sessionLoss : ∀ z, w.replay.ledger.maxSessionLossFraction ≤ z
    ↔ (∀ f, w.footing = some f → carriedLoss f.row f.day ≤ z)
      ∧ ∀ c ∈ w.unsaved, fallFrom c.opening c.last ≤ z

/-- The last row says what the ledger does, wherever the key looks. -/
structure Saved (s : ReplayOrchestrator) (r : RiskSessionState) : Prop where
  record : s.record = some r
  day : s.currentTradingDay = some r.tradingDay
  sessionStart : s.ledger.sessionStartEquity ≤ r.sessionStartEquity
    ∧ r.sessionStartEquity ≤ s.ledger.sessionStartEquity
  drawdown : s.ledger.maxDrawdownFraction ≤ r.maxDrawdownFraction
    ∧ r.maxDrawdownFraction ≤ s.ledger.maxDrawdownFraction
  sessionLoss : s.ledger.maxSessionLossFraction ≤ r.maxSessionLossFraction
    ∧ r.maxSessionLossFraction ≤ s.ledger.maxSessionLossFraction

/-- **A recovery starts the tracking.** -/
theorem tracked_recovered (hkey : s.sessionKey = none)
    (h : s.recoverSession first loadFailure = .ok s') :
    Tracked (.recovered s' first
      (resumedRow s.sessionStore s.canonicalSymbol s.riskConfig first loadFailure)) := by
  obtain ⟨recovery, hrecover, hret⟩ := bind_ok h
  obtain rfl := Except.ok.inj hret
  obtain ⟨-, hday, hrecovered⟩ := recoverSession_cases hrecover
  have hnokey : ∀ k, s.sessionKey = some k →
      ∃ r, lastRow s.sessionStore s.canonicalSymbol = some r ∧ k = r.key := by
    intro k hk
    rw [hkey] at hk
    cases hk
  cases hrecovered with
  | resumed r hstate hrec hledger _ =>
      have hrow : resumedRow s.sessionStore s.canonicalSymbol s.riskConfig first loadFailure
          = some r := by
        unfold resumedRow
        rw [hstate, Option.filter_some, if_pos (decide_eq_true hrec)]
      rw [hrow]
      have hfooting : ∀ {P : Footing → Prop},
          (∀ f, (some r).map (fun r => (⟨r, first.day⟩ : Footing)) = some f → P f)
            ↔ P ⟨r, first.day⟩ := by
        intro P
        simp
      unfold Watched.recovered
      refine ⟨hday, ?_, ?_, ?_, hnokey, ?_, fun z => ?_, fun z => ?_, fun z => ?_⟩
      · dsimp only
        rw [hledger]
        rfl
      · dsimp only
        rw [hledger]
        rfl
      · dsimp only
        rw [hledger]
        rfl
      · rw [hfooting]
        exact loadLatest_mem hstate
      all_goals
        dsimp only
        rw [hledger, hfooting, List.forall_mem_singleton]
        exact Decimal.max_le_iff
  | afresh hlost hledger _ =>
      have hrow : resumedRow s.sessionStore s.canonicalSymbol s.riskConfig first loadFailure
          = none := by
        unfold resumedRow
        rw [Option.filter_eq_none_iff]
        intro r hr
        rw [decide_eq_true_eq]
        exact hlost r hr
      rw [hrow]
      unfold Watched.recovered
      refine ⟨hday, ?_, ?_, ?_, hnokey, ?_, fun z => ?_, fun z => ?_, fun z => ?_⟩
      · dsimp only
        rw [hledger]
        rfl
      · dsimp only
        rw [hledger]
        rfl
      · dsimp only
        rw [hledger]
        rfl
      · intro f hf
        cases hf
      all_goals
        dsimp only [Option.map_none]
        rw [hledger, List.forall_mem_singleton, and_iff_right (fun f hf => by cases hf)]
      · exact Iff.rfl
      · exact fallFrom_self_le.symm
      · exact fallFrom_self_le.symm

theorem rollSession_sessionStore (s : ReplayOrchestrator) (day : Date) :
    (s.rollSession day).sessionStore = s.sessionStore := by
  unfold ReplayOrchestrator.rollSession
  split
  · rfl
  · split <;> rfl

/-- A step doesn't change what the store is asked for. -/
theorem step_frame (s : ReplayOrchestrator) (step : ReplayStep) :
    (s.step step).canonicalSymbol = s.canonicalSymbol
      ∧ (s.step step).riskConfig = s.riskConfig := by
  cases step with
  | roll day =>
      change (s.rollSession day).canonicalSymbol = _ ∧ (s.rollSession day).riskConfig = _
      unfold ReplayOrchestrator.rollSession
      split
      · exact ⟨rfl, rfl⟩
      · split <;> exact ⟨rfl, rfl⟩
  | mark equity => exact ⟨rfl, rfl⟩
  | persist tick =>
      change (s.persistSession tick).canonicalSymbol = _ ∧ (s.persistSession tick).riskConfig = _
      unfold ReplayOrchestrator.persistSession
      split
      · exact ⟨rfl, rfl⟩
      · dsimp only
        split <;> exact ⟨rfl, rfl⟩

/-- **Everything the end of a tick can do**: leave the last row be, whose key the ledger's
is, or append the ledger. -/
theorem persistSession_cases {day : Date} (hday : s.currentTradingDay = some day)
    (hkey : ∀ k, s.sessionKey = some k → ∃ r, s.record = some r ∧ k = r.key) (tick : ReplayTick) :
    (∃ r, s.persistSession tick = s ∧ Saved s r)
      ∨ ∃ r, (s.persistSession tick).sessionStore = s.sessionStore ++ [r]
          ∧ (s.persistSession tick).ledger = s.ledger
          ∧ (s.persistSession tick).currentTradingDay = s.currentTradingDay
          ∧ (s.persistSession tick).sessionKey = some r.key
          ∧ Saved (s.persistSession tick) r ∧ r.peakEquity = s.ledger.peakEquity
          ∧ r.maxDrawdownFraction = s.ledger.maxDrawdownFraction
          ∧ r.maxSessionLossFraction = s.ledger.maxSessionLossFraction
          ∧ r.tradingDay = day := by
  unfold ReplayOrchestrator.persistSession
  rw [hday]
  dsimp only
  split
  · rename_i hsame
    left
    obtain ⟨k, hk, hsame⟩ := (Option.any_eq_true _ _).mp hsame
    obtain ⟨r, hrecord, rfl⟩ := hkey k hk
    simp only [SessionKey.same, Bool.and_eq_true, decide_eq_true_eq, Decimal.compare_eq] at hsame
    obtain ⟨⟨⟨⟨⟨hsameDay, hstart⟩, hdrawdown⟩, hloss⟩, -⟩, -⟩ := hsame
    exact ⟨r, rfl, hrecord, hday.trans (congrArg some hsameDay), hstart, hdrawdown, hloss⟩
  · right
    refine ⟨_, rfl, rfl, rfl, rfl, ⟨?_, rfl, ⟨le_refl _, le_refl _⟩, ⟨le_refl _, le_refl _⟩,
      ⟨le_refl _, le_refl _⟩⟩, rfl, rfl, rfl, rfl⟩
    unfold ReplayOrchestrator.record lastRow
    dsimp only
    rw [RiskSessionStates.forSymbol_append, if_pos (by rfl), List.getLast?_concat]

/-- **Every step keeps track.** -/
theorem Tracked.step (h : Tracked w) (step : ReplayStep) : Tracked (w.step step) := by
  cases step with
  | roll day =>
      have hstep : w.step (.roll day)
          = ⟨w.replay.rollSession day, w.course.step (.roll day), w.footing, w.unsaved⟩ := by
        have hsame : ¬ (w.replay.step (.roll day)).sessionStore.length
            ≠ w.replay.sessionStore.length := not_not.mpr (by
          change (w.replay.rollSession day).sessionStore.length = _
          rw [rollSession_sessionStore])
        unfold Watched.step
        dsimp only
        rw [if_neg hsame]
        rfl
      rw [hstep]
      unfold ReplayOrchestrator.rollSession Course.step
      rw [h.day]
      dsimp only
      split
      · exact ⟨rfl, h.last, h.last, h.highest, h.key, h.footing, h.peak, h.drawdown, h.sessionLoss⟩
      · exact h
  | mark equity =>
      have hstep : w.step (.mark equity) = ⟨w.replay.mark equity, w.course.step (.mark equity),
          w.footing, w.unsaved ++ [w.course.step (.mark equity)]⟩ := by
        simp [Watched.step, ReplayOrchestrator.step, ReplayOrchestrator.mark]
      rw [hstep]
      have hhighest : (w.replay.mark equity).ledger.peakEquity
          = (w.course.step (.mark equity)).highest :=
        congrArg (Decimal.max · equity) h.highest
      refine ⟨h.day, h.opening, rfl, hhighest, h.key, h.footing, fun z => ?_, fun z => ?_,
        fun z => ?_⟩
      · have hpeak : (w.replay.mark equity).ledger.peakEquity
            = w.replay.ledger.peakEquity.max equity := rfl
        rw [hpeak, Decimal.max_le_iff, h.peak z, and_assoc, List.forall_mem_append,
          List.forall_mem_singleton]
        rfl
      · have hdrawdown : (w.replay.mark equity).ledger.maxDrawdownFraction
            = w.replay.ledger.maxDrawdownFraction.max
              (fallFrom (w.course.step (.mark equity)).highest equity) := by
          rw [← hhighest]
          exact EquityLedger.update_maxDrawdownFraction
        rw [hdrawdown, Decimal.max_le_iff, h.drawdown z, and_assoc, List.forall_mem_append,
          List.forall_mem_singleton]
        rfl
      · have hloss : (w.replay.mark equity).ledger.maxSessionLossFraction
            = w.replay.ledger.maxSessionLossFraction.max (fallFrom w.course.opening equity) := by
          rw [← h.opening]
          exact EquityLedger.update_maxSessionLossFraction
        rw [hloss, Decimal.max_le_iff, h.sessionLoss z, and_assoc, List.forall_mem_append,
          List.forall_mem_singleton]
        rfl
  | persist tick =>
      rcases persistSession_cases h.day h.key tick with ⟨r, heq, -⟩ | ⟨r, hstore, hledger, hday,
        hkey, hsaved, hpeak, hdrawdown, hloss, hrow⟩
      · have hstep : w.step (.persist tick) = w := by
          simp [Watched.step, ReplayOrchestrator.step, heq, Course.step]
        rw [hstep]
        exact h
      · have hstep : w.step (.persist tick)
            = ⟨w.replay.persistSession tick, w.course, some ⟨r, r.tradingDay⟩, []⟩ := by
          have hgrown : (w.replay.step (.persist tick)).sessionStore.length
              ≠ w.replay.sessionStore.length := by
            change (w.replay.persistSession tick).sessionStore.length ≠ _
            rw [hstore]
            simp
          have hlast : lastRow (w.replay.step (.persist tick)).sessionStore w.replay.canonicalSymbol
              = some r := by
            rw [← (step_frame w.replay (.persist tick)).1]
            exact hsaved.record
          unfold Watched.step
          dsimp only
          rw [if_pos hgrown, hlast]
          rfl
        rw [hstep]
        -- the row covers the ledger as it is, and nothing is marked since
        have hfooting : ∀ {P : Footing → Prop} {Q : Course → Prop},
            ((∀ f, some (⟨r, r.tradingDay⟩ : Footing) = some f → P f)
              ∧ ∀ c ∈ ([] : List Course), Q c) ↔ P ⟨r, r.tradingDay⟩ := by
          intro P Q
          simp
        refine ⟨hday.trans h.day, ?_, ?_, ?_, ?_, ?_, fun z => ?_, fun z => ?_, fun z => ?_⟩
        · dsimp only
          rw [hledger]
          exact h.opening
        · dsimp only
          rw [hledger]
          exact h.last
        · dsimp only
          rw [hledger]
          exact h.highest
        · intro k hk
          obtain rfl := Option.some.inj (hkey.symm.trans hk)
          exact ⟨r, hsaved.record, rfl⟩
        · intro f hf
          cases hf
          exact hsaved.record
        · rw [hfooting, hpeak, ← hledger]
        · rw [hfooting, hdrawdown, ← hledger]
        · have hcarried : carriedLoss r r.tradingDay = r.maxSessionLossFraction := if_pos rfl
          rw [hfooting, hcarried, hloss, ← hledger]

/-- **Every run keeps track.** -/
theorem Tracked.foldl (h : Tracked w) (steps : List ReplayStep) :
    Tracked (steps.foldl Watched.step w) := by
  induction steps generalizing w with
  | nil => exact h
  | cons step steps ih => exact ih (h.step step)

/-- At a tick's end, the ledger is on record wherever the key looks. -/
theorem Tracked.saved (h : Tracked w) (pre : List ReplayStep) (tick : ReplayTick) :
    ∃ r, Saved ((pre ++ [ReplayStep.persist tick]).foldl Watched.step w).replay r := by
  have hreplay : ((pre ++ [ReplayStep.persist tick]).foldl Watched.step w).replay
      = (pre.foldl Watched.step w).replay.persistSession tick := by
    rw [List.foldl_append, List.foldl_cons, List.foldl_nil, Watched.step_replay]
    rfl
  rw [hreplay]
  have hpre := h.foldl pre
  rcases persistSession_cases hpre.day hpre.key tick with ⟨r, heq, hsaved⟩ |
    ⟨r, -, -, -, -, hsaved, -⟩
  · rw [heq]
    exact ⟨r, hsaved⟩
  · exact ⟨r, hsaved⟩

/-- **Nothing is worse than the row at a tick's end**: every fall since it was written is no deeper than
what it says, from the highest equity and, on its day, from the one the day opened at. -/
theorem Tracked.falls_on_record (h : Tracked w) {r : RiskSessionState} (hsaved : Saved w.replay r) :
    (∀ c ∈ w.unsaved, fallFrom c.highest c.last ≤ r.maxDrawdownFraction)
      ∧ ∀ c ∈ w.unsaved, fallFrom c.opening c.last ≤ r.maxSessionLossFraction :=
  ⟨((h.drawdown _).mp hsaved.drawdown.1).2, ((h.sessionLoss _).mp hsaved.sessionLoss.1).2⟩

/-! ## The restart -/

/-- A recovered ledger gives no more room than the one that crashed; on a later day it
starts no lower than the run would have, had it gone on. -/
structure Conservative (crashed wentOn : ReplayOrchestrator) (day : Date)
    (recovered : EquityLedger) : Prop where
  peak : crashed.ledger.peakEquity ≤ recovered.peakEquity
  drawdown : crashed.ledger.maxDrawdownFraction ≤ recovered.maxDrawdownFraction
  sessionLoss : crashed.currentTradingDay = some day →
    crashed.ledger.maxSessionLossFraction ≤ recovered.maxSessionLossFraction
  baseline : (∃ d, crashed.currentTradingDay = some d ∧ d < day) →
    (wentOn.rollSession day).ledger.sessionStartEquity ≤ recovered.sessionStartEquity

/--
The restart resumes from the last row, and every equity marked since that was written is
covered by the row or by the account as the restart finds it: it's no higher than the one
or the other, and no fall to it is deeper. If the day has turned since, the row's own
session loss is covered by the account. On a later day, the course enters that day no
higher than the row has it.
-/
structure Covered (w : Watched) (wentOn : Course) (restart : ReplayTick)
    (loadFailure : Option PyError) (r : RiskSessionState) : Prop where
  record : w.replay.record = some r
  recoverable : Recoverable
    (w.replay.sessionStore.loadLatest w.replay.canonicalSymbol loadFailure) r restart.equity
    restart.openPositions restart.day w.replay.riskConfig.maxDailyLoss.val
    w.replay.riskConfig.maxDrawdown.val
  peak : ∀ c ∈ w.unsaved, c.last ≤ r.peakEquity ∨ c.last ≤ restart.equity
  drawdown : ∀ c ∈ w.unsaved, fallFrom c.highest c.last ≤ r.maxDrawdownFraction
    ∨ fallFrom c.highest c.last ≤ fallFrom (r.peakEquity.max restart.equity) restart.equity
  turned : w.course.day = restart.day → ∀ f, w.footing = some f →
    carriedLoss f.row f.day ≤ carriedLoss r restart.day
      ∨ carriedLoss f.row f.day ≤ fallFrom (carriedStart r restart.day) restart.equity
  sessionLoss : w.course.day = restart.day → ∀ c ∈ w.unsaved,
    fallFrom c.opening c.last ≤ carriedLoss r restart.day
      ∨ fallFrom c.opening c.last ≤ fallFrom (carriedStart r restart.day) restart.equity
  baseline : w.course.day < restart.day → wentOn.entering restart.day ≤ carriedStart r restart.day

/--
The restart starts afresh, but there is nothing it could forget: the row and the equities
marked since are no higher than the account, the row has no loss, and no equity marked
since was below an earlier one or below the one its day opened at.
-/
structure Unharmed (w : Watched) (wentOn : Course) (restart : ReplayTick)
    (loadFailure : Option PyError) : Prop where
  lost : ∀ r, w.replay.record = some r → ¬ Recoverable
    (w.replay.sessionStore.loadLatest w.replay.canonicalSymbol loadFailure) r restart.equity
    restart.openPositions restart.day w.replay.riskConfig.maxDailyLoss.val
    w.replay.riskConfig.maxDrawdown.val
  rowPeak : ∀ f, w.footing = some f → f.row.peakEquity ≤ restart.equity
  peak : ∀ c ∈ w.unsaved, c.last ≤ restart.equity
  rowDrawdown : ∀ f, w.footing = some f → f.row.maxDrawdownFraction ≤ 0
  drawdown : ∀ c ∈ w.unsaved, ¬ Falls c.highest c.last
  rowLoss : w.course.day = restart.day → ∀ f, w.footing = some f → carriedLoss f.row f.day ≤ 0
  sessionLoss : w.course.day = restart.day → ∀ c ∈ w.unsaved, ¬ Falls c.opening c.last
  baseline : w.course.day < restart.day → wentOn.entering restart.day ≤ restart.equity

/-- The day a run is on, as its course has it. -/
theorem Tracked.before_iff (h : Tracked w) {day : Date} :
    (∃ d, w.replay.currentTradingDay = some d ∧ d < day) ↔ w.course.day < day := by
  rw [h.day]
  simp

/-- A run enters a day with the equity its course does. -/
theorem Tracked.entering (h : Tracked w) (day : Date) :
    (w.replay.rollSession day).ledger.sessionStartEquity = w.course.entering day := by
  unfold ReplayOrchestrator.rollSession Course.entering
  rw [h.day]
  dsimp only
  split
  · exact h.last
  · exact h.opening

/-- What's marked since a row is below the greater of two just when each of it is below one. -/
theorem forall_le_max {f : Course → Decimal} {cs : List Course} {x y : Decimal} :
    (∀ c ∈ cs, f c ≤ x.max y) ↔ ∀ c ∈ cs, f c ≤ x ∨ f c ≤ y :=
  forall₂_congr fun _ _ => Decimal.le_max_iff

theorem conservative_iff {wentOn : Watched} {recovery : SessionRecovery} (htracked : Tracked w)
    (hwentOn : Tracked wentOn)
    (hrecover : recoverSession
      (w.replay.sessionStore.loadLatest w.replay.canonicalSymbol loadFailure) restart.equity
      restart.openPositions restart.day w.replay.riskConfig.maxDailyLoss.val
      w.replay.riskConfig.maxDrawdown.val = .ok recovery) :
    Conservative w.replay wentOn.replay restart.day recovery.ledger
      ↔ (∃ r, Covered w wentOn.course restart loadFailure r)
        ∨ Unharmed w wentOn.course restart loadFailure := by
  obtain ⟨-, -, hrecovered⟩ := recoverSession_cases hrecover
  have hday : w.replay.currentTradingDay = some restart.day ↔ w.course.day = restart.day := by
    rw [htracked.day, Option.some.injEq]
  cases hrecovered with
  | resumed r hstate hrec hledger _ =>
      have hrecord : w.replay.record = some r := loadLatest_mem hstate
      have hrow : ∀ f, w.footing = some f → f.row = r := fun f hf =>
        Option.some.inj ((htracked.footing f hf).symm.trans hrecord)
      have hpeak := htracked.peak (r.peakEquity.max restart.equity)
      have hdrawdown := htracked.drawdown
        (r.maxDrawdownFraction.max (fallFrom (r.peakEquity.max restart.equity) restart.equity))
      have hloss := htracked.sessionLoss
        ((carriedLoss r restart.day).max (fallFrom (carriedStart r restart.day) restart.equity))
      rw [forall_le_max] at hpeak hdrawdown hloss
      rw [hledger]
      constructor
      · intro h
        refine .inl ⟨r, hrecord, hrec, (hpeak.mp h.peak).2, (hdrawdown.mp h.drawdown).2,
          fun hsame f hf => ?_, fun hsame => (hloss.mp (h.sessionLoss (hday.mpr hsame))).2,
          fun hlater => ?_⟩
        · exact Decimal.le_max_iff.mp ((hloss.mp (h.sessionLoss (hday.mpr hsame))).1 f hf)
        · rw [← hwentOn.entering]
          exact h.baseline (htracked.before_iff.mpr hlater)
      · rintro (⟨r', h⟩ | h)
        · obtain rfl := Option.some.inj (hrecord.symm.trans h.record)
          refine ⟨hpeak.mpr ⟨fun f hf => ?_, h.peak⟩, hdrawdown.mpr ⟨fun f hf => ?_, h.drawdown⟩,
            fun hsame => ?_, fun hlater => ?_⟩
          · rw [hrow f hf]
            exact Decimal.le_max_left
          · rw [hrow f hf]
            exact Decimal.le_max_left
          · exact hloss.mpr ⟨fun f hf => Decimal.le_max_iff.mpr (h.turned (hday.mp hsame) f hf),
              h.sessionLoss (hday.mp hsame)⟩
          · rw [hwentOn.entering]
            exact h.baseline (htracked.before_iff.mp hlater)
        · exact absurd hrec (h.lost r hrecord)
  | afresh hlost hledger _ =>
      have hlost' : ∀ r, w.replay.record = some r → ¬ Recoverable
          (w.replay.sessionStore.loadLatest w.replay.canonicalSymbol loadFailure) r
          restart.equity restart.openPositions restart.day
          w.replay.riskConfig.maxDailyLoss.val w.replay.riskConfig.maxDrawdown.val :=
        fun r hr hrec => hlost r (loadLatest_state hr hrec.readable) hrec
      have hpeak := htracked.peak restart.equity
      have hdrawdown := htracked.drawdown 0
      have hloss := htracked.sessionLoss 0
      simp only [fallFrom_nonpos_iff] at hdrawdown hloss
      rw [hledger]
      constructor
      · intro h
        refine .inr ⟨hlost', (hpeak.mp h.peak).1, (hpeak.mp h.peak).2, (hdrawdown.mp h.drawdown).1,
          (hdrawdown.mp h.drawdown).2,
          fun hsame => (hloss.mp (h.sessionLoss (hday.mpr hsame))).1,
          fun hsame => (hloss.mp (h.sessionLoss (hday.mpr hsame))).2, fun hlater => ?_⟩
        rw [← hwentOn.entering]
        exact h.baseline (htracked.before_iff.mpr hlater)
      · rintro (⟨r, h⟩ | h)
        · exact absurd h.recoverable (hlost' r h.record)
        · refine ⟨hpeak.mpr ⟨h.rowPeak, h.peak⟩, hdrawdown.mpr ⟨h.rowDrawdown, h.drawdown⟩,
            fun hsame => hloss.mpr ⟨h.rowLoss (hday.mp hsame), h.sessionLoss (hday.mp hsame)⟩,
            fun hlater => ?_⟩
          rw [hwentOn.entering]
          exact h.baseline (htracked.before_iff.mp hlater)

/-- Recovering changes neither the store nor what it is asked for. -/
theorem recoverSession_frame (h : s.recoverSession first loadFailure = .ok s') :
    s'.canonicalSymbol = s.canonicalSymbol ∧ s'.riskConfig = s.riskConfig
      ∧ s'.sessionStore = s.sessionStore := by
  obtain ⟨recovery, -, hret⟩ := bind_ok h
  obtain rfl := Except.ok.inj hret
  exact ⟨rfl, rfl, rfl⟩

theorem foldl_frame (w : Watched) (steps : List ReplayStep) :
    (steps.foldl Watched.step w).replay.canonicalSymbol = w.replay.canonicalSymbol
      ∧ (steps.foldl Watched.step w).replay.riskConfig = w.replay.riskConfig := by
  induction steps generalizing w with
  | nil => exact ⟨rfl, rfl⟩
  | cons step steps ih =>
      obtain ⟨hsym, hconfig⟩ := step_frame w.replay step
      rw [← Watched.step_replay] at hsym hconfig
      exact ⟨(ih _).1.trans hsym, (ih _).2.trans hconfig⟩

/-- A path of ticks, cut off after some steps. -/
def cutPath (ticks : List ReplayTick) (finalEquity : Decimal) (n : Nat) : List ReplayStep :=
  (replaySteps ticks finalEquity).take n

end

/-! ## A restart that keeps everything, and one that does not -/

/-- A replay from an empty store, cut off and restarted; and where it would have been, had it
gone on. -/
def restartOf (riskConfig : RiskConfig) (first : ReplayTick) (rest : List ReplayTick) (n m : Nat)
    (restart : ReplayTick) : Option (ReplayOrchestrator × ReplayOrchestrator × Watched × Watched
      × ReplayOrchestrator) :=
  match ReplayOrchestrator.create "EUR/USD" riskConfig [] first.equity with
  | .error _ => none
  | .ok initial =>
      match initial.recoverSession first none with
      | .error _ => none
      | .ok replay =>
          let row := resumedRow [] "EUR/USD" riskConfig first none
          let crashed := Watched.run replay first row (cutPath (first :: rest) first.equity n)
          let wentOn := Watched.run replay first row (cutPath (first :: rest) first.equity (n + m))
          match { initial with sessionStore := crashed.replay.sessionStore }.recoverSession restart
            none with
          | .error _ => none
          | .ok restarted => some (initial, replay, crashed, wentOn, restarted)

theorem restartOf_eq_some {riskConfig : RiskConfig} {first restart : ReplayTick}
    {rest : List ReplayTick} {n m : Nat} {initial replay restarted : ReplayOrchestrator}
    {crashed wentOn : Watched} (h : restartOf riskConfig first rest n m restart
      = some (initial, replay, crashed, wentOn, restarted)) :
    ReplayOrchestrator.create "EUR/USD" riskConfig [] first.equity = .ok initial
      ∧ initial.recoverSession first none = .ok replay
      ∧ crashed = Watched.run replay first (resumedRow [] "EUR/USD" riskConfig first none)
        (cutPath (first :: rest) first.equity n)
      ∧ wentOn = Watched.run replay first (resumedRow [] "EUR/USD" riskConfig first none)
        (cutPath (first :: rest) first.equity (n + m))
      ∧ { initial with sessionStore := crashed.replay.sessionStore }.recoverSession restart none
        = .ok restarted := by
  unfold restartOf at h
  split at h
  · cases h
  rename_i hcreate
  split at h
  · cases h
  rename_i hfirst
  dsimp only at h
  split at h
  · cases h
  rename_i hrestart
  cases h
  exact ⟨hcreate, hfirst, rfl, rfl, hrestart⟩

namespace Sample

/-- A tick of one day, without positions. -/
def replayTick (equity : Decimal) : ReplayTick where
  day := 20704
  receivedTimeUtc := days 20704
  equity
  openPositions := 0
  balanceAfter := equity
  positionsAfter := 0
  openRiskAfter := some 0

/-- And one of the day after. -/
def nextDayTick (equity : Decimal) : ReplayTick :=
  { replayTick equity with day := 20705, receivedTimeUtc := days 20705 }

/-- A loss of one percent, and a tick at the same equity, which isn't persisted. -/
def lossThenStill : List ReplayTick := [replayTick 990, replayTick 990, nextDayTick 985]

/-- A row covers what was marked since, when the restart is a day later. -/
structure LaterDayCovered (crashed wentOn : Watched) (r : RiskSessionState) : Prop where
  recoverable : Recoverable
    (crashed.replay.sessionStore.loadLatest crashed.replay.canonicalSymbol none) r 985 0 20705
    crashed.replay.riskConfig.maxDailyLoss.val crashed.replay.riskConfig.maxDrawdown.val
  marked : crashed.unsaved.length = 1
  peak : ∀ c ∈ crashed.unsaved, c.last ≤ r.peakEquity
  drawdown : ∀ c ∈ crashed.unsaved, fallFrom c.highest c.last ≤ r.maxDrawdownFraction
  day : crashed.course.day = 20704
  baseline : wentOn.course.entering 20705 ≤ carriedStart r 20705

instance (crashed wentOn : Watched) (r : RiskSessionState) :
    Decidable (LaterDayCovered crashed wentOn r) :=
  decidable_of_iff (Recoverable
      (crashed.replay.sessionStore.loadLatest crashed.replay.canonicalSymbol none) r 985 0 20705
      crashed.replay.riskConfig.maxDailyLoss.val crashed.replay.riskConfig.maxDrawdown.val
      ∧ crashed.unsaved.length = 1 ∧ (∀ c ∈ crashed.unsaved, c.last ≤ r.peakEquity)
      ∧ (∀ c ∈ crashed.unsaved, fallFrom c.highest c.last ≤ r.maxDrawdownFraction)
      ∧ crashed.course.day = 20704 ∧ wentOn.course.entering 20705 ≤ carriedStart r 20705)
    ⟨fun ⟨h₁, h₂, h₃, h₄, h₅, h₆⟩ => ⟨h₁, h₂, h₃, h₄, h₅, h₆⟩,
      fun h => ⟨h.1, h.2, h.3, h.4, h.5, h.6⟩⟩

end Sample

end Crumblr
