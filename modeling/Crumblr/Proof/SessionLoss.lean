import Crumblr.Proof.LedgerResume
import Crumblr.Proof.Restart

/-!
# Whose loss a session record tells

A new session gets a new baseline but keeps the maximum of the session before it: within
one process the maximum is that of every day so far. A recovery on a later day clears it,
and a restart on the same day takes what is on record for that day's own.
-/

namespace Crumblr

/-- The largest fractional losses a replay has seen, each from its day's baseline. -/
structure DayLosses where
  replay : ReplayOrchestrator
  /-- On the day it is in. -/
  own : Decimal
  /-- On the days before it, since the process started. -/
  earlier : Decimal

namespace DayLosses

/-- A process that has recovered: the day has lost what the record it resumes from says of
that day, and what the account shows. -/
def start (recovered : ReplayOrchestrator) (record : Option RiskSessionState)
    (first : ReplayTick) : DayLosses where
  replay := recovered
  own :=
    match record with
    | some r =>
        if recovered.sessionResumed then
          (carriedLoss r first.day).max (fallFrom (carriedStart r first.day) first.equity)
        else 0
    | none => 0
  earlier := 0

def step (w : DayLosses) (s : ReplayStep) : DayLosses :=
  match s with
  | .roll day =>
      if w.replay.currentTradingDay.any (fun current => decide (day ≠ current)) then
        ⟨w.replay.step s, 0, w.earlier.max w.own⟩
      else ⟨w.replay.step s, w.own, w.earlier⟩
  | .mark equity =>
      ⟨w.replay.step s, w.own.max (fallFrom w.replay.ledger.sessionStartEquity equity), w.earlier⟩
  | .persist _ => ⟨w.replay.step s, w.own, w.earlier⟩

def run (w : DayLosses) (steps : List ReplayStep) : DayLosses := steps.foldl step w

/-- The row on record is about the day's own losses, and a restart on that day halts for the
daily limit only if they, or the account as it then is, have reached it. -/
structure OnRecord (w : DayLosses) (r : RiskSessionState) : Prop where
  record : w.replay.record = some r
  day : w.replay.currentTradingDay = some r.tradingDay
  loss : r.maxSessionLossFraction ≤ w.own ∧ w.own ≤ r.maxSessionLossFraction
  restart : ∀ (failure : Option PyError) (equity : Decimal) (positions : Nat)
      (maxDailyLoss maxDrawdown : Decimal) (recovery : SessionRecovery),
    recoverSession (w.replay.sessionStore.loadLatest w.replay.canonicalSymbol failure) equity
        positions r.tradingDay maxDailyLoss maxDrawdown = .ok recovery →
    ReasonCode.dailyLossLimit ∈ recovery.reasonCodes →
    maxDailyLoss ≤ w.own ∨ maxDailyLoss ≤ fallFrom r.sessionStartEquity equity

end DayLosses

/-! ## What a recovery says of itself -/

section

variable {record : SessionRecord} {equity : Decimal} {positions : Nat} {day : Date}
  {maxDailyLoss maxDrawdown : Decimal} {recovery : SessionRecovery}

/-- What a halt says: that it resumed nothing, and why. -/
theorem haltedRecovery_eq {reasons : List ReasonCode} {detail : String}
    (h : haltedRecovery equity day reasons detail = .ok recovery) :
    recovery = { ledger := .fresh equity, tradingDay := some day, resumed := false,
                 reasonCodes := reasons, detail := some detail } := by
  obtain ⟨ledger, hcreate, hret⟩ := bind_ok h
  obtain ⟨-, rfl⟩ := EquityLedger.create_ok hcreate
  exact (Except.ok.inj hret).symm

/-- What a recovery says of the ledger it comes with: whether it carries the record over,
and that it halts for the daily limit only when the ledger carried over has exhausted it. -/
structure RecoveryExplained (record : SessionRecord) (equity : Decimal) (day : Date)
    (maxDailyLoss : Decimal) (recovery : SessionRecovery) : Prop where
  resumed : recovery.resumed = true →
    ∃ r, record.state = some r ∧ recovery.ledger = carried r equity day
  afresh : recovery.resumed = false → recovery.ledger = .fresh equity
  daily : ReasonCode.dailyLossLimit ∈ recovery.reasonCodes →
    ∃ r, record.state = some r ∧ maxDailyLoss ≤ (carried r equity day).maxSessionLossFraction

theorem explained_halted {reasons : List ReasonCode} {detail : String}
    (h : haltedRecovery equity day reasons detail = .ok recovery)
    (hdaily : ReasonCode.dailyLossLimit ∈ reasons →
      ∃ r, record.state = some r ∧ maxDailyLoss ≤ (carried r equity day).maxSessionLossFraction) :
    RecoveryExplained record equity day maxDailyLoss recovery := by
  rw [haltedRecovery_eq h]
  exact ⟨fun hres => absurd hres (by simp), fun _ => rfl, hdaily⟩

theorem recoverSession_explained
    (h : recoverSession record equity positions day maxDailyLoss maxDrawdown = .ok recovery) :
    RecoveryExplained record equity day maxDailyLoss recovery := by
  have hpos := (recoverSession_cases h).1
  have hrun := h
  unfold recoverSession at h
  split at h
  · exact explained_halted h (by simp)
  rename_i hreadable
  split at h
  · rename_i hnone
    rw [EquityLedger.create_fresh hpos] at h
    cases h
    exact ⟨fun hres => absurd hres (by simp), fun _ => rfl, by simp⟩
  rename_i r hsome
  split at h
  · exact explained_halted h (by simp)
  split at h
  · exact explained_halted h (by simp)
  split at h
  · exact explained_halted h (by simp)
  rename_i hschema hahead hcount
  obtain ⟨detail, heq⟩ := recoverSession_eq maxDailyLoss maxDrawdown hpos hreadable hsome
    (not_not.mp hschema) (Int.not_lt.mp hahead) (not_not.mp hcount)
  rw [heq] at hrun
  split at hrun
  · cases hrun
    exact ⟨fun _ => ⟨r, hsome, rfl⟩, fun hres => absurd hres (by simp), by simp⟩
  · refine explained_halted hrun fun hmem => ⟨r, hsome, ?_⟩
    by_contra hroom
    rw [exhausted, if_neg hroom, List.append_nil] at hmem
    split at hmem <;> simp at hmem

end

/-! ## The invariant of a run -/

/-- The ledger's session maximum is the largest loss of all the days. -/
structure Tallied (w : DayLosses) : Prop where
  nonneg : 0 ≤ w.own
  both : ∀ z, w.replay.ledger.maxSessionLossFraction ≤ z ↔ w.earlier ≤ z ∧ w.own ≤ z

section

variable {w : DayLosses} {initial recovered : ReplayOrchestrator} {first : ReplayTick}
  {firstFailure : Option PyError}

theorem tallied_start (h : initial.recoverSession first firstFailure = .ok recovered) :
    Tallied (.start recovered initial.record first) := by
  obtain ⟨recovery, hrecover, hret⟩ := bind_ok h
  obtain rfl := Except.ok.inj hret
  have hexp := recoverSession_explained hrecover
  -- the ledger comes with what the record says of the day, or with nothing
  have hown : (DayLosses.start { initial with
      ledger := recovery.ledger, currentTradingDay := recovery.tradingDay,
      sessionResumed := recovery.resumed } initial.record first).own
        = recovery.ledger.maxSessionLossFraction := by
    unfold DayLosses.start
    cases hres : recovery.resumed with
    | true =>
        obtain ⟨r, hstate, hledger⟩ := hexp.resumed hres
        have hrecord : initial.record = some r := loadLatest_mem hstate
        rw [hrecord, hledger]
        rfl
    | false =>
        rw [hexp.afresh hres]
        cases initial.record <;> rfl
  have hnonneg : (0 : Decimal) ≤ recovery.ledger.maxSessionLossFraction := by
    cases hres : recovery.resumed with
    | true =>
        obtain ⟨r, -, hledger⟩ := hexp.resumed hres
        rw [hledger]
        exact le_trans (fallFrom_nonneg _ _) Decimal.le_max_right
    | false =>
        rw [hexp.afresh hres]
        exact le_refl _
  refine ⟨?_, fun z => ?_⟩
  · rw [hown]
    exact hnonneg
  · rw [hown]
    exact ⟨fun hz => ⟨le_trans hnonneg hz, hz⟩, fun hz => hz.2⟩

/-- **Every step keeps the tally**: a mark adds to the day's own loss, and a roll makes it
one of an earlier day. -/
theorem Tallied.step (h : Tallied w) (s : ReplayStep) : Tallied (w.step s) := by
  cases s with
  | roll day =>
      have hledger : (w.replay.rollSession day).ledger.maxSessionLossFraction
          = w.replay.ledger.maxSessionLossFraction := by
        unfold ReplayOrchestrator.rollSession
        split
        · rfl
        · split <;> rfl
      unfold DayLosses.step
      dsimp only [ReplayOrchestrator.step]
      split
      · refine ⟨le_refl _, fun z => ?_⟩
        rw [hledger, h.both z, Decimal.max_le_iff]
        exact ⟨fun hz => ⟨hz, le_trans h.nonneg hz.2⟩, fun hz => hz.1⟩
      · exact ⟨h.nonneg, fun z => by rw [hledger]; exact h.both z⟩
  | mark equity =>
      refine ⟨le_trans h.nonneg Decimal.le_max_left, fun z => ?_⟩
      have hledger : (w.step (.mark equity)).replay.ledger.maxSessionLossFraction
          = w.replay.ledger.maxSessionLossFraction.max
            (fallFrom w.replay.ledger.sessionStartEquity equity) :=
        EquityLedger.update_maxSessionLossFraction
      rw [hledger, Decimal.max_le_iff, h.both z]
      unfold DayLosses.step
      dsimp only
      rw [Decimal.max_le_iff, and_assoc]
  | persist tick =>
      refine ⟨h.nonneg, fun z => ?_⟩
      have hledger : (w.step (.persist tick)).replay.ledger = w.replay.ledger := by
        unfold DayLosses.step
        dsimp only [ReplayOrchestrator.step]
        unfold ReplayOrchestrator.persistSession
        split
        · rfl
        · dsimp only
          split <;> rfl
      rw [hledger]
      exact h.both z

/-- **Every run keeps the tally.** -/
theorem Tallied.run (h : Tallied w) (steps : List ReplayStep) : Tallied (w.run steps) := by
  unfold DayLosses.run
  induction steps generalizing w with
  | nil => exact h
  | cons s steps ih => exact ih (h.step s)

theorem DayLosses.step_replay (w : DayLosses) (s : ReplayStep) :
    (w.step s).replay = w.replay.step s := by
  unfold DayLosses.step
  cases s with
  | roll day => dsimp only; split <;> rfl
  | mark equity => rfl
  | persist tick => rfl

/-- The tally and the watch are of one replay. -/
theorem DayLosses.run_replay (steps : List ReplayStep) {v : Watched}
    (h : w.replay = v.replay) :
    (w.run steps).replay = (steps.foldl Watched.step v).replay := by
  unfold DayLosses.run
  induction steps generalizing w v with
  | nil => exact h
  | cons s steps ih =>
      refine ih ?_
      rw [DayLosses.step_replay, Watched.step_replay, h]

/--
**At a tick's end the record tells the day's own loss exactly when no earlier day of the
process has lost more.** The replay starts from any store, and takes any steps.
-/
theorem session_loss_own_iff {canonicalSymbol : String} {riskConfig : RiskConfig}
    {sessionStore : RiskSessionStates} {startingEquity : Decimal}
    (hcreate : ReplayOrchestrator.create canonicalSymbol riskConfig sessionStore startingEquity
      = .ok initial)
    (hfirst : initial.recoverSession first firstFailure = .ok recovered)
    (steps : List ReplayStep) (tick : ReplayTick) :
    (∃ r, ((DayLosses.start recovered initial.record first).run
        (steps ++ [.persist tick])).OnRecord r)
      ↔ ((DayLosses.start recovered initial.record first).run (steps ++ [.persist tick])).earlier
        ≤ ((DayLosses.start recovered initial.record first).run (steps ++ [.persist tick])).own := by
  obtain ⟨ledger, -, hinitial⟩ := bind_ok hcreate
  obtain rfl := Except.ok.inj hinitial
  have hsaved := (tracked_recovered rfl hfirst).saved steps tick
  rw [← DayLosses.run_replay (w := .start recovered _ first) _ rfl] at hsaved
  have htally := (tallied_start hfirst).run (steps ++ [.persist tick])
  generalize (DayLosses.start recovered _ first).run (steps ++ [.persist tick]) = w at *
  obtain ⟨r, hsaved⟩ := hsaved
  constructor
  · rintro ⟨r', h⟩
    obtain rfl := Option.some.inj (hsaved.record.symm.trans h.record)
    exact ((htally.both _).mp (le_trans hsaved.sessionLoss.1 h.loss.1)).1
  · intro hearlier
    have hmax : r.maxSessionLossFraction ≤ w.own :=
      le_trans hsaved.sessionLoss.2 ((htally.both _).mpr ⟨hearlier, le_refl _⟩)
    have hown : w.own ≤ r.maxSessionLossFraction :=
      le_trans ((htally.both _).mp (le_refl _)).2 hsaved.sessionLoss.1
    refine ⟨r, hsaved.record, hsaved.day, ⟨hmax, hown⟩, ?_⟩
    intro failure equity positions maxDailyLoss maxDrawdown recovery hrecover hdaily
    obtain ⟨r', hstate, hlimit⟩ := (recoverSession_explained hrecover).daily hdaily
    obtain rfl := Option.some.inj (hsaved.record.symm.trans (loadLatest_mem hstate))
    have hcarried : (carried r equity r.tradingDay).maxSessionLossFraction
        = r.maxSessionLossFraction.max (fallFrom r.sessionStartEquity equity) := by
      simp [carried, carriedLoss, carriedStart]
    rw [hcarried, Decimal.le_max_iff] at hlimit
    exact hlimit.imp_left fun hle => le_trans hle hmax

end

/-! ## A loss told of its own day, and of the next one -/

namespace Sample

/-- A process that has recovered its session from an empty store. -/
def recoveredReplay (first : ReplayTick) : Option (ReplayOrchestrator × ReplayOrchestrator) :=
  match ReplayOrchestrator.create "EUR/USD" ledgerLimits [] first.equity with
  | .error _ => none
  | .ok initial =>
      match initial.recoverSession first none with
      | .error _ => none
      | .ok recovered => some (initial, recovered)

theorem recoveredReplay_eq_some {first : ReplayTick} {initial recovered : ReplayOrchestrator}
    (h : recoveredReplay first = some (initial, recovered)) :
    ReplayOrchestrator.create "EUR/USD" ledgerLimits [] first.equity = .ok initial
      ∧ initial.recoverSession first none = .ok recovered := by
  unfold recoveredReplay at h
  split at h
  · cases h
  rename_i hcreate
  split at h
  · cases h
  rename_i hfirst
  cases h
  exact ⟨hcreate, hfirst⟩

/-- Four percent lost on the first day, and nothing on the second. -/
def lostYesterday : List ReplayStep :=
  [.roll 20704, .mark 1000, .persist (replayTick 1000), .roll 20704, .mark 960,
   .persist (replayTick 960), .roll 20705, .mark 960]

end Sample

open Sample in
/-- A loss of one percent, told at the end of its day's second tick. -/
theorem session_loss_own_iff_sample :
    ∃ initial recovered, recoveredReplay (replayTick 1000) = some (initial, recovered)
      ∧ ∃ r, ((DayLosses.start recovered initial.record (replayTick 1000)).run
        ([.roll 20704, .mark 1000, .persist (replayTick 1000), .roll 20704, .mark 990]
          ++ [.persist (replayTick 990)])).OnRecord r := by
  have hrun : (recoveredReplay (replayTick 1000)).any (fun (initial, recovered) =>
      let w := (DayLosses.start recovered initial.record (replayTick 1000)).run
        ([.roll 20704, .mark 1000, .persist (replayTick 1000), .roll 20704, .mark 990]
          ++ [.persist (replayTick 990)])
      decide (w.earlier ≤ w.own)) = true := by decide +kernel
  obtain ⟨⟨initial, recovered⟩, heq, hp⟩ := (Option.any_eq_true _ _).mp hrun
  obtain ⟨hcreate, hfirst⟩ := recoveredReplay_eq_some heq
  exact ⟨initial, recovered, heq,
    (session_loss_own_iff hcreate hfirst _ _).mpr (of_decide_eq_true hp)⟩

open Sample in
/-- On the second day the record tells the first day's loss, and a restart halts for it. -/
theorem session_loss_of_yesterday :
    ∃ initial recovered, recoveredReplay (replayTick 1000) = some (initial, recovered)
      ∧ (∃ r, ((DayLosses.start recovered initial.record (replayTick 1000)).run
          (lostYesterday ++ [.persist (replayTick 960)])).replay.record = some r
        ∧ r.tradingDay = 20705 ∧ r.maxSessionLossFraction = ⟨4, -2⟩
        ∧ (recoverSession ⟨some r, none⟩ 960 0 20705 ⟨30, -3⟩ ⟨100, -3⟩).toOption.map
            (·.reasonCodes) = some [.dailyLossLimit])
      ∧ ((DayLosses.start recovered initial.record (replayTick 1000)).run
          (lostYesterday ++ [.persist (replayTick 960)])).own = 0
      ∧ ¬ ∃ r, ((DayLosses.start recovered initial.record (replayTick 1000)).run
          (lostYesterday ++ [.persist (replayTick 960)])).OnRecord r := by
  have hrun : (recoveredReplay (replayTick 1000)).any (fun (initial, recovered) =>
      let w := (DayLosses.start recovered initial.record (replayTick 1000)).run
        (lostYesterday ++ [.persist (replayTick 960)])
      w.replay.record.any (fun r => decide (r.tradingDay = 20705
        ∧ r.maxSessionLossFraction = ⟨4, -2⟩
        ∧ (recoverSession ⟨some r, none⟩ 960 0 20705 ⟨30, -3⟩ ⟨100, -3⟩).toOption.map
            (·.reasonCodes) = some [.dailyLossLimit]))
      && decide (w.own = 0)) = true := by decide +kernel
  obtain ⟨⟨initial, recovered⟩, heq, hp⟩ := (Option.any_eq_true _ _).mp hrun
  rw [Bool.and_eq_true] at hp
  obtain ⟨r, hr, htold⟩ := (Option.any_eq_true _ _).mp hp.1
  obtain ⟨hday, hmax, hhalts⟩ := of_decide_eq_true htold
  have hown := of_decide_eq_true hp.2
  refine ⟨initial, recovered, heq, ⟨r, hr, hday, hmax, hhalts⟩, hown, ?_⟩
  rintro ⟨r', h⟩
  obtain rfl := Option.some.inj (hr.symm.trans h.record)
  have hle := h.loss.1
  rw [hmax, hown] at hle
  exact absurd hle (by decide)

end Crumblr
