import Crumblr.Proof.RiskSession

/-!
# Resuming a ledger from its snapshot

A snapshot keeps the equities and the worst values a ledger has seen, not the equity its
process started with. The latter is the only thing in which a recovered ledger differs
from one that never stopped, and no loss is measured against it: from there on the two
read the same, whatever happens to them.
-/

namespace Crumblr

/-- What happens to a ledger in a process's memory. -/
inductive LedgerStep where
  | update (equity : Decimal)
  | startNewSession

namespace EquityLedger

def step (l : EquityLedger) : LedgerStep → EquityLedger
  | .update equity => l.update equity
  | .startNewSession => l.startNewSession

def run (l : EquityLedger) (steps : List LedgerStep) : EquityLedger := steps.foldl step l

/-- Everything a halt threshold is measured against. -/
structure Reading where
  sessionLossFraction : Decimal
  drawdownFraction : Decimal
  maxSessionLossFraction : Decimal
  maxDrawdownFraction : Decimal

def reading (l : EquityLedger) : Reading where
  sessionLossFraction := l.sessionLossFraction
  drawdownFraction := l.drawdownFraction
  maxSessionLossFraction := l.maxSessionLossFraction
  maxDrawdownFraction := l.maxDrawdownFraction

/-- The limits a ledger has exhausted. -/
def exhaustedLimits (l : EquityLedger) (maxDailyLoss maxDrawdown : Decimal) : List ReasonCode :=
  (if maxDrawdown ≤ l.maxDrawdownFraction then [.maxDrawdown] else [])
    ++ (if maxDailyLoss ≤ l.maxSessionLossFraction then [.dailyLossLimit] else [])

/-- The ledger that never stopped: marked on the same day; on a later one rolled, with its
session maximum cleared, and then marked. -/
def uninterrupted (l : EquityLedger) (tradingDay marketDay : Date) (equity : Decimal) :
    EquityLedger :=
  if tradingDay = marketDay then l.update equity
  else { l.startNewSession with maxSessionLossFraction := 0 }.update equity

/-! ## Ledgers that differ in their starting equity -/

variable {l l' : EquityLedger}

/-- The two differ at most in the equity their processes started with. -/
structure Alike (l l' : EquityLedger) : Prop where
  peakEquity : l.peakEquity = l'.peakEquity
  currentEquity : l.currentEquity = l'.currentEquity
  sessionStartEquity : l.sessionStartEquity = l'.sessionStartEquity
  maxDrawdownFraction : l.maxDrawdownFraction = l'.maxDrawdownFraction
  maxSessionLossFraction : l.maxSessionLossFraction = l'.maxSessionLossFraction

theorem Alike.reading (h : Alike l l') : l.reading = l'.reading := by
  unfold EquityLedger.reading sessionLossFraction drawdownFraction
  rw [h.peakEquity, h.currentEquity, h.sessionStartEquity, h.maxDrawdownFraction,
    h.maxSessionLossFraction]

/-- **Whatever happens to both leaves them alike.** -/
theorem Alike.step (h : Alike l l') (s : LedgerStep) : Alike (l.step s) (l'.step s) := by
  cases s with
  | update equity =>
      unfold EquityLedger.step
      constructor
      · rw [update_peakEquity, update_peakEquity, h.peakEquity]
      · rfl
      · exact h.sessionStartEquity
      · rw [update_maxDrawdownFraction, update_maxDrawdownFraction, h.maxDrawdownFraction,
          h.peakEquity]
      · rw [update_maxSessionLossFraction, update_maxSessionLossFraction,
          h.maxSessionLossFraction, h.sessionStartEquity]
  | startNewSession => exact { h with sessionStartEquity := h.currentEquity }

theorem Alike.run (h : Alike l l') (steps : List LedgerStep) :
    Alike (l.run steps) (l'.run steps) := by
  unfold EquityLedger.run
  induction steps generalizing l l' with
  | nil => exact h
  | cons s steps ih => exact ih (h.step s)

theorem Alike.exhaustedLimits (h : Alike l l') (maxDailyLoss maxDrawdown : Decimal) :
    l.exhaustedLimits maxDailyLoss maxDrawdown = l'.exhaustedLimits maxDailyLoss maxDrawdown := by
  unfold EquityLedger.exhaustedLimits
  rw [h.maxDrawdownFraction, h.maxSessionLossFraction]

end EquityLedger

/-! ## The recovery of a record -/

section

variable {r : RiskSessionState} {equity : Decimal} {day : Date}

/-- **A record that is about this account is recovered**: carried over, or halted for the
limits that the ledger carried over has exhausted. -/
theorem recoverSession_carried (maxDailyLoss maxDrawdown : Decimal) (hpos : 0 < equity)
    (hschema : r.schemaVersion = sessionSchemaVersion) (hday : r.tradingDay ≤ day) :
    ∃ recovery, recoverSession ⟨some r, none⟩ equity r.openPositionCount day maxDailyLoss
        maxDrawdown = .ok recovery
      ∧ recovery.reasonCodes = (carried r equity day).exhaustedLimits maxDailyLoss maxDrawdown
      ∧ (recovery.reasonCodes = [] → recovery.ledger = carried r equity day) := by
  have hstate : (SessionRecord.mk (some r) none).state = some r := rfl
  obtain ⟨detail, heq⟩ := recoverSession_eq maxDailyLoss maxDrawdown hpos rfl hstate hschema hday rfl
  rw [heq]
  split
  · rename_i hnil
    exact ⟨_, rfl, hnil.symm, fun _ => rfl⟩
  · rename_i hexhausted
    rw [haltedRecovery, EquityLedger.create_fresh hpos]
    exact ⟨_, rfl, rfl, fun hnil => absurd hnil hexhausted⟩

/-- **What a snapshot carries over is the ledger that never stopped.** -/
theorem carried_alike (l : EquityLedger) (canonicalSymbol : String) (tradingDay marketDay : Date)
    (realizedPnl : Decimal) (openRiskFraction : Option Decimal) (openPositionCount : Nat)
    (recordedAtUtc : UtcDatetime) (equity : Decimal) :
    EquityLedger.Alike
      (carried (snapshot l canonicalSymbol tradingDay realizedPnl openRiskFraction
        openPositionCount recordedAtUtc) equity marketDay)
      (l.uninterrupted tradingDay marketDay equity) := by
  unfold carried carriedStart carriedLoss snapshot EquityLedger.uninterrupted
  dsimp only
  by_cases hday : tradingDay = marketDay
  · simp only [if_pos hday]
    constructor
    · rw [EquityLedger.update_peakEquity]
    · rw [EquityLedger.update_currentEquity]
    · rw [EquityLedger.update_sessionStartEquity]
    · rw [EquityLedger.update_maxDrawdownFraction]
    · rw [EquityLedger.update_maxSessionLossFraction]
  · simp only [if_neg hday]
    constructor
    · rw [EquityLedger.update_peakEquity, EquityLedger.startNewSession]
    · rw [EquityLedger.update_currentEquity]
    · rw [EquityLedger.update_sessionStartEquity, EquityLedger.startNewSession]
    · rw [EquityLedger.update_maxDrawdownFraction, EquityLedger.startNewSession]
    · rw [EquityLedger.update_maxSessionLossFraction, EquityLedger.startNewSession]

end

/--
**Recovering from a snapshot simulates the ledger it was taken of.** The recovery halts
for exactly the limits that the uninterrupted ledger has exhausted; if there is none, the
recovered ledger reads as the uninterrupted one does after any further updates and rolls.
-/
theorem recovered_simulates (l : EquityLedger) (canonicalSymbol : String)
    (tradingDay marketDay : Date) (realizedPnl : Decimal) (openRiskFraction : Option Decimal)
    (openPositionCount : Nat) (recordedAtUtc : UtcDatetime)
    (equity maxDailyLoss maxDrawdown : Decimal) (hpos : 0 < equity)
    (hday : tradingDay ≤ marketDay) :
    ∃ recovery, recoverSession ⟨some (snapshot l canonicalSymbol tradingDay realizedPnl
          openRiskFraction openPositionCount recordedAtUtc), none⟩ equity openPositionCount
          marketDay maxDailyLoss maxDrawdown = .ok recovery
      ∧ recovery.reasonCodes
        = (l.uninterrupted tradingDay marketDay equity).exhaustedLimits maxDailyLoss maxDrawdown
      ∧ (recovery.mustHalt = true
        ↔ maxDrawdown ≤ (l.uninterrupted tradingDay marketDay equity).maxDrawdownFraction
          ∨ maxDailyLoss ≤ (l.uninterrupted tradingDay marketDay equity).maxSessionLossFraction)
      ∧ (recovery.mustHalt = false → ∀ steps : List LedgerStep,
        (recovery.ledger.run steps).reading
          = ((l.uninterrupted tradingDay marketDay equity).run steps).reading) := by
  have halike := carried_alike l canonicalSymbol tradingDay marketDay realizedPnl
    openRiskFraction openPositionCount recordedAtUtc equity
  obtain ⟨recovery, hrun, hreasons, hledger⟩ := recoverSession_carried maxDailyLoss maxDrawdown
    hpos (r := snapshot l canonicalSymbol tradingDay realizedPnl openRiskFraction
      openPositionCount recordedAtUtc) rfl hday
  rw [halike.exhaustedLimits] at hreasons
  refine ⟨recovery, hrun, hreasons, ?_, fun hruns steps => ?_⟩
  · unfold SessionRecovery.mustHalt
    rw [hreasons, decide_eq_true_eq, EquityLedger.exhaustedLimits]
    split <;> split <;> simp [*]
  · have hnone : recovery.reasonCodes = [] := by
      simpa [SessionRecovery.mustHalt] using hruns
    rw [hledger hnone]
    exact (halike.run steps).reading

namespace Sample

/-- A ledger that has risen by a tenth and given half of it back. -/
def risen : EquityLedger := ((EquityLedger.fresh 1000).update 1100).update 1050

end Sample

open Sample in
/-- The next day, at a further loss. -/
theorem recovered_simulates_sample :
    ∃ recovery, recoverSession ⟨some (snapshot risen "EUR/USD" 20704 50 (some 0) 0
          (days 20704)), none⟩ 1040 0 20705 ⟨30, -3⟩ ⟨100, -3⟩ = .ok recovery
      ∧ recovery.reasonCodes
        = (risen.uninterrupted 20704 20705 1040).exhaustedLimits ⟨30, -3⟩ ⟨100, -3⟩
      ∧ (recovery.mustHalt = true
        ↔ (⟨100, -3⟩ : Decimal) ≤ (risen.uninterrupted 20704 20705 1040).maxDrawdownFraction
          ∨ (⟨30, -3⟩ : Decimal) ≤ (risen.uninterrupted 20704 20705 1040).maxSessionLossFraction)
      ∧ (recovery.mustHalt = false → ∀ steps : List LedgerStep,
        (recovery.ledger.run steps).reading
          = ((risen.uninterrupted 20704 20705 1040).run steps).reading) :=
  recovered_simulates risen "EUR/USD" 20704 20705 50 (some 0) 0 (days 20704) 1040 ⟨30, -3⟩
    ⟨100, -3⟩ (by decide) (by decide)

end Crumblr
