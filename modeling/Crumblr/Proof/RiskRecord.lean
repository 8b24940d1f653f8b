import Crumblr.Lib.Table
import Crumblr.Proof.RiskSession

/-!
# What cycles do to the risk record

A cycle appends the ledger it recovered, marked with the equities it saw. Marks only
widen a ledger, so a cycle loosens the record only when it did not recover from it:
a recovery that halts, or that never got the lock, leaves a fresh ledger behind, and
the cycle persists that.
-/

namespace Crumblr

open Table (Extends)

/-- The later record gives no more room than the earlier one. -/
structure NoLooser (r r' : RiskSessionState) : Prop where
  peak : r.peakEquity ≤ r'.peakEquity
  drawdown : r.maxDrawdownFraction ≤ r'.maxDrawdownFraction
  sessionLoss : r'.tradingDay = r.tradingDay →
    r.maxSessionLossFraction ≤ r'.maxSessionLossFraction
  sessionStart : r'.tradingDay = r.tradingDay → r'.sessionStartEquity = r.sessionStartEquity

/-- The ledger has forgotten nothing the record says. -/
structure Retains (l : EquityLedger) (day : Date) (r : RiskSessionState) : Prop where
  peak : r.peakEquity ≤ l.peakEquity
  drawdown : r.maxDrawdownFraction ≤ l.maxDrawdownFraction
  sessionLoss : day = r.tradingDay → r.maxSessionLossFraction ≤ l.maxSessionLossFraction
  sessionStart : day = r.tradingDay → l.sessionStartEquity = r.sessionStartEquity

section

variable {l : EquityLedger} {day : Date} {r : RiskSessionState} {e : Decimal}

/-- **Marks only widen a ledger.** -/
theorem Retains.update (h : Retains l day r) (e : Decimal) : Retains (l.update e) day r where
  peak := le_trans h.peak Decimal.le_max_left
  drawdown := by
    rw [EquityLedger.update_maxDrawdownFraction]
    exact le_trans h.drawdown Decimal.le_max_left
  sessionLoss := fun hday => by
    rw [EquityLedger.update_maxSessionLossFraction]
    exact le_trans (h.sessionLoss hday) Decimal.le_max_left
  sessionStart := h.sessionStart

theorem Retains.noLooser {symbol : String} {pnl : Decimal} {openRisk : Option Decimal} {n : Nat}
    {now : UtcDatetime} (h : Retains l day r) :
    NoLooser r (snapshot l symbol day pnl openRisk n now) :=
  ⟨h.peak, h.drawdown, h.sessionLoss, h.sessionStart⟩

theorem retains_snapshot {symbol : String} {pnl : Decimal} {openRisk : Option Decimal} {n : Nat}
    {now : UtcDatetime} : Retains l day (snapshot l symbol day pnl openRisk n now) :=
  ⟨le_refl _, le_refl _, fun _ => le_refl _, fun _ => rfl⟩

theorem retains_carried : Retains (carried r e day) day r where
  peak := Decimal.le_max_left
  drawdown := Decimal.le_max_left
  sessionLoss := fun hday => by
    have hcarry : carriedLoss r day = r.maxSessionLossFraction := if_pos hday.symm
    rw [← hcarry]
    exact Decimal.le_max_left
  sessionStart := fun hday => if_pos hday.symm

end

/-! ## The condition on a cycle -/

section

variable {rows rows' : RiskSessionStates} {symbol : String}

/-- The row a market recovers from. -/
def lastRow (rows : RiskSessionStates) (symbol : String) : Option RiskSessionState :=
  (rows.forSymbol symbol).getLast?

/-- A record that could be recovered from is the one the query returns. -/
theorem loadLatest_state {failure : Option PyError} {r : RiskSessionState}
    (h : lastRow rows symbol = some r)
    (hread : (rows.loadLatest symbol failure).unreadable = none) :
    (rows.loadLatest symbol failure).state = some r := by
  unfold lastRow at h
  unfold RiskSessionStates.loadLatest at hread ⊢
  cases failure with
  | some error => cases hread
  | none =>
      simp only [h] at hread ⊢
      split
      · rename_i hschema
        rw [if_pos hschema] at hread
        cases hread
      · rfl

theorem loadLatest_mem {failure : Option PyError} {r : RiskSessionState}
    (h : (rows.loadLatest symbol failure).state = some r) : lastRow rows symbol = some r := by
  unfold RiskSessionStates.loadLatest at h
  unfold lastRow
  split at h
  · cases h
  · split at h
    · cases h
    · rename_i row hrow
      split at h
      · cases h
      · rw [hrow]
        exact h

/-- A live cycle that writes recovers from the record, if there is one. -/
def LiveDecisionOrchestrator.Carries (self : LiveDecisionOrchestrator) (rows : RiskSessionStates)
    (c : LiveCycle) : Prop :=
  c.lockFailure = none → c.tripFailure = none → c.saveFailure = none → 0 < c.equity →
    ∀ r, lastRow rows self.canonicalSymbol = some r →
      Recoverable (rows.loadLatest self.canonicalSymbol c.loadFailure) r c.equity c.livePositions
        c.marketDay self.riskConfig.maxDailyLoss.val self.riskConfig.maxDrawdown.val

/-- Some attempt to persist succeeds before one raises. -/
def saves : List PaperPersist → Bool
  | [] => false
  | p :: ps => p.saveFailure.isNone || (p.tripFailure.isNone && saves ps)

/-- A paper cycle that writes recovers from the record, if there is one. -/
def PaperLiteOrchestrator.Carries (self : PaperLiteOrchestrator) (rows : RiskSessionStates)
    (c : PaperCycle) : Prop :=
  c.tripFailure = none → 0 < c.equity → c.advance = .done → saves c.persists = true →
    ∀ r, lastRow rows self.canonicalSymbol = some r →
      c.lockFailure = none
        ∧ Recoverable (rows.loadLatest self.canonicalSymbol c.loadFailure) r c.equity c.positions
          c.marketDay self.riskConfig.maxDailyLoss.val self.riskConfig.maxDrawdown.val

namespace SessionCycle

/-- The condition on one cycle, in the state it starts from. -/
def Carries (rows : RiskSessionStates) : SessionCycle → Prop
  | live orchestrator c => orchestrator.Carries rows c
  | paper orchestrator c => orchestrator.Carries rows c

/-- Every cycle meets the condition in the state it starts from. -/
def AllCarry : RiskSessionStates → List SessionCycle → Prop
  | _, [] => True
  | rows, c :: cs => c.Carries rows ∧ AllCarry (c.run rows) cs

end SessionCycle

/-! ## One cycle -/

/-- **Appending a ledger that keeps the last row extends the record.** -/
theorem extends_snapshot {l : EquityLedger} {day : Date} {pnl : Decimal}
    {openRisk : Option Decimal} {n : Nat} {now : UtcDatetime} {s : String}
    (h : ∀ r, lastRow rows s = some r → Retains l day r) :
    Extends NoLooser (rows.forSymbol symbol)
      (RiskSessionStates.forSymbol (rows ++ [snapshot l s day pnl openRisk n now]) symbol) := by
  rw [RiskSessionStates.forSymbol_append]
  split
  · rename_i hs
    subst hs
    exact Extends.append fun r hr => (h r hr).noLooser
  · exact Extends.refl _

/-- **A ledger recovered from the record keeps its last row**, if a recovery that halts
could have resumed. -/
theorem retains_recovered {equity maxDailyLoss maxDrawdown : Decimal} {positions : Nat}
    {day : Date} {recovery : SessionRecovery} {failure : Option PyError}
    (hr : Recovered (rows.loadLatest symbol failure) equity positions day maxDailyLoss
      maxDrawdown recovery)
    (hcarry : recovery.mustHalt = true → ∀ r, lastRow rows symbol = some r →
      Recoverable (rows.loadLatest symbol failure) r equity positions day maxDailyLoss
        maxDrawdown) :
    ∀ r, lastRow rows symbol = some r → Retains recovery.ledger day r := by
  intro r hlast
  cases hr with
  | resumed r' hstate _ hledger _ =>
      obtain rfl : r = r' := Option.some.inj (hlast.symm.trans (loadLatest_mem hstate))
      rw [hledger]
      exact retains_carried
  | afresh hlost _ why =>
      exfalso
      rcases why with hhalt | ⟨hread, hnone⟩
      · have hrec := hcarry hhalt r hlast
        exact hlost r (loadLatest_state hlast hrec.readable) hrec
      · rw [loadLatest_state hlast hread] at hnone
        cases hnone

/-- **A live cycle extends the record.** -/
theorem LiveDecisionOrchestrator.extends_decideOnce {self : LiveDecisionOrchestrator}
    {c : LiveCycle} (h : self.Carries rows c) :
    Extends NoLooser (rows.forSymbol symbol) ((self.decideOnce rows c).forSymbol symbol) := by
  unfold LiveDecisionOrchestrator.decideOnce
  cases hrun : self.recoverUpdatePersist rows c with
  | error e => exact Extends.refl _
  | ok rows' =>
      obtain ⟨_, hlock, hrun⟩ := bind_ok hrun
      obtain ⟨recovery, hrecover, hpersist⟩ := bind_ok hrun
      obtain ⟨recovery', hsession, hrest⟩ := bind_ok hrecover
      obtain ⟨hpos, hday, hrecovered⟩ := recoverSession_cases hsession
      obtain ⟨rfl, htrip⟩ : recovery' = recovery
          ∧ (recovery'.mustHalt = true → c.tripFailure = none) := by
        split at hrest
        · obtain ⟨_, hraise, hret⟩ := bind_ok hrest
          exact ⟨Except.ok.inj hret, fun _ => raising_ok hraise⟩
        · rename_i hruns
          exact ⟨Except.ok.inj hrest, fun hhalt => absurd hhalt hruns⟩
      unfold LiveDecisionOrchestrator.persistSession at hpersist
      rw [hday] at hpersist
      obtain ⟨hsave, rfl⟩ := RiskSessionStates.save_ok hpersist
      have hkeeps := retains_recovered hrecovered fun hhalt =>
        h (raising_ok hlock) (htrip hhalt) hsave hpos
      exact extends_snapshot fun r hr => (hkeeps r hr).update _

/-! ### Paper cycles -/

namespace PaperLiteOrchestrator

variable {self self' : PaperLiteOrchestrator} {c : PaperCycle} {day : Date}
  {ledger : EquityLedger}

/-- The process remembers this ledger of this day. -/
structure Remembers (process : PaperLiteOrchestrator) (ledger : EquityLedger) (day : Date) :
    Prop where
  ledger : process.riskLedger = some ledger
  day : process.riskTradingDay = some day

/-- A recovery that gives up could have resumed. -/
def CouldResume (self : PaperLiteOrchestrator) (rows : RiskSessionStates) (c : PaperCycle) :
    Prop :=
  c.tripFailure = none → 0 < c.equity → ∀ r, lastRow rows self.canonicalSymbol = some r →
    c.lockFailure = none
      ∧ Recoverable (rows.loadLatest self.canonicalSymbol c.loadFailure) r c.equity c.positions
        c.marketDay self.riskConfig.maxDailyLoss.val self.riskConfig.maxDrawdown.val

/-- **A paper recovery remembers a ledger**, and one that keeps the record unless it gave
up on a record it could not resume from. -/
theorem recoverRiskSession_remembers {h : self.hasMarketObservation = true}
    (hrun : self.recoverRiskSession h rows c = (self', none)) :
    ∃ ledger, self'.Remembers ledger c.marketDay ∧ self'.canonicalSymbol = self.canonicalSymbol
      ∧ (self.CouldResume rows c →
        ∀ r, lastRow rows self.canonicalSymbol = some r → Retains ledger c.marketDay r) := by
  -- a fresh ledger is remembered where a recovery would not have resumed
  have hafresh : ∀ {ledger : EquityLedger}, EquityLedger.create c.equity = .ok ledger →
      (self.remember h ledger (some c.marketDay), c.tripFailure) = (self', none) →
      (∀ r, lastRow rows self.canonicalSymbol = some r → c.lockFailure = none →
        ¬ Recoverable (rows.loadLatest self.canonicalSymbol c.loadFailure) r c.equity
          c.positions c.marketDay self.riskConfig.maxDailyLoss.val
          self.riskConfig.maxDrawdown.val) →
      ∃ ledger, self'.Remembers ledger c.marketDay ∧ self'.canonicalSymbol = self.canonicalSymbol
        ∧ (self.CouldResume rows c →
          ∀ r, lastRow rows self.canonicalSymbol = some r → Retains ledger c.marketDay r) := by
    intro ledger hcreate heq hlost
    obtain ⟨rfl, htrip⟩ := Prod.mk.inj heq
    refine ⟨ledger, ⟨rfl, rfl⟩, rfl, fun hcould r hr => ?_⟩
    obtain ⟨hlock, hrec⟩ := hcould htrip (EquityLedger.create_ok hcreate).1 r hr
    exact absurd hrec (hlost r hr hlock)
  unfold recoverRiskSession at hrun
  dsimp only at hrun
  split at hrun
  · rename_i hlock
    cases hcreate : EquityLedger.create c.equity with
    | error e => rw [hcreate] at hrun; cases (Prod.mk.inj hrun).2
    | ok ledger =>
        rw [hcreate] at hrun
        refine hafresh hcreate hrun fun r _ hnone => ?_
        rw [hnone] at hlock
        cases hlock
  rename_i hlock
  split at hrun
  · rename_i habsent
    cases hcreate : EquityLedger.create c.equity with
    | error e => rw [hcreate] at hrun; cases (Prod.mk.inj hrun).2
    | ok ledger =>
        rw [hcreate] at hrun
        refine hafresh hcreate hrun fun r hr _ hrec => ?_
        rw [loadLatest_state hr hrec.readable] at habsent
        cases habsent.2.1
  · cases hsession : recoverSession (rows.loadLatest self.canonicalSymbol c.loadFailure) c.equity
        c.positions c.marketDay self.riskConfig.maxDailyLoss.val
        self.riskConfig.maxDrawdown.val with
    | error e => rw [hsession] at hrun; cases (Prod.mk.inj hrun).2
    | ok recovery =>
        rw [hsession] at hrun
        obtain ⟨hpos, hday, hrecovered⟩ := recoverSession_cases hsession
        obtain ⟨rfl, herror⟩ := Prod.mk.inj hrun
        refine ⟨recovery.ledger, ⟨rfl, hday⟩, rfl, fun hcould => ?_⟩
        refine retains_recovered hrecovered fun hhalt r hr => (hcould ?_ hpos r hr).2
        rwa [if_pos hhalt] at herror

/-- A process that remembers a session appends it marked, or fails to. -/
theorem persistRiskSession_remembers (hmem : self.Remembers ledger day) {at' : UtcDatetime}
    (hat : self.riskRecordedAt = some at') (p : PaperPersist) :
    self.persistRiskSession rows p = (self.mark p.equity,
      if p.saveFailure.isNone then rows ++ [snapshot (ledger.update p.equity)
        self.canonicalSymbol day p.realizedProfit p.openRiskFraction p.positions at'] else rows,
      if p.saveFailure.isNone then none else p.tripFailure) := by
  unfold persistRiskSession
  rw [hmem.ledger, hmem.day, hat]
  dsimp only [RiskSessionStates.save]
  cases p.saveFailure <;> rfl

theorem Remembers.mark (h : self.Remembers ledger day) (e : Decimal) :
    (self.mark e).Remembers (ledger.update e) day :=
  ⟨by simp [PaperLiteOrchestrator.mark, h.ledger], h.day⟩

/-- **However often it persists, a process that keeps the record extends it.** -/
theorem extends_persistAll (ps : List PaperPersist) (hmem : self.Remembers ledger day)
    {at' : UtcDatetime} (hat : self.riskRecordedAt = some at')
    (hkeep : ∀ r, lastRow rows self.canonicalSymbol = some r → Retains ledger day r) :
    Extends NoLooser (rows.forSymbol symbol) ((self.persistAll rows ps).2.1.forSymbol symbol) := by
  induction ps generalizing self rows ledger with
  | nil => exact Extends.refl _
  | cons p ps ih =>
      unfold persistAll
      rw [persistRiskSession_remembers hmem hat]
      cases hsave : p.saveFailure with
      | none =>
          simp only [Option.isNone_none, if_true]
          have hstep : Extends NoLooser (rows.forSymbol symbol)
              (RiskSessionStates.forSymbol (rows ++ [snapshot (ledger.update p.equity)
                self.canonicalSymbol day p.realizedProfit p.openRiskFraction p.positions at'])
                symbol) :=
            extends_snapshot fun r hr => (hkeep r hr).update p.equity
          refine hstep.trans (ih (hmem.mark p.equity) hat fun r hr => ?_)
          -- the last row is the ledger as it was just marked
          unfold lastRow at hr
          rw [RiskSessionStates.forSymbol_append, if_pos (by rfl), List.getLast?_concat] at hr
          cases hr
          exact retains_snapshot
      | some error =>
          simp only [Option.isNone_some, Bool.false_eq_true, if_false]
          cases p.tripFailure with
          | none => exact ih (hmem.mark p.equity) hat fun r hr => (hkeep r hr).update p.equity
          | some error => exact Extends.refl _

/-- A process that saves nothing leaves the record alone. -/
theorem persistAll_unsaved (ps : List PaperPersist) (hmem : self.Remembers ledger day)
    {at' : UtcDatetime} (hat : self.riskRecordedAt = some at') (hsaves : saves ps = false) :
    (self.persistAll rows ps).2.1 = rows := by
  induction ps generalizing self ledger with
  | nil => rfl
  | cons p ps ih =>
      unfold saves at hsaves
      rw [Bool.or_eq_false_iff, Bool.and_eq_false_iff] at hsaves
      obtain ⟨hsave, hrest⟩ := hsaves
      unfold persistAll
      rw [persistRiskSession_remembers hmem hat, hsave]
      simp only [Bool.false_eq_true, if_false]
      cases htrip : p.tripFailure with
      | none =>
          rcases hrest with hnone | hrest
          · rw [htrip] at hnone
            cases hnone
          · exact ih (hmem.mark p.equity) hat hrest
      | some error => rfl

/-- A session that is remembered is not recovered again. -/
theorem processObserved_remembered (h : self.hasMarketObservation = true)
    (hledger : self.riskLedger = some ledger) :
    self.processObserved h rows c
      = { self with riskRecordedAt := some c.receivedTimeUtc }.persistAll rows c.persists := by
  have hsome : self.riskLedger.isNone = false := by
    rw [hledger]
    rfl
  unfold processObserved
  simp only [hsome, Bool.false_eq_true, if_false]

/-- What a process call leaves on record it persists from a session it recovered. -/
theorem process_cases :
    (self.process rows c).2.1 = rows
      ∨ c.advance = .done ∧ ∃ (before after memory : PaperLiteOrchestrator)
          (h : before.hasMarketObservation = true),
        before.canonicalSymbol = self.canonicalSymbol ∧ before.riskConfig = self.riskConfig
          ∧ before.recoverRiskSession h rows c = (after, none)
          ∧ memory.riskLedger = after.riskLedger ∧ memory.riskTradingDay = after.riskTradingDay
          ∧ memory.canonicalSymbol = after.canonicalSymbol
          ∧ memory.riskRecordedAt = some c.receivedTimeUtc
          ∧ (self.process rows c).2.1 = (memory.persistAll rows c.persists).2.1 := by
  unfold process
  by_cases hobs : self.hasMarketObservation = true
  · rw [dif_pos hobs]
    cases hrun : self.recoverRiskSession hobs rows c with
    | mk after error =>
        cases error with
        | some error => exact .inl rfl
        | none =>
            obtain ⟨ledger, hmem, -⟩ := recoverRiskSession_remembers hrun
            cases hadvance : c.advance with
            | unrecorded error => exact .inl rfl
            | interrupted error => exact .inl rfl
            | done =>
                -- the session is remembered already, so it is not recovered again
                have hsome : after.observe.riskLedger = some ledger := hmem.ledger
                refine .inr ⟨rfl, self, after,
                  { after.observe with riskRecordedAt := some c.receivedTimeUtc }, hobs,
                  rfl, rfl, hrun, rfl, rfl, rfl, rfl, ?_⟩
                rw [← processObserved_remembered rfl hsome]
  · rw [dif_neg hobs]
    have hnone : self.observe.riskLedger = none := by
      cases hledger : self.riskLedger with
      | none => exact hledger
      | some ledger => exact absurd (self.observed (by rw [hledger]; rfl)) hobs
    cases hadvance : c.advance with
    | unrecorded error => exact .inl rfl
    | interrupted error => exact .inl rfl
    | done =>
        have hisNone : self.observe.riskLedger.isNone = true := by
          rw [hnone]
          rfl
        dsimp only
        unfold processObserved
        simp only [hisNone, if_true]
        cases hrun : self.observe.recoverRiskSession rfl rows c with
        | mk after error =>
            cases error with
            | some error => exact .inl rfl
            | none =>
                exact .inr ⟨trivial, self.observe, after,
                  { after with riskRecordedAt := some c.receivedTimeUtc }, rfl,
                  rfl, rfl, hrun, rfl, rfl, rfl, rfl, rfl⟩

/-- **A paper cycle extends the record.** -/
theorem extends_process (h : self.Carries rows c) :
    Extends NoLooser (rows.forSymbol symbol) ((self.process rows c).2.1.forSymbol symbol) := by
  rcases (process_cases : (self.process rows c).2.1 = rows ∨ _) with
    heq | ⟨hadvance, before, after, memory, hobs, hsym, hconfig, hrun, hledger, hday, hsym', hat,
      heq⟩
  · rw [heq]
    exact Extends.refl _
  · rw [heq]
    obtain ⟨ledger, hmem, hsame, hkeep⟩ := recoverRiskSession_remembers hrun
    have hmem' : memory.Remembers ledger c.marketDay :=
      ⟨hledger.trans hmem.ledger, hday.trans hmem.day⟩
    cases hsaves : saves c.persists with
    | false =>
        rw [persistAll_unsaved c.persists hmem' hat hsaves]
        exact Extends.refl _
    | true =>
        refine extends_persistAll c.persists hmem' hat ?_
        rw [hsym', hsame]
        refine hkeep ?_
        unfold CouldResume
        rw [hsym, hconfig]
        exact fun htrip hpos r hr => h htrip hpos hadvance hsaves r hr

end PaperLiteOrchestrator

/-! ## Every run -/

/-- **The risk record never loosens** in cycles that recover from it: whatever they see
and whatever fails, each row a market gains gives no more room than the one before. -/
theorem record_never_loosens {cycles : List SessionCycle}
    (h : SessionCycle.AllCarry rows cycles) (symbol : String) :
    Extends NoLooser (rows.forSymbol symbol)
      ((SessionCycle.runAll rows cycles).forSymbol symbol) := by
  induction cycles generalizing rows with
  | nil => exact Extends.refl _
  | cons c cs ih =>
      obtain ⟨hc, hcs⟩ := h
      have hstep : Extends NoLooser (rows.forSymbol symbol) ((c.run rows).forSymbol symbol) := by
        cases c with
        | live orchestrator c => exact LiveDecisionOrchestrator.extends_decideOnce hc
        | paper orchestrator c => exact PaperLiteOrchestrator.extends_process hc
      exact hstep.trans (ih hcs)

end

/-! ## A record that is kept, and one that is lost -/

namespace Sample

/-- Limits of three and ten percent. -/
def ledgerLimits : RiskConfig where
  maxRiskPerTrade := ⟨⟨10, -3⟩, by decide⟩
  maxOpenRisk := ⟨⟨20, -3⟩, by decide⟩
  maxDailyLoss := ⟨⟨30, -3⟩, by decide⟩
  maxDrawdown := ⟨⟨100, -3⟩, by decide⟩
  maxOrdersPerHour := 5
  maxOpenPositions := 3
  minStopDistancePoints := 10
  approvedConfigVersion := none
  budgetOrdering := by decide

/-- One percent lost since the day's start, which was the peak. -/
def recorded : RiskSessionState where
  canonicalSymbol := "EUR/USD"
  tradingDay := 20704
  sessionStartEquity := 1000
  currentEquity := 990
  peakEquity := 1000
  realizedPnl := ⟨-10, 0⟩
  maxDrawdownFraction := ⟨1, -2⟩
  maxSessionLossFraction := ⟨1, -2⟩
  openRiskFraction := some 0
  openPositionCount := 0
  recordedAtUtc := days 20704
  schemaVersion := 1

/-- A live cycle that finds the given number of positions. -/
def liveCycle (positions : Nat) : SessionCycle :=
  .live ⟨"EUR/USD", ledgerLimits⟩ {
    equity := 995
    positions
    livePositions := positions
    openRiskFraction := some 0
    marketDay := 20704
    now := days 20704 + hours 1
    lockFailure := none
    loadFailure := none
    tripFailure := none
    saveFailure := none }

/-- A paper cycle of a process that has just started. -/
def paperCycle : SessionCycle :=
  .paper {
      canonicalSymbol := "EUR/USD"
      riskConfig := ledgerLimits
      hasMarketObservation := true
      riskLedger := none
      riskTradingDay := none
      riskRecordedAt := none
      observed := fun _ => rfl }
    { equity := 985
      positions := 0
      marketDay := 20704
      receivedTimeUtc := days 20704 + hours 2
      lockFailure := none
      loadFailure := none
      tripFailure := none
      advance := .done
      persists := [⟨980, 0, some 0, 0, none, none⟩] }

/-- What a live cycle that halts puts on record. -/
def forgotten : RiskSessionState :=
  snapshot ((EquityLedger.fresh 995).update 995) "EUR/USD" 20704 0 (some 0) 1
    (days 20704 + hours 1)

end Sample

open Sample in
theorem record_never_loosens_sample :
    Extends NoLooser (RiskSessionStates.forSymbol [recorded] "EUR/USD")
      (RiskSessionStates.forSymbol (SessionCycle.runAll [recorded] [liveCycle 0, paperCycle])
        "EUR/USD") := by
  have hlive : (lastRow [recorded] "EUR/USD").all (fun r => decide (Recoverable
      (RiskSessionStates.loadLatest [recorded] "EUR/USD" none) r 995 0 20704
      ledgerLimits.maxDailyLoss.val ledgerLimits.maxDrawdown.val)) = true := by decide +kernel
  have hpaper : (lastRow ((liveCycle 0).run [recorded]) "EUR/USD").all (fun r =>
      decide (Recoverable (((liveCycle 0).run [recorded]).loadLatest "EUR/USD" none) r 985 0
        20704 ledgerLimits.maxDailyLoss.val ledgerLimits.maxDrawdown.val)) = true := by
    decide +kernel
  have hcarry : SessionCycle.AllCarry [recorded] [liveCycle 0, paperCycle] :=
    ⟨fun _ _ _ _ r hr => of_decide_eq_true ((Option.all_eq_true _ _).mp hlive r hr),
      fun _ _ _ _ r hr => ⟨rfl, of_decide_eq_true ((Option.all_eq_true _ _).mp hpaper r hr)⟩,
      trivial⟩
  exact record_never_loosens hcarry "EUR/USD"

open Sample in
/-- Two sources that disagree about a position make the cycle halt, and the loss it had on
record is gone. -/
theorem record_loosened :
    ¬ ∀ (rows : RiskSessionStates) (cycles : List SessionCycle) (symbol : String),
      Extends NoLooser (rows.forSymbol symbol)
        ((SessionCycle.runAll rows cycles).forSymbol symbol) := by
  intro h
  have hrun : RiskSessionStates.forSymbol (SessionCycle.runAll [recorded] [liveCycle 1]) "EUR/USD"
      = [recorded] ++ [forgotten] := by decide +kernel
  have hbefore : RiskSessionStates.forSymbol [recorded] "EUR/USD" = [recorded] := by
    decide +kernel
  have hloose := h [recorded] [liveCycle 1] "EUR/USD"
  rw [hrun, hbefore] at hloose
  have hdrawdown : ¬ recorded.maxDrawdownFraction ≤ forgotten.maxDrawdownFraction := by
    decide +kernel
  exact hdrawdown (hloose.rel (by decide +kernel)).drawdown

end Crumblr
