import Crumblr.Application.SessionCycles

/-!
# A recovered session and the record it came from

A recovery that resumes carries every worst value of the record over and can only
widen it. Any other recovery starts a ledger afresh at the live equity, whatever the
record says.
-/

namespace Crumblr

/-- How far a value has fallen, as a fraction of where it fell from. -/
def fallFrom (top current : Decimal) : Decimal :=
  if top ≤ 0 then 0 else Decimal.max 0 ((top - current) / top)

namespace EquityLedger

variable {l : EquityLedger} {e : Decimal}

/-- A ledger that has seen nothing but the equity it starts at. -/
def fresh (equity : Decimal) : EquityLedger where
  startingEquity := equity
  peakEquity := equity
  currentEquity := equity
  sessionStartEquity := equity
  maxDrawdownFraction := 0
  maxSessionLossFraction := 0

theorem create_ok (h : create e = .ok l) : 0 < e ∧ l = fresh e := by
  unfold create at h
  split at h
  · cases h
  · rename_i hpos
    refine ⟨?_, (Except.ok.inj h).symm⟩
    by_contra hlt
    exact hpos (Decimal.not_lt.mp hlt)

theorem create_fresh (h : 0 < e) : create e = .ok (fresh e) := by
  unfold create
  rw [if_neg fun hle => Decimal.not_lt.mpr hle h]
  rfl

theorem create_error (h : e ≤ 0) :
    create e = .error ⟨.value, "starting equity must be positive"⟩ := if_pos h

/-! ## What a mark does to each value -/

@[simp] theorem update_currentEquity : (l.update e).currentEquity = e := rfl

@[simp] theorem update_peakEquity : (l.update e).peakEquity = l.peakEquity.max e := rfl

@[simp] theorem update_sessionStartEquity :
    (l.update e).sessionStartEquity = l.sessionStartEquity := rfl

@[simp] theorem update_startingEquity : (l.update e).startingEquity = l.startingEquity := rfl

@[simp] theorem update_maxDrawdownFraction :
    (l.update e).maxDrawdownFraction
      = l.maxDrawdownFraction.max (fallFrom (l.peakEquity.max e) e) := by
  simp only [update, drawdownFraction, fallFrom]

@[simp] theorem update_maxSessionLossFraction :
    (l.update e).maxSessionLossFraction
      = l.maxSessionLossFraction.max (fallFrom l.sessionStartEquity e) := by
  simp only [update, sessionLossFraction, fallFrom]

end EquityLedger

/-! ## What a recovery resumes -/

section

variable {record : SessionRecord} {r : RiskSessionState} {equity : Decimal} {positions : Nat}
  {day : Date} {maxDailyLoss maxDrawdown : Decimal} {recovery : SessionRecovery}

/-- The baseline a recovered session measures its losses from. -/
def carriedStart (r : RiskSessionState) (day : Date) : Decimal :=
  if r.tradingDay = day then r.sessionStartEquity else r.currentEquity

/-- The session loss a recovery carries over. -/
def carriedLoss (r : RiskSessionState) (day : Date) : Decimal :=
  if r.tradingDay = day then r.maxSessionLossFraction else 0

/-- The record can be read and is about this account, and neither it nor the live
account has exhausted a limit. -/
structure Recoverable (record : SessionRecord) (r : RiskSessionState) (equity : Decimal)
    (positions : Nat) (day : Date) (maxDailyLoss maxDrawdown : Decimal) : Prop where
  readable : record.unreadable = none
  schema : r.schemaVersion = sessionSchemaVersion
  notAhead : r.tradingDay ≤ day
  agreed : r.openPositionCount = positions
  drawdown : r.maxDrawdownFraction < maxDrawdown
  liveDrawdown : fallFrom (r.peakEquity.max equity) equity < maxDrawdown
  loss : carriedLoss r day < maxDailyLoss
  liveLoss : fallFrom (carriedStart r day) equity < maxDailyLoss

instance : Decidable (Recoverable record r equity positions day maxDailyLoss maxDrawdown) :=
  decidable_of_iff (record.unreadable = none ∧ r.schemaVersion = sessionSchemaVersion
      ∧ r.tradingDay ≤ day ∧ r.openPositionCount = positions
      ∧ r.maxDrawdownFraction < maxDrawdown
      ∧ fallFrom (r.peakEquity.max equity) equity < maxDrawdown
      ∧ carriedLoss r day < maxDailyLoss ∧ fallFrom (carriedStart r day) equity < maxDailyLoss)
    ⟨fun ⟨h₁, h₂, h₃, h₄, h₅, h₆, h₇, h₈⟩ => ⟨h₁, h₂, h₃, h₄, h₅, h₆, h₇, h₈⟩,
      fun h => ⟨h.1, h.2, h.3, h.4, h.5, h.6, h.7, h.8⟩⟩

/-- The ledger a resumed session goes on with. -/
def carried (r : RiskSessionState) (equity : Decimal) (day : Date) : EquityLedger where
  startingEquity := equity
  peakEquity := r.peakEquity.max equity
  currentEquity := equity
  sessionStartEquity := carriedStart r day
  maxDrawdownFraction :=
    r.maxDrawdownFraction.max (fallFrom (r.peakEquity.max equity) equity)
  maxSessionLossFraction := (carriedLoss r day).max (fallFrom (carriedStart r day) equity)

theorem resumed_carried (h : 0 < equity) :
    EquityLedger.resumed equity (carriedStart r day) equity (r.peakEquity.max equity)
      r.maxDrawdownFraction (carriedLoss r day) = .ok (carried r equity day) := by
  unfold EquityLedger.resumed
  rw [EquityLedger.create_fresh h]
  have hpeak : (r.peakEquity.max equity).max equity = r.peakEquity.max equity :=
    Decimal.max_eq_left Decimal.le_max_right
  refine congrArg Except.ok ?_
  simp only [EquityLedger.update, EquityLedger.drawdownFraction,
    EquityLedger.sessionLossFraction, hpeak]
  rfl

theorem haltedRecovery_ok {reasons : List ReasonCode} {detail : String}
    (h : haltedRecovery equity day reasons detail = .ok recovery) (hne : reasons ≠ []) :
    0 < equity ∧ recovery.ledger = .fresh equity ∧ recovery.tradingDay = some day
      ∧ recovery.mustHalt = true := by
  unfold haltedRecovery at h
  cases hc : EquityLedger.create equity with
  | error e => rw [hc] at h; cases h
  | ok ledger =>
      rw [hc] at h
      cases h
      obtain ⟨hpos, rfl⟩ := EquityLedger.create_ok hc
      exact ⟨hpos, rfl, rfl, by simp [SessionRecovery.mustHalt, hne]⟩

/-- What a recovery comes to: the recorded session carried over, or a fresh ledger, on a
first start or halted. -/
inductive Recovered (record : SessionRecord) (equity : Decimal) (positions : Nat) (day : Date)
    (maxDailyLoss maxDrawdown : Decimal) (recovery : SessionRecovery) : Prop where
  | resumed (r : RiskSessionState) (recorded : record.state = some r)
      (recoverable : Recoverable record r equity positions day maxDailyLoss maxDrawdown)
      (ledger : recovery.ledger = carried r equity day) (runs : recovery.mustHalt = false)
  | afresh (lost : ∀ r, record.state = some r →
        ¬ Recoverable record r equity positions day maxDailyLoss maxDrawdown)
      (ledger : recovery.ledger = .fresh equity)
      (why : recovery.mustHalt = true ∨ record.unreadable = none ∧ record.state = none)

/-- A halt is a recovery of nothing. -/
theorem recovered_halted {reasons : List ReasonCode} {detail : String}
    (h : haltedRecovery equity day reasons detail = .ok recovery) (hne : reasons ≠ [])
    (hlost : ∀ r, record.state = some r →
      ¬ Recoverable record r equity positions day maxDailyLoss maxDrawdown) :
    0 < equity ∧ recovery.tradingDay = some day
      ∧ Recovered record equity positions day maxDailyLoss maxDrawdown recovery := by
  obtain ⟨hpos, hledger, hday, hhalt⟩ := haltedRecovery_ok h hne
  exact ⟨hpos, hday, .afresh hlost hledger (.inl hhalt)⟩

/-- The limits the carried ledger has exhausted. -/
def exhausted (r : RiskSessionState) (equity : Decimal) (day : Date)
    (maxDailyLoss maxDrawdown : Decimal) : List ReasonCode :=
  (if maxDrawdown ≤ (carried r equity day).maxDrawdownFraction then [.maxDrawdown] else [])
    ++ (if maxDailyLoss ≤ (carried r equity day).maxSessionLossFraction then [.dailyLossLimit]
        else [])

theorem exhausted_eq_nil : exhausted r equity day maxDailyLoss maxDrawdown = []
    ↔ (r.maxDrawdownFraction < maxDrawdown
        ∧ fallFrom (r.peakEquity.max equity) equity < maxDrawdown)
      ∧ carriedLoss r day < maxDailyLoss ∧ fallFrom (carriedStart r day) equity < maxDailyLoss := by
  have hlimit : ∀ {x y limit : Decimal} {reason : ReasonCode},
      (if limit ≤ x.max y then [reason] else []) = [] ↔ x < limit ∧ y < limit := by
    intro x y limit reason
    rw [← Decimal.max_lt_iff, ite_eq_right_iff, ← Decimal.not_le]
    simp
  unfold exhausted
  rw [List.append_eq_nil_iff]
  exact and_congr hlimit hlimit

/-- What a readable record about this account comes to: it is carried over, unless that
exhausts a limit. -/
theorem recoverSession_eq (maxDailyLoss maxDrawdown : Decimal) (hpos : 0 < equity)
    (hreadable : record.unreadable = none) (hstate : record.state = some r)
    (hschema : r.schemaVersion = sessionSchemaVersion) (hday : r.tradingDay ≤ day)
    (hcount : r.openPositionCount = positions) :
    ∃ detail, recoverSession record equity positions day maxDailyLoss maxDrawdown
      = if exhausted r equity day maxDailyLoss maxDrawdown = [] then
          .ok { ledger := carried r equity day, tradingDay := some day, resumed := true,
                reasonCodes := [], detail := none }
        else haltedRecovery equity day (exhausted r equity day maxDailyLoss maxDrawdown) detail := by
  have hres : EquityLedger.resumed equity (carriedStart r day) equity
      (r.peakEquity.max equity) r.maxDrawdownFraction (carriedLoss r day)
        = .ok (carried r equity day) := resumed_carried hpos
  simp only [carriedStart, carriedLoss] at hres
  unfold recoverSession
  simp only [hreadable, hstate, hschema, hcount, Int.not_lt.mpr hday, hres, bind, Except.bind,
    ne_eq, not_true_eq_false, if_false]
  by_cases hnil : exhausted r equity day maxDailyLoss maxDrawdown = []
  · exact ⟨"", (if_neg (not_not.mpr hnil)).trans (if_pos hnil).symm⟩
  · exact ⟨_, (if_pos hnil).trans (if_neg hnil).symm⟩

/-- **Everything a recovery can be.** -/
theorem recoverSession_cases
    (h : recoverSession record equity positions day maxDailyLoss maxDrawdown = .ok recovery) :
    0 < equity ∧ recovery.tradingDay = some day
      ∧ Recovered record equity positions day maxDailyLoss maxDrawdown recovery := by
  have hrun := h
  unfold recoverSession at h
  split at h
  · rename_i why hwhy
    refine recovered_halted h (by simp) fun r _ hr => ?_
    rw [hr.readable] at hwhy
    cases hwhy
  rename_i hreadable
  split at h
  · rename_i hnone
    cases hc : EquityLedger.create equity with
    | error e => rw [hc] at h; cases h
    | ok ledger =>
        rw [hc] at h
        cases h
        obtain ⟨hpos, rfl⟩ := EquityLedger.create_ok hc
        refine ⟨hpos, rfl, .afresh ?_ rfl (.inr ⟨hreadable, hnone⟩)⟩
        intro r hr
        rw [hnone] at hr
        cases hr
  rename_i r hsome
  -- from here on, the only record there is cannot be recovered from when a check fails
  have hlost : ¬ Recoverable record r equity positions day maxDailyLoss maxDrawdown →
      ∀ r', record.state = some r' →
        ¬ Recoverable record r' equity positions day maxDailyLoss maxDrawdown := by
    intro hnot r' hr'
    cases hsome.symm.trans hr'
    exact hnot
  split at h
  · rename_i hschema
    exact recovered_halted h (by simp) (hlost fun hr => hschema hr.schema)
  rename_i hschema
  split at h
  · rename_i hahead
    exact recovered_halted h (by simp) (hlost fun hr => Int.not_le.mpr hahead hr.notAhead)
  rename_i hahead
  split at h
  · rename_i hcount
    exact recovered_halted h (by simp) (hlost fun hr => hcount hr.agreed)
  rename_i hcount
  by_cases hpos : 0 < equity
  · obtain ⟨detail, heq⟩ := recoverSession_eq maxDailyLoss maxDrawdown hpos hreadable hsome
      (not_not.mp hschema) (Int.not_lt.mp hahead) (not_not.mp hcount)
    rw [heq] at hrun
    split at hrun
    · rename_i hnil
      obtain ⟨⟨hdd, hldd⟩, hl, hll⟩ := exhausted_eq_nil.mp hnil
      cases hrun
      exact ⟨hpos, rfl, .resumed r hsome ⟨hreadable, not_not.mp hschema, Int.not_lt.mp hahead,
        not_not.mp hcount, hdd, hldd, hl, hll⟩ rfl rfl⟩
    · rename_i hexhausted
      refine recovered_halted hrun hexhausted (hlost fun hr => hexhausted ?_)
      exact exhausted_eq_nil.mpr ⟨⟨hr.drawdown, hr.liveDrawdown⟩, hr.loss, hr.liveLoss⟩
  · simp only [EquityLedger.resumed, EquityLedger.create_error (Decimal.not_lt.mp hpos)] at h
    cases h

/-! ## At which equity a recovery returns -/

theorem haltedRecovery_error {reasons : List ReasonCode} {detail : String} (h : equity ≤ 0) :
    haltedRecovery equity day reasons detail
      = .error ⟨.value, "starting equity must be positive"⟩ := by
  unfold haltedRecovery
  rw [EquityLedger.create_error h]
  rfl

theorem haltedRecovery_pos {reasons : List ReasonCode} {detail : String} {e : PyError}
    (h : 0 < equity) : haltedRecovery equity day reasons detail ≠ .error e := by
  unfold haltedRecovery
  rw [EquityLedger.create_fresh h]
  exact fun heq => by cases heq

/-- **A recovery returns exactly at a positive equity**, whatever is on record. -/
theorem recoverSession_returns_iff :
    (∃ recovery, recoverSession record equity positions day maxDailyLoss maxDrawdown
        = .ok recovery) ↔ 0 < equity := by
  refine ⟨fun ⟨recovery, h⟩ => (recoverSession_cases h).1, fun hpos => ?_⟩
  cases hrun : recoverSession record equity positions day maxDailyLoss maxDrawdown with
  | ok recovery => exact ⟨recovery, rfl⟩
  | error e =>
      exfalso
      have heq := hrun
      unfold recoverSession at hrun
      split at hrun
      · exact haltedRecovery_pos hpos hrun
      rename_i hreadable
      split at hrun
      · rw [EquityLedger.create_fresh hpos] at hrun
        cases hrun
      rename_i r hstate
      split at hrun
      · exact haltedRecovery_pos hpos hrun
      rename_i hschema
      split at hrun
      · exact haltedRecovery_pos hpos hrun
      rename_i hahead
      split at hrun
      · exact haltedRecovery_pos hpos hrun
      rename_i hcount
      obtain ⟨detail, hresumed⟩ := recoverSession_eq maxDailyLoss maxDrawdown hpos hreadable
        hstate (not_not.mp hschema) (Int.not_lt.mp hahead) (not_not.mp hcount)
      rw [hresumed] at heq
      split at heq
      · cases heq
      · exact haltedRecovery_pos hpos heq

theorem recoverSession_raises (h : equity ≤ 0) :
    ∃ e, recoverSession record equity positions day maxDailyLoss maxDrawdown = .error e := by
  cases hrun : recoverSession record equity positions day maxDailyLoss maxDrawdown with
  | error e => exact ⟨e, rfl⟩
  | ok recovery => exact absurd (recoverSession_cases hrun).1 (Decimal.not_lt.mpr h)

end

end Crumblr
