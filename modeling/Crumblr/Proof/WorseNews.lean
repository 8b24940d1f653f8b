import Crumblr.Lib.DecimalValue
import Crumblr.Proof.FixedVolume
import Mathlib.Data.List.Forall2

/-!
# Worse news

An evaluation that refuses refuses all the more on worse inputs. The checklist is compared
leg by leg: each fails on the worse inputs where it failed on the better ones. The sizing is
monotone in the equity although every operation of it rounds, since rounding is monotone. Its
last check alone is not: it compares two rounded amounts that are meant to be in order, and
may find them out of order at one equity and in order at a smaller one.
-/

namespace Crumblr

/-! ## Legs -/

/-- The second leg fails where the first does, for the same reason, or because an open risk
over its limit is no longer known. -/
def Worsens (leg leg' : Bool × ReasonCode) : Prop :=
  (leg.1 = true → leg'.1 = true)
    ∧ (leg'.2 = leg.2 ∨ leg.2 = .openRiskLimit ∧ leg'.2 = .openRiskUnknown)

/-- A reason that is still among these ones, or has turned into an unknown open risk. -/
def Persists (reason : ReasonCode) (reasons : List ReasonCode) : Prop :=
  reason ∈ reasons ∨ reason = .openRiskLimit ∧ .openRiskUnknown ∈ reasons

theorem Persists.mono {reason : ReasonCode} {reasons reasons' : List ReasonCode}
    (h : Persists reason reasons) (hsub : reasons ⊆ reasons') : Persists reason reasons' := by
  rcases h with h | ⟨hr, h⟩
  · exact .inl (hsub h)
  · exact .inr ⟨hr, hsub h⟩

/-- A reason that halts is none that turns into another. -/
theorem Persists.mem_of_halts {reason : ReasonCode} {reasons : List ReasonCode}
    (h : Persists reason reasons) (hhalt : reason ∈ haltReasons) : reason ∈ reasons := by
  rcases h with h | ⟨rfl, -⟩
  · exact h
  · exact absurd hhalt (by decide)

/-- **What fails on the better legs persists on the worse ones.** -/
theorem failing_worsens {legs legs' : List (Bool × ReasonCode)}
    (h : List.Forall₂ Worsens legs legs') :
    ∀ reason ∈ failing legs, Persists reason (failing legs') := by
  induction h with
  | nil => exact fun reason hmem => absurd hmem List.not_mem_nil
  | @cons leg leg' legs legs' hleg _ ih =>
      obtain ⟨fails, reason⟩ := leg
      obtain ⟨fails', reason'⟩ := leg'
      obtain ⟨himp, hreason⟩ := hleg
      have hsub : failing legs' ⊆ failing ((fails', reason') :: legs') := by
        rw [failing]
        split
        · exact List.subset_cons_self _ _
        · exact List.Subset.refl _
      intro r hr
      unfold failing at hr
      split at hr
      · rename_i hfails
        have hfails' : fails' = true := himp hfails
        rcases List.mem_cons.mp hr with rfl | hr
        · subst hfails'
          have hmem : reason' ∈ failing ((true, reason') :: legs') := List.mem_cons_self
          rcases hreason with heq | ⟨hlimit, hunknown⟩
          · have heq : reason' = r := heq
            exact .inl (heq ▸ hmem)
          · exact .inr ⟨hlimit, hunknown ▸ hmem⟩
        · exact (ih r hr).mono hsub
      · exact (ih r hr).mono hsub

theorem worsens_of_imp {p q : Prop} [Decidable p] [Decidable q] (h : p → q) (reason : ReasonCode) :
    Worsens (decide p, reason) (decide q, reason) :=
  ⟨fun hp => decide_eq_true (h (of_decide_eq_true hp)), .inl rfl⟩

theorem worsens_refl (leg : Bool × ReasonCode) : Worsens leg leg := ⟨id, .inl rfl⟩

/-! ## Inputs -/

/-- What an evaluation is given beside the intent, the specification and the configuration. -/
structure EvaluationInputs where
  snapshot : MarketSnapshot
  portfolio : PortfolioState
  killSwitch : KillSwitch
  now : UtcDatetime

/-- The second inputs are no better than the first. -/
structure Worse (first second : EvaluationInputs) : Prop where
  event : second.snapshot.eventTimeUtc = first.snapshot.eventTimeUtc
  quote : second.snapshot.bid = first.snapshot.bid ∧ second.snapshot.ask = first.snapshot.ask
  seen : first.snapshot.eventTimeUtc ≤ first.now
  later : first.now ≤ second.now
  quality : second.snapshot.dataQuality ∈ tradeableDataQuality →
    first.snapshot.dataQuality ∈ tradeableDataQuality
  spread : first.snapshot.spreadPoints ≤ second.snapshot.spreadPoints
  account : second.portfolio.account
    = { first.portfolio.account with equity := second.portfolio.account.equity }
  solvent : 0 < second.portfolio.account.equity
  equity : second.portfolio.account.equity ≤ first.portfolio.account.equity
  sessionLoss : first.portfolio.ledger.sessionLossFraction
    ≤ second.portfolio.ledger.sessionLossFraction
  drawdown : first.portfolio.ledger.drawdownFraction ≤ second.portfolio.ledger.drawdownFraction
  positions : first.portfolio.openPositions ⊆ second.portfolio.openPositions
  count : first.portfolio.openPositions.length ≤ second.portfolio.openPositions.length
  openRisk : ∀ risk ∈ second.portfolio.openRiskFraction,
    ∃ less ∈ first.portfolio.openRiskFraction, less ≤ risk
  orders : first.portfolio.ordersInLastHour ≤ second.portfolio.ordersInLastHour
  hashes : first.portfolio.seenDecisionHashes ⊆ second.portfolio.seenDecisionHashes
  switch : first.killSwitch.isHalted = true → second.killSwitch.isHalted = true

namespace EvaluationInputs

variable [Externals] (i : EvaluationInputs) (intent : TradeIntent) (spec : InstrumentSpec)
  (context : RiskContext)

def decision : Except PyError RiskDecision :=
  evaluate intent i.snapshot spec i.portfolio context i.killSwitch i.now

def Passes : Prop := ∃ d, i.decision intent spec context = .ok d ∧ d.verdict = .pass

/-- The reasons of the checklist, for a stop at this distance. -/
def checks (distance : Decimal) (points : Int) : List ReasonCode :=
  checklist intent i.snapshot spec i.portfolio context i.killSwitch i.now distance points

/-- Nothing fails but the last check: the sizing comes to a volume, and the volume to more than
its budget, as the two are rounded apart. -/
def RoundedApart : Prop :=
  ∃ stop ∈ intent.stopLossPrice, ∃ points, stopPoints intent spec = .ok points
    ∧ i.checks intent spec context (stopDistanceFrom intent.referencePrice.val stop) points = []
    ∧ ∃ requested ∈ intent.requestedRiskFraction,
      sizingReasons spec i.portfolio.account.equity requested.val
        (stopDistanceFrom intent.referencePrice.val stop) = [.openRiskLimit]

end EvaluationInputs

/-! ## Ages -/

theorem millisecondsOf_mono {s t : Timedelta} (hle : s ≤ t) : millisecondsOf s ≤ millisecondsOf t := by
  unfold millisecondsOf
  have hcast : (s : ℚ) ≤ t := by exact_mod_cast hle
  have hquotient : (s : ℚ) / 1000000 ≤ t / 1000000 := div_le_div_of_nonneg_right hcast (by norm_num)
  have hrounded := SigDigits.roundSig_mono (b := 2) (p := 53) (by decide) (by decide) hquotient
  refine SigDigits.roundSig_mono (by decide) (by decide) ?_
  exact mul_le_mul_of_nonneg_right hrounded (by norm_num)

theorem truncate_mono {p q : ℚ} (hle : p ≤ q) : truncate p ≤ truncate q := by
  unfold truncate
  split
  · rename_i hp
    split
    · exact Int.ceil_le_ceil hle
    · rename_i hq
      have hfloor : 0 ≤ ⌊q⌋ := Int.floor_nonneg.mpr (not_lt.mp hq)
      exact le_trans (Int.ceil_le.mpr (by simpa using hp.le)) hfloor
  · rename_i hp
    rw [if_neg (not_lt.mpr (le_trans (not_lt.mp hp) hle))]
    exact Int.floor_le_floor hle

/-- A later moment is no less after what it is an age of. -/
theorem ageMs_mono {t now now' : UtcDatetime} (hle : now ≤ now') : ageMs t now ≤ ageMs t now' :=
  truncate_mono (millisecondsOf_mono (Int.sub_le_sub_right hle t))

theorem ageMs_self (t : UtcDatetime) : ageMs t t = 0 := by
  unfold ageMs millisecondsOf truncate
  simp

/-! ## The checklist -/

namespace Worse

variable {first second : EvaluationInputs} (h : Worse first second)
include h

/-- The quote is as old or older. -/
theorem age : 0 ≤ ageMs first.snapshot.eventTimeUtc first.now
    ∧ ageMs first.snapshot.eventTimeUtc first.now
      ≤ ageMs second.snapshot.eventTimeUtc second.now := by
  rw [h.event]
  refine ⟨?_, ageMs_mono h.later⟩
  rw [← ageMs_self first.snapshot.eventTimeUtc]
  exact ageMs_mono h.seen

theorem overnight (policy : IntradayPolicy) (calendar : TradingCalendar)
    (hbreach : overnightBreach first.portfolio.openPositions first.snapshot.eventTimeUtc policy
      calendar = true) :
    overnightBreach second.portfolio.openPositions second.snapshot.eventTimeUtc policy calendar
      = true := by
  rw [h.event]
  unfold overnightBreach at hbreach ⊢
  simp only [Bool.and_eq_true, Bool.or_eq_true, Bool.not_eq_true', List.isEmpty_eq_false_iff,
    List.any_eq_true] at hbreach ⊢
  obtain ⟨⟨henabled, hne⟩, hlegs⟩ := hbreach
  refine ⟨⟨henabled, fun hnil => hne ?_⟩, ?_⟩
  · have hsub := h.positions
    rw [hnil] at hsub
    exact List.subset_nil.mp hsub
  · rcases hlegs with hflat | ⟨p, hp, hcrossed⟩
    · exact .inl hflat
    · exact .inr ⟨p, h.positions hp, hcrossed⟩

variable [Externals] (intent : TradeIntent) (context : RiskContext)

/-- Each leg on account, market and intent is as bad or worse. -/
theorem entryLegs_worsen : List.Forall₂ Worsens
    (entryLegs intent first.snapshot first.portfolio context first.killSwitch first.now)
    (entryLegs intent second.snapshot second.portfolio context second.killSwitch second.now) := by
  obtain ⟨hfresh, hage⟩ := h.age
  have hspread := h.spread
  have hlater := h.later
  unfold entryLegs
  rw [h.account]
  refine .cons ⟨h.switch, .inl rfl⟩ (.cons (worsens_refl _) (.cons (worsens_refl _)
    (.cons (worsens_refl _) (.cons (worsens_refl _) (.cons (worsens_refl _)
    (.cons (worsens_refl _) (.cons (worsens_refl _) (.cons (worsens_refl _)
    (.cons (worsens_refl _) (.cons ?quality (.cons ?stale (.cons ?quote (.cons ?spread
    (.cons ?session (.cons ?expired (.cons ?duplicate (.cons (worsens_refl _) .nil)))))))))))))))))
  case quality => exact worsens_of_imp (fun hbad hgood => hbad (h.quality hgood)) _
  case stale => exact worsens_of_imp (fun hold => by omega) _
  case quote =>
    rw [h.quote.1, h.quote.2]
    exact worsens_refl _
  case spread => exact worsens_of_imp (fun hwide => by omega) _
  case session =>
    rw [h.event]
    exact worsens_refl _
  case expired =>
    exact worsens_of_imp (fun hexpired => le_trans hexpired hlater) _
  case duplicate => exact worsens_of_imp (fun hseen => h.hashes hseen) _

omit [Externals] in
/-- So is each leg on exposure, budget and losses. -/
theorem exposureLegs_worsen : List.Forall₂ Worsens
    (exposureLegs intent first.snapshot first.portfolio context)
    (exposureLegs intent second.snapshot second.portfolio context) := by
  have hcount := h.count
  have horders := h.orders
  have hlosses : List.Forall₂ Worsens
      [(decide (context.risk.maxDailyLoss.val ≤ first.portfolio.ledger.sessionLossFraction),
          ReasonCode.dailyLossLimit),
        (decide (context.risk.maxDrawdown.val ≤ first.portfolio.ledger.drawdownFraction),
          .maxDrawdown)]
      [(decide (context.risk.maxDailyLoss.val ≤ second.portfolio.ledger.sessionLossFraction),
          ReasonCode.dailyLossLimit),
        (decide (context.risk.maxDrawdown.val ≤ second.portfolio.ledger.drawdownFraction),
          .maxDrawdown)] :=
    .cons (worsens_of_imp (fun hlost => le_trans hlost h.sessionLoss) _)
      (.cons (worsens_of_imp (fun hdrawn => le_trans hdrawn h.drawdown) _) .nil)
  unfold exposureLegs
  refine List.rel_append (List.rel_append ?_ ?_) hlosses
  · refine .cons ⟨h.overnight _ _, .inl rfl⟩ (.cons (worsens_of_imp (fun hfull => by omega) _)
      (.cons (worsens_of_imp (fun hmany => by omega) _) .nil))
  · cases intent.requestedRiskFraction with
    | none => exact .cons (worsens_refl _) .nil
    | some requested =>
        refine .cons (worsens_refl _) (.cons ?_ .nil)
        cases hsecond : second.portfolio.openRiskFraction with
        | none =>
            cases first.portfolio.openRiskFraction with
            | none => exact worsens_refl _
            | some risk => exact ⟨fun _ => rfl, .inr ⟨rfl, rfl⟩⟩
        | some risk =>
            obtain ⟨less, hless, hle⟩ := h.openRisk risk hsecond
            rw [Option.mem_def.mp hless]
            exact worsens_of_imp (fun hover =>
              lt_of_lt_of_le hover (Decimal.add_mono hle (le_refl _))) _

/-- **What fails the checklist persists on worse inputs.** -/
theorem checks_persist (spec : InstrumentSpec) (distance : Decimal) (points : Int) :
    ∀ reason ∈ first.checks intent spec context distance points,
      Persists reason (second.checks intent spec context distance points) := by
  have hstops : List.Forall₂ Worsens (stopLegs distance points context.risk spec)
      (stopLegs distance points context.risk spec) :=
    .cons (worsens_refl _) (.cons (worsens_refl _) .nil)
  exact failing_worsens (List.rel_append (List.rel_append (h.entryLegs_worsen intent context) hstops)
    (h.exposureLegs_worsen intent context))

/-- No checks fail on the better inputs if none do on the worse. -/
theorem checks_nil {spec : InstrumentSpec} {distance : Decimal} {points : Int}
    (hnil : second.checks intent spec context distance points = []) :
    first.checks intent spec context distance points = [] := by
  refine List.eq_nil_iff_forall_not_mem.mpr fun reason hmem => ?_
  have hpersists := h.checks_persist intent context spec distance points reason hmem
  rw [hnil] at hpersists
  rcases hpersists with hmem | ⟨-, hmem⟩ <;> exact absurd hmem List.not_mem_nil

end Worse

/-! ## The sizing -/

section

variable {equity equity' requested distance : Decimal} {spec : InstrumentSpec}

/-- **Less equity funds no larger volume.** -/
theorem fundedVolume_mono (hperLot : 0 < lossOver distance spec) (hrequested : 0 < requested)
    (hpos : 0 ≤ equity') (hle : equity' ≤ equity) :
    fundedVolume equity' requested distance spec ≤ fundedVolume equity requested distance spec := by
  have hbudget : equity' * requested ≤ equity * requested := Decimal.mul_mono_left hrequested hle
  have hraw := Decimal.div_mono_left hperLot hbudget
  have hnonneg := Decimal.div_nonneg (Decimal.mul_nonneg hpos (le_of_lt hrequested)) hperLot
  have hsteps := Decimal.toIntegralValue_down_mono
    (Decimal.div_nonneg hnonneg spec.volumeStep.property)
    (Decimal.div_mono_left spec.volumeStep.property hraw)
  exact Decimal.min_mono_left (Decimal.mul_mono_left spec.volumeStep.property hsteps)

variable [Externals] {intent : TradeIntent} {context : RiskContext}

/-- What a pass comes from: a checklist with nothing on it, and a volume within its budget. -/
structure PassedWith (i : EvaluationInputs) (intent : TradeIntent) (spec : InstrumentSpec)
    (context : RiskContext) (stop : Price) (points : Int) (requested : RiskFraction)
    (sizing : SizingResult) (volume : Decimal) : Prop where
  placed : intent.stopLossPrice = some stop
  counted : stopPoints intent spec = .ok points
  asked : intent.requestedRiskFraction = some requested
  clear : i.checks intent spec context (stopDistanceFrom intent.referencePrice.val stop) points = []
  sizes : sizePosition i.portfolio.account.equity requested.val
    (stopDistanceFrom intent.referencePrice.val stop) spec = .ok sizing
  comes : sizing.volume = some volume
  sized : Sized i.portfolio.account.equity requested.val
    (stopDistanceFrom intent.referencePrice.val stop) spec sizing volume
  budget : volume * lossOver (stopDistanceFrom intent.referencePrice.val stop) spec
    ≤ sizing.riskAmount
  positive : 0 < points

theorem passedWith_of_passes {i : EvaluationInputs} {d : RiskDecision}
    (h : i.decision intent spec context = .ok d) (hpass : d.verdict = .pass) :
    ∃ stop points requested sizing volume,
      PassedWith i intent spec context stop points requested sizing volume
        ∧ d.approvedVolume.map Subtype.val = some volume := by
  unfold EvaluationInputs.decision at h
  obtain ⟨stop, hstop, hrest⟩ := bind_ok h
  obtain ⟨points, hcount, -⟩ := bind_ok hrest
  have hstop := assertSome_ok hstop
  have hpoints : stopPoints intent spec = .ok points := by
    unfold stopPoints
    rw [hstop]
    exact hcount
  by_cases hlist : i.checks intent spec context
    (stopDistanceFrom intent.referencePrice.val stop) points = []
  swap
  · rw [evaluate_of_checklist hstop hpoints hlist] at h
    exact absurd hpass (refuseRisk_verdict h)
  obtain ⟨hpos, requested, hrequested⟩ := checklist_nil hlist
  obtain ⟨sizing, hsizing, hcases⟩ := sizePosition_cases i.portfolio.account.equity
    requested.val spec hpos
  rw [evaluate_of_sizing hstop hpoints hlist hrequested hsizing] at h
  rcases hcases with ⟨volume, hvolume, hsized⟩ | ⟨hnone, -⟩
  · rw [hvolume] at h
    dsimp only at h
    split at h
    · exact absurd hpass (refuseRisk_verdict h)
    rename_i hbudget
    unfold RiskDecision.createPass at h
    split at h
    · rename_i hvalid
      cases h
      exact ⟨stop, points, requested, sizing, volume, ⟨hstop, hpoints, hrequested, hlist, hsizing,
        hvolume, hsized, Decimal.not_lt.mp hbudget, hvalid.2⟩, rfl⟩
    · cases h
  · rw [hnone] at h
    exact absurd hpass (refuseRisk_verdict h)

end

/-! ## The law -/

section

variable [Externals] {first second : EvaluationInputs} {intent : TradeIntent}
  {spec : InstrumentSpec} {context : RiskContext}

/-- What passes on the worse inputs passes on the better, unless its amounts are rounded apart
there. -/
theorem Worse.passes (h : Worse first second) (hpass : second.Passes intent spec context)
    (happart : ¬ first.RoundedApart intent spec context) : first.Passes intent spec context := by
  obtain ⟨d, hd, hverdict⟩ := hpass
  obtain ⟨stop, points, requested, sizing', volume', hwith, -⟩ := passedWith_of_passes hd hverdict
  have hlist := h.checks_nil intent context hwith.clear
  obtain ⟨hpos, -⟩ := checklist_nil hlist
  obtain ⟨sizing, hsizing, hcases⟩ := sizePosition_cases first.portfolio.account.equity
    requested.val spec hpos
  have hfunds : 0 < first.portfolio.account.equity := lt_of_lt_of_le h.solvent h.equity
  have hmono := fundedVolume_mono hwith.sized.perLot requested.property.1 (le_of_lt h.solvent)
    h.equity
  rw [← hwith.sized.funded] at hmono
  have hevaluate := evaluate_of_sizing hwith.placed hwith.counted hlist hwith.asked hsizing
  rcases hcases with ⟨volume, hvolume, hsized⟩ | ⟨-, hnot⟩
  · rw [hvolume] at hevaluate
    dsimp only at hevaluate
    by_cases hbudget : sizing.riskAmount
        < volume * lossOver (stopDistanceFrom intent.referencePrice.val stop) spec
    · refine absurd ⟨stop, hwith.placed, points, hwith.counted, hlist, requested, hwith.asked, ?_⟩
        happart
      unfold sizingReasons
      rw [hsizing]
      dsimp only
      rw [hvolume]
      dsimp only
      rw [realisedRisk_eq hpos]
      exact if_pos hbudget
    · rw [if_neg hbudget] at hevaluate
      rcases createPass_decides hsized.positive with ⟨-, d, hd, hdecides⟩ | ⟨hp, -⟩
      · exact ⟨d, hevaluate.trans hd, hdecides.pass.mpr rfl⟩
      · exact absurd hwith.positive (by omega)
  · rcases hnot with hbroke | hfree | hsmall | hzero
    · exact absurd hbroke (Decimal.not_le.mpr hfunds)
    · exact absurd hfree (Decimal.not_le.mpr hwith.sized.perLot)
    · exact absurd hsmall (Decimal.not_lt.mpr (le_trans hwith.sized.minimum hmono))
    · exact absurd hzero (Decimal.not_le.mpr (lt_of_lt_of_le hwith.sized.positive hmono))

/-- Of two passes the one on worse inputs has no larger volume. -/
theorem Worse.volume (h : Worse first second) {d d' : RiskDecision}
    (hd : first.decision intent spec context = .ok d) (hpass : d.verdict = .pass)
    (hd' : second.decision intent spec context = .ok d') (hpass' : d'.verdict = .pass) :
    ∀ v ∈ d.approvedVolume, ∀ v' ∈ d'.approvedVolume, v'.val ≤ v.val := by
  obtain ⟨stop, points, requested, sizing, volume, hwith, hvolume⟩ := passedWith_of_passes hd hpass
  obtain ⟨stop', points', requested', sizing', volume', hwith', hvolume'⟩ :=
    passedWith_of_passes hd' hpass'
  obtain rfl : stop = stop' := Option.some.inj (hwith.placed.symm.trans hwith'.placed)
  obtain rfl : requested = requested' :=
    Option.some.inj (hwith.asked.symm.trans hwith'.asked)
  intro v hv v' hv'
  rw [Option.mem_def.mp hv] at hvolume
  rw [Option.mem_def.mp hv'] at hvolume'
  obtain rfl : v.val = volume := Option.some.inj hvolume
  obtain rfl : v'.val = volume' := Option.some.inj hvolume'
  rw [hwith.sized.funded, hwith'.sized.funded]
  exact fundedVolume_mono hwith.sized.perLot requested.property.1 (le_of_lt h.solvent) h.equity

/-- A refusal by the checklist stays one, for the same reasons and others, and a halt. -/
theorem Worse.refusal (h : Worse first second) {stop : Price} {points : Int}
    (hstop : intent.stopLossPrice = some stop) (hpoints : stopPoints intent spec = .ok points)
    (hlist : first.checks intent spec context (stopDistanceFrom intent.referencePrice.val stop)
      points ≠ []) :
    ∃ d d', first.decision intent spec context = .ok d
      ∧ second.decision intent spec context = .ok d'
      ∧ (∀ reason ∈ d.reasonCodes, Persists reason d'.reasonCodes)
      ∧ (d.verdict = .halt → d'.verdict = .halt) := by
  have hpersist := h.checks_persist intent context spec
    (stopDistanceFrom intent.referencePrice.val stop) points
  have hlist' : second.checks intent spec context
      (stopDistanceFrom intent.referencePrice.val stop) points ≠ [] :=
    fun hnil => hlist (h.checks_nil intent context hnil)
  obtain ⟨d, hd, hdecides⟩ := refuseRisk_decides intent context first.now hlist ""
  obtain ⟨d', hd', hdecides'⟩ := refuseRisk_decides intent context second.now hlist' ""
  refine ⟨d, d', (evaluate_of_checklist hstop hpoints hlist).trans hd,
    (evaluate_of_checklist hstop hpoints hlist').trans hd', fun reason hmem => ?_, fun hhalt => ?_⟩
  · rw [hdecides.reasons, List.mem_eraseDups] at hmem
    rw [hdecides'.reasons]
    exact (hpersist reason hmem).mono fun r hr => List.mem_eraseDups.mpr hr
  · obtain ⟨reason, hmem, hhalts⟩ := hdecides.halt.mp hhalt
    exact hdecides'.halt.mpr ⟨reason, (hpersist reason hmem).mem_of_halts hhalts, hhalts⟩

/-- **Refusals are monotone in bad news**, up to a refusal of the last check alone. -/
theorem evaluate_worse (h : Worse first second) (intent : TradeIntent) (spec : InstrumentSpec)
    (context : RiskContext) :
    (¬ first.Passes intent spec context → ¬ first.RoundedApart intent spec context →
        ¬ second.Passes intent spec context)
      ∧ (∀ d d', first.decision intent spec context = .ok d → d.verdict = .pass →
        second.decision intent spec context = .ok d' → d'.verdict = .pass →
        ∀ v ∈ d.approvedVolume, ∀ v' ∈ d'.approvedVolume, v'.val ≤ v.val)
      ∧ ∀ stop ∈ intent.stopLossPrice, ∀ points, stopPoints intent spec = .ok points →
        first.checks intent spec context (stopDistanceFrom intent.referencePrice.val stop) points
          ≠ [] →
        ∃ d d', first.decision intent spec context = .ok d
          ∧ second.decision intent spec context = .ok d'
          ∧ (∀ reason ∈ d.reasonCodes, Persists reason d'.reasonCodes)
          ∧ (d.verdict = .halt → d'.verdict = .halt) :=
  ⟨fun hrefused happart hpass => hrefused (h.passes hpass happart),
    fun _ _ hd hpass hd' hpass' => h.volume hd hpass hd' hpass',
    fun _ hstop _ hpoints hlist => h.refusal hstop hpoints hlist⟩

end

/-! ## Two amounts rounded apart -/

namespace Sample

/-- The inputs of a calm noon, at some equity. -/
def atEquity (equity : Decimal) : EvaluationInputs where
  snapshot := quote
  portfolio := { flatPortfolio with account := { account with equity := equity } }
  killSwitch := ⟨.running, []⟩
  now := noon

theorem atEquity_worse {equity equity' : Decimal} (hpos : 0 < equity') (hle : equity' ≤ equity) :
    Worse (atEquity equity) (atEquity equity') where
  event := rfl
  quote := ⟨rfl, rfl⟩
  seen := le_refl _
  later := le_refl _
  quality := id
  spread := le_refl _
  account := rfl
  solvent := hpos
  equity := hle
  sessionLoss := le_refl _
  drawdown := le_refl _
  positions := List.Subset.refl _
  count := le_refl _
  openRisk := fun risk hrisk => ⟨risk, hrisk, le_refl _⟩
  orders := le_refl _
  hashes := List.Subset.refl _
  switch := id

/-- They are of an account that was worth twice as much at its peak. -/
def drawnDown (equity : Decimal) : EvaluationInputs :=
  { atEquity equity with
    portfolio :=
      { (atEquity equity).portfolio with
        ledger := { flatPortfolio.ledger with peakEquity := ⟨20000, 0⟩ } } }

/-- A specification under which the loss of one lot over the sample's stop has no end. -/
def thirdsSpec : InstrumentSpec :=
  { spec with
    tickSize := ⟨⟨3, -5⟩, by decide⟩
    tickValue := amount 1 (-1)
    volumeMin := amount 1 0
    volumeStep := amount 1 0
    volumeBounds := by decide }

end Sample

end Crumblr

namespace Crumblr

open Sample in
/-- With less equity less is approved, and a halt stays a halt with its reasons. -/
theorem evaluate_worse_sample :
    (∃ d d', (atEquity ⟨10000, 0⟩).decision intent spec worker.riskContext = .ok d
      ∧ (atEquity ⟨9000, 0⟩).decision intent spec worker.riskContext = .ok d'
      ∧ d.verdict = .pass ∧ d'.verdict = .pass
      ∧ ∀ v ∈ d.approvedVolume, ∀ v' ∈ d'.approvedVolume, v'.val ≤ v.val)
    ∧ ∃ d d', (drawnDown ⟨10000, 0⟩).decision intent spec worker.riskContext = .ok d
      ∧ (drawnDown ⟨9000, 0⟩).decision intent spec worker.riskContext = .ok d'
      ∧ (∀ reason ∈ d.reasonCodes, Persists reason d'.reasonCodes) ∧ d'.verdict = .halt
      ∧ ¬ (drawnDown ⟨9000, 0⟩).Passes intent spec worker.riskContext := by
  have hequity : Worse (atEquity ⟨10000, 0⟩) (atEquity ⟨9000, 0⟩) :=
    atEquity_worse (by decide) (by decide)
  constructor
  · have hfirst : ((atEquity ⟨10000, 0⟩).decision intent spec worker.riskContext).toOption.any
        (fun d => d.verdict = .pass) = true := by decide +kernel
    have hsecond : ((atEquity ⟨9000, 0⟩).decision intent spec worker.riskContext).toOption.any
        (fun d => d.verdict = .pass) = true := by decide +kernel
    obtain ⟨d, hd, hpass⟩ := exists_ok_of_any hfirst
    obtain ⟨d', hd', hpass'⟩ := exists_ok_of_any hsecond
    have hpass : d.verdict = .pass := of_decide_eq_true hpass
    have hpass' : d'.verdict = .pass := of_decide_eq_true hpass'
    exact ⟨d, d', hd, hd', hpass, hpass',
      (evaluate_worse hequity intent spec worker.riskContext).2.1 d d' hd hpass hd' hpass'⟩
  · have hworse : Worse (drawnDown ⟨10000, 0⟩) (drawnDown ⟨9000, 0⟩) :=
      { hequity with sessionLoss := le_refl _, drawdown := le_refl _ }
    have hpoints : stopPoints intent spec = .ok 100 := rfl
    have hchecks : (drawnDown ⟨10000, 0⟩).checks intent spec worker.riskContext
        (stopDistanceFrom intent.referencePrice.val ⟨⟨109900, -5⟩, by decide⟩) 100 ≠ [] := by
      decide +kernel
    have hhalts : ((drawnDown ⟨10000, 0⟩).decision intent spec worker.riskContext).toOption.any
        (fun d => d.verdict = .halt) = true := by decide +kernel
    obtain ⟨-, -, hrefusal⟩ := evaluate_worse hworse intent spec worker.riskContext
    obtain ⟨d, d', hd, hd', hpersist, hhalt⟩ := hrefusal _ rfl 100 hpoints hchecks
    obtain ⟨d₁, hd₁, hverdict⟩ := exists_ok_of_any hhalts
    rw [hd] at hd₁
    cases hd₁
    have hhalt : d'.verdict = .halt := hhalt (of_decide_eq_true hverdict)
    refine ⟨d, d', hd, hd', hpersist, hhalt, ?_⟩
    rintro ⟨d₂, hd₂, hpass⟩
    rw [hd'] at hd₂
    cases hd₂
    rw [hhalt] at hpass
    cases hpass

open Sample in
/-- Just under the budget of three lots the quotient rounds up to three, whose loss is over the
budget; a tenth less equity funds two and passes. -/
theorem evaluate_rounded_apart :
    ∃ first second, Worse first second
      ∧ ¬ first.Passes intent thirdsSpec worker.riskContext
      ∧ second.Passes intent thirdsSpec worker.riskContext := by
  have hfirst : ((atEquity ⟨19999999999999999999999999996, -25⟩).decision intent thirdsSpec
      worker.riskContext).toOption.any (fun d => d.verdict ≠ .pass) = true := by decide +kernel
  have hsecond : ((atEquity ⟨1800, 0⟩).decision intent thirdsSpec
      worker.riskContext).toOption.any (fun d => d.verdict = .pass) = true := by decide +kernel
  obtain ⟨d, hd, hrefused⟩ := exists_ok_of_any hfirst
  obtain ⟨d', hd', hpass⟩ := exists_ok_of_any hsecond
  have hworse : Worse (atEquity ⟨19999999999999999999999999996, -25⟩) (atEquity ⟨1800, 0⟩) :=
    atEquity_worse (by decide) (by decide)
  refine ⟨_, _, hworse, ?_, d', hd', of_decide_eq_true hpass⟩
  rintro ⟨d₁, hd₁, hpass₁⟩
  rw [hd] at hd₁
  cases hd₁
  exact of_decide_eq_true hrefused hpass₁

end Crumblr
