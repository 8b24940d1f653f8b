import Crumblr.Lib.StepGrid
import Crumblr.Proof.FixedVolume
import Crumblr.Risk.Exact

/-!
# The greatest volume a budget funds

Without rounding, the sizing snaps the volume a budget comes to down to the volume steps of the
broker and clamps it to the broker's maximum. What it returns is the greatest legal volume whose
loss the budget covers, and it refuses where there is none; unless the maximum is itself no
whole number of steps and the budget covers the first one above it. Then the maximum is
returned, which is not legal.
-/

namespace Crumblr.Exact

open StepGrid

variable {spec : InstrumentSpec}

theorem step_pos (spec : InstrumentSpec) : 0 < spec.volumeStep.val.value :=
  Decimal.pos_iff_value.mp spec.volumeStep.property

theorem volumeMin_pos (spec : InstrumentSpec) : 0 < spec.volumeMin.val.value :=
  Decimal.pos_iff_value.mp spec.volumeMin.property

theorem volumeMin_le_volumeMax (spec : InstrumentSpec) :
    spec.volumeMin.val.value ≤ spec.volumeMax.val.value :=
  Decimal.le_iff_value.mp (Decimal.not_lt.mp spec.volumeBounds.1)

/-- What one lot loses over a distance. -/
def lossOver (distance : ℚ) (spec : InstrumentSpec) : ℚ :=
  distance / spec.tickSize.val.value * spec.tickValue.val.value

theorem lossOver_pos {distance : ℚ} (h : 0 < distance) : 0 < lossOver distance spec :=
  mul_pos (div_pos h (Decimal.pos_iff_value.mp spec.tickSize.property))
    (Decimal.pos_iff_value.mp spec.tickValue.property)

theorem lossPerLot_eq {distance : ℚ} (h : 0 < distance) :
    lossPerLot distance spec = .ok (lossOver distance spec) := if_neg (not_le.mpr h)

theorem realisedRisk_eq {distance : ℚ} (h : 0 < distance) (volume : ℚ) :
    realisedRisk volume distance spec = .ok (volume * lossOver distance spec) := by
  unfold realisedRisk
  rw [lossPerLot_eq h]
  rfl

variable (spec) in
/-- **The normalised volume is the snapped one.** -/
theorem normaliseVolume_value {volume : ℚ} (h : 0 ≤ volume) :
    (normaliseVolume volume spec).value
      = snap spec.volumeStep.val.value spec.volumeMax.val.value volume := by
  unfold normaliseVolume snap truncate
  rw [Decimal.value_min, if_pos (div_nonneg h (step_pos spec).le)]
  congr 1
  unfold Decimal.value
  push_cast
  rw [mul_assoc]

/-- The legal volumes that lose no more than a budget. -/
def fundable (spec : InstrumentSpec) (perLot budget : ℚ) : Set ℚ :=
  {v | OnGrid spec.volumeStep.val.value v ∧ spec.volumeMin.val.value ≤ v
    ∧ v ≤ spec.volumeMax.val.value ∧ v * perLot ≤ budget}

theorem fundable_eq {perLot budget : ℚ} (h : 0 < perLot) :
    fundable spec perLot budget
      = within spec.volumeStep.val.value spec.volumeMin.val.value spec.volumeMax.val.value
          (budget / perLot) := by
  ext v
  unfold fundable within
  rw [Set.mem_ofPred_eq, Set.mem_ofPred_eq, le_div_iff₀ h]

variable (spec) in
/-- A sizing within a budget comes to the snapped volume, if that is the broker's minimum or
more. -/
theorem sizePosition_volume {equity fraction distance : ℚ} (hequity : 0 < equity)
    (hfraction : 0 < fraction) (hdistance : 0 < distance) :
    ∃ sizing, sizePosition equity fraction distance spec = .ok sizing
      ∧ sizing.riskAmount = equity * fraction
      ∧ ((sizing.volume = none
          ∧ snap spec.volumeStep.val.value spec.volumeMax.val.value
              (equity * fraction / lossOver distance spec) < spec.volumeMin.val.value)
        ∨ ∃ volume, sizing.volume = some volume
          ∧ volume.value = snap spec.volumeStep.val.value spec.volumeMax.val.value
              (equity * fraction / lossOver distance spec)
          ∧ spec.volumeMin.val.value ≤ volume.value) := by
  have hperLot : 0 < lossOver distance spec := lossOver_pos hdistance
  have hvalue := normaliseVolume_value spec
    (div_nonneg (mul_pos hequity hfraction).le hperLot.le)
  unfold sizePosition
  rw [if_neg (not_le.mpr hequity), lossPerLot_eq hdistance]
  simp only [bind, Except.bind]
  rw [if_neg (not_le.mpr hperLot), ← hvalue]
  split
  · rename_i hsmall
    exact ⟨_, rfl, rfl, .inl ⟨rfl, Decimal.lt_iff_value.mp hsmall⟩⟩
  · rename_i hlarge
    have hmin := Decimal.le_iff_value.mp (Decimal.not_lt.mp hlarge)
    split
    · rename_i hzero
      have hpos := lt_of_lt_of_le (volumeMin_pos spec) hmin
      exact absurd (Decimal.nonpos_iff_value.mp hzero) (not_le.mpr hpos)
    · exact ⟨_, rfl, rfl, .inr ⟨_, rfl, rfl, hmin⟩⟩

/-- What a sizing is for: the greatest legal volume whose loss the budget covers, and none
exactly if there is none. -/
structure Maximal (spec : InstrumentSpec) (perLot budget : ℚ) (volume : Option Decimal) : Prop where
  greatest : ∀ v ∈ volume, IsGreatest (fundable spec perLot budget) v.value
  refuses : volume = none ↔ fundable spec perLot budget = ∅

/-- No budget of nothing funds a legal volume. -/
theorem fundable_empty {perLot budget : ℚ} (hperLot : 0 < perLot) (h : budget ≤ 0) :
    fundable spec perLot budget = ∅ := by
  refine Set.eq_empty_iff_forall_notMem.mpr fun v ⟨_, hmin, _, hloss⟩ => ?_
  have hpos : 0 < v * perLot := mul_pos (lt_of_lt_of_le (volumeMin_pos spec) hmin) hperLot
  linarith

/-- **A sizing is maximal exactly if** the broker's maximum is a whole number of steps, or the
budget does not cover the first such number above it. -/
theorem sizePosition_maximal_iff (equity : Decimal) (fraction : RiskFraction)
    (distance : { d : ℚ // 0 < d }) (spec : InstrumentSpec) :
    ∃ sizing, sizePosition equity.value fraction.val.value distance.val spec = .ok sizing
      ∧ (Maximal spec (lossOver distance.val spec) (equity.value * fraction.val.value) sizing.volume
        ↔ OnGrid spec.volumeStep.val.value spec.volumeMax.val.value
          ∨ equity.value * fraction.val.value
            < (⌊spec.volumeMax.val.value / spec.volumeStep.val.value⌋ + 1)
              * spec.volumeStep.val.value * lossOver distance.val spec) := by
  have hperLot : 0 < lossOver distance.val spec := lossOver_pos distance.property
  have hfraction : 0 < fraction.val.value := Decimal.pos_iff_value.mp fraction.property.1
  have hstep := step_pos spec
  by_cases hequity : equity.value ≤ 0
  · refine ⟨_, if_pos hequity, ?_⟩
    have hbudget : equity.value * fraction.val.value ≤ 0 :=
      mul_nonpos_of_nonpos_of_nonneg hequity hfraction.le
    have hfloor : 0 ≤ ⌊spec.volumeMax.val.value / spec.volumeStep.val.value⌋ :=
      Int.floor_nonneg.mpr (div_nonneg
        (le_trans (volumeMin_pos spec).le (volumeMin_le_volumeMax spec)) hstep.le)
    have hnext : 0 < ((⌊spec.volumeMax.val.value / spec.volumeStep.val.value⌋ : ℚ) + 1)
        * spec.volumeStep.val.value * lossOver distance.val spec :=
      mul_pos (mul_pos (by exact_mod_cast Int.lt_add_one_of_le hfloor) hstep) hperLot
    refine ⟨fun _ => .inr (lt_of_le_of_lt hbudget hnext), fun _ => ⟨?_, ?_⟩⟩
    · exact fun v hv => absurd hv (Option.not_mem_none v)
    · exact ⟨fun _ => fundable_empty hperLot hbudget, fun _ => rfl⟩
  obtain ⟨sizing, hsizing, -, hcases⟩ := sizePosition_volume spec (not_le.mp hequity)
    hfraction distance.property
  refine ⟨sizing, hsizing, ?_⟩
  have hgreatest := snap_greatest_iff
    (equity.value * fraction.val.value / lossOver distance.val spec) hstep
    (volumeMin_le_volumeMax spec)
  rw [div_lt_iff₀ hperLot, ← fundable_eq hperLot] at hgreatest
  rw [← hgreatest]
  rcases hcases with ⟨hnone, hsmall⟩ | ⟨volume, hvolume, hvalue, hmin⟩
  · rw [hnone]
    constructor
    · rintro ⟨-, hrefuses⟩
      exact ⟨fun hle => absurd hsmall (not_lt.mpr hle),
        fun _ => hrefuses.mp rfl, fun _ => hsmall⟩
    · rintro ⟨-, hempty⟩
      exact ⟨fun v hv => absurd hv (Option.not_mem_none v), fun _ => hempty.mp hsmall, fun _ => rfl⟩
  · rw [hvolume, ← hvalue]
    constructor
    · rintro ⟨hmax, hrefuses⟩
      refine ⟨fun _ => hmax volume rfl, fun hsmall => absurd hmin (not_le.mpr hsmall),
        fun hempty => ?_⟩
      cases hrefuses.mpr hempty
    · rintro ⟨hmax, hempty⟩
      refine ⟨fun v hv => ?_, ⟨fun hnone => ?_, fun hnot => ?_⟩⟩
      · cases hv
        exact hmax hmin
      · cases hnone
      · exact absurd hmin (not_le.mpr (hempty.mpr hnot))

/-! ## The platform's own arithmetic -/

/-- No operation of a sizing has digits to round away. -/
structure Unrounded (equity fraction distance : Decimal) (spec : InstrumentSpec) : Prop where
  budget : Decimal.rounded (equity.value * fraction.value) = equity.value * fraction.value
  ticks : Decimal.rounded (distance.value / spec.tickSize.val.value)
    = distance.value / spec.tickSize.val.value
  perLot : Decimal.rounded (lossOver distance.value spec) = lossOver distance.value spec
  lots : Decimal.rounded (equity.value * fraction.value / lossOver distance.value spec)
    = equity.value * fraction.value / lossOver distance.value spec
  steps : Decimal.rounded (equity.value * fraction.value / lossOver distance.value spec
      / spec.volumeStep.val.value)
    = equity.value * fraction.value / lossOver distance.value spec / spec.volumeStep.val.value
  volume : Decimal.rounded (⌊equity.value * fraction.value / lossOver distance.value spec
      / spec.volumeStep.val.value⌋ * spec.volumeStep.val.value)
    = ⌊equity.value * fraction.value / lossOver distance.value spec
      / spec.volumeStep.val.value⌋ * spec.volumeStep.val.value

section

variable {equity fraction distance : Decimal} (h : Unrounded equity fraction distance spec)
include h

theorem Unrounded.lossOver_value :
    (Crumblr.lossOver distance spec).value = lossOver distance.value spec := by
  unfold Crumblr.lossOver
  rw [Decimal.value_mul, Decimal.value_div _ (Decimal.coeff_ne_zero_of_pos spec.tickSize.property),
    h.ticks]
  exact h.perLot

theorem Unrounded.fundedVolume_value (hequity : 0 < equity) (hfraction : 0 < fraction)
    (hdistance : 0 < distance) :
    (fundedVolume equity fraction distance spec).value
      = snap spec.volumeStep.val.value spec.volumeMax.val.value
          (equity.value * fraction.value / lossOver distance.value spec) := by
  have hexact : 0 < lossOver distance.value spec :=
    lossOver_pos (Decimal.pos_iff_value.mp hdistance)
  have hperLot : 0 < Crumblr.lossOver distance spec := by
    rw [Decimal.pos_iff_value, h.lossOver_value]
    exact hexact
  have hbudget : 0 < equity.value * fraction.value :=
    mul_pos (Decimal.pos_iff_value.mp hequity) (Decimal.pos_iff_value.mp hfraction)
  have hsteps : (equity * fraction / Crumblr.lossOver distance spec / spec.volumeStep.val).value
      = equity.value * fraction.value / lossOver distance.value spec
        / spec.volumeStep.val.value := by
    rw [Decimal.value_div _ (Decimal.coeff_ne_zero_of_pos spec.volumeStep.property),
      Decimal.value_div _ (Decimal.coeff_ne_zero_of_pos hperLot), Decimal.value_mul, h.budget,
      h.lossOver_value, h.lots, h.steps]
  have hnonneg : 0 ≤ (equity * fraction / Crumblr.lossOver distance spec
      / spec.volumeStep.val).value := by
    rw [hsteps]
    exact (div_pos (div_pos hbudget hexact) (step_pos spec)).le
  unfold fundedVolume Crumblr.normaliseVolume snap
  rw [Decimal.value_min, Decimal.value_mul, Decimal.value_toIntegralValue_down hnonneg, hsteps,
    h.volume]

/-- **Where nothing is rounded, the platform sizes as the exact sizing does.** -/
theorem sizePosition_exact (hfraction : 0 < fraction) (hdistance : 0 < distance) :
    ∃ sizing exact, Crumblr.sizePosition equity fraction distance spec = .ok sizing
      ∧ sizePosition equity.value fraction.value distance.value spec = .ok exact
      ∧ sizing.volume.map Decimal.value = exact.volume.map Decimal.value := by
  have hexact : 0 < lossOver distance.value spec :=
    lossOver_pos (Decimal.pos_iff_value.mp hdistance)
  by_cases hequity : equity ≤ 0
  · exact ⟨_, _, if_pos hequity, if_pos (Decimal.nonpos_iff_value.mp hequity), rfl⟩
  have hequity := Decimal.not_le.mp hequity
  have hfunded := h.fundedVolume_value hequity hfraction hdistance
  obtain ⟨sizing, hsizing, hcases⟩ := sizePosition_cases equity fraction spec hdistance
  obtain ⟨exact, hexactly, -, hexactCases⟩ := sizePosition_volume spec
    (Decimal.pos_iff_value.mp hequity) (Decimal.pos_iff_value.mp hfraction)
    (Decimal.pos_iff_value.mp hdistance)
  refine ⟨sizing, exact, hsizing, hexactly, ?_⟩
  rw [← hfunded] at hexactCases
  rcases hcases with ⟨volume, hvolume, hsized⟩ | ⟨hnone, hnot⟩
  · have hmin := Decimal.le_iff_value.mp hsized.minimum
    rw [hsized.funded] at hmin hvolume
    rcases hexactCases with ⟨-, hsmall⟩ | ⟨volume', hvolume', hvalue, -⟩
    · exact absurd hmin (not_le.mpr hsmall)
    · rw [hvolume, hvolume', Option.map_some, Option.map_some, hvalue]
  · rcases hexactCases with ⟨hnone', -⟩ | ⟨volume', hvolume', hvalue, hmin⟩
    · rw [hnone, hnone', Option.map_none]
    · rw [hvalue] at hmin
      rcases hnot with hbroke | hfree | hsmall | hzero
      · exact absurd hbroke (Decimal.not_le.mpr hequity)
      · rw [Decimal.nonpos_iff_value, h.lossOver_value] at hfree
        exact absurd hexact (not_lt.mpr hfree)
      · exact absurd hmin (not_le.mpr (Decimal.lt_iff_value.mp hsmall))
      · have hpos := lt_of_lt_of_le (volumeMin_pos spec) hmin
        exact absurd (Decimal.nonpos_iff_value.mp hzero) (not_le.mpr hpos)

end

/-! ## A maximum off the grid -/

end Crumblr.Exact

namespace Crumblr

namespace Sample

/-- Steps of two hundredths of a lot, and a maximum of five. -/
def offGridSpec : InstrumentSpec :=
  { spec with
    volumeMin := ⟨⟨2, -2⟩, by decide⟩
    volumeMax := ⟨⟨5, -2⟩, by decide⟩
    volumeStep := ⟨⟨2, -2⟩, by decide⟩
    volumeBounds := by decide }

end Sample

open Sample in
/-- A budget of half a lot is sized to the maximum, two and a half steps. -/
theorem sizing_off_grid :
    ∃ sizing, Exact.sizePosition 10000 (1 / 200) (1 / 1000) offGridSpec = .ok sizing
      ∧ sizing.volume = some ⟨5, -2⟩
      ∧ ¬ Exact.Maximal offGridSpec (Exact.lossOver (1 / 1000) offGridSpec) 50 sizing.volume := by
  have hrun : (Exact.sizePosition 10000 (1 / 200) (1 / 1000) offGridSpec).toOption.any
      (fun s => s.volume = some ⟨5, -2⟩) = true := by decide +kernel
  obtain ⟨sizing, hsizing, hvolume⟩ := exists_ok_of_any hrun
  have hvolume : sizing.volume = some ⟨5, -2⟩ := of_decide_eq_true hvolume
  refine ⟨sizing, hsizing, hvolume, fun hmax => ?_⟩
  obtain ⟨n, hn⟩ := (hmax.greatest ⟨5, -2⟩ hvolume).1.1
  simp only [Decimal.value, offGridSpec] at hn
  norm_num at hn
  have hodd : (5 : ℤ) = 2 * n := by
    have hn' : (5 : ℚ) = 2 * n := by linarith
    exact_mod_cast hn'
  omega

open Sample in
/-- So the platform does, whose arithmetic has nothing to round here. -/
example :
    (sizePosition ⟨10000, 0⟩ ⟨5, -3⟩ ⟨1, -3⟩ offGridSpec).toOption.map (·.volume)
      = some (some ⟨5, -2⟩) := by
  decide +kernel

end Crumblr
