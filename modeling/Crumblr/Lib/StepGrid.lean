import Mathlib.Algebra.Order.Floor.Ring
import Mathlib.Data.Rat.Floor
import Mathlib.Order.Bounds.Basic
import Mathlib.Tactic.FieldSimp
import Mathlib.Tactic.Linarith

/-!
# Whole steps under a cap

The multiples of a step between a floor and a cap, as many of them as a limit allows. To
snap the limit down to the grid and clamp it to the cap gives the greatest of them if the
cap is on the grid. If it is not, the clamp leaves the grid, and does so exactly when the
limit reaches the first multiple above the cap.
-/

namespace StepGrid

variable {K : Type} [Field K] [LinearOrder K] [IsStrictOrderedRing K] [FloorRing K]

/-- A whole number of steps. -/
def OnGrid (step v : K) : Prop := ∃ n : ℤ, v = n * step

/-- The multiples of `step` from `lo` to `cap` that are no more than `limit`. -/
def within (step lo cap limit : K) : Set K := {v | OnGrid step v ∧ lo ≤ v ∧ v ≤ cap ∧ v ≤ limit}

/-- The limit, snapped down to the grid and clamped to the cap. -/
def snap (step cap limit : K) : K := min (⌊limit / step⌋ * step) cap

variable {step lo cap limit v : K}

section

variable (hstep : 0 < step)
include hstep

theorem floor_mul_le : ⌊limit / step⌋ * step ≤ limit :=
  (le_div_iff₀ hstep).mp (Int.floor_le _)

/-- The multiples within a limit are those of no more steps than the limit has. -/
theorem mul_le_iff (n : ℤ) : n * step ≤ limit ↔ n ≤ ⌊limit / step⌋ := by
  rw [← le_div_iff₀ hstep]
  exact Int.le_floor.symm

theorem lt_iff_floor (n : ℤ) : limit < n * step ↔ ⌊limit / step⌋ < n := by
  rw [← not_le, mul_le_iff hstep, not_le]

/-- Snapping down does not pass over a multiple. -/
theorem le_snap (hv : OnGrid step v) (hcap : v ≤ cap) (hlimit : v ≤ limit) :
    v ≤ snap step cap limit := by
  obtain ⟨n, rfl⟩ := hv
  have hn := (mul_le_iff hstep n).mp hlimit
  exact le_min (mul_le_mul_of_nonneg_right (by exact_mod_cast hn) hstep.le) hcap

theorem snap_le_limit : snap step cap limit ≤ limit :=
  le_trans (min_le_left _ _) (floor_mul_le hstep)

/-- Where nothing is clamped, what is snapped is on the grid. -/
theorem snap_onGrid (h : OnGrid step cap ∨ limit < (⌊cap / step⌋ + 1) * step) :
    OnGrid step (snap step cap limit) := by
  rcases h with hcap | hlimit
  · unfold snap
    rcases min_choice (⌊limit / step⌋ * step) cap with heq | heq
    · exact ⟨_, heq⟩
    · rw [heq]
      exact hcap
  · have hfloor : ⌊limit / step⌋ ≤ ⌊cap / step⌋ := by
      have hlt := (lt_iff_floor hstep (⌊cap / step⌋ + 1)).mp (by exact_mod_cast hlimit)
      omega
    exact ⟨_, min_eq_left ((mul_le_iff hstep _).mpr hfloor)⟩

/-- A cap off the grid that clamps is what comes out. -/
theorem snap_eq_cap (h : (⌊cap / step⌋ + 1) * step ≤ limit) : snap step cap limit = cap := by
  have hfloor : ⌊cap / step⌋ + 1 ≤ ⌊limit / step⌋ :=
    (mul_le_iff hstep _).mp (by exact_mod_cast h)
  refine min_eq_right ?_
  have hlt : cap < ⌊limit / step⌋ * step := (lt_iff_floor hstep _).mpr (by omega)
  exact hlt.le

variable (limit) in
/-- **The snapped limit is the greatest multiple within it**, or below the floor if there is
none, exactly if the cap is on the grid or is not passed by a whole step. -/
theorem snap_greatest_iff (hlo : lo ≤ cap) :
    ((lo ≤ snap step cap limit → IsGreatest (within step lo cap limit) (snap step cap limit))
        ∧ (snap step cap limit < lo ↔ within step lo cap limit = ∅))
      ↔ OnGrid step cap ∨ limit < (⌊cap / step⌋ + 1) * step := by
  constructor
  · rintro ⟨hgreatest, -⟩
    by_contra hnot
    simp only [not_or, not_lt] at hnot
    have heq := snap_eq_cap hstep hnot.2
    rw [heq] at hgreatest
    exact hnot.1 (hgreatest hlo).1.1
  · intro h
    have hgrid := snap_onGrid hstep h
    have hcap : snap step cap limit ≤ cap := min_le_right _ _
    refine ⟨fun hfloor => ⟨⟨hgrid, hfloor, hcap, snap_le_limit hstep⟩, fun v hv => ?_⟩, ?_, ?_⟩
    · exact le_snap hstep hv.1 hv.2.2.1 hv.2.2.2
    · intro hsmall
      refine Set.eq_empty_iff_forall_notMem.mpr fun v hv => ?_
      have hle := le_snap hstep hv.1 hv.2.2.1 hv.2.2.2
      exact absurd (le_trans hv.2.1 hle) (not_le.mpr hsmall)
    · intro hempty
      by_contra hfloor
      have hmem : snap step cap limit ∈ within step lo cap limit :=
        ⟨hgrid, not_lt.mp hfloor, hcap, snap_le_limit hstep⟩
      rw [hempty] at hmem
      exact hmem

end

end StepGrid
