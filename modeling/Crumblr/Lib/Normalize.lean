import Crumblr.Lib.Decimal
import Mathlib.Tactic.Ring

/-!
# The normal form of a decimal

`normalize` rounds to the working precision and drops the zeros at the end, so it forgets how a
number is written: equal values have one normal form. It forgets more than that only of numbers
with more digits than the working precision; of any other number it keeps the value.
-/

namespace Decimal

/-! ## Digits -/

theorem digits_le_iff {n k : Nat} (hk : 0 < k) : digits n ≤ k ↔ n < 10 ^ k :=
  Nat.length_toDigits_le_iff (by omega) hk

theorem lt_digits_iff {n k : Nat} (hk : 0 < k) : k < digits n ↔ 10 ^ k ≤ n := by
  rw [← Nat.not_le, digits_le_iff hk, Nat.not_lt]

theorem divRound_le {n d : Nat} : divRound .halfEven n d ≤ n / d + 1 := by
  unfold divRound
  dsimp only
  split
  · exact Nat.le_refl _
  · exact Nat.le_succ _

theorem digits_pos {n : Nat} : 0 < digits n := Nat.length_toDigits_pos

/-- A zero at the end is one digit more. -/
theorem digits_mul_ten {n : Nat} (hn : 0 < n) : digits (n * 10) = digits n + 1 := by
  have hpos : 0 < digits n := digits_pos
  have hlt : n < 10 ^ digits n := (digits_le_iff hpos).mp (Nat.le_refl _)
  apply Nat.le_antisymm
  · rw [digits_le_iff (by omega), pow_succ]
    omega
  · -- `n` needs all of its digits, so `10 * n` needs one more
    rw [Nat.succ_le_iff, lt_digits_iff hpos]
    rcases Nat.lt_or_ge 1 (digits n) with h1 | h1
    · have hge : 10 ^ (digits n - 1) ≤ n := (lt_digits_iff (by omega)).mp (by omega)
      calc 10 ^ digits n = 10 ^ (digits n - 1) * 10 := by
            rw [← pow_succ]; congr 1; omega
        _ ≤ n * 10 := Nat.mul_le_mul_right 10 hge
    · rw [show digits n = 1 by omega]
      omega

/-! ## Zeros at the end -/

/-- A positive number is a number that does not end in zero, with zeros after it. -/
theorem exists_trailing_zeros {n : Nat} (hn : 0 < n) :
    ∃ m j, n = m * 10 ^ j ∧ m % 10 ≠ 0 ∧ j < digits n := by
  induction n using Nat.strongRecOn with
  | _ n ih =>
      by_cases h0 : n % 10 = 0
      · have hn' : n = n / 10 * 10 := by omega
        obtain ⟨m, j, hm, hm0, hj⟩ := ih (n / 10) (by omega) (by omega)
        refine ⟨m, j + 1, ?_, hm0, ?_⟩
        · rw [pow_succ, ← Nat.mul_assoc, ← hm]
          exact hn'
        · rw [hn', digits_mul_ten (by omega)]
          omega
      · exact ⟨n, 0, by omega, h0, digits_pos⟩

/-- Stripping takes all of them, when it may go that far. -/
theorem stripTo_eq {m : Nat} (hm : m % 10 ≠ 0) {ideal : Int} :
    ∀ (j fuel : Nat) (e : Int), j ≤ fuel → e + j ≤ ideal →
      stripTo ideal fuel (m * 10 ^ j) e = (m, e + j) := by
  intro j
  induction j with
  | zero =>
      intro fuel e _ _
      cases fuel with
      | zero => simp [stripTo]
      | succ fuel => simp [stripTo, hm]
  | succ j ih =>
      intro fuel e hfuel hideal
      obtain ⟨fuel, rfl⟩ := Nat.exists_eq_succ_of_ne_zero (show fuel ≠ 0 by omega)
      have hten : m * 10 ^ (j + 1) = m * 10 ^ j * 10 := by ring
      rw [stripTo, if_pos ⟨by omega, by omega⟩, hten, Nat.mul_div_cancel _ (by omega),
        ih fuel (e + 1) (by omega) (by omega)]
      exact Prod.ext rfl (by push_cast; ring)

/-- The normal form, where no digit is lost. -/
theorem normalize_of_digits {c : Int} {m j : Nat} {e : Int} (hc : c.natAbs = m * 10 ^ j)
    (hm : m % 10 ≠ 0) (hj : j ≤ prec) (hdigits : digits c.natAbs ≤ prec) :
    normalize ⟨c, e⟩ = ⟨signed c m, e + j⟩ := by
  have hc0 : c ≠ 0 := by
    rintro rfl
    have hzero : m * 10 ^ j = 0 := hc.symm
    rcases Nat.mul_eq_zero.mp hzero with h | h
    · exact hm (by rw [h])
    · exact absurd h (Nat.pow_pos (by omega)).ne'
  have hfix : fix ⟨c, e⟩ = ⟨c, e⟩ := by
    unfold fix
    exact if_pos hdigits
  unfold normalize
  simp only [hfix, if_neg hc0, hc]
  rw [stripTo_eq hm j (prec + 1) e (by omega) (by omega)]

/-! ## Rounding -/

/-- A zero at the end of both does not change a rounded quotient. -/
theorem divRound_mul_ten {n d : Nat} : divRound .halfEven (n * 10) (d * 10) = divRound .halfEven n d := by
  unfold divRound
  simp only [Nat.mul_div_mul_right n d (show 0 < 10 by omega), Nat.mul_mod_mul_right]
  congr 1
  rw [eq_iff_iff]
  constructor <;> intro h <;> omega

theorem divRound_one {n : Nat} : divRound .halfEven n 1 = n := by
  unfold divRound
  simp [Nat.mod_one]

/-- **Rounding does not see a zero at the end** of a number it has to shorten, or just not. -/
theorem fix_mul_ten {c e : Int} (h : prec ≤ digits c.natAbs) :
    fix ⟨c * 10, e - 1⟩ = fix ⟨c, e⟩ := by
  have hpos : 0 < c.natAbs := by
    rcases Nat.eq_zero_or_pos c.natAbs with h0 | h0
    · rw [h0] at h
      exact absurd h (by decide +kernel)
    · exact h0
  have habs : (c * 10).natAbs = c.natAbs * 10 := by rw [Int.natAbs_mul]; rfl
  have hsigned : ∀ n, signed (c * 10) n = signed c n := by
    intro n
    unfold signed
    congr 1
    rw [eq_iff_iff]
    constructor <;> intro <;> omega
  have hlong : ¬ digits c.natAbs + 1 ≤ prec := by omega
  have hshift : digits c.natAbs + 1 - prec = digits c.natAbs - prec + 1 := by omega
  unfold fix
  simp only [habs, digits_mul_ten hpos, if_neg hlong, hsigned, hshift, pow_succ, divRound_mul_ten]
  by_cases hle : digits c.natAbs ≤ prec
  · -- the shorter one needs no rounding: it has exactly the working precision
    have heq : digits c.natAbs - prec = 0 := by omega
    rw [if_pos hle, heq, pow_zero, divRound_one, if_pos hle]
    refine congrArg₂ mk ?_ (by push_cast; ring)
    unfold signed
    split <;> omega
  · rw [if_neg hle]
    split
    · exact congrArg₂ mk rfl (by push_cast; ring)
    · exact congrArg₂ mk rfl (by push_cast; ring)

/-! ## Equal values have one normal form -/

theorem normalize_zero {e : Int} : normalize ⟨0, e⟩ = ⟨0, 0⟩ := by
  have hfix : fix ⟨0, e⟩ = ⟨0, e⟩ := if_pos (show digits 0 ≤ prec by decide +kernel)
  unfold normalize
  rw [hfix]
  rfl

/-- A zero at the end makes no difference. -/
theorem normalize_mul_ten (c e : Int) : normalize ⟨c * 10, e - 1⟩ = normalize ⟨c, e⟩ := by
  by_cases hc : c = 0
  · subst hc
    rw [Int.zero_mul, normalize_zero, normalize_zero]
  rcases Nat.lt_or_ge (digits c.natAbs) prec with hshort | hlong
  · -- both are short: what is left when the zeros are gone is the same
    have hpos : 0 < c.natAbs := Int.natAbs_pos.mpr hc
    have habs : (c * 10).natAbs = c.natAbs * 10 := by rw [Int.natAbs_mul]; rfl
    obtain ⟨m, j, hm, hm0, hj⟩ := exists_trailing_zeros hpos
    have hm' : (c * 10).natAbs = m * 10 ^ (j + 1) := by rw [habs, hm, pow_succ, Nat.mul_assoc]
    rw [normalize_of_digits hm hm0 (by omega) (by omega),
      normalize_of_digits hm' hm0 (by omega) (by rw [habs, digits_mul_ten hpos]; omega)]
    refine congrArg₂ mk ?_ (by push_cast; ring)
    unfold signed
    split <;> split <;> omega
  · unfold normalize
    rw [fix_mul_ten hlong]

theorem normalize_mul_pow (c e : Int) : ∀ k : Nat, normalize ⟨c * 10 ^ k, e - k⟩ = normalize ⟨c, e⟩
  | 0 => by simp
  | k + 1 => by
      have hstep := normalize_mul_ten (c * 10 ^ k) (e - k)
      rw [normalize_mul_pow c e k] at hstep
      rw [← hstep]
      congr 2
      · ring
      · push_cast
        ring

/-- Written with a smaller exponent, a number has the same normal form. -/
theorem normalize_align {x : Decimal} {e : Int} (he : e ≤ x.exp) :
    normalize ⟨x.align e, e⟩ = x.normalize := by
  have hpow := normalize_mul_pow x.coeff x.exp (x.exp - e).toNat
  rw [show x.exp - ((x.exp - e).toNat : Int) = e by omega] at hpow
  exact hpow

/-- **Equal values have one normal form.** -/
theorem normalize_congr {x y : Decimal} (h : x.compare y = .eq) : x.normalize = y.normalize := by
  have halign : x.align (Min.min x.exp y.exp) = y.align (Min.min x.exp y.exp) :=
    compare_eq_iff_eq.mp h
  rw [← normalize_align (min_le_left x.exp y.exp), ← normalize_align (min_le_right x.exp y.exp),
    halign]

/-! ## What a normal form keeps -/

/-- **Within the working precision the value is kept.** -/
theorem compare_normalize {x : Decimal} (h : digits x.coeff.natAbs ≤ prec) :
    x.compare x.normalize = .eq := by
  obtain ⟨c, e⟩ := x
  have hdigits : digits c.natAbs ≤ prec := h
  by_cases hc : c = 0
  · subst hc
    rw [normalize_zero]
    exact compare_eq_iff_eq.mpr (by simp [align])
  · obtain ⟨m, j, hm, hm0, hj⟩ := exists_trailing_zeros (Int.natAbs_pos.mpr hc)
    rw [normalize_of_digits hm hm0 (by omega) hdigits]
    refine compare_eq_iff_eq.mpr ?_
    have hmin : Min.min e (e + j) = e := by omega
    have hzero : (e - e).toNat = 0 := by omega
    have hexp : (e + j - e).toNat = j := by omega
    simp only [align, hmin, hzero, hexp, pow_zero, Int.mul_one]
    -- the zeros are all that was dropped
    have hpow : (m : Int) * 10 ^ j = c.natAbs := by exact_mod_cast hm.symm
    unfold signed
    split
    · rw [Int.neg_mul, hpow]
      omega
    · rw [hpow]
      omega

theorem compare_refl (x : Decimal) : x.compare x = .eq := compare_eq_iff_eq.mpr rfl

theorem compare_symm {x y : Decimal} (h : x.compare y = .eq) : y.compare x = .eq :=
  compare_eq.mpr (compare_eq.mp h).symm

theorem compare_trans {x y z : Decimal} (h : x.compare y = .eq) (h' : y.compare z = .eq) :
    x.compare z = .eq := by
  obtain ⟨hxy, hyx⟩ := compare_eq.mp h
  obtain ⟨hyz, hzy⟩ := compare_eq.mp h'
  exact compare_eq.mpr ⟨le_trans hxy hyz, le_trans hzy hyx⟩

/-- So there two decimals of one normal form have one value. -/
theorem compare_eq_of_normalize {x y : Decimal} (hx : digits x.coeff.natAbs ≤ prec)
    (hy : digits y.coeff.natAbs ≤ prec) (h : x.normalize = y.normalize) : x.compare y = .eq := by
  have hnormal := compare_normalize hx
  rw [h] at hnormal
  exact compare_trans hnormal (compare_symm (compare_normalize hy))

/-- A digit past the working precision is not in the normal form. -/
example : normalize ⟨10 ^ 29 + 1, -29⟩ = normalize ⟨1, 0⟩ := by decide +kernel

end Decimal
