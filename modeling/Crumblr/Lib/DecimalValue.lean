import Crumblr.Lib.Normalize
import Crumblr.Lib.Rounding
import Crumblr.Lib.StepGrid
import Mathlib.Data.Nat.Cast.Field
import Mathlib.Data.Nat.Cast.Order.Field
import Mathlib.Data.Rat.Floor
import Mathlib.Algebra.Order.Field.Power
import Mathlib.Tactic.Positivity

/-!
# What a decimal stands for

The rational a decimal is written for, and the arithmetic in these terms: an operation is
the exact one, rounded half-even to 28 significant digits. The quotient is computed from
a guard digit and a sticky bit, and is the rounded exact quotient all the same. As
rounding is monotone, so is every operation, wherever the exact one is.
-/

namespace Decimal

open SigDigits

def value (x : Decimal) : ℚ := x.coeff * 10 ^ x.exp

/-- A rational, rounded to the working precision. -/
def rounded (t : ℚ) : ℚ := roundSig 10 prec t

variable {x y z : Decimal}

/-! ## Order and sign -/

theorem value_align {e : Int} (he : e ≤ x.exp) : (x.align e : ℚ) * 10 ^ e = x.value := by
  unfold align value
  push_cast
  rw [mul_assoc, ← zpow_natCast, ← zpow_add₀ (by norm_num)]
  congr 2
  omega

theorem le_iff_value : x ≤ y ↔ x.value ≤ y.value := by
  have hx : Min.min x.exp y.exp ≤ x.exp := min_le_left ..
  have hy : Min.min x.exp y.exp ≤ y.exp := min_le_right ..
  rw [le_iff_align hx hy, ← value_align hx, ← value_align hy,
    mul_le_mul_iff_of_pos_right (by positivity)]
  exact Int.cast_le.symm

theorem lt_iff_value : x < y ↔ x.value < y.value := by
  rw [← not_le, le_iff_value, Rat.not_le]

@[simp] theorem value_natCast (n : Nat) : (⟨n, 0⟩ : Decimal).value = n := by simp [value]

@[simp] theorem value_zero : (0 : Decimal).value = 0 := by
  have h : (0 : Decimal) = ⟨(0 : Nat), 0⟩ := rfl
  rw [h, value_natCast, Nat.cast_zero]

theorem value_one : (1 : Decimal).value = 1 := value_natCast 1

theorem pos_iff_value : 0 < x ↔ 0 < x.value := by rw [lt_iff_value, value_zero]

theorem nonpos_iff_value : x ≤ 0 ↔ x.value ≤ 0 := by rw [le_iff_value, value_zero]

theorem coeff_ne_zero_of_pos (h : 0 < x) : x.coeff ≠ 0 := by
  intro hzero
  rw [pos_iff_value, value, hzero] at h
  simp at h

theorem value_min : (x.min y).value = Min.min x.value y.value := by
  unfold min
  split
  · rename_i h
    rw [min_eq_right (lt_iff_value.mp h).le]
  · rename_i h
    rw [min_eq_left (le_iff_value.mp (not_lt.mp h))]

theorem signed_value (c : Int) (n : Nat) : ((signed c n : Int) : ℚ) = if c < 0 then -(n : ℚ) else n := by
  unfold signed
  split <;> simp

/-! ## Rounding a fraction -/

theorem rounded_neg (t : ℚ) : rounded (-t) = -rounded t := roundSig_neg t

theorem rounded_mono {t t' : ℚ} (h : t ≤ t') : rounded t ≤ rounded t' :=
  roundSig_mono (by decide) (by decide) h

@[simp] theorem rounded_zero : rounded 0 = 0 := roundSig_zero

/-- What fits the working precision is not rounded. -/
theorem rounded_of_digits {n : Int} (hn : digits n.natAbs ≤ prec) (e : Int) :
    rounded (n * 10 ^ e) = n * 10 ^ e := by
  have hlt : |n| < ((10 : ℕ) : Int) ^ prec := by
    have hn' : n.natAbs < 10 ^ prec := (digits_le_iff (by decide)).mp hn
    rw [Int.abs_eq_natAbs]
    exact_mod_cast hn'
  exact roundSig_of_digits (K := ℚ) (by decide) hlt

/-- Nor is one unit more than there are digits for. -/
theorem rounded_units {n : Nat} (hn : n ≤ 10 ^ prec) (e : Int) :
    rounded (n * 10 ^ e) = n * 10 ^ e := by
  rcases Nat.lt_or_eq_of_le hn with hlt | rfl
  · exact rounded_of_digits (n := (n : Int)) ((digits_le_iff (by decide)).mpr hlt) e
  · have hone := rounded_of_digits (n := 1) (by decide) (prec + e)
    rw [Int.cast_one, one_mul, zpow_add₀ (by norm_num), zpow_natCast] at hone
    push_cast
    exact hone

theorem rounded_one : rounded 1 = 1 := by
  have h := rounded_units (n := 1) (by decide) 0
  simpa using h

theorem divRound_eq_halfEven (n d : Nat) (hd : 0 < d) :
    (divRound .halfEven n d : Int) = halfEven ((n : ℚ) / d) := by
  have hfloor : ⌊(n : ℚ) / d⌋ = ((n / d : Nat) : Int) := Rat.floor_natCast_div_natCast n d
  have hfract : Int.fract ((n : ℚ) / d) = ((n % d : Nat) : ℚ) / d :=
    Int.fract_div_natCast_eq_div_natCast_mod
  have hd' : (0 : ℚ) < d := by exact_mod_cast hd
  have hlt : Int.fract ((n : ℚ) / d) < 1 / 2 ↔ 2 * (n % d) < d := by
    rw [hfract, div_lt_div_iff₀ hd' two_pos, one_mul, mul_comm]
    exact_mod_cast Iff.rfl
  have htie : Int.fract ((n : ℚ) / d) = 1 / 2 ↔ 2 * (n % d) = d := by
    rw [hfract, div_eq_div_iff hd'.ne' two_ne_zero, one_mul, mul_comm]
    exact_mod_cast Iff.rfl
  unfold divRound halfEven
  dsimp only
  simp only [hfloor, hlt, htie]
  split <;> split <;> omega

/-- **How a fraction is rounded** whose integral part has `k` digits too many. -/
theorem rounded_fraction {num den k : Nat} (hden : 0 < den)
    (hlo : 10 ^ (k + 27) * den ≤ num) (hhi : num < 10 ^ (k + 28) * den) (e : Int) :
    rounded ((num : ℚ) / den * 10 ^ e) = divRound .halfEven num (den * 10 ^ k) * 10 ^ (e + k) := by
  have hden' : (0 : ℚ) < den := by exact_mod_cast hden
  have hpow : ((10 : ℕ) : ℚ) ^ (e + k) = 10 ^ k * 10 ^ e := by
    rw [Nat.cast_ofNat, zpow_add₀ (by norm_num), zpow_natCast, mul_comm]
  have hlo' : ((10 : ℕ) : ℚ) ^ (e + k + (prec : ℕ) - 1) ≤ (num : ℚ) / den * 10 ^ e := by
    have hexp : e + k + ((prec : ℕ) : Int) - 1 = ((k + 27 : ℕ) : Int) + e := by
      unfold prec
      push_cast
      ring
    rw [hexp, Nat.cast_ofNat, zpow_add₀ (by norm_num), zpow_natCast]
    refine mul_le_mul_of_nonneg_right ?_ (by positivity)
    rw [le_div_iff₀ hden']
    exact_mod_cast hlo
  have hhi' : (num : ℚ) / den * 10 ^ e < ((10 : ℕ) : ℚ) ^ (e + k + (prec : ℕ)) := by
    have hexp : e + k + ((prec : ℕ) : Int) = ((k + 28 : ℕ) : Int) + e := by
      unfold prec
      push_cast
      ring
    rw [hexp, Nat.cast_ofNat, zpow_add₀ (by norm_num), zpow_natCast]
    refine mul_lt_mul_of_pos_right ?_ (by positivity)
    rw [div_lt_iff₀ hden']
    exact_mod_cast hhi
  have hpos : 0 < (num : ℚ) / den * 10 ^ e := lt_of_lt_of_le (by positivity) hlo'
  have hcount : (num : ℚ) / den * 10 ^ e / ((10 : ℕ) : ℚ) ^ (e + k)
      = (num : ℚ) / ((den * 10 ^ k : ℕ) : ℚ) := by
    rw [hpow]
    push_cast
    field_simp
  unfold rounded
  rw [roundSig_of_pos hpos, roundPos_eq (by decide) hlo' hhi', hcount,
    ← divRound_eq_halfEven _ _ (by positivity)]
  push_cast
  rfl

/-- **Rounding a decimal rounds its value.** -/
theorem value_fix (x : Decimal) : (fix x).value = rounded x.value := by
  by_cases hfits : digits x.coeff.natAbs ≤ prec
  · unfold fix
    simp only [if_pos hfits]
    exact (rounded_of_digits hfits x.exp).symm
  have hk : digits x.coeff.natAbs - prec + prec = digits x.coeff.natAbs := by omega
  generalize hkdef : digits x.coeff.natAbs - prec = k at hk
  have hlo : 10 ^ (k + 27) * 1 ≤ x.coeff.natAbs := by
    rw [mul_one]
    refine (lt_digits_iff (by omega)).mp ?_
    unfold prec at hk
    omega
  have hhi : x.coeff.natAbs < 10 ^ (k + 28) * 1 := by
    rw [mul_one]
    exact (digits_le_iff (by omega)).mp (by unfold prec at hk; omega)
  have hmag := rounded_fraction one_pos hlo hhi x.exp
  rw [Nat.cast_one, div_one, one_mul] at hmag
  -- the carry into one digit more drops a zero, not a digit
  have hcarry : (fix x).value
      = signed x.coeff (divRound .halfEven x.coeff.natAbs (10 ^ k)) * 10 ^ (x.exp + k) := by
    unfold fix
    simp only [if_neg hfits, hkdef]
    split
    · rfl
    · rename_i hlong
      have hten : divRound .halfEven x.coeff.natAbs (10 ^ k) = 10 ^ 28 := by
        have hge : 10 ^ 28 ≤ divRound .halfEven x.coeff.natAbs (10 ^ k) :=
          (lt_digits_iff (by omega)).mp (by unfold prec at hlong; omega)
        have hle : x.coeff.natAbs / 10 ^ k < 10 ^ 28 := by
          rw [Nat.div_lt_iff_lt_mul (by positivity), ← pow_add, Nat.add_comm]
          simpa using hhi
        have hup : divRound .halfEven x.coeff.natAbs (10 ^ k) ≤ x.coeff.natAbs / 10 ^ k + 1 :=
          divRound_le
        omega
      unfold value
      dsimp only
      rw [hten, signed_value, signed_value, zpow_add₀ (by norm_num) (x.exp + k) 1]
      split <;> norm_num <;> ring
  rw [hcarry, signed_value]
  unfold value
  rcases lt_or_ge x.coeff 0 with hneg | hpos
  · have habs : (x.coeff : ℚ) = -(x.coeff.natAbs : ℚ) := by
      rw [Nat.cast_natAbs, abs_of_neg hneg, Int.cast_neg, neg_neg]
    rw [if_pos hneg, habs, neg_mul, neg_mul, rounded_neg, hmag]
  · have habs : (x.coeff : ℚ) = (x.coeff.natAbs : ℚ) := by
      rw [Nat.cast_natAbs, abs_of_nonneg hpos]
    rw [if_neg (by omega), habs, hmag]

theorem natAbs_signed (c : Int) (n : Nat) : (signed c n).natAbs = n := by
  unfold signed
  split <;> omega

/-- What is rounded fits the working precision. -/
theorem digits_fix (x : Decimal) : digits (fix x).coeff.natAbs ≤ prec := by
  unfold fix
  dsimp only
  split
  · assumption
  · rename_i hlong
    split
    · rename_i hfits
      rw [natAbs_signed]
      exact hfits
    · -- it was rounded up to the next power of ten
      rw [natAbs_signed, digits_le_iff (by decide)]
      have hn : x.coeff.natAbs < 10 ^ (prec + (digits x.coeff.natAbs - prec)) :=
        (digits_le_iff (by unfold prec; omega)).mp (by omega)
      have hquotient : x.coeff.natAbs / 10 ^ (digits x.coeff.natAbs - prec) < 10 ^ prec := by
        rw [Nat.div_lt_iff_lt_mul (Nat.pow_pos (by decide)), ← pow_add]
        exact hn
      calc divRound .halfEven x.coeff.natAbs (10 ^ (digits x.coeff.natAbs - prec)) / 10
          ≤ 10 ^ prec / 10 := Nat.div_le_div_right (divRound_le.trans hquotient)
        _ < 10 ^ prec := by decide

/-- Rounding once is enough. -/
theorem rounded_value_of_digits (h : digits x.coeff.natAbs ≤ prec) : rounded x.value = x.value :=
  rounded_of_digits h x.exp

/-! ## The operations -/

theorem value_add (x y : Decimal) : (x + y).value = rounded (x.value + y.value) := by
  have hx : Min.min x.exp y.exp ≤ x.exp := min_le_left ..
  have hy : Min.min x.exp y.exp ≤ y.exp := min_le_right ..
  change (fix ⟨x.align (Min.min x.exp y.exp) + y.align (Min.min x.exp y.exp), _⟩).value = _
  rw [value_fix, ← value_align hx, ← value_align hy, ← add_mul, ← Int.cast_add]
  rfl

theorem value_sub (x y : Decimal) : (x - y).value = rounded (x.value - y.value) := by
  have hx : Min.min x.exp y.exp ≤ x.exp := min_le_left ..
  have hy : Min.min x.exp y.exp ≤ y.exp := min_le_right ..
  change (fix ⟨x.align (Min.min x.exp y.exp) - y.align (Min.min x.exp y.exp), _⟩).value = _
  rw [value_fix, ← value_align hx, ← value_align hy, ← sub_mul, ← Int.cast_sub]
  rfl

theorem value_mul (x y : Decimal) : (x * y).value = rounded (x.value * y.value) := by
  change (fix ⟨x.coeff * y.coeff, x.exp + y.exp⟩).value = _
  rw [value_fix]
  congr 1
  unfold value
  dsimp only
  rw [Int.cast_mul, zpow_add₀ (by norm_num)]
  ring

theorem value_abs (x : Decimal) : x.abs.value = rounded |x.value| := by
  unfold abs
  rw [value_fix]
  congr 1
  unfold value
  rw [abs_mul, abs_of_pos (show (0 : ℚ) < 10 ^ x.exp by positivity)]
  push_cast
  rfl

/-- Stripping zeros keeps the value. -/
theorem stripTo_value (ideal : Int) (fuel : Nat) : ∀ (c : Nat) (e : Int),
    ((stripTo ideal fuel c e).1 : ℚ) * 10 ^ (stripTo ideal fuel c e).2 = c * 10 ^ e := by
  induction fuel with
  | zero => exact fun c e => rfl
  | succ fuel ih =>
      intro c e
      unfold stripTo
      split
      · rename_i h
        obtain ⟨d, rfl⟩ : ∃ d, c = d * 10 := ⟨c / 10, by omega⟩
        rw [ih, Nat.mul_div_cancel _ (by omega), zpow_add₀ (by norm_num) e 1]
        push_cast
        ring
      · rfl

/-- **A sticky digit is as good as the fraction it stands for**: rounding at a later place
cannot tell them apart. -/
theorem divRound_sticky {num den k : Nat} (hden : 0 < den) (hk : 0 < k)
    (hrem : num % den ≠ 0) :
    divRound .halfEven (if num / den % 5 = 0 then num / den + 1 else num / den) (10 ^ k)
      = divRound .halfEven num (den * 10 ^ k) := by
  -- half of the place rounded at is a multiple of five
  obtain ⟨j, rfl⟩ := Nat.exists_eq_succ_of_ne_zero hk.ne'
  have hplace : 10 ^ (j + 1) = 2 * (5 * 10 ^ j) := by ring
  have hpos : 0 < 10 ^ j := by positivity
  have hrlt : num % den < den := Nat.mod_lt _ hden
  have hquot : num / (den * 10 ^ (j + 1)) = num / den / 10 ^ (j + 1) := by
    rw [Nat.div_div_eq_div_mul]
  have hmod : num % (den * 10 ^ (j + 1))
      = num % den + den * (num / den % 10 ^ (j + 1)) := Nat.mod_mul
  generalize hq : num / den = q at *
  generalize hr : num % den = r at *
  generalize hH : 5 * 10 ^ j = H at *
  have hfive : H % 5 = 0 := by omega
  have hHpos : 0 < H := by omega
  rw [hplace] at hquot hmod
  have hm : q % (2 * H) < 2 * H := Nat.mod_lt _ (by omega)
  have hmfive : q % (2 * H) % 5 = q % 5 := Nat.mod_mod_of_dvd q ⟨2 * 10 ^ j, by omega⟩
  have hsplit : q = 2 * H * (q / (2 * H)) + q % (2 * H) := (Nat.div_add_mod _ _).symm
  generalize hmdef : q % (2 * H) = m at *
  -- the exact fraction is past the half exactly when the integral part is not short of it
  have hexact : (den * (2 * H) < 2 * (r + den * m)) ↔ H ≤ m := by
    constructor
    · intro h
      by_contra hlt
      have hle : den * (m + 1) ≤ den * H := Nat.mul_le_mul_left _ (by omega)
      rw [Nat.mul_add, Nat.mul_one] at hle
      have hassoc : den * (2 * H) = 2 * (den * H) := by ring
      omega
    · intro h
      have hle : den * H ≤ den * m := Nat.mul_le_mul_left _ h
      have hassoc : den * (2 * H) = 2 * (den * H) := by ring
      omega
  have htie : ¬ 2 * (r + den * m) = den * (2 * H) := by
    intro h
    have hassoc : den * (2 * H) = 2 * (den * H) := by ring
    have heq : r + den * m = den * H := by omega
    rcases Nat.lt_or_ge m H with hlt | hge
    · have hle : den * (m + 1) ≤ den * H := Nat.mul_le_mul_left _ (by omega)
      rw [Nat.mul_add, Nat.mul_one] at hle
      omega
    · have hle : den * H ≤ den * m := Nat.mul_le_mul_left _ hge
      omega
  have hright : divRound .halfEven num (den * 10 ^ (j + 1))
      = if H ≤ m then q / (2 * H) + 1 else q / (2 * H) := by
    unfold divRound
    dsimp only
    rw [hplace, hquot, hmod]
    simp only [hexact, htie, false_and, or_false]
  rw [hright]
  unfold divRound
  dsimp only
  rw [hplace]
  by_cases hsticky : q % 5 = 0
  · have hnext : (q + 1) % (2 * H) = m + 1 ∧ (q + 1) / (2 * H) = q / (2 * H) := by
      have hroom : m + 1 < 2 * H := by omega
      have heq : q + 1 = m + 1 + 2 * H * (q / (2 * H)) := by omega
      constructor
      · rw [heq, Nat.add_mul_mod_self_left, Nat.mod_eq_of_lt hroom]
      · conv_lhs => rw [heq]
        rw [Nat.add_mul_div_left _ _ (by omega), Nat.div_eq_of_lt hroom, Nat.zero_add]
    rw [if_pos hsticky, hnext.1, hnext.2]
    split <;> split <;> omega
  · rw [if_neg hsticky, hmdef]
    split <;> split <;> omega

/-- A signed magnitude, rounded. -/
theorem value_fix_signed (c : Int) (n : Nat) (e : Int) :
    (fix ⟨signed c n, e⟩).value
      = if c < 0 then -rounded ((n : ℚ) * 10 ^ e) else rounded ((n : ℚ) * 10 ^ e) := by
  rw [value_fix]
  unfold value
  rw [signed_value]
  split
  · rw [neg_mul, rounded_neg]
  · rfl

section

variable {num den : Nat} {e : Int}

/-- What a guard digit and a sticky bit leave of a quotient is rounded as the quotient is. -/
theorem rounded_sticky (hden : 0 < den) (hlo : 10 ^ 28 * den ≤ num) (hhi : num < 10 ^ 30 * den)
    (hrem : num % den ≠ 0) :
    rounded (((if num / den % 5 = 0 then num / den + 1 else num / den : Nat) : ℚ) * 10 ^ e)
      = rounded ((num : ℚ) / den * 10 ^ e) := by
  have hqlo : 10 ^ 28 ≤ num / den := (Nat.le_div_iff_mul_le hden).mpr hlo
  have hqhi : num / den < 10 ^ 30 := (Nat.div_lt_iff_lt_mul hden).mpr hhi
  -- one digit too many, or two
  obtain ⟨k, hk, hklo, hkhi⟩ : ∃ k, 0 < k ∧ 10 ^ (k + 27) ≤ num / den
      ∧ num / den < 10 ^ (k + 28) := by
    rcases Nat.lt_or_ge (num / den) (10 ^ 29) with hlt | hge
    · exact ⟨1, one_pos, hqlo, hlt⟩
    · exact ⟨2, two_pos, hge, hqhi⟩
  have hfive : 10 ^ (k + 28) % 5 = 0 := by
    rw [pow_succ]
    omega
  have hsticky : 10 ^ (k + 27) * 1 ≤ (if num / den % 5 = 0 then num / den + 1 else num / den)
      ∧ (if num / den % 5 = 0 then num / den + 1 else num / den) < 10 ^ (k + 28) * 1 := by
    split <;> omega
  have hleft := rounded_fraction one_pos hsticky.1 hsticky.2 e
  have hright := rounded_fraction hden ((Nat.le_div_iff_mul_le hden).mp hklo)
    ((Nat.div_lt_iff_lt_mul hden).mp hkhi) e
  rw [Nat.cast_one, div_one, one_mul, divRound_sticky hden hk hrem] at hleft
  rw [hleft, hright]

end

/-- The shifted quotient has one guard digit at least, and two at most. -/
theorem shifted_bounds {n d : Nat} (hn : 0 < n) (hd : 0 < d) {shift : Int}
    (hshift : shift = (digits d : Int) - digits n + prec + 1) :
    10 ^ 28 * (d * 10 ^ (-shift).toNat) ≤ n * 10 ^ shift.toNat
      ∧ n * 10 ^ shift.toNat < 10 ^ 30 * (d * 10 ^ (-shift).toNat) := by
  have hndigits := digits_pos (n := n)
  have hddigits := digits_pos (n := d)
  have hnhi : n < 10 ^ digits n := (digits_le_iff hndigits).mp (Nat.le_refl _)
  have hdhi : d < 10 ^ digits d := (digits_le_iff hddigits).mp (Nat.le_refl _)
  have hlow : ∀ {m : Nat}, 0 < m → 10 ^ (digits m - 1) ≤ m := by
    intro m hm
    rcases Nat.eq_zero_or_pos (digits m - 1) with h0 | h0
    · rw [h0]
      exact hm
    · exact (lt_digits_iff h0).mp (by omega)
  unfold prec at hshift
  constructor
  · calc 10 ^ 28 * (d * 10 ^ (-shift).toNat)
        ≤ 10 ^ 28 * (10 ^ digits d * 10 ^ (-shift).toNat) := by gcongr
      _ = 10 ^ (digits n - 1) * 10 ^ shift.toNat := by
          rw [← pow_add, ← pow_add, ← pow_add]
          congr 1
          omega
      _ ≤ n * 10 ^ shift.toNat := Nat.mul_le_mul_right _ (hlow hn)
  · calc n * 10 ^ shift.toNat
        < 10 ^ digits n * 10 ^ shift.toNat := Nat.mul_lt_mul_of_pos_right hnhi (by positivity)
      _ = 10 ^ 30 * (10 ^ (digits d - 1) * 10 ^ (-shift).toNat) := by
          rw [← pow_add, ← pow_add, ← pow_add]
          congr 1
          omega
      _ ≤ 10 ^ 30 * (d * 10 ^ (-shift).toNat) :=
          Nat.mul_le_mul_left _ (Nat.mul_le_mul_right _ (hlow hd))

/-- **The quotient is the exact one, rounded.** -/
theorem value_div (x : Decimal) {y : Decimal} (hy : y.coeff ≠ 0) :
    (x / y).value = rounded (x.value / y.value) := by
  change (div x y).value = _
  unfold div
  dsimp only
  by_cases hx : x.coeff = 0
  · rw [if_pos hx]
    have hzero : x.value = 0 := by simp [value, hx]
    rw [hzero, zero_div, rounded_zero]
    simp [value]
  rw [if_neg hx]
  have hn : 0 < x.coeff.natAbs := by omega
  have hd : 0 < y.coeff.natAbs := by omega
  obtain ⟨hlo, hhi⟩ := shifted_bounds hn hd rfl
  generalize hshift : (digits y.coeff.natAbs : Int) - digits x.coeff.natAbs + prec + 1 = shift at *
  have hden : 0 < y.coeff.natAbs * 10 ^ (-shift).toNat := Nat.mul_pos hd (by positivity)
  -- the shift is made up for by the exponent
  have hquot : ((x.coeff.natAbs * 10 ^ shift.toNat : Nat) : ℚ)
        / ((y.coeff.natAbs * 10 ^ (-shift).toNat : Nat) : ℚ) * 10 ^ (x.exp - y.exp - shift)
      = (x.coeff.natAbs : ℚ) / y.coeff.natAbs * 10 ^ (x.exp - y.exp) := by
    have hpow : (10 : ℚ) ^ (x.exp - y.exp - shift) * 10 ^ shift.toNat
        = 10 ^ (x.exp - y.exp) * 10 ^ (-shift).toNat := by
      rw [← zpow_natCast, ← zpow_natCast, ← zpow_add₀ (by norm_num), ← zpow_add₀ (by norm_num)]
      congr 1
      omega
    have hdne : (y.coeff.natAbs : ℚ) ≠ 0 := by exact_mod_cast hd.ne'
    push_cast
    field_simp
    rw [mul_comm, hpow, mul_comm]
  have hvalue : (if x.coeff * y.coeff < 0 then
        -rounded ((x.coeff.natAbs : ℚ) / y.coeff.natAbs * 10 ^ (x.exp - y.exp))
      else rounded ((x.coeff.natAbs : ℚ) / y.coeff.natAbs * 10 ^ (x.exp - y.exp)))
      = rounded (x.value / y.value) := by
    have hratio : x.value / y.value
        = (x.coeff : ℚ) / y.coeff * 10 ^ (x.exp - y.exp) := by
      unfold value
      rw [zpow_sub₀ (by norm_num), mul_div_mul_comm]
    rw [hratio, Nat.cast_natAbs, Nat.cast_natAbs]
    rcases lt_or_gt_of_ne hx with hxs | hxs <;> rcases lt_or_gt_of_ne hy with hys | hys
    · rw [if_neg (Int.not_lt.mpr (Int.mul_pos_of_neg_of_neg hxs hys).le), abs_of_neg hxs,
        abs_of_neg hys, Int.cast_neg, Int.cast_neg, neg_div_neg_eq]
    · rw [if_pos (Int.mul_neg_of_neg_of_pos hxs hys), abs_of_neg hxs, abs_of_pos hys,
        Int.cast_neg, neg_div, neg_mul, rounded_neg, neg_neg]
    · rw [if_pos (Int.mul_neg_of_pos_of_neg hxs hys), abs_of_pos hxs, abs_of_neg hys,
        Int.cast_neg, div_neg, neg_mul, rounded_neg, neg_neg]
    · rw [if_neg (Int.not_lt.mpr (Int.mul_pos hxs hys).le), abs_of_pos hxs, abs_of_pos hys]
  rw [← hvalue, ← hquot]
  split
  · rename_i hrem
    rw [value_fix_signed, rounded_sticky hden hlo hhi hrem]
  · rename_i hrem
    rw [value_fix_signed, stripTo_value]
    have hexact : ((x.coeff.natAbs * 10 ^ shift.toNat
          / (y.coeff.natAbs * 10 ^ (-shift).toNat) : Nat) : ℚ)
        = ((x.coeff.natAbs * 10 ^ shift.toNat : Nat) : ℚ)
          / ((y.coeff.natAbs * 10 ^ (-shift).toNat : Nat) : ℚ) :=
      Nat.cast_div (Nat.dvd_of_mod_eq_zero (not_not.mp hrem)) (by exact_mod_cast hden.ne')
    rw [hexact]

/-- Truncating a number that is not negative takes its floor. -/
theorem value_toIntegralValue_down (h : 0 ≤ x.value) :
    (x.toIntegralValue .down).value = ⌊x.value⌋ := by
  have hcoeff : 0 ≤ x.coeff := by
    by_contra hneg
    have hlt : x.value < 0 := by
      unfold value
      exact mul_neg_of_neg_of_pos (by exact_mod_cast Int.not_le.mp hneg) (by positivity)
    exact absurd h (not_le_of_gt hlt)
  obtain ⟨n, hn⟩ := Int.eq_ofNat_of_zero_le hcoeff
  unfold toIntegralValue
  split
  · rename_i hexp
    obtain ⟨k, hk⟩ := Int.eq_ofNat_of_zero_le hexp
    have hint : x.value = ((x.coeff * 10 ^ k : Int) : ℚ) := by
      unfold value
      rw [hk]
      push_cast
      rw [zpow_natCast]
    rw [hint, Int.floor_intCast]
  · rename_i hexp
    obtain ⟨k, hk⟩ : ∃ k : Nat, x.exp = -(k : Int) := ⟨(-x.exp).toNat, by omega⟩
    have hfraction : x.value = (n : ℚ) / ((10 ^ k : Nat) : ℚ) := by
      unfold value
      rw [hn, hk, zpow_neg, zpow_natCast, div_eq_mul_inv]
      push_cast
      rfl
    have hnabs : x.coeff.natAbs = n := by omega
    have hplaces : (0 - x.exp).toNat = k := by omega
    unfold rescale
    rw [if_neg (by omega), hplaces, hnabs, hfraction, Rat.floor_natCast_div_natCast]
    unfold value
    dsimp only
    rw [signed_value, if_neg (by omega), zpow_zero, mul_one]
    rfl

/-! ## What is monotone -/

variable {x' y' : Decimal}

theorem add_mono (hx : x ≤ x') (hy : y ≤ y') : x + y ≤ x' + y' := by
  rw [le_iff_value, value_add, value_add]
  exact rounded_mono (add_le_add (le_iff_value.mp hx) (le_iff_value.mp hy))

theorem sub_mono (hx : x ≤ x') (hy : y' ≤ y) : x - y ≤ x' - y' := by
  rw [le_iff_value, value_sub, value_sub]
  exact rounded_mono (sub_le_sub (le_iff_value.mp hx) (le_iff_value.mp hy))

theorem mul_mono_left (hy : 0 < y) (hx : x ≤ x') : x * y ≤ x' * y := by
  rw [le_iff_value, value_mul, value_mul]
  exact rounded_mono (mul_le_mul_of_nonneg_right (le_iff_value.mp hx) (pos_iff_value.mp hy).le)

theorem div_mono_left (hy : 0 < y) (hx : x ≤ x') : x / y ≤ x' / y := by
  have hne := coeff_ne_zero_of_pos hy
  rw [le_iff_value, value_div x hne, value_div x' hne]
  exact rounded_mono (div_le_div_of_nonneg_right (le_iff_value.mp hx) (pos_iff_value.mp hy).le)

theorem mul_nonneg (hx : 0 ≤ x) (hy : 0 ≤ y) : 0 ≤ x * y := by
  rw [le_iff_value, value_zero] at hx hy ⊢
  rw [value_mul, ← rounded_zero]
  exact rounded_mono (Rat.mul_nonneg hx hy)

theorem div_nonneg (hx : 0 ≤ x) (hy : 0 < y) : 0 ≤ x / y := by
  rw [le_iff_value, value_zero] at hx ⊢
  rw [value_div x (coeff_ne_zero_of_pos hy), ← rounded_zero]
  exact rounded_mono (Rat.div_nonneg hx (pos_iff_value.mp hy).le)

theorem toIntegralValue_down_mono (h : 0 ≤ x) (hx : x ≤ x') :
    x.toIntegralValue .down ≤ x'.toIntegralValue .down := by
  rw [le_iff_value, value_zero] at h
  have h' : 0 ≤ x'.value := le_trans h (le_iff_value.mp hx)
  rw [le_iff_value, value_toIntegralValue_down h, value_toIntegralValue_down h']
  exact_mod_cast Int.floor_mono (le_iff_value.mp hx)

theorem min_mono_left (hx : x ≤ x') : x.min y ≤ x'.min y := by
  rw [le_iff_value, value_min, value_min]
  exact min_le_min_right _ (le_iff_value.mp hx)

/-! ## Positive values -/

theorem nonneg_iff_coeff : 0 ≤ x ↔ 0 ≤ x.coeff := by
  have hpow : (0 : ℚ) < 10 ^ x.exp := by positivity
  rw [le_iff_value, value_zero, value, mul_nonneg_iff_of_pos_right hpow]
  exact Int.cast_nonneg_iff

theorem rounded_pos {t : ℚ} (h : 0 < t) : 0 < rounded t := by
  unfold rounded
  rw [roundSig_of_pos h]
  exact roundPos_pos (by norm_num) (by decide) h

theorem add_pos (hx : 0 < x) (hy : 0 < y) : 0 < x + y := by
  rw [pos_iff_value] at hx hy ⊢
  rw [value_add]
  exact rounded_pos (by positivity)

theorem div_pos (hx : 0 < x) (hy : 0 < y) : 0 < x / y := by
  have hne := coeff_ne_zero_of_pos hy
  rw [pos_iff_value] at hx hy ⊢
  rw [value_div x hne]
  exact rounded_pos (by positivity)

/-- What is written with another exponent is the number rescaled. -/
theorem rescale_of_quantize {r : Rounding} {e : Int} {q : Decimal} (h : x.quantize r e = some q) :
    x.rescale r e = q := by
  unfold quantize at h
  dsimp only at h
  split at h
  · exact Option.some.inj h
  · cases h

/-- Writing a number with another exponent keeps its sign. -/
theorem coeff_quantize_nonneg {r : Rounding} {e : Int} {q : Decimal} (h : 0 ≤ x.coeff)
    (hq : x.quantize r e = some q) : 0 ≤ q.coeff := by
  obtain rfl := rescale_of_quantize hq
  unfold rescale align signed
  split
  · positivity
  · rw [if_neg (Int.not_lt.mpr h)]
    exact Int.natCast_nonneg _

/-- **Half away from zero.** What is rounded to an integer is no more than a number just when it's
less than half a step above it. -/
theorem toInt_quantize_halfUp_le {n : Nat} {q : Decimal} (h : x.quantize .halfUp 0 = some q) :
    q.toInt ≤ n ↔ x.value < n + 1 / 2 := by
  obtain rfl := rescale_of_quantize h
  unfold rescale
  split
  · -- an integer already
    rename_i hexp
    have hvalue := value_align (x := x) hexp
    rw [zpow_zero, mul_one] at hvalue
    rw [← hvalue]
    simp only [toInt, Int.toNat_zero, pow_zero, mul_one]
    constructor
    · intro hle
      have : ((x.align 0 : Int) : ℚ) ≤ n := by exact_mod_cast hle
      linarith
    · intro hlt
      by_contra hgt
      have : (n : ℚ) + 1 ≤ (x.align 0 : Int) := by exact_mod_cast Int.not_le.mp hgt
      linarith
  · rename_i hexp
    obtain ⟨k, hk⟩ : ∃ k : Nat, x.exp = -k := ⟨(-x.exp).toNat, by omega⟩
    have hpos : 0 < 10 ^ k := Nat.pow_pos (by decide)
    have hvalue : x.value = x.coeff / ((10 ^ k : Nat) : ℚ) := by
      unfold value
      rw [hk, zpow_neg, zpow_natCast, div_eq_mul_inv]
      push_cast
      rfl
    have hshift : (0 - x.exp).toNat = k := by omega
    simp only [toInt, Int.toNat_zero, pow_zero, mul_one, hshift]
    rw [hvalue]
    generalize 10 ^ k = d at hpos
    have hd : (0 : ℚ) < d := by exact_mod_cast hpos
    unfold signed
    by_cases hneg : x.coeff < 0
    · rw [if_pos hneg]
      have hcoeff : (x.coeff : ℚ) < 0 := by exact_mod_cast hneg
      have hquotient : (x.coeff : ℚ) / d < 0 := div_neg_of_neg_of_pos hcoeff hd
      have hn : (0 : ℚ) ≤ n := Nat.cast_nonneg n
      constructor
      · intro _
        linarith
      · intro _
        omega
    · rw [if_neg hneg, div_lt_iff₀ hd]
      obtain ⟨c, hc⟩ := Int.eq_ofNat_of_zero_le (Int.not_lt.mp hneg)
      rw [hc, Int.natAbs_natCast]
      have hsplit := Nat.div_add_mod c d
      have hmod := Nat.mod_lt c hpos
      have hscaled : ((c : Int) : ℚ) < (n + 1 / 2) * d ↔ 2 * c < (2 * n + 1) * d := by
        rw [← Nat.cast_lt (α := ℚ)]
        push_cast
        constructor <;> intro h <;> linarith
      rw [hscaled, Nat.cast_le]
      simp only [divRound]
      generalize c / d = m at *
      generalize c % d = r at *
      split
      · constructor
        · intro hle
          have := Nat.mul_le_mul_left d hle
          nlinarith
        · intro hlt
          by_contra hgt
          have := Nat.mul_le_mul_left d (show n ≤ m by omega)
          nlinarith
      · constructor
        · intro hle
          have := Nat.mul_le_mul_left d hle
          nlinarith
        · intro hlt
          by_contra hgt
          have := Nat.mul_le_mul_left d (show n + 1 ≤ m by omega)
          nlinarith

/-! ## On the grid -/

/-- What a positive number is written as with another exponent, and what it stands for. -/
theorem quantize_cases {r : Rounding} {e : Int} {q : Decimal} (hx : 0 ≤ x)
    (hq : x.quantize r e = some q) :
    q.value = x.value ∨ ∃ n d : Nat, 0 < d ∧ x.value = (n : ℚ) / d * 10 ^ e
      ∧ q.value = (divRound r n d : ℚ) * 10 ^ e := by
  obtain rfl := rescale_of_quantize hq
  obtain ⟨n, hn⟩ := Int.eq_ofNat_of_zero_le (nonneg_iff_coeff.mp hx)
  unfold rescale
  split
  · rename_i he
    exact .inl (value_align he)
  · rename_i he
    obtain ⟨k, hk⟩ : ∃ k : Nat, e = x.exp + k := ⟨(e - x.exp).toNat, by omega⟩
    have hplaces : (e - x.exp).toNat = k := by omega
    refine .inr ⟨n, 10 ^ k, by positivity, ?_, ?_⟩
    · unfold value
      rw [hn, hk, zpow_add₀ (by norm_num), zpow_natCast]
      push_cast
      field_simp
    · have hnonneg : ¬ x.coeff < 0 := by omega
      have hnabs : x.coeff.natAbs = n := by omega
      unfold value signed
      rw [hplaces, hnabs, if_neg hnonneg]
      rfl

/-- Rounded down, a number that is not negative is no greater. -/
theorem quantize_down_le {e : Int} {q : Decimal} (hx : 0 ≤ x)
    (hq : x.quantize .down e = some q) : q ≤ x := by
  rw [le_iff_value]
  rcases quantize_cases hx hq with hexact | ⟨n, d, hd, hvalue, hrounded⟩
  · exact hexact.le
  · rw [hvalue, hrounded]
    refine mul_le_mul_of_nonneg_right ?_ (by positivity)
    exact Nat.cast_div_le

/-- Rounded up, it is no less. -/
theorem le_quantize_up {e : Int} {q : Decimal} (hx : 0 ≤ x)
    (hq : x.quantize .up e = some q) : x ≤ q := by
  rw [le_iff_value]
  rcases quantize_cases hx hq with hexact | ⟨n, d, hd, hvalue, hrounded⟩
  · exact hexact.ge
  · rw [hvalue, hrounded]
    refine mul_le_mul_of_nonneg_right ?_ (by positivity)
    have hd' : (0 : ℚ) < d := by exact_mod_cast hd
    rw [div_le_iff₀ hd']
    have hup : n ≤ divRound .up n d * d := by
      have hsplit := Nat.div_add_mod' n d
      have hmod := Nat.mod_lt n hd
      unfold divRound
      dsimp only
      split
      · omega
      · rw [Nat.add_mul]
        omega
    exact_mod_cast hup

/-- Rounded either way, a number keeps its sign. -/
theorem quantize_nonpos {r : Rounding} {e : Int} {q : Decimal} (hx : x ≤ 0)
    (hq : x.quantize r e = some q) : q ≤ 0 := by
  have hcoeff : ∀ y : Decimal, y ≤ 0 ↔ y.coeff ≤ 0 := by
    intro y
    have hpow : (0 : ℚ) < 10 ^ y.exp := by positivity
    rw [le_iff_value, value_zero, value, ← zero_mul ((10 : ℚ) ^ y.exp),
      mul_le_mul_iff_of_pos_right hpow]
    exact Int.cast_nonpos
  rw [hcoeff] at hx ⊢
  obtain rfl := rescale_of_quantize hq
  unfold rescale align signed
  split
  · exact mul_nonpos_of_nonpos_of_nonneg hx (by positivity)
  · dsimp only
    split
    · omega
    · rename_i hneg
      have hzero : x.coeff.natAbs = 0 := by omega
      rw [hzero]
      unfold divRound
      cases r <;> simp

theorem exp_quantize {r : Rounding} {e : Int} {q : Decimal} (h : x.quantize r e = some q) :
    q.exp = e := by
  obtain rfl := rescale_of_quantize h
  unfold rescale
  split <;> rfl

theorem digits_quantize {r : Rounding} {e : Int} {q : Decimal} (h : x.quantize r e = some q) :
    digits q.coeff.natAbs ≤ prec := by
  unfold quantize at h
  dsimp only at h
  split at h
  · rename_i hfits
    cases h
    exact hfits
  · cases h

/-- What is quantized stays as it is. -/
theorem quantize_quantize {r r' : Rounding} {e : Int} {q : Decimal}
    (h : x.quantize r e = some q) : q.quantize r' e = some q := by
  have hexp := exp_quantize h
  have hdigits := digits_quantize h
  have hsame : rescale r' q e = q := by
    unfold rescale align
    rw [if_pos hexp.ge, hexp, sub_self, Int.toNat_zero, pow_zero, mul_one, ← hexp]
  unfold quantize
  rw [hsame]
  exact if_pos hdigits

theorem onGrid_quantize {r : Rounding} {e : Int} {q : Decimal} (h : x.quantize r e = some q) :
    StepGrid.OnGrid (10 ^ e) q.value :=
  ⟨q.coeff, by rw [value, exp_quantize h]⟩

/-- Rounded down, a number is the greatest on the grid that is no greater. -/
theorem le_quantize_down {e : Int} {q : Decimal} {v : ℚ} (hx : 0 ≤ x)
    (hq : x.quantize .down e = some q) (hv : StepGrid.OnGrid (10 ^ e) v) (hle : v ≤ x.value) :
    v ≤ q.value := by
  rcases quantize_cases hx hq with hexact | ⟨n, d, hd, hvalue, hrounded⟩
  · exact hexact ▸ hle
  · obtain ⟨m, rfl⟩ := hv
    have hpow : (0 : ℚ) < 10 ^ e := by positivity
    have hd' : (0 : ℚ) < d := by exact_mod_cast hd
    rw [hvalue, mul_le_mul_iff_of_pos_right hpow, le_div_iff₀ hd'] at hle
    rw [hrounded, mul_le_mul_iff_of_pos_right hpow]
    have hscaled : m * d ≤ (n : Int) := by exact_mod_cast hle
    have hfloor : m ≤ ((n / d : Nat) : Int) := by
      rw [Int.natCast_div]
      exact Int.le_ediv_of_mul_le (by exact_mod_cast hd) hscaled
    exact_mod_cast hfloor

/-- Rounded up, it is the least that is no less. -/
theorem quantize_up_le {e : Int} {q : Decimal} {v : ℚ} (hx : 0 ≤ x)
    (hq : x.quantize .up e = some q) (hv : StepGrid.OnGrid (10 ^ e) v) (hle : x.value ≤ v) :
    q.value ≤ v := by
  rcases quantize_cases hx hq with hexact | ⟨n, d, hd, hvalue, hrounded⟩
  · exact hexact ▸ hle
  · obtain ⟨m, rfl⟩ := hv
    have hpow : (0 : ℚ) < 10 ^ e := by positivity
    have hd' : (0 : ℚ) < d := by exact_mod_cast hd
    rw [hvalue, mul_le_mul_iff_of_pos_right hpow, div_le_iff₀ hd'] at hle
    rw [hrounded, mul_le_mul_iff_of_pos_right hpow]
    have hscaled : (n : Int) ≤ m * d := by exact_mod_cast hle
    have hsplit : ((n / d : Nat) : Int) * d + (n % d : Nat) = n := by
      exact_mod_cast Nat.div_add_mod' n d
    have hceil : ((divRound .up n d : Nat) : Int) ≤ m := by
      unfold divRound
      dsimp only
      by_contra hlt
      have hbelow : m * d ≤ ((n / d : Nat) : Int) * d - (if n % d = 0 then d else 0) := by
        split at hlt
        · rename_i hzero
          rw [if_pos hzero, ← sub_one_mul]
          exact Int.mul_le_mul_of_nonneg_right (by omega) (Int.natCast_nonneg d)
        · rename_i hrest
          rw [if_neg hrest, Nat.cast_zero, sub_zero]
          exact Int.mul_le_mul_of_nonneg_right (by omega) (Int.natCast_nonneg d)
      split at hbelow <;> omega
    exact_mod_cast hceil

theorem le_divRound (r : Rounding) (n d : Nat) : n / d ≤ divRound r n d := by
  unfold divRound
  cases r <;> dsimp only
  · split <;> omega
  · split <;> omega
  · exact Nat.le_refl _
  · split <;> omega

/-- A number of one unit at least is not rounded to zero. -/
theorem quantize_pos {r : Rounding} {e : Int} {q : Decimal} (hx : (⟨1, e⟩ : Decimal) ≤ x)
    (hq : x.quantize r e = some q) : 0 < q := by
  have hpow : (0 : ℚ) < 10 ^ e := by positivity
  have hunit : (10 : ℚ) ^ e ≤ x.value := by
    rw [le_iff_value] at hx
    simpa [value] using hx
  have hpos : 0 < x := pos_iff_value.mpr (lt_of_lt_of_le hpow hunit)
  rw [pos_iff_value]
  rcases quantize_cases (le_of_lt hpos) hq with hexact | ⟨n, d, hd, hvalue, hrounded⟩
  · rw [hexact]
    exact lt_of_lt_of_le hpow hunit
  · have hone : (1 : ℚ) ≤ (n : ℚ) / d := by
      rw [hvalue] at hunit
      exact (le_mul_iff_one_le_left hpow).mp hunit
    have hle : d ≤ n := by
      rw [one_le_div (by exact_mod_cast hd)] at hone
      exact_mod_cast hone
    have hround : 1 ≤ divRound r n d :=
      le_trans ((Nat.one_le_div_iff hd).mpr hle) (le_divRound r n d)
    rw [hrounded]
    exact mul_pos (by exact_mod_cast hround) hpow

/-! ## The greatest and the least of several -/

/-- The greatest is among them, and none is greater. -/
theorem foldl_max (x : Decimal) (ys : List Decimal) :
    ys.foldl Decimal.max x ∈ x :: ys ∧ ∀ y ∈ x :: ys, y ≤ ys.foldl Decimal.max x := by
  induction ys generalizing x with
  | nil => simp
  | cons y ys ih =>
      obtain ⟨hmem, hle⟩ := ih (x.max y)
      have hhead : x.max y ≤ ys.foldl Decimal.max (x.max y) := hle _ List.mem_cons_self
      refine ⟨?_, fun z hz => ?_⟩
      · rw [List.foldl_cons]
        rcases List.mem_cons.mp hmem with heq | hin
        · rw [heq]
          unfold Decimal.max
          split <;> simp
        · exact List.mem_cons_of_mem _ (List.mem_cons_of_mem _ hin)
      · rcases List.mem_cons.mp hz with rfl | hz
        · exact le_trans le_max_left hhead
        · rcases List.mem_cons.mp hz with rfl | hz
          · exact le_trans le_max_right hhead
          · exact hle z (List.mem_cons_of_mem _ hz)

theorem min_le_left' : x.min y ≤ x := by
  rw [le_iff_value, value_min]
  exact min_le_left _ _

theorem min_le_right' : x.min y ≤ y := by
  rw [le_iff_value, value_min]
  exact min_le_right _ _

theorem le_min' (hx : z ≤ x) (hy : z ≤ y) : z ≤ x.min y := by
  rw [le_iff_value, value_min]
  exact le_min (le_iff_value.mp hx) (le_iff_value.mp hy)

/-- The least is among them, and none is less. -/
theorem foldl_min (x : Decimal) (ys : List Decimal) :
    ys.foldl Decimal.min x ∈ x :: ys ∧ ∀ y ∈ x :: ys, ys.foldl Decimal.min x ≤ y := by
  induction ys generalizing x with
  | nil => simp
  | cons y ys ih =>
      obtain ⟨hmem, hle⟩ := ih (x.min y)
      have hhead : ys.foldl Decimal.min (x.min y) ≤ x.min y := hle _ List.mem_cons_self
      refine ⟨?_, fun z hz => ?_⟩
      · rw [List.foldl_cons]
        rcases List.mem_cons.mp hmem with heq | hin
        · rw [heq]
          unfold Decimal.min
          split <;> simp
        · exact List.mem_cons_of_mem _ (List.mem_cons_of_mem _ hin)
      · rcases List.mem_cons.mp hz with rfl | hz
        · exact le_trans hhead min_le_left'
        · rcases List.mem_cons.mp hz with rfl | hz
          · exact le_trans hhead min_le_right'
          · exact hle z (List.mem_cons_of_mem _ hz)

end Decimal
