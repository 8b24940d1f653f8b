import Mathlib.Algebra.Order.Floor.Ring
import Mathlib.Data.Int.Log
import Mathlib.Tactic.FieldSimp
import Mathlib.Tactic.Linarith
import Mathlib.Tactic.Ring

/-!
# Rounding to a number of significant digits

Round-half-even to an integer, and from it to `p` significant digits in base `b`: the
number is measured in units of its own last place, and the count is rounded. Both are
monotone, though the unit changes from one number to the next: a power of the base is
rounded to itself, and separates the numbers below it from those above.
-/

namespace SigDigits

variable {K : Type*} [Field K] [LinearOrder K] [IsStrictOrderedRing K] [FloorRing K]

/-- The nearest integer; the even one of two that are as near. -/
def halfEven (t : K) : ℤ :=
  if Int.fract t < 1 / 2 ∨ (Int.fract t = 1 / 2 ∧ ⌊t⌋ % 2 = 0) then ⌊t⌋ else ⌊t⌋ + 1

omit [IsStrictOrderedRing K] in
theorem floor_le_halfEven (t : K) : ⌊t⌋ ≤ halfEven t := by
  unfold halfEven
  split <;> omega

omit [IsStrictOrderedRing K] in
theorem halfEven_le_floor_add_one (t : K) : halfEven t ≤ ⌊t⌋ + 1 := by
  unfold halfEven
  split <;> omega

@[simp] theorem halfEven_intCast (n : ℤ) : halfEven (n : K) = n := by
  unfold halfEven
  rw [Int.fract_intCast, Int.floor_intCast, if_pos (.inl (by norm_num))]

/-- **Rounding to an integer is monotone.** -/
theorem halfEven_mono {t t' : K} (h : t ≤ t') : halfEven t ≤ halfEven t' := by
  rcases (Int.floor_mono h).lt_or_eq with hlt | heq
  · have h₁ := halfEven_le_floor_add_one t
    have h₂ := floor_le_halfEven t'
    omega
  · -- within one unit, only the fractional parts matter
    have hfract : Int.fract t ≤ Int.fract t' := by
      unfold Int.fract
      rw [heq]
      linarith
    by_cases hup : Int.fract t' < 1 / 2 ∨ (Int.fract t' = 1 / 2 ∧ ⌊t'⌋ % 2 = 0)
    · have hdown : Int.fract t < 1 / 2 ∨ (Int.fract t = 1 / 2 ∧ ⌊t⌋ % 2 = 0) := by
        rcases hup with hlt | ⟨htie, heven⟩
        · exact .inl (lt_of_le_of_lt hfract hlt)
        · rw [htie] at hfract
          rcases hfract.lt_or_eq with hlt | htie'
          · exact .inl hlt
          · exact .inr ⟨htie', by rwa [heq]⟩
      unfold halfEven
      rw [if_pos hup, if_pos hdown, heq]
    · have hle := halfEven_le_floor_add_one t
      unfold halfEven at hle ⊢
      rw [if_neg hup]
      omega

/-! ## Significant digits -/

variable (b p : ℕ)

/-- The unit in the last of `p` places of a positive number. -/
def unit (t : K) : K := (b : K) ^ (Int.log b t + 1 - p)

/-- A positive number, rounded to `p` significant digits. -/
def roundPos (t : K) : K := halfEven (t / unit b p t) * unit b p t

/-- A number rounded to `p` significant digits; its sign is kept. -/
def roundSig (t : K) : K :=
  if 0 < t then roundPos b p t else if t < 0 then -roundPos b p (-t) else 0

variable {b p} {t t' : K}

omit [IsStrictOrderedRing K] in
@[simp] theorem roundSig_zero : roundSig b p (0 : K) = 0 := by simp [roundSig]

omit [IsStrictOrderedRing K] in
theorem roundSig_of_pos (h : 0 < t) : roundSig b p t = roundPos b p t := if_pos h

theorem roundSig_neg (t : K) : roundSig b p (-t) = -roundSig b p t := by
  unfold roundSig
  rcases lt_trichotomy t 0 with h | rfl | h
  · rw [if_pos (neg_pos.mpr h), if_neg (not_lt.mpr h.le), if_pos h, neg_neg]
  · simp
  · rw [if_neg (not_lt.mpr (neg_nonpos.mpr h.le)), if_pos (neg_neg_iff_pos.mpr h), neg_neg,
      if_pos h]

section

variable (hb : 1 < b)
include hb

theorem base_pos : (0 : K) < b := by exact_mod_cast lt_trans one_pos hb

theorem unit_pos : 0 < unit b p t := zpow_pos (base_pos hb) _

/-- The integer logarithm of what lies between two neighbouring powers. -/
theorem log_eq {e : ℤ} (hlo : (b : K) ^ e ≤ t) (hhi : t < (b : K) ^ (e + 1)) :
    Int.log b t = e := by
  have hpos : 0 < t := lt_of_lt_of_le (zpow_pos (base_pos hb) e) hlo
  have hle : e ≤ Int.log b t := (Int.zpow_le_iff_le_log hb hpos).mp hlo
  have hlt : Int.log b t < e + 1 := (Int.lt_zpow_iff_log_lt hb hpos).mp hhi
  omega

/-- **How a number between two neighbouring powers is rounded.** -/
theorem roundPos_eq {e : ℤ} (hlo : (b : K) ^ (e + p - 1) ≤ t) (hhi : t < (b : K) ^ (e + p)) :
    roundPos b p t = halfEven (t / (b : K) ^ e) * (b : K) ^ e := by
  have hlog : Int.log b t = e + p - 1 := log_eq hb hlo (by rwa [sub_add_cancel])
  have hunit : unit b p t = (b : K) ^ e := by
    unfold unit
    rw [hlog]
    congr 1
    omega
  unfold roundPos
  rw [hunit]

/-- A rounded number stays between the powers that its own lay between. -/
theorem roundPos_bounds (hp : 0 < p) (h : 0 < t) :
    (b : K) ^ Int.log b t ≤ roundPos b p t ∧ roundPos b p t ≤ (b : K) ^ (Int.log b t + 1) := by
  have hunit := unit_pos (p := p) (t := t) hb
  have hbase : (b : K) ≠ 0 := (base_pos hb).ne'
  -- in units, the powers are the integers `b ^ (p - 1)` and `b ^ p`
  have hlo : (((b : ℤ) ^ (p - 1) : ℤ) : K) * unit b p t = (b : K) ^ Int.log b t := by
    unfold unit
    push_cast
    rw [← zpow_natCast, ← zpow_add₀ hbase]
    congr 1
    omega
  have hhi : (((b : ℤ) ^ p : ℤ) : K) * unit b p t = (b : K) ^ (Int.log b t + 1) := by
    unfold unit
    push_cast
    rw [← zpow_natCast, ← zpow_add₀ hbase]
    congr 1
    omega
  have hmin : ((b : ℤ) ^ (p - 1)) ≤ halfEven (t / unit b p t) := by
    rw [← halfEven_intCast (K := K) ((b : ℤ) ^ (p - 1))]
    refine halfEven_mono ?_
    rw [le_div_iff₀ hunit, hlo]
    exact Int.zpow_log_le_self hb h
  have hmax : halfEven (t / unit b p t) ≤ (b : ℤ) ^ p := by
    rw [← halfEven_intCast (K := K) ((b : ℤ) ^ p)]
    refine halfEven_mono ?_
    rw [div_le_iff₀ hunit, hhi]
    exact (Int.lt_zpow_succ_log_self hb t).le
  constructor
  · rw [← hlo]
    exact mul_le_mul_of_nonneg_right (by exact_mod_cast hmin) hunit.le
  · rw [← hhi]
    exact mul_le_mul_of_nonneg_right (by exact_mod_cast hmax) hunit.le

theorem roundPos_pos (hp : 0 < p) (h : 0 < t) : 0 < roundPos b p t :=
  lt_of_lt_of_le (zpow_pos (base_pos hb) _) (roundPos_bounds hb hp h).1

theorem roundPos_mono (hp : 0 < p) (h : 0 < t) (hle : t ≤ t') :
    roundPos b p t ≤ roundPos b p t' := by
  have h' : 0 < t' := lt_of_lt_of_le h hle
  rcases (Int.log_mono_right (b := b) h hle).lt_or_eq with hlt | heq
  · -- a power of the base lies between the two
    calc roundPos b p t
        ≤ (b : K) ^ (Int.log b t + 1) := (roundPos_bounds hb hp h).2
      _ ≤ (b : K) ^ Int.log b t' := zpow_le_zpow_right₀ (by exact_mod_cast hb.le) hlt
      _ ≤ roundPos b p t' := (roundPos_bounds hb hp h').1
  · have hunit : unit b p t = unit b p t' := by
      unfold unit
      rw [heq]
    unfold roundPos
    rw [hunit]
    refine mul_le_mul_of_nonneg_right ?_ (unit_pos hb).le
    exact_mod_cast halfEven_mono (div_le_div_of_nonneg_right hle (unit_pos hb).le)

/-- **Rounding to significant digits is monotone.** -/
theorem roundSig_mono (hp : 0 < p) (h : t ≤ t') : roundSig b p t ≤ roundSig b p t' := by
  rcases lt_trichotomy t 0 with ht | rfl | ht
  · have hneg : roundSig b p t ≤ 0 := by
      rw [← neg_neg t, roundSig_neg, roundSig_of_pos (neg_pos.mpr ht), neg_nonpos]
      exact (roundPos_pos hb hp (neg_pos.mpr ht)).le
    rcases lt_trichotomy t' 0 with ht' | rfl | ht'
    · rw [← neg_neg t, ← neg_neg t', roundSig_neg, roundSig_neg (-t'),
        roundSig_of_pos (neg_pos.mpr ht), roundSig_of_pos (neg_pos.mpr ht'), neg_le_neg_iff]
      exact roundPos_mono hb hp (neg_pos.mpr ht') (neg_le_neg h)
    · rwa [roundSig_zero]
    · rw [roundSig_of_pos ht']
      exact hneg.trans (roundPos_pos hb hp ht').le
  · rcases h.lt_or_eq with ht' | rfl
    · rw [roundSig_zero, roundSig_of_pos ht']
      exact (roundPos_pos hb hp ht').le
    · exact le_refl _
  · rw [roundSig_of_pos ht, roundSig_of_pos (lt_of_lt_of_le ht h)]
    exact roundPos_mono hb hp ht h

/-- **A number with at most `p` digits is rounded to itself.** -/
theorem roundSig_of_digits {n e : ℤ} (hn : |n| < (b : ℤ) ^ p) :
    roundSig b p ((n : K) * (b : K) ^ e) = n * (b : K) ^ e := by
  have hbase : (b : K) ≠ 0 := (base_pos hb).ne'
  -- the positive case; the others follow by sign
  have hpos : ∀ m : ℤ, 0 < m → m < (b : ℤ) ^ p →
      roundSig b p ((m : K) * (b : K) ^ e) = m * (b : K) ^ e := by
    intro m hm hlt
    have ht : (0 : K) < (m : K) * (b : K) ^ e :=
      mul_pos (by exact_mod_cast hm) (zpow_pos (base_pos hb) e)
    have hlog : Int.log b ((m : K) * (b : K) ^ e) + 1 ≤ e + p := by
      refine (Int.lt_zpow_iff_log_lt hb ht).mp ?_
      rw [zpow_add₀ hbase, mul_comm, zpow_natCast]
      refine mul_lt_mul_of_pos_left ?_ (zpow_pos (base_pos hb) e)
      exact_mod_cast hlt
    -- the number is a whole count of its units
    obtain ⟨k, hk⟩ : ∃ k : ℕ, e = Int.log b ((m : K) * (b : K) ^ e) + 1 - p + k :=
      ⟨(e - (Int.log b ((m : K) * (b : K) ^ e) + 1 - p)).toNat, by omega⟩
    have hcount : (m : K) * (b : K) ^ e / unit b p ((m : K) * (b : K) ^ e)
        = ((m * (b : ℤ) ^ k : ℤ) : K) := by
      unfold unit
      rw [mul_div_assoc, ← zpow_sub₀ hbase]
      have hexp : e - (Int.log b ((m : K) * (b : K) ^ e) + 1 - p) = k := by omega
      rw [hexp, zpow_natCast]
      push_cast
      rfl
    rw [roundSig_of_pos ht]
    unfold roundPos
    rw [hcount, halfEven_intCast, ← hcount, div_mul_cancel₀ _ (unit_pos hb).ne']
  rcases lt_trichotomy n 0 with h | rfl | h
  · have hneg := hpos (-n) (by omega) (by rw [abs_of_neg h] at hn; exact hn)
    have heq : (n : K) * (b : K) ^ e = -(((-n : ℤ) : K) * (b : K) ^ e) := by push_cast; ring
    rw [heq, roundSig_neg, hneg]
  · simp
  · exact hpos n h (by rwa [abs_of_pos h] at hn)

end

/-! ## Whole numbers through a binary format -/

/-- The nearest integer of a number a quarter from one. -/
theorem halfEven_of_near {m : ℤ} (h : |t - m| ≤ 1 / 4) : halfEven t = m := by
  obtain ⟨hlo, hhi⟩ := abs_le.mp h
  have hup : halfEven ((m : K) + 1 / 4) = m := by
    have hfloor : ⌊(m : K) + 1 / 4⌋ = m := by
      rw [Int.floor_eq_iff]
      constructor <;> linarith
    unfold halfEven Int.fract
    rw [hfloor, if_pos (.inl (by linarith))]
  have hdown : halfEven ((m : K) - 1 / 4) = m := by
    have hfloor : ⌊(m : K) - 1 / 4⌋ = m - 1 := by
      rw [Int.floor_eq_iff]
      push_cast
      constructor <;> linarith
    have hfract : Int.fract ((m : K) - 1 / 4) = 3 / 4 := by
      unfold Int.fract
      rw [hfloor]
      push_cast
      ring
    unfold halfEven
    rw [hfract, hfloor, if_neg (by norm_num)]
    omega
  have hle := halfEven_mono (show t ≤ (m : K) + 1 / 4 by linarith)
  have hge := halfEven_mono (show (m : K) - 1 / 4 ≤ t by linarith)
  omega

/-- **A number a quarter from a small integer rounds to it, through any wide enough format.** -/
theorem halfEven_roundSig {m : ℤ} (hp : 0 < p) (hm : 4 * |m| + 1 < (2 : ℤ) ^ p)
    (h : |t - m| ≤ 1 / 4) : halfEven (roundSig 2 p t) = m := by
  obtain ⟨hlo, hhi⟩ := abs_le.mp h
  have hquarter : ∀ n : ℤ, |n| < (2 : ℤ) ^ p →
      roundSig 2 p ((n : K) / 4) = (n : K) / 4 := by
    intro n hn
    have hexact := roundSig_of_digits (K := K) (b := 2) (p := p) (by norm_num) (e := -2) hn
    have hfour : (((2 : ℕ) : K)) ^ (-2 : ℤ) = 1 / 4 := by norm_num
    rw [hfour] at hexact
    have hsame : (n : K) / 4 = (n : K) * (1 / 4) := by ring
    rw [hsame]
    exact hexact
  have hbound := abs_le.mp (le_refl |m|)
  have hup := hquarter (4 * m + 1) (by rw [abs_lt]; omega)
  have hdown := hquarter (4 * m - 1) (by rw [abs_lt]; omega)
  push_cast at hup hdown
  have hle := roundSig_mono (b := 2) (by norm_num) hp (show t ≤ (4 * (m : K) + 1) / 4 by linarith)
  have hge := roundSig_mono (b := 2) (by norm_num) hp (show (4 * (m : K) - 1) / 4 ≤ t by linarith)
  rw [hup] at hle
  rw [hdown] at hge
  refine halfEven_of_near (abs_le.mpr ⟨?_, ?_⟩) <;> linarith

end SigDigits
