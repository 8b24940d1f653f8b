import Crumblr.Lib.Normalize
import Crumblr.Lib.NumberText

/-!
# Decimals with a sign of their own

A decimal as it is written has a sign, digits and an exponent, so that zero has two forms. In the
default context a number is rounded to 28 significant digits and to no digit below a least
exponent, and one whose first digit is above the greatest is refused. The plain text of a normal
form determines its sign, digits and exponent.
-/

/-- A sign, a coefficient and the exponent of its last digit. -/
structure SignedDecimal where
  negative : Bool
  coefficient : Nat
  exp : Int
  deriving DecidableEq, Repr

namespace SignedDecimal

open Decimal NumberText

/-- The value without the sign. -/
def magnitude (x : SignedDecimal) : Decimal := ⟨x.coefficient, x.exp⟩

/-- The value; that of either zero is zero. -/
def value (x : SignedDecimal) : Decimal :=
  ⟨if x.negative then -(x.coefficient : Int) else x.coefficient, x.exp⟩

/-! ## Rounding in the context -/

/-- The greatest exponent of a first digit. -/
def emax : Int := 999999

/-- The least exponent of a last digit. -/
def etiny : Int := -1000026

/-- The exponent of the last digit that is kept. -/
def lowest (n : Nat) (e : Int) : Int := Max.max (digits n + e - prec) etiny

/-- A magnitude rounded to the digits that are kept. -/
def round (n : Nat) (e : Int) : Decimal :=
  let low := lowest n e
  if low ≤ e then ⟨n, e⟩
  else
    let r := divRound .halfEven n (10 ^ (low - e).toNat)
    if digits r ≤ prec then ⟨r, low⟩ else ⟨(r / 10 : Nat), low + 1⟩

/-- The first digit is above the greatest exponent. -/
def Overflows (y : Decimal) : Prop := y.coeff ≠ 0 ∧ emax < digits y.coeff.natAbs + y.exp - 1

instance (y : Decimal) : Decidable (Overflows y) := inferInstanceAs (Decidable (_ ∧ _))

/-- Rounded, with no trailing zeros; nothing when it is too great. -/
def normalize (x : SignedDecimal) : Option SignedDecimal :=
  let rounded := round x.coefficient x.exp
  if Overflows rounded then none
  else
    let normal := rounded.normalize
    some ⟨x.negative, normal.coeff.natAbs, normal.exp⟩

/-- What is rounded fits the working precision. -/
theorem digits_round (n : Nat) (e : Int) : digits (round n e).coeff.natAbs ≤ prec := by
  have hlow : (digits n : Int) + e - prec ≤ lowest n e := le_max_left _ _
  unfold round
  dsimp only
  split
  · rename_i hle
    dsimp only
    rw [Int.natAbs_natCast]
    omega
  · rename_i hlt
    split
    · rename_i hr
      exact hr
    · -- it was rounded up to the next power of ten
      have hn : n < 10 ^ (prec + (lowest n e - e).toNat) := by
        refine (digits_le_iff (by unfold prec; omega)).mp ?_
        omega
      have hquotient : n / 10 ^ (lowest n e - e).toNat < 10 ^ prec := by
        rw [Nat.div_lt_iff_lt_mul (Nat.pow_pos (by decide)), ← pow_add]
        exact hn
      have hr : divRound .halfEven n (10 ^ (lowest n e - e).toNat) ≤ 10 ^ prec :=
        divRound_le.trans hquotient
      rw [Int.natAbs_natCast, digits_le_iff (by decide)]
      calc divRound .halfEven n (10 ^ (lowest n e - e).toNat) / 10
          ≤ 10 ^ prec / 10 := Nat.div_le_div_right hr
        _ < 10 ^ prec := by decide

theorem coeff_round_nonneg (n : Nat) (e : Int) : 0 ≤ (round n e).coeff := by
  unfold round
  dsimp only
  split
  · exact Int.natCast_nonneg _
  · split
    · exact Int.natCast_nonneg _
    · exact Int.natCast_nonneg _

/-! ## Equal values are rounded alike -/

theorem digits_mul_pow {n : Nat} (hn : 0 < n) : ∀ k : Nat, digits (n * 10 ^ k) = digits n + k
  | 0 => by simp
  | k + 1 => by
      rw [pow_succ, ← Nat.mul_assoc, digits_mul_ten (Nat.mul_pos hn (Nat.pow_pos (by decide))),
        digits_mul_pow hn k, Nat.add_assoc]

theorem divRound_mul_pow (n d : Nat) : ∀ k : Nat,
    divRound .halfEven (n * 10 ^ k) (d * 10 ^ k) = divRound .halfEven n d
  | 0 => by simp
  | k + 1 => by
      rw [pow_succ, ← Nat.mul_assoc, ← Nat.mul_assoc, divRound_mul_ten, divRound_mul_pow n d k]

theorem compare_scaled (n : Nat) (e : Int) (k : Nat) :
    (⟨(n * 10 ^ k : Nat), e - k⟩ : Decimal).compare ⟨n, e⟩ = .eq := by
  refine compare_eq_iff_eq.mpr ?_
  have hmin : Min.min (e - k) e = e - k := by omega
  have hzero : (e - k - (e - k)).toNat = 0 := by omega
  have hk : (e - (e - k)).toNat = k := by omega
  simp only [align, hmin, hzero, hk, pow_zero, Int.mul_one]
  push_cast
  ring

/-- Zeros at the end make no difference. -/
theorem round_mul_pow {n : Nat} (hn : 0 < n) (e : Int) (k : Nat) :
    (round (n * 10 ^ k) (e - k)).compare (round n e) = .eq := by
  have hlow : lowest (n * 10 ^ k) (e - k) = lowest n e := by
    unfold lowest
    rw [digits_mul_pow hn]
    congr 1
    push_cast
    ring
  have hfits : (digits n : Int) + e - prec ≤ lowest n e := le_max_left _ _
  unfold round
  simp only [hlow]
  by_cases hle : lowest n e ≤ e
  · rw [if_pos hle]
    by_cases hle' : lowest n e ≤ e - k
    · rw [if_pos hle']
      exact compare_scaled n e k
    · -- only zeros are rounded off
      obtain ⟨j, hj⟩ : ∃ j : Nat, e = lowest n e + j := ⟨(e - lowest n e).toNat, by omega⟩
      have hshift : (lowest n e - (e - k)).toNat = k - j := by omega
      have hjk : j ≤ k := by omega
      have hexact : divRound .halfEven (n * 10 ^ k) (10 ^ (lowest n e - (e - k)).toNat)
          = n * 10 ^ j := by
        have hsplit : n * 10 ^ k = n * 10 ^ j * 10 ^ (k - j) := by
          rw [Nat.mul_assoc, ← pow_add]
          congr 2
          omega
        have hone := divRound_mul_pow (n * 10 ^ j) 1 (k - j)
        rw [Nat.one_mul, divRound_one] at hone
        rw [hshift, hsplit]
        exact hone
      have hdigits : digits (n * 10 ^ j) ≤ prec := by
        rw [digits_mul_pow hn]
        omega
      have hlowest : lowest n e = e - j := by omega
      rw [if_neg hle', hexact, if_pos hdigits, hlowest]
      exact compare_scaled n e j
  · have hle' : ¬ lowest n e ≤ e - k := by omega
    have hshift : (lowest n e - (e - k)).toNat = (lowest n e - e).toNat + k := by omega
    rw [if_neg hle, if_neg hle', hshift, pow_add, divRound_mul_pow]
    exact compare_refl _

/-- Of two of one value, that with more digits has zeros at the end. -/
theorem coeff_of_compare {x y : Decimal} (h : x.compare y = .eq) (he : y.exp ≤ x.exp) :
    y.coeff = x.coeff * 10 ^ (x.exp - y.exp).toNat := by
  have halign : x.align (Min.min x.exp y.exp) = y.align (Min.min x.exp y.exp) :=
    compare_eq_iff_eq.mp h
  rw [min_eq_right he] at halign
  have hzero : (y.exp - y.exp).toNat = 0 := by omega
  simp only [align, hzero, pow_zero, Int.mul_one] at halign
  exact halign.symm

theorem round_zero_coeff (e : Int) : (round 0 e).coeff = 0 := by
  have hzero : ∀ k : Nat, divRound .halfEven 0 (10 ^ k) = 0 := by
    intro k
    have hpos : 0 < 10 ^ k := Nat.pow_pos (by decide)
    simp [divRound]
  unfold round
  dsimp only
  split
  · rfl
  · rw [hzero]
    rfl

theorem compare_zeros {x y : Decimal} (hx : x.coeff = 0) (hy : y.coeff = 0) :
    x.compare y = .eq := by
  refine compare_eq_iff_eq.mpr ?_
  rw [align, align, hx, hy, Int.zero_mul, Int.zero_mul]

/-- **Magnitudes of one value are rounded alike.** -/
theorem round_congr {n n' : Nat} {e e' : Int}
    (h : (⟨n, e⟩ : Decimal).compare ⟨n', e'⟩ = .eq) : (round n e).compare (round n' e') = .eq := by
  have hone : ∀ {n n' : Nat} {e e' : Int}, e' ≤ e →
      (⟨n, e⟩ : Decimal).compare ⟨n', e'⟩ = .eq → (round n e).compare (round n' e') = .eq := by
    intro n n' e e' he h
    have hcoeff : n' = n * 10 ^ (e - e').toNat := by
      have hcast := coeff_of_compare h he
      dsimp only at hcast
      exact_mod_cast hcast
    have hexp : e' = e - (e - e').toNat := by omega
    rcases Nat.eq_zero_or_pos n with rfl | hn
    · rw [hcoeff, Nat.zero_mul]
      exact compare_zeros (round_zero_coeff e) (round_zero_coeff e')
    · rw [hexp, hcoeff]
      have hscaled := round_mul_pow hn e (e - e').toNat
      rw [← hexp] at hscaled ⊢
      exact compare_symm hscaled
  rcases le_total e' e with he | he
  · exact hone he h
  · exact compare_symm (hone he (compare_symm h))

/-- Of one value either overflows or neither does. -/
theorem overflows_congr {x y : Decimal} (h : x.compare y = .eq) : Overflows x ↔ Overflows y := by
  have hone : ∀ {x y : Decimal}, y.exp ≤ x.exp → x.compare y = .eq →
      (Overflows x ↔ Overflows y) := by
    intro x y he h
    have hcoeff := coeff_of_compare h he
    have hpow : (10 : Int) ^ (x.exp - y.exp).toNat ≠ 0 := (Int.pow_pos (by decide)).ne'
    unfold Overflows
    by_cases hx : x.coeff = 0
    · rw [hx, Int.zero_mul] at hcoeff
      simp [hx, hcoeff]
    · have hy : y.coeff ≠ 0 := by
        rw [hcoeff]
        exact Int.mul_ne_zero hx hpow
      have habs : y.coeff.natAbs = x.coeff.natAbs * 10 ^ (x.exp - y.exp).toNat := by
        rw [hcoeff, Int.natAbs_mul, Int.natAbs_pow]
        rfl
      rw [habs, digits_mul_pow (Int.natAbs_pos.mpr hx)]
      refine and_congr (iff_of_true hx hy) ?_
      push_cast
      omega
  rcases le_total y.exp x.exp with he | he
  · exact hone he h
  · exact (hone he (compare_symm h)).symm

/-! ## Normal forms -/

/-- Rounded, with no trailing zeros, however great. -/
def stripped (x : SignedDecimal) : SignedDecimal :=
  let normal := (round x.coefficient x.exp).normalize
  ⟨x.negative, normal.coeff.natAbs, normal.exp⟩

theorem normalize_eq (x : SignedDecimal) :
    x.normalize = if Overflows (round x.coefficient x.exp) then none else some x.stripped := rfl

/-- The two are the same number once they are rounded, and it has a normal form. -/
def RoundsAlike (x y : SignedDecimal) : Prop :=
  x.negative = y.negative
    ∧ (round x.coefficient x.exp).compare (round y.coefficient y.exp) = .eq
    ∧ ¬ Overflows (round x.coefficient x.exp)

theorem coeff_normalize_nonneg {y : Decimal} (hdigits : digits y.coeff.natAbs ≤ prec)
    (h : 0 ≤ y.coeff) : 0 ≤ y.normalize.coeff := by
  have hfix : fix y = y := by
    unfold fix
    exact if_pos hdigits
  unfold Decimal.normalize
  rw [hfix]
  dsimp only
  split
  · exact le_refl _
  · unfold signed
    rw [if_neg (by omega)]
    exact Int.natCast_nonneg _

/-- **Two have one normal form when they round alike.** -/
theorem normalize_eq_iff {x y : SignedDecimal} :
    (∃ z, x.normalize = some z ∧ y.normalize = some z) ↔ RoundsAlike x y := by
  have hx := digits_round x.coefficient x.exp
  have hy := digits_round y.coefficient y.exp
  unfold normalize RoundsAlike
  dsimp only
  constructor
  · rintro ⟨z, hxz, hyz⟩
    split at hxz
    · cases hxz
    · rename_i hfits
      split at hyz
      · cases hyz
      · cases hxz
        obtain ⟨hsign, hcoeff, hexp⟩ := SignedDecimal.mk.inj (Option.some.inj hyz)
        have hxpos := coeff_normalize_nonneg hx (coeff_round_nonneg _ _)
        have hypos := coeff_normalize_nonneg hy (coeff_round_nonneg _ _)
        refine ⟨hsign.symm, compare_eq_of_normalize hx hy ?_, hfits⟩
        have hsame : (round x.coefficient x.exp).normalize.coeff
            = (round y.coefficient y.exp).normalize.coeff := by omega
        exact congrArg₂ Decimal.mk hsame hexp.symm
  · rintro ⟨hsign, hround, hfits⟩
    have hfits' := fun h => hfits ((overflows_congr hround).mpr h)
    rw [if_neg hfits, if_neg hfits', hsign, normalize_congr hround]
    exact ⟨_, rfl, rfl⟩

/-- Within the working precision, equal magnitudes are stripped to one form, and no others. -/
theorem stripped_eq_iff {x y : SignedDecimal} (hsign : x.negative = y.negative)
    (hx : digits x.coefficient ≤ prec) (hxlow : etiny ≤ x.exp) (hy : digits y.coefficient ≤ prec)
    (hylow : etiny ≤ y.exp) : x.stripped = y.stripped ↔ x.magnitude.compare y.magnitude = .eq := by
  have hround : ∀ z : SignedDecimal, digits z.coefficient ≤ prec → etiny ≤ z.exp →
      round z.coefficient z.exp = z.magnitude := by
    intro z hz hlow
    have hlowest : lowest z.coefficient z.exp ≤ z.exp := max_le (by omega) hlow
    exact if_pos hlowest
  have hfits : ∀ z : SignedDecimal, digits z.coefficient ≤ prec →
      digits z.magnitude.coeff.natAbs ≤ prec := fun z hz => hz
  have hnonneg : ∀ z : SignedDecimal, digits z.coefficient ≤ prec →
      0 ≤ z.magnitude.normalize.coeff := fun z hz =>
    coeff_normalize_nonneg (hfits z hz) (Int.natCast_nonneg _)
  unfold stripped
  rw [hround x hx hxlow, hround y hy hylow]
  dsimp only
  constructor
  · intro h
    obtain ⟨-, hcoeff, hexp⟩ := SignedDecimal.mk.inj h
    refine compare_eq_of_normalize (hfits x hx) (hfits y hy) ?_
    have hxpos := hnonneg x hx
    have hypos := hnonneg y hy
    have hsame : x.magnitude.normalize.coeff = y.magnitude.normalize.coeff := by omega
    exact congrArg₂ Decimal.mk hsame hexp
  · intro h
    rw [hsign, normalize_congr h]

/-- Equal values have equal magnitudes, and one sign if they are not zero. -/
theorem value_eq_iff {x y : SignedDecimal} : x.value.compare y.value = .eq
    ↔ x.magnitude.compare y.magnitude = .eq ∧ (x.coefficient = 0 ∨ x.negative = y.negative) := by
  have hcompare : ∀ a b : Decimal, a.compare b = .eq
      ↔ a.align (Min.min a.exp b.exp) = b.align (Min.min a.exp b.exp) :=
    fun a b => compare_eq_iff_eq
  rw [hcompare, hcompare]
  unfold value magnitude align
  dsimp only
  generalize (x.exp - Min.min x.exp y.exp).toNat = i
  generalize (y.exp - Min.min x.exp y.exp).toNat = j
  have hi : (0 : Int) < 10 ^ i := Int.pow_pos (by decide)
  have hj : (0 : Int) < 10 ^ j := Int.pow_pos (by decide)
  have hx : (0 : Int) ≤ x.coefficient * 10 ^ i := Int.mul_nonneg (Int.natCast_nonneg _) hi.le
  have hy : (0 : Int) ≤ y.coefficient * 10 ^ j := Int.mul_nonneg (Int.natCast_nonneg _) hj.le
  have hzero : (x.coefficient : Int) * 10 ^ i = 0 ↔ x.coefficient = 0 := by
    rw [Int.mul_eq_zero, or_iff_left hi.ne', Int.natCast_eq_zero]
  rw [← hzero]
  cases x.negative <;> cases y.negative <;> simp <;> omega

/-! ## Plain text -/

/-- The digits, with a point if there is a fraction. -/
def body (n : Nat) (e : Int) : List Char :=
  let digits := Nat.toDigits 10 n
  let leftDigits : Int := e + digits.length
  if leftDigits ≤ 0 then '0' :: '.' :: (List.replicate (-leftDigits).toNat '0' ++ digits)
  else if leftDigits < digits.length then
    digits.take leftDigits.toNat ++ '.' :: digits.drop leftDigits.toNat
  else digits ++ List.replicate (leftDigits.toNat - digits.length) '0'

/-- The number without an exponent, as the format `f` writes it. -/
def format (x : SignedDecimal) : List Char :=
  (if x.negative then ['-'] else []) ++ body x.coefficient x.exp

/-- A fraction has as many digits behind the point as its exponent says. -/
theorem body_of_neg (n : Nat) {e : Int} (he : e < 0) :
    ∃ whole fraction, body n e = whole ++ '.' :: fraction
      ∧ (∀ c ∈ whole, c.isDigit = true) ∧ whole ≠ [] ∧ fraction.length = (-e).toNat
      ∧ ofDigits (whole ++ fraction) = n := by
  have hlength : 0 < (Nat.toDigits 10 n).length := Nat.length_toDigits_pos
  unfold body
  dsimp only
  split
  · rename_i hleft
    refine ⟨['0'], List.replicate (-(e + (Nat.toDigits 10 n).length)).toNat '0'
      ++ Nat.toDigits 10 n, rfl, ?_, List.cons_ne_nil _ _, ?_, ?_⟩
    · intro c hc
      rw [List.mem_singleton.mp hc]
      rfl
    · rw [List.length_append, List.length_replicate]
      omega
    · rw [← List.append_assoc, ← List.replicate_one, List.replicate_append_replicate,
        ofDigits_zeros_append, ofDigits_toDigits]
  · rename_i hleft
    rw [if_pos (by omega)]
    refine ⟨_, _, rfl, fun c hc => isDigit_of_mem (List.mem_of_mem_take hc), ?_, ?_, ?_⟩
    · rw [ne_eq, List.take_eq_nil_iff]
      rintro (hzero | hnil)
      · omega
      · rw [hnil] at hlength
        exact absurd hlength (Nat.lt_irrefl 0)
    · rw [List.length_drop]
      omega
    · rw [List.take_append_drop, ofDigits_toDigits]

/-- What is no fraction has its zeros written out. -/
theorem body_of_nonneg (n : Nat) {e : Int} (he : 0 ≤ e) :
    body n e = Nat.toDigits 10 n ++ List.replicate e.toNat '0' := by
  have hlength : 0 < (Nat.toDigits 10 n).length := Nat.length_toDigits_pos
  unfold body
  dsimp only
  rw [if_neg (by omega), if_neg (by omega)]
  congr 2
  omega

theorem isDigit_body_of_nonneg {n : Nat} {e : Int} (he : 0 ≤ e) :
    ∀ c ∈ body n e, c.isDigit = true := by
  intro c hc
  rw [body_of_nonneg n he] at hc
  rcases List.mem_append.mp hc with hc | hc
  · exact isDigit_of_mem hc
  · exact isDigit_of_mem_zeros hc

/-- A number does not end in zero, or is zero itself. -/
def Normal (n : Nat) (e : Int) : Prop := n % 10 ≠ 0 ∨ n = 0 ∧ e = 0

theorem mod_ten_of_mul_pow {n k : Nat} (hk : 0 < k) : n * 10 ^ k % 10 = 0 := by
  obtain ⟨k, rfl⟩ := Nat.exists_eq_succ_of_ne_zero hk.ne'
  rw [pow_succ, ← Nat.mul_assoc]
  exact Nat.mul_mod_left _ _

/-- A number that is no fraction is digits and zeros in one way. -/
theorem Normal.eq_of_mul_pow {n n' i j : Nat} (hn : Normal n i) (hn' : Normal n' j)
    (h : n * 10 ^ i = n' * 10 ^ j) : n = n' ∧ i = j := by
  have hone : ∀ {n n' i j : Nat}, Normal n i → Normal n' j → n * 10 ^ i = n' * 10 ^ j →
      ¬ i < j := by
    intro n n' i j hn hn' h hlt
    have hsplit : n = n' * 10 ^ (j - i) := by
      refine Nat.eq_of_mul_eq_mul_right (Nat.pow_pos (n := i) (show 0 < 10 by decide)) ?_
      rw [h, Nat.mul_assoc, ← pow_add]
      congr 2
      omega
    rcases hn with hmod | ⟨hzero, -⟩
    · exact hmod (hsplit ▸ mod_ten_of_mul_pow (by omega))
    · -- zero has no zeros to write out
      rcases hn' with hmod | ⟨-, hj⟩
      · rw [hzero] at hsplit
        have hn0 : n' = 0 := by
          rcases Nat.mul_eq_zero.mp hsplit.symm with h0 | h0
          · exact h0
          · exact absurd h0 (Nat.pow_pos (by decide)).ne'
        exact hmod (by rw [hn0])
      · omega
  have hij : i = j := Nat.le_antisymm (Nat.not_lt.mp (hone hn' hn h.symm)) (Nat.not_lt.mp (hone hn hn' h))
  subst hij
  exact ⟨Nat.eq_of_mul_eq_mul_right (Nat.pow_pos (by decide)) h, rfl⟩

theorem point_not_mem {n : Nat} {e : Int} (he : 0 ≤ e) : '.' ∉ body n e := fun h =>
  absurd (isDigit_body_of_nonneg he '.' h) (by decide)

/-- **The digits and the point determine a normal form.** -/
theorem body_inj {n n' : Nat} {e e' : Int} (hn : Normal n e) (hn' : Normal n' e')
    (h : body n e = body n' e') : n = n' ∧ e = e' := by
  rcases lt_or_ge e 0 with he | he
  · obtain ⟨whole, fraction, hbody, hdigits, -, hlength, hvalue⟩ := body_of_neg n he
    rcases lt_or_ge e' 0 with he' | he'
    · obtain ⟨whole', fraction', hbody', hdigits', -, hlength', hvalue'⟩ := body_of_neg n' he'
      rw [hbody, hbody'] at h
      have hpoint : ∀ (r : List Char), ∀ c ∈ ('.' :: r).head?, ¬ c.isDigit = true := by
        intro r c hc
        cases hc
        decide
      obtain ⟨rfl, hrest⟩ := span_inj hdigits hdigits' (hpoint _) (hpoint _) h
      obtain rfl : fraction = fraction' := (List.cons.inj hrest).2
      exact ⟨by rw [← hvalue, hvalue'], by omega⟩
    · refine absurd ?_ (point_not_mem (n := n') he')
      rw [← h, hbody]
      exact List.mem_append_right _ List.mem_cons_self
  · rcases lt_or_ge e' 0 with he' | he'
    · obtain ⟨whole', fraction', hbody', -⟩ := body_of_neg n' he'
      refine absurd ?_ (point_not_mem (n := n) he)
      rw [h, hbody']
      exact List.mem_append_right _ List.mem_cons_self
    · obtain ⟨i, rfl⟩ := Int.eq_ofNat_of_zero_le he
      obtain ⟨j, rfl⟩ := Int.eq_ofNat_of_zero_le he'
      have hvalue := congrArg ofDigits h
      rw [body_of_nonneg n he, body_of_nonneg n' he', ofDigits_append_zeros, ofDigits_append_zeros,
        ofDigits_toDigits, ofDigits_toDigits] at hvalue
      obtain ⟨hcoeff, hexp⟩ := hn.eq_of_mul_pow hn' hvalue
      exact ⟨hcoeff, congrArg Int.ofNat hexp⟩

theorem body_ne_minus (n : Nat) (e : Int) (l : List Char) : body n e ≠ '-' :: l := by
  intro h
  rcases lt_or_ge e 0 with he | he
  · obtain ⟨whole, fraction, hbody, hdigits, hne, -⟩ := body_of_neg n he
    obtain ⟨c, rest, rfl⟩ := List.exists_cons_of_ne_nil hne
    rw [hbody] at h
    obtain rfl : c = '-' := (List.cons.inj h).1
    exact absurd (hdigits '-' List.mem_cons_self) (by decide)
  · refine absurd (isDigit_body_of_nonneg (n := n) he '-' ?_) (by decide)
    rw [h]
    exact List.mem_cons_self

theorem normal_stripped (x : SignedDecimal) : Normal x.stripped.coefficient x.stripped.exp := by
  have hdigits := digits_round x.coefficient x.exp
  unfold stripped
  dsimp only
  generalize round x.coefficient x.exp = y at hdigits
  obtain ⟨c, e⟩ := y
  by_cases hc : c = 0
  · subst hc
    rw [normalize_zero]
    exact .inr ⟨rfl, rfl⟩
  · obtain ⟨m, j, hm, hm0, hj⟩ := exists_trailing_zeros (Int.natAbs_pos.mpr hc)
    have hj' : j ≤ prec := (Nat.le_of_lt hj).trans hdigits
    rw [normalize_of_digits hm hm0 hj' hdigits]
    refine .inl ?_
    have habs : (signed c m).natAbs = m := by
      unfold signed
      split <;> omega
    rw [habs]
    exact hm0

/-- What `normalize` returns does not end in zero. -/
theorem normal_of_normalize {x z : SignedDecimal} (h : x.normalize = some z) :
    Normal z.coefficient z.exp := by
  rw [normalize_eq] at h
  split at h
  · cases h
  · rw [← Option.some.inj h]
    exact normal_stripped x

/-- **The text determines the normal form.** -/
theorem format_inj {x y : SignedDecimal} (hx : Normal x.coefficient x.exp)
    (hy : Normal y.coefficient y.exp) (h : x.format = y.format) : x = y := by
  obtain ⟨xneg, n, e⟩ := x
  obtain ⟨yneg, n', e'⟩ := y
  unfold format at h
  cases xneg <;> cases yneg
  · obtain ⟨rfl, rfl⟩ := body_inj hx hy h
    rfl
  · exact absurd h (body_ne_minus n e _)
  · exact absurd h.symm (body_ne_minus n' e' _)
  · obtain ⟨rfl, rfl⟩ := body_inj hx hy (List.cons.inj h).2
    rfl

end SignedDecimal
