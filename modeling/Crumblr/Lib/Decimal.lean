import Mathlib.Algebra.Order.Group.Defs
import Mathlib.Algebra.Order.Ring.Int
import Mathlib.Tactic.Common

/-!
# Decimal floating point

Decimal arithmetic with a 28-digit working precision, as Python's `decimal`
performs it in its default context: an operation is computed exactly and then
rounded half-even to 28 significant digits. Exponents are unbounded here, so
there is no overflow to infinity; a result that does not fit its requested
exponent is still refused, by `quantize`.

A number keeps its own exponent (`1.10` and `1.1` are different decimals of the
same value), so equality of structures is equality of the written form and
`Decimal.compare` is equality of values.
-/

/-- `coeff * 10 ^ exp`. -/
structure Decimal where
  coeff : Int
  exp : Int
  deriving DecidableEq, Repr

/-- How a quotient that is not exact is rounded. -/
inductive Rounding where
  | halfEven
  | halfUp
  | down
  | up
  deriving DecidableEq, Repr

namespace Decimal

/-- The working precision, in significant digits. -/
def prec : Nat := 28

/-- How many decimal digits a number has; zero has one. -/
def digits (n : Nat) : Nat := (Nat.toDigits 10 n).length

/-- A natural quotient, rounded. -/
def divRound (r : Rounding) (n d : Nat) : Nat :=
  match r with
  | .down => n / d
  | .up => if n % d = 0 then n / d else n / d + 1
  | .halfUp => if d ≤ 2 * (n % d) then n / d + 1 else n / d
  | .halfEven =>
      if d < 2 * (n % d) ∨ (2 * (n % d) = d ∧ n / d % 2 = 1) then n / d + 1 else n / d

/-- The magnitude `n` under the sign of `c`. -/
def signed (c : Int) (n : Nat) : Int := if c < 0 then -n else n

/-- Round to the working precision. -/
def fix (x : Decimal) : Decimal :=
  let n := digits x.coeff.natAbs
  if n ≤ prec then x
  else
    let k := n - prec
    let c := divRound .halfEven x.coeff.natAbs (10 ^ k)
    if digits c ≤ prec then ⟨signed x.coeff c, x.exp + k⟩
    else ⟨signed x.coeff (c / 10), x.exp + k + 1⟩

/-- The coefficient of `x` written with exponent `e`, for `e ≤ x.exp`. -/
def align (x : Decimal) (e : Int) : Int := x.coeff * 10 ^ (x.exp - e).toNat

/-- The sign of `x - y`, as a value. -/
def compare (x y : Decimal) : Ordering :=
  let e := min x.exp y.exp
  Ord.compare (x.align e) (y.align e)

instance : LE Decimal := ⟨fun x y => x.compare y ≠ .gt⟩
instance : LT Decimal := ⟨fun x y => x.compare y = .lt⟩
instance (x y : Decimal) : Decidable (x ≤ y) := inferInstanceAs (Decidable (_ ≠ _))
instance (x y : Decimal) : Decidable (x < y) := inferInstanceAs (Decidable (_ = _))

instance (n : Nat) : OfNat Decimal n := ⟨⟨n, 0⟩⟩

def add (x y : Decimal) : Decimal :=
  let e := min x.exp y.exp
  fix ⟨x.align e + y.align e, e⟩

def neg (x : Decimal) : Decimal := fix ⟨-x.coeff, x.exp⟩

def sub (x y : Decimal) : Decimal :=
  let e := min x.exp y.exp
  fix ⟨x.align e - y.align e, e⟩

def mul (x y : Decimal) : Decimal := fix ⟨x.coeff * y.coeff, x.exp + y.exp⟩

def abs (x : Decimal) : Decimal := fix ⟨x.coeff.natAbs, x.exp⟩

/-- Drop up to `fuel` trailing zeros, never past exponent `ideal`. -/
def stripTo (ideal : Int) : Nat → Nat → Int → Nat × Int
  | 0, c, e => (c, e)
  | fuel + 1, c, e => if e < ideal ∧ c % 10 = 0 then stripTo ideal fuel (c / 10) (e + 1) else (c, e)

/--
The quotient. An exact one keeps the exponent closest to the ideal; an inexact
one is rounded from one guard digit and a sticky bit. A zero divisor is the
caller's to exclude.
-/
def div (x y : Decimal) : Decimal :=
  let ideal := x.exp - y.exp
  if x.coeff = 0 then ⟨0, ideal⟩
  else
    let n := x.coeff.natAbs
    let d := y.coeff.natAbs
    let shift : Int := (digits d : Int) - digits n + prec + 1
    let num := n * 10 ^ shift.toNat
    let den := d * 10 ^ (-shift).toNat
    let q := num / den
    let sign := x.coeff * y.coeff
    if num % den ≠ 0 then
      fix ⟨signed sign (if q % 5 = 0 then q + 1 else q), ideal - shift⟩
    else
      let (c, e) := stripTo ideal (prec + 2) q (ideal - shift)
      fix ⟨signed sign c, e⟩

instance : Add Decimal := ⟨add⟩
instance : Neg Decimal := ⟨neg⟩
instance : Sub Decimal := ⟨sub⟩
instance : Mul Decimal := ⟨mul⟩
instance : Div Decimal := ⟨div⟩

/-- `x` written with exponent `e`, rounded if digits are lost. -/
def rescale (r : Rounding) (x : Decimal) (e : Int) : Decimal :=
  if e ≤ x.exp then ⟨x.align e, e⟩
  else ⟨signed x.coeff (divRound r x.coeff.natAbs (10 ^ (e - x.exp).toNat)), e⟩

/-- `x` written with exponent `e`; nothing when that needs more than the working precision. -/
def quantize (r : Rounding) (x : Decimal) (e : Int) : Option Decimal :=
  let y := rescale r x e
  if digits y.coeff.natAbs ≤ prec then some y else none

/-- The integral part, rounded; a decimal that is already integral is left alone. -/
def toIntegralValue (r : Rounding) (x : Decimal) : Decimal :=
  if 0 ≤ x.exp then x else rescale r x 0

/-- The integer an integral decimal stands for. -/
def toInt (x : Decimal) : Int := x.coeff * 10 ^ x.exp.toNat

/-- Rounded to the working precision, with no trailing zeros. -/
def normalize (x : Decimal) : Decimal :=
  let y := fix x
  if y.coeff = 0 then ⟨0, 0⟩
  else
    let (c, e) := stripTo (y.exp + prec + 1) (prec + 1) y.coeff.natAbs y.exp
    ⟨signed y.coeff c, e⟩

/-- The written form: plain digits unless the exponent asks for the scientific one. -/
def text (x : Decimal) : String :=
  let s := String.ofList (Nat.toDigits 10 x.coeff.natAbs)
  let leftDigits : Int := x.exp + s.length
  let dotPlace : Int := if x.exp ≤ 0 ∧ -6 < leftDigits then leftDigits else 1
  let mantissa :=
    if dotPlace ≤ 0 then "0." ++ String.ofList (List.replicate (-dotPlace).toNat '0') ++ s
    else if s.length ≤ dotPlace.toNat then
      s ++ String.ofList (List.replicate (dotPlace.toNat - s.length) '0')
    else (s.take dotPlace.toNat).toString ++ "." ++ (s.drop dotPlace.toNat).toString
  let e := leftDigits - dotPlace
  (if x.coeff < 0 then "-" else "") ++ mantissa
    ++ (if e = 0 then "" else "E" ++ (if 0 < e then "+" else "") ++ toString e)

/-- The greater value; the first on a tie, as Python's built-in `max`. -/
def max (x y : Decimal) : Decimal := if x < y then y else x

/-- The smaller value; the first on a tie. -/
def min (x y : Decimal) : Decimal := if y < x then y else x

/-! ## The order of values -/

variable {x y z : Decimal}

/-- Written with a smaller exponent, a number gains zeros. -/
theorem align_of_le {e e' : Int} (he : e ≤ e') (hx : e' ≤ x.exp) :
    x.align e = x.align e' * 10 ^ (e' - e).toNat := by
  unfold align
  rw [Int.mul_assoc, ← pow_add]
  congr 2
  omega

/-- Values compare as their coefficients do at any exponent both can be written with. -/
theorem le_iff_align {e : Int} (hx : e ≤ x.exp) (hy : e ≤ y.exp) :
    x ≤ y ↔ x.align e ≤ y.align e := by
  have hscale : (0 : Int) < 10 ^ (Min.min x.exp y.exp - e).toNat := Int.pow_pos (by omega)
  rw [align_of_le (le_min hx hy) (min_le_left ..), align_of_le (le_min hx hy) (min_le_right ..),
    Int.mul_le_mul_right hscale]
  exact compare_le_iff_le

theorem lt_iff_align {e : Int} (hx : e ≤ x.exp) (hy : e ≤ y.exp) :
    x < y ↔ x.align e < y.align e := by
  have hscale : (0 : Int) < 10 ^ (Min.min x.exp y.exp - e).toNat := Int.pow_pos (by omega)
  rw [align_of_le (le_min hx hy) (min_le_left ..), align_of_le (le_min hx hy) (min_le_right ..),
    Int.mul_lt_mul_right hscale]
  exact compare_lt_iff_lt

/-- Different decimals may have the same value, so values are preordered. -/
instance : Preorder Decimal where
  le_refl x := (le_iff_align (le_refl _) (le_refl _)).mpr (le_refl _)
  le_trans x y z hxy hyz := by
    have hx : Min.min x.exp (Min.min y.exp z.exp) ≤ x.exp := by omega
    have hy : Min.min x.exp (Min.min y.exp z.exp) ≤ y.exp := by omega
    have hz : Min.min x.exp (Min.min y.exp z.exp) ≤ z.exp := by omega
    exact (le_iff_align hx hz).mpr
      (le_trans ((le_iff_align hx hy).mp hxy) ((le_iff_align hy hz).mp hyz))
  lt_iff_le_not_ge x y := by
    rw [lt_iff_align (min_le_left x.exp y.exp) (min_le_right ..),
      le_iff_align (min_le_left x.exp y.exp) (min_le_right ..),
      le_iff_align (min_le_right x.exp y.exp) (min_le_left ..)]
    exact lt_iff_le_not_ge

theorem not_lt : ¬ x < y ↔ y ≤ x := by
  rw [lt_iff_align (min_le_left x.exp y.exp) (min_le_right ..),
    le_iff_align (min_le_right x.exp y.exp) (min_le_left ..)]
  exact Int.not_lt

theorem not_le : ¬ x ≤ y ↔ y < x := by
  rw [← not_lt, Decidable.not_not]

/-- Equal values, as `==` compares them. -/
theorem compare_eq : x.compare y = .eq ↔ x ≤ y ∧ y ≤ x := by
  rw [le_iff_align (min_le_left x.exp y.exp) (min_le_right ..),
    le_iff_align (min_le_right x.exp y.exp) (min_le_left ..), ← Int.le_antisymm_iff]
  exact compare_eq_iff_eq

theorem le_max_left : x ≤ x.max y := by
  unfold max
  split
  · rename_i h
    exact le_of_lt h
  · exact le_refl x

theorem le_max_right : y ≤ x.max y := by
  unfold max
  split
  · exact le_refl y
  · rename_i h
    exact not_lt.mp h

theorem max_le (hx : x ≤ z) (hy : y ≤ z) : x.max y ≤ z := by
  unfold max
  split
  · exact hy
  · exact hx

theorem max_eq_left (h : y ≤ x) : x.max y = x := by
  unfold max
  rw [if_neg (not_lt.mpr h)]

theorem max_le_iff : x.max y ≤ z ↔ x ≤ z ∧ y ≤ z :=
  ⟨fun h => ⟨le_trans le_max_left h, le_trans le_max_right h⟩, fun h => max_le h.1 h.2⟩

theorem le_max_iff : z ≤ x.max y ↔ z ≤ x ∨ z ≤ y := by
  constructor
  · intro h
    unfold max at h
    split at h
    · exact .inr h
    · exact .inl h
  · rintro (h | h)
    · exact le_trans h le_max_left
    · exact le_trans h le_max_right

theorem max_lt_iff : x.max y < z ↔ x < z ∧ y < z := by
  refine ⟨fun h => ⟨lt_of_le_of_lt le_max_left h, lt_of_le_of_lt le_max_right h⟩, fun h => ?_⟩
  unfold max
  split
  · exact h.2
  · exact h.1

/-- The quotient is correctly rounded at 28 digits. -/
example : (1 : Decimal) / 3 = ⟨3333333333333333333333333333, -28⟩ := by decide +kernel

/-- An exact quotient keeps the exponent nearest the ideal one. -/
example : (⟨200, -5⟩ : Decimal) / ⟨1, -5⟩ = ⟨200, 0⟩ := by decide +kernel

example : text ⟨110, -2⟩ = "1.10" := by decide +kernel

end Decimal
