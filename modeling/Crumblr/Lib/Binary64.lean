import Mathlib.Algebra.Order.Floor.Semiring
import Mathlib.Data.List.DropRight
import Mathlib.Data.Rat.Floor
import Crumblr.Lib.NumberText
import Crumblr.Lib.Rounding

/-!
# Doubles and their texts

The text of a number stands for the nearest double, the one of even significand where two are as
near. A double is written with the fewest digits that stand for it.
-/

namespace Binary64

/-- A double. A zero has a sign. -/
inductive Value where
  | nan
  | infinite (negative : Bool)
  | finite (negative : Bool) (magnitude : ℚ)
  deriving DecidableEq

/-! ## Reading -/

/-- The unit in the last of the 53 places of a number; no unit is smaller than the smallest. -/
def ulp (q : ℚ) : ℚ := (2 : ℚ) ^ max (Int.log 2 q - 52) (-1074)

/-- The double nearest to a number that's not negative; nothing where that is no finite one. -/
def nearest? (q : ℚ) : Option ℚ :=
  let x := SigDigits.halfEven (q / ulp q) * ulp q
  if x < 2 ^ 1024 then some x else none

/-- The exponent a text ends with. -/
def exponent : List Char → Int
  | _ :: '-' :: digits => -NumberText.ofDigits digits
  | _ :: '+' :: digits => NumberText.ofDigits digits
  | _ :: digits => NumberText.ofDigits digits
  | [] => 0

/-- The number the text of a magnitude says. -/
def magnitude (text : List Char) : ℚ :=
  let (whole, rest) := text.span (·.isDigit)
  let (fraction, rest) :=
    match rest with
    | '.' :: rest => rest.span (·.isDigit)
    | rest => ([], rest)
  NumberText.ofDigits (whole ++ fraction) * (10 : ℚ) ^ (exponent rest - fraction.length)

/-- The double a text stands for. -/
def read (text : List Char) : Value :=
  if text = "NaN".toList then .nan
  else
    let (negative, unsigned) :=
      match text with
      | '-' :: rest => (true, rest)
      | rest => (false, rest)
    if unsigned = "Infinity".toList then .infinite negative
    else
      match nearest? (magnitude unsigned) with
      | some q => .finite negative q
      | none => .infinite negative

/-! ## Writing -/

/-- The decimal of the fewest digits that stands for a double; seventeen are enough. -/
def shortest (q : ℚ) : ℚ :=
  (((List.range 17).map fun p => SigDigits.roundPos 10 (p + 1) q).find? fun c =>
    decide (nearest? c = some q)).getD q

/-- The significant digits of a decimal whose point stands after so many of them. -/
def digits (c : ℚ) (point : Int) : List Char :=
  (Nat.toDigits 10 ⌊c * (10 : ℚ) ^ (17 - point)⌋₊).rdropWhile (· == '0')

/-- An exponent has a sign and two digits at least. -/
def exponentText (e : Int) : List Char :=
  let digits := Nat.toDigits 10 e.natAbs
  'e' :: (if e < 0 then '-' else '+') :: (List.replicate (2 - digits.length) '0' ++ digits)

/-- The text of a magnitude, by its digits and where its point is. -/
def digitsText (digits : List Char) (point : Int) : List Char :=
  if -4 < point ∧ point ≤ 16 then
    if point ≤ 0 then '0' :: '.' :: (List.replicate (-point).toNat '0' ++ digits)
    else if digits.length ≤ point.toNat then
      digits ++ List.replicate (point.toNat - digits.length) '0' ++ ['.', '0']
    else digits.take point.toNat ++ '.' :: digits.drop point.toNat
  else
    match digits with
    | [] => '0' :: exponentText (point - 1)
    | [d] => d :: exponentText (point - 1)
    | d :: rest => d :: '.' :: (rest ++ exponentText (point - 1))

def magnitudeText (q : ℚ) : List Char :=
  if q = 0 then ['0', '.', '0']
  else
    let c := shortest q
    let point := Int.log 10 c + 1
    digitsText (digits c point) point

def signText (negative : Bool) : List Char := if negative then ['-'] else []

/-- How `json` writes a double. -/
def Value.json : Value → List Char
  | .nan => "NaN".toList
  | .infinite negative => signText negative ++ "Infinity".toList
  | .finite negative q => signText negative ++ magnitudeText q

/-- `repr`. -/
def Value.repr : Value → List Char
  | .nan => "nan".toList
  | .infinite negative => signText negative ++ "inf".toList
  | .finite negative q => signText negative ++ magnitudeText q

/-! ## The shape of a text -/

/-- What a text of a double is written with. -/
def IsTextChar (c : Char) : Prop := c.isDigit = true ∨ c ∈ ".e+-NaInfity".toList

/-- What no integer is written with, and every double. -/
def IsMark (c : Char) : Prop := c ∈ ".eNI".toList

theorem isDigit_of_mem_digits {q : ℚ} {point : Int} {c : Char} (h : c ∈ digits q point) :
    c.isDigit = true := by
  unfold digits at h
  exact NumberText.isDigit_of_mem ((List.rdropWhile_prefix _ _).subset h)

theorem isTextChar_exponentText {e : Int} {c : Char} (h : c ∈ exponentText e) : IsTextChar c := by
  unfold exponentText at h
  rcases List.mem_cons.mp h with rfl | h
  · exact .inr (by decide)
  rcases List.mem_cons.mp h with rfl | h
  · split
    · exact .inr (by decide)
    · exact .inr (by decide)
  rcases List.mem_append.mp h with h | h
  · exact .inl (NumberText.isDigit_of_mem_zeros h)
  · exact .inl (NumberText.isDigit_of_mem h)

section

variable {ds : List Char} (hds : ∀ c ∈ ds, c.isDigit = true) (point : Int)
include hds

theorem isTextChar_digitsText {c : Char} (h : c ∈ digitsText ds point) : IsTextChar c := by
  have hdigit : ∀ c ∈ ds, IsTextChar c := fun c hc => .inl (hds c hc)
  have hzero : IsTextChar '0' := .inl rfl
  have hpoint : IsTextChar '.' := .inr (by decide)
  have hzeros : ∀ k, ∀ c ∈ List.replicate k '0', IsTextChar c :=
    fun k c hc => .inl (NumberText.isDigit_of_mem_zeros hc)
  have hexp : ∀ c ∈ exponentText (point - 1), IsTextChar c := fun c hc => isTextChar_exponentText hc
  have htake : ∀ c ∈ ds.take point.toNat, IsTextChar c :=
    fun c hc => hdigit c (List.take_subset _ _ hc)
  have hdrop : ∀ c ∈ ds.drop point.toNat, IsTextChar c :=
    fun c hc => hdigit c (List.drop_subset _ _ hc)
  unfold digitsText at h
  split at h
  · split at h
    · simp only [List.mem_cons, List.mem_append] at h
      rcases h with rfl | rfl | h | h
      · exact hzero
      · exact hpoint
      · exact hzeros _ c h
      · exact hdigit c h
    · split at h
      · simp only [List.mem_cons, List.mem_append, List.not_mem_nil, or_false] at h
        rcases h with (h | h) | rfl | rfl
        · exact hdigit c h
        · exact hzeros _ c h
        · exact hpoint
        · exact hzero
      · simp only [List.mem_cons, List.mem_append] at h
        rcases h with h | rfl | h
        · exact htake c h
        · exact hpoint
        · exact hdrop c h
  · split at h
    · rcases List.mem_cons.mp h with rfl | h
      · exact hzero
      · exact hexp c h
    · rcases List.mem_cons.mp h with rfl | h
      · exact hdigit _ List.mem_cons_self
      · exact hexp c h
    · simp only [List.mem_cons, List.mem_append] at h
      rcases h with rfl | rfl | h | h
      · exact hdigit _ List.mem_cons_self
      · exact hpoint
      · exact hdigit _ (List.mem_cons_of_mem _ h)
      · exact hexp c h

omit hds in
theorem mark_digitsText : ∃ c ∈ digitsText ds point, IsMark c := by
  have hpoint : IsMark '.' := by unfold IsMark; decide
  have he : IsMark 'e' := by unfold IsMark; decide
  unfold digitsText
  split
  · split
    · exact ⟨'.', by simp, hpoint⟩
    · split
      · exact ⟨'.', by simp, hpoint⟩
      · exact ⟨'.', by simp, hpoint⟩
  · split
    · exact ⟨'e', by simp [exponentText], he⟩
    · exact ⟨'e', by simp [exponentText], he⟩
    · exact ⟨'e', by simp [exponentText], he⟩

theorem digitsText_head : ∃ c rest, digitsText ds point = c :: rest ∧ c.isDigit = true := by
  unfold digitsText
  split
  · split
    · exact ⟨'0', _, rfl, rfl⟩
    · rename_i hpoint
      cases ds with
      | nil =>
          obtain ⟨k, hk⟩ : ∃ k, point.toNat = k + 1 := ⟨point.toNat - 1, by omega⟩
          rw [hk]
          exact ⟨'0', _, rfl, rfl⟩
      | cons d rest =>
          have hd := hds d List.mem_cons_self
          split
          · exact ⟨d, _, rfl, hd⟩
          · obtain ⟨k, hk⟩ : ∃ k, point.toNat = k + 1 := ⟨point.toNat - 1, by omega⟩
            rw [hk]
            exact ⟨d, _, rfl, hd⟩
  · split
    · exact ⟨'0', _, rfl, rfl⟩
    · exact ⟨_, _, rfl, hds _ List.mem_cons_self⟩
    · exact ⟨_, _, rfl, hds _ List.mem_cons_self⟩

end

theorem isTextChar_magnitudeText {q : ℚ} {c : Char} (h : c ∈ magnitudeText q) : IsTextChar c := by
  unfold magnitudeText at h
  split at h
  · simp only [List.mem_cons, List.not_mem_nil, or_false] at h
    rcases h with rfl | rfl | rfl
    · exact .inl rfl
    · exact .inr (by decide)
    · exact .inl rfl
  · exact isTextChar_digitsText (fun _ hc => isDigit_of_mem_digits hc) _ h

theorem mark_magnitudeText (q : ℚ) : ∃ c ∈ magnitudeText q, IsMark c := by
  unfold magnitudeText
  split
  · exact ⟨'.', by simp, by unfold IsMark; decide⟩
  · exact mark_digitsText _

theorem magnitudeText_head (q : ℚ) : ∃ c rest, magnitudeText q = c :: rest ∧ c.isDigit = true := by
  unfold magnitudeText
  split
  · exact ⟨'0', _, rfl, rfl⟩
  · exact digitsText_head (fun _ hc => isDigit_of_mem_digits hc) _

theorem isTextChar_of_all {text : List Char}
    (h : (text.all fun c => decide (c ∈ ".e+-NaInfity".toList)) = true) {c : Char} (hc : c ∈ text) :
    IsTextChar c :=
  .inr (of_decide_eq_true (List.all_eq_true.mp h c hc))

theorem isTextChar_signText {negative : Bool} {c : Char} (h : c ∈ signText negative) :
    IsTextChar c := by
  cases negative with
  | false => cases h
  | true => exact isTextChar_of_all (by decide) h

theorem isTextChar_json {x : Value} {c : Char} (h : c ∈ x.json) : IsTextChar c := by
  cases x with
  | nan => exact isTextChar_of_all (by decide) h
  | infinite negative =>
      rcases List.mem_append.mp h with h | h
      · exact isTextChar_signText h
      · exact isTextChar_of_all (by decide) h
  | finite negative q =>
      rcases List.mem_append.mp h with h | h
      · exact isTextChar_signText h
      · exact isTextChar_magnitudeText h

/-- **A double's text is no integer's.** -/
theorem mark_json (x : Value) : ∃ c ∈ x.json, IsMark c := by
  cases x with
  | nan => exact ⟨'N', by decide, by unfold IsMark; decide⟩
  | infinite negative =>
      exact ⟨'I', List.mem_append_right _ (by decide), by unfold IsMark; decide⟩
  | finite negative q =>
      obtain ⟨c, hc, hmark⟩ := mark_magnitudeText q
      exact ⟨c, List.mem_append_right _ hc, hmark⟩

theorem json_head (x : Value) :
    ∃ c rest, x.json = c :: rest ∧ (c.isDigit = true ∨ c = '-' ∨ c = 'N' ∨ c = 'I') := by
  cases x with
  | nan => exact ⟨'N', _, rfl, .inr (.inr (.inl rfl))⟩
  | infinite negative =>
      cases negative with
      | false => exact ⟨'I', _, rfl, .inr (.inr (.inr rfl))⟩
      | true => exact ⟨'-', _, rfl, .inr (.inl rfl)⟩
  | finite negative q =>
      cases negative with
      | false =>
          obtain ⟨c, rest, hc, hdigit⟩ := magnitudeText_head q
          exact ⟨c, rest, hc, .inl hdigit⟩
      | true => exact ⟨'-', _, rfl, .inr (.inl rfl)⟩

example : (read "1.00".toList).json = "1.0".toList := by decide +kernel

example : (read "123456789012345678".toList).json = "1.2345678901234568e+17".toList := by
  decide +kernel

end Binary64
