import Mathlib.Algebra.Group.Nat.Defs
import Mathlib.Data.List.Basic
import Mathlib.Tactic.Common

/-!
# Numbers as text

The decimal text of a number determines it, with zeros before it or without; and where a text of
one kind of character is followed by another kind, the two can be told apart.
-/

namespace NumberText

variable {α : Type}

/-- A run of one kind ends where the next character is of another. -/
theorem span_inj {p : α → Prop} {l l' r r' : List α} (hl : ∀ a ∈ l, p a) (hl' : ∀ a ∈ l', p a)
    (hr : ∀ a ∈ r.head?, ¬ p a) (hr' : ∀ a ∈ r'.head?, ¬ p a) (h : l ++ r = l' ++ r') :
    l = l' ∧ r = r' := by
  induction l generalizing l' with
  | nil =>
      cases l' with
      | nil => exact ⟨rfl, h⟩
      | cons a l' =>
          rw [List.nil_append] at h
          rw [h] at hr
          exact absurd (hl' a List.mem_cons_self) (hr a rfl)
  | cons a l ih =>
      cases l' with
      | nil =>
          rw [List.nil_append] at h
          rw [← h] at hr'
          exact absurd (hl a List.mem_cons_self) (hr' a rfl)
      | cons b l' =>
          obtain ⟨rfl, htail⟩ := List.cons.inj h
          obtain ⟨rfl, rfl⟩ := ih (fun c hc => hl c (List.mem_cons_of_mem _ hc))
            (fun c hc => hl' c (List.mem_cons_of_mem _ hc)) htail
          exact ⟨rfl, rfl⟩

/-! ## Naturals -/

/-- The number some digits stand for. -/
def ofDigits (l : List Char) : Nat := Nat.ofDigitChars 10 l 0

@[simp] theorem ofDigits_toDigits (n : Nat) : ofDigits (Nat.toDigits 10 n) = n :=
  Nat.ofDigitChars_ten_toDigits

theorem toDigits_inj {m n : Nat} (h : Nat.toDigits 10 m = Nat.toDigits 10 n) : m = n := by
  rw [← ofDigits_toDigits m, h, ofDigits_toDigits]

/-- Zeros in front do not count. -/
@[simp] theorem ofDigits_zeros_append (k : Nat) (l : List Char) :
    ofDigits (List.replicate k '0' ++ l) = ofDigits l := by
  unfold ofDigits
  rw [Nat.ofDigitChars_append, Nat.ofDigitChars_replicate_zero, Nat.mul_zero]

/-- Zeros at the end are tens. -/
theorem ofDigits_append_zeros (l : List Char) (k : Nat) :
    ofDigits (l ++ List.replicate k '0') = ofDigits l * 10 ^ k := by
  unfold ofDigits
  rw [Nat.ofDigitChars_append, Nat.ofDigitChars_replicate_zero, Nat.mul_comm]

theorem isDigit_of_mem {n : Nat} {c : Char} (h : c ∈ Nat.toDigits 10 n) : c.isDigit = true :=
  Nat.isDigit_of_mem_toDigits (by decide) (by decide) h

theorem isDigit_of_mem_zeros {k : Nat} {c : Char} (h : c ∈ List.replicate k '0') :
    c.isDigit = true := by
  rw [List.eq_of_mem_replicate h]
  rfl

/-! ## Integers -/

/-- What an integer is written with. -/
def IsIntChar (c : Char) : Prop := c = '-' ∨ c.isDigit = true

theorem toList_toString (n : Int) : (toString n).toList
    = if 0 ≤ n then Nat.toDigits 10 n.toNat else '-' :: Nat.toDigits 10 (-n).toNat := by
  rw [Int.toString_eq_repr, Int.repr_eq_if]
  split
  · simp
  · simp

theorem isIntChar_of_mem {n : Int} {c : Char} (h : c ∈ (toString n).toList) : IsIntChar c := by
  rw [toList_toString] at h
  split at h
  · exact .inr (isDigit_of_mem h)
  · rcases List.mem_cons.mp h with rfl | h
    · exact .inl rfl
    · exact .inr (isDigit_of_mem h)

theorem toDigits_ne_cons_minus {n : Nat} {l : List Char} : Nat.toDigits 10 n ≠ '-' :: l := by
  intro h
  have hdigit : ('-' : Char).isDigit = true := by
    refine isDigit_of_mem (n := n) ?_
    rw [h]
    exact List.mem_cons_self
  exact absurd hdigit (by decide)

/-- The text of an integer determines it. -/
theorem toString_inj {m n : Int} (h : (toString m).toList = (toString n).toList) : m = n := by
  rw [toList_toString, toList_toString] at h
  split at h
  · split at h
    · have := toDigits_inj h
      omega
    · exact absurd h toDigits_ne_cons_minus
  · split at h
    · exact absurd h.symm toDigits_ne_cons_minus
    · have := toDigits_inj (List.cons.inj h).2
      omega

end NumberText
