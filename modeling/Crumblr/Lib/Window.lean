import Mathlib.Algebra.Order.Group.Defs
import Mathlib.Data.List.Basic

/-!
# How many times fall into a window

A list of times keeps a rate when no closed window of a given length holds more than a
given number of them. To keep it under one more time it is enough that there is room in
everything since one window length before.
-/

namespace Window

variable {α : Type} [AddCommGroup α] [LinearOrder α] [IsOrderedAddMonoid α]
  {len now t : α} {times : List α} {cap : Nat}

/-- How many of the times fall into the window that begins at `t`. -/
def within (len : α) (times : List α) (t : α) : Nat :=
  times.countP fun x => decide (t ≤ x) && decide (x ≤ t + len)

/-- How many are not before `t`. -/
def since (times : List α) (t : α) : Nat := times.countP fun x => decide (t ≤ x)

/-- No window holds more than `cap` of them. -/
def Rated (len : α) (cap : Nat) (times : List α) : Prop := ∀ t, within len times t ≤ cap

omit [IsOrderedAddMonoid α] in
/-- A window holds no more than what there is since before it. -/
theorem within_le_since {t' : α} (h : t' ≤ t) : within len times t ≤ since times t' := by
  refine List.countP_mono_left fun x _ hx => ?_
  simp only [Bool.and_eq_true, decide_eq_true_eq] at hx ⊢
  exact h.trans hx.1

omit [IsOrderedAddMonoid α] in
theorem Rated.nil : Rated len cap ([] : List α) := fun _ => Nat.zero_le _

omit [IsOrderedAddMonoid α] in
/-- **Room in every window that holds it** is what one more time needs. -/
theorem Rated.concat_iff (h : Rated len cap times) : Rated len cap (times ++ [now])
    ↔ ∀ t, t ≤ now → now ≤ t + len → within len times t < cap := by
  have hwithin : ∀ t, within len (times ++ [now]) t
      = within len times t + if t ≤ now ∧ now ≤ t + len then 1 else 0 := by
    intro t
    unfold within
    rw [List.countP_append, List.countP_singleton]
    simp only [Bool.and_eq_true, decide_eq_true_eq]
  constructor
  · intro hrated t hbefore hafter
    have ht := hrated t
    rw [hwithin, if_pos ⟨hbefore, hafter⟩] at ht
    exact ht
  · intro hroom t
    rw [hwithin]
    split
    · rename_i hin
      exact hroom t hin.1 hin.2
    · exact h t

/-- **Room since one window length before is room for one more.** -/
theorem Rated.concat (h : Rated len cap times) (hroom : since times (now - len) < cap) :
    Rated len cap (times ++ [now]) := by
  refine h.concat_iff.mpr fun t _ hafter => ?_
  -- the window holds the new time, so it begins no earlier than one length before
  have hbefore : now - len ≤ t := sub_le_iff_le_add.mpr hafter
  exact lt_of_le_of_lt (within_le_since hbefore) hroom

end Window
