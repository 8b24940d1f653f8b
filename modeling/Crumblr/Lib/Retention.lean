import Mathlib.Data.List.Sort
import Mathlib.Data.List.Nodup
import Mathlib.Tactic.Common

/-!
# Keeping the newest

Of things in an order, some of which tie, a number is kept and the rest is left out. Sorting is
stable, so what is kept is in the order it was in, and sorting what is kept gives it back.
-/

namespace Retention

variable {α β : Type} {r : α → α → Prop} [DecidableRel r] {p : α → Bool} {a : α} {l : List α}

/-- What comes before all of a list is inserted in front. -/
theorem orderedInsert_front (h : ∀ b ∈ l, r a b) : l.orderedInsert r a = a :: l := by
  cases l with
  | nil => rfl
  | cons b l => exact List.orderedInsert_cons_of_le r l (h b List.mem_cons_self)

theorem filter_orderedInsert_of_neg (ha : p a = false) :
    (l.orderedInsert r a).filter p = l.filter p := by
  induction l with
  | nil => simp [ha]
  | cons b l ih =>
      by_cases hab : r a b
      · rw [List.orderedInsert_cons_of_le r l hab, List.filter_cons_of_neg (by simp [ha])]
      · rw [List.orderedInsert_cons, if_neg hab]
        by_cases hb : p b = true
        · rw [List.filter_cons_of_pos hb, List.filter_cons_of_pos hb, ih]
        · rw [List.filter_cons_of_neg hb, List.filter_cons_of_neg hb, ih]

theorem filter_orderedInsert_of_pos [IsTrans α r] (hl : l.Pairwise r) (ha : p a = true) :
    (l.orderedInsert r a).filter p = (l.filter p).orderedInsert r a := by
  induction l with
  | nil => simp [ha]
  | cons b l ih =>
      obtain ⟨hb, hl⟩ := List.pairwise_cons.mp hl
      by_cases hab : r a b
      · have hfront : ∀ c ∈ (b :: l).filter p, r a c := by
          intro c hc
          rcases List.mem_cons.mp (List.mem_filter.mp hc).1 with rfl | hmem
          · exact hab
          · exact IsTrans.trans a b c hab (hb c hmem)
        rw [List.orderedInsert_cons_of_le r l hab, List.filter_cons_of_pos ha,
          orderedInsert_front hfront]
      · rw [List.orderedInsert_cons, if_neg hab]
        by_cases hpb : p b = true
        · rw [List.filter_cons_of_pos hpb, List.filter_cons_of_pos hpb, List.orderedInsert_cons,
            if_neg hab, ih hl]
        · rw [List.filter_cons_of_neg hpb, List.filter_cons_of_neg hpb, ih hl]

/-- **Sorting is stable:** what is left of a sorted list is what is left, sorted. -/
theorem filter_insertionSort [IsTrans α r] [Std.Total r] (l : List α) :
    (l.insertionSort r).filter p = (l.filter p).insertionSort r := by
  induction l with
  | nil => rfl
  | cons a l ih =>
      rw [List.insertionSort_cons]
      by_cases ha : p a = true
      · rw [filter_orderedInsert_of_pos (List.pairwise_insertionSort r l) ha, ih,
          List.filter_cons_of_pos ha, List.insertionSort_cons]
      · rw [filter_orderedInsert_of_neg (by simpa using ha), ih, List.filter_cons_of_neg ha]

/-- What is not among the names past the first `k` is the first `k`. -/
theorem filter_take [DecidableEq β] {f : α → β} {l : List α} (hf : (l.map f).Nodup) (k : Nat) :
    l.filter (fun x => decide (f x ∉ (l.drop k).map f)) = l.take k := by
  rw [← List.take_append_drop k l, List.map_append, List.nodup_append] at hf
  obtain ⟨-, -, hdisjoint⟩ := hf
  conv_lhs => rw [← List.take_append_drop k l]
  rw [List.filter_append, List.filter_eq_self.mpr, List.filter_eq_nil_iff.mpr, List.append_nil]
  · intro x hx h
    refine of_decide_eq_true h ?_
    rw [List.take_append_drop]
    exact List.mem_map_of_mem hx
  · intro x hx
    refine decide_eq_true ?_
    rw [List.take_append_drop]
    intro hmem
    exact hdisjoint _ (List.mem_map_of_mem hx) _ hmem rfl

end Retention
