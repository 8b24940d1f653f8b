import Mathlib.Data.List.Perm.Basic
import Mathlib.Order.Lattice
import Mathlib.Tactic.Common

/-!
# Rows read by time

The rows of a table are numbered as they are inserted. A query orders them by a time and, where
times tie, by their number. No two rows tie in both, so the order leaves nothing open: whichever
way a statement asks for it, one list of rows is the answer.
-/

namespace Numbered

variable {ρ τ : Type} [LinearOrder τ] {time : ρ → τ} {rows xs ys : List (ρ × Nat)} {l : List ρ}

/-- `order by time, number` -/
def ascending (time : ρ → τ) (r r' : ρ × Nat) : Bool :=
  decide (time r.1 < time r'.1 ∨ time r.1 = time r'.1 ∧ r.2 ≤ r'.2)

/-- A number belongs to one row. -/
def Distinct (rows : List (ρ × Nat)) : Prop := ∀ r ∈ rows, ∀ r' ∈ rows, r.2 = r'.2 → r = r'

omit [LinearOrder τ] in
theorem distinct_zipIdx : Distinct l.zipIdx := by
  rintro ⟨x, i⟩ hx ⟨y, j⟩ hy hij
  have hi := List.mem_zipIdx_iff_getElem?.mp hx
  have hj := List.mem_zipIdx_iff_getElem?.mp hy
  change i = j at hij
  subst hij
  simp only at hi hj
  rw [hi] at hj
  cases hj
  rfl

omit [LinearOrder τ] in
theorem Distinct.filter (h : Distinct rows) (p : ρ × Nat → Bool) : Distinct (rows.filter p) :=
  fun r hr r' hr' => h r (List.mem_of_mem_filter hr) r' (List.mem_of_mem_filter hr')

theorem ascending_total (r r' : ρ × Nat) : (ascending time r r' || ascending time r' r) = true := by
  simp only [ascending, Bool.or_eq_true, decide_eq_true_eq]
  rcases lt_trichotomy (time r.1) (time r'.1) with h | h | h
  · exact .inl (.inl h)
  · rcases Nat.le_total r.2 r'.2 with hn | hn
    · exact .inl (.inr ⟨h, hn⟩)
    · exact .inr (.inr ⟨h.symm, hn⟩)
  · exact .inr (.inl h)

theorem ascending_trans (r r' r'' : ρ × Nat) (h : ascending time r r' = true)
    (h' : ascending time r' r'' = true) : ascending time r r'' = true := by
  simp only [ascending, decide_eq_true_eq] at *
  rcases h with h | ⟨h, hn⟩
  · rcases h' with h' | ⟨h', -⟩
    · exact .inl (lt_trans h h')
    · exact .inl (h' ▸ h)
  · rcases h' with h' | ⟨h', hn'⟩
    · exact .inl (h ▸ h')
    · exact .inr ⟨h.trans h', Nat.le_trans hn hn'⟩

/-- Two rows in order both ways have one number. -/
theorem number_eq {r r' : ρ × Nat} (h : ascending time r r' = true)
    (h' : ascending time r' r = true) : r.2 = r'.2 := by
  simp only [ascending, decide_eq_true_eq] at *
  rcases h with h | ⟨h, hn⟩
  · rcases h' with h' | ⟨h', -⟩
    · exact absurd h' (lt_asymm h)
    · exact absurd (h'.symm ▸ h) (lt_irrefl _)
  · rcases h' with h' | ⟨-, hn'⟩
    · exact absurd (h ▸ h') (lt_irrefl _)
    · exact Nat.le_antisymm hn hn'

theorem sorted : (rows.mergeSort (ascending time)).Pairwise fun r r' => ascending time r r' :=
  List.pairwise_mergeSort ascending_trans ascending_total rows

/-- **The order leaves nothing open.** -/
theorem eq_of_perm (hd : Distinct xs) (hperm : xs.Perm ys)
    (hx : xs.Pairwise fun r r' => ascending time r r')
    (hy : ys.Pairwise fun r r' => ascending time r r') : xs = ys := by
  refine List.Perm.eq_of_pairwise ?_ hx hy hperm
  intro r r' hr hr' h h'
  exact hd r hr r' (hperm.mem_iff.mpr hr') (number_eq h h')

variable (time) in
/-- To select and then order is to order and then select. -/
theorem mergeSort_filter (hd : Distinct rows) (p : ρ × Nat → Bool) :
    (rows.filter p).mergeSort (ascending time) = (rows.mergeSort (ascending time)).filter p := by
  have hleft : ((rows.filter p).mergeSort (ascending time)).Perm (rows.filter p) :=
    List.mergeSort_perm _ _
  have hright : ((rows.mergeSort (ascending time)).filter p).Perm (rows.filter p) :=
    (List.mergeSort_perm _ _).filter p
  refine eq_of_perm ?_ (hleft.trans hright.symm) sorted (sorted.filter p)
  intro r hr r' hr'
  exact hd.filter p r (hleft.mem_iff.mp hr) r' (hleft.mem_iff.mp hr')

variable (time) in
/-- To ask for the order from its end is to read it backwards. -/
theorem mergeSort_descending (hd : Distinct rows) :
    rows.mergeSort (fun r r' => ascending time r' r)
      = (rows.mergeSort (ascending time)).reverse := by
  have hperm : (rows.mergeSort fun r r' => ascending time r' r).Perm rows := List.mergeSort_perm _ _
  have hsorted : (rows.mergeSort fun r r' => ascending time r' r).Pairwise
      fun r r' => ascending time r' r :=
    List.pairwise_mergeSort (fun a b c h h' => ascending_trans c b a h' h)
      (fun a b => ascending_total b a) rows
  have hback : (rows.mergeSort fun r r' => ascending time r' r).reverse
      = rows.mergeSort (ascending time) := by
    refine eq_of_perm ?_ ((List.reverse_perm _).trans (hperm.trans (List.mergeSort_perm _ _).symm))
      (List.pairwise_reverse.mpr hsorted) sorted
    intro r hr r' hr'
    exact hd r (hperm.mem_iff.mp (List.mem_reverse.mp hr)) r'
      (hperm.mem_iff.mp (List.mem_reverse.mp hr'))
  rw [← hback, List.reverse_reverse]

omit [LinearOrder τ] in
theorem numbers_ordered : l.zipIdx.Pairwise fun r r' => r.2 ≤ r'.2 := by
  have h : (l.zipIdx.map Prod.snd).Pairwise (· ≤ ·) := by
    rw [List.zipIdx_map_snd]
    exact List.pairwise_le_range'
  exact List.pairwise_map.mp h

variable (time) in
/-- **Rows inserted in the order of their times are read in the order they were inserted in**,
among whatever other rows. -/
theorem read_in_order (p : ρ → Bool) (h : (l.filter p).Pairwise fun x y => time x ≤ time y) :
    ((l.zipIdx.mergeSort (ascending time)).map (·.1)).filter p = l.filter p := by
  have hrows : (l.zipIdx.filter fun r => p r.1).map (·.1) = l.filter p := by
    calc (l.zipIdx.filter fun r => p r.1).map (·.1)
        = (l.zipIdx.map Prod.fst).filter p := by
          rw [List.filter_map]
          rfl
      _ = l.filter p := by rw [List.zipIdx_map_fst]
  have hpair : (l.zipIdx.filter fun r => p r.1).Pairwise fun r r' => ascending time r r' := by
    have hnumbers : (l.zipIdx.filter fun r => p r.1).Pairwise fun r r' => r.2 ≤ r'.2 :=
      numbers_ordered.filter _
    have htimes : (l.zipIdx.filter fun r => p r.1).Pairwise fun r r' => time r.1 ≤ time r'.1 := by
      rw [← hrows, List.pairwise_map] at h
      exact h
    refine (htimes.and hnumbers).imp ?_
    rintro r r' ⟨hle, hn⟩
    simp only [ascending, decide_eq_true_eq]
    rcases lt_or_eq_of_le hle with hlt | heq
    · exact .inl hlt
    · exact .inr ⟨heq, hn⟩
  calc ((l.zipIdx.mergeSort (ascending time)).map (·.1)).filter p
      = ((l.zipIdx.mergeSort (ascending time)).filter fun r => p r.1).map (·.1) := by
        rw [List.filter_map]
        rfl
    _ = ((l.zipIdx.filter fun r => p r.1).mergeSort (ascending time)).map (·.1) := by
        rw [mergeSort_filter time distinct_zipIdx]
    _ = (l.zipIdx.filter fun r => p r.1).map (·.1) := by
        rw [List.mergeSort_of_pairwise hpair]
    _ = l.filter p := hrows

end Numbered
