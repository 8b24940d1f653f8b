import Mathlib.Algebra.BigOperators.Group.List.Basic
import Mathlib.Algebra.Ring.Nat
import Mathlib.Data.List.Sort
import Mathlib.Tactic.Common

/-!
# Grouping a list by a key

Elements are put one at a time with those of their key. Whatever the order of the groups, the
group of a key is the elements that have it, in the order they came; each element is in one
group. Beside it, the first occurrence of each key.
-/

namespace Grouping

variable {α κ : Type} [DecidableEq κ] {key : α → κ} {l l' : List α} {a : α} {k : κ}

/-! ## Groups -/

section

variable (key)

/-- Put an element with those of its key, or begin a group with it. -/
def place : List (κ × List α) → α → List (κ × List α)
  | [], a => [(key a, [a])]
  | (k, members) :: rest, a =>
      if k = key a then (k, members ++ [a]) :: rest else (k, members) :: place rest a

def groups (l : List α) : List (κ × List α) := l.foldl (place key) []

end

/-- The members of a group, none if it is not there. -/
def members (gs : List (κ × List α)) (k : κ) : List α :=
  match gs with
  | [] => []
  | (k', ms) :: rest => if k' = k then ms else members rest k

theorem members_place (gs : List (κ × List α)) (a : α) (k : κ) :
    members (place key gs a) k = if key a = k then members gs k ++ [a] else members gs k := by
  induction gs with
  | nil => simp [place, members]
  | cons g rest ih =>
      obtain ⟨k', ms⟩ := g
      by_cases hk : k' = key a
      · subst hk
        by_cases ha : key a = k <;> simp [place, members, ha]
      · by_cases hk' : k' = k
        · subst hk'
          simp [place, members, hk, Ne.symm hk]
        · simp [place, members, hk, hk', ih]

theorem keys_place (gs : List (κ × List α)) (a : α) :
    (place key gs a).map Prod.fst
      = if key a ∈ gs.map Prod.fst then gs.map Prod.fst else gs.map Prod.fst ++ [key a] := by
  induction gs with
  | nil => simp [place]
  | cons g rest ih =>
      obtain ⟨k', ms⟩ := g
      by_cases hk : k' = key a
      · simp [place, hk]
      · by_cases hmem : key a ∈ rest.map Prod.fst <;>
          simp [place, hk, Ne.symm hk, ih, hmem] at *

theorem members_foldl (gs : List (κ × List α)) (l : List α) (k : κ) :
    members (l.foldl (place key) gs) k = members gs k ++ l.filter fun a => key a = k := by
  induction l generalizing gs with
  | nil => simp
  | cons a l ih =>
      rw [List.foldl_cons, ih, members_place]
      by_cases hk : key a = k <;> simp [hk]

/-- **A group is the elements of its key, in their order.** -/
theorem members_groups (l : List α) (k : κ) :
    members (groups key l) k = l.filter fun a => key a = k :=
  members_foldl [] l k

theorem mem_keys_foldl (gs : List (κ × List α)) (l : List α) (k : κ) :
    k ∈ (l.foldl (place key) gs).map Prod.fst ↔ k ∈ gs.map Prod.fst ∨ ∃ a ∈ l, key a = k := by
  induction l generalizing gs with
  | nil => simp
  | cons a l ih =>
      have hplace : k ∈ (place key gs a).map Prod.fst ↔ k ∈ gs.map Prod.fst ∨ key a = k := by
        rw [keys_place]
        split
        · rename_i hmem
          exact ⟨.inl, fun h => h.elim id fun heq => heq ▸ hmem⟩
        · rw [List.mem_append, List.mem_singleton, eq_comm]
      rw [List.foldl_cons, ih, hplace, or_assoc]
      simp

/-- There is a group of a key when there is an element of it. -/
theorem mem_keys : k ∈ (groups key l).map Prod.fst ↔ ∃ a ∈ l, key a = k := by
  unfold groups
  rw [mem_keys_foldl]
  simp

theorem nodup_keys_foldl {gs : List (κ × List α)} (h : (gs.map Prod.fst).Nodup) (l : List α) :
    ((l.foldl (place key) gs).map Prod.fst).Nodup := by
  induction l generalizing gs with
  | nil => exact h
  | cons a l ih =>
      refine ih ?_
      rw [keys_place]
      split
      · exact h
      · rename_i hnot
        refine List.nodup_append.mpr ⟨h, List.nodup_singleton _, ?_⟩
        intro k hk k' hk' heq
        rw [List.mem_singleton.mp hk'] at heq
        exact hnot (heq ▸ hk)

theorem nodup_keys (l : List α) : ((groups key l).map Prod.fst).Nodup := by
  have hnil : (([] : List (κ × List α)).map Prod.fst).Nodup := List.nodup_nil
  exact nodup_keys_foldl hnil l

/-- **Every element is counted in one group.** -/
theorem sum_length {ks : List κ} (hnodup : ks.Nodup) (hcover : ∀ a ∈ l, key a ∈ ks) :
    (ks.map fun k => (l.filter fun a => key a = k).length).sum = l.length := by
  induction l with
  | nil => simp
  | cons a l ih =>
      have hrest := ih fun b hb => hcover b (List.mem_cons_of_mem _ hb)
      have hone : (ks.map fun k => if key a = k then 1 else 0).sum = 1 := by
        have hcount : (ks.map fun k => if key a = k then 1 else 0).sum = ks.count (key a) := by
          clear hnodup hcover hrest ih
          induction ks with
          | nil => rfl
          | cons k ks ih =>
              rw [List.map_cons, List.sum_cons, ih, List.count_cons, add_comm]
              by_cases hk : key a = k
              · simp [hk]
              · simp [hk, Ne.symm hk]
        rw [hcount]
        exact List.count_eq_one_of_mem hnodup (hcover a List.mem_cons_self)
      have hsplit : ∀ k, ((a :: l).filter fun b => key b = k).length
          = (if key a = k then 1 else 0) + (l.filter fun b => key b = k).length := by
        intro k
        by_cases hk : key a = k
        · simp [hk, add_comm]
        · simp [hk]
      simp only [hsplit, List.sum_map_add, hone, hrest, List.length_cons]
      exact add_comm 1 l.length

/-! ## First occurrences -/

/-- Each element whose key no earlier one has. -/
def firstOccurrences (key : α → κ) : List α → List α
  | [] => []
  | a :: l => a :: (firstOccurrences key l).filter fun b => key b ≠ key a

/-- Whether there is more of a key already decides whether an element is kept. -/
theorem firstOccurrences_append (l : List α) (a : α) :
    firstOccurrences key (l ++ [a])
      = firstOccurrences key l ++ if key a ∈ l.map key then [] else [a] := by
  induction l with
  | nil => simp [firstOccurrences]
  | cons b l ih =>
      rw [List.cons_append, firstOccurrences, firstOccurrences, ih, List.filter_append,
        List.cons_append]
      by_cases hb : key a = key b
      · simp [hb]
      · by_cases hmem : key a ∈ l.map key
        · simp [hmem]
        · simp [hmem, hb]

theorem firstOccurrences_of_nodup (h : (l.map key).Nodup) : firstOccurrences key l = l := by
  induction l with
  | nil => rfl
  | cons a l ih =>
      rw [List.map_cons, List.nodup_cons] at h
      rw [firstOccurrences, ih h.2, List.filter_eq_self.mpr]
      intro b hb
      exact decide_eq_true fun heq => h.1 (heq ▸ List.mem_map_of_mem hb)

/-! ## Sorting by different keys -/

/-- Lists of the same elements, told apart by what they are ordered by, are sorted the same. -/
theorem insertionSort_perm {r : α → α → Prop} [DecidableRel r] [IsTrans α r] [Std.Total r]
    (hperm : l.Perm l') (hanti : ∀ a ∈ l, ∀ b ∈ l, r a b → r b a → a = b) :
    l.insertionSort r = l'.insertionSort r := by
  have hsame : (l.insertionSort r).Perm (l'.insertionSort r) :=
    ((List.perm_insertionSort r l).trans hperm).trans (List.perm_insertionSort r l').symm
  refine hsame.eq_of_pairwise (fun a b ha hb hab hba => ?_) (List.pairwise_insertionSort r l)
    (List.pairwise_insertionSort r l')
  exact hanti a (List.mem_insertionSort r |>.mp ha) b
    (hperm.mem_iff.mpr (List.mem_insertionSort r |>.mp hb)) hab hba

end Grouping
