import Mathlib.Data.List.Sort
import Mathlib.Data.List.SplitBy
import Mathlib.Data.List.Forall2
import Mathlib.Order.Basic
import Mathlib.Tactic.Common

/-!
# Clusters of a sorted list

A list in the order of a key, cut wherever two neighbours are not near each other. What ends up
together depends on the keys alone, so it's the same however elements of one key are ordered, and the
other way round for the list turned round.
-/

namespace Clusters

variable {α β K : Type*}

/-! ## Cutting a list -/

theorem splitBy_map (f : α → β) (r : β → β → Bool) (xs : List α) :
    (xs.map f).splitBy r = (xs.splitBy fun a b => r (f a) (f b)).map (List.map f) := by
  refine List.splitBy_eq_iff.mpr ⟨?_, ?_, ?_, ?_⟩
  · rw [← List.map_flatten, List.flatten_splitBy]
  · intro hmem
    obtain ⟨c, hc, hnil⟩ := List.mem_map.mp hmem
    exact List.ne_nil_of_mem_splitBy hc (List.map_eq_nil_iff.mp hnil)
  · intro m hm
    obtain ⟨c, hc, rfl⟩ := List.mem_map.mp hm
    exact (List.isChain_map f).mpr (List.isChain_of_mem_splitBy hc)
  · refine List.isChain_map_of_isChain (List.map f) ?_ (List.isChain_getLast_head_splitBy _ xs)
    rintro a b ⟨ha, hb, hfar⟩
    refine ⟨by simpa using ha, by simpa using hb, ?_⟩
    rw [List.getLast_map, List.head_map]
    exact hfar

/-- Where nothing is near anything, every element is alone. -/
theorem length_of_mem_splitBy {r : α → α → Bool} {xs c : List α} (hr : ∀ a b, r a b = false)
    (hc : c ∈ xs.splitBy r) : c.length = 1 := by
  have hchain := List.isChain_of_mem_splitBy hc
  match c, List.ne_nil_of_mem_splitBy hc, hchain with
  | [_], _, _ => rfl
  | a :: b :: rest, _, hchain =>
      rw [List.isChain_cons_cons] at hchain
      rw [hr a b] at hchain
      cases hchain.1

/-- What holds between clusters holds between what is made of them. -/
theorem pairwise_of_forall₂ {P : α → β → Prop} {S : α → α → Prop} {R : β → β → Prop} {xs : List α}
    {ys : List β} (h : List.Forall₂ P xs ys) (hxs : xs.Pairwise S)
    (hR : ∀ {x y x' y'}, P x y → P x' y' → S x x' → R y y') : ys.Pairwise R := by
  induction h with
  | nil => exact .nil
  | @cons x y xs ys hxy hrest ih =>
      rw [List.pairwise_cons] at hxs
      obtain ⟨hx, hxs⟩ := hxs
      refine .cons ?_ (ih hxs)
      clear ih hxs
      induction hrest with
      | nil => exact nofun
      | cons hxy' _ ih =>
          intro y' hy'
          rcases List.mem_cons.mp hy' with rfl | hy'
          · exact hR hxy hxy' (hx _ List.mem_cons_self)
          · exact ih (fun z hz => hx z (List.mem_cons_of_mem _ hz)) y' hy'

/-! ## Keys in order -/

variable [LinearOrder K] {key : α → K} {near : K → K → Bool}

/-- Lists in order that hold the same have the same keys. -/
theorem map_key_eq {xs ys : List α} (hxs : xs.Pairwise fun a b => key a ≤ key b)
    (hys : ys.Pairwise fun a b => key a ≤ key b) (hperm : xs.Perm ys) :
    xs.map key = ys.map key :=
  (hperm.map key).eq_of_pairwise' (List.pairwise_map.mpr hxs) (List.pairwise_map.mpr hys)

variable (near) in
/-- **What is in different clusters is far apart**, if what is farther apart than what is not near
isn't near either. -/
theorem far_of_splitBy (hfar : ∀ {a b c d : K}, a ≤ b → b ≤ c → c ≤ d → near b c = false →
      near a d = false)
    {xs : List α} (hxs : xs.Pairwise fun a b => key a ≤ key b) :
    (xs.splitBy fun a b => near (key a) (key b)).Pairwise fun c d =>
      ∀ a ∈ c, ∀ b ∈ d, key a ≤ key b ∧ near (key a) (key b) = false := by
  have hflat := List.flatten_splitBy (fun a b => near (key a) (key b)) xs
  have hchain := List.isChain_getLast_head_splitBy (fun a b => near (key a) (key b)) xs
  have hnil := List.nil_notMem_splitBy (fun a b => near (key a) (key b)) xs
  rw [← hflat] at hxs
  generalize xs.splitBy (fun a b => near (key a) (key b)) = cs at hxs hchain hnil
  induction cs with
  | nil => exact .nil
  | cons c cs ih =>
      rw [List.flatten_cons, List.pairwise_append] at hxs
      obtain ⟨hc, hcs, hcross⟩ := hxs
      refine .cons ?_ (ih hcs hchain.tail fun h => hnil (List.mem_cons_of_mem _ h))
      intro d hd a ha b hb
      have hb' : b ∈ cs.flatten := List.mem_flatten.mpr ⟨d, hd, hb⟩
      refine ⟨hcross a ha b hb', ?_⟩
      cases cs with
      | nil => cases hd
      | cons e cs =>
          rw [List.isChain_cons_cons] at hchain
          obtain ⟨hlast, hhead, hcut⟩ := hchain.1
          have hlastMem := List.getLast_mem hlast
          have hheadMem : e.head hhead ∈ (e :: cs).flatten := by
            rw [List.flatten_cons]
            exact List.mem_append_left _ (List.head_mem hhead)
          refine hfar ?_ (hcross _ hlastMem _ hheadMem) ?_ hcut
          · rcases List.mem_iff_getElem.mp ha with ⟨i, hi, rfl⟩
            rw [List.getLast_eq_getElem]
            rcases Nat.lt_or_ge i (c.length - 1) with hlt | hge
            · exact List.pairwise_iff_getElem.mp hc i (c.length - 1) hi (by omega) hlt
            · have heq : i = c.length - 1 := by omega
              subst heq
              exact le_refl _
          · have hhead' : (e :: cs).flatten = e.head hhead :: (e.tail ++ cs.flatten) := by
              rw [List.flatten_cons, ← List.cons_append, List.cons_head_tail]
            rw [hhead'] at hb' hcs
            rcases List.mem_cons.mp hb' with rfl | hb'
            · exact le_refl _
            · exact (List.pairwise_cons.mp hcs).1 b hb'

/-! ## Another order of the same -/

/-- Lists that hold the same, and begin with the same keys, begin with the same. -/
theorem perm_of_keys {as bs as' bs' : List α} (hperm : (as ++ bs).Perm (as' ++ bs'))
    (hkeys : as.map key = as'.map key) (h : ∀ a ∈ as, ∀ b ∈ bs, key a ≠ key b)
    (h' : ∀ a ∈ as', ∀ b ∈ bs', key a ≠ key b) : as.Perm as' ∧ bs.Perm bs' := by
  have hsplit : ∀ {as bs : List α}, (∀ a ∈ as, ∀ b ∈ bs, key a ≠ key b) →
      (as ++ bs).filter (fun x => decide (key x ∈ as.map key)) = as
        ∧ (as ++ bs).filter (fun x => !decide (key x ∈ as.map key)) = bs := by
    intro as bs h
    have hin : ∀ a ∈ as, key a ∈ as.map key := fun a ha => List.mem_map_of_mem ha
    have hout : ∀ b ∈ bs, key b ∉ as.map key := by
      intro b hb hmem
      obtain ⟨a, ha, heq⟩ := List.mem_map.mp hmem
      exact h a ha b hb heq
    rw [List.filter_append, List.filter_append]
    constructor
    · rw [List.filter_eq_self.mpr fun a ha => decide_eq_true (hin a ha),
        List.filter_eq_nil_iff.mpr fun b hb => by simpa using hout b hb, List.append_nil]
    · rw [List.filter_eq_nil_iff.mpr fun a ha => by simpa using hin a ha,
        List.filter_eq_self.mpr fun b hb => by simpa using hout b hb, List.nil_append]
  obtain ⟨has, hbs⟩ := hsplit h
  obtain ⟨has', hbs'⟩ := hsplit h'
  rw [← hkeys] at has' hbs'
  constructor
  · rw [← has, ← has']
    exact hperm.filter _
  · rw [← hbs, ← hbs']
    exact hperm.filter _

variable (near) in
/-- **The clusters do not depend on the order** among elements of one key, if these are near each
other. -/
theorem perm_splitBy (hrefl : ∀ k, near k k = true)
    (hfar : ∀ {a b c d : K}, a ≤ b → b ≤ c → c ≤ d → near b c = false → near a d = false)
    {xs ys : List α} (hxs : xs.Pairwise fun a b => key a ≤ key b)
    (hys : ys.Pairwise fun a b => key a ≤ key b) (hperm : xs.Perm ys) :
    List.Forall₂ List.Perm (xs.splitBy fun a b => near (key a) (key b))
      (ys.splitBy fun a b => near (key a) (key b)) := by
  have hsep := far_of_splitBy near hfar hxs
  have hsep' := far_of_splitBy near hfar hys
  have hkeys : (xs.splitBy fun a b => near (key a) (key b)).map (List.map key)
      = (ys.splitBy fun a b => near (key a) (key b)).map (List.map key) := by
    rw [← splitBy_map key near, ← splitBy_map key near, map_key_eq hxs hys hperm]
  rw [← List.flatten_splitBy (fun a b => near (key a) (key b)) xs,
    ← List.flatten_splitBy (fun a b => near (key a) (key b)) ys] at hperm
  generalize xs.splitBy (fun a b => near (key a) (key b)) = cs at hsep hkeys hperm ⊢
  generalize ys.splitBy (fun a b => near (key a) (key b)) = ds at hsep' hkeys hperm ⊢
  have hne : ∀ {a b : α}, near (key a) (key b) = false → key a ≠ key b := by
    intro a b hnear heq
    rw [heq, hrefl] at hnear
    cases hnear
  induction cs generalizing ds with
  | nil =>
      cases ds with
      | nil => exact .nil
      | cons d ds => cases hkeys
  | cons c cs ih =>
      cases ds with
      | nil => cases hkeys
      | cons d ds =>
          rw [List.map_cons, List.map_cons] at hkeys
          obtain ⟨hhead, htail⟩ := List.cons.inj hkeys
          obtain ⟨hfirst, hsep⟩ := List.pairwise_cons.mp hsep
          obtain ⟨hfirst', hsep'⟩ := List.pairwise_cons.mp hsep'
          rw [List.flatten_cons, List.flatten_cons] at hperm
          obtain ⟨hc, hcs⟩ := perm_of_keys hperm hhead
            (fun a ha b hb => by
              obtain ⟨e, he, hbe⟩ := List.mem_flatten.mp hb
              exact hne (hfirst e he a ha b hbe).2)
            (fun a ha b hb => by
              obtain ⟨e, he, hbe⟩ := List.mem_flatten.mp hb
              exact hne (hfirst' e he a ha b hbe).2)
          exact .cons hc (ih hsep ds hsep' htail hcs)

end Clusters
