import Mathlib.Data.List.Forall2
import Mathlib.Tactic.Common

/-!
# Chains of hashes

Every record of a chain has the hash of the one before it, and its own hash covers that. So a chain
is bound by its last hash: what one hash stands for, the other does, and so all the way back.
-/

namespace HashChain

variable {ρ H : Type} {hashOf : ρ → H} {previous : ρ → Option H}

/-- Every record refers to the one before it, the first to none. -/
inductive Linked (hashOf : ρ → H) (previous : ρ → Option H) : List ρ → Prop where
  | nil : Linked hashOf previous []
  | snoc {rs : List ρ} {r : ρ} (h : Linked hashOf previous rs)
      (hprevious : previous r = rs.getLast?.map hashOf) : Linked hashOf previous (rs ++ [r])

/-- **A chain is bound by its last hash.** -/
theorem Linked.bound {R : ρ → ρ → Prop} {rs rs' : List ρ}
    (hR : ∀ r ∈ rs, ∀ r' ∈ rs', hashOf r = hashOf r' → R r r' ∧ previous r = previous r')
    (h : Linked hashOf previous rs) (h' : Linked hashOf previous rs')
    (hlast : rs.getLast?.map hashOf = rs'.getLast?.map hashOf) : List.Forall₂ R rs rs' := by
  induction h generalizing rs' with
  | nil =>
      cases h' with
      | nil => exact .nil
      | snoc _ _ => simp at hlast
  | @snoc rs r _ hprevious ih =>
      cases h' with
      | nil => simp at hlast
      | @snoc rs' r' h' hprevious' =>
          have hhash : hashOf r = hashOf r' := by simpa using hlast
          obtain ⟨hrel, hsame⟩ := hR r (by simp) r' (by simp) hhash
          rw [hprevious, hprevious'] at hsame
          have hbefore := ih (fun q hq q' hq' => hR q (List.mem_append_left _ hq) q'
            (List.mem_append_left _ hq')) h' hsame
          exact List.rel_append hbefore (.cons hrel .nil)

end HashChain
