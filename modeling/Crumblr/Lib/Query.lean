import Mathlib.Data.List.Basic
import Mathlib.Data.List.Perm.Basic
import Mathlib.Tactic.Common

/-!
# What a statement may answer

`select … where p order by r` answers with the rows `p` holds of, ordered by `r`. Where `r` ties two
rows, or where nothing orders them, the order is the database's own: an answer is any list that
satisfies the statement, and a program is right when it is right for every one.
-/

namespace Query

variable {ρ : Type} {t out : List ρ} {p : ρ → Bool} {r : ρ → ρ → Prop} {x y : ρ}

/-- An answer of a table `t` to `select … where p order by r`. -/
structure Selects (t : List ρ) (p : ρ → Bool) (r : ρ → ρ → Prop) (out : List ρ) : Prop where
  perm : out.Perm (t.filter p)
  ordered : out.Pairwise r

namespace Selects

theorem mem_iff (h : Selects t p r out) : x ∈ out ↔ x ∈ t ∧ p x = true := by
  rw [h.perm.mem_iff, List.mem_filter]

/-- Nothing is answered where no row satisfies the condition. -/
theorem head_none (h : Selects t p r out) : out.head? = none ↔ ∀ x ∈ t, p x = false := by
  rw [List.head?_eq_none_iff]
  constructor
  · rintro rfl x hx
    by_contra hp
    exact List.not_mem_nil (h.mem_iff.mpr ⟨hx, by simpa using hp⟩)
  · intro hnone
    refine List.eq_nil_iff_forall_not_mem.mpr ?_
    intro x hx
    obtain ⟨hmem, hp⟩ := h.mem_iff.mp hx
    simp [hnone x hmem] at hp

/-- **The first row of an answer comes before all the others.** -/
theorem head_some (h : Selects t p r out) (hx : out.head? = some x) :
    x ∈ t ∧ p x = true ∧ ∀ y ∈ t, p y = true → y = x ∨ r x y := by
  obtain ⟨rest, rfl⟩ := List.head?_eq_some_iff.mp hx
  obtain ⟨hmem, hp⟩ := h.mem_iff.mp List.mem_cons_self
  refine ⟨hmem, hp, ?_⟩
  intro y hy hpy
  rcases List.mem_cons.mp (h.mem_iff.mpr ⟨hy, hpy⟩) with rfl | hrest
  · exact .inl rfl
  · exact .inr ((List.pairwise_cons.mp h.ordered).1 y hrest)

end Selects

end Query
