import Crumblr.Lib.Table
import Mathlib.Order.Defs.PartialOrder
import Mathlib.Tactic.Common

/-!
# Starting again from the beginning

A program changes a store by a fixed sequence of transactions. It may be stopped between any two
of them and started again from the first. Where the store grows with every transaction, and one
that it has taken changes nothing however much it has grown since, the restarts leave no trace:
the store ends as one undisturbed run leaves it.
-/

namespace Table

variable {ρ κ : Type} [DecidableEq κ] {key : ρ → κ} {t : List ρ}

/-- A row whose key is taken changes nothing, and so does a batch of such rows. -/
theorem foldl_insertNew_taken {l : List ρ} (h : ∀ r ∈ l, key r ∈ t.map key) :
    l.foldl (insertNew key) t = t := by
  induction l with
  | nil => rfl
  | cons r l ih =>
      have hr : key r ∈ t.map key := h r List.mem_cons_self
      have hstays : insertNew key t r = t := by
        rcases insertNew_cases key t r with ⟨hnone, -⟩ | ⟨-, heq⟩
        · obtain ⟨x, hx, hkey⟩ := List.mem_map.mp hr
          exact absurd hkey (lookup_eq_none.mp hnone x hx)
        · exact heq
      rw [List.foldl_cons, hstays]
      exact ih fun x hx => h x (List.mem_cons_of_mem _ hx)

/-- A table only grows. -/
theorem prefix_foldl_insertNew {l : List ρ} : t <+: l.foldl (insertNew key) t := by
  induction l generalizing t with
  | nil => exact List.prefix_rfl
  | cons r l ih =>
      rcases insertNew_cases key t r with ⟨-, heq⟩ | ⟨-, heq⟩
      · rw [List.foldl_cons, heq]
        exact (List.prefix_append t [r]).trans ih
      · rw [List.foldl_cons, heq]
        exact ih

/-- Rows whose keys are new are all inserted. -/
theorem foldl_insertNew_fresh {l : List ρ} (hnodup : (l.map key).Nodup)
    (h : ∀ r ∈ l, key r ∉ t.map key) : l.foldl (insertNew key) t = t ++ l := by
  induction l generalizing t with
  | nil => simp
  | cons r l ih =>
      rw [List.map_cons, List.nodup_cons] at hnodup
      obtain ⟨hr, hnodup⟩ := hnodup
      rcases insertNew_cases key t r with ⟨-, heq⟩ | ⟨hin, -⟩
      · rw [List.foldl_cons, heq, ih hnodup ?_, List.append_assoc]
        · rfl
        · intro x hx hmem
          rw [List.map_append, List.mem_append] at hmem
          rcases hmem with hmem | hmem
          · exact h x (List.mem_cons_of_mem _ hx) hmem
          · have hkey : key x = key r := by simpa using hmem
            exact hr (hkey ▸ List.mem_map_of_mem hx)
      · exact absurd hin (h r List.mem_cons_self)

/-- **A batch that is in stays in**, whatever a table grows to. -/
theorem foldl_insertNew_settled {l v : List ρ} (h : l.foldl (insertNew key) t <+: v) :
    l.foldl (insertNew key) v = v := by
  refine foldl_insertNew_taken fun r hr => ?_
  have hin : key r ∈ (l.foldl (insertNew key) t).map key :=
    mem_keys_foldl_insertNew (.inr (List.mem_map_of_mem hr))
  exact (h.map key).subset hin

end Table

namespace Resume

variable {σ ε : Type}

/-- The store afterwards, or why it is refused; refused, it leaves the store as it was. -/
abbrev Transaction (σ ε : Type) : Type := σ → Except ε σ

/-- Carry out transactions until one is refused. -/
def commit : List (Transaction σ ε) → σ → σ × Option ε
  | [], s => (s, none)
  | t :: ts, s =>
      match t s with
      | .ok s' => commit ts s'
      | .error e => (s, some e)

/-- A transaction only adds, and once it is in, it adds nothing more. -/
structure Absorbing [Preorder σ] (t : Transaction σ ε) : Prop where
  grows : ∀ {s s'}, t s = .ok s' → s ≤ s'
  settled : ∀ {s s' v}, t s = .ok s' → s' ≤ v → t v = .ok v

variable {t : Transaction σ ε} {ts ts' : List (Transaction σ ε)} {s s' v : σ} {e : ε}

theorem commit_cons_ok (h : t s = .ok s') : commit (t :: ts) s = commit ts s' := by
  simp only [commit, h]

theorem commit_cons_error (h : t s = .error e) : commit (t :: ts) s = (s, some e) := by
  simp only [commit, h]

theorem commit_append_none (h : commit ts s = (s', none)) :
    commit (ts ++ ts') s = commit ts' s' := by
  induction ts generalizing s with
  | nil =>
      cases h
      rfl
  | cons t ts ih =>
      cases ht : t s with
      | ok s₁ =>
          rw [commit_cons_ok ht] at h
          rw [List.cons_append, commit_cons_ok ht, ih h]
      | error e =>
          rw [commit_cons_error ht] at h
          cases h

theorem commit_append_some (h : commit ts s = (s', some e)) :
    commit (ts ++ ts') s = (s', some e) := by
  induction ts generalizing s with
  | nil => cases h
  | cons t ts ih =>
      cases ht : t s with
      | ok s₁ =>
          rw [commit_cons_ok ht] at h
          rw [List.cons_append, commit_cons_ok ht, ih h]
      | error e =>
          rw [commit_cons_error ht] at h
          rw [List.cons_append, commit_cons_error ht, h]

/-- Where a sequence is refused, some first part of it went through. -/
theorem refused_cases (h : commit ts s = (s', some e)) :
    ∃ before t after, ts = before ++ t :: after ∧ commit before s = (s', none)
      ∧ t s' = .error e := by
  induction ts generalizing s with
  | nil => cases h
  | cons t ts ih =>
      cases ht : t s with
      | ok s₁ =>
          rw [commit_cons_ok ht] at h
          obtain ⟨before, u, after, rfl, hbefore, hu⟩ := ih h
          exact ⟨t :: before, u, after, rfl, by rw [commit_cons_ok ht, hbefore], hu⟩
      | error e' =>
          rw [commit_cons_error ht] at h
          cases h
          exact ⟨[], t, ts, rfl, rfl, ht⟩

section

variable [Preorder σ]

theorem le_commit (habs : ∀ t ∈ ts, Absorbing t) : s ≤ (commit ts s).1 := by
  induction ts generalizing s with
  | nil => exact le_rfl
  | cons t ts ih =>
      cases ht : t s with
      | ok s₁ =>
          rw [commit_cons_ok ht]
          have hgrown : s ≤ s₁ := (habs t List.mem_cons_self).grows ht
          exact le_trans hgrown (ih fun u hu => habs u (List.mem_cons_of_mem _ hu))
      | error e =>
          rw [commit_cons_error ht]

/-- What has been committed is committed again without effect. -/
theorem commit_settled (habs : ∀ t ∈ ts, Absorbing t) (h : commit ts s = (s', none))
    (hv : s' ≤ v) : commit ts v = (v, none) := by
  induction ts generalizing s with
  | nil => rfl
  | cons t ts ih =>
      have hrest : ∀ u ∈ ts, Absorbing u := fun u hu => habs u (List.mem_cons_of_mem _ hu)
      cases ht : t s with
      | ok s₁ =>
          rw [commit_cons_ok ht] at h
          have hle : s₁ ≤ v := by
            have hgrown := le_commit (s := s₁) hrest
            rw [h] at hgrown
            exact le_trans hgrown hv
          rw [commit_cons_ok ((habs t List.mem_cons_self).settled ht hle), ih hrest h]
      | error e =>
          rw [commit_cons_error ht] at h
          cases h

/-- One interrupted attempt makes no difference. -/
theorem commit_resume (habs : ∀ t ∈ ts, Absorbing t) (n : Nat) :
    commit ts (commit (ts.take n) s).1 = commit ts s := by
  have hsplit : ts = ts.take n ++ ts.drop n := (List.take_append_drop n ts).symm
  have htaken : ∀ t ∈ ts.take n, Absorbing t := fun t ht => habs t (List.mem_of_mem_take ht)
  rcases hcommit : commit (ts.take n) s with ⟨s', _ | e⟩
  · calc commit ts s'
        = commit (ts.take n ++ ts.drop n) s' := by rw [← hsplit]
      _ = commit (ts.drop n) s' := commit_append_none (commit_settled htaken hcommit le_rfl)
      _ = commit (ts.take n ++ ts.drop n) s := (commit_append_none hcommit).symm
      _ = commit ts s := by rw [← hsplit]
  · -- the attempt was refused where every later one is refused
    obtain ⟨before, t, after, htake, hbefore, ht⟩ := refused_cases hcommit
    have hagain : commit before s' = (s', none) :=
      commit_settled (fun u hu => htaken u (by rw [htake]; exact List.mem_append_left _ hu))
        hbefore le_rfl
    have hrefused : commit (ts.take n) s' = (s', some e) := by
      rw [htake, commit_append_none hagain, commit_cons_error ht]
    calc commit ts s'
        = commit (ts.take n ++ ts.drop n) s' := by rw [← hsplit]
      _ = (s', some e) := commit_append_some hrefused
      _ = commit (ts.take n ++ ts.drop n) s := (commit_append_some hcommit).symm
      _ = commit ts s := by rw [← hsplit]

/-- **Restarts leave no trace.** -/
theorem commit_resumed (habs : ∀ t ∈ ts, Absorbing t) (attempts : List Nat) :
    commit ts (attempts.foldl (fun s n => (commit (ts.take n) s).1) s) = commit ts s := by
  induction attempts generalizing s with
  | nil => rfl
  | cons n attempts ih => rw [List.foldl_cons, ih, commit_resume habs]

end

end Resume
