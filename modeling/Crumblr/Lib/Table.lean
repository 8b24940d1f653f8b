import Mathlib.Data.List.Chain
import Mathlib.Data.List.Induction
import Mathlib.Data.List.Nodup
import Mathlib.Data.List.Perm.Subperm
import Mathlib.Data.List.Sort
import Mathlib.Tactic.Common

/-!
# Insert-once tables

A table is the list of its rows in the order they were inserted, and a key says
which rows are the same row. A row whose key is taken is not inserted, and no row
is ever changed or removed. So keys stay unique, and what a table says stays said.
-/

namespace Table

variable {ρ κ : Type} [DecidableEq κ]

/-- The row under a key. -/
def lookup (key : ρ → κ) (t : List ρ) (k : κ) : Option ρ := t.find? fun r => decide (key r = k)

/-- Insert a row, or report that its key is taken. -/
def insert? (key : ρ → κ) (t : List ρ) (r : ρ) : Option (List ρ) :=
  if lookup key t (key r) = none then some (t ++ [r]) else none

/-- No two rows share a key. -/
def Keyed (key : ρ → κ) (t : List ρ) : Prop := (t.map key).Nodup

variable {key : ρ → κ} {t t' : List ρ} {r r' : ρ} {k : κ}

theorem lookup_eq_some (h : lookup key t k = some r) : r ∈ t ∧ key r = k :=
  ⟨List.mem_of_find?_eq_some h, by simpa using List.find?_some h⟩

theorem lookup_eq_none : lookup key t k = none ↔ ∀ r ∈ t, key r ≠ k := by
  simp [lookup, List.find?_eq_none]

theorem lookup_append_self (h : lookup key t (key r) = none) :
    lookup key (t ++ [r]) (key r) = some r := by
  unfold lookup at h ⊢
  simp [List.find?_append, h]

theorem lookup_append_of_ne (h : key r ≠ k) : lookup key (t ++ [r]) k = lookup key t k := by
  unfold lookup
  simp [List.find?_append, h]

/-- What a table says stays said. -/
theorem lookup_append_mono (h : lookup key t k = some r) :
    lookup key (t ++ [r']) k = some r := by
  unfold lookup at h ⊢
  simp [List.find?_append, h]

theorem insert?_eq_some (h : insert? key t r = some t') :
    lookup key t (key r) = none ∧ t' = t ++ [r] := by
  unfold insert? at h
  split at h
  · rename_i hnone
    exact ⟨hnone, by simpa using h.symm⟩
  · cases h

theorem insert?_eq_none (h : insert? key t r = none) : ∃ r', lookup key t (key r) = some r' := by
  unfold insert? at h
  split at h
  · cases h
  · rename_i hsome
    exact Option.ne_none_iff_exists'.mp hsome

/-- **Inserting keeps keys unique.** -/
theorem keyed_append (hk : Keyed key t) (h : lookup key t (key r) = none) :
    Keyed key (t ++ [r]) := by
  unfold Keyed at hk ⊢
  rw [List.map_append, List.nodup_append]
  refine ⟨hk, by simp, ?_⟩
  intro a ha b hb
  obtain ⟨x, hx, rfl⟩ := List.mem_map.mp ha
  simp only [List.map_cons, List.map_nil, List.mem_singleton] at hb
  subst hb
  exact lookup_eq_none.mp h x hx

omit [DecidableEq κ] in
/-- In a table with unique keys, a row is what its key looks up. -/
theorem Keyed.eq_of_mem (hk : Keyed key t) (h : r ∈ t) (h' : r' ∈ t) (he : key r = key r') :
    r = r' :=
  List.inj_on_of_nodup_map hk h h' he

omit [DecidableEq κ] in
/-- Of rows that must all have the same key there is at most one. -/
theorem Keyed.length_filter_le_one (hk : Keyed key t) {p : ρ → Bool}
    (hp : ∀ r ∈ t, ∀ r' ∈ t, p r = true → p r' = true → key r = key r') :
    (t.filter p).length ≤ 1 := by
  have hnodup : ((t.filter p).map key).Nodup := hk.sublist (List.filter_sublist.map key)
  have hmem : ∀ r ∈ t.filter p, r ∈ t ∧ p r = true := fun r hr => List.mem_filter.mp hr
  rcases hf : t.filter p with _ | ⟨r, _ | ⟨r', rest⟩⟩
  · simp
  · simp
  · rw [hf] at hnodup hmem
    obtain ⟨hr, hpr⟩ := hmem r (by simp)
    obtain ⟨hr', hpr'⟩ := hmem r' (by simp)
    simp [hp r hr r' hr' hpr hpr'] at hnodup

omit [DecidableEq κ] in
/-- Of rows that share all of their key but one part, no two share that part. -/
theorem Keyed.nodup_filter {σ : Type} (hk : Keyed key t) {p : ρ → Bool} {g : ρ → σ}
    (h : ∀ r ∈ t, ∀ r' ∈ t, p r = true → p r' = true → g r = g r' → key r = key r') :
    ((t.filter p).map g).Nodup := by
  refine List.Nodup.map_on ?_ (List.Nodup.filter p (List.Nodup.of_map key hk))
  intro r hr r' hr' hg
  obtain ⟨hmem, hp⟩ := List.mem_filter.mp hr
  obtain ⟨hmem', hp'⟩ := List.mem_filter.mp hr'
  exact hk.eq_of_mem hmem hmem' (h r hmem r' hmem' hp hp' hg)

omit [DecidableEq κ] in
/-- Rows of one table that stand for different rows of another are no more than those. -/
theorem countP_le_countP {σ : Type} {f : ρ → κ} {key : σ → κ} {t : List ρ} {u : List σ}
    {p : ρ → Bool} {q : σ → Bool} (hnodup : ((t.filter p).map f).Nodup)
    (h : ∀ r ∈ t, p r = true → ∃ x ∈ u, q x = true ∧ key x = f r) : t.countP p ≤ u.countP q := by
  have hsub : (t.filter p).map f ⊆ (u.filter q).map key := by
    intro k hk
    obtain ⟨r, hr, rfl⟩ := List.mem_map.mp hk
    obtain ⟨hmem, hp⟩ := List.mem_filter.mp hr
    obtain ⟨x, hx, hq, hkey⟩ := h r hmem hp
    exact List.mem_map.mpr ⟨x, List.mem_filter.mpr ⟨hx, hq⟩, hkey⟩
  rw [List.countP_eq_length_filter, List.countP_eq_length_filter]
  simpa using (List.subperm_of_subset hnodup hsub).length_le

/-! ## Rows whose key is taken are left out -/

/-- Insert a row, unless its key is taken. -/
def insertNew (key : ρ → κ) (t : List ρ) (r : ρ) : List ρ := (insert? key t r).getD t

theorem insertNew_cases (key : ρ → κ) (t : List ρ) (r : ρ) :
    (lookup key t (key r) = none ∧ insertNew key t r = t ++ [r])
      ∨ (key r ∈ t.map key ∧ insertNew key t r = t) := by
  unfold insertNew
  cases h : insert? key t r with
  | some t' =>
      obtain ⟨hnone, rfl⟩ := insert?_eq_some h
      exact .inl ⟨hnone, rfl⟩
  | none =>
      obtain ⟨r', hr'⟩ := insert?_eq_none h
      obtain ⟨hmem, hkey⟩ := lookup_eq_some hr'
      exact .inr ⟨List.mem_map.mpr ⟨r', hmem, hkey⟩, rfl⟩

/-- **Leaving out keeps keys unique.** -/
theorem keyed_foldl_insertNew {rs : List ρ} :
    ∀ {t : List ρ}, Keyed key t → Keyed key (rs.foldl (insertNew key) t) := by
  induction rs with
  | nil => intro t h; exact h
  | cons r rs ih =>
      intro t h
      refine ih ?_
      rcases insertNew_cases key t r with ⟨hnone, heq⟩ | ⟨-, heq⟩
      · rw [heq]
        exact keyed_append h hnone
      · rwa [heq]

/-- Nothing else is inserted. -/
theorem mem_of_foldl_insertNew {rs : List ρ} {x : ρ} :
    ∀ {t : List ρ}, x ∈ rs.foldl (insertNew key) t → x ∈ t ∨ x ∈ rs := by
  induction rs with
  | nil => intro t h; exact .inl h
  | cons r rs ih =>
      intro t h
      rcases ih h with hx | hx
      · rcases insertNew_cases key t r with ⟨-, heq⟩ | ⟨-, heq⟩
        · rw [heq] at hx
          rcases List.mem_append.mp hx with hx | hx
          · exact .inl hx
          · exact .inr (List.mem_singleton.mp hx ▸ List.mem_cons_self ..)
        · exact .inl (heq ▸ hx)
      · exact .inr (List.mem_cons_of_mem _ hx)

/-- Every key is there in the end. -/
theorem mem_keys_foldl_insertNew {rs : List ρ} {k : κ} :
    ∀ {t : List ρ}, k ∈ t.map key ∨ k ∈ rs.map key →
      k ∈ (rs.foldl (insertNew key) t).map key := by
  induction rs with
  | nil => intro t h; exact h.resolve_right fun h => by cases h
  | cons r rs ih =>
      intro t h
      refine ih ?_
      rw [List.map_cons, List.mem_cons] at h
      rcases insertNew_cases key t r with ⟨-, heq⟩ | ⟨hmem, heq⟩
      · rw [heq, List.map_append, List.mem_append]
        rcases h with h | rfl | h
        · exact .inl (.inl h)
        · exact .inl (.inr (List.mem_singleton.mpr rfl))
        · exact .inr h
      · rw [heq]
        rcases h with h | rfl | h
        · exact .inl h
        · exact .inl hmem
        · exact .inr h

/-- A query for distinct values names none twice. -/
theorem nodup_eraseDups (xs : List κ) : xs.eraseDups.Nodup := by
  induction hn : xs.length using Nat.strongRecOn generalizing xs with
  | _ n ih =>
      subst hn
      cases xs with
      | nil => simp
      | cons x xs =>
          rw [List.eraseDups_cons, List.nodup_cons, List.mem_eraseDups]
          refine ⟨by simp, ih _ ?_ _ rfl⟩
          exact Nat.lt_succ_of_le (List.length_filter_le ..)

/-! ## The latest row -/

section

variable {τ : Type} [LinearOrder τ]

/-- The row with the greatest time; of several, the one inserted last. -/
def latest (time : ρ → τ) (t : List ρ) : Option ρ :=
  t.foldl (fun best r =>
    match best with
    | none => some r
    | some b => if time b ≤ time r then some r else some b) none

/-- No row is later, and none of the same time was inserted after. -/
def Latest (time : ρ → τ) (t : List ρ) (r : ρ) : Prop :=
  ∃ before after, t = before ++ r :: after ∧ (∀ x ∈ before, time x ≤ time r)
    ∧ ∀ x ∈ after, time x < time r

variable {time : ρ → τ}

@[simp] theorem latest_append (r : ρ) :
    latest time (t ++ [r]) = match latest time t with
      | none => some r
      | some b => if time b ≤ time r then some r else some b := by
  simp [latest, List.foldl_append]

theorem latest_eq_none : latest time t = none ↔ t = [] := by
  induction t using List.reverseRecOn with
  | nil => simp [latest]
  | append_singleton t r ih =>
      rw [latest_append]
      cases latest time t with
      | none => simp
      | some b => by_cases h : time b ≤ time r <;> simp [h]

/-- No row is later than the latest. -/
theorem Latest.le (h : Latest time t r) {x : ρ} (hx : x ∈ t) : time x ≤ time r := by
  obtain ⟨before, after, rfl, hbefore, hafter⟩ := h
  rcases List.mem_append.mp hx with hx | hx
  · exact hbefore x hx
  · rcases List.mem_cons.mp hx with rfl | hx
    · exact le_refl _
    · exact le_of_lt (hafter x hx)

theorem Latest.mem (h : Latest time t r) : r ∈ t := by
  obtain ⟨before, after, rfl, -⟩ := h
  simp

/-- **What a query for the latest row returns.** -/
theorem latest_eq_some : latest time t = some r ↔ Latest time t r := by
  induction t using List.reverseRecOn generalizing r with
  | nil =>
      constructor
      · intro h
        simp [latest] at h
      · rintro ⟨before, after, h, -⟩
        simp at h
  | append_singleton t x ih =>
      rw [latest_append]
      constructor
      · intro h
        cases hl : latest time t with
        | none =>
            rw [hl] at h
            cases h
            obtain rfl := latest_eq_none.mp hl
            exact ⟨[], [], rfl, by simp, by simp⟩
        | some b =>
            have hb := ih.mp hl
            simp only [hl] at h
            split at h
            · rename_i hle
              cases h
              exact ⟨t, [], rfl, fun y hy => le_trans (hb.le hy) hle, by simp⟩
            · rename_i hlt
              cases h
              obtain ⟨before, after, rfl, hbefore, hafter⟩ := hb
              refine ⟨before, after ++ [x], by simp, hbefore, ?_⟩
              intro y hy
              rcases List.mem_append.mp hy with hy | hy
              · exact hafter y hy
              · rw [List.mem_singleton.mp hy]
                exact not_le.mp hlt
      · rintro ⟨before, after, heq, hbefore, hafter⟩
        rcases List.eq_nil_or_concat after with rfl | ⟨after, y, rfl⟩
        · obtain ⟨rfl, hx⟩ := List.append_inj' heq rfl
          cases hx
          cases hl : latest time t with
          | none => rfl
          | some b => simp [hbefore b (ih.mp hl).mem]
        · rw [List.concat_eq_append] at heq hafter
          have hsplit : t ++ [x] = (before ++ r :: after) ++ [y] := by simpa using heq
          obtain ⟨rfl, hx⟩ := List.append_inj' hsplit rfl
          cases hx
          have hl : latest time (before ++ r :: after) = some r :=
            ih.mpr ⟨before, after, rfl, hbefore, fun z hz => hafter z (by simp [hz])⟩
          rw [hl]
          simp [not_le.mpr (hafter x (by simp))]

end

/-! ## Rows that move one way -/

section

variable {R : ρ → ρ → Prop} {t'' : List ρ}

/-- Rows were appended, each of them related to the one before it. -/
def Extends (R : ρ → ρ → Prop) (t t' : List ρ) : Prop :=
  ∃ new, t' = t ++ new ∧ (t.getLast?.toList ++ new).IsChain R

theorem Extends.refl (t : List ρ) : Extends R t t := by
  refine ⟨[], by simp, ?_⟩
  cases t.getLast? <;> simp

theorem Extends.append (h : ∀ x, t.getLast? = some x → R x r) : Extends R t (t ++ [r]) := by
  refine ⟨[r], rfl, ?_⟩
  cases hlast : t.getLast? with
  | none => simp
  | some x => simpa using h x hlast

/-- A row appended alone stands in relation to the last one. -/
theorem Extends.rel (h : Extends R t (t ++ [r'])) (hr : t.getLast? = some r) : R r r' := by
  obtain ⟨new, hnew, hchain⟩ := h
  obtain rfl := List.append_cancel_left hnew
  rw [hr] at hchain
  exact List.isChain_cons.mp hchain |>.1 r' rfl

theorem Extends.trans (h : Extends R t t') (h' : Extends R t' t'') : Extends R t t'' := by
  obtain ⟨new, rfl, hnew⟩ := h
  obtain ⟨more, rfl, hmore⟩ := h'
  refine ⟨new ++ more, by simp, ?_⟩
  cases new using List.reverseRecOn with
  | nil => simpa using hmore
  | append_singleton new x =>
      rw [← List.append_assoc, List.getLast?_append] at hmore
      rw [← List.append_assoc, List.isChain_append]
      have hmore' : (x :: more).IsChain R := by simpa using hmore
      refine ⟨hnew, hmore'.tail, ?_⟩
      rintro y hy z hz
      obtain rfl : x = y := by simpa using hy
      exact List.isChain_cons.mp hmore' |>.1 z hz

end

end Table
