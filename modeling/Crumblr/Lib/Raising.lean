import Mathlib.Data.List.Forall2
import Mathlib.Tactic.Common

/-!
# Computations that may fail

A sequential program changes a state and may raise at any point. What it has changed by then stays
changed: an exception undoes nothing. A list mapped by a function that may fail succeeds just when
the function does on every item, and what it gives is item by item what the function gives.
-/

/-! ## On a state -/

/-- A computation on a state. -/
def Raising (σ ε α : Type) : Type := σ → Except ε α × σ

namespace Raising

variable {σ ε α β : Type}

/-- Run one computation, then another on its value; an error passes through. -/
def andThen (x : Raising σ ε α) (f : α → Raising σ ε β) : Raising σ ε β := fun s =>
  match x s with
  | (.ok a, s') => f a s'
  | (.error e, s') => (.error e, s')

instance : Monad (Raising σ ε) where
  pure a := fun s => (.ok a, s)
  bind := andThen

/-- The state as it is. -/
def read : Raising σ ε σ := fun s => (.ok s, s)

def change (f : σ → σ) : Raising σ ε Unit := fun s => (.ok (), f s)

/-- A computation that leaves the state alone. -/
def lift (x : Except ε α) : Raising σ ε α := fun s => (x, s)

/-- One element after the other. -/
def each (f : α → Raising σ ε Unit) : List α → Raising σ ε Unit
  | [] => pure ()
  | x :: xs => do
      f x
      each f xs

variable {x : Raising σ ε α} {f : α → Raising σ ε β} {s s' s'' : σ} {a : α} {b : β}

/-- A sequence that returns is made of parts that return. -/
theorem bind_ok (h : (x >>= f) s = (.ok b, s'')) :
    ∃ a s', x s = (.ok a, s') ∧ f a s' = (.ok b, s'') := by
  change andThen x f s = (.ok b, s'') at h
  unfold andThen at h
  rcases hx : x s with ⟨e | a, s'⟩
  · rw [hx] at h
    cases h
  · rw [hx] at h
    exact ⟨a, s', rfl, h⟩

theorem bind_eq (h : x s = (.ok a, s')) : (x >>= f) s = f a s' := by
  change andThen x f s = f a s'
  unfold andThen
  rw [h]

theorem pure_ok (h : (pure a : Raising σ ε α) s = (.ok a', s')) : a = a' ∧ s = s' := by
  cases h
  exact ⟨rfl, rfl⟩

theorem read_ok {t : σ} (h : (read : Raising σ ε σ) s = (.ok t, s')) : s = t ∧ s = s' := by
  cases h
  exact ⟨rfl, rfl⟩

theorem change_ok {g : σ → σ} (h : (change g : Raising σ ε Unit) s = (.ok u, s')) : s' = g s := by
  cases h
  rfl

theorem lift_ok {y : Except ε α} (h : (lift y : Raising σ ε α) s = (.ok a, s')) :
    y = .ok a ∧ s = s' := by
  cases h
  exact ⟨rfl, rfl⟩

/-- **What each turn preserves holds after the loop**, of the elements it has been through. -/
theorem each_induct {motive : List α → σ → Prop} {g : α → Raising σ ε Unit} {xs : List α}
    {u : Unit} (start : motive [] s)
    (turn : ∀ seen x t t', seen ++ [x] <+: xs → motive seen t → g x t = (.ok (), t') →
      motive (seen ++ [x]) t')
    (h : each g xs s = (.ok u, s')) : motive xs s' := by
  suffices hrest : ∀ seen rest t, seen ++ rest = xs → motive seen t →
      each g rest t = (.ok u, s') → motive xs s' from hrest [] xs s rfl start h
  intro seen rest
  induction rest generalizing seen with
  | nil =>
      intro t hsplit hseen hrun
      obtain ⟨-, rfl⟩ := pure_ok hrun
      rw [List.append_nil] at hsplit
      exact hsplit ▸ hseen
  | cons x rest ih =>
      intro t hsplit hseen hrun
      obtain ⟨⟨⟩, t', hturn, hrun⟩ := bind_ok hrun
      have hprefix : seen ++ [x] <+: xs := ⟨rest, by rw [← hsplit]; simp⟩
      exact ih (seen ++ [x]) t' (by rw [← hsplit]; simp) (turn seen x t t' hprefix hseen hturn) hrun

/-! ## Values and errors -/

/-- Whatever the state is, what is returned is in `Q` and what is raised is in `E`. -/
def Yields (E : ε → Prop) (Q : α → Prop) (x : Raising σ ε α) : Prop :=
  ∀ s, (∀ a, (x s).1 = .ok a → Q a) ∧ ∀ e, (x s).1 = .error e → E e

section

variable {E : ε → Prop} {A : α → Prop} {B : β → Prop}

theorem Yields.any : Yields (fun _ => True) (fun _ => True) x :=
  fun _ => ⟨fun _ _ => trivial, fun _ _ => trivial⟩

theorem Yields.pure (ha : A a) : Yields E A (pure a : Raising σ ε α) := by
  intro s
  refine ⟨fun b hb => ?_, fun e he => ?_⟩
  · cases hb
    exact ha
  · cases he

theorem Yields.lift {y : Except ε α} (hok : ∀ a, y = .ok a → A a) (herror : ∀ e, y = .error e → E e) :
    Yields E A (lift y : Raising σ ε α) := fun _ => ⟨hok, herror⟩

theorem Yields.bind (hx : Yields E A x) (hf : ∀ a, A a → Yields E B (f a)) :
    Yields E B (x >>= f) := by
  intro s
  change (∀ b, (andThen x f s).1 = .ok b → B b) ∧ ∀ e, (andThen x f s).1 = .error e → E e
  obtain ⟨hok, herror⟩ := hx s
  unfold andThen
  rcases hx' : x s with ⟨e | a, s'⟩
  · rw [hx'] at herror
    refine ⟨fun b hb => ?_, fun e' he' => ?_⟩
    · cases hb
    · cases he'
      exact herror e rfl
  · rw [hx'] at hok
    exact hf a (hok a rfl) s'

end

/-! ## Invariants -/

/-- Whatever comes of a computation, it keeps an invariant. -/
def Maintains (I : σ → Prop) (x : Raising σ ε α) : Prop := ∀ s, I s → I (x s).2

variable {I : σ → Prop}

theorem Maintains.pure (a : α) : Maintains I (pure a : Raising σ ε α) := fun _ h => h

theorem Maintains.read : Maintains I (read : Raising σ ε σ) := fun _ h => h

theorem Maintains.lift (y : Except ε α) : Maintains I (lift y : Raising σ ε α) := fun _ h => h

theorem Maintains.change {g : σ → σ} (hg : ∀ s, I s → I (g s)) :
    Maintains I (change g : Raising σ ε Unit) := hg

theorem Maintains.bind (hx : Maintains I x) (hf : ∀ a, Maintains I (f a)) : Maintains I (x >>= f) := by
  intro s hs
  change I (andThen x f s).2
  unfold andThen
  have hleft := hx s hs
  rcases hx' : x s with ⟨e | a, s'⟩
  · rw [hx'] at hleft
    exact hleft
  · rw [hx'] at hleft
    exact hf a s' hleft

theorem Maintains.ite {p : Prop} [Decidable p] {y : Raising σ ε α} (hx : Maintains I x)
    (hy : Maintains I y) : Maintains I (if p then x else y) := by
  split
  · exact hx
  · exact hy

theorem Maintains.each {g : α → Raising σ ε Unit} {xs : List α} (hg : ∀ x, Maintains I (g x)) :
    Maintains I (each g xs) := by
  induction xs with
  | nil => exact Maintains.pure ()
  | cons x xs ih => exact Maintains.bind (hg x) fun _ => ih

/-- Where a computation starts in `P`, whatever comes of it keeps an invariant; and where it
returns, its value and the state are in `Q`. -/
def Ensures (I P : σ → Prop) (x : Raising σ ε α) (Q : α → σ → Prop) : Prop :=
  ∀ s, I s → P s → I (x s).2 ∧ ∀ a s', x s = (.ok a, s') → Q a s'

variable {P : σ → Prop} {Q : α → σ → Prop} {R : β → σ → Prop}

theorem Maintains.ensures (hx : Maintains I x) (hq : ∀ s a s', P s → x s = (.ok a, s') → Q a s') :
    Ensures I P x Q := fun s hs hp => ⟨hx s hs, fun a s' h => hq s a s' hp h⟩

theorem Ensures.maintains (hx : Ensures I P x Q) (hp : ∀ s, P s) : Maintains I x :=
  fun s hs => (hx s hs (hp s)).1

theorem Ensures.bind (hx : Ensures I P x Q) (hf : ∀ a, Ensures I (Q a) (f a) R) :
    Ensures I P (x >>= f) R := by
  intro s hs hp
  obtain ⟨hleft, hreturned⟩ := hx s hs hp
  change I (andThen x f s).2 ∧ ∀ b s'', andThen x f s = (.ok b, s'') → R b s''
  unfold andThen
  rcases hx' : x s with ⟨e | a, s'⟩
  · rw [hx'] at hleft
    exact ⟨hleft, fun b s'' h => by cases h⟩
  · rw [hx'] at hleft
    exact hf a s' hleft (hreturned a s' hx')

theorem Ensures.weaken {P' : σ → Prop} (hx : Ensures I P x Q) (hp : ∀ s, P' s → P s) :
    Ensures I P' x Q := fun s hs hp' => hx s hs (hp s hp')

end Raising

/-! ## Item by item -/

namespace Traverse

variable {α β γ ε : Type}

/-- What is mapped to the end is mapped item by item. -/
theorem forall₂_of_some {f : α → Option β} {xs : List α} {ys : List β}
    (h : xs.mapM f = some ys) : List.Forall₂ (fun x y => f x = some y) xs ys := by
  induction xs generalizing ys with
  | nil =>
      cases h
      exact .nil
  | cons x xs ih =>
      rw [List.mapM_cons] at h
      obtain ⟨y, hy, h⟩ := Option.bind_eq_some_iff.mp h
      obtain ⟨ys', hys, h⟩ := Option.bind_eq_some_iff.mp h
      cases h
      exact .cons hy (ih hys)

/-- Whatever is on the right is related to something on the left. -/
theorem exists_left {R : α → β → Prop} {xs : List α} {ys : List β} (h : List.Forall₂ R xs ys)
    {y : β} (hy : y ∈ ys) : ∃ x ∈ xs, R x y := by
  induction h with
  | nil => cases hy
  | cons hxy _ ih =>
      rcases List.mem_cons.mp hy with rfl | hy
      · exact ⟨_, List.mem_cons_self, hxy⟩
      · obtain ⟨x, hx, hR⟩ := ih hy
        exact ⟨x, List.mem_cons_of_mem _ hx, hR⟩

theorem map_eq_of_forall₂ {R : α → β → Prop} {f : α → γ} {g : β → γ} {xs : List α} {ys : List β}
    (h : List.Forall₂ R xs ys) (hR : ∀ x y, R x y → f x = g y) : xs.map f = ys.map g := by
  induction h with
  | nil => rfl
  | cons hxy _ ih => rw [List.map_cons, List.map_cons, hR _ _ hxy, ih]

end Traverse
