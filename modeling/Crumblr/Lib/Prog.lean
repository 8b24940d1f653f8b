import Mathlib.Tactic.Common

/-!
# Programs that talk to their surroundings

A worker is a sequential program whose every contact with the outside (a store,
a broker, the clock) is one *call*: it names what it asks, and carries on from
whatever answer comes back. An answer is either a value or a raised error, so
the same type carries programs with exceptions.

Keeping the program as data, rather than as a function on a state, is what
makes interleaving and crashing expressible later: between any two calls the
rest of the program is there to be suspended, resumed or thrown away.
-/

/-- A program making calls `C`, answered by `A`, raising errors `ε`. -/
inductive Prog (C : Type) (A : C → Type) (ε : Type) (α : Type) : Type where
  /-- The program is done and returns a value. -/
  | ret (a : α)
  /-- The program is done and raises. -/
  | raise (e : ε)
  /-- The program asks, and carries on from the answer. -/
  | call (c : C) (k : Except ε (A c) → Prog C A ε α)

namespace Prog

variable {C : Type} {A : C → Type} {ε α β γ : Type}

/-- Run `p`, then `f` on its value; an error passes through. -/
def bind : Prog C A ε α → (α → Prog C A ε β) → Prog C A ε β
  | ret a, f => f a
  | raise e, _ => raise e
  | call c k, f => call c (fun r => bind (k r) f)

/-- Run `p`; when it raises, carry on with the handler. -/
def rescue : Prog C A ε α → (ε → Prog C A ε α) → Prog C A ε α
  | ret a, _ => ret a
  | raise e, h => h e
  | call c k, h => call c (fun r => rescue (k r) h)

/-- A bare answer as a program. -/
def ofExcept : Except ε α → Prog C A ε α
  | .ok a => ret a
  | .error e => raise e

/-- Make one call and return its value, or raise its error. -/
def perform (c : C) : Prog C A ε (A c) := call c ofExcept

instance : Monad (Prog C A ε) where
  pure := ret
  bind := bind

instance : MonadExceptOf ε (Prog C A ε) where
  throw := raise
  tryCatch := rescue

/-- A loop that gathers what each turn produced, in order. -/
def collect (f : α → Prog C A ε (Option β)) : List α → Prog C A ε (List β)
  | [] => ret []
  | x :: xs => bind (f x) fun o => bind (collect f xs) fun os => ret (o.toList ++ os)

/-- A loop run for its effects only. -/
def forEach (f : α → Prog C A ε Unit) : List α → Prog C A ε Unit
  | [] => ret ()
  | x :: xs => bind (f x) fun _ => forEach f xs

/-- What a program comes to when every call has its answer fixed beforehand. -/
def given (answer : (c : C) → Except ε (A c)) : Prog C A ε α → Except ε α
  | ret a => .ok a
  | raise e => .error e
  | call c k => given answer (k (answer c))

/-- The same program, of a system that has other calls too. -/
def inl {D : Type} {B : D → Type} : Prog C A ε α → Prog (C ⊕ D) (Sum.elim A B) ε α
  | ret a => ret a
  | raise e => raise e
  | call c k => call (.inl c) fun r => inl (k r)

/-! ## The monad laws -/

@[simp] theorem pure_eq_ret (a : α) : (pure a : Prog C A ε α) = ret a := rfl

@[simp] theorem bind_eq_bind (p : Prog C A ε α) (f : α → Prog C A ε β) : p >>= f = bind p f := rfl

@[simp] theorem throw_eq_raise (e : ε) : (throw e : Prog C A ε α) = raise e := rfl

@[simp] theorem tryCatch_eq_rescue (p : Prog C A ε α) (h : ε → Prog C A ε α) :
    tryCatch p h = rescue p h := rfl

@[simp] theorem ret_bind (a : α) (f : α → Prog C A ε β) : bind (ret a) f = f a := rfl

@[simp] theorem raise_bind (e : ε) (f : α → Prog C A ε β) : bind (raise e) f = raise e := rfl

@[simp] theorem call_bind (c : C) (k : Except ε (A c) → Prog C A ε α) (f : α → Prog C A ε β) :
    bind (call c k) f = call c (fun r => bind (k r) f) := rfl

@[simp] theorem given_ret (answer : (c : C) → Except ε (A c)) (a : α) :
    given answer (ret a : Prog C A ε α) = .ok a := rfl

@[simp] theorem given_perform (answer : (c : C) → Except ε (A c)) (c : C) :
    given answer (perform c) = answer c := by
  unfold perform
  cases h : answer c <;> simp only [given, h, ofExcept]

/-- Under fixed answers, a program and what follows it come to a computation that may fail. -/
@[simp] theorem given_bind (answer : (c : C) → Except ε (A c)) (p : Prog C A ε α)
    (f : α → Prog C A ε β) :
    given answer (bind p f) = (given answer p).bind fun a => given answer (f a) := by
  induction p with
  | ret a => rfl
  | raise e => rfl
  | call c k ih => exact ih (answer c)

theorem bind_assoc (p : Prog C A ε α) (f : α → Prog C A ε β) (g : β → Prog C A ε γ) :
    bind (bind p f) g = bind p (fun a => bind (f a) g) := by
  induction p with
  | ret a => rfl
  | raise e => rfl
  | call c k ih => simp only [call_bind, ih]

end Prog
