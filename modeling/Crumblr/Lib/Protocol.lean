import Crumblr.Lib.Prog
import Mathlib.Data.List.Infix

/-!
# Programs that keep to a protocol

A protocol says, in each of its states, which calls may be made and where the
answer leads. A program *conforms* when every call it makes is allowed where it
makes it, whatever the answers before were, and a postcondition holds wherever
it ends.

The two instances that matter live on the same definition. When the state is
the list of calls and answers so far, conformance is a discipline on what a
program does, with no mention of the world it runs in. When the state is the
world, and an answer leads where the world's own service takes it, conformance
is a Hoare triple.
-/

/-- Which calls are allowed in a state, and where each answer leads. -/
structure Protocol (S C : Type) (A : C → Type) (ε : Type) where
  /-- The call may be made here. -/
  allows : S → C → Prop
  /-- This answer to the call may arrive, and leads to this state. -/
  moves : S → (c : C) → Except ε (A c) → S → Prop

/--
`Conforms P s p Q`: from state `s`, the program `p` makes only allowed calls and
ends with `Q` holding of the state it ends in and of what it returned or raised.
-/
def Conforms {S C : Type} {A : C → Type} {ε α : Type} (P : Protocol S C A ε) :
    S → Prog C A ε α → (S → Except ε α → Prop) → Prop
  | s, .ret a, Q => Q s (.ok a)
  | s, .raise e, Q => Q s (.error e)
  | s, .call c k, Q => P.allows s c ∧ ∀ r s', P.moves s c r s' → Conforms P s' (k r) Q

namespace Conforms

variable {S C : Type} {A : C → Type} {ε α β : Type} {P : Protocol S C A ε}

@[simp] theorem ret {s : S} {a : α} {Q : S → Except ε α → Prop} :
    Conforms P s (.ret a) Q ↔ Q s (.ok a) := Iff.rfl

@[simp] theorem raise {s : S} {e : ε} {Q : S → Except ε α → Prop} :
    Conforms P s (.raise e) Q ↔ Q s (.error e) := Iff.rfl

theorem call {s : S} {c : C} {k : Except ε (A c) → Prog C A ε α}
    {Q : S → Except ε α → Prop} :
    Conforms P s (.call c k) Q
      ↔ P.allows s c ∧ ∀ r s', P.moves s c r s' → Conforms P s' (k r) Q := Iff.rfl

/-- **A weaker postcondition is easier to meet.** -/
theorem mono {p : Prog C A ε α} {Q Q' : S → Except ε α → Prop} (hQ : ∀ s r, Q s r → Q' s r) :
    ∀ {s : S}, Conforms P s p Q → Conforms P s p Q' := by
  induction p with
  | ret a => intro s h; exact hQ s _ h
  | raise e => intro s h; exact hQ s _ h
  | call c k ih => intro s h; exact ⟨h.1, fun r s' hm => ih r (h.2 r s' hm)⟩

/-- **Sequencing.** The second program starts wherever the first one returns. -/
theorem bind {f : α → Prog C A ε β} {Q : S → Except ε β → Prop} {p : Prog C A ε α} :
    ∀ {s : S}, Conforms P s (p.bind f) Q ↔
      Conforms P s p (fun s' r => match r with
        | .ok a => Conforms P s' (f a) Q
        | .error e => Q s' (.error e)) := by
  induction p with
  | ret a => intro s; exact Iff.rfl
  | raise e => intro s; exact Iff.rfl
  | call c k ih =>
      intro s
      simp only [Prog.call_bind, Conforms, ih]

/-- **Handling.** The handler starts wherever the first program raises. -/
theorem rescue {h : ε → Prog C A ε α} {Q : S → Except ε α → Prop} {p : Prog C A ε α} :
    ∀ {s : S}, Conforms P s (p.rescue h) Q ↔
      Conforms P s p (fun s' r => match r with
        | .ok a => Q s' (.ok a)
        | .error e => Conforms P s' (h e) Q) := by
  induction p with
  | ret a => intro s; exact Iff.rfl
  | raise e => intro s; exact Iff.rfl
  | call c k ih =>
      intro s
      simp only [Prog.rescue, Conforms, ih]

/-- One call: it must be allowed, and every answer must meet the postcondition. -/
theorem perform {c : C} {s : S} {Q : S → Except ε (A c) → Prop} :
    Conforms P s (Prog.perform c) Q ↔ P.allows s c ∧ ∀ r s', P.moves s c r s' → Q s' r := by
  refine and_congr_right fun _ => forall_congr' fun r => ?_
  cases r <;> exact Iff.rfl

/-- Where every call is allowed, every program conforms. -/
theorem unbound (hallow : ∀ s c, P.allows s c) {p : Prog C A ε α} :
    ∀ {s : S}, Conforms P s p fun _ _ => True := by
  induction p with
  | ret a => intro s; trivial
  | raise e => intro s; trivial
  | call c k ih => intro s; exact ⟨hallow s c, fun r s' _ => ih r⟩

/-- Two postconditions can be met separately. -/
theorem and {p : Prog C A ε α} {Q Q' : S → Except ε α → Prop} :
    ∀ {s : S}, Conforms P s p Q → Conforms P s p Q' →
      Conforms P s p (fun s r => Q s r ∧ Q' s r) := by
  induction p with
  | ret a => intro s h h'; exact ⟨h, h'⟩
  | raise e => intro s h h'; exact ⟨h, h'⟩
  | call c k ih =>
      intro s h h'
      exact ⟨h.1, fun r s' hm => ih r (h.2 r s' hm) (h'.2 r s' hm)⟩

end Conforms

/--
`Leads P s p Q`: `p` conforms, and `Q` holds wherever it returns. An error that no
handler takes ends the whole program, so most of the time nothing is asked of it.
-/
def Leads {S C : Type} {A : C → Type} {ε α : Type} (P : Protocol S C A ε) (s : S)
    (p : Prog C A ε α) (Q : S → α → Prop) : Prop :=
  Conforms P s p fun s' r => ∀ a, r = .ok a → Q s' a

namespace Leads

variable {S C : Type} {A : C → Type} {ε α β : Type} {P : Protocol S C A ε} {s : S}

@[simp] theorem ret {a : α} {Q : S → α → Prop} : Leads P s (.ret a) Q ↔ Q s a := by
  simp [Leads]

@[simp] theorem raise {e : ε} {Q : S → α → Prop} : Leads P s (.raise e) Q ↔ True := by
  simp [Leads]

theorem mono {p : Prog C A ε α} {Q Q' : S → α → Prop} (h : Leads P s p Q)
    (hQ : ∀ s a, Q s a → Q' s a) : Leads P s p Q' :=
  Conforms.mono (fun s' _ hr a ha => hQ s' a (hr a ha)) h

/-- Two postconditions can be met separately. -/
theorem and {p : Prog C A ε α} {Q Q' : S → α → Prop} (h : Leads P s p Q) (h' : Leads P s p Q') :
    Leads P s p fun s' a => Q s' a ∧ Q' s' a :=
  Conforms.mono (fun _ _ hr a ha => ⟨hr.1 a ha, hr.2 a ha⟩) (Conforms.and h h')

theorem bind {p : Prog C A ε α} {f : α → Prog C A ε β} {Q : S → β → Prop} :
    Leads P s (p.bind f) Q ↔ Leads P s p fun s' a => Leads P s' (f a) Q := by
  unfold Leads
  rw [Conforms.bind]
  constructor
  · refine Conforms.mono fun s' _ hr a ha => ?_
    subst ha
    exact hr
  · refine Conforms.mono fun s' r hr => ?_
    cases r with
    | ok a => exact hr a rfl
    | error e => intro a ha; cases ha

/-- What a program established is there for what follows it. -/
theorem seq {p : Prog C A ε α} {f : α → Prog C A ε β} {R : S → α → Prop} {Q : S → β → Prop}
    (h : Leads P s p R) (hf : ∀ s' a, R s' a → Leads P s' (f a) Q) : Leads P s (p.bind f) Q :=
  bind.mpr (h.mono hf)

theorem perform {c : C} {Q : S → A c → Prop} :
    Leads P s (.perform c) Q ↔
      P.allows s c ∧ ∀ a s', P.moves s c (.ok a) s' → Q s' a := by
  unfold Leads
  rw [Conforms.perform]
  refine and_congr_right fun _ => ⟨fun h a s' hm => h _ s' hm a rfl, ?_⟩
  rintro h r s' hm a rfl
  exact h a s' hm

@[simp] theorem ofExcept {x : Except ε α} {Q : S → α → Prop} :
    Leads P s (.ofExcept x) Q ↔ ∀ a, x = .ok a → Q s a := by
  cases x <;> simp [Prog.ofExcept]

/-- **Handling.** The handler starts wherever the first program raises. -/
theorem rescue {p : Prog C A ε α} {h : ε → Prog C A ε α} {Q : S → α → Prop}
    (hp : Conforms P s p fun s' r => match r with
      | .ok a => Q s' a
      | .error e => Leads P s' (h e) Q) : Leads P s (p.rescue h) Q := by
  refine Conforms.rescue.mpr (Conforms.mono ?_ hp)
  intro s' r hr
  cases r with
  | ok a => rintro b hb; cases hb; exact hr
  | error e => exact hr

/--
**The loop rule.** `I xs ys s` says what holds when `xs` is still to be done and
`ys` has been produced; one turn takes it to the next.
-/
theorem collect {f : α → Prog C A ε (Option β)} {I : List α → List β → S → Prop}
    (hf : ∀ x xs ys s, I (x :: xs) ys s →
      Leads P s (f x) fun s' o => I xs (ys ++ o.toList) s') :
    ∀ (xs : List α) (ys : List β) {s : S}, I xs ys s →
      Leads P s (Prog.collect f xs) fun s' os => I [] (ys ++ os) s' := by
  intro xs
  induction xs with
  | nil =>
      intro ys s hI
      simpa [Prog.collect] using hI
  | cons x xs ih =>
      intro ys s hI
      refine seq (hf x xs ys s hI) fun s' o ho => ?_
      refine seq (ih _ ho) fun s'' os hos => ?_
      simpa [List.append_assoc] using hos

/-- A loop for its effects keeps what every turn keeps. -/
theorem forEach {f : α → Prog C A ε Unit} {I : S → Prop} {xs : List α}
    (hf : ∀ x ∈ xs, ∀ s, I s → Leads P s (f x) fun s' _ => I s') :
    ∀ {s : S}, I s → Leads P s (Prog.forEach f xs) fun s' _ => I s' := by
  induction xs with
  | nil => intro s hI; simpa [Prog.forEach] using hI
  | cons x xs ih =>
      intro s hI
      refine seq (hf x (List.mem_cons_self ..) s hI) fun s' _ hs' => ?_
      exact ih (fun y hy => hf y (List.mem_cons_of_mem _ hy)) hs'

end Leads

/-! ## Programs of a system that has other calls too -/

section

variable {S C D : Type} {A : C → Type} {B : D → Type} {ε α : Type}

/-- What a protocol says of some of the calls. -/
def Protocol.left (P : Protocol S (C ⊕ D) (Sum.elim A B) ε) : Protocol S C A ε where
  allows := fun s c => P.allows s (.inl c)
  moves := fun s c r s' => P.moves s (.inl c) r s'

/-- A program that only makes those calls conforms by what is said of them. -/
theorem Conforms.inl {P : Protocol S (C ⊕ D) (Sum.elim A B) ε} {p : Prog C A ε α}
    {Q : S → Except ε α → Prop} :
    ∀ {s : S}, Conforms P.left s p Q → Conforms P s p.inl Q := by
  induction p with
  | ret a => intro s h; exact h
  | raise e => intro s h; exact h
  | call c k ih => intro s h; exact ⟨h.1, fun r s' hm => ih r (h.2 r s' hm)⟩

theorem Leads.inl {P : Protocol S (C ⊕ D) (Sum.elim A B) ε} {p : Prog C A ε α}
    {Q : S → α → Prop} {s : S} (h : Leads P.left s p Q) : Leads P s p.inl Q :=
  Conforms.inl h

end

/-! ## Programs that make calls of one kind only -/

/-- Every call the program can make, whatever it is told, is one of `N`. -/
def Only {C : Type} {A : C → Type} {ε α : Type} (N : C → Prop) : Prog C A ε α → Prop
  | .ret _ => True
  | .raise _ => True
  | .call c k => N c ∧ ∀ r, Only N (k r)

namespace Only

variable {S C : Type} {A : C → Type} {ε α β : Type} {N : C → Prop}

@[simp] theorem ret {a : α} : Only N (.ret a : Prog C A ε α) := trivial

@[simp] theorem raise {e : ε} : Only N (.raise e : Prog C A ε α) := trivial

theorem bind {p : Prog C A ε α} {f : α → Prog C A ε β} (hp : Only N p) (hf : ∀ a, Only N (f a)) :
    Only N (p.bind f) := by
  induction p with
  | ret a => exact hf a
  | raise e => trivial
  | call c k ih => exact ⟨hp.1, fun r => ih r (hp.2 r)⟩

theorem rescue {p : Prog C A ε α} {h : ε → Prog C A ε α} (hp : Only N p)
    (hh : ∀ e, Only N (h e)) : Only N (p.rescue h) := by
  induction p with
  | ret a => trivial
  | raise e => exact hh e
  | call c k ih => exact ⟨hp.1, fun r => ih r (hp.2 r)⟩

@[simp] theorem ofExcept {x : Except ε α} : Only N (.ofExcept x : Prog C A ε α) := by
  cases x <;> trivial

theorem perform {c : C} (h : N c) : Only N (.perform c : Prog C A ε (A c)) :=
  ⟨h, fun _ => ofExcept⟩

theorem ite {b : Prop} [Decidable b] {p q : Prog C A ε α} (hp : Only N p) (hq : Only N q) :
    Only N (if b then p else q) := by
  split
  · exact hp
  · exact hq

theorem mono {N' : C → Prop} (hN : ∀ c, N c → N' c) {p : Prog C A ε α} (hp : Only N p) :
    Only N' p := by
  induction p with
  | ret a => trivial
  | raise e => trivial
  | call c k ih => exact ⟨hN c hp.1, fun r => ih r (hp.2 r)⟩

theorem collect {f : α → Prog C A ε (Option β)} {xs : List α} (hf : ∀ x ∈ xs, Only N (f x)) :
    Only N (Prog.collect f xs) := by
  induction xs with
  | nil => trivial
  | cons x xs ih =>
      refine bind (hf x (List.mem_cons_self ..)) fun _ => ?_
      exact bind (ih fun y hy => hf y (List.mem_cons_of_mem _ hy)) fun _ => trivial

theorem forEach {f : α → Prog C A ε Unit} {xs : List α} (hf : ∀ x ∈ xs, Only N (f x)) :
    Only N (Prog.forEach f xs) := by
  induction xs with
  | nil => trivial
  | cons x xs ih =>
      exact bind (hf x (List.mem_cons_self ..)) fun _ =>
        ih fun y hy => hf y (List.mem_cons_of_mem _ hy)

/-- **The frame rule.** What no call of the kind disturbs is undisturbed at the end. -/
theorem conforms {P : Protocol S C A ε} {I : S → Prop} {p : Prog C A ε α}
    (hallow : ∀ s c, I s → N c → P.allows s c)
    (hkeep : ∀ s c r s', I s → N c → P.moves s c r s' → I s') :
    ∀ {s : S}, Only N p → I s → Conforms P s p fun s' _ => I s' := by
  induction p with
  | ret a => intro s _ hI; exact hI
  | raise e => intro s _ hI; exact hI
  | call c k ih =>
      intro s hp hI
      exact ⟨hallow s c hI hp.1, fun r s' hm => ih r (hp.2 r) (hkeep s c r s' hI hp.1 hm)⟩

end Only

/-- Whatever the program is told, `Q` holds of what it returns. -/
def Returns {C : Type} {A : C → Type} {ε α : Type} (Q : α → Prop) : Prog C A ε α → Prop
  | .ret a => Q a
  | .raise _ => True
  | .call _ k => ∀ r, Returns Q (k r)

namespace Returns

variable {C : Type} {A : C → Type} {ε α β : Type}

/-- **Sequencing.** The second program starts from whatever the first returns. -/
theorem bind {p : Prog C A ε α} {f : α → Prog C A ε β} {Q : β → Prop}
    (h : Returns (fun a => Returns Q (f a)) p) : Returns Q (p.bind f) := by
  induction p with
  | ret a => exact h
  | raise e => trivial
  | call c k ih => exact fun r => ih r (h r)

/-- One call, and then the rest with any answer. -/
theorem next {c : C} {f : A c → Prog C A ε β} {Q : β → Prop} (h : ∀ a, Returns Q (f a)) :
    Returns Q ((Prog.perform c).bind f) := by
  intro r
  cases r with
  | ok a => exact h a
  | error e => trivial

end Returns

/-- The program raises nothing of its own: as long as its calls are answered, it goes on. -/
def Steady {C : Type} {A : C → Type} {ε α : Type} : Prog C A ε α → Prop
  | .ret _ => True
  | .raise _ => False
  | .call _ k => ∀ a, Steady (k (.ok a))

namespace Steady

variable {C : Type} {A : C → Type} {ε α β : Type}

theorem bind {p : Prog C A ε α} {f : α → Prog C A ε β} (hp : Steady p) (hf : ∀ a, Steady (f a)) :
    Steady (p.bind f) := by
  induction p with
  | ret a => exact hf a
  | raise e => exact hp.elim
  | call c k ih => exact fun a => ih (.ok a) (hp a)

theorem perform {c : C} : Steady (.perform c : Prog C A ε (A c)) := fun _ => trivial

end Steady

/-! ## Protocols over the calls made so far -/

/-- One call and the answer it got. -/
abbrev Entry (C : Type) (A : C → Type) (ε : Type) : Type := Σ c : C, Except ε (A c)

/-- The calls of a pass with their answers, the newest first. -/
abbrev Trace (C : Type) (A : C → Type) (ε : Type) : Type := List (Entry C A ε)

/-- A discipline on a program: which calls the calls so far allow, and which
answers its surroundings can give. -/
structure Discipline (C : Type) (A : C → Type) (ε : Type) where
  /-- The call may be made after these. -/
  allows : Trace C A ε → C → Prop
  /-- The surroundings can answer the call this way. -/
  answers : (c : C) → Except ε (A c) → Prop

/-- The discipline as a protocol on traces: every answer is remembered. -/
def Discipline.protocol {C : Type} {A : C → Type} {ε : Type} (D : Discipline C A ε) :
    Protocol (Trace C A ε) C A ε where
  allows := D.allows
  moves := fun tr c r tr' => D.answers c r ∧ tr' = ⟨c, r⟩ :: tr

section Traces

variable {C : Type} {A : C → Type} {ε : Type} {D : Discipline C A ε} {tr : Trace C A ε}

/-- One call under a discipline: its answer becomes part of the trace. -/
theorem Leads.heard {c : C} {Q : Trace C A ε → A c → Prop} :
    Leads D.protocol tr (.perform c) Q ↔
      D.allows tr c ∧ ∀ a, D.answers c (.ok a) → Q (⟨c, .ok a⟩ :: tr) a := by
  rw [Leads.perform]
  refine and_congr_right fun _ => ⟨fun h a ha => h a _ ⟨ha, rfl⟩, ?_⟩
  rintro h a tr' ⟨ha, rfl⟩
  exact h a ha

/-- **A trace only grows.** -/
theorem Conforms.suffix {α : Type} {p : Prog C A ε α} {Q : Trace C A ε → Except ε α → Prop} :
    ∀ {tr : Trace C A ε}, Conforms D.protocol tr p Q →
      Conforms D.protocol tr p fun tr' r => tr <:+ tr' ∧ Q tr' r := by
  induction p with
  | ret a => intro tr h; exact ⟨List.suffix_refl _, h⟩
  | raise e => intro tr h; exact ⟨List.suffix_refl _, h⟩
  | call c k ih =>
      intro tr h
      refine ⟨h.1, ?_⟩
      rintro r tr' ⟨hr, rfl⟩
      refine Conforms.mono ?_ (ih r (h.2 r _ ⟨hr, rfl⟩))
      exact fun tr' _ hq => ⟨(List.suffix_cons ..).trans hq.1, hq.2⟩

theorem Leads.suffix {α : Type} {p : Prog C A ε α} {Q : Trace C A ε → α → Prop}
    (h : Leads D.protocol tr p Q) :
    Leads D.protocol tr p fun tr' a => tr <:+ tr' ∧ Q tr' a :=
  Conforms.mono (fun _ _ hr a ha => ⟨hr.1, hr.2 a ha⟩) (Conforms.suffix h)

/-- **The frame rule for traces.** Calls of a kind that the discipline lets go, and
that do not disturb a fact about the trace, leave it. -/
theorem Leads.frame {α : Type} {p : Prog C A ε α} {N : C → Prop} {I : Trace C A ε → Prop}
    (hp : Only N p) (hallow : ∀ tr c, N c → D.allows tr c)
    (hkeep : ∀ tr c r, I tr → N c → I (⟨c, r⟩ :: tr)) (h : I tr) :
    Leads D.protocol tr p fun tr' _ => I tr' := by
  refine Conforms.mono (fun _ _ hi _ _ => hi) (Only.conforms (fun s c _ hc => hallow s c hc) ?_ hp h)
  rintro s c r s' hi hc ⟨-, rfl⟩
  exact hkeep s c r hi hc

/-- One call, and then the rest. -/
theorem Leads.next {β : Type} {c : C} {f : A c → Prog C A ε β} {Q : Trace C A ε → β → Prop}
    (hc : D.allows tr c)
    (hf : ∀ a, D.answers c (.ok a) → Leads D.protocol (⟨c, .ok a⟩ :: tr) (f a) Q) :
    Leads D.protocol tr ((Prog.perform c).bind f) Q :=
  Leads.bind.mpr (Leads.heard.mpr ⟨hc, hf⟩)

end Traces

/-! ## Running a program to its end -/

section Running

variable {C : Type} {A : C → Type} {ε α : Type}

/-- Nothing is forbidden, and anything may be answered. -/
def Discipline.free : Discipline C A ε where
  allows := fun _ _ => True
  answers := fun _ _ => True

/--
`Fails P s p E`: `p` conforms, and `E` holds wherever it raises. What it returns does not
matter.
-/
def Fails {S : Type} (P : Protocol S C A ε) (s : S) (p : Prog C A ε α) (E : S → ε → Prop) : Prop :=
  Conforms P s p fun s' r => ∀ e, r = .error e → E s' e

namespace Fails

variable {S β : Type} {P : Protocol S C A ε} {s : S} {E : S → ε → Prop}

@[simp] theorem ret {a : α} : Fails P s (.ret a) E := fun _ h => by cases h

@[simp] theorem raise {e : ε} : Fails P s (.raise e : Prog C A ε α) E ↔ E s e := by
  simp [Fails]

theorem mono {p : Prog C A ε α} {E' : S → ε → Prop} (h : Fails P s p E)
    (hE : ∀ s e, E s e → E' s e) : Fails P s p E' :=
  Conforms.mono (fun s' _ hr e he => hE s' e (hr e he)) h

/-- An error of either program has to be accounted for. -/
theorem bind {p : Prog C A ε α} {f : α → Prog C A ε β} (hp : Fails P s p E)
    (hf : ∀ s' a, Fails P s' (f a) E) : Fails P s (p.bind f) E := by
  refine Conforms.bind.mpr (Conforms.mono ?_ hp)
  intro s' r hr
  cases r with
  | ok a => exact hf s' a
  | error e =>
      intro e' he
      cases he
      exact hr e rfl

@[simp] theorem ofExcept {x : Except ε α} :
    Fails P s (.ofExcept x) E ↔ ∀ e, x = .error e → E s e := by
  cases x <;> simp [Prog.ofExcept]

theorem perform {c : C} (hc : P.allows s c) (h : ∀ e s', P.moves s c (.error e) s' → E s' e) :
    Fails P s (.perform c) E := by
  refine Conforms.perform.mpr ⟨hc, fun r s' hm e he => ?_⟩
  subst he
  exact h e s' hm

/-- What is raised after handling is what the handler raises. -/
theorem rescue {p : Prog C A ε α} {h : ε → Prog C A ε α}
    (hp : Fails P s p fun s' e => Fails P s' (h e) E) : Fails P s (p.rescue h) E := by
  refine Conforms.rescue.mpr (Conforms.mono ?_ hp)
  intro s' r hr
  cases r with
  | ok a => exact fun e he => by cases he
  | error e => exact hr e rfl

theorem collect {f : α → Prog C A ε (Option β)} (hf : ∀ s' a, Fails P s' (f a) E)
    {xs : List α} : ∀ {s : S}, Fails P s (Prog.collect f xs) E := by
  induction xs with
  | nil => intro s; exact ret
  | cons x xs ih => intro s; exact bind (hf s x) fun _ _ => bind ih fun _ _ => ret

end Fails

/-- Answer every call, by what was said before it, to the end: the calls with their answers,
and what the program came to. -/
def Prog.answered (answer : Trace C A ε → (c : C) → Except ε (A c)) :
    Trace C A ε → Prog C A ε α → Trace C A ε × Except ε α
  | tr, .ret a => (tr, .ok a)
  | tr, .raise e => (tr, .error e)
  | tr, .call c k => answered answer (⟨c, answer tr c⟩ :: tr) (k (answer tr c))

/-- **A conforming program ends as its postcondition says**, whoever answers it. -/
theorem Conforms.answered (answer : Trace C A ε → (c : C) → Except ε (A c))
    {Q : Trace C A ε → Except ε α → Prop} {p : Prog C A ε α} :
    ∀ {tr : Trace C A ε}, Conforms Discipline.free.protocol tr p Q →
      Q (p.answered answer tr).1 (p.answered answer tr).2 := by
  induction p with
  | ret a => intro tr h; exact h
  | raise e => intro tr h; exact h
  | call c k ih => intro tr h; exact ih _ (h.2 _ _ ⟨trivial, rfl⟩)

/-- A program and what follows it are answered one after the other. -/
theorem Prog.answered_bind {β : Type} (answer : Trace C A ε → (c : C) → Except ε (A c))
    {f : α → Prog C A ε β} {p : Prog C A ε α} :
    ∀ {tr : Trace C A ε}, (p.bind f).answered answer tr =
      match p.answered answer tr with
      | (tr', .ok a) => (f a).answered answer tr'
      | (tr', .error e) => (tr', .error e) := by
  induction p with
  | ret a => intro tr; rfl
  | raise e => intro tr; rfl
  | call c k ih => intro tr; exact ih _

/-- Every call was answered so, by what came before it. -/
def AnsweredBy (answer : Trace C A ε → (c : C) → Except ε (A c)) : Trace C A ε → Prop
  | [] => True
  | entry :: tr => entry.2 = answer tr entry.1 ∧ AnsweredBy answer tr

theorem Prog.answeredBy (answer : Trace C A ε → (c : C) → Except ε (A c)) {p : Prog C A ε α} :
    ∀ {tr : Trace C A ε}, AnsweredBy answer tr → AnsweredBy answer (p.answered answer tr).1 := by
  induction p with
  | ret a => intro tr h; exact h
  | raise e => intro tr h; exact h
  | call c k ih => intro tr h; exact ih _ ⟨rfl, h⟩

/-- Every call was allowed where it was made. -/
def AllowedBy (D : Discipline C A ε) : Trace C A ε → Prop
  | [] => True
  | entry :: tr => D.allows tr entry.1 ∧ AllowedBy D tr

/-- **A conforming program makes only allowed calls, and ends as its postcondition says**, as
long as its surroundings answer as they can. -/
theorem Conforms.allowed {D : Discipline C A ε}
    {answer : Trace C A ε → (c : C) → Except ε (A c)} (hanswer : ∀ tr c, D.answers c (answer tr c))
    {Q : Trace C A ε → Except ε α → Prop} {p : Prog C A ε α} :
    ∀ {tr : Trace C A ε}, AllowedBy D tr → Conforms D.protocol tr p Q →
      AllowedBy D (p.answered answer tr).1 ∧ Q (p.answered answer tr).1 (p.answered answer tr).2 := by
  induction p with
  | ret a => intro tr htr h; exact ⟨htr, h⟩
  | raise e => intro tr htr h; exact ⟨htr, h⟩
  | call c k ih => intro tr htr h; exact ih _ ⟨h.1, htr⟩ (h.2 _ _ ⟨hanswer tr c, rfl⟩)

/-- One call, and then the rest; an error of the call ends it. -/
theorem Conforms.next {β : Type} {c : C} {f : A c → Prog C A ε β} {tr : Trace C A ε}
    {Q : Trace C A ε → Except ε β → Prop}
    (hok : ∀ a, Conforms Discipline.free.protocol (⟨c, .ok a⟩ :: tr) (f a) Q)
    (herror : ∀ e, Q (⟨c, .error e⟩ :: tr) (.error e)) :
    Conforms Discipline.free.protocol tr ((Prog.perform c).bind f) Q := by
  refine Conforms.bind.mpr (Conforms.perform.mpr ⟨trivial, ?_⟩)
  rintro r tr' ⟨-, rfl⟩
  cases r with
  | ok a => exact hok a
  | error e => exact herror e

/-- Of a program that may do anything, anything that says nothing holds. -/
theorem Leads.free {p : Prog C A ε α} {tr : Trace C A ε} :
    Leads Discipline.free.protocol tr p fun _ _ => True := by
  exact Conforms.mono (fun _ _ _ _ _ => trivial) (Conforms.unbound fun _ _ => trivial)

end Running

/-! ## What a trace says of an append-only log -/

/-- What one call tells a program of a log. -/
inductive News (E : Type) where
  /-- The program opened the log: it is empty. -/
  | opened
  /-- The program read the whole log. -/
  | read (log : List E)
  /-- The program added to the log. -/
  | grew (e : E)
  /-- Nothing. -/
  | silent

/-- The log as far as a program that has made these calls can tell. -/
def recollect {C : Type} {A : C → Type} {ε E : Type} (news : Entry C A ε → News E) :
    Trace C A ε → Option (List E)
  | [] => none
  | entry :: tr =>
      match news entry with
      | .opened => some []
      | .read log => some log
      | .grew e => (recollect news tr).map (· ++ [e])
      | .silent => recollect news tr
