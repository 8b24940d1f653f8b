import Crumblr.Lib.System

/-!
# One worker and its surroundings

Where there is one worker, the world its call leaves is the world its next call finds, but for
what nature did in between. So a program can be judged by assertions on the world, as in Hoare's
logic: an assertion is *stable* when nature keeps it, and a call takes one stable assertion to
another. What holds whenever a call is about to be served, and between passes, then holds in
every state the system reaches, restarts included.

What the surroundings may do is a parameter: which answers to a call, which events, and when the
process may die.
-/

namespace Machine

variable {π ω ν σ C ε α β : Type} {A : C → Type}

/-- What the surroundings of a worker may do, by the state of the world. -/
structure Surroundings (ω ν σ C : Type) where
  /-- Serve a call with an oracle. -/
  call : σ → ω → C → Prop
  /-- Let an event happen. -/
  nature : σ → ν → Prop
  /-- Let the process die. -/
  crash : σ → Prop

namespace Surroundings

/-- As a condition on steps. -/
def guard (E : Surroundings ω ν σ C) : Guard Unit π ω ν σ C A ε := fun v m asked =>
  match m with
  | .call _ o => ∀ c, asked = some c → E.call v.world o c
  | .nature n => E.nature v.world n
  | .crash _ => E.crash v.world
  | _ => True

/-- Anything may happen. -/
def any : Surroundings ω ν σ C := ⟨fun _ _ _ => True, fun _ _ => True, fun _ => True⟩

/-- One oracle serves every call, and nothing else happens. -/
def only (o : ω) : Surroundings ω ν σ C := ⟨fun _ o' _ => o' = o, fun _ _ => False, fun _ => False⟩

end Surroundings

variable (M : Machine Unit π ω ν σ C A ε) (E : Surroundings ω ν σ C)

/-- Nature keeps an assertion. -/
def Stable (P : σ → Prop) : Prop := ∀ n w, P w → E.nature w n → P (M.nature n w)

/-- Where nature can take the world. -/
inductive Drift : σ → σ → Prop where
  | refl {w : σ} : Drift w w
  | head {w v : σ} {n : ν} : E.nature w n → Drift (M.nature n w) v → Drift w v

/-- **A run of a program**: it is served, amid what nature does, and ends in a world. -/
inductive Ends : σ → Prog C A ε α → σ → Except ε α → Prop where
  | ret {w : σ} {a : α} : Ends w (.ret a) w (.ok a)
  | raise {w : σ} {e : ε} : Ends w (.raise e) w (.error e)
  | call {w v w' w'' : σ} {o : ω} {c : C} {k : Except ε (A c) → Prog C A ε α}
      {r : Except ε (A c)} {x : Except ε α} : Drift M E w v → E.call v o c →
      M.serve o () v c = (r, w') → Ends w' (k r) w'' x → Ends w (.call c k) w'' x

/-- The worker's calls as a protocol on worlds; `J` holds whenever one is made. -/
def solo (J : σ → Prop) : Protocol σ C A ε where
  allows := fun w _ => J w
  moves := fun w c r w' => ∃ v o, Drift M E w v ∧ E.call v o c ∧ M.serve o () v c = (r, w')

/--
`Triple M E J P p Q R`: from a world in which `P` holds, every call of `p` is made where `J`
holds, and `p` ends with `Q` if it returns and with `R` if it raises.
-/
def Triple (J P : σ → Prop) (p : Prog C A ε α) (Q : α → σ → Prop) (R : σ → Prop) : Prop :=
  ∀ w, P w → Conforms (solo M E J) w p fun w' r =>
    match r with
    | .ok a => Q a w'
    | .error _ => R w'

variable {M E} {J P P' R R' : σ → Prop}

theorem Stable.drift (h : Stable M E P) {w v : σ} (hd : Drift M E w v) (hw : P w) : P v := by
  induction hd with
  | refl => exact hw
  | head hn _ ih => exact ih (h _ _ hw hn)

theorem Stable.and (h : Stable M E P) (h' : Stable M E P') : Stable M E fun w => P w ∧ P' w :=
  fun n w hw hn => ⟨h n w hw.1 hn, h' n w hw.2 hn⟩

namespace Triple

variable {Q Q' : α → σ → Prop}

theorem ret {a : α} (h : ∀ w, P w → Q a w) : Triple M E J P (.ret a) Q R := fun w hw => h w hw

theorem raise {e : ε} (h : ∀ w, P w → R w) : Triple M E J P (.raise e) Q R := fun w hw => h w hw

/-- **Consequence.** -/
theorem conseq {p : Prog C A ε α} (h : Triple M E J P p Q R) (hP : ∀ w, P' w → P w)
    (hQ : ∀ a w, Q a w → Q' a w) (hR : ∀ w, R w → R' w) : Triple M E J P' p Q' R' := by
  intro w hw
  refine Conforms.mono ?_ (h w (hP w hw))
  intro w' r hr
  cases r with
  | ok a => exact hQ a w' hr
  | error e => exact hR w' hr

theorem pre {p : Prog C A ε α} (h : Triple M E J P p Q R) (hP : ∀ w, P' w → P w) :
    Triple M E J P' p Q R :=
  h.conseq hP (fun _ _ hq => hq) fun _ hr => hr

/-- **Sequencing.** -/
theorem bind {p : Prog C A ε α} {f : α → Prog C A ε β} {Q' : β → σ → Prop}
    (h : Triple M E J P p Q R) (hf : ∀ a, Triple M E J (Q a) (f a) Q' R) :
    Triple M E J P (p.bind f) Q' R := by
  intro w hw
  refine Conforms.bind.mpr (Conforms.mono ?_ (h w hw))
  intro w' r hr
  cases r with
  | ok a => exact hf a w' hr
  | error e => exact hr

/-- **Handling.** -/
theorem rescue {p : Prog C A ε α} {handler : ε → Prog C A ε α} {H : σ → Prop}
    (h : Triple M E J P p Q H) (hh : ∀ e, Triple M E J H (handler e) Q R) :
    Triple M E J P (p.rescue handler) Q R := by
  intro w hw
  refine Conforms.rescue.mpr (Conforms.mono ?_ (h w hw))
  intro w' r hr
  cases r with
  | ok a => exact hr
  | error e => exact hh e w' hr

theorem ofExcept {x : Except ε α} (h : ∀ a, x = .ok a → ∀ w, P w → Q a w)
    (hR : ∀ w, P w → R w) : Triple M E J P (.ofExcept x) Q R := by
  cases x with
  | ok a => exact ret (h a rfl)
  | error e => exact raise hR

/-- **One call**, from a stable assertion. -/
theorem perform {c : C} {Q : A c → σ → Prop} (hJ : ∀ w, P w → J w) (hP : Stable M E P)
    (hok : ∀ w o a w', P w → E.call w o c → M.serve o () w c = (.ok a, w') → Q a w')
    (herror : ∀ w o e w', P w → E.call w o c → M.serve o () w c = (.error e, w') → R w') :
    Triple M E J P (.perform c) Q R := by
  intro w hw
  refine Conforms.perform.mpr ⟨hJ w hw, ?_⟩
  rintro r w' ⟨v, o, hdrift, hcall, hserve⟩
  have hv := hP.drift hdrift hw
  cases r with
  | ok a => exact hok v o a w' hv hcall hserve
  | error e => exact herror v o e w' hv hcall hserve

/-- **The frame rule.** Calls of a kind that keeps a stable assertion. -/
theorem frame {p : Prog C A ε α} {N : C → Prop} (hp : Only N p) (hJ : ∀ w, P w → J w)
    (hP : Stable M E P)
    (hkeep : ∀ w o c, P w → N c → E.call w o c → P (M.serve o () w c).2) :
    Triple M E J P p (fun _ => P) P := by
  intro w hw
  refine Conforms.mono ?_ (Only.conforms (I := P) (fun w _ hw _ => hJ w hw) ?_ hp hw)
  · intro w' r hr
    cases r with
    | ok a => exact hr
    | error e => exact hr
  · rintro w c r w' hw hc ⟨v, o, hdrift, hcall, hserve⟩
    have hv := hkeep v o c (hP.drift hdrift hw) hc hcall
    rw [hserve] at hv
    exact hv

/-- **Calls that are answered.** A program that raises nothing of its own returns, as long as its
calls are answered and keep a stable assertion. -/
theorem carry {N : C → Prop} (hJ : ∀ w, P w → J w) (hP : Stable M E P)
    (hkeep : ∀ w o c, P w → N c → E.call w o c →
      ∃ a w', M.serve o () w c = (.ok a, w') ∧ P w')
    {p : Prog C A ε α} (hp : Only N p) (hs : Steady p) :
    Triple M E J P p (fun _ => P) R := by
  induction p with
  | ret a => exact ret fun w hw => hw
  | raise e => exact hs.elim
  | call c k ih =>
      intro w hw
      refine ⟨hJ w hw, ?_⟩
      rintro r w' ⟨v, o, hdrift, hcall, hserve⟩
      obtain ⟨a, v', hanswer, hv'⟩ := hkeep v o c (hP.drift hdrift hw) hp.1 hcall
      obtain ⟨rfl, rfl⟩ := Prod.mk.inj (hserve.symm.trans hanswer)
      exact ih _ (hp.2 _) (hs a) w' hv'

/-- What a program returns whatever it is told, it returns here. -/
theorem returning {p : Prog C A ε α} {V : α → Prop} (h : Triple M E J P p Q R) (hV : Returns V p) :
    Triple M E J P p (fun a w => Q a w ∧ V a) R := by
  intro w hw
  have hconforms := h w hw
  clear h hw
  induction p generalizing w with
  | ret a => exact ⟨hconforms, hV⟩
  | raise e => exact hconforms
  | call c k ih => exact ⟨hconforms.1, fun r w' hm => ih r (hV r) w' (hconforms.2 r w' hm)⟩

end Triple

/-! ## What a program comes to -/

/-- **What holds wherever a program ends** holds where it has ended. -/
theorem Ends.conforms {p : Prog C A ε α} {w w' : σ} {r : Except ε α} (h : Ends M E w p w' r)
    {Q : σ → Except ε α → Prop} (hp : Conforms (solo M E J) w p Q) : Q w' r := by
  induction h with
  | ret => exact hp
  | raise => exact hp
  | call hdrift hcall hserve _ ih => exact ih (hp.2 _ _ ⟨_, _, hdrift, hcall, hserve⟩)

/-- Serve every call of a program with one oracle, as long as they are allowed. -/
def conduct (M : Machine Unit π ω ν σ C A ε) (allowed : σ → C → Bool) (o : ω) :
    Prog C A ε α → σ → Option (σ × Except ε α)
  | .ret a, w => some (w, .ok a)
  | .raise e, w => some (w, .error e)
  | .call c k, w =>
      if allowed w c then
        conduct M allowed o (k (M.serve o () w c).1) (M.serve o () w c).2
      else none

/-- What is conducted is a run. -/
theorem Ends.of_conduct {allowed : σ → C → Bool} {o : ω}
    (hallowed : ∀ w c, allowed w c = true → E.call w o c) {p : Prog C A ε α} {w w' : σ}
    {r : Except ε α} (h : conduct M allowed o p w = some (w', r)) : Ends M E w p w' r := by
  induction p generalizing w with
  | ret a =>
      cases h
      exact .ret
  | raise e =>
      cases h
      exact .raise
  | call c k ih =>
      unfold conduct at h
      split at h
      · rename_i hc
        exact .call .refl (hallowed w c hc) rfl (ih _ h)
      · cases h

/-- Between passes, `I` holds; within one, what is left of the program keeps to its triple. -/
def Solo (M : Machine Unit π ω ν σ C A ε) (E : Surroundings ω ν σ C) (J I : σ → Prop)
    (s : Config Unit π σ C A ε) : Prop :=
  match s.threads () with
  | none => I s.world
  | some t => Conforms (solo M E J) s.world t.rest fun w' _ => I w'

variable {I : σ → Prop}

/-- What nature does first may as well be part of the next call. -/
theorem conforms_nature {p : Prog C A ε α} {Q : σ → Except ε α → Prop} {w : σ} {n : ν}
    (hJ : Stable M E J) (hQ : ∀ r, Stable M E fun w => Q w r) (hn : E.nature w n)
    (h : Conforms (solo M E J) w p Q) : Conforms (solo M E J) (M.nature n w) p Q := by
  cases p with
  | ret a => exact hQ _ n w h hn
  | raise e => exact hQ _ n w h hn
  | call c k =>
      refine ⟨hJ n w h.1 hn, ?_⟩
      rintro r w' ⟨v, o, hdrift, hcall, hserve⟩
      exact h.2 r w' ⟨v, o, .head hn hdrift, hcall, hserve⟩

theorem threads_set (s : Config Unit π σ C A ε) (t : Option (Thread π C A ε)) :
    (set s () t).threads () = t := by
  simp [set]

/--
**The run rule for one worker.** If `I` holds at the start, every pass takes `I` to `I` and makes
its calls where `J` holds, nature keeps both, and a restart makes `I` of `J`, then `J` holds in
every state that is reached.
-/
theorem Reach.solo {s₀ s : Config Unit π σ C A ε} (hidle : s₀.threads () = none)
    (hinit : I s₀.world) (hIJ : ∀ w, I w → J w) (hI : Stable M E I) (hJ : Stable M E J)
    (hcrash : ∀ w, J w → E.crash w → I (M.restart () w))
    (hprog : ∀ q, Triple M E J I (M.program () q) (fun _ => I) I)
    (h : Reach M E.guard s₀ s) : J s.world := by
  have hconforms : ∀ q w, I w → Conforms (Machine.solo M E J) w (M.program () q) fun w' _ => I w' := by
    intro q w hw
    refine Conforms.mono ?_ (hprog q w hw)
    intro w' r hr
    cases r with
    | ok a => exact hr
    | error e => exact hr
  have hnow : ∀ s : Config Unit π σ C A ε, Solo M E J I s → J s.world := by
    intro s hs
    unfold Solo at hs
    split at hs
    · exact hIJ _ hs
    · rename_i t _
      cases hrest : t.rest with
      | ret a => rw [hrest] at hs; exact hIJ _ hs
      | raise e => rw [hrest] at hs; exact hIJ _ hs
      | call c k => rw [hrest] at hs; exact hs.1
  refine hnow s ?_
  induction h with
  | init =>
      unfold Solo
      rw [hidle]
      exact hinit
  | @tail s s' m _ hg hs ih =>
      rcases step_cases hs with ⟨⟨⟩, q, rfl, hi, rfl⟩ | ⟨⟨⟩, o, q, past, c, k, rfl, hi, rfl⟩
        | ⟨⟨⟩, t, rfl, hi, rfl⟩ | ⟨⟨⟩, rfl, rfl⟩ | ⟨n, rfl, rfl⟩
      · unfold Solo at ih ⊢
        rw [hi] at ih
        rw [threads_set]
        exact hconforms q _ ih
      · unfold Solo at ih ⊢
        rw [hi] at ih
        rw [threads_set]
        have hask : asked s (.call () o : Move Unit π ω ν) = some c := by simp [asked, hi]
        exact ih.2 _ _ ⟨_, o, .refl, hg c hask, rfl⟩
      · -- a pass ends where its program does
        have hend : I s.world := by
          unfold Solo at ih
          rw [hi] at ih
          obtain ⟨q, past, rest⟩ := t
          cases rest with
          | ret a => exact ih
          | raise e => exact ih
          | call c k => simp [Machine.step, hi] at hs
        unfold Solo
        rw [threads_set]
        exact hend
      · unfold Solo
        rw [threads_set]
        exact hcrash _ (hnow s ih) hg
      · unfold Solo at ih ⊢
        change match s.threads () with | none => _ | some t => _
        split
        · rename_i hi
          rw [hi] at ih
          exact hI n _ ih hg
        · rename_i t hi
          rw [hi] at ih
          exact conforms_nature hJ (fun _ => hI) hg ih

/-- **What is conducted, a run does.** -/
theorem Reach.of_conduct {allowed : σ → C → Bool} {o : ω}
    (hallowed : ∀ w c, allowed w c = true → E.call w o c) {p : Prog C A ε Unit} {q : π}
    {past : Trace C A ε} {s : Config Unit π σ C A ε} {w' : σ} {r : Except ε Unit}
    (ht : s.threads () = some ⟨q, past, p⟩) (h : conduct M allowed o p s.world = some (w', r)) :
    ∃ s', Reach M E.guard s s' ∧ s'.world = w' := by
  induction p generalizing s past with
  | ret a =>
      cases h
      exact ⟨s, .init, rfl⟩
  | raise e =>
      cases h
      exact ⟨s, .init, rfl⟩
  | call c k ih =>
      unfold conduct at h
      split at h
      swap
      · cases h
      rename_i hc
      let m : Move Unit π ω ν := .call () o
      let s₁ := set { s with world := (M.serve o () s.world c).2 } ()
        (some ⟨q, ⟨c, (M.serve o () s.world c).1⟩ :: past, k (M.serve o () s.world c).1⟩)
      have hstep : M.step s m = some s₁ := by
        simp only [m, step, ht]
        rfl
      have hguard : E.guard s.view m (asked s m) := by
        intro c' hc'
        simp only [m, asked, ht] at hc'
        cases hc'
        exact hallowed s.world c hc
      obtain ⟨s', hreach, hworld⟩ := ih (M.serve o () s.world c).1 (s := s₁) (threads_set _ _) h
      exact ⟨s', (Reach.tail .init hguard hstep).trans hreach, hworld⟩

end Machine
