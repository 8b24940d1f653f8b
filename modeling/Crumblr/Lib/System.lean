import Crumblr.Lib.Protocol
import Mathlib.Logic.Function.Basic

/-!
# Workers over a shared world

Any number of workers run programs against one world. One step of the system is
one call of one worker: what the world does with it is a function of the call
and of an *oracle*, which carries everything the surroundings are free to choose
(what a broker answers, whether a database is down). Besides calls, a worker may
be started on a pass, end one, or die; and nature may change the world on its
own.

A worker that dies loses the rest of its program, never what its calls already
did. So a crash between any two calls, and any number of restarts, are ordinary
runs.

Each thread remembers the calls of its current pass and their answers. That
history steers nothing; it is there so that invariants can speak of what a
worker has seen.
-/

/-- A system of workers `ι` running passes `π` against worlds `σ`, with oracles
`ω` and natural events `ν`. -/
structure Machine (ι π ω ν σ C : Type) (A : C → Type) (ε : Type) where
  /-- The program of a pass. -/
  program : ι → π → Prog C A ε Unit
  /-- What the world does with a call. -/
  serve : ω → ι → σ → (c : C) → Except ε (A c) × σ
  /-- What is left of the world when a worker's process dies and comes back. -/
  restart : ι → σ → σ
  /-- What the world does on its own. -/
  nature : ν → σ → σ

/-- A worker in the middle of a pass. -/
structure Thread (π C : Type) (A : C → Type) (ε : Type) where
  /-- The pass it is on. -/
  pass : π
  /-- The calls it has made, with their answers. -/
  past : Trace C A ε
  /-- What it still has to do. -/
  rest : Prog C A ε Unit

/-- The world and every worker. -/
structure Config (ι π σ C : Type) (A : C → Type) (ε : Type) where
  /-- The shared world. -/
  world : σ
  /-- What each worker is doing; `none` between passes. -/
  threads : ι → Option (Thread π C A ε)

/-- The world and what each worker has done, without what it still has to do. -/
structure Machine.View (ι π σ C : Type) (A : C → Type) (ε : Type) where
  /-- The shared world. -/
  world : σ
  /-- The pass each worker is on, and the calls it has made. -/
  seen : ι → Option (π × Trace C A ε)

/-- Forget the programs. -/
def Config.view {ι π σ C ε : Type} {A : C → Type} (s : Config ι π σ C A ε) :
    Machine.View ι π σ C A ε :=
  ⟨s.world, fun i => (s.threads i).map fun t => (t.pass, t.past)⟩

/-- One step of the system. -/
inductive Move (ι π ω ν : Type) where
  /-- An idle worker takes up a pass. -/
  | start (i : ι) (q : π)
  /-- A worker's next call is served. -/
  | call (i : ι) (o : ω)
  /-- A worker ends its pass. -/
  | finish (i : ι)
  /-- A worker's process dies and is restarted. -/
  | crash (i : ι)
  /-- The world changes on its own. -/
  | nature (n : ν)

/-- A step of worker `i`, or of nobody. -/
def Move.only {ι π ω ν : Type} [DecidableEq ι] (i : ι) : Move ι π ω ν → Bool
  | .start j _ | .call j _ | .finish j | .crash j => decide (j = i)
  | .nature _ => true

namespace Machine

variable {ι π ω ν σ C ε : Type} {A : C → Type} [DecidableEq ι]

/-- Everyone idle. -/
def idle (w : σ) : Config ι π σ C A ε := ⟨w, fun _ => none⟩

/-- Put worker `i` into the given condition. -/
def set (s : Config ι π σ C A ε) (i : ι) (t : Option (Thread π C A ε)) : Config ι π σ C A ε :=
  { s with threads := Function.update s.threads i t }

/-- One step, when it is possible. -/
def step (M : Machine ι π ω ν σ C A ε) (s : Config ι π σ C A ε) :
    Move ι π ω ν → Option (Config ι π σ C A ε)
  | .start i q =>
      match s.threads i with
      | none => some (set s i (some ⟨q, [], M.program i q⟩))
      | some _ => none
  | .call i o =>
      match s.threads i with
      | some ⟨q, past, .call c k⟩ =>
          let answered := M.serve o i s.world c
          some (set { s with world := answered.2 } i
            (some ⟨q, ⟨c, answered.1⟩ :: past, k answered.1⟩))
      | _ => none
  | .finish i =>
      match s.threads i with
      | some ⟨_, _, .ret _⟩ => some (set s i none)
      | some ⟨_, _, .raise _⟩ => some (set s i none)
      | _ => none
  | .crash i => some (set { s with world := M.restart i s.world } i none)
  | .nature n => some { s with world := M.nature n s.world }

/-- The call a step serves, if it serves one. -/
def asked (s : Config ι π σ C A ε) : Move ι π ω ν → Option C
  | .call i _ =>
      match s.threads i with
      | some ⟨_, _, .call c _⟩ => some c
      | _ => none
  | _ => none

/-- A whole sequence of steps, each of which has to pass a check. -/
def run (M : Machine ι π ω ν σ C A ε) (check : Config ι π σ C A ε → Move ι π ω ν → Bool) :
    Config ι π σ C A ε → List (Move ι π ω ν) → Option (Config ι π σ C A ε)
  | s, [] => some s
  | s, m :: ms => if check s m then (M.step s m).bind fun s' => run M check s' ms else none

/-- Every step passes. -/
def unchecked : Config ι π σ C A ε → Move ι π ω ν → Bool := fun _ _ => true

/--
A condition on steps: it sees the world and what every worker has done before
the step, the step, and the call it serves, never what comes of it.
-/
abbrev Guard (ι π ω ν σ C : Type) (A : C → Type) (ε : Type) : Type :=
  View ι π σ C A ε → Move ι π ω ν → Option C → Prop

/-- What a run from `s₀` can reach when every step meets the condition. -/
inductive Reach (M : Machine ι π ω ν σ C A ε) (G : Guard ι π ω ν σ C A ε)
    (s₀ : Config ι π σ C A ε) : Config ι π σ C A ε → Prop where
  /-- Where the run starts. -/
  | init : Reach M G s₀ s₀
  /-- One more step. -/
  | tail {s s' : Config ι π σ C A ε} {m : Move ι π ω ν} :
      Reach M G s₀ s → G s.view m (asked s m) → M.step s m = some s' → Reach M G s₀ s'

/-- No condition on the steps. -/
def Always : Guard ι π ω ν σ C A ε := fun _ _ _ => True

variable {M : Machine ι π ω ν σ C A ε} {G : Guard ι π ω ν σ C A ε}
  {s₀ s s' : Config ι π σ C A ε}

/-- A guard that lets through what another does, where runs get to, reaches as much. -/
theorem Reach.mono {G' : Guard ι π ω ν σ C A ε}
    (hG : ∀ s m, Reach M G s₀ s → G s.view m (asked s m) → G' s.view m (asked s m))
    (h : Reach M G s₀ s) : Reach M G' s₀ s := by
  induction h with
  | init => exact .init
  | tail hr hg hs ih => exact .tail ih (hG _ _ hr hg) hs

theorem Reach.trans {s₁ : Config ι π σ C A ε} (h : Reach M G s₀ s₁) (h' : Reach M G s₁ s) :
    Reach M G s₀ s := by
  induction h' with
  | init => exact h
  | tail _ hg hs ih => exact .tail ih hg hs

/-- **What has become true, some step made true.** -/
theorem Reach.became {P : Config ι π σ C A ε → Prop} (h : Reach M G s₀ s) (hs : P s) :
    P s₀ ∨ ∃ s₁ m s₂, Reach M G s₀ s₁ ∧ ¬ P s₁ ∧ G s₁.view m (asked s₁ m)
      ∧ M.step s₁ m = some s₂ ∧ P s₂ ∧ Reach M G s₂ s := by
  induction h with
  | init => exact .inl hs
  | @tail s₁ s m hr hg hstep ih =>
      by_cases hP : P s₁
      · rcases ih hP with h₀ | ⟨a, n, b, ha, hna, hga, hab, hb, hrest⟩
        · exact .inl h₀
        · exact .inr ⟨a, n, b, ha, hna, hga, hab, hb, .tail hrest hg hstep⟩
      · exact .inr ⟨s₁, m, s, hr, hP, hg, hstep, hs, .init⟩

/-- A run whose moves the guard lets through is a way of reaching its last state. -/
theorem Reach.of_moves {check : Config ι π σ C A ε → Move ι π ω ν → Bool}
    {ms : List (Move ι π ω ν)}
    (hcheck : ∀ m ∈ ms, ∀ s, check s m = true → G s.view m (asked s m))
    (hr : Reach M G s₀ s) (h : M.run check s ms = some s') : Reach M G s₀ s' := by
  induction ms generalizing s with
  | nil => cases h; exact hr
  | cons m ms ih =>
      simp only [run] at h
      split at h
      · rename_i hm
        obtain ⟨s₁, h₁, h₂⟩ := Option.bind_eq_some_iff.mp h
        exact ih (fun m' hm' => hcheck m' (List.mem_cons_of_mem _ hm'))
          (.tail hr (hcheck m (List.mem_cons_self ..) s hm) h₁) h₂
      · cases h

/-- Every run is a way of reaching its last state. -/
theorem Reach.of_run {check : Config ι π σ C A ε → Move ι π ω ν → Bool}
    (hcheck : ∀ s m, check s m = true → G s.view m (asked s m)) {ms : List (Move ι π ω ν)}
    (hr : Reach M G s₀ s) (h : M.run check s ms = some s') : Reach M G s₀ s' :=
  .of_moves (fun m _ s => hcheck s m) hr h

/-- What a run ends in, some reachable state has. -/
theorem Reach.exists_of_run (ms : List (Move ι π ω ν)) (p : Config ι π σ C A ε → Bool)
    {check : Config ι π σ C A ε → Move ι π ω ν → Bool}
    (hcheck : ∀ s m, check s m = true → G s.view m (asked s m))
    (h : (M.run check s₀ ms).any p = true) : ∃ s, Reach M G s₀ s ∧ p s = true := by
  obtain ⟨s, hs, hp⟩ := (Option.any_eq_true _ _).mp h
  exact ⟨s, .of_run hcheck .init hs, hp⟩

/-- **Everything a step can do.** -/
theorem step_cases {m : Move ι π ω ν} (h : M.step s m = some s') :
    (∃ i q, m = .start i q ∧ s.threads i = none
      ∧ s' = set s i (some ⟨q, [], M.program i q⟩))
    ∨ (∃ i o q past c k, m = .call i o ∧ s.threads i = some ⟨q, past, .call c k⟩
      ∧ s' = set { s with world := (M.serve o i s.world c).2 } i
          (some ⟨q, ⟨c, (M.serve o i s.world c).1⟩ :: past, k (M.serve o i s.world c).1⟩))
    ∨ (∃ i t, m = .finish i ∧ s.threads i = some t ∧ s' = set s i none)
    ∨ (∃ i, m = .crash i ∧ s' = set { s with world := M.restart i s.world } i none)
    ∨ (∃ n, m = .nature n ∧ s' = { s with world := M.nature n s.world }) := by
  cases m with
  | start i q =>
      left
      simp only [step] at h
      split at h
      · rename_i hi
        cases h
        exact ⟨i, q, rfl, hi, rfl⟩
      · cases h
  | call i o =>
      right; left
      simp only [step] at h
      split at h
      · rename_i q past c k hi
        cases h
        exact ⟨i, o, q, past, c, k, rfl, hi, rfl⟩
      · cases h
  | finish i =>
      right; right; left
      simp only [step] at h
      split at h
      · rename_i hi
        cases h
        exact ⟨i, _, rfl, hi, rfl⟩
      · rename_i hi
        cases h
        exact ⟨i, _, rfl, hi, rfl⟩
      · cases h
  | crash i =>
      right; right; right; left
      cases h
      exact ⟨i, rfl, rfl⟩
  | nature n =>
      right; right; right; right
      cases h
      exact ⟨n, rfl, rfl⟩

/-! ## What a discipline on the passes says about runs -/

/-- Replace what worker `i` has done. -/
def View.put (v : View ι π σ C A ε) (i : ι) (x : Option (π × Trace C A ε)) : View ι π σ C A ε :=
  { v with seen := Function.update v.seen i x }

/--
A step as it shows when the programs are forgotten and only their discipline is
kept: a worker on a pass may make any call its discipline allows.
-/
inductive Glimpse (M : Machine ι π ω ν σ C A ε) (D : ι → π → Discipline C A ε)
    (v : View ι π σ C A ε) : Move ι π ω ν → Option C → View ι π σ C A ε → Prop where
  /-- An idle worker takes up a pass. -/
  | start (i : ι) (q : π) :
      v.seen i = none → Glimpse M D v (.start i q) none (View.put v i (some (q, [])))
  /-- A worker's next call is served. -/
  | call (i : ι) (o : ω) (q : π) (past : Trace C A ε) (c : C) :
      v.seen i = some (q, past) → (D i q).allows past c →
      Glimpse M D v (.call i o) (some c)
        (View.put { v with world := (M.serve o i v.world c).2 } i
          (some (q, ⟨c, (M.serve o i v.world c).1⟩ :: past)))
  /-- A worker ends its pass. -/
  | finish (i : ι) : Glimpse M D v (.finish i) none (View.put v i none)
  /-- A worker dies and is restarted. -/
  | crash (i : ι) :
      Glimpse M D v (.crash i) none (View.put { v with world := M.restart i v.world } i none)
  /-- The world changes on its own. -/
  | nature (n : ν) : Glimpse M D v (.nature n) none { v with world := M.nature n v.world }

/-- Every worker in the middle of a pass keeps to the discipline from there on. -/
def Kept (D : ι → π → Discipline C A ε) (s : Config ι π σ C A ε) : Prop :=
  ∀ i t, s.threads i = some t →
    Conforms (D i t.pass).protocol t.past t.rest (fun _ _ => True)

theorem view_set (s : Config ι π σ C A ε) (i : ι) (t : Option (Thread π C A ε)) :
    (set s i t).view = View.put s.view i (t.map fun t => (t.pass, t.past)) := by
  simp only [Config.view, set, View.put, View.mk.injEq, true_and]
  funext j
  by_cases hj : j = i
  · subst hj; simp
  · simp [hj]

theorem kept_set {D : ι → π → Discipline C A ε} {i : ι} {t : Option (Thread π C A ε)}
    (h : Kept D s) (ht : ∀ u, t = some u →
      Conforms (D i u.pass).protocol u.past u.rest (fun _ _ => True)) :
    Kept D (set s i t) := by
  intro j u hu
  by_cases hj : j = i
  · subst hj
    exact ht u (by simpa [set] using hu)
  · exact h j u (by simpa [set, hj] using hu)

/-- **One step of a disciplined system is a glimpse, and keeps the discipline.** -/
theorem glimpse_of_step {D : ι → π → Discipline C A ε} {m : Move ι π ω ν}
    (hprog : ∀ i q, Conforms (D i q).protocol [] (M.program i q) (fun _ _ => True))
    (hans : ∀ o i q c, (D i q).answers c (M.serve o i s.world c).1)
    (hk : Kept D s) (h : M.step s m = some s') :
    Glimpse M D s.view m (asked s m) s'.view ∧ Kept D s' := by
  rcases step_cases h with ⟨i, q, rfl, hi, rfl⟩ | ⟨i, o, q, past, c, k, rfl, hi, rfl⟩
    | ⟨i, t, rfl, hi, rfl⟩ | ⟨i, rfl, rfl⟩ | ⟨n, rfl, rfl⟩
  · refine ⟨?_, kept_set hk ?_⟩
    · rw [view_set]
      exact .start i q (by simp [Config.view, hi])
    · intro u hu
      cases hu
      exact hprog i q
  · have hc := Conforms.call.mp (hk i _ hi)
    refine ⟨?_, kept_set (s := { s with world := (M.serve o i s.world c).2 }) hk ?_⟩
    · rw [view_set]
      have hask : asked s (Move.call i o : Move ι π ω ν) = some c := by simp [asked, hi]
      rw [hask]
      exact .call i o q past c (by simp [Config.view, hi]) hc.1
    · intro u hu
      cases hu
      exact hc.2 _ _ ⟨hans o i q c, rfl⟩
  · refine ⟨?_, kept_set hk (by intro u hu; cases hu)⟩
    rw [view_set]
    exact .finish i
  · refine ⟨?_, kept_set (s := { s with world := M.restart i s.world }) hk
      (by intro u hu; cases hu)⟩
    rw [view_set]
    exact .crash i
  · exact ⟨.nature n, hk⟩

/--
**The run rule.** What holds at the start and is kept by every glimpse meeting
the condition holds in every state a disciplined system reaches under it.
-/
theorem Reach.invariant {D : ι → π → Discipline C A ε} {I : View ι π σ C A ε → Prop}
    (hprog : ∀ i q, Conforms (D i q).protocol [] (M.program i q) (fun _ _ => True))
    (hans : ∀ w o i q c, (D i q).answers c (M.serve o i w c).1)
    (hidle : ∀ i, s₀.threads i = none) (hinit : I s₀.view)
    (hstep : ∀ v m c v', I v → G v m c → Glimpse M D v m c v' → I v')
    (h : Reach M G s₀ s) : I s.view ∧ Kept D s := by
  induction h with
  | init =>
      refine ⟨hinit, ?_⟩
      intro i t ht
      rw [hidle i] at ht
      cases ht
  | tail _ hg hs ih =>
      obtain ⟨hglimpse, hkept⟩ := glimpse_of_step hprog (hans _) ih.2 hs
      exact ⟨hstep _ _ _ _ ih.1 hg hglimpse, hkept⟩

/--
**The run rule for one kind of calls.** When every program makes calls of one kind
only, whatever those calls, restarts and nature keep of the world holds in every state.
-/
theorem Reach.world {N : C → Prop} {I : σ → Prop} (hprog : ∀ i q, Only N (M.program i q))
    (hcall : ∀ o i w c, I w → N c → I (M.serve o i w c).2)
    (hrestart : ∀ i w, I w → I (M.restart i w)) (hnature : ∀ n w, I w → I (M.nature n w))
    (hidle : ∀ i, s₀.threads i = none) (hinit : I s₀.world) (h : Reach M G s₀ s) :
    I s.world ∧ ∀ i t, s.threads i = some t → Only N t.rest := by
  induction h with
  | init =>
      refine ⟨hinit, ?_⟩
      intro i t ht
      rw [hidle i] at ht
      cases ht
  | @tail s s' m _ _ hs ih =>
      obtain ⟨hI, honly⟩ := ih
      have hset : ∀ (w : σ) (i : ι) (u : Option (Thread π C A ε)),
          (∀ t, u = some t → Only N t.rest) →
          ∀ j t, (set { s with world := w } i u).threads j = some t → Only N t.rest := by
        intro w i u hu j t ht
        by_cases hj : j = i
        · subst hj
          exact hu t (by simpa [set] using ht)
        · exact honly j t (by simpa [set, hj] using ht)
      rcases step_cases hs with ⟨i, q, rfl, hi, rfl⟩ | ⟨i, o, q, past, c, k, rfl, hi, rfl⟩
        | ⟨i, t, rfl, hi, rfl⟩ | ⟨i, rfl, rfl⟩ | ⟨n, rfl, rfl⟩
      · refine ⟨hI, hset s.world i _ ?_⟩
        rintro t ht
        cases ht
        exact hprog i q
      · have hc := honly i _ hi
        refine ⟨hcall o i s.world c hI hc.1, hset _ i _ ?_⟩
        rintro t ht
        cases ht
        exact hc.2 _
      · exact ⟨hI, hset s.world i none (by rintro t ht; cases ht)⟩
      · exact ⟨hrestart i s.world hI, hset _ i none (by rintro t ht; cases ht)⟩
      · exact ⟨hnature n s.world hI, honly⟩

/--
**What a discipline is for.** In every state a disciplined system reaches, the next
call of every worker is one its discipline allows after what the worker has heard.
-/
theorem Reach.allowed {D : ι → π → Discipline C A ε}
    (hprog : ∀ i q, Conforms (D i q).protocol [] (M.program i q) (fun _ _ => True))
    (hans : ∀ w o i q c, (D i q).answers c (M.serve o i w c).1)
    (hidle : ∀ i, s₀.threads i = none) (h : Reach M G s₀ s) {i : ι} {q : π} {past : Trace C A ε}
    {c : C} {k : Except ε (A c) → Prog C A ε Unit}
    (ht : s.threads i = some ⟨q, past, .call c k⟩) : (D i q).allows past c :=
  (Conforms.call.mp ((Reach.invariant (I := fun _ => True) hprog hans hidle trivial
    (fun _ _ _ _ _ _ _ => trivial) h).2 i _ ht)).1

/--
**The run rule for each worker by itself.** What is true of a worker that begins a pass,
is kept by its own calls, and is left alone by everybody else's, is true of every worker
in the middle of a pass.
-/
theorem Reach.threads {D : ι → π → Discipline C A ε} {I : ι → σ → π → Trace C A ε → Prop}
    (hprog : ∀ i q, Conforms (D i q).protocol [] (M.program i q) (fun _ _ => True))
    (hans : ∀ w o i q c, (D i q).answers c (M.serve o i w c).1)
    (hidle : ∀ i, s₀.threads i = none)
    (hstart : ∀ (v : View ι π σ C A ε) i q, G v (.start i q) none → I i v.world q [])
    (hself : ∀ (v : View ι π σ C A ε) o i q past c, v.seen i = some (q, past) →
      I i v.world q past → (D i q).allows past c → G v (.call i o) (some c) →
      I i (M.serve o i v.world c).2 q (⟨c, (M.serve o i v.world c).1⟩ :: past))
    (hother : ∀ o i w c j q past, j ≠ i → I j w q past → I j (M.serve o i w c).2 q past)
    (hrestart : ∀ i w j q past, j ≠ i → I j w q past → I j (M.restart i w) q past)
    (hnature : ∀ n w j q past, I j w q past → I j (M.nature n w) q past)
    (h : Reach M G s₀ s) {i : ι} {t : Thread π C A ε} (ht : s.threads i = some t) :
    I i s.world t.pass t.past := by
  have hinv := (Reach.invariant
    (I := fun v => ∀ i q past, v.seen i = some (q, past) → I i v.world q past)
    hprog hans hidle (by intro i q past hs; simp [Config.view, hidle] at hs) ?_ h).1
  · exact hinv i t.pass t.past (by simp [Config.view, ht])
  intro v m c v' hI hG hstep
  -- one worker changes, and the world in a way the others do not notice
  have hput : ∀ (w : σ) (i : ι) (x : Option (π × Trace C A ε)),
      (∀ q past, x = some (q, past) → I i w q past) →
      (∀ j q past, j ≠ i → I j v.world q past → I j w q past) →
      ∀ j q past, (View.put { v with world := w } i x).seen j = some (q, past) → I j w q past := by
    intro w i x hx hrest j q past hs
    by_cases hj : j = i
    · subst hj
      exact hx q past (by simpa [View.put] using hs)
    · exact hrest j q past hj (hI j q past (by simpa [View.put, hj] using hs))
  cases hstep with
  | start i q hi =>
      refine hput v.world i _ ?_ fun _ _ _ _ h => h
      rintro q' past ⟨⟩
      exact hstart v i q hG
  | finish i => exact hput v.world i none (fun _ _ he => by cases he) fun _ _ _ _ h => h
  | crash i => exact hput _ i none (fun _ _ he => by cases he) fun j q past hj => hrestart i _ j q past hj
  | nature n => exact fun j q past hs => hnature n _ j q past (hI j q past hs)
  | call i o q past c hi hallow =>
      refine hput _ i _ ?_ fun j q past hj => hother o i _ c j q past hj
      rintro q' past' ⟨⟩
      exact hself v o i q past c hi (hI i q past hi) hallow hG

/-! ## A system that keeps more of the world -/

section

variable {ω' ν' σ' : Type} {M' : Machine ι π ω' ν' σ' C A ε}

/-- What is left of a state when part of the world is forgotten. -/
def forget (f : σ → σ') (s : Config ι π σ C A ε) : Config ι π σ' C A ε := ⟨f s.world, s.threads⟩

/--
One system refines another: it runs the same programs, and what it does to the world,
seen through `f`, is what the other does.
-/
structure Refines (M : Machine ι π ω ν σ C A ε) (M' : Machine ι π ω' ν' σ' C A ε)
    (f : σ → σ') (oracle : ω → C → ω') (event : ν → ν') : Prop where
  program : ∀ i q, M.program i q = M'.program i q
  serve : ∀ o i w c, ((M.serve o i w c).1, f (M.serve o i w c).2) = M'.serve (oracle o c) i (f w) c
  restart : ∀ i w, f (M.restart i w) = M'.restart i (f w)
  nature : ∀ n w, f (M.nature n w) = M'.nature (event n) (f w)

variable {f : σ → σ'} {oracle : ω → C → ω'} {event : ν → ν'}

/-- Each step is a step of the other system. -/
theorem Refines.step (h : Refines M M' f oracle event) {m : Move ι π ω ν}
    (hs : M.step s m = some s') : ∃ m', M'.step (forget f s) m' = some (forget f s') := by
  rcases step_cases hs with ⟨i, q, rfl, hi, rfl⟩ | ⟨i, o, q, past, c, k, rfl, hi, rfl⟩
    | ⟨i, t, rfl, -, rfl⟩ | ⟨i, rfl, rfl⟩ | ⟨n, rfl, rfl⟩
  · exact ⟨.start i q, by simp [Machine.step, forget, set, hi, h.program]⟩
  · refine ⟨.call i (oracle o c), ?_⟩
    obtain ⟨hanswer, hworld⟩ := Prod.mk.inj (h.serve o i s.world c)
    simp [Machine.step, forget, set, hi, ← hanswer, ← hworld]
  · refine ⟨.finish i, ?_⟩
    simp only [Machine.step] at hs
    split at hs
    · rename_i hi
      simp [Machine.step, forget, set, hi]
    · rename_i hi
      simp [Machine.step, forget, set, hi]
    · cases hs
  · exact ⟨.crash i, by simp [Machine.step, forget, set, h.restart]⟩
  · exact ⟨.nature (event n), by simp [Machine.step, forget, h.nature]⟩

/-- **What it reaches, the other system reaches.** -/
theorem Refines.reach (h : Refines M M' f oracle event) (hr : Reach M G s₀ s) :
    Reach M' Always (forget f s₀) (forget f s) := by
  induction hr with
  | init => exact .init
  | tail _ _ hs ih =>
      obtain ⟨m', hs'⟩ := h.step hs
      exact .tail ih trivial hs'

end

end Machine
