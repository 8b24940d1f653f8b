import Crumblr.Proof.Effects
import Crumblr.Proof.LifeCycle

/-!
# Runs, as the invariants see them

An invariant about submissions or flattens speaks of the ledger and of what each
worker has done in its current pass, and of nothing else. A worker between passes
has done nothing. Seen so, a run has three kinds of steps: a worker makes a call
its past allows, a worker's past is forgotten, and an order on the wire settles.
-/

namespace Crumblr

/-- The ledger, and what each worker has done in its current pass. -/
structure Scene where
  ledger : Ledger
  past : Nat → Past

/-- What the system shows of itself. -/
def scene (v : SystemView) : Scene where
  ledger := v.world.ledger
  past := fun i => ((v.seen i).map Prod.snd).getD []

namespace Scene

/-- Worker `i` starts over, or stops. -/
def reset (S : Scene) (i : Nat) : Scene := { S with past := Function.update S.past i [] }

/-- Orders on the wire settle. -/
def settled (S : Scene) (sends : List Send) : Scene :=
  { S with ledger := { S.ledger with sends } }

/-- Worker `i` makes a call. -/
def called (S : Scene) (i : Nat) (c : Call) (a : Except PyError c.Answer) (l : Ledger) : Scene where
  ledger := l
  past := Function.update S.past i (⟨c, a⟩ :: S.past i)

variable {S : Scene} {i j : Nat} {c : Call} {a : Except PyError c.Answer} {l : Ledger}

@[simp] theorem reset_ledger : (S.reset i).ledger = S.ledger := rfl

@[simp] theorem reset_past_self : (S.reset i).past i = [] := by simp [reset]

theorem reset_past (j : Nat) : (S.reset i).past j = [] ∨ (S.reset i).past j = S.past j := by
  by_cases hj : j = i
  · subst hj; simp
  · exact .inr (by simp [reset, hj])

@[simp] theorem called_ledger : (S.called i c a l).ledger = l := rfl

@[simp] theorem called_past_self : (S.called i c a l).past i = ⟨c, a⟩ :: S.past i := by
  simp [called]

@[simp] theorem called_past_of_ne (h : j ≠ i) : (S.called i c a l).past j = S.past j := by
  simp [called, h]

end Scene

variable [Externals]

/-- The steps a guard lets through, as the invariants see them. -/
abbrev Guard : Type := Machine.Guard Nat Task Oracle World.Event World Call Call.Answer PyError

/-- The states runs of workers reach from `w` under a guard. -/
abbrev ReachUnder (G : Guard) (w : World)
    (s : Config Nat Task World Call Call.Answer PyError) : Prop :=
  Machine.Reach workers G (Machine.idle w) s

/-- The states runs of workers reach from `w`. -/
abbrev Reachable (w : World) (s : Config Nat Task World Call Call.Answer PyError) : Prop :=
  ReachUnder Machine.Always w s

/--
**The run rule for workers.** An invariant of scenes that holds at the start, is
kept when a past is forgotten and when an order settles, and is kept by every call
the discipline and the guard allow, holds of every reachable state.
-/
theorem scene_invariant {G : Guard} {I : Scene → Prop} {w : World}
    {s : Config Nat Task World Call Call.Answer PyError}
    (hinit : I ⟨w.ledger, fun _ => []⟩)
    (hreset : ∀ S i, I S → I (S.reset i))
    (hsettle : ∀ S sends, I S → List.Forall₂ SettledFrom S.ledger.sends sends →
      I (S.settled sends))
    (hcall : ∀ (v : SystemView) (i : Nat) (o : Oracle) (c : Call) (a : Except PyError c.Answer)
      (l : Ledger), I (scene v) → G v (.call i o) (some c) → mayCall ((scene v).past i) c →
      Effect (scene v).ledger c a l → a = (v.world.serve o i c).1 →
      I ((scene v).called i c a l))
    (h : ReachUnder G w s) :
    I (scene s.view) ∧ Machine.Kept (fun _ _ => passDiscipline) s := by
  refine Machine.Reach.invariant (D := fun _ _ => passDiscipline) (I := fun v => I (scene v))
    program_conforms ?_ ?_ ?_ ?_ h
  · exact fun w o i _ c => serve_answers w o i c
  · exact fun _ => rfl
  · exact hinit
  · intro v m c v' hI hG hstep
    have hdrop : ∀ (i : Nat) (w' : World) (x : Option (Task × Past)), w'.ledger = v.world.ledger →
        (x.map Prod.snd).getD [] = [] →
        I (scene (Machine.View.put { v with world := w' } i x)) := by
      intro i w' x hw hx
      have heq : scene (Machine.View.put { v with world := w' } i x) = (scene v).reset i := by
        simp only [scene, Machine.View.put, Scene.reset, hw, Scene.mk.injEq, true_and]
        funext j
        by_cases hj : j = i
        · subst hj; simpa using hx
        · simp [hj]
      rw [heq]
      exact hreset _ _ hI
    cases hstep with
    | start i q hi => exact hdrop i v.world (some (q, [])) rfl rfl
    | finish i => exact hdrop i v.world none rfl rfl
    | crash i => exact hdrop i (workers.restart i v.world) none (restart_ledger i v.world) rfl
    | nature n =>
        obtain ⟨sends, hl, hset⟩ := nature_ledger n v.world
        have heq : scene { v with world := workers.nature n v.world }
            = (scene v).settled sends := by
          simp only [scene, Scene.settled]
          exact congrArg (fun l => Scene.mk l _) hl
        rw [heq]
        exact hsettle _ _ hI hset
    | call i o q past c hi hallow =>
        have hpast : (scene v).past i = past := by simp [scene, hi]
        have heq : scene (Machine.View.put
              { v with world := (workers.serve o i v.world c).2 } i
              (some (q, ⟨c, (workers.serve o i v.world c).1⟩ :: past)))
            = (scene v).called i c (v.world.serve o i c).1 (v.world.serve o i c).2.ledger := by
          simp only [scene, Machine.View.put, Scene.called, Scene.mk.injEq]
          refine ⟨rfl, ?_⟩
          funext j
          by_cases hj : j = i
          · subst hj
            simp only [Function.update_self, Option.map_some, Option.getD_some, hi]
            rfl
          · simp [hj]
        rw [heq]
        refine hcall v i o c _ _ hI hG ?_ (serve_effect o i v.world c) rfl
        rw [hpast]
        exact hallow

/--
**What a pass has behind its next call.** In every state workers reach, the next call
of a pass is one that any discipline its program keeps to allows.
-/
theorem reachable_allowed {D : Task → Discipline Call Call.Answer PyError} {G : Guard} {w : World}
    {s : Config Nat Task World Call Call.Answer PyError}
    (hprog : ∀ q, Conforms (D q).protocol [] q.program fun _ _ => True)
    (hans : ∀ q, (D q).answers = mayAnswer) (h : ReachUnder G w s) {i : Nat} {q : Task}
    {past : Past} {c : Call} {k : Except PyError c.Answer → Pass Unit}
    (ht : s.threads i = some ⟨q, past, .call c k⟩) : (D q).allows past c := by
  refine Machine.Reach.allowed (D := fun _ q => D q) (fun _ q => hprog q) ?_ (fun _ => rfl) h ht
  intro w' o j q' c'
  rw [hans q']
  exact serve_answers w' o j c'

end Crumblr
