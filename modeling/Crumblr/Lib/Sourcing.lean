import Mathlib.Tactic.Common

/-!
# A state kept in a journal

A process works on a state in memory. A command appends a record to a journal, if it has
anything to append, and then changes the state. A process that dies leaves the journal; the next
one applies its records, one after the other, to a fresh state.

When applying a record does to a state what the command that appended it did, the journal is as
good as the memory: a run with deaths and restarts is a run without them.
-/

namespace Sourcing

variable {σ ρ ε α O : Type} {A : O → Type}

/-- What a command comes to: the record it appends first, and then its answer, or that it raises,
and the state it leaves. -/
structure Effect (σ ρ ε α : Type) where
  appended : Option ρ
  outcome : Except ε α
  left : σ

/-- A state with its commands, and what a record does to it. -/
structure Source (σ ρ ε O : Type) (A : O → Type) where
  start : σ
  apply : σ → ρ → Except ε σ
  run : (o : O) → σ → Effect σ ρ ε (A o)

/-- A process and its journal. -/
structure Process (σ ρ : Type) where
  journal : List ρ
  live : σ

namespace Source

variable (S : Source σ ρ ε O A)

/-- What a process that starts makes of a journal. -/
def rebuild (journal : List ρ) : Except ε σ := journal.foldlM S.apply S.start

/-- A run of commands that return: each is listed with its answer, also one whose process died
between its append and the change of the state. -/
inductive Reach : List ((o : O) × A o) → Process σ ρ → Prop where
  | init : Reach [] ⟨[], S.start⟩
  | ran {h : List ((o : O) × A o)} {p : Process σ ρ} {o : O} {a : A o} {r : Option ρ} {s : σ} :
      Reach h p → S.run o p.live = ⟨r, .ok a, s⟩ →
      Reach (h ++ [⟨o, a⟩]) ⟨p.journal ++ r.toList, s⟩
  | cut {h : List ((o : O) × A o)} {p : Process σ ρ} {o : O} {a : A o} {r : ρ} {s s' : σ} :
      Reach h p → S.run o p.live = ⟨some r, .ok a, s⟩ →
      S.rebuild (p.journal ++ [r]) = .ok s' →
      Reach (h ++ [⟨o, a⟩]) ⟨p.journal ++ [r], s'⟩
  | restarted {h : List ((o : O) × A o)} {p : Process σ ρ} {s : σ} :
      Reach h p → S.rebuild p.journal = .ok s → Reach h ⟨p.journal, s⟩

/-- The same without a death. -/
inductive Direct : List ((o : O) × A o) → Process σ ρ → Prop where
  | init : Direct [] ⟨[], S.start⟩
  | ran {h : List ((o : O) × A o)} {p : Process σ ρ} {o : O} {a : A o} {r : Option ρ} {s : σ} :
      Direct h p → S.run o p.live = ⟨r, .ok a, s⟩ →
      Direct (h ++ [⟨o, a⟩]) ⟨p.journal ++ r.toList, s⟩

/-- Applying a record does what the command that appends it does, and a command that appends
nothing changes nothing, as long as the invariant holds. -/
structure Faithful (I : σ → Prop) : Prop where
  start : I S.start
  keeps : ∀ {o s r a s'}, I s → S.run o s = ⟨r, .ok a, s'⟩ → I s'
  applies : ∀ {o s r a s'}, I s → S.run o s = ⟨some r, .ok a, s'⟩ → S.apply s r = .ok s'
  silent : ∀ {o s a s'}, I s → S.run o s = ⟨none, .ok a, s'⟩ → s' = s

variable {S} {I : σ → Prop} {h : List ((o : O) × A o)} {p : Process σ ρ}

theorem rebuild_append {journal : List ρ} {s : σ} (hs : S.rebuild journal = .ok s) (r : ρ) :
    S.rebuild (journal ++ [r]) = S.apply s r := by
  unfold rebuild at hs ⊢
  rw [List.foldlM_append, hs]
  change List.foldlM S.apply s [r] = _
  simp

/-- What nothing can be made of stays so. -/
theorem rebuild_error {journal : List ρ} {e : ε} (h : S.rebuild journal = .error e)
    (later : List ρ) : S.rebuild (journal ++ later) = .error e := by
  unfold rebuild at h ⊢
  rw [List.foldlM_append, h]
  rfl

/-- **What is appended is not lost**, whether the state was changed or not. -/
theorem Faithful.rebuild_cut (hS : S.Faithful I) {o : O} {a : A o} {r : ρ} {s : σ}
    (hlive : S.rebuild p.journal = .ok p.live) (hI : I p.live)
    (hrun : S.run o p.live = ⟨some r, .ok a, s⟩) : S.rebuild (p.journal ++ [r]) = .ok s := by
  rw [rebuild_append hlive]
  exact hS.applies hI hrun

/-- **The journal is as good as the memory.** -/
theorem Faithful.rebuild_live (hS : S.Faithful I) (hp : S.Reach h p) :
    S.rebuild p.journal = .ok p.live ∧ I p.live := by
  induction hp with
  | init => exact ⟨rfl, hS.start⟩
  | @ran h p o a r s _ hrun ih =>
      obtain ⟨hlive, hI⟩ := ih
      refine ⟨?_, hS.keeps hI hrun⟩
      cases r with
      | none =>
          obtain rfl := hS.silent hI hrun
          simpa using hlive
      | some r => exact hS.rebuild_cut hlive hI hrun
  | @cut h p o a r s s' _ hrun hs' ih =>
      obtain ⟨hlive, hI⟩ := ih
      rw [hS.rebuild_cut hlive hI hrun] at hs'
      cases hs'
      exact ⟨hS.rebuild_cut hlive hI hrun, hS.keeps hI hrun⟩
  | @restarted h p s _ hs ih =>
      obtain ⟨hlive, hI⟩ := ih
      rw [hlive] at hs
      cases hs
      exact ⟨hlive, hI⟩

/-- **A run with deaths and restarts is a run without them**: the same commands, the same
answers, the same journal and the same state. -/
theorem Faithful.direct (hS : S.Faithful I) (hp : S.Reach h p) : S.Direct h p := by
  induction hp with
  | init => exact .init
  | ran _ hrun ih => exact .ran ih hrun
  | @cut h p o a r s s' hp hrun hs' ih =>
      obtain ⟨hlive, hI⟩ := hS.rebuild_live hp
      rw [hS.rebuild_cut hlive hI hrun] at hs'
      cases hs'
      exact .ran ih hrun
  | @restarted h p s hp hs ih =>
      rw [(hS.rebuild_live hp).1] at hs
      cases hs
      exact ih

theorem Direct.reach (hp : S.Direct h p) : S.Reach h p := by
  induction hp with
  | init => exact .init
  | ran _ hrun ih => exact .ran ih hrun

/-- **What an answer leaves behind**, and every later command keeps, holds at the end. What it
leaves may depend on the commands before it. -/
theorem Faithful.answered (hS : S.Faithful I)
    {P : List ((o : O) × A o) → (o : O) → A o → σ → Prop}
    (hdone : ∀ {h p o r a s'}, S.Direct h p → I p.live → S.run o p.live = ⟨r, .ok a, s'⟩ →
      P h o a s')
    (hkeep : ∀ {h s o r a s' o' a'}, I s → S.run o s = ⟨r, .ok a, s'⟩ → P h o' a' s →
      P h o' a' s')
    (hp : S.Direct h p) {before after : List ((o : O) × A o)} {c : (o : O) × A o}
    (hsplit : h = before ++ c :: after) : P before c.1 c.2 p.live := by
  induction hp generalizing after with
  | init => simp at hsplit
  | @ran h p o a r s hd hrun ih =>
      have hI : I p.live := (hS.rebuild_live hd.reach).2
      rcases List.eq_nil_or_concat after with rfl | ⟨after', last, rfl⟩
      · obtain ⟨rfl, hlast⟩ := List.append_inj' hsplit rfl
        cases List.cons.inj hlast |>.1
        exact hdone hd hI hrun
      · rw [List.concat_eq_append, ← List.cons_append, ← List.append_assoc] at hsplit
        obtain ⟨hinit, -⟩ := List.append_inj' hsplit rfl
        exact hkeep hI hrun (ih hinit)

/-- A run, computed: the answers and where it ends, if every command returns. -/
def carryOut (S : Source σ ρ ε O A) :
    List O → Process σ ρ → Except ε (List ((o : O) × A o) × Process σ ρ)
  | [], p => .ok ([], p)
  | o :: os, p =>
      let effect := S.run o p.live
      match effect.outcome with
      | .error e => .error e
      | .ok a =>
          match S.carryOut os ⟨p.journal ++ effect.appended.toList, effect.left⟩ with
          | .error e => .error e
          | .ok (rest, p) => .ok (⟨o, a⟩ :: rest, p)

theorem Reach.carryOut {os : List O} {answers : List ((o : O) × A o)} {p' : Process σ ρ}
    (hp : S.Reach h p) (hrun : S.carryOut os p = .ok (answers, p')) :
    S.Reach (h ++ answers) p' := by
  induction os generalizing h p answers with
  | nil =>
      cases hrun
      rwa [List.append_nil]
  | cons o os ih =>
      unfold Source.carryOut at hrun
      cases houtcome : (S.run o p.live).outcome with
      | error e => simp [houtcome] at hrun
      | ok a =>
          simp only [houtcome] at hrun
          split at hrun
          · cases hrun
          · rename_i rest q hrest
            cases hrun
            have hstep : S.run o p.live
                = ⟨(S.run o p.live).appended, .ok a, (S.run o p.live).left⟩ := by
              rw [← houtcome]
            simpa using ih (hp.ran hstep) hrest

/-- A check of where a computed run ends shows a run that ends so. -/
theorem Reach.exists_of_carryOut (os : List O) {p : Process σ ρ}
    (test : List ((o : O) × A o) × Process σ ρ → Bool) (hp : S.Reach [] p)
    (htest : (match S.carryOut os p with
      | .ok end_ => test end_
      | .error _ => false) = true) : ∃ answers p', S.Reach answers p' ∧ test (answers, p') = true := by
  split at htest
  · rename_i end_ hrun
    exact ⟨end_.1, end_.2, by simpa using hp.carryOut hrun, htest⟩
  · cases htest

end Source

end Sourcing
