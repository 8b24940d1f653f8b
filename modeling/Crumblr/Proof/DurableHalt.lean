import Crumblr.Application.Processes
import Crumblr.Proof.Commitments
import Crumblr.Proof.AtMostOnce
import Crumblr.Proof.SafetyStores

/-!
# Whom a durable halt binds

A halt reaches the record and the memory of the process that makes it, and the memory of
every process that starts afterwards. A process that was running before goes by the
switch it started with, whatever the record says meanwhile.
-/

namespace Crumblr

/-! ## What the record and the switches go through -/

/-- Any process of the system. -/
inductive Process where
  | worker (i : Nat)
  | decision (i : Nat)
  deriving DecidableEq

/-- No record has the system run. -/
def HaltOnRecord (w : World) : Prop :=
  ∀ state, w.db.safetyState = some state → state.permitsNewOrders = false

/-- The process, if it runs, is halted in its memory. -/
def Barred (s : Processes) : Process → Prop
  | .worker i => (s.execution.world.killSwitches i).isHalted = true
  | .decision i => ∀ k, s.decisions i = some k → k.isHalted = true

/-- The process makes the halt, and its record is written. -/
def Trips (s : Processes) : ProcessMove → Process → Prop
  | .execution (.call i o), p => p = .worker i ∧ o.fault = none
      ∧ ∃ halt, Machine.asked s.execution (.call i o : Move Nat Task Oracle World.Event)
          = some (.trip halt)
  | .tripDecision i _, p => p = .decision i
  | _, _ => False

/-- The process starts, or is restarted. -/
def Starts : ProcessMove → Process → Prop
  | .execution (.crash i), p => p = .worker i
  | .startDecision i, p => p = .decision i
  | _, _ => False

/-- An operator's reset is recorded. -/
def Resets : ProcessMove → Prop
  | .execution (.nature (.saveSafety state)) => state.permitsNewOrders = true
  | .resetDecision .. => True
  | _ => False

/-- The call passes FINAL risk, or commits to a submission. -/
def PassesOrCommits : Call → Prop
  | .append e => e.eventType = .finalRiskPassed ∨ e.eventType = .submissionStarted
  | .consumeAndStart .. => True
  | _ => False

section

variable [Externals]

/-- The process is about to produce a PASS or to commit to a submission. -/
def AboutToTrade (s : Processes) : Process → Prop
  | .worker i => ∃ q past c k, s.execution.threads i = some ⟨q, past, .call c k⟩
      ∧ PassesOrCommits c
  | .decision i => ∃ k r d, s.decisions i = some k ∧ RiskRequest.evaluate r k = .ok d
      ∧ d.verdict = .pass

variable {w : World} {o : Oracle} {i : Nat} {c : Call}

/-! ## One step -/

section

variable {s s' : Processes} {m : ProcessMove} {p : Process}

/-- What a step of the execution workers does to the record and the switches. -/
theorem workers_step_halting {e e' : Config Nat Task World Call Call.Answer PyError}
    {m : Move Nat Task Oracle World.Event} (h : workers.step e m = some e')
    (hreset : ¬ Resets (.execution m)) (hrecord : HaltOnRecord e.world) :
    HaltOnRecord e'.world
      ∧ ∀ i, ((e.world.killSwitches i).isHalted = true ∨ m = .crash i) →
          (e'.world.killSwitches i).isHalted = true := by
  rcases Machine.step_cases h with ⟨j, q, rfl, -, rfl⟩ | ⟨j, o, q, past, c, k, rfl, -, rfl⟩
    | ⟨j, t, rfl, -, rfl⟩ | ⟨j, rfl, rfl⟩ | ⟨n, rfl, rfl⟩
  · exact ⟨hrecord, fun i h => h.elim id (fun h => by cases h)⟩
  · have honly := serve_aside e.world o j c
    constructor
    · intro state hstate
      rcases honly.record with heq | ⟨halt, -, heq⟩
      · exact hrecord state (heq.symm.trans hstate)
      · obtain rfl := Option.some.inj (heq.symm.trans hstate)
        rfl
    · rintro i (hi | hi)
      · show ((e.world.serve o j c).2.killSwitches i).isHalted = true
        rcases honly.switches with heq | ⟨halt, -, heq⟩
        · rw [heq]
          exact hi
        · rw [heq]
          by_cases hij : i = j
          · subst hij
            simp
          · simpa [Function.update_of_ne hij] using hi
      · cases hi
  · exact ⟨hrecord, fun i h => h.elim id (fun h => by cases h)⟩
  · refine ⟨hrecord, fun i hi => ?_⟩
    show ((e.world.restart j).killSwitches i).isHalted = true
    unfold World.restart
    by_cases hij : i = j
    · subst hij
      simp only [Function.update_self, SafetyStores.onStartup_isHalted, Bool.not_eq_true']
      unfold Database.loadSafetyState
      cases hstate : e.world.db.safetyState with
      | none => rfl
      | some state => exact hrecord state hstate
    · rcases hi with hi | hi
      · simpa [Function.update_of_ne hij] using hi
      · cases hi
        exact absurd rfl hij
  · cases n with
    | saveSafety state =>
        refine ⟨?_, fun i h => h.elim id (fun h => by cases h)⟩
        rintro state' ⟨⟩
        simpa [Resets] using hreset
    | sealCapsule capsule =>
        have hsame : (e.world.nature (.sealCapsule capsule)).db.safetyState
              = e.world.db.safetyState
            ∧ (e.world.nature (.sealCapsule capsule)).killSwitches = e.world.killSwitches := by
          simp only [World.nature]
          split <;> exact ⟨rfl, rfl⟩
        refine ⟨fun state hstate => hrecord state (hsame.1.symm.trans hstate), ?_⟩
        rintro i (hi | hi)
        · exact (congrArg (fun k => (k i).isHalted) hsame.2).trans hi
        · cases hi
    | _ => exact ⟨hrecord, fun i h => h.elim id (fun h => by cases h)⟩

/-- **As long as nobody resets, a record of a halt stays one, a barred process stays
barred, and one that starts is barred.** -/
theorem step_halting (h : s.step m = some s') (hreset : ¬ Resets m)
    (hrecord : HaltOnRecord s.execution.world) :
    HaltOnRecord s'.execution.world ∧ ∀ p, (Barred s p ∨ Starts m p) → Barred s' p := by
  cases m with
  | execution m =>
      obtain ⟨e, hstep, rfl⟩ := Option.map_eq_some_iff.mp h
      obtain ⟨hrecord', hbarred⟩ := workers_step_halting hstep hreset hrecord
      refine ⟨hrecord', ?_⟩
      rintro (i | i) hp
      · refine hbarred i (hp.imp id fun hstarts => ?_)
        cases m with
        | crash j => cases hstarts; rfl
        | _ => cases hstarts
      · rcases hp with hp | hstarts
        · exact hp
        · cases m with
          | crash j => cases hstarts
          | _ => cases hstarts
  | startDecision i =>
      simp only [Processes.step] at h
      split at h
      · cases h
      cases h
      refine ⟨hrecord, ?_⟩
      have hstarted : (KillSwitch.onStartup (s.execution.world.db.loadSafetyState
          s.execution.world.now)).isHalted = true := by
        rw [SafetyStores.onStartup_isHalted, Bool.not_eq_true']
        unfold Database.loadSafetyState
        cases hstate : s.execution.world.db.safetyState with
        | none => rfl
        | some state => exact hrecord state hstate
      rintro (j | j) hp
      · exact hp.elim id (fun h => by cases h)
      · intro k hk
        by_cases hj : j = i
        · subst hj
          obtain rfl : _ = k := by simpa using hk
          exact hstarted
        · rcases hp with hp | hstarts
          · exact hp k (by simpa [Function.update_of_ne hj] using hk)
          · cases hstarts
            exact absurd rfl hj
  | stopDecision i =>
      cases h
      refine ⟨hrecord, ?_⟩
      rintro (j | j) (hp | hstarts)
      · exact hp
      · cases hstarts
      · intro k hk
        by_cases hj : j = i
        · subst hj
          simp at hk
        · exact hp k (by simpa [Function.update_of_ne hj] using hk)
      · cases hstarts
  | tripDecision i halt =>
      obtain ⟨k, hk, h⟩ := Option.bind_eq_some_iff.mp h
      split at h
      · cases h
      cases h
      refine ⟨?_, ?_⟩
      · rintro state ⟨⟩
        rfl
      rintro (j | j) (hp | hstarts)
      · exact hp
      · cases hstarts
      · intro k' hk'
        by_cases hj : j = i
        · subst hj
          obtain rfl : _ = k' := by simpa [Processes.write] using hk'
          exact k.tripped_isHalted halt
        · exact hp k' (by simpa [Processes.write, Function.update_of_ne hj] using hk')
      · cases hstarts
  | resetDecision i operator incidentNote => exact absurd trivial hreset
  | decide i r =>
      obtain ⟨k, -, rfl⟩ := Option.map_eq_some_iff.mp h
      exact ⟨hrecord, fun p hp => hp.elim id (fun h => by cases h)⟩

/-- **A halt is on record, and bars the process that made it.** -/
theorem trips_halting (htrips : Trips s m p) (h : s.step m = some s') :
    HaltOnRecord s'.execution.world ∧ Barred s' p := by
  cases m with
  | execution m =>
      obtain ⟨e, hstep, rfl⟩ := Option.map_eq_some_iff.mp h
      cases m with
      | call i o =>
          obtain ⟨rfl, hfault, halt, hasked⟩ := htrips
          rcases Machine.step_cases hstep with ⟨j, q, hm, -⟩ | ⟨j, o', q, past, c, k, hm, hi, rfl⟩
            | ⟨j, t, hm, -⟩ | ⟨j, hm, -⟩ | ⟨n, hm, -⟩ <;> cases hm
          obtain rfl : c = .trip halt := by simpa [Machine.asked, hi] using hasked
          have hserved : (workers.serve o i s.execution.world (.trip halt)).2
              = (s.execution.world.answer o.replies i (.trip halt)).2 := by
            show (World.serve o i s.execution.world (.trip halt)).2 = _
            unfold World.serve
            rw [hfault]
          constructor
          · intro state hstate
            have hstate' : (workers.serve o i s.execution.world (.trip halt)).2.db.safetyState
                = some state := hstate
            rw [hserved] at hstate'
            cases hstate'
            rfl
          · show ((workers.serve o i s.execution.world (.trip halt)).2.killSwitches i).isHalted = _
            rw [hserved]
            simp [World.answer]
      | _ => exact htrips.elim
  | tripDecision i halt =>
      obtain rfl : p = .decision i := htrips
      obtain ⟨k, hk, h⟩ := Option.bind_eq_some_iff.mp h
      split at h
      · cases h
      cases h
      refine ⟨?_, ?_⟩
      · rintro state ⟨⟩
        rfl
      · intro k' hk'
        obtain rfl : _ = k' := by simpa [Processes.write] using hk'
        exact k.tripped_isHalted halt
  | _ => exact htrips.elim

end

/-! ## A whole run -/

section

variable {s s₁ s' : Processes} {m : ProcessMove} {ms : List ProcessMove} {p q : Process}

/-- A process that starts on a record of a halt, or is barred to begin with, stays barred
as long as nobody resets. -/
theorem run_halting (h : s.run ms = some s') (hreset : ∀ m ∈ ms, ¬ Resets m)
    (hrecord : HaltOnRecord s.execution.world) (hp : Barred s p ∨ ∃ m ∈ ms, Starts m p) :
    Barred s' p := by
  induction ms generalizing s with
  | nil =>
      cases h
      exact hp.elim id fun ⟨_, hm, _⟩ => by cases hm
  | cons m ms ih =>
      obtain ⟨s₁, hstep, hrun⟩ := Option.bind_eq_some_iff.mp h
      obtain ⟨hrecord₁, hbarred⟩ := step_halting hstep (hreset m (List.mem_cons_self ..)) hrecord
      refine ih hrun (fun m hm => hreset m (List.mem_cons_of_mem _ hm)) hrecord₁ ?_
      rcases hp with hp | ⟨m', hmem, hstarts⟩
      · exact .inl (hbarred p (.inl hp))
      · rcases List.mem_cons.mp hmem with rfl | hmem
        · exact .inl (hbarred p (.inr hstarts))
        · exact .inr ⟨m', hmem, hstarts⟩

theorem run_append {ms' : List ProcessMove} (h : s.run ms = some s₁) (h' : s₁.run ms' = some s') :
    s.run (ms ++ ms') = some s' := by
  induction ms generalizing s with
  | nil =>
      cases h
      exact h'
  | cons m ms ih =>
      obtain ⟨s₂, hstep, hrun⟩ := Option.bind_eq_some_iff.mp h
      exact Option.bind_eq_some_iff.mpr ⟨s₂, hstep, ih hrun⟩

/-- The execution workers of a run of all processes are in a run of their own. -/
theorem execution_reachable (hs : Reachable w s.execution) (h : s.run ms = some s') :
    Reachable w s'.execution := by
  induction ms generalizing s with
  | nil =>
      cases h
      exact hs
  | cons m ms ih =>
      obtain ⟨s₁, hstep, hrun⟩ := Option.bind_eq_some_iff.mp h
      refine ih ?_ hrun
      have hwrite : ∀ state i k, Reachable w (s.write state i k).execution := fun state _ _ =>
        .tail (m := .nature (.saveSafety state)) hs trivial rfl
      cases m with
      | execution m =>
          obtain ⟨e, he, rfl⟩ := Option.map_eq_some_iff.mp hstep
          exact .tail hs trivial he
      | startDecision i =>
          simp only [Processes.step] at hstep
          split at hstep <;> cases hstep
          exact hs
      | stopDecision i => cases hstep; exact hs
      | tripDecision i halt =>
          obtain ⟨k, -, hstep⟩ := Option.bind_eq_some_iff.mp hstep
          split at hstep <;> cases hstep
          exact hwrite ..
      | resetDecision i operator incidentNote =>
          obtain ⟨k, -, rfl⟩ := Option.map_eq_some_iff.mp hstep
          exact hwrite ..
      | decide i r =>
          obtain ⟨k, -, rfl⟩ := Option.map_eq_some_iff.mp hstep
          exact hs

/-- One call leaves what the pass has seen of its switch true. -/
theorem switchSeen_call {past : Past}
    (h : ∀ k, switchSeen past = some k → w.killSwitches i = k) :
    ∀ k, switchSeen (⟨c, (w.serve o i c).1⟩ :: past) = some k →
      (w.serve o i c).2.killSwitches i = k := by
  have hsame : (∀ halt, c ≠ .trip halt) → (w.serve o i c).2.killSwitches = w.killSwitches := by
    intro hne
    rcases (serve_aside w o i c).switches with heq | ⟨halt, htrip, -⟩
    · exact heq
    · exact absurd htrip (hne halt)
  intro k hk
  cases c with
  | killSwitch =>
      have hserved : (w.serve o i .killSwitch).1 = .ok (w.killSwitches i) := by
        unfold World.serve
        cases o.fault <;> rfl
      rw [hserved] at hk
      rw [hsame (by simp)]
      exact Option.some.inj hk
  | trip halt =>
      cases hfault : o.fault with
      | none =>
          have hserved : (w.serve o i (.trip halt)).1 = .ok () := by
            unfold World.serve
            rw [hfault]
            rfl
          rw [hserved] at hk
          cases hk
      | some e =>
          have hserved : w.serve o i (.trip halt) = (.error e, w) := by
            unfold World.serve
            rw [hfault]
            rfl
          rw [hserved] at hk ⊢
          exact h k hk
  | countEventsSince eventType since environment canonicalSymbol =>
      rw [hsame (by simp)]
      refine h k (Eq.trans ?_ hk)
      cases (w.serve o i (.countEventsSince eventType since environment canonicalSymbol)).1 <;> rfl
  | _ =>
      rw [hsame (by simp)]
      rw [switchSeen_cons (by trivial)] at hk
      exact h k hk

/-- **What a pass last saw of its switch is how its switch is.** -/
theorem switchSeen_holds {e : Config Nat Task World Call Call.Answer PyError}
    (h : Reachable w e) {t : Thread Task Call Call.Answer PyError} (ht : e.threads i = some t)
    {k : KillSwitch} (hseen : switchSeen t.past = some k) : e.world.killSwitches i = k := by
  refine Machine.Reach.threads (M := workers) (D := fun _ q => commitDiscipline q.orchestrator)
    (I := fun i w _ past => ∀ k, switchSeen past = some k → w.killSwitches i = k)
    (fun _ q => program_commits q) (fun w o i _ c => serve_answers w o i c) (fun _ => rfl)
    (fun _ _ _ _ _ hk => by cases hk) ?_ ?_ ?_ ?_ h ht k hseen
  · exact fun v o i q past c _ hI _ _ => switchSeen_call hI
  · intro o i w c j q past hj hI k hk
    rcases (serve_aside w o i c).switches with heq | ⟨halt, -, heq⟩
    · exact (congrFun heq j).trans (hI k hk)
    · exact (congrFun heq j).trans ((Function.update_of_ne hj ..).trans (hI k hk))
  · intro i w j q past hj hI k hk
    exact (Function.update_of_ne hj ..).trans (hI k hk)
  · intro n w j q past hI k hk
    exact (congrFun (nature_killSwitches n w) j).trans (hI k hk)

/-- A barred process is not about to trade. -/
theorem not_aboutToTrade (hs : Reachable w s.execution) (hbarred : Barred s p) :
    ¬ AboutToTrade s p := by
  cases p with
  | worker i =>
      rintro ⟨q, past, c, k, ht, hcommits⟩
      have hallowed := reachable_allowed (D := fun q => commitDiscipline q.orchestrator)
        program_commits (fun _ => rfl) hs ht
      obtain ⟨switch, hseen, hrunning⟩ : Armed past := by
        cases c with
        | append e => exact hcommits.elim hallowed.1 fun h => (hallowed.2 h).1
        | consumeAndStart permitId r now payload => exact hallowed.1
        | _ => exact hcommits.elim
      have hhalted : (s.execution.world.killSwitches i).isHalted = true := hbarred
      rw [switchSeen_holds hs ht hseen, hrunning] at hhalted
      cases hhalted
  | decision i =>
      rintro ⟨k, r, d, hk, hd, hpass⟩
      have hrunning := (evaluate_pass hd hpass).1
      rw [hbarred k hk] at hrunning
      cases hrunning

/--
**Whom a durable halt binds.** In every run of any number of execution and decision
processes, once one of them has halted and until an operator's reset is recorded, neither
it nor any process started since is about to produce a PASS or to commit to a submission.
-/
theorem durable_halt_binds {before after : List ProcessMove} {w : World}
    (hbefore : (Processes.idle w).run before = some s) (htrips : Trips s m p)
    (hstep : s.step m = some s₁) (hafter : s₁.run after = some s')
    (hreset : ∀ m ∈ after, ¬ Resets m) (hq : q = p ∨ ∃ m ∈ after, Starts m q) :
    ¬ AboutToTrade s' q := by
  obtain ⟨hrecord, hbarred⟩ := trips_halting htrips hstep
  have hreach : Reachable w s'.execution := by
    refine execution_reachable (s := Processes.idle w) .init (run_append hbefore (?_ :
      s.run (m :: after) = some s'))
    exact Option.bind_eq_some_iff.mpr ⟨s₁, hstep, hafter⟩
  refine not_aboutToTrade hreach (run_halting hafter hreset hrecord ?_)
  rcases hq with rfl | hstarts
  · exact .inl hbarred
  · exact .inr hstarts

end

end

/-! ## Runs -/

namespace Sample

/-- A decision process starts, and a worker takes up a pass. -/
def bothAtWork : List ProcessMove :=
  [.startDecision 0, .execution (.start 0 ⟨worker, .runOnce⟩)]

/-- The worker's pass up to its commitment. -/
def upToCommitment : List ProcessMove := (served 0 39).map .execution

/-- The worker is about to commit. -/
def commitsNext (s : Processes) (i : Nat) : Bool :=
  match s.execution.threads i with
  | some ⟨_, _, .call (.consumeAndStart ..) _⟩ => true
  | _ => false

theorem aboutToTrade_of_commitsNext {s : Processes} {i : Nat} (h : commitsNext s i = true) :
    AboutToTrade s (.worker i) := by
  unfold commitsNext at h
  split at h
  · rename_i q past permitId r now payload k ht
    exact ⟨q, past, _, k, ht, trivial⟩
  · cases h

/-- The halt of a decision process that has seen too deep a drawdown. -/
def drawdownHalt : HaltRecord := ⟨noon, [.maxDrawdown], "risk_engine", none⟩

end Sample

open Sample in
/-- The decision process that halts, and one that starts afterwards, are bound. -/
theorem durable_halt_binds_sample :
    ∃ s s₁ s', (Processes.idle Sample.world).run bothAtWork = some s
      ∧ s.step (.tripDecision 0 drawdownHalt) = some s₁
      ∧ s₁.run [.startDecision 1] = some s'
      ∧ ¬ AboutToTrade s' (.decision 0) ∧ ¬ AboutToTrade s' (.decision 1) := by
  obtain ⟨s, s₁, s', hs, hs₁, hs'⟩ : ∃ s s₁ s',
      (Processes.idle Sample.world).run bothAtWork = some s
      ∧ s.step (.tripDecision 0 drawdownHalt) = some s₁
      ∧ s₁.run [.startDecision 1] = some s' := ⟨_, _, _, rfl, rfl, rfl⟩
  have hreset : ∀ m ∈ [ProcessMove.startDecision 1], ¬ Resets m := by simp [Resets]
  have htrips : Trips s (.tripDecision 0 drawdownHalt) (.decision 0) := rfl
  exact ⟨s, s₁, s', hs, hs₁, hs', durable_halt_binds hs htrips hs₁ hs' hreset (.inl rfl),
    durable_halt_binds hs htrips hs₁ hs' hreset (.inr ⟨_, List.mem_singleton_self _, rfl⟩)⟩

open Sample in
/-- **A process that was running goes on.** A decision process halts, nobody resets, and
the worker commits to its submission. -/
theorem durable_halt_unseen :
    ∃ s s₁ s', (Processes.idle Sample.world).run bothAtWork = some s
      ∧ Trips s (.tripDecision 0 drawdownHalt) (.decision 0)
      ∧ s.step (.tripDecision 0 drawdownHalt) = some s₁
      ∧ s₁.run upToCommitment = some s' ∧ (∀ m ∈ upToCommitment, ¬ Resets m)
      ∧ AboutToTrade s' (.worker 0) := by
  obtain ⟨s, s₁, hs, hs₁⟩ : ∃ s s₁, (Processes.idle Sample.world).run bothAtWork = some s
      ∧ s.step (.tripDecision 0 drawdownHalt) = some s₁ := ⟨_, _, rfl, rfl⟩
  have hrun : (((Processes.idle Sample.world).run bothAtWork).bind fun s =>
      (s.step (.tripDecision 0 drawdownHalt)).bind fun s₁ => s₁.run upToCommitment).any
      (fun s' => commitsNext s' 0) = true := by decide +kernel
  rw [hs, Option.bind_some, hs₁, Option.bind_some] at hrun
  obtain ⟨s', hs', hcommits⟩ := (Option.any_eq_true _ _).mp hrun
  refine ⟨s, s₁, s', hs, rfl, hs₁, hs', ?_, aboutToTrade_of_commitsNext hcommits⟩
  intro m hm
  obtain ⟨m', hm', rfl⟩ := List.mem_map.mp hm
  obtain rfl := (List.mem_replicate.mp hm').2
  exact id

end Crumblr
