import Crumblr.Proof.SafetyStores
import Crumblr.Risk.Gates

/-!
# Which reasons a halt is remembered for

A switch answers with the reasons of its newest halt alone, and each record is
overwritten by the next. So the reasons halted for since the last reset are all still
told only where every halt repeats the ones before it, every other process has already
halted for the new ones, and a process that starts reads a record that names them all.
-/

namespace Crumblr

/-! ## What a switch answers -/

/-- The switch is halted, and its newest halt names the reasons. -/
def KillSwitch.Names (k : KillSwitch) (reasons : List ReasonCode) : Prop :=
  k.isHalted = true ∧ ∃ halt, k.history.getLast? = some halt ∧ ∀ r ∈ reasons, r ∈ halt.reasonCodes

theorem KillSwitch.names_iff {k : KillSwitch} {reasons : List ReasonCode} (hne : reasons ≠ []) :
    k.Names reasons ↔ ∀ r ∈ reasons, r ∈ k.activeReasons := by
  obtain ⟨r₀, hr₀⟩ := List.exists_mem_of_ne_nil reasons hne
  unfold Names activeReasons
  cases hhalted : k.isHalted with
  | false =>
      simp only [Bool.false_eq_true, false_and, if_false, false_iff, not_forall]
      exact ⟨r₀, hr₀, List.not_mem_nil⟩
  | true =>
      cases hlast : k.history.getLast? with
      | none =>
          simp only [reduceCtorEq, false_and, exists_false, and_false, if_true, Option.map_none,
            Option.getD_none, false_iff, not_forall]
          exact ⟨r₀, hr₀, List.not_mem_nil⟩
      | some halt => simp

@[simp] theorem KillSwitch.tripped_activeReasons (k : KillSwitch) (halt : HaltRecord) :
    (k.tripped halt).activeReasons = halt.reasonCodes := by
  unfold activeReasons
  rw [if_pos (k.tripped_isHalted halt)]
  simp [tripped]

/-- The reasons a process that starts with this record is halted for. -/
def SafetyState.startReasons (recorded : SafetyState) : List ReasonCode :=
  if recorded.permitsNewOrders then []
  else if recorded.reasonCodes = [] then [.safetyStateUnknown] else recorded.reasonCodes

theorem KillSwitch.onStartup_activeReasons (recorded : SafetyState) :
    (KillSwitch.onStartup recorded).activeReasons = recorded.startReasons := by
  unfold activeReasons SafetyState.startReasons
  rw [SafetyStores.onStartup_isHalted]
  cases hp : recorded.permitsNewOrders with
  | true => rfl
  | false => simp [onStartup, hp]

/-! ## What was halted for -/

/-- The reasons halted for since the last reset that reached both records; a halt counts
as soon as it reached the journal. -/
def reasonsSince (reasons : List ReasonCode) (e : SafetyEvent) : List ReasonCode :=
  match e with
  | .trip _ halt _ => if e.reached = .neither then reasons else reasons ++ halt.reasonCodes
  | .reset .. => if e.reached = .both then [] else reasons
  | _ => reasons

/-- Every process that runs answers with all of the reasons. -/
def ReasonsKept (s : SafetySystem) (reasons : List ReasonCode) : Prop :=
  ∀ i k, s.processes i = some k → ∀ r ∈ reasons, r ∈ k.activeReasons

/-- What is read at a start tells the reasons: both records halted and the journal's naming
them, or the two at odds and no reason but the state being unknown. -/
def SafetyStores.Tells (stores : SafetyStores) (failures : LoadFailures) (now : UtcDatetime)
    (reasons : List ReasonCode) : Prop :=
  let journal := stores.loadJournal failures now
  let latch := stores.loadLatch failures now
  reasons = []
    ∨ (journal.permitsNewOrders = false ∧ latch.permitsNewOrders = false
        ∧ ∀ r ∈ reasons, r ∈ journal.startReasons)
    ∨ (journal.permitsNewOrders ≠ latch.permitsNewOrders
        ∧ ∀ r ∈ reasons, r = .safetyStateUnknown)

/-- An event after which every process still answers with all of the reasons. -/
def Retells (s : SafetySystem) (reasons : List ReasonCode) (e : SafetyEvent) : Prop :=
  match e with
  | .start _ failures now => s.stores.Tells failures now reasons
  | .trip i halt failure =>
      e.reached = .neither
        ∨ ((failure = none → ∀ r ∈ reasons, r ∈ halt.reasonCodes)
          ∧ ∀ j k, s.processes j = some k →
              -- The process that halts answers as before only when its save raised.
              (j = i → ∃ error, failure = some (.latch error)) → k.Names halt.reasonCodes)
  | _ => True

section

variable {s s' : SafetySystem} {e : SafetyEvent} {es : List SafetyEvent}
  {reasons : List ReasonCode}

@[simp] theorem SafetyStores.disagreement_startReasons (what : String)
    (authoritative journal latch : SafetyState) :
    (disagreement what authoritative journal latch).startReasons = [.safetyStateUnknown] := rfl

theorem SafetyStores.tells_iff {stores : SafetyStores} {failures : LoadFailures}
    {now : UtcDatetime} : stores.Tells failures now reasons
      ↔ ∀ r ∈ reasons, r ∈ (KillSwitch.onStartup (stores.load failures now)).activeReasons := by
  rw [KillSwitch.onStartup_activeReasons]
  unfold Tells load
  dsimp only
  have hnil : ∀ told : List ReasonCode, reasons = [] → ∀ r ∈ reasons, r ∈ told := by
    rintro told h r hr
    rw [h] at hr
    cases hr
  cases hj : (stores.loadJournal failures now).permitsNewOrders <;>
    cases hl : (stores.loadLatch failures now).permitsNewOrders
  · -- Both are halted: the journal is believed.
    constructor
    · rintro (h | ⟨-, -, h⟩ | ⟨h, -⟩)
      · exact hnil _ h
      · simpa [hj, hl] using h
      · exact absurd rfl h
    · intro h
      exact .inr (.inl ⟨rfl, rfl, by simpa [hj, hl] using h⟩)
  · constructor
    · rintro (h | ⟨-, h, -⟩ | ⟨-, h⟩)
      · exact hnil _ h
      · cases h
      · simpa [hj, hl] using h
    · intro h
      exact .inr (.inr ⟨by decide, by simpa [hj, hl] using h⟩)
  · constructor
    · rintro (h | ⟨h, -⟩ | ⟨-, h⟩)
      · exact hnil _ h
      · cases h
      · simpa [hj, hl] using h
    · intro h
      exact .inr (.inr ⟨by decide, by simpa [hj, hl] using h⟩)
  · -- Both let it run: there is nothing to tell.
    constructor
    · rintro (h | ⟨h, -⟩ | ⟨h, -⟩)
      · exact hnil _ h
      · cases h
      · exact absurd rfl h
    · intro h
      refine .inl (List.eq_nil_iff_forall_not_mem.mpr fun r hr => ?_)
      have htold := h r hr
      simp [hj, SafetyState.startReasons] at htold

/-- What a process that halts answers with afterwards. -/
def KillSwitch.afterTrip (k : KillSwitch) (halt : HaltRecord) :
    Option SaveFailure → Option KillSwitch
  | none => some (k.tripped halt)
  | some .crash => none
  | some _ => some k

/-- A halt changes the switch of the process that makes it, and no other. -/
theorem trip_processes {i : Nat} {halt : HaltRecord} {failure : Option SaveFailure}
    (h : s.step (.trip i halt failure) = some s') : ∃ k, s.processes i = some k
      ∧ s'.processes = Function.update s.processes i
          (if halt.reasonCodes = [] then some k else k.afterTrip halt failure) := by
  obtain ⟨k, hk, rfl⟩ := Option.map_eq_some_iff.mp h
  refine ⟨k, hk, ?_⟩
  unfold KillSwitch.trip
  by_cases hempty : halt.reasonCodes = []
  · rw [if_pos hempty, if_pos hempty]
    rfl
  · rw [if_neg hempty, if_neg hempty]
    cases failure with
    | none => rfl
    | some failure => cases failure <;> rfl

/-- A reset leaves the process that makes it running, as it was or dead. -/
theorem reset_processes {i : Nat} {operator incidentNote : String} {now : UtcDatetime}
    {failure : Option SaveFailure}
    (h : s.step (.reset i operator incidentNote now failure) = some s')
    (hreached : (SafetyEvent.reset i operator incidentNote now failure).reached ≠ .both) :
    ∃ k, s.processes i = some k ∧ (s'.processes = Function.update s.processes i (some k)
      ∨ s'.processes = Function.update s.processes i none) := by
  obtain ⟨k, hk, rfl⟩ := Option.map_eq_some_iff.mp h
  refine ⟨k, hk, ?_⟩
  unfold SafetyEvent.reached at hreached
  unfold KillSwitch.reset
  cases hop : isBlank operator with
  | true => exact .inl rfl
  | false =>
      cases hnote : isBlank incidentNote with
      | true => exact .inl rfl
      | false =>
          cases failure with
          | none => simp [hop, hnote, SaveFailure.reached] at hreached
          | some failure =>
              cases failure with
              | journal error => exact .inl rfl
              | latch error => exact .inl rfl
              | crash => exact .inr rfl

/-- What is kept when one process changes. -/
theorem reasonsKept_update {processes : Nat → Option KillSwitch} {i : Nat}
    {k? : Option KillSwitch} {stores : SafetyStores} :
    ReasonsKept ⟨stores, Function.update processes i k?⟩ reasons
      ↔ (∀ k, k? = some k → ∀ r ∈ reasons, r ∈ k.activeReasons)
        ∧ ∀ j k, j ≠ i → processes j = some k → ∀ r ∈ reasons, r ∈ k.activeReasons := by
  constructor
  · intro h
    refine ⟨fun k hk => h i k (by simpa using hk), fun j k hj hk => h j k ?_⟩
    simpa [Function.update_of_ne hj] using hk
  · rintro ⟨hi, hrest⟩ j k hk
    by_cases hj : j = i
    · subst hj
      exact hi k (by simpa using hk)
    · exact hrest j k hj (by simpa [Function.update_of_ne hj] using hk)

/-- **After a halt every process answers with all reasons just when the halt retells
them.** -/
theorem trip_keeps_iff {i : Nat} {halt : HaltRecord} {failure : Option SaveFailure}
    (hkept : ReasonsKept s reasons) (h : s.step (.trip i halt failure) = some s') :
    ReasonsKept s' (reasonsSince reasons (.trip i halt failure))
      ↔ Retells s reasons (.trip i halt failure) := by
  obtain ⟨k, hk, hprocesses⟩ := trip_processes h
  obtain ⟨stores, processes⟩ := s'
  obtain rfl : processes = _ := hprocesses
  unfold reasonsSince Retells
  rw [reasonsKept_update]
  by_cases hreached : (SafetyEvent.trip i halt failure).reached = .neither
  · -- Nothing was written, and nothing changes.
    simp only [hreached, if_true, true_or, iff_true]
    refine ⟨?_, fun j k' _ hk' => hkept j k' hk'⟩
    intro k' hk'
    suffices hsame : k' = k by rw [hsame]; exact hkept i k hk
    unfold SafetyEvent.reached at hreached
    split at hk'
    · exact (Option.some.inj hk').symm
    · rename_i hne
      simp only [hne, if_false] at hreached
      cases failure with
      | none => cases hreached
      | some failure =>
          cases failure with
          | journal error => exact (Option.some.inj hk').symm
          | latch error => cases hreached
          | crash => cases hreached
  have hne : halt.reasonCodes ≠ [] := by
    intro hempty
    exact hreached (by simp [SafetyEvent.reached, hempty])
  simp only [hreached, if_false, false_or, if_neg hne, List.mem_append]
  constructor
  · rintro ⟨hself, hothers⟩
    refine ⟨?_, ?_⟩
    · rintro rfl r hr
      simpa using hself _ rfl r (.inl hr)
    · intro j k' hk' hj
      rw [KillSwitch.names_iff hne]
      intro r hr
      by_cases hji : j = i
      · obtain ⟨error, rfl⟩ := hj hji
        subst hji
        obtain rfl := Option.some.inj (hk.symm.trans hk')
        exact hself k rfl r (.inr hr)
      · exact hothers j k' hji hk' r (.inr hr)
  · rintro ⟨hself, hothers⟩
    refine ⟨?_, ?_⟩
    · intro k' hk' r hr
      cases failure with
      | none =>
          obtain rfl := Option.some.inj hk'
          rw [KillSwitch.tripped_activeReasons]
          exact hr.elim (hself rfl r) id
      | some failure =>
          cases failure with
          | journal error => simp [SafetyEvent.reached, hne, SaveFailure.reached] at hreached
          | latch error =>
              obtain rfl := Option.some.inj hk'
              have hnames := hothers i k hk fun _ => ⟨error, rfl⟩
              exact hr.elim (hkept i k hk r) ((KillSwitch.names_iff hne).mp hnames r)
          | crash => cases hk'
    · intro j k' hji hk' r hr
      have hnames := hothers j k' hk' fun h => absurd h hji
      exact hr.elim (hkept j k' hk' r) ((KillSwitch.names_iff hne).mp hnames r)

/-- **One event keeps the reasons just when it retells them.** -/
theorem step_keeps_iff (hkept : ReasonsKept s reasons) (h : s.step e = some s') :
    ReasonsKept s' (reasonsSince reasons e) ↔ Retells s reasons e := by
  cases e with
  | start i failures now =>
      simp only [SafetySystem.step] at h
      split at h
      · cases h
      cases h
      dsimp only [Retells, reasonsSince]
      rw [reasonsKept_update, SafetyStores.tells_iff]
      constructor
      · exact fun hafter => hafter.1 _ rfl
      · rintro htells
        refine ⟨fun k hk => ?_, fun j k _ hk => hkept j k hk⟩
        obtain rfl := Option.some.inj hk
        exact htells
  | stop i =>
      cases h
      unfold Retells
      rw [reasonsKept_update]
      simp only [iff_true]
      refine ⟨?_, fun j k _ hk => hkept j k hk⟩
      rintro k ⟨⟩
  | trip i halt failure => exact trip_keeps_iff hkept h
  | reset i operator incidentNote now failure =>
      unfold reasonsSince Retells
      simp only [iff_true]
      split
      · rintro j k - r hr
        cases hr
      · rename_i hreached
        obtain ⟨k, hk, hafter⟩ := reset_processes h hreached
        obtain ⟨stores, processes⟩ := s'
        rcases hafter with hafter | hafter <;> obtain rfl : processes = _ := hafter <;>
          rw [reasonsKept_update] <;> refine ⟨?_, fun j k' _ hk' => hkept j k' hk'⟩
        · rintro k' ⟨⟩
          exact hkept i k hk
        · rintro k' ⟨⟩

/-- Every event of a run retells the reasons so far. -/
def Retold (s : SafetySystem) (reasons : List ReasonCode) : List SafetyEvent → Prop
  | [] => True
  | e :: es => Retells s reasons e ∧ ∀ s', s.step e = some s' → Retold s' (reasonsSince reasons e) es

theorem run_keeps (hkept : ReasonsKept s reasons) (h : s.run es = some s')
    (hretold : Retold s reasons es) : ReasonsKept s' (es.foldl reasonsSince reasons) := by
  induction es generalizing s reasons with
  | nil =>
      cases h
      exact hkept
  | cons e es ih =>
      obtain ⟨s₁, hstep, hrun⟩ := Option.bind_eq_some_iff.mp h
      exact ih ((step_keeps_iff hkept hstep).mpr hretold.1) hrun (hretold.2 s₁ hstep)

theorem alone_trip {i : Nat} {halt : HaltRecord} {failure : Option SaveFailure}
    (halone : ∀ j k, s.processes j = some k → j = i)
    (h : s.step (.trip i halt failure) = some s') : ∀ j k, s'.processes j = some k → j = i := by
  obtain ⟨k, -, hprocesses⟩ := trip_processes h
  intro j k' hk'
  by_contra hj
  rw [hprocesses, Function.update_of_ne hj] at hk'
  exact hj (halone j k' hk')

/-- A process that runs alone retells the reasons by repeating them. -/
theorem retells_alone {i : Nat} {halt : HaltRecord} (halone : ∀ j k, s.processes j = some k → j = i)
    (hrepeats : ∀ r ∈ reasons, r ∈ halt.reasonCodes) :
    Retells s reasons (.trip i halt none) := by
  refine .inr ⟨fun _ => hrepeats, fun j k hk hraised => ?_⟩
  obtain ⟨error, herror⟩ := hraised (halone j k hk)
  cases herror

/-- An open flatten gate tolerates every reason the switch answers with. -/
theorem flattenGate_tolerates {context : FlattenGateContext}
    (hopen : (evaluateFlattenGate context).isOpen = true) :
    ∀ r ∈ context.killSwitch.activeReasons, r ∈ toleratedHaltReasons := by
  intro r hr
  have hleg := GateDecision.ofLegs_isOpen.mp hopen
    (context.killSwitch.isHalted
      && context.killSwitch.activeReasons.any (fun r => decide (r ∉ toleratedHaltReasons)),
      .systemHalted) (by simp)
  have hhalted : context.killSwitch.isHalted = true := by
    by_contra hrunning
    unfold KillSwitch.activeReasons at hr
    rw [if_neg hrunning] at hr
    cases hr
  simp only [hhalted, Bool.true_and, List.any_eq_false, decide_eq_true_eq, not_not] at hleg
  exact hleg r hr

/--
**Which halt reasons are not forgotten.** In every run of processes that halt and reset
in which every event retells the reasons halted for since the last reset, every process
answers with all of these reasons, and its flatten gate opens only where each of them is
tolerated.
-/
theorem haltReasons_kept (h : s.run es = some s') (hretold : Retold s [] es) :
    let reasons := es.foldl reasonsSince []
    ∀ i k, s'.processes i = some k →
      (reasons ≠ [] → k.activeReasons ≠ [])
        ∧ (∀ r ∈ reasons, r ∈ k.activeReasons)
        ∧ ∀ context : FlattenGateContext, context.killSwitch = k →
            (evaluateFlattenGate context).isOpen = true →
            ∀ r ∈ reasons, r ∈ toleratedHaltReasons := by
  intro reasons i k hk
  have hstart : ReasonsKept s [] := fun _ _ _ r hr => by cases hr
  have hall : ∀ r ∈ reasons, r ∈ k.activeReasons := run_keeps hstart h hretold i k hk
  refine ⟨?_, hall, ?_⟩
  · intro hne hempty
    obtain ⟨r, hr⟩ := List.exists_mem_of_ne_nil reasons hne
    have hmem := hall r hr
    rw [hempty] at hmem
    cases hmem
  · rintro context rfl hopen r hr
    exact flattenGate_tolerates hopen r (hall r hr)

end

/-! ## Runs -/

namespace Sample

/-- A process starts, halts for some reasons, and then for others. -/
def haltedTwice (first second : List ReasonCode) : List SafetyEvent :=
  [.start 0 readable 90, .trip 0 (haltFor first) none, .trip 0 (haltFor second) none]

def switchedOff : AccountState where
  login := 0
  server := "Demo-Server"
  currency := "EUR"
  isDemo := true
  tradeAllowed := true
  expertAllowed := true
  connected := true
  balance := 1000
  equity := 1000
  margin := ⟨0, le_refl 0⟩
  marginFree := 1000
  marginLevel := none
  leverage := 30
  observedAtUtc := 100

/-- Everything a flatten needs, and a switch. -/
def flattenContext (killSwitch : KillSwitch) : FlattenGateContext where
  environment := .shadow
  account := switchedOff
  terminalTradeAllowed := true
  positionBookComplete := true
  reconciliationStatus := .matched
  killSwitch := killSwitch
  flattenRequired := true
  riskConfigVersion := "1"
  approvedRiskConfigVersion := some "1"
  flattenSubmissionEnabled := true
  feedback20Approved := true
  now := 200

end Sample

/-- A halt for one reason, and one that repeats it beside another. -/
theorem haltReasons_kept_sample :
    ∃ s' k, SafetySystem.run ⟨Sample.runningStores, fun _ => none⟩
        (Sample.haltedTwice [.maxDrawdown] [.maxDrawdown, .overnightExposure]) = some s'
      ∧ s'.processes 0 = some k ∧ .maxDrawdown ∈ k.activeReasons := by
  obtain ⟨s', k, hrun, hk⟩ : ∃ s' k, SafetySystem.run ⟨Sample.runningStores, fun _ => none⟩
      (Sample.haltedTwice [.maxDrawdown] [.maxDrawdown, .overnightExposure]) = some s'
      ∧ s'.processes 0 = some k := ⟨_, _, rfl, rfl⟩
  have hretold : Retold ⟨Sample.runningStores, fun _ => none⟩ []
      (Sample.haltedTwice [.maxDrawdown] [.maxDrawdown, .overnightExposure]) := by
    have halone : ∀ stores k j k', (SafetySystem.mk stores
        (Function.update (fun _ => none) 0 (some k))).processes j = some k' → j = 0 := by
      intro stores k j k' hk'
      by_contra hj
      simp [Function.update_of_ne hj] at hk'
    refine ⟨.inl rfl, ?_⟩
    rintro s₁ ⟨⟩
    refine ⟨retells_alone (halone _ _) (by decide), fun s₂ hs₂ => ?_⟩
    exact ⟨retells_alone (alone_trip (halone _ _) hs₂) (by decide), fun _ _ => trivial⟩
  exact ⟨s', k, hrun, hk, (haltReasons_kept hrun hretold 0 k hk).2.1 .maxDrawdown (by decide)⟩

/-- **The next halt makes an earlier one forgotten.** A process halted for its drawdown
halts again for the exposure it holds overnight, and its flatten gate opens. -/
theorem haltReasons_forgotten :
    ∃ s' k, SafetySystem.run ⟨Sample.runningStores, fun _ => none⟩
        (Sample.haltedTwice [.maxDrawdown] [.overnightExposure]) = some s'
      ∧ s'.processes 0 = some k
      ∧ .maxDrawdown ∈ (Sample.haltedTwice [.maxDrawdown] [.overnightExposure]).foldl
          reasonsSince []
      ∧ .maxDrawdown ∉ k.activeReasons ∧ .maxDrawdown ∉ toleratedHaltReasons
      ∧ (evaluateFlattenGate (Sample.flattenContext k)).isOpen = true :=
  ⟨_, _, rfl, rfl, by decide +kernel, by decide +kernel, by decide, by decide +kernel⟩

end Crumblr
