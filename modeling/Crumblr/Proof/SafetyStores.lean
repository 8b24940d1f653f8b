import Crumblr.Risk.SafetyStores

/-!
# What the two safety records remember

A save that reaches a store reads back as what was saved. So a starting process may
trade when the last halt or reset was a reset that reached both records; or when the
last attempt left a record as it was, and that record had it run already. A halt whose
journal write fails leaves both records as they were.
-/

namespace Crumblr

/-! ## Reading back -/

@[simp] theorem unknownState_permits (detail : String) (now : UtcDatetime) :
    (unknownState detail now).permitsNewOrders = false := rfl

theorem reasonsOf_map_value (codes : List ReasonCode) :
    reasonsOf (codes.map ReasonCode.value) = .ok codes := by
  induction codes with
  | nil => rfl
  | cons c cs ih =>
      unfold reasonsOf at ih ⊢
      rw [List.map_cons, List.mapM_cons, ReasonCode.ofValue?_value, ih]
      rfl

/-- **A halt or reset that reached the journal reads back as it was saved.** -/
theorem SafetyJournal.load_save (journal : SafetyJournal) (state : SafetyState)
    (now : UtcDatetime) : (journal.save state).load none now = state := by
  unfold SafetyJournal.load SafetyJournal.save
  rw [List.getLast?_concat]
  simp only [ne_eq, not_true_eq_false, if_false, SafetyJournal.parse,
    KillSwitchState.ofValue?_value, reasonsOf_map_value, bind, Except.bind, pure, Except.pure]

/-- **One that reached the latch does so too.** -/
theorem SafetyLatch.load_save (latch : SafetyLatch) (state : SafetyState) (now : UtcDatetime) :
    (latch.save state).load none now = state := by
  have hcodes : (state.reasonCodes.map fun c => Json.str c.value).mapM
      (fun code => code.text?.bind ReasonCode.ofValue?) = some state.reasonCodes := by
    induction state.reasonCodes with
    | nil => rfl
    | cons c cs ih =>
        rw [List.map_cons, List.mapM_cons, ih]
        simp [Json.text?]
  have hstate : state.toPayload.get? "state" = some (.str state.state.value) := by
    simp [SafetyState.toPayload, Json.get?]
  have hreasons : state.toPayload.get? "reason_codes"
      = some (.list (state.reasonCodes.map fun c => .str c.value)) := by
    simp [SafetyState.toPayload, Json.get?]
  have htime : state.toPayload.get? "recorded_at_utc" = some (.time state.recordedAtUtc) := by
    simp [SafetyState.toPayload, Json.get?]
  have hby : (state.toPayload.get? "tripped_by").bind Json.text? = state.trippedBy := by
    cases hby : state.trippedBy <;>
      simp [SafetyState.toPayload, Json.get?, Json.opt, Json.text?, hby]
  have hdetail : (state.toPayload.get? "detail").bind Json.text? = state.detail := by
    cases hdetail : state.detail <;>
      simp [SafetyState.toPayload, Json.get?, Json.opt, Json.text?, hdetail]
  have hparse : SafetyLatch.parse state.toPayload = some state := by
    have htext : ∀ s, (Json.str s).text? = some s := fun _ => rfl
    unfold SafetyLatch.parse
    rw [hstate, hreasons, htime, hby, hdetail]
    simp only [Option.bind_some, htext, KillSwitchState.ofValue?_value, Json.iterate,
      bind, pure, hcodes]
  have hschema : ((state.toPayload.get? "schema_version").getD .null).isOne = true := by
    simp [SafetyState.toPayload, Json.get?, Json.isOne, safetySchemaVersion]
  obtain ⟨fields, hfields⟩ : ∃ fields, state.toPayload = .obj fields := ⟨_, rfl⟩
  unfold SafetyLatch.load SafetyLatch.save
  rw [hfields] at hschema hparse ⊢
  simp only [hschema, hparse, Bool.not_true, Bool.false_eq_true, if_false]

/-! ## What the pair permits -/

namespace SafetyStores

variable {stores : SafetyStores} {failures : LoadFailures} {now : UtcDatetime}

/-- The journal's record, when it can be read, has the system run. -/
def journalRuns (stores : SafetyStores) : Bool := (stores.journal.load none 0).permitsNewOrders

/-- So does the latch's. -/
def latchRuns (stores : SafetyStores) : Bool := (stores.latch.load none 0).permitsNewOrders

theorem loadJournal_permits (now : UtcDatetime) : (stores.loadJournal failures now).permitsNewOrders = true
    ↔ failures.journal = none ∧ stores.journalRuns = true := by
  unfold loadJournal journalRuns SafetyJournal.load
  cases failures.journal with
  | some error => simp
  | none =>
      simp only [true_and]
      split
      · simp
      · split
        · simp
        · split <;> simp

theorem loadLatch_permits (now : UtcDatetime) : (stores.loadLatch failures now).permitsNewOrders = true
    ↔ failures.latch = none ∧ stores.latchRuns = true := by
  unfold loadLatch latchRuns SafetyLatch.load
  cases failures.latch with
  | some error => cases stores.latch.file <;> simp
  | none =>
      cases stores.latch.file with
      | absent => simp
      | garbled error => simp
      | holds payload =>
          cases payload with
          | obj fields =>
              simp only [true_and]
              split
              · simp
              · split <;> simp
          | _ => simp

@[simp] theorem disagreement_permits (what : String) (authoritative journal latch : SafetyState) :
    (disagreement what authoritative journal latch).permitsNewOrders = false := rfl

/-- **Orders are permitted only when both records are read and both have it run.** -/
theorem load_permits : (stores.load failures now).permitsNewOrders = true
    ↔ (failures.journal = none ∧ stores.journalRuns = true)
      ∧ failures.latch = none ∧ stores.latchRuns = true := by
  rw [← loadJournal_permits now, ← loadLatch_permits now]
  unfold load
  cases hj : (stores.loadJournal failures now).permitsNewOrders <;>
    cases hl : (stores.loadLatch failures now).permitsNewOrders <;>
    simp [hj, hl]

/-- A switch that starts from the stores lets orders through when the stores do. -/
theorem onStartup_isHalted (recorded : SafetyState) :
    (KillSwitch.onStartup recorded).isHalted = !recorded.permitsNewOrders := by
  unfold KillSwitch.onStartup KillSwitch.isHalted
  cases hp : recorded.permitsNewOrders with
  | true => simp
  | false =>
      simp only [Bool.false_eq_true, if_false]
      split <;> simp

end SafetyStores

/-! ## Halts and resets, one after another -/

/-- Which records an attempt reaches. -/
inductive Reached where
  | neither
  | journal
  | both
  deriving DecidableEq

/-- How far a save with this failure gets. -/
def SaveFailure.reached : Option SaveFailure → Reached
  | some (.journal _) => .neither
  | some (.latch _) | some .crash => .journal
  | none => .both

namespace SafetyEvent

def isAttempt : SafetyEvent → Bool
  | .trip .. | .reset .. => true
  | _ => false

def isReset : SafetyEvent → Bool
  | .reset .. => true
  | _ => false

/-- Which records the event reaches. A halt without a reason and a reset without an
operator or a note are refused before anything is written. -/
def reached : SafetyEvent → Reached
  | .trip _ halt failure =>
      if halt.reasonCodes = [] then .neither else SaveFailure.reached failure
  | .reset _ operator incidentNote _ failure =>
      if isBlank operator || isBlank incidentNote then .neither
      else SaveFailure.reached failure
  | _ => .neither

end SafetyEvent

/-- The last halt or reset attempted in a run, and the state it was attempted in. -/
def lastAttempt : SafetySystem → List SafetyEvent → Option (SafetySystem × SafetyEvent)
  | _, [] => none
  | s, e :: es =>
      match s.step e with
      | none => none
      | some s' =>
          match lastAttempt s' es with
          | some last => some last
          | none => if e.isAttempt then some (s, e) else none

section

variable {s s' : SafetySystem} {e : SafetyEvent} {es : List SafetyEvent}
  {stores stores' : SafetyStores} {outcome : SaveOutcome} {failure : Option SaveFailure}

/-- What the records say after a save, by how far it got. -/
theorem save_runs {state : SafetyState} (h : stores.save state failure = (stores', outcome)) :
    stores'.journalRuns
        = (if SaveFailure.reached failure = .neither then stores.journalRuns
            else state.permitsNewOrders)
      ∧ stores'.latchRuns
        = (if SaveFailure.reached failure = .both then state.permitsNewOrders
            else stores.latchRuns) := by
  unfold SafetyStores.save at h
  have hjournal : ∀ latch, SafetyStores.journalRuns ⟨stores.journal.save state, latch⟩
      = state.permitsNewOrders := by
    intro latch
    unfold SafetyStores.journalRuns
    rw [SafetyJournal.load_save]
  have hlatch : ∀ journal, SafetyStores.latchRuns ⟨journal, stores.latch.save state⟩
      = state.permitsNewOrders := by
    intro journal
    unfold SafetyStores.latchRuns
    rw [SafetyLatch.load_save]
  cases failure with
  | none =>
      cases h
      exact ⟨hjournal _, hlatch _⟩
  | some failure =>
      cases failure with
      | journal error => cases h; exact ⟨rfl, rfl⟩
      | latch error => cases h; exact ⟨hjournal _, rfl⟩
      | crash => cases h; exact ⟨hjournal _, rfl⟩

theorem trip_stores (k : KillSwitch) (stores : SafetyStores) (halt : HaltRecord)
    (failure : Option SaveFailure) : (k.trip stores halt failure).2.1
      = if halt.reasonCodes = [] then stores
        else (stores.save halt.toSafetyState failure).1 := by
  unfold KillSwitch.trip
  split
  · rfl
  · cases hsave : stores.save halt.toSafetyState failure with
    | mk stores' outcome => cases outcome <;> rfl

theorem reset_stores (k : KillSwitch) (stores : SafetyStores) (operator incidentNote : String)
    (now : UtcDatetime) (failure : Option SaveFailure) :
    (k.reset stores operator incidentNote now failure).2.1
      = if isBlank operator || isBlank incidentNote then stores
        else (stores.save (resetState operator incidentNote now) failure).1 := by
  unfold KillSwitch.reset
  cases isBlank operator with
  | true => rfl
  | false =>
      cases isBlank incidentNote with
      | true => rfl
      | false =>
          simp only [Bool.false_eq_true, Bool.or_self, if_false]
          split
          · rename_i heq
            rw [heq]
          · rename_i heq
            rw [heq]

/-- **What the records say after an attempt.** -/
theorem attempt_runs (he : e.isAttempt = true) (h : s.step e = some s') :
    s'.stores.journalRuns
        = (if e.reached = .neither then s.stores.journalRuns else e.isReset)
      ∧ s'.stores.latchRuns
        = (if e.reached = .both then e.isReset else s.stores.latchRuns) := by
  have hsaved : ∀ i (x : KillSwitch × SafetyStores × SaveOutcome),
      (s.saved i x).stores = x.2.1 := by
    rintro i ⟨k, stores, outcome⟩
    cases outcome <;> rfl
  cases e with
  | start i failures now => cases he
  | stop i => cases he
  | trip i halt failure =>
      obtain ⟨k, -, rfl⟩ := Option.map_eq_some_iff.mp h
      rw [hsaved, trip_stores]
      unfold SafetyEvent.reached
      by_cases hempty : halt.reasonCodes = []
      · simp [hempty]
      · simp only [hempty, if_false]
        exact save_runs rfl
  | reset i operator incidentNote now failure =>
      obtain ⟨k, -, rfl⟩ := Option.map_eq_some_iff.mp h
      rw [hsaved, reset_stores]
      unfold SafetyEvent.reached
      by_cases hblank : (isBlank operator || isBlank incidentNote) = true
      · simp [hblank]
      · simp only [hblank, Bool.false_eq_true, if_false]
        exact save_runs rfl

/-- Starting and stopping leaves the stores alone. -/
theorem step_stores (he : e.isAttempt = false) (h : s.step e = some s') :
    s'.stores = s.stores := by
  cases e with
  | start i failures now =>
      simp only [SafetySystem.step] at h
      split at h
      · cases h
      · cases h
        rfl
  | stop i => cases h; rfl
  | trip i halt failure => cases he
  | reset i operator incidentNote now failure => cases he

/-- **What the records say at the end of a run is what its last attempt left.** -/
theorem run_stores (h : s.run es = some s') :
    match lastAttempt s es with
    | none => s'.stores = s.stores
    | some (before, e) => e.isAttempt = true
        ∧ ∃ after, before.step e = some after ∧ s'.stores = after.stores := by
  induction es generalizing s with
  | nil =>
      cases h
      rfl
  | cons e es ih =>
      obtain ⟨s₁, hstep, hrun⟩ := Option.bind_eq_some_iff.mp h
      have hrest := ih hrun
      simp only [lastAttempt, hstep]
      cases hlast : lastAttempt s₁ es with
      | some last =>
          rw [hlast] at hrest
          exact hrest
      | none =>
          rw [hlast] at hrest
          dsimp only at hrest ⊢
          by_cases he : e.isAttempt = true
          · rw [if_pos he]
            exact ⟨he, s₁, hstep, hrest⟩
          · rw [if_neg he]
            exact hrest.trans (step_stores (by simpa using he) hstep)

/-- The records a run leaves have the system run because of its last attempt: a reset
that reached both, a reset that reached the journal beside a latch that already had it
run, or an attempt that reached neither of two records that already had it run. -/
def LeftRunning (s : SafetySystem) (es : List SafetyEvent) : Prop :=
  match lastAttempt s es with
  | none => s.stores.journalRuns = true ∧ s.stores.latchRuns = true
  | some (before, e) =>
      match e.reached with
      | .both => e.isReset = true
      | .journal => e.isReset = true ∧ before.stores.latchRuns = true
      | .neither => before.stores.journalRuns = true ∧ before.stores.latchRuns = true

/-- It is what the records of the last state say. -/
theorem leftRunning_iff (h : s.run es = some s') :
    LeftRunning s es ↔ s'.stores.journalRuns = true ∧ s'.stores.latchRuns = true := by
  have hstores := run_stores h
  unfold LeftRunning
  cases hlast : lastAttempt s es with
  | none =>
      rw [hlast] at hstores
      rw [show s'.stores = s.stores from hstores]
  | some last =>
      obtain ⟨before, e⟩ := last
      rw [hlast] at hstores
      obtain ⟨he, after, hstep, heq⟩ := hstores
      obtain ⟨hj, hl⟩ := attempt_runs he hstep
      rw [heq, hj, hl]
      dsimp only
      cases e.reached <;> simp

/--
**When a process that starts may trade.** After any run of processes that halt and reset,
with a store failing in any save, a starting process permits orders exactly when it can
read both records and the last attempt left them running.
-/
theorem onStartup_permits_iff (h : s.run es = some s') (failures : SafetyStores.LoadFailures)
    (now : UtcDatetime) :
    (KillSwitch.onStartup (s'.stores.load failures now)).isHalted = false
      ↔ (failures.journal = none ∧ failures.latch = none) ∧ LeftRunning s es := by
  rw [SafetyStores.onStartup_isHalted, Bool.not_eq_false', SafetyStores.load_permits,
    leftRunning_iff h]
  tauto

end

/-! ## Runs -/

namespace Sample

/-- Both records have the system run. -/
def runningStores : SafetyStores :=
  let state := resetState "ops" "initial state" 0
  { journal := SafetyJournal.save [] state
    latch := SafetyLatch.save ⟨"safety_state.json", fun _ => "", fun _ => "", .absent⟩ state }

/-- A halt of the given reasons. -/
def haltFor (reasonCodes : List ReasonCode) : HaltRecord :=
  ⟨100, reasonCodes, "risk_engine", none⟩

def readable : SafetyStores.LoadFailures := ⟨none, none⟩

def databaseDown : SaveFailure := .journal ⟨.database, "connection refused"⟩

/-- A process halts while the database is down, and the next one starts. -/
def haltedDuringOutage : List SafetyEvent :=
  [.start 0 readable 90, .trip 0 (haltFor [.maxDrawdown]) (some databaseDown), .stop 0]

/-- One halts, and an operator resets it. -/
def haltedAndReset : List SafetyEvent :=
  [.start 0 readable 90, .trip 0 (haltFor [.maxDrawdown]) none,
   .reset 0 "ops" "checked the feed" 200 none, .stop 0]

end Sample

/-- A halt, a reset and a restart. -/
theorem onStartup_permits_iff_sample :
    ∃ s', SafetySystem.run ⟨Sample.runningStores, fun _ => none⟩ Sample.haltedAndReset = some s'
      ∧ (KillSwitch.onStartup (s'.stores.load Sample.readable 300)).isHalted = false := by
  obtain ⟨s', hrun, hrecords⟩ : ∃ s', SafetySystem.run ⟨Sample.runningStores, fun _ => none⟩
      Sample.haltedAndReset = some s'
      ∧ s'.stores.journalRuns = true ∧ s'.stores.latchRuns = true :=
    ⟨_, rfl, by decide +kernel⟩
  have hleft := (leftRunning_iff hrun).mpr hrecords
  exact ⟨s', hrun, (onStartup_permits_iff hrun Sample.readable 300).mpr ⟨⟨rfl, rfl⟩, hleft⟩⟩

/-- **A halt during a database outage is forgotten.** It raises in the process that made
it, reaches neither record, and the process that starts when the database is back lets
orders through, though the last attempt was no reset that reached both records. -/
theorem halt_forgotten :
    ∃ s', SafetySystem.run ⟨Sample.runningStores, fun _ => none⟩ Sample.haltedDuringOutage
        = some s'
      ∧ (KillSwitch.onStartup (s'.stores.load Sample.readable 300)).isHalted = false
      ∧ ∀ before e, lastAttempt ⟨Sample.runningStores, fun _ => none⟩ Sample.haltedDuringOutage
          = some (before, e) → ¬ (e.isReset = true ∧ e.reached = .both) := by
  refine ⟨_, rfl, by decide +kernel, ?_⟩
  rintro before e ⟨⟩
  decide

end Crumblr
