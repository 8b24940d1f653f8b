import Crumblr.Risk.KillSwitch
import Mathlib.Logic.Function.Basic

/-!
# Where the safety state is kept

A journal in the database, and a latch file that is there when the database is not.
Every halt and every reset is written to both, the journal first. Reading never raises:
what cannot be read is unknown, and orders are permitted only when both records say so.
-/

namespace Crumblr

def safetySchemaVersion : Int := 1

/-! ## The journal -/

/-- A row of the safety-state history. -/
structure SafetyStateEvent where
  state : String
  occurredAtUtc : UtcDatetime
  reasonCodes : List String
  trippedBy : Option String
  detail : Option String
  schemaVersion : Int

/-- The history, oldest row first. -/
abbrev SafetyJournal := List SafetyStateEvent

/-- What an enumeration says to a text that is none of its values. -/
def notValid (value enum : String) : String := s!"'{value}' is not a valid {enum}"

/-- The reasons some values stand for, or the complaint about the first that is none. -/
def reasonsOf (values : List String) : Except String (List ReasonCode) :=
  values.mapM fun value =>
    match ReasonCode.ofValue? value with
    | some code => .ok code
    | none => .error (notValid value "ReasonCode")

namespace SafetyJournal

/-- The row the journal goes by. -/
def parse (row : SafetyStateEvent) : Except String SafetyState := do
  let state ←
    match KillSwitchState.ofValue? row.state with
    | some state => .ok state
    | none => .error (notValid row.state "KillSwitchState")
  let reasonCodes ← reasonsOf row.reasonCodes
  pure { state, reasonCodes, recordedAtUtc := row.occurredAtUtc, trippedBy := row.trippedBy,
         detail := row.detail }

def load (journal : SafetyJournal) (failure : Option PyError) (now : UtcDatetime) :
    SafetyState :=
  match failure with
  | some error => unknownState s!"safety-state journal unreachable: {error.message}" now
  | none =>
      match journal.getLast? with
      | none => unknownState "no safety state recorded in the journal" now
      | some row =>
          if row.schemaVersion ≠ safetySchemaVersion then
            unknownState (s!"journal safety-state schema {row.schemaVersion} "
              ++ s!"is not the expected {safetySchemaVersion}") now
          else
            match parse row with
            | .ok state => state
            | .error why => unknownState s!"journal safety-state row is malformed: {why}" now

/-- Append a state change. -/
def save (journal : SafetyJournal) (state : SafetyState) : SafetyJournal :=
  journal ++ [{
    state := state.state.value
    occurredAtUtc := state.recordedAtUtc
    reasonCodes := state.reasonCodes.map ReasonCode.value
    trippedBy := state.trippedBy
    detail := state.detail
    schemaVersion := safetySchemaVersion }]

end SafetyJournal

/-! ## The latch -/

/-- What stands in the latch file; a time stands for its ISO text. -/
inductive LatchFile where
  | absent
  /-- It is not JSON. -/
  | garbled (error : String)
  | holds (payload : Json)

/-- The file, with Python's words for a value and for what is wrong with a payload. -/
structure SafetyLatch where
  path : String
  repr : Json → String
  complaint : Json → String
  file : LatchFile

def SafetyState.toPayload (s : SafetyState) : Json :=
  .obj [("schema_version", .int safetySchemaVersion),
    ("state", .str s.state.value),
    ("reason_codes", .list (s.reasonCodes.map fun c => .str c.value)),
    ("recorded_at_utc", .time s.recordedAtUtc),
    ("tripped_by", .opt .str s.trippedBy),
    ("detail", .opt .str s.detail)]

/-- What iterating over a value yields. -/
def Json.iterate : Json → Option (List Json)
  | .list items => some items
  | .str s => some (s.toList.map fun c => .str c.toString)
  | .obj fields => some (fields.map fun f => .str f.1)
  | _ => none

/-- Equal to one, as Python compares: a true and a float of one are. -/
def Json.isOne : Json → Bool
  | .int n => n = 1
  | .bool b => b
  | .float x => x.repr = "1.0"
  | _ => false

/-- The text a value is, if it is one. -/
def Json.text? : Json → Option String
  | .str s => some s
  | _ => none

namespace SafetyLatch

/-- The state a payload of the expected schema describes. -/
def parse (payload : Json) : Option SafetyState := do
  let state ← ((payload.get? "state").bind Json.text?).bind KillSwitchState.ofValue?
  let codes ← (payload.get? "reason_codes").bind Json.iterate
  let reasonCodes ← codes.mapM fun code => code.text?.bind ReasonCode.ofValue?
  let recordedAtUtc ←
    match payload.get? "recorded_at_utc" with
    | some (.time t) => some t
    | _ => none
  pure { state, reasonCodes, recordedAtUtc
         trippedBy := (payload.get? "tripped_by").bind Json.text?
         detail := (payload.get? "detail").bind Json.text? }

def load (latch : SafetyLatch) (failure : Option String) (now : UtcDatetime) : SafetyState :=
  match latch.file, failure with
  | .absent, _ => unknownState s!"no safety state recorded at {latch.path}" now
  | _, some error => unknownState s!"safety state at {latch.path} is unreadable: {error}" now
  | .garbled error, none =>
      unknownState s!"safety state at {latch.path} is unreadable: {error}" now
  | .holds (.obj fields), none =>
      let schema := ((Json.obj fields).get? "schema_version").getD .null
      if !schema.isOne then
        unknownState (s!"safety state schema {latch.repr schema} "
          ++ s!"is not the expected {safetySchemaVersion}") now
      else
        match parse (.obj fields) with
        | some state => state
        | none =>
            unknownState (s!"safety state at {latch.path} is malformed: "
              ++ latch.complaint (.obj fields)) now
  | .holds _, none => unknownState s!"safety state at {latch.path} is not an object" now

/-- Replace the file. -/
def save (latch : SafetyLatch) (state : SafetyState) : SafetyLatch :=
  { latch with file := .holds state.toPayload }

end SafetyLatch

/-! ## The two together -/

structure SafetyStores where
  journal : SafetyJournal
  latch : SafetyLatch

/-- What can go wrong in one save: one store fails, or the process dies between the two. -/
inductive SaveFailure where
  | journal (error : PyError)
  | latch (error : PyError)
  | crash

/-- How a save ends for the process that makes it. -/
inductive SaveOutcome where
  | done
  | raised (error : PyError)
  | died

namespace SafetyStores

/-- What can be wrong with the reads of one load. -/
structure LoadFailures where
  journal : Option PyError
  latch : Option String

def loadJournal (stores : SafetyStores) (failures : LoadFailures) (now : UtcDatetime) :
    SafetyState := stores.journal.load failures.journal now

def loadLatch (stores : SafetyStores) (failures : LoadFailures) (now : UtcDatetime) :
    SafetyState := stores.latch.load failures.latch now

/-- Two records that disagree. -/
def disagreement (what : String) (authoritative journal latch : SafetyState) : SafetyState where
  state := .unknown
  reasonCodes := [.safetyStateUnknown]
  recordedAtUtc := authoritative.recordedAtUtc
  trippedBy := some "safety_state_reconciliation"
  detail := some (s!"{what}; reconcile before enabling orders (journal: "
    ++ ((journal.detail.filter (· ≠ "")).getD journal.state.value) ++ "; latch: "
    ++ ((latch.detail.filter (· ≠ "")).getD latch.state.value) ++ ")")

/-- Both records read together; only two that permit orders permit them. -/
def load (stores : SafetyStores) (failures : LoadFailures) (now : UtcDatetime) : SafetyState :=
  let journal := stores.loadJournal failures now
  let latch := stores.loadLatch failures now
  if journal.permitsNewOrders && latch.permitsNewOrders then journal
  else if !journal.permitsNewOrders && !latch.permitsNewOrders then journal
  else if !journal.permitsNewOrders then
    disagreement "journal halted, latch running" journal journal latch
  else disagreement "latch halted, journal running" latch journal latch

/-- The journal first, the latch second. -/
def save (stores : SafetyStores) (state : SafetyState) (failure : Option SaveFailure) :
    SafetyStores × SaveOutcome :=
  match failure with
  | some (.journal error) => (stores, .raised error)
  | some (.latch error) => ({ stores with journal := stores.journal.save state }, .raised error)
  | some .crash => ({ stores with journal := stores.journal.save state }, .died)
  | none =>
      ({ journal := stores.journal.save state, latch := stores.latch.save state }, .done)

end SafetyStores

/-! ## The switch and its stores -/

/-- A text of nothing but what Python takes for whitespace. -/
def isBlank (s : String) : Bool :=
  s.toList.all fun c => decide (c.toNat ∈ [9, 10, 11, 12, 13, 28, 29, 30, 31, 32, 133, 160, 5760, 8192, 8193,
    8194, 8195, 8196, 8197, 8198, 8199, 8200, 8201, 8202, 8232, 8233, 8239, 8287, 12288])

namespace KillSwitch

variable (self : KillSwitch) (stores : SafetyStores)

/-- Halt: recorded first, and taking effect only when the record was written. -/
def trip (halt : HaltRecord) (failure : Option SaveFailure) :
    KillSwitch × SafetyStores × SaveOutcome :=
  if halt.reasonCodes = [] then
    (self, stores, .raised ⟨.value, "a halt must record why it happened"⟩)
  else
    match stores.save halt.toSafetyState failure with
    | (stores', .done) => (self.tripped halt, stores', .done)
    | (stores', outcome) => (self, stores', outcome)

/-- Clear the halt, for an operator who says who they are and why. -/
def reset (operator incidentNote : String) (now : UtcDatetime) (failure : Option SaveFailure) :
    KillSwitch × SafetyStores × SaveOutcome :=
  if isBlank operator then
    (self, stores, .raised ⟨.value, "a kill-switch reset requires an identified operator"⟩)
  else if isBlank incidentNote then
    (self, stores, .raised ⟨.value, "a kill-switch reset requires an incident note"⟩)
  else
    match stores.save (resetState operator incidentNote now) failure with
    | (stores', .done) => ({ self with state := .running }, stores', .done)
    | (stores', outcome) => (self, stores', outcome)

end KillSwitch

/-! ## Processes -/

/-- The stores, and the switch of every process that runs. -/
structure SafetySystem where
  stores : SafetyStores
  processes : Nat → Option KillSwitch

inductive SafetyEvent where
  /-- A process starts, and reads the stores. -/
  | start (i : Nat) (failures : SafetyStores.LoadFailures) (now : UtcDatetime)
  /-- A process ends, or dies. -/
  | stop (i : Nat)
  | trip (i : Nat) (halt : HaltRecord) (failure : Option SaveFailure)
  | reset (i : Nat) (operator incidentNote : String) (now : UtcDatetime)
      (failure : Option SaveFailure)

namespace SafetySystem

/-- What is left of a process and the stores after it saved. -/
def saved (s : SafetySystem) (i : Nat) : KillSwitch × SafetyStores × SaveOutcome → SafetySystem
  | (_, stores, .died) => ⟨stores, Function.update s.processes i none⟩
  | (k, stores, _) => ⟨stores, Function.update s.processes i (some k)⟩

/-- One event, when it is possible. -/
def step (s : SafetySystem) : SafetyEvent → Option SafetySystem
  | .start i failures now =>
      match s.processes i with
      | some _ => none
      | none =>
          let switch := KillSwitch.onStartup (s.stores.load failures now)
          some { s with processes := Function.update s.processes i (some switch) }
  | .stop i => some { s with processes := Function.update s.processes i none }
  | .trip i halt failure => (s.processes i).map fun k => s.saved i (k.trip s.stores halt failure)
  | .reset i operator incidentNote now failure =>
      (s.processes i).map fun k =>
        s.saved i (k.reset s.stores operator incidentNote now failure)

/-- A sequence of events. -/
def run (s : SafetySystem) : List SafetyEvent → Option SafetySystem
  | [] => some s
  | e :: es => (s.step e).bind fun s' => run s' es

end SafetySystem

end Crumblr
