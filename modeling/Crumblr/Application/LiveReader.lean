import Crumblr.Config
import Crumblr.Domain.TimeUtils
import Crumblr.MarketData.Pipeline
import Crumblr.Risk.SafetyStores

/-!
# The live reader

One process reads ticks and bars, for as long as it runs. A reader that was cut off connects again
and looks again at which account it is connected to, before it reads on: a terminal can have been
logged in elsewhere meanwhile. A mismatch stops it until an operator has acknowledged it.

What the terminal answers to one poll, and what the stores do, is given with the poll.
-/

namespace Crumblr

/-- The reader's own health. -/
inductive ReaderStatus where
  | healthy
  | stale
  | disconnected
  /-- Revalidation disagreed, or could not be established; only `acknowledge` leads out of it. -/
  | unhealthy
  deriving DecidableEq, Repr

structure ReaderHealth where
  status : ReaderStatus
  connected : Bool
  lastTickAtUtc : Option UtcDatetime := none
  lastBarAtUtc : Option UtcDatetime := none
  lastReconnectAtUtc : Option UtcDatetime := none
  reconnectCount : Nat := 0
  consecutiveFailures : Nat := 0
  specVersion : Option String := none
  specChanges : Nat := 0
  lastError : Option String := none
  detail : Option String := none
  heartbeatAtUtc : Option UtcDatetime := none
  heartbeatMaxAge : Option Timedelta := none
  brokerAccountRef : Option String := none
  connectedServer : Option String := none
  connectedCurrency : Option String := none
  connectedIsDemo : Option Bool := none
  connectedMaskedLogin : Option String := none

structure BrokerStateHealth where
  lastSnapshotAtUtc : Option UtcDatetime := none
  positionSetState : Option SnapshotCompleteness := none
  pendingOrderSetState : Option SnapshotCompleteness := none
  lastError : Option String := none

/-! ## The account guard -/

/-- The account number as it may appear in logs: its last three digits. -/
def maskLogin (login : Int) : String :=
  let digits := (toString login).toList
  if 3 < digits.length then "***" ++ String.ofList (digits.drop (digits.length - 3)) else "***"

/-- What an account has that the configuration does not expect. -/
def guardMismatches (guard : AccountGuardConfig) (state : AccountState) : List String :=
  (if guard.requireDemoAccount ∧ ¬ state.isDemo then ["account is not a demo account"] else [])
    ++ (if state.server ≠ guard.expectedServer then
        [s!"server '{state.server}' != expected '{guard.expectedServer}'"] else [])
    ++ (match guard.expectedLogin with
      | some login =>
          if state.login ≠ login then
            [s!"login {maskLogin state.login} != expected {maskLogin login}"] else []
      | none => [])
    ++ (match guard.expectedCurrency with
      | some currency =>
          if state.currency ≠ currency then
            [s!"currency '{state.currency}' != expected '{currency}'"] else []
      | none => [])
    ++ (match guard.expectedLeverage with
      | some leverage =>
          if state.leverage ≠ leverage then
            [s!"leverage {state.leverage} != expected {leverage}"] else []
      | none => [])

/-- Refuse an account that does not match the configuration. -/
def verifyAccount (guard : AccountGuardConfig) (state : AccountState) : Except PyError Unit :=
  match guardMismatches guard state with
  | [] => .ok ()
  | mismatches => .error ⟨.accountGuard, "; ".intercalate mismatches⟩

/-! ## The reader -/

/-- When an observation of the broker was made, and how whole it was. -/
structure CapturedBrokerState where
  observedAtUtc : UtcDatetime
  positionSetState : SnapshotCompleteness
  pendingOrderSetState : SnapshotCompleteness
  /-- The clock, once it is stored. -/
  storedAt : UtcDatetime

/-- What one poll meets, each answer for when it is asked for. -/
structure PollAnswers where
  /-- The clock as a reconnect starts, as a read starts, and as the poll ends. -/
  reconnectAt : UtcDatetime
  readAt : UtcDatetime
  heartbeatAt : UtcDatetime
  connect : Except PyError Unit
  /-- The account the terminal is connected to. -/
  account : Except PyError AccountState
  instrument : Except PyError InstrumentSpec
  /-- The margin mode of another read of the account, which may lack it. -/
  marginMode : Except PyError (Option Int)
  recordSpec : Except PyError Unit
  reconnectCapture : Except PyError CapturedBrokerState
  ticks : Except PyError (List MarketTick)
  recordTicks : Except PyError Unit
  bars : Except PyError (List MarketBar)
  recordBars : Except PyError Unit
  readCapture : Except PyError CapturedBrokerState

structure LiveReader where
  guard : AccountGuardConfig
  brokerAccountRef : Option String
  pollInterval : Timedelta
  staleAfter : Timedelta
  brokerStateInterval : Timedelta
  hasBrokerStateStore : Bool
  hasInstrumentSpecStore : Bool
  /-- Whether there is a gateway to read through. -/
  gateway : Bool
  spec : Option InstrumentSpec
  expectedMarginMode : Option Int
  lastTickAt : Option UtcDatetime
  lastBrokerStateAt : Option UtcDatetime
  health : ReaderHealth
  brokerStateHealth : BrokerStateHealth

/-- What a method comes to: what it returns or raises, and the reader it leaves. -/
abbrev Polled (α : Type) : Type := Except PyError α × LiveReader

namespace LiveReader

def heartbeatGraceMultiplier : Int := 3

/-- A reader that has connected to nothing yet. -/
def create (guard : AccountGuardConfig) (brokerAccountRef : Option String)
    (pollInterval staleAfter brokerStateInterval : Timedelta)
    (hasBrokerStateStore hasInstrumentSpecStore : Bool) : LiveReader where
  guard
  brokerAccountRef
  pollInterval
  staleAfter
  brokerStateInterval
  hasBrokerStateStore
  hasInstrumentSpecStore
  gateway := false
  spec := none
  expectedMarginMode := none
  lastTickAt := none
  lastBrokerStateAt := none
  health := { status := .disconnected, connected := false, brokerAccountRef }
  brokerStateHealth := {}

variable (r : LiveReader)

/-- Capture and store one observation, best-effort. -/
def captureBrokerState (capture : Except PyError CapturedBrokerState) : Polled Unit :=
  if !r.hasBrokerStateStore then (.ok (), r)
  else
    match capture with
    | .error error =>
        if error.kind = .mt5CallFailed ∨ error.kind = .mt5Unavailable ∨ error.kind = .accountGuard then
          (.ok (), { r with
            brokerStateHealth := { r.brokerStateHealth with lastError := some error.message } })
        else (.error error, r)
    | .ok captured =>
        (.ok (), { r with
          lastBrokerStateAt := some captured.storedAt
          brokerStateHealth := {
            lastSnapshotAtUtc := some captured.observedAtUtc
            positionSetState := some captured.positionSetState
            pendingOrderSetState := some captured.pendingOrderSetState } })

/-- `account_info().margin_mode`; nothing where the account cannot be read. -/
def readMarginMode (answers : PollAnswers) : Except PyError (Option Int) :=
  match answers.marginMode with
  | .error error => if error.kind = .mt5CallFailed then .ok none else .error error
  | .ok mode => .ok mode

/-- Connect, and read the account and the instrument. -/
def connect (guard : AccountGuardConfig) (answers : PollAnswers) :
    Except PyError (AccountState × InstrumentSpec) := do
  answers.connect
  let account ← answers.account
  verifyAccount guard account
  let spec ← answers.instrument
  pure (account, spec)

/-- What a failed attempt to connect leaves. -/
def connectFailed (now : UtcDatetime) (error : PyError) : Polled ReaderHealth :=
  if error.kind = .mt5CallFailed ∨ error.kind = .mt5Unavailable then
    let health := { r.health with
      status := .disconnected
      connected := false
      consecutiveFailures := r.health.consecutiveFailures + 1
      lastReconnectAtUtc := some now
      lastError := some error.message }
    (.ok health, { r with health })
  else if error.kind = .accountGuard then
    let health := { r.health with
      status := .unhealthy
      connected := false
      lastReconnectAtUtc := some now
      lastError := some error.message
      detail := some s!"account guard failed on reconnect: {error.message}"
      connectedServer := none
      connectedCurrency := none
      connectedIsDemo := none
      connectedMaskedLogin := none }
    (.ok health, { r with gateway := false, health })
  else if error.kind = .symbolNotFound then
    let health := { r.health with
      status := .unhealthy
      connected := false
      lastReconnectAtUtc := some now
      lastError := some error.message
      detail := some s!"instrument could not be established on reconnect: {error.message}" }
    (.ok health, { r with gateway := false, health })
  else (.error error, r)

/-- The margin mode is another than the one first established. -/
def marginModeChanged (now : UtcDatetime) (expected observed : Int) : Polled ReaderHealth :=
  let health := { r.health with
    status := .unhealthy
    connected := false
    lastReconnectAtUtc := some now
    detail := some (s!"account margin mode changed from {expected} to {observed} "
      ++ "— hedging/netting must not change under this reader") }
  (.ok health, { r with gateway := false, health })

variable [Externals]

/-- The reader is connected. -/
def connected (now : UtcDatetime) (account : AccountState) (spec : InstrumentSpec) : LiveReader :=
  let previousSpecVersion := r.spec.map (·.specVersion)
  let specChanged := previousSpecVersion.any fun v => decide (spec.specVersion ≠ v)
  { r with
    gateway := true
    spec := some spec
    health := {
      status := .healthy
      connected := true
      lastTickAtUtc := r.health.lastTickAtUtc
      lastBarAtUtc := r.health.lastBarAtUtc
      lastReconnectAtUtc := some now
      reconnectCount := r.health.reconnectCount + 1
      consecutiveFailures := 0
      specVersion := some spec.specVersion
      specChanges := r.health.specChanges + (if specChanged then 1 else 0)
      detail := if specChanged then
          some ("symbol spec changed on reconnect: " ++ previousSpecVersion.getD "None" ++ " -> "
            ++ spec.specVersion)
        else none
      brokerAccountRef := r.brokerAccountRef
      connectedServer := some account.server
      connectedCurrency := some account.currency
      connectedIsDemo := some account.isDemo
      connectedMaskedLogin := some (maskLogin account.login) } }

/-- The specification is stored, where there is a store; a database that fails is no obstacle. -/
def specRecorded (answers : PollAnswers) : Except PyError Unit :=
  if !r.hasInstrumentSpecStore then .ok ()
  else
    match answers.recordSpec with
    | .error error => if error.kind = .database then .ok () else .error error
    | .ok () => .ok ()

/-- What is left to do once the account is the expected one. -/
def finishReconnect (answers : PollAnswers) (account : AccountState) (spec : InstrumentSpec) :
    Polled ReaderHealth :=
  match r.specRecorded answers with
  | .error error => (.error error, { r with gateway := true, spec := some spec })
  | .ok () =>
      let r := r.connected answers.reconnectAt account spec
      match r.captureBrokerState answers.reconnectCapture with
      | (.error error, r) => (.error error, r)
      | (.ok (), r) => (.ok r.health, r)

/-- Connect again, and look again at everything. -/
def reconnect (answers : PollAnswers) : Polled ReaderHealth :=
  match connect r.guard answers with
  | .error error => r.connectFailed answers.reconnectAt error
  | .ok (account, spec) =>
      match readMarginMode answers with
      | .error error => (.error error, r)
      | .ok marginMode =>
          match r.expectedMarginMode, marginMode with
          | none, _ =>
              { r with expectedMarginMode := marginMode }.finishReconnect answers account spec
          | some expected, some observed =>
              if observed ≠ expected then r.marginModeChanged answers.reconnectAt expected observed
              else r.finishReconnect answers account spec
          | some _, none => r.finishReconnect answers account spec

/-- The later of two instants, one of which there may not be yet. -/
def laterTick (last : Option UtcDatetime) (ticks : List MarketTick) : Option UtcDatetime :=
  ticks.foldl (fun newest tick => some (match newest with
    | none => tick.eventTimeUtc
    | some t => max t tick.eventTimeUtc)) last

/-- Read what is new, and store it. -/
def readAndPersist (answers : PollAnswers) : Polled Unit :=
  let now := answers.readAt
  match answers.ticks with
  | .error error => (.error error, r)
  | .ok ticks =>
      match if ticks.isEmpty then .ok () else answers.recordTicks with
      | .error error => (.error error, r)
      | .ok () =>
          let r := { r with lastTickAt := laterTick r.lastTickAt ticks }
          match answers.bars with
          | .error error => (.error error, r)
          | .ok bars =>
              match if bars.isEmpty then .ok () else answers.recordBars with
              | .error error => (.error error, r)
              | .ok () =>
                  let lastBarAt := if bars.isEmpty then r.health.lastBarAtUtc
                    else (bars.map (·.bar.openTimeUtc)).max?
                  let reference := (r.lastTickAt <|> lastBarAt) <|> r.health.lastReconnectAtUtc
                  let stale := reference.any fun t => decide (millisecondsOf r.staleAfter < ageMs t now)
                  let r := { r with health := { r.health with
                    status := if stale then .stale else .healthy
                    connected := true
                    lastTickAtUtc := r.lastTickAt
                    lastBarAtUtc := lastBarAt
                    consecutiveFailures := 0
                    lastError := none } }
                  if r.lastBrokerStateAt.all fun t =>
                      decide (millisecondsOf r.brokerStateInterval ≤ ageMs t now) then
                    r.captureBrokerState answers.readCapture
                  else (.ok (), r)

/-- What a read that raised leaves. -/
def readFailed (error : PyError) : Polled ReaderHealth :=
  if error.kind = .mt5CallFailed ∨ error.kind = .mt5Unavailable then
    let health := { r.health with
      status := .disconnected
      connected := false
      consecutiveFailures := r.health.consecutiveFailures + 1
      lastError := some error.message }
    (.ok health, { r with gateway := false, health })
  else if error.kind = .clockOffsetUnavailable then
    -- The terminal is still connected, so the gateway is kept.
    let health := { r.health with
      status := .disconnected
      connected := false
      consecutiveFailures := r.health.consecutiveFailures + 1
      lastError := some error.message
      detail := some "broker clock offset unknown: reference tick untrustworthy" }
    (.ok health, { r with health })
  else if error.kind = .journalIntegrity then
    let health := { r.health with
      status := .unhealthy
      lastError := some error.message
      detail := some s!"data conflict, not a connection problem: {error.message}" }
    (.ok health, { r with health })
  else (.error error, r)

/-- The read of a poll. -/
def read (answers : PollAnswers) : Polled ReaderHealth :=
  match r.readAndPersist answers with
  | (.ok (), r) => (.ok r.health, r)
  | (.error error, r) => r.readFailed error

/-- Ensure a connection, then read. -/
def pollOnceInner (answers : PollAnswers) : Polled ReaderHealth :=
  if r.health.status = .unhealthy then (.ok r.health, r)
  else if r.gateway then r.read answers
  else
    match r.reconnect answers with
    | (.error error, r) => (.error error, r)
    | (.ok health, r) => if health.status ≠ .healthy then (.ok health, r) else r.read answers

/-- One unit of work, stamped with when it ended. -/
def pollOnce (answers : PollAnswers) : Polled ReaderHealth :=
  match r.pollOnceInner answers with
  | (.error error, r) => (.error error, r)
  | (.ok health, r) =>
      let health := { health with
        heartbeatAtUtc := some answers.heartbeatAt
        heartbeatMaxAge := some (max r.pollInterval r.staleAfter * heartbeatGraceMultiplier) }
      (.ok health, { r with health })

omit [Externals] in
/-- Clear a sticky `unhealthy`: a human has seen it. -/
def acknowledge (operator note : String) : Polled Unit :=
  if isBlank operator then
    (.error ⟨.value, "acknowledging a data-service halt requires an identified operator"⟩, r)
  else if isBlank note then
    (.error ⟨.value, "acknowledging a data-service halt requires a note"⟩, r)
  else if r.health.status ≠ .unhealthy then (.ok (), r)
  else
    (.ok (), { r with
      gateway := false
      health := { r.health with
        status := .disconnected
        connected := false
        detail := some s!"acknowledged by {operator}: {note}" } })

end LiveReader

end Crumblr
