import Crumblr.Lib.Decimal

/-!
# Values, errors and what the platform gets from outside

The types the contracts are built from: identifiers, instants, JSON payloads,
raised errors; and, gathered in one class, the functions whose code is not the
platform's own (the SHA-256 digest, version-5 UUIDs, the New York time zone).
-/

namespace Crumblr

/-- A UUID, by its text. -/
structure Uuid where
  text : String
  deriving DecidableEq, Repr

/-- An instant, in microseconds since 1970-01-01T00:00:00Z. -/
abbrev UtcDatetime := Int

/-- A span of time, in microseconds. -/
abbrev Timedelta := Int

/-- A calendar date, in days since 1970-01-01. -/
abbrev Date := Int

def seconds (n : Int) : Timedelta := n * 1000000

def minutes (n : Int) : Timedelta := seconds (60 * n)

def hours (n : Int) : Timedelta := minutes (60 * n)

def days (n : Int) : Timedelta := hours (24 * n)

/-- The exception classes that are told apart anywhere. -/
inductive ErrorKind where
  /-- An MT5 call reported failure. -/
  | mt5CallFailed
  /-- The MT5 package cannot be imported. -/
  | mt5Unavailable
  /-- The connected account is not the configured one. -/
  | accountGuard
  | symbolNotFound
  | clockOffsetUnavailable
  /-- Stored market data contradicts what the broker sends now. -/
  | journalIntegrity
  | executionRequestConflict
  | executionEventConflict
  | flattenRequestConflict
  | flattenEventConflict
  | unknownAgent
  | agentNotActive
  | authentication
  | impersonation
  | assignmentConflict
  | contextConflict
  | unknownFeatureSnapshot
  | decisionConflict
  | eventConflict
  /-- A key of the paper journal stands for other content. -/
  | journalConflict
  /-- The paper journal is not a chain. -/
  | journalCorruption
  /-- A durable record of a closed trade is missing. -/
  | evidenceIncomplete
  /-- A contract refused the values it was given. -/
  | validation
  | assertion
  | value
  | type
  /-- A key or an index is not there. -/
  | lookup
  /-- A decimal does not fit the working precision. -/
  | invalidOperation
  /-- A float is no integer. -/
  | overflow
  | unicodeDecode
  | unicodeEncode
  | jsonDecode
  | recursion
  /-- A file or the terminal cannot be reached. -/
  | os
  /-- A database statement failed, or violated a foreign key. -/
  | database
  /-- Anything else a port can raise. -/
  | other
  deriving DecidableEq, Repr

/-- A raised exception, with the text `str` gives of it. -/
structure PyError where
  kind : ErrorKind
  message : String
  deriving DecidableEq, Repr

/-- What returns has returned at every step. -/
theorem bind_ok {α β : Type} {x : Except PyError α} {f : α → Except PyError β} {b : β}
    (h : x >>= f = .ok b) : ∃ a, x = .ok a ∧ f a = .ok b := by
  cases x with
  | error e => cases h
  | ok a => exact ⟨a, rfl, h⟩

/-- What raises has raised at some step. -/
theorem bind_error {α β : Type} {x : Except PyError α} {f : α → Except PyError β} {exc : PyError}
    (h : x >>= f = .error exc) : x = .error exc ∨ ∃ a, x = .ok a ∧ f a = .error exc := by
  cases x with
  | error e =>
      cases h
      exact .inl rfl
  | ok a => exact .inr ⟨a, rfl, h⟩

/-- Raise what fails here, if anything does. -/
def raising (failure : Option PyError) : Except PyError Unit :=
  match failure with
  | some error => .error error
  | none => .ok ()

theorem raising_ok {failure : Option PyError} {u : Unit} (h : raising failure = .ok u) :
    failure = none := by
  cases failure with
  | none => rfl
  | some error => cases h

/-- `assert value is not None`, keeping the value. -/
def assertSome {α : Type} : Option α → Except PyError α
  | some a => .ok a
  | none => .error ⟨.assertion, ""⟩

theorem assertSome_ok {α : Type} {x : Option α} {a : α} (h : assertSome x = .ok a) :
    x = some a := by
  cases x with
  | none => cases h
  | some b => rw [Except.ok.inj h]

/-- A binary float, by its shortest decimal text. -/
structure PyFloat where
  repr : String
  deriving DecidableEq, Repr

/--
A JSON value as a payload column holds it. A leaf with the text of a `Decimal`
or of an instant keeps the value the text stands for: both texts are exact.
-/
inductive Json where
  | null
  | bool (b : Bool)
  | int (n : Int)
  | float (x : PyFloat)
  | str (s : String)
  | decimal (d : Decimal)
  | time (t : UtcDatetime)
  | list (items : List Json)
  | obj (fields : List (String × Json))

namespace Json

/-- Dictionary lookup; `none` for a missing key, and for what is no dictionary. -/
def get? (key : String) : Json → Option Json
  | .obj fields => (fields.find? (fun f => f.1 == key)).map Prod.snd
  | _ => none

/-- A value that may be absent. -/
def opt {α : Type} (f : α → Json) : Option α → Json
  | none => .null
  | some a => f a

def uuid (u : Uuid) : Json := .str u.text

def asInt? : Json → Option Int
  | .int n => some n
  | _ => none

def asBool? : Json → Option Bool
  | .bool b => some b
  | _ => none

def asStr? : Json → Option String
  | .str s => some s
  | _ => none

def asUuid? (j : Json) : Option Uuid := j.asStr?.map Uuid.mk

def asTime? : Json → Option UtcDatetime
  | .time t => some t
  | _ => none

def asDecimal? : Json → Option Decimal
  | .decimal d => some d
  | _ => none

def asList? : Json → Option (List Json)
  | .list items => some items
  | _ => none

/-- A field that may be null. -/
def asOpt? {α : Type} (f : Json → Option α) : Json → Option (Option α)
  | .null => some none
  | j => (f j).map some

@[simp] theorem asUuid?_uuid (u : Uuid) : (uuid u).asUuid? = some u := rfl

@[simp] theorem get?_cons (k key : String) (v : Json) (fields : List (String × Json)) :
    (obj ((k, v) :: fields)).get? key = if k = key then some v else (obj fields).get? key := by
  by_cases h : k = key <;> simp [get?, h]

@[simp] theorem get?_nil (key : String) : (obj []).get? key = none := rfl

/-- Python's truth value. -/
def truthy : Json → Bool
  | .null => false
  | .bool b => b
  | .int n => n ≠ 0
  | .float x => x.repr ≠ "0.0"
  | .str s => s ≠ ""
  | .decimal _ => true
  | .time _ => true
  | .list items => !items.isEmpty
  | .obj fields => !fields.isEmpty

/-- The text of a scalar in a message. -/
def text : Json → String
  | .null => "None"
  | .bool b => if b then "True" else "False"
  | .int n => toString n
  | .float x => x.repr
  | .str s => s
  | .decimal d => d.text
  | _ => ""

/-- `int(value)`; what no integer can be read from is refused. -/
def toInt : Json → Except PyError Int
  | .int n => .ok n
  | .bool b => .ok (if b then 1 else 0)
  | .str _ => .error ⟨.value, "invalid literal for int()"⟩
  | _ => .error ⟨.type, "int() argument must be a string or a real number"⟩

/-- `payload.get(key, [])`, every item read as an integer. -/
def intsAt (payload : Json) (key : String) : Except PyError (List Int) :=
  match payload.get? key with
  | none => .ok []
  | some (.list items) => items.mapM toInt
  | some _ => .error ⟨.type, "object is not iterable"⟩

mutual

/-- Whether a float occurs anywhere; such a value has no canonical encoding. -/
def hasFloat : Json → Bool
  | .float _ => true
  | .list items => listHasFloat items
  | .obj fields => fieldsHaveFloat fields
  | _ => false

def listHasFloat : List Json → Bool
  | [] => false
  | x :: xs => hasFloat x || listHasFloat xs

def fieldsHaveFloat : List (String × Json) → Bool
  | [] => false
  | (_, x) :: xs => hasFloat x || fieldsHaveFloat xs

end

end Json

/-- The functions the platform takes from its libraries. -/
class Externals where
  /-- The hex SHA-256 digest of a value's canonical encoding. -/
  sha256Hex : Json → String
  /-- The version-5 UUID of a name in the URL namespace. -/
  uuid5 : String → Uuid
  /-- The version-5 UUID of a name in the DNS namespace. -/
  uuid5Dns : String → Uuid
  /-- The hex SHA-256 digest of a salt's bytes and then a secret's; the salt is in hex. -/
  saltedDigest : String → String → String
  /-- How far New York's clocks are from UTC at an instant. -/
  newYorkOffset : UtcDatetime → Timedelta
  /-- The instant at which New York's clocks show a given wall time. -/
  newYorkToUtc : Int → UtcDatetime

/-- The digest of a payload in which no float can occur. -/
def digestOf [Externals] (payload : Json) : String := Externals.sha256Hex payload

/-- The digest of a payload; a float anywhere in it is refused. -/
def fingerprint [Externals] (payload : Json) : Except PyError String :=
  if payload.hasFloat then
    .error ⟨.type, "float cannot be fingerprinted deterministically; use Decimal"⟩
  else .ok (digestOf payload)

/-- The number eight hex digits spell. -/
def hexValue (s : String) : Nat :=
  s.foldl (fun acc c =>
    16 * acc + (if c.isDigit then c.toNat - '0'.toNat else c.toNat - 'a'.toNat + 10)) 0

/-- The MT5 `magic` an order request is recognised by at the broker. -/
def mt5MagicNumber [Externals] (orderRequestId : Uuid) : Int :=
  hexValue ((digestOf (.obj [("order_request_id", .uuid orderRequestId)])).take 8).toString
    % 2147483648

/-- Two decimal digits, padded on the left. -/
def pad (width : Nat) (n : Int) : String :=
  let s := toString n
  String.join (List.replicate (width - s.length) "0") ++ s

/-- The ISO text of a date, by the proleptic Gregorian calendar. -/
def isoDate (d : Date) : String :=
  let z := d + 719468
  let era := z / 146097
  let doe := z - era * 146097
  let yoe := (doe - doe / 1460 + doe / 36524 - doe / 146096) / 365
  let doy := doe - (365 * yoe + yoe / 4 - yoe / 100)
  let mp := (5 * doy + 2) / 153
  let day := doy - (153 * mp + 2) / 5 + 1
  let month := if mp < 10 then mp + 3 else mp - 9
  let year := yoe + era * 400 + (if month ≤ 2 then 1 else 0)
  pad 4 year ++ "-" ++ pad 2 month ++ "-" ++ pad 2 day

/-- The ISO text of an instant. -/
def isoTime (t : UtcDatetime) : String :=
  let inDay := t % days 1
  let fraction := inDay % seconds 1
  isoDate (t / days 1) ++ "T" ++ pad 2 (inDay / hours 1) ++ ":" ++ pad 2 (inDay / minutes 1 % 60)
    ++ ":" ++ pad 2 (inDay / seconds 1 % 60)
    ++ (if fraction = 0 then "" else "." ++ pad 6 fraction) ++ "+00:00"

example : isoDate 20703 = "2026-09-07" := by decide +kernel

/-- `str` of a span of time; the days carry the sign. -/
def timedeltaText (span : Timedelta) : String :=
  let whole := span / days 1
  let inDay := span % days 1
  let fraction := inDay % seconds 1
  (if whole = 0 then "" else
    toString whole ++ (if whole.natAbs = 1 then " day, " else " days, "))
    ++ toString (inDay / hours 1) ++ ":" ++ pad 2 (inDay / minutes 1 % 60)
    ++ ":" ++ pad 2 (inDay / seconds 1 % 60)
    ++ (if fraction = 0 then "" else "." ++ pad 6 fraction)

/-! ## Prices and points -/

/-- A price distance in whole broker points, half away from zero. -/
def priceToPoints (distance point : Decimal) : Except PyError Int :=
  if point ≤ 0 then .error ⟨.value, s!"point size must be positive, got {point.text}"⟩
  else
    match (distance / point).quantize .halfUp 0 with
    | some q => .ok q.toInt
    | none => .error ⟨.invalidOperation, ""⟩

end Crumblr
