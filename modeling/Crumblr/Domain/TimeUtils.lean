import Crumblr.Domain.Values
import Crumblr.Lib.Rounding
import Mathlib.Data.Rat.Floor

/-!
# Times at the boundary

Everywhere else a contract's time is an instant. This module is about how it becomes one: what
may be given to a field for a time, what the platform's own check does with it before pydantic
reads it, and what Python does with a time that has another offset than UTC's, or none. A time
is as old as Python's doubles make it.
-/

namespace Crumblr

/-- A Python `datetime`: what its clock shows, and how far that is ahead of UTC. Without an
offset it is naive. -/
structure PyDatetime where
  /-- In microseconds since 1970-01-01T00:00:00. -/
  wall : Int
  offset : Option Timedelta
  deriving DecidableEq, Repr

namespace PyDatetime

/-- Aware, at UTC. -/
def IsUtc (d : PyDatetime) : Prop := d.offset = some 0

instance (d : PyDatetime) : Decidable d.IsUtc := inferInstanceAs (Decidable (_ = _))

/-- The years from 1 to 9999. -/
def Representable (wall : Int) : Prop := days (-719162) ≤ wall ∧ wall < days 2932897

instance (wall : Int) : Decidable (Representable wall) := inferInstanceAs (Decidable (_ ∧ _))

/-- `wall + span`, which does not leave those years. -/
def shift (wall : Int) (span : Timedelta) : Except PyError Int :=
  if Representable (wall + span) then .ok (wall + span)
  else .error ⟨.overflow, "date value out of range"⟩

/-- `astimezone(UTC)` of a time with an offset. -/
def astimezoneUtc (wall : Int) (offset : Timedelta) : Except PyError PyDatetime :=
  if Representable (wall - offset) then .ok ⟨wall - offset, some 0⟩
  else .error ⟨.other, "date value out of range"⟩

/-- `d <= e`. -/
def le (d e : PyDatetime) : Except PyError Bool :=
  match d.offset, e.offset with
  | some o, some o' => .ok (decide (d.wall - o ≤ e.wall - o'))
  | none, none => .ok (decide (d.wall ≤ e.wall))
  | _, _ => .error ⟨.type, "can't compare offset-naive and offset-aware datetimes"⟩

/-- An offset as `isoformat` writes it; its seconds only if it has any. -/
def offsetText (offset : Timedelta) : String :=
  let span : Int := offset.natAbs
  (if offset < 0 then "-" else "+") ++ pad 2 (span / hours 1) ++ ":"
    ++ pad 2 (span / minutes 1 % 60)
    ++ (if span % minutes 1 = 0 then "" else ":" ++ pad 2 (span / seconds 1 % 60))
    ++ (if span % seconds 1 = 0 then "" else "." ++ pad 6 (span % seconds 1))

/-- A time as a fingerprint's payload carries it; at UTC its text stands for an instant. -/
def canonical (d : PyDatetime) : Except PyError Json :=
  match d.offset with
  | none => .error ⟨.type, "naive datetime cannot be fingerprinted"⟩
  | some offset =>
      if offset = 0 then .ok (.time d.wall)
      else .ok (.str (((isoTime d.wall).dropEnd 6).toString ++ offsetText offset))

end PyDatetime

/-! ## Ages -/

/-- `span.total_seconds() * 1000`: the quotient is a double, and so is the product. -/
def millisecondsOf (span : Timedelta) : ℚ :=
  SigDigits.roundSig 2 53 (SigDigits.roundSig 2 53 ((span : ℚ) / 1000000) * 1000)

/-- `int(x)` -/
def truncate (q : ℚ) : Int := if q < 0 then ⌈q⌉ else ⌊q⌋

/-- Age in whole milliseconds; negative for an instant in the future. -/
def ageMs (eventTime now : UtcDatetime) : Int := truncate (millisecondsOf (now - eventTime))

-- 1.001 * 1000 is 1000.9999999999999
example : ageMs 0 (seconds 1 + 1000) = 1000 := by decide +kernel

/-! ## What a field is given -/

/-- What a time field may be given. -/
inductive PyValue where
  | datetime (d : PyDatetime)
  | date (d : Date)
  | int (n : Int)
  | float (x : PyFloat)
  | decimal (d : Decimal)
  | str (text : String)
  | bytes (text : String)
  /-- Nothing a time can be read from. -/
  | other

/-- What a JSON document gives it. -/
def PyValue.ofJson : Json → PyValue
  | .int n => .int n
  | .float x => .float x
  | .str s => .str s
  | .decimal d => .str d.text
  | .time t => .str (isoTime t)
  | _ => .other

/-- How pydantic reads a `datetime` from a text, and from a number. -/
class Pydantic where
  datetimeOfText : String → Option PyDatetime
  datetimeOfNumber : PyValue → Option PyDatetime

/-! ## What a text says of its offset -/

/-- It begins with the four digits of a year and a hyphen, as no number does. -/
def isDated : List Char → Bool
  | y :: y' :: y'' :: y''' :: '-' :: _ => [y, y', y'', y'''].all Char.isDigit
  | _ => false

/-- What can begin an offset. -/
def offsetMarks : List Char := ['Z', 'z', '+', '-', '−']

/-- `HH:MM`, with or without the colon. -/
def offsetMagnitude (text : List Char) : Timedelta :=
  let digits := (text.filter (· ≠ ':')).map fun c => (c.toNat : Int) - '0'.toNat
  match digits with
  | [h, h', m, m'] => hours (10 * h + h') + minutes (10 * m + m')
  | [h, h'] => hours (10 * h + h')
  | _ => 0

/-- The offset of a text that a time is read from. After a date of ten characters comes a `Z` or a
signed offset, or neither; what has no date is a number, of seconds at UTC. -/
def designatedOffset (text : String) : Option Timedelta :=
  let text := text.toList.dropWhile Char.isWhitespace
  if !isDated text then some 0
  else
    match (text.drop 10).dropWhile (· ∉ offsetMarks) with
    | [] => none
    | mark :: rest =>
        if mark = 'Z' ∨ mark = 'z' then some 0
        else if mark = '+' then some (offsetMagnitude rest)
        else some (-offsetMagnitude rest)

/-- What pydantic documents of the offset it gives a time. -/
structure Pydantic.Documented [Pydantic] : Prop where
  /-- The offset the text has. -/
  text : ∀ {text d}, datetimeOfText text = some d → d.offset = designatedOffset text
  /-- A number is a time at UTC. -/
  number : ∀ {value d}, datetimeOfNumber value = some d → d.offset = some 0

/-! ## The check, and the field -/

/-- Reject naive datetimes; normalise any aware datetime to UTC. -/
def requireUtc : PyValue → Except PyError PyValue
  | .datetime d =>
      match d.offset with
      | none =>
          .error ⟨.validation,
            "naive datetime is not accepted; supply a timezone-aware UTC datetime"⟩
      | some offset => do
          let d ← PyDatetime.astimezoneUtc d.wall offset
          pure (.datetime d)
  | value => .ok value

/-- What was read, or that nothing was. -/
def readOr (read : Option PyDatetime) : Except PyError PyDatetime :=
  match read with
  | some d => .ok d
  | none => .error ⟨.validation, "Input should be a valid datetime"⟩

/-- A `datetime` field, as pydantic reads it. A date becomes its midnight, without an offset. -/
def datetimeField [Pydantic] : PyValue → Except PyError PyDatetime
  | .datetime d => .ok d
  | .date d => .ok ⟨days d, none⟩
  | .str text => readOr (Pydantic.datetimeOfText text)
  | .bytes text => readOr (Pydantic.datetimeOfText text)
  | .other => .error ⟨.validation, "Input should be a valid datetime"⟩
  | number => readOr (Pydantic.datetimeOfNumber number)

/-- A field typed `UtcDatetime`. -/
def utcDatetimeField [Pydantic] (value : PyValue) : Except PyError PyDatetime := do
  let value ← requireUtc value
  datetimeField value

/-- A required field of a JSON document, typed `UtcDatetime`. -/
def utcDatetimeAt [Pydantic] (payload : Json) (key : String) : Except PyError PyDatetime :=
  match payload.get? key with
  | none => .error ⟨.validation, "Field required"⟩
  | some value => utcDatetimeField (.ofJson value)

example : designatedOffset "2026-09-08T12:00:00" = none := by decide +kernel
example : designatedOffset "2026-09-08T12:00:00.5-04:00" = some (hours (-4)) := by decide +kernel
example : designatedOffset "1.7e9" = some 0 := by decide +kernel

end Crumblr
