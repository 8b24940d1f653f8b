import Crumblr.Domain.JsonText
import Crumblr.Domain.TimeUtils
import Crumblr.Lib.SignedDecimal

/-!
# Deterministic fingerprinting

A stored decision is proven to match the inputs that produced it by a digest of their canonical
encoding: one JSON text for one content, on any host and in any process.
-/

namespace Crumblr.Hashing

/-- A Python value. -/
inductive Value where
  | none
  | str (s : String)
  | int (n : Int)
  | bool (b : Bool)
  | decimal (d : SignedDecimal)
  | float (x : PyFloat)
  /-- A member of an enumeration of strings, by the enumeration's name and the member's value. -/
  | enum (name value : String)
  | datetime (d : PyDatetime)
  | uuid (u : Uuid)
  /-- A list or a tuple. -/
  | seq (items : List Value)
  | dict (fields : List (String × Value))
  /-- Of any other type, by the type's name. -/
  | other (name : String)

/-- Normalised so 1.10 and 1.1 fingerprint identically. -/
def canonicalDecimal (d : SignedDecimal) : Except PyError Json :=
  match d.normalize with
  | some normal => .ok (.str (String.ofList normal.format))
  | none => .error ⟨.other, "[<class 'decimal.Overflow'>]"⟩

def canonicalDatetime (d : PyDatetime) : Except PyError Json :=
  match d.offset with
  | none => .error ⟨.type, "naive datetime cannot be fingerprinted"⟩
  | some offset =>
      if offset = 0 then .ok (.str (isoTime d.wall))
      else .ok (.str (((isoTime d.wall).dropEnd 6).toString ++ PyDatetime.offsetText offset))

/-- All of them, if none raised. -/
def collect {α : Type} : List (Except PyError α) → Except PyError (List α)
  | [] => .ok []
  | x :: xs => do
      let a ← x
      let rest ← collect xs
      .ok (a :: rest)

/-- The value of a field, under its key. -/
def field (f : String × Except PyError Json) : Except PyError (String × Json) := do
  let j ← f.2
  .ok (f.1, j)

mutual

/-- Reduce a value to a JSON-safe form with a single unambiguous encoding. -/
def canonical : Value → Except PyError Json
  | .none => .ok .null
  | .str s => .ok (.str s)
  | .int n => .ok (.int n)
  | .bool b => .ok (.bool b)
  | .decimal d => canonicalDecimal d
  | .float _ => .error ⟨.type, "float cannot be fingerprinted deterministically; use Decimal"⟩
  | .enum _ value => .ok (.str value)
  | .datetime d => canonicalDatetime d
  | .uuid u => .ok (.str u.text)
  | .seq items => do
      let js ← collect (canonicalItems items)
      .ok (.list js)
  | .dict fields => do
      let sorted := (canonicalFields fields).insertionSort fun f g => f.1 ≤ g.1
      let js ← collect (sorted.map field)
      .ok (.obj js)
  | .other name => .error ⟨.type, s!"no canonical encoding for {name}"⟩

def canonicalItems : List Value → List (Except PyError Json)
  | [] => []
  | v :: items => canonical v :: canonicalItems items

def canonicalFields : List (String × Value) → List (String × Except PyError Json)
  | [] => []
  | (key, v) :: fields => (key, canonical v) :: canonicalFields fields

end

/-- Serialise a payload to its one canonical JSON representation. -/
def canonicalJson (payload : Value) : Except PyError (List Char) := do
  let j ← canonical payload
  .ok (j.sortKeys.dumps false)

end Crumblr.Hashing
