import Crumblr.Domain.JsonText
import Crumblr.Lib.Binary64
import Crumblr.Lib.PyJson
import Crumblr.Lib.PyText
import Crumblr.Persistence.PaperLite

/-!
# The lines of a paper journal

What the reader makes of a journal's text, whoever wrote it. A line is JSON; its fields are converted
to what they should be; and an entry is taken if its number, the hash of the one before it and its
own hash are right.

`dict` takes a list of pairs for a dictionary, whose keys are what the pairs begin with.
-/

namespace Crumblr

/-- What the interpreter and its libraries bring. -/
structure JournalHost where
  /-- The hex SHA-256 digest of a text's UTF-8 bytes. -/
  sha256Hex : List Char → String
  limits : PyJson.Limits
  /-- `str` of a list or of a dictionary. -/
  str : PyJson.Value → List Nat

/-! ## Keys -/

/-- What a dictionary has as a key, a text being of one type or another. -/
inductive PyKey (τ : Type) where
  | none
  | bool (b : Bool)
  | int (n : Int)
  | float (x : Binary64.Value)
  | str (s : τ)
  deriving DecidableEq

namespace PyKey

variable {τ : Type}

/-- The key a value is, if it can be hashed. -/
def ofValue? : PyJson.Value → Option (PyKey (List Nat))
  | .null => some .none
  | .bool b => some (.bool b)
  | .int n => some (.int n)
  | .float text => some (.float (Binary64.read text))
  | .str codes => some (.str codes)
  | .list _ | .obj _ => Option.none

def isText : PyKey τ → Bool
  | .str _ => true
  | _ => false

def isNumber : PyKey τ → Bool
  | .bool _ | .int _ | .float _ => true
  | .none | .str _ => false

/-- The number a key is, and on which side of the finite ones. -/
def number? : PyKey τ → Option (Int × ℚ)
  | .bool b => some (0, if b then 1 else 0)
  | .int n => some (0, n)
  | .float (.finite negative q) => some (0, if negative then -q else q)
  | .float (.infinite negative) => some (if negative then -1 else 1, 0)
  | .float .nan | .none | .str _ => Option.none

/-- One key, to a dictionary: numbers of one value are. -/
def same [DecidableEq τ] (a b : PyKey τ) : Bool :=
  decide (a = b) || (a.number?.isSome && decide (a.number? = b.number?))

/-- `sorted` can put keys in order: they are texts, or numbers, or there is one at most. -/
def Comparable (keys : List (PyKey τ)) : Prop :=
  keys.all isText = true ∨ keys.all isNumber = true ∨ keys.length ≤ 1

instance (keys : List (PyKey τ)) : Decidable (Comparable keys) :=
  inferInstanceAs (Decidable (_ ∨ _ ∨ _))

/-- `a < b`, of keys that can be compared. -/
def lt : PyKey String → PyKey String → Bool
  | .str a, .str b => decide (a < b)
  | a, b =>
      match a.number?, b.number? with
      | some x, some y => decide (x.1 < y.1 ∨ (x.1 = y.1 ∧ x.2 < y.2))
      | _, _ => false

/-- How `json` writes a key. -/
def text : PyKey String → String
  | .none => "null"
  | .bool b => if b then "true" else "false"
  | .int n => toString n
  | .float x => String.ofList x.json
  | .str s => s

end PyKey

/-! ## Values -/

/-- A text, if no lone surrogate is in it. -/
def textOf? (codes : List Nat) : Option String :=
  if codes.all (fun n => decide n.isValidChar) then some (String.ofList (codes.map Char.ofNat))
  else none

mutual

/-- A value, if no lone surrogate is in it. -/
def Json.ofValue? : PyJson.Value → Option Json
  | .null => some .null
  | .bool b => some (.bool b)
  | .int n => some (.int n)
  | .float text => some (.float ⟨String.ofList (Binary64.read text).json⟩)
  | .str codes => (textOf? codes).map .str
  | .list items => (Json.ofItems? items).map .list
  | .obj fields => (Json.ofFields? fields).map .obj

def Json.ofItems? : List PyJson.Value → Option (List Json)
  | [] => some []
  | v :: vs => do pure ((← Json.ofValue? v) :: (← Json.ofItems? vs))

def Json.ofFields? : List (List Nat × PyJson.Value) → Option (List (String × Json))
  | [] => some []
  | (key, v) :: fields => do
      pure ((← textOf? key, ← Json.ofValue? v) :: (← Json.ofFields? fields))

end

def PyKey.decoded? : PyKey (List Nat) → Option (PyKey String)
  | .none => some .none
  | .bool b => some (.bool b)
  | .int n => some (.int n)
  | .float x => some (.float x)
  | .str codes => (textOf? codes).map .str

/-! ## Decoding a line -/

def typeName : PyJson.Value → String
  | .null => "NoneType"
  | .bool _ => "bool"
  | .int _ => "int"
  | .float _ => "float"
  | .str _ => "str"
  | .list _ => "list"
  | .obj _ => "dict"

/-- `raw[key]`. -/
def item (raw : PyJson.Value) (key : String) : Except PyError PyJson.Value :=
  match raw with
  | .obj _ =>
      match raw.get? key with
      | some v => .ok v
      | none => .error ⟨.lookup, s!"'{key}'"⟩
  | .list _ => .error ⟨.type, "list indices must be integers or slices, not str"⟩
  | .str _ => .error ⟨.type, "string indices must be integers, not 'str'"⟩
  | _ => .error ⟨.type, s!"'{typeName raw}' object is not subscriptable"⟩

/-- `dict[key] = v`: a key that is there stays as it is. -/
def setKey (fields : List (PyKey (List Nat) × PyJson.Value)) (key : PyKey (List Nat))
    (v : PyJson.Value) : List (PyKey (List Nat) × PyJson.Value) :=
  if fields.any (fun f => f.1.same key) then
    fields.map fun f => if f.1.same key then (f.1, v) else f
  else fields ++ [(key, v)]

/-- The two elements of a sequence `dict` takes for a key and its value. -/
def pairOf : PyJson.Value → Except PyError (PyJson.Value × PyJson.Value)
  | .list [key, v] => .ok (key, v)
  | .str [a, b] => .ok (.str [a], .str [b])
  | .obj [(key, _), (key', _)] => .ok (.str key, .str key')
  | .list _ | .str _ | .obj _ =>
      .error ⟨.value, "dictionary update sequence element has no length of 2"⟩
  | _ => .error ⟨.type, "cannot convert dictionary update sequence element to a sequence"⟩

/-- `dict(value)`. -/
def dictOf : PyJson.Value → Except PyError (List (PyKey (List Nat) × PyJson.Value))
  | .obj fields => .ok (fields.map fun f => (.str f.1, f.2))
  | .list items =>
      items.foldlM (fun fields element => do
        let (key, v) ← pairOf element
        match PyKey.ofValue? key with
        | some key => pure (setKey fields key v)
        | none => throw ⟨.type, s!"unhashable type: '{typeName key}'"⟩) []
  | .str [] => .ok []
  | .str _ => .error ⟨.value, "dictionary update sequence element #0 has length 1; 2 is required"⟩
  | v => .error ⟨.type, s!"'{typeName v}' object is not iterable"⟩

/-- `PaperJournalEventType(value)`. -/
def eventTypeOf (v : PyJson.Value) : Except PyError PaperJournalEventType :=
  let known :=
    match v with
    | .str codes => (textOf? codes).bind PaperJournalEventType.ofValue?
    | _ => none
  match known with
  | some eventType => .ok eventType
  | none => .error ⟨.value, "the event type is not a valid PaperJournalEventType"⟩

/-- An entry as its line says it. -/
structure RawEntry where
  sequence : Int
  eventType : PaperJournalEventType
  eventKey : List Nat
  previousHash : PyJson.Value
  payload : List (PyKey (List Nat) × PyJson.Value)
  recordHash : List Nat

/-- An entry that was taken. -/
structure PaperRecord where
  sequence : Int
  eventType : PaperJournalEventType
  eventKey : String
  previousHash : Option String
  payload : List (PyKey String × Json)
  recordHash : String

/-- What the hash of an entry covers, as text: the keys in order. -/
def PaperRecord.canonicalText (r : PaperRecord) : List Char :=
  let items := r.payload.insertionSort fun f g => g.1.lt f.1 = false
  Json.dumps false (.obj [
    ("event_key", .str r.eventKey),
    ("event_type", .str r.eventType.value),
    ("payload", .obj (items.map fun f => (f.1.text, f.2.sortKeys))),
    ("previous_hash", .opt .str r.previousHash),
    ("sequence", .int r.sequence)])

/-- Whether a value is the hash of the entry before, or `None` where there is none. -/
def isPrevious (previous : Option String) : PyJson.Value → Bool
  | .null => previous.isNone
  | .str codes => decide (previous.map PyJson.codes = some codes)
  | _ => false

namespace RawEntry

/-- The entry's content, all of it text that can be encoded. -/
def record? (raw : RawEntry) (previous : Option String) : Option PaperRecord := do
  let eventKey ← textOf? raw.eventKey
  let payload ← raw.payload.mapM fun f => do pure (← f.1.decoded?, ← Json.ofValue? f.2)
  pure {
    sequence := raw.sequence
    eventType := raw.eventType
    eventKey
    previousHash := previous
    payload
    recordHash := "" }

/-- The entry with the hash it should have; its keys must be comparable, and its texts encodable. -/
def hashed (host : JournalHost) (raw : RawEntry) (previous : Option String) :
    Except PyError PaperRecord :=
  if ¬ PyKey.Comparable (raw.payload.map Prod.fst) then
    .error ⟨.type, "'<' not supported between instances of the payload's keys"⟩
  else
    match raw.record? previous with
    | none => .error ⟨.unicodeEncode, "'utf-8' codec can't encode character: surrogates not allowed"⟩
    | some record => .ok { record with recordHash := host.sha256Hex record.canonicalText }

end RawEntry

/-! ## Reading -/

section

variable (host : JournalHost)

/-- `int(value)`. -/
def intOf : PyJson.Value → Except PyError Int
  | .int n => .ok n
  | .bool b => .ok (if b then 1 else 0)
  | .float text =>
      match Binary64.read text with
      | .nan => .error ⟨.value, "cannot convert float NaN to integer"⟩
      | .infinite _ => .error ⟨.overflow, "cannot convert float infinity to integer"⟩
      | .finite negative q => .ok (if negative then -⌊q⌋ else ⌊q⌋)
  | .str codes =>
      match PyText.int? host.limits.digits codes with
      | some n => .ok n
      | none => .error ⟨.value, "invalid literal for int() with base 10"⟩
  | v => .error ⟨.type, "int() argument must be a string, a bytes-like object or a real number, "
      ++ s!"not '{typeName v}'"⟩

/-- `str(value)`. -/
def strOf : PyJson.Value → List Nat
  | .null => PyJson.codes "None"
  | .bool b => PyJson.codes (if b then "True" else "False")
  | .int n => PyJson.codes (toString n)
  | .float text => (Binary64.read text).repr.map (·.toNat)
  | .str codes => codes
  | v => host.str v

/-- `json.loads(line)`. -/
def parseLine (line : List Char) : Except PyError PyJson.Value :=
  match PyJson.loads host.limits line with
  | .ok raw => .ok raw
  | .error .decode => .error ⟨.jsonDecode, "the line is not JSON"⟩
  | .error .digits => .error ⟨.value, "Exceeds the limit for integer string conversion"⟩
  | .error .recursion => .error ⟨.recursion, "maximum recursion depth exceeded"⟩

def decodeLine (line : List Char) : Except PyError RawEntry := do
  let raw ← parseLine host line
  let sequence ← intOf host (← item raw "sequence")
  let eventType ← eventTypeOf (← item raw "event_type")
  let eventKey := strOf host (← item raw "event_key")
  let previousHash ← item raw "previous_hash"
  let payload ← dictOf (← item raw "payload")
  let recordHash := strOf host (← item raw "record_hash")
  pure { sequence, eventType, eventKey, previousHash, payload, recordHash }

/-- The errors a line that cannot be decoded may end in. -/
def malformedKinds : List ErrorKind := [.lookup, .type, .value, .jsonDecode]

/-- The entry of a line, which is at a place of the file and after an entry of a hash. -/
def readLine (position : Nat) (previous : Option String) (line : List Char) :
    Except PyError PaperRecord :=
  if line.getLast? ≠ some '\n' then
    .error (corruption s!"paper journal line {position + 1} is incomplete")
  else
    match decodeLine host line with
    | .error error =>
        if error.kind ∈ malformedKinds then
          .error (corruption s!"paper journal line {position + 1} is malformed: {error.message}")
        else .error error
    | .ok raw =>
        if raw.sequence ≠ position then
          .error (corruption s!"paper journal sequence {raw.sequence} is not expected {position}")
        else if isPrevious previous raw.previousHash = false then
          .error (corruption s!"paper journal hash chain breaks at sequence {raw.sequence}")
        else
          match raw.hashed host previous with
          | .error error => .error error
          | .ok record =>
              if raw.recordHash ≠ PyJson.codes record.recordHash then
                .error (corruption s!"paper journal record hash mismatch at sequence {raw.sequence}")
              else .ok record

/-- One line more. -/
def readNext (records : List PaperRecord) (line : List Char) : Except PyError (List PaperRecord) :=
  match readLine host records.length (records.getLast?.map (·.recordHash)) line with
  | .error error => .error error
  | .ok record => .ok (records ++ [record])

def readLines (lines : List (List Char)) : Except PyError (List PaperRecord) :=
  lines.foldlM (readNext host) []

/-- The entries of a file. -/
def readJournal (bytes : ByteArray) : Except PyError (List PaperRecord) :=
  match PyText.decode? bytes with
  | none => .error ⟨.unicodeDecode, "'utf-8' codec can't decode the bytes"⟩
  | some text => readLines host (PyText.lines text)

end

end Crumblr
