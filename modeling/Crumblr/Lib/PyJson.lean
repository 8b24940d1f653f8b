import Mathlib.Data.List.Basic
import Mathlib.Tactic.Common
import Crumblr.Lib.NumberText

/-!
# JSON as Python reads it

`json.loads` takes more than the standard does, a `NaN` and a repeated key among it, and can fail in
more ways than by finding the text malformed: a value may nest deeper than the interpreter recurses,
and an integer may have more digits than it converts.

A Python text is a sequence of code points, lone surrogates among them: an escape can write one.
-/

namespace PyJson

/-- The code points of a text. -/
def codes (s : String) : List Nat := s.toList.map (·.toNat)

inductive Value where
  | null
  | bool (b : Bool)
  | int (n : Int)
  /-- A float, by the text it was read from. -/
  | float (text : List Char)
  | str (codes : List Nat)
  | list (items : List Value)
  | obj (fields : List (List Nat × Value))

/-- `dict.get`. -/
def Value.get? (key : String) : Value → Option Value
  | .obj fields => (fields.find? fun f => f.1 == codes key).map Prod.snd
  | _ => none

inductive Error where
  /-- The text is no JSON. -/
  | decode
  /-- An integer has too many digits. -/
  | digits
  | recursion
  deriving DecidableEq, Repr

/-- What the interpreter bears. -/
structure Limits where
  depth : Nat
  digits : Nat

/-! ## Texts -/

def skipBlanks (text : List Char) : List Char :=
  text.dropWhile fun c => decide (c ∈ [' ', '\t', '\n', '\r'])

def hexDigit? (c : Char) : Option Nat :=
  if c.isDigit then some (c.toNat - '0'.toNat)
  else if 'a' ≤ c ∧ c ≤ 'f' then some (c.toNat - 'a'.toNat + 10)
  else if 'A' ≤ c ∧ c ≤ 'F' then some (c.toNat - 'A'.toNat + 10)
  else none

def hex4? (a b c d : Char) : Option Nat := do
  pure (((← hexDigit? a) * 16 + (← hexDigit? b)) * 256 + (← hexDigit? c) * 16 + (← hexDigit? d))

/-- The character an escape of one letter stands for. -/
def escaped? (c : Char) : Option Nat :=
  if c = '"' ∨ c = '\\' ∨ c = '/' then some c.toNat
  else if c = 'b' then some 0x8
  else if c = 'f' then some 0xC
  else if c = 'n' then some 0xA
  else if c = 'r' then some 0xD
  else if c = 't' then some 0x9
  else none

/-- The code points up to the closing quote, and what follows it. -/
def scanCodes : List Char → Except Error (List Nat × List Char)
  | [] => .error .decode
  | '"' :: rest => .ok ([], rest)
  | '\\' :: 'u' :: a :: b :: c :: d :: rest =>
      match hex4? a b c d with
      | none => .error .decode
      | some n => do
          let (ns, rest) ← scanCodes rest
          pure (n :: ns, rest)
  | '\\' :: c :: rest =>
      match escaped? c with
      | none => .error .decode
      | some n => do
          let (ns, rest) ← scanCodes rest
          pure (n :: ns, rest)
  | c :: rest =>
      if c.toNat < 0x20 ∨ c = '\\' then .error .decode
      else do
        let (ns, rest) ← scanCodes rest
        pure (c.toNat :: ns, rest)

/-- A high surrogate and a low one after it are one character. -/
def joinSurrogates : List Nat → List Nat
  | high :: low :: ns =>
      if 0xD800 ≤ high ∧ high < 0xDC00 ∧ 0xDC00 ≤ low ∧ low < 0xE000 then
        (0x10000 + (high - 0xD800) * 0x400 + (low - 0xDC00)) :: joinSurrogates ns
      else high :: joinSurrogates (low :: ns)
  | ns => ns

def scanString (text : List Char) : Except Error (List Nat × List Char) := do
  let (ns, rest) ← scanCodes text
  pure (joinSurrogates ns, rest)

/-! ## Numbers -/

/-- A run of digits, and what follows it. -/
def scanDigits (text : List Char) : List Char × List Char := text.span (·.isDigit)

/-- The digits before a point: no zero leads others. -/
def scanWhole : List Char → Option (List Char × List Char)
  | '0' :: rest => some (['0'], rest)
  | text =>
      match scanDigits text with
      | ([], _) => none
      | (whole, rest) => some (whole, rest)

def scanFraction : List Char → List Char × List Char
  | '.' :: text =>
      match scanDigits text with
      | ([], _) => ([], '.' :: text)
      | (digits, rest) => ('.' :: digits, rest)
  | text => ([], text)

def scanExponent : List Char → List Char × List Char
  | [] => ([], [])
  | e :: text =>
      if e = 'e' ∨ e = 'E' then
        let (sign, digitText) :=
          match text with
          | '-' :: rest => (['-'], rest)
          | '+' :: rest => (['+'], rest)
          | rest => ([], rest)
        match scanDigits digitText with
        | ([], _) => ([], e :: text)
        | (digits, rest) => (e :: (sign ++ digits), rest)
      else ([], e :: text)

/-- A number: an integer, unless a fraction or an exponent follows. -/
def scanNumber (limits : Limits) (negative : Bool) (text : List Char) :
    Except Error (Value × List Char) :=
  match scanWhole text with
  | none => .error .decode
  | some (whole, rest) =>
      let (fraction, rest) := scanFraction rest
      let (exponent, rest) := scanExponent rest
      if fraction ++ exponent = [] then
        if limits.digits < whole.length then .error .digits
        else
          let n : Int := NumberText.ofDigits whole
          .ok (.int (if negative then -n else n), rest)
      else .ok (.float ((if negative then ['-'] else []) ++ whole ++ fraction ++ exponent), rest)

/-! ## Values -/

/-- `d[key] = value`: a key keeps its place. -/
def setField (fields : List (List Nat × Value)) (key : List Nat) (v : Value) :
    List (List Nat × Value) :=
  if fields.any (fun f => f.1 == key) then fields.map fun f => if f.1 == key then (key, v) else f
  else fields ++ [(key, v)]

/-- The dictionary of some members; of those with one key the last counts. -/
def dict (members : List (List Nat × Value)) : Value :=
  .obj (members.foldl (fun fields f => setField fields f.1 f.2) [])

mutual

/-- One value, and what follows it. The fuel is only there to recurse on. -/
def scanValue (limits : Limits) : Nat → Nat → List Char → Except Error (Value × List Char)
  | 0, _, _ => .error .decode
  | fuel + 1, depth, text =>
      match text with
      | '"' :: rest => do
          let (codes, rest) ← scanString rest
          pure (.str codes, rest)
      | '[' :: rest =>
          if depth = 0 then .error .recursion
          else
            match skipBlanks rest with
            | ']' :: rest => .ok (.list [], rest)
            | rest => do
                let (items, rest) ← scanItems limits fuel (depth - 1) rest
                pure (.list items, rest)
      | '\x7b' :: rest =>
          if depth = 0 then .error .recursion
          else
            match skipBlanks rest with
            | '\x7d' :: rest => .ok (.obj [], rest)
            | rest => do
                let (members, rest) ← scanMembers limits fuel (depth - 1) rest
                pure (dict members, rest)
      | 'n' :: 'u' :: 'l' :: 'l' :: rest => .ok (.null, rest)
      | 't' :: 'r' :: 'u' :: 'e' :: rest => .ok (.bool true, rest)
      | 'f' :: 'a' :: 'l' :: 's' :: 'e' :: rest => .ok (.bool false, rest)
      | 'N' :: 'a' :: 'N' :: rest => .ok (.float "NaN".toList, rest)
      | 'I' :: 'n' :: 'f' :: 'i' :: 'n' :: 'i' :: 't' :: 'y' :: rest =>
          .ok (.float "Infinity".toList, rest)
      | '-' :: 'I' :: 'n' :: 'f' :: 'i' :: 'n' :: 'i' :: 't' :: 'y' :: rest =>
          .ok (.float "-Infinity".toList, rest)
      | '-' :: rest => scanNumber limits true rest
      | text => scanNumber limits false text

/-- The items of a list that is not empty, up to its bracket. -/
def scanItems (limits : Limits) : Nat → Nat → List Char →
    Except Error (List Value × List Char)
  | 0, _, _ => .error .decode
  | fuel + 1, depth, text => do
      let (item, rest) ← scanValue limits fuel depth text
      match skipBlanks rest with
      | ']' :: rest => pure ([item], rest)
      | ',' :: rest => do
          let (items, rest) ← scanItems limits fuel depth (skipBlanks rest)
          pure (item :: items, rest)
      | _ => throw .decode

/-- The members of a dictionary that is not empty, up to its brace. -/
def scanMembers (limits : Limits) : Nat → Nat → List Char →
    Except Error (List (List Nat × Value) × List Char)
  | 0, _, _ => .error .decode
  | fuel + 1, depth, text =>
      match text with
      | '"' :: rest => do
          let (key, rest) ← scanString rest
          match skipBlanks rest with
          | ':' :: rest => do
              let (value, rest) ← scanValue limits fuel depth (skipBlanks rest)
              match skipBlanks rest with
              | '\x7d' :: rest => pure ([(key, value)], rest)
              | ',' :: rest => do
                  let (members, rest) ← scanMembers limits fuel depth (skipBlanks rest)
                  pure ((key, value) :: members, rest)
              | _ => throw .decode
          | _ => throw .decode
      | _ => .error .decode

end

/-- `json.loads` of a text. A value takes a character at least, and two rounds at most. -/
def loads (limits : Limits) (text : List Char) : Except Error Value :=
  match text with
  | '\uFEFF' :: _ => .error .decode
  | text => do
      let (value, rest) ← scanValue limits (2 * text.length + 2) limits.depth (skipBlanks text)
      if skipBlanks rest = [] then pure value else throw .decode

end PyJson
