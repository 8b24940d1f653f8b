import Crumblr.Domain.Values
import Mathlib.Data.List.Sort

/-!
# The text of a JSON value

What Python's `json` writes without blanks. A text in it has its quotes, its backslashes and its
control characters escaped, and, where only ASCII is written, everything else that is not
printable ASCII: one escape for a character of the basic plane and two, a pair of surrogates, for
any other.
-/

namespace Crumblr.Json

/-- Four hex digits after a mark. -/
def unicodeEscape (n : Nat) : List Char :=
  '\\' :: 'u' :: [n / 4096 % 16, n / 256 % 16, n / 16 % 16, n % 16].map Nat.digitChar

/-- A character that is written neither as it is nor with a letter. -/
def escapedCode (n : Nat) : List Char :=
  if n < 0x10000 then unicodeEscape n
  else unicodeEscape (0xD800 + (n - 0x10000) / 0x400) ++ unicodeEscape (0xDC00 + (n - 0x10000) % 0x400)

def escapeChar (ensureAscii : Bool) (c : Char) : List Char :=
  if c = '"' then ['\\', '"']
  else if c = '\\' then ['\\', '\\']
  else if c = '\n' then ['\\', 'n']
  else if c = '\r' then ['\\', 'r']
  else if c = '\t' then ['\\', 't']
  else if c.toNat = 0xC then ['\\', 'f']
  else if c.toNat = 0x8 then ['\\', 'b']
  else if c.toNat < 0x20 then escapedCode c.toNat
  else if ensureAscii ∧ 0x7E < c.toNat then escapedCode c.toNat
  else [c]

/-- A text between quotes. -/
def quoted (ensureAscii : Bool) (s : String) : List Char :=
  '"' :: (s.toList.flatMap (escapeChar ensureAscii) ++ ['"'])

mutual

/-- `json.dumps`, the keys in the order they are in. -/
def dumps (ensureAscii : Bool) : Json → List Char
  | .null => "null".toList
  | .bool b => (if b then "true" else "false").toList
  | .int n => (toString n).toList
  | .float x => x.repr.toList
  | .str s => quoted ensureAscii s
  | .decimal d => quoted ensureAscii d.text
  | .time t => quoted ensureAscii (isoTime t)
  | .list items => '[' :: (dumpsItems ensureAscii items ++ [']'])
  | .obj fields => '\x7b' :: (dumpsFields ensureAscii fields ++ ['\x7d'])

def dumpsItems (ensureAscii : Bool) : List Json → List Char
  | [] => []
  | [j] => dumps ensureAscii j
  | j :: js => dumps ensureAscii j ++ ',' :: dumpsItems ensureAscii js

def dumpsFields (ensureAscii : Bool) : List (String × Json) → List Char
  | [] => []
  | [(key, j)] => quoted ensureAscii key ++ ':' :: dumps ensureAscii j
  | (key, j) :: fields =>
      quoted ensureAscii key ++ ':' :: (dumps ensureAscii j ++ ',' :: dumpsFields ensureAscii fields)

end

mutual

/-- The same value, every dictionary with its keys in order. -/
def sortKeys : Json → Json
  | .list items => .list (sortKeysItems items)
  | .obj fields => .obj ((sortKeysFields fields).insertionSort fun f g => f.1 ≤ g.1)
  | j => j

def sortKeysItems : List Json → List Json
  | [] => []
  | j :: js => sortKeys j :: sortKeysItems js

def sortKeysFields : List (String × Json) → List (String × Json)
  | [] => []
  | (key, j) :: fields => (key, sortKeys j) :: sortKeysFields fields

end

end Crumblr.Json
