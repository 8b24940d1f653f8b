import Mathlib.Data.List.DropRight
import Mathlib.Tactic.Common

/-!
# Python's texts

What text mode reads of a file, the lines it comes in, and what `int` takes for a number: digits of
any script, blanks around them and underscores between them.

A Python text is a sequence of code points, lone surrogates among them.
-/

namespace PyText

/-! ## Files -/

/-- What text mode reads line ends as. -/
def universalNewlines : List Char → List Char
  | '\r' :: '\n' :: rest => '\n' :: universalNewlines rest
  | '\r' :: rest => '\n' :: universalNewlines rest
  | c :: rest => c :: universalNewlines rest
  | [] => []

/-- A file's bytes, read as UTF-8. -/
def decode? (bytes : ByteArray) : Option (List Char) :=
  (String.fromUTF8? bytes).map fun text => universalNewlines text.toList

/-- The lines a text comes in, each with its line feed; the last one may have none. -/
def lines : List Char → List (List Char)
  | [] => []
  | c :: rest =>
      if c = '\n' then [c] :: lines rest
      else
        match lines rest with
        | [] => [[c]]
        | line :: others => (c :: line) :: others

theorem universalNewlines_of_notMem {text : List Char} (h : '\r' ∉ text) :
    universalNewlines text = text := by
  fun_induction universalNewlines text with
  | case1 | case2 => simp at h
  | case3 c rest _ _ ih => rw [ih (List.not_mem_of_not_mem_cons h)]
  | case4 => rfl

/-- A text without carriage returns is read as it was written. -/
theorem decode?_toUTF8 {text : List Char} (h : '\r' ∉ text) :
    decode? (String.ofList text).toUTF8 = some text := by
  have hread : String.fromUTF8? (String.ofList text).toUTF8 = some (String.ofList text) := by
    simp only [String.fromUTF8?, String.toUTF8_eq_toByteArray]
    exact dif_pos (String.ofList text).isValidUTF8
  rw [decode?, hread, Option.map_some, String.toList_ofList, universalNewlines_of_notMem h]

/-- A line ends at its line feed. -/
theorem lines_append {line rest : List Char} (h : '\n' ∉ line) :
    lines (line ++ '\n' :: rest) = (line ++ ['\n']) :: lines rest := by
  induction line with
  | nil => simp [lines]
  | cons c line ih =>
      rw [List.mem_cons, not_or] at h
      rw [List.cons_append, lines, if_neg (Ne.symm h.1), ih h.2]
      rfl

/-! ## Numbers -/

/-- Where each ten of Unicode's decimal digits start. -/
def decimalZeros : List Nat :=
  [0x30, 0x660, 0x6F0, 0x7C0, 0x966, 0x9E6, 0xA66, 0xAE6, 0xB66, 0xBE6, 0xC66, 0xCE6, 0xD66, 0xDE6,
   0xE50, 0xED0, 0xF20, 0x1040, 0x1090, 0x17E0, 0x1810, 0x1946, 0x19D0, 0x1A80, 0x1A90, 0x1B50,
   0x1BB0, 0x1C40, 0x1C50, 0xA620, 0xA8D0, 0xA900, 0xA9D0, 0xA9F0, 0xAA50, 0xABF0, 0xFF10, 0x104A0,
   0x10D30, 0x11066, 0x110F0, 0x11136, 0x111D0, 0x112F0, 0x11450, 0x114D0, 0x11650, 0x116C0,
   0x11730, 0x118E0, 0x11950, 0x11C50, 0x11D50, 0x11DA0, 0x11F50, 0x16A60, 0x16AC0, 0x16B50,
   0x1D7CE, 0x1D7D8, 0x1D7E2, 0x1D7EC, 0x1D7F6, 0x1E140, 0x1E2F0, 0x1E4F0, 0x1E950, 0x1FBF0]

/-- The digit a code point is to a regular expression's `\d`, and to `int`. -/
def decimalDigit? (n : Nat) : Option Nat :=
  (decimalZeros.find? fun start => decide (start ≤ n ∧ n < start + 10)).map fun start => n - start

def isDecimal (n : Nat) : Bool := (decimalDigit? n).isSome

/-- What `str.isspace` takes for white space. -/
def spaces : List Nat :=
  [0x9, 0xA, 0xB, 0xC, 0xD, 0x1C, 0x1D, 0x1E, 0x1F, 0x20, 0x85, 0xA0, 0x1680, 0x2000, 0x2001,
   0x2002, 0x2003, 0x2004, 0x2005, 0x2006, 0x2007, 0x2008, 0x2009, 0x200A, 0x2028, 0x2029, 0x202F,
   0x205F, 0x3000]

def isSpace (n : Nat) : Bool := decide (n ∈ spaces)

def strip (codes : List Nat) : List Nat := (codes.dropWhile isSpace).rdropWhile isSpace

/-- The digits of a number, an underscore between two of them left out. -/
def digits? : List Nat → Option (List Nat)
  | [] => none
  | [c] => (decimalDigit? c).map fun d => [d]
  | c :: 0x5F :: rest => do pure ((← decimalDigit? c) :: (← digits? rest))
  | c :: rest => do pure ((← decimalDigit? c) :: (← digits? rest))

/-- `int` of a text, which may have no more than so many digits. -/
def int? (maxDigits : Nat) (codes : List Nat) : Option Int :=
  let (negative, body) :=
    match strip codes with
    | 0x2D :: rest => (true, rest)
    | 0x2B :: rest => (false, rest)
    | rest => (false, rest)
  match digits? body with
  | none => none
  | some digits =>
      if maxDigits < digits.length then none
      else
        let n : Nat := digits.foldl (fun n d => 10 * n + d) 0
        some (if negative then -n else n)

example : int? 4300 [0x20, 0x2D, 0x31, 0x5F, 0x662, 0x0A] = some (-12) := by decide +kernel

end PyText
