import Crumblr.Domain.JsonText
import Crumblr.Lib.NumberText
import Mathlib.Tactic.IntervalCases

/-!
# Reading a JSON text back

A JSON text determines the value it was written from, and where it ends: the first character tells
the kind, a text's closing quote is its only unescaped one, and a number ends at a comma or a
bracket. Two values of one text are one value.
-/

namespace Crumblr.Json

open NumberText

/-! ## Texts -/

/-- The first character of an escaped text, and what comes after it. -/
def readChar : List Char → Option (Char × List Char)
  | '\\' :: '"' :: r => some ('"', r)
  | '\\' :: '\\' :: r => some ('\\', r)
  | '\\' :: 'n' :: r => some ('\n', r)
  | '\\' :: 'r' :: r => some ('\r', r)
  | '\\' :: 't' :: r => some ('\t', r)
  | '\\' :: 'f' :: r => some (Char.ofNat 0xC, r)
  | '\\' :: 'b' :: r => some (Char.ofNat 0x8, r)
  | '\\' :: 'u' :: '0' :: '0' :: a :: b :: r =>
      some (Char.ofNat (16 * hexDigit a + hexDigit b), r)
  | c :: r => some (c, r)
  | [] => none
where
  /-- The value of a lower-case hex digit. -/
  hexDigit (c : Char) : Nat :=
    if c.isDigit then c.toNat - '0'.toNat else c.toNat - 'a'.toNat + 10

theorem readChar_plain {c : Char} (hc : c ≠ '\\') (r : List Char) :
    readChar (c :: r) = some (c, r) := by
  unfold readChar
  split <;> simp_all

/-- A control character is read back from its code. -/
theorem readChar_control {c : Char} (hc : c.toNat < 0x20) (r : List Char) :
    readChar (escapedCode c.toNat ++ r) = some (c, r) := by
  have hofNat : Char.ofNat c.toNat = c := Char.ofNat_toNat c
  rw [← hofNat]
  generalize c.toNat = n at hc
  interval_cases n <;> rfl

/-- An escaped character is read back. -/
theorem readChar_escapeChar (c : Char) (r : List Char) :
    readChar (escapeChar false c ++ r) = some (c, r) := by
  unfold escapeChar
  split
  · rename_i h
    rw [h]
    rfl
  · split
    · rename_i h
      rw [h]
      rfl
    · rename_i hbackslash
      split
      · rename_i h
        rw [h]
        rfl
      · split
        · rename_i h
          rw [h]
          rfl
        · split
          · rename_i h
            rw [h]
            rfl
          · split
            · rename_i h
              rw [← Char.ofNat_toNat c, h]
              rfl
            · split
              · rename_i h
                rw [← Char.ofNat_toNat c, h]
                rfl
              · split
                · rename_i h
                  exact readChar_control h r
                · rw [if_neg (by simp)]
                  exact readChar_plain hbackslash r

theorem escapedCode_head (n : Nat) : ∃ rest, escapedCode n = '\\' :: rest := by
  unfold escapedCode
  split
  · exact ⟨_, rfl⟩
  · exact ⟨_, rfl⟩

/-- Only the closing quote stands unescaped. -/
theorem escapeChar_head (c : Char) : ∃ d rest, escapeChar false c = d :: rest ∧ d ≠ '"' := by
  by_cases hquote : c = '"'
  · exact ⟨'\\', ['"'], by rw [hquote]; rfl, by decide⟩
  · unfold escapeChar
    rw [if_neg hquote]
    repeat' split
    all_goals first
      | exact ⟨_, _, rfl, by decide⟩
      | exact ⟨_, _, rfl, hquote⟩
      | skip
    all_goals
      obtain ⟨rest, hrest⟩ := escapedCode_head c.toNat
      exact ⟨'\\', rest, hrest, by decide⟩

theorem quoted_inj {s s' : String} {r r' : List Char}
    (h : quoted false s ++ r = quoted false s' ++ r') : s = s' ∧ r = r' := by
  have hbody : ∀ l l' : List Char, l.flatMap (escapeChar false) ++ '"' :: r
      = l'.flatMap (escapeChar false) ++ '"' :: r' → l = l' ∧ r = r' := by
    intro l
    induction l with
    | nil =>
        intro l' heq
        cases l' with
        | nil => exact ⟨rfl, (List.cons.inj heq).2⟩
        | cons c l' =>
            obtain ⟨d, rest, hd, hne⟩ := escapeChar_head c
            rw [List.flatMap_cons, hd] at heq
            exact absurd (List.cons.inj heq).1.symm hne
    | cons c l ih =>
        intro l' heq
        cases l' with
        | nil =>
            obtain ⟨d, rest, hd, hne⟩ := escapeChar_head c
            rw [List.flatMap_cons, hd] at heq
            exact absurd (List.cons.inj heq).1 hne
        | cons c' l' =>
            rw [List.flatMap_cons, List.flatMap_cons, List.append_assoc, List.append_assoc] at heq
            have hread := congrArg readChar heq
            rw [readChar_escapeChar, readChar_escapeChar] at hread
            obtain ⟨rfl, hrest⟩ := Prod.mk.inj (Option.some.inj hread)
            obtain ⟨rfl, hr⟩ := ih l' hrest
            exact ⟨rfl, hr⟩
  unfold quoted at h
  rw [List.cons_append, List.cons_append, List.append_assoc, List.append_assoc] at h
  obtain ⟨hlist, hr⟩ := hbody _ _ (List.cons.inj h).2
  exact ⟨String.toList_inj.mp hlist, hr⟩

/-! ## Values -/

mutual

/-- Every leaf is written as what it is. -/
def plain : Json → Bool
  | .float _ | .decimal _ | .time _ => false
  | .list items => plainItems items
  | .obj fields => plainFields fields
  | .null | .bool _ | .int _ | .str _ => true

def plainItems : List Json → Bool
  | [] => true
  | j :: js => plain j && plainItems js

def plainFields : List (String × Json) → Bool
  | [] => true
  | (_, j) :: fields => plain j && plainFields fields

end

/-- The kinds of value a first character tells apart. -/
inductive Kind where
  | null
  | bool
  | int
  | str
  | list
  | obj
  deriving DecidableEq

def kind : Json → Kind
  | .null => .null
  | .bool _ => .bool
  | .int _ | .float _ => .int
  | .str _ | .decimal _ | .time _ => .str
  | .list _ => .list
  | .obj _ => .obj

def kindOf (c : Char) : Kind :=
  if c = 'n' then .null
  else if c = 't' ∨ c = 'f' then .bool
  else if c = '"' then .str
  else if c = '[' then .list
  else if c = '\x7b' then .obj
  else .int

theorem kindOf_intChar {c : Char} (h : IsIntChar c) : kindOf c = .int := by
  rcases h with rfl | h
  · rfl
  · have hne : ∀ d : Char, d.isDigit = false → c ≠ d := by
      rintro d hd rfl
      rw [h] at hd
      cases hd
    unfold kindOf
    rw [if_neg (hne 'n' rfl), if_neg (not_or.mpr ⟨hne 't' rfl, hne 'f' rfl⟩), if_neg (hne '"' rfl),
      if_neg (hne '[' rfl), if_neg (hne '\x7b' rfl)]

/-- A number's text that is not an integer's: it ends where a value may, and no other kind of value
begins so. -/
def isFloatText (text : List Char) : Bool :=
  text.all (fun c => decide (c ≠ ',' ∧ c ≠ ']' ∧ c ≠ '\x7d'))
    && text.any (fun c => decide (¬ (c = '-' ∨ c.isDigit = true)))
    && decide (text.head?.map kindOf = some .int)

mutual

/-- Every leaf is written as what it is, or as a float. -/
def legible : Json → Bool
  | .float x => isFloatText x.repr.toList
  | .decimal _ | .time _ => false
  | .list items => legibleItems items
  | .obj fields => legibleFields fields
  | .null | .bool _ | .int _ | .str _ => true

def legibleItems : List Json → Bool
  | [] => true
  | j :: js => legible j && legibleItems js

def legibleFields : List (String × Json) → Bool
  | [] => true
  | (_, j) :: fields => legible j && legibleFields fields

end

mutual

theorem legible_of_plain : ∀ j : Json, plain j = true → legible j = true
  | .list items, h => legibleItems_of_plain items h
  | .obj fields, h => legibleFields_of_plain fields h
  | .null, _ | .bool _, _ | .int _, _ | .str _, _ => rfl

theorem legibleItems_of_plain : ∀ js : List Json, plainItems js = true → legibleItems js = true
  | [], _ => rfl
  | j :: js, h => by
      obtain ⟨hj, hjs⟩ := Bool.and_eq_true_iff.mp h
      rw [legibleItems, legible_of_plain j hj, legibleItems_of_plain js hjs]
      rfl

theorem legibleFields_of_plain : ∀ fields : List (String × Json),
    plainFields fields = true → legibleFields fields = true
  | [], _ => rfl
  | (_, j) :: fields, h => by
      obtain ⟨hj, hfields⟩ := Bool.and_eq_true_iff.mp h
      rw [legibleFields, legible_of_plain j hj, legibleFields_of_plain fields hfields]
      rfl

end

section

variable {text : List Char} (h : isFloatText text = true)
include h

theorem isFloatText_head : ∃ c rest, text = c :: rest ∧ kindOf c = .int := by
  have hhead := of_decide_eq_true (Bool.and_eq_true_iff.mp h).2
  cases text with
  | nil => cases hhead
  | cons c rest => exact ⟨c, rest, rfl, Option.some.inj hhead⟩

theorem isFloatText_mem {c : Char} (hc : c ∈ text) : c ≠ ',' ∧ c ≠ ']' ∧ c ≠ '\x7d' :=
  of_decide_eq_true
    (List.all_eq_true.mp (Bool.and_eq_true_iff.mp (Bool.and_eq_true_iff.mp h).1).1 c hc)

theorem isFloatText_ne_int (n : Int) : text ≠ (toString n).toList := by
  rintro rfl
  obtain ⟨c, hc, hnot⟩ := List.any_eq_true.mp
    (Bool.and_eq_true_iff.mp (Bool.and_eq_true_iff.mp h).1).2
  exact of_decide_eq_true hnot (isIntChar_of_mem hc)

end

theorem toString_head (n : Int) : ∃ c rest, (toString n).toList = c :: rest ∧ IsIntChar c := by
  cases h : (toString n).toList with
  | nil =>
      rw [toList_toString] at h
      split at h
      · exact absurd h (List.ne_nil_of_length_pos Nat.length_toDigits_pos)
      · cases h
  | cons c rest =>
      refine ⟨c, rest, rfl, isIntChar_of_mem (n := n) ?_⟩
      rw [h]
      exact List.mem_cons_self

/-- The first character tells the kind. -/
theorem dumps_head {j : Json} (h : legible j = true) :
    ∃ c rest, dumps false j = c :: rest ∧ kindOf c = kind j := by
  cases j with
  | null => exact ⟨_, _, rfl, rfl⟩
  | bool b => cases b <;> exact ⟨_, _, rfl, rfl⟩
  | int n =>
      obtain ⟨c, rest, hc, hint⟩ := toString_head n
      exact ⟨c, rest, hc, kindOf_intChar hint⟩
  | float x => exact isFloatText_head h
  | str s => exact ⟨_, _, rfl, rfl⟩
  | decimal d => cases h
  | time t => cases h
  | list items => exact ⟨_, _, rfl, rfl⟩
  | obj fields => exact ⟨_, _, rfl, rfl⟩

/-- What may follow a value. -/
def Follows (r : List Char) : Prop := ∀ c ∈ r.head?, c = ',' ∨ c = ']' ∨ c = '\x7d'

/-- What a number is written with. -/
def IsNumberChar (c : Char) : Prop := c ≠ ',' ∧ c ≠ ']' ∧ c ≠ '\x7d'

theorem isNumberChar_of_int {n : Int} {c : Char} (hc : c ∈ (toString n).toList) :
    IsNumberChar c := by
  have hint := isIntChar_of_mem hc
  refine ⟨?_, ?_, ?_⟩
  · rintro rfl
    exact absurd hint (by unfold IsIntChar; decide)
  · rintro rfl
    exact absurd hint (by unfold IsIntChar; decide)
  · rintro rfl
    exact absurd hint (by unfold IsIntChar; decide)

theorem Follows.not_numberChar {r : List Char} (h : Follows r) : ∀ c ∈ r.head?, ¬ IsNumberChar c := by
  rintro c hc ⟨hcomma, hbracket, hbrace⟩
  rcases h c hc with rfl | rfl | rfl
  · exact hcomma rfl
  · exact hbracket rfl
  · exact hbrace rfl

/-- The items after the first, each behind a comma. -/
def moreItems : List Json → List Char
  | [] => []
  | j :: js => ',' :: dumpsItems false (j :: js)

theorem dumpsItems_cons (j : Json) (js : List Json) :
    dumpsItems false (j :: js) = dumps false j ++ moreItems js := by
  cases js with
  | nil => simp [dumpsItems, moreItems]
  | cons j' js => rfl

theorem follows_moreItems (js : List Json) (r : List Char) : Follows (moreItems js ++ ']' :: r) := by
  cases js with
  | nil =>
      intro c hc
      cases hc
      exact .inr (.inl rfl)
  | cons j js =>
      intro c hc
      cases hc
      exact .inl rfl

def moreFields : List (String × Json) → List Char
  | [] => []
  | field :: fields => ',' :: dumpsFields false (field :: fields)

theorem dumpsFields_cons (key : String) (j : Json) (fields : List (String × Json)) :
    dumpsFields false ((key, j) :: fields)
      = quoted false key ++ ':' :: (dumps false j ++ moreFields fields) := by
  cases fields with
  | nil => simp [dumpsFields, moreFields]
  | cons field fields => rfl

theorem follows_moreFields (fields : List (String × Json)) (r : List Char) :
    Follows (moreFields fields ++ '\x7d' :: r) := by
  cases fields with
  | nil =>
      intro c hc
      cases hc
      exact .inr (.inr rfl)
  | cons field fields =>
      intro c hc
      cases hc
      exact .inl rfl

/-- Values of one text are of one kind. -/
theorem kind_eq {j j' : Json} {r r' : List Char} (h : legible j = true) (h' : legible j' = true)
    (heq : dumps false j ++ r = dumps false j' ++ r') : kind j = kind j' := by
  obtain ⟨c, rest, hc, hkind⟩ := dumps_head h
  obtain ⟨c', rest', hc', hkind'⟩ := dumps_head h'
  rw [hc, hc'] at heq
  rw [← hkind, ← hkind', (List.cons.inj heq).1]

/-- No value begins with the bracket that closes a list. -/
theorem dumps_ne_bracket {j : Json} {r r' : List Char} (h : legible j = true) :
    dumps false j ++ r ≠ ']' :: r' := by
  intro heq
  obtain ⟨c, rest, hc, hkind⟩ := dumps_head h
  rw [hc] at heq
  rw [(List.cons.inj heq).1] at hkind hc
  cases j with
  | int n =>
      have hint : IsIntChar ']' := by
        refine isIntChar_of_mem (n := n) ?_
        rw [show (toString n).toList = ']' :: rest from hc]
        exact List.mem_cons_self
      exact absurd hint (by unfold IsIntChar; decide)
  | float x =>
      have hmem : ']' ∈ x.repr.toList := by
        rw [show x.repr.toList = ']' :: rest from hc]
        exact List.mem_cons_self
      exact (isFloatText_mem h hmem).2.1 rfl
  | _ => cases hkind

mutual

/-- **A text determines its value, and where it ends.** -/
theorem dumps_inj : ∀ (j : Json) {j' : Json} {r r' : List Char}, legible j = true →
    legible j' = true → Follows r → Follows r' → dumps false j ++ r = dumps false j' ++ r' →
      j = j' ∧ r = r'
  | .null, j', r, r', h, h', hr, hr', heq => by
      have hkind := kind_eq h h' heq
      cases j' with
      | null => exact ⟨rfl, List.append_cancel_left heq⟩
      | _ => cases hkind
  | .bool b, j', r, r', h, h', hr, hr', heq => by
      have hkind := kind_eq h h' heq
      cases j' with
      | bool b' =>
          cases b <;> cases b'
          · exact ⟨rfl, List.append_cancel_left heq⟩
          · exact absurd (List.cons.inj heq).1 (by decide)
          · exact absurd (List.cons.inj heq).1 (by decide)
          · exact ⟨rfl, List.append_cancel_left heq⟩
      | _ => cases hkind
  | .int n, j', r, r', h, h', hr, hr', heq => by
      have hkind := kind_eq h h' heq
      cases j' with
      | int n' =>
          -- a number ends where no number goes on
          obtain ⟨htext, hrest⟩ := span_inj (fun c hc => isNumberChar_of_int hc)
            (fun c hc => isNumberChar_of_int hc) hr.not_numberChar hr'.not_numberChar heq
          exact ⟨congrArg Json.int (toString_inj htext), hrest⟩
      | float x =>
          obtain ⟨htext, -⟩ := span_inj (fun c hc => isNumberChar_of_int hc)
            (fun c hc => isFloatText_mem h' hc) hr.not_numberChar hr'.not_numberChar heq
          exact absurd htext.symm (isFloatText_ne_int h' n)
      | _ => cases hkind
  | .float x, j', r, r', h, h', hr, hr', heq => by
      have hkind := kind_eq h h' heq
      cases j' with
      | int n =>
          obtain ⟨htext, -⟩ := span_inj (fun c hc => isFloatText_mem h hc)
            (fun c hc => isNumberChar_of_int hc) hr.not_numberChar hr'.not_numberChar heq
          exact absurd htext (isFloatText_ne_int h n)
      | float x' =>
          obtain ⟨htext, hrest⟩ := span_inj (fun c hc => isFloatText_mem h hc)
            (fun c hc => isFloatText_mem h' hc) hr.not_numberChar hr'.not_numberChar heq
          cases x
          cases x'
          obtain rfl := String.toList_inj.mp htext
          exact ⟨rfl, hrest⟩
      | _ => cases hkind
  | .str s, j', r, r', h, h', hr, hr', heq => by
      have hkind := kind_eq h h' heq
      cases j' with
      | str s' =>
          obtain ⟨rfl, hrest⟩ := quoted_inj heq
          exact ⟨rfl, hrest⟩
      | decimal d => cases h'
      | time t => cases h'
      | _ => cases hkind
  | .list items, j', r, r', h, h', hr, hr', heq => by
      have hkind := kind_eq h h' heq
      cases j' with
      | list items' =>
          have hitems : dumpsItems false items ++ ']' :: r = dumpsItems false items' ++ ']' :: r' := by
            simpa [dumps] using heq
          obtain ⟨rfl, hrest⟩ := dumpsItems_inj items h h' hitems
          exact ⟨rfl, hrest⟩
      | _ => cases hkind
  | .obj fields, j', r, r', h, h', hr, hr', heq => by
      have hkind := kind_eq h h' heq
      cases j' with
      | obj fields' =>
          have hfields : dumpsFields false fields ++ '\x7d' :: r
              = dumpsFields false fields' ++ '\x7d' :: r' := by
            simpa [dumps] using heq
          obtain ⟨rfl, hrest⟩ := dumpsFields_inj fields h h' hfields
          exact ⟨rfl, hrest⟩
      | _ => cases hkind

theorem dumpsItems_inj : ∀ (js : List Json) {js' : List Json} {r r' : List Char},
    legibleItems js = true → legibleItems js' = true →
      dumpsItems false js ++ ']' :: r = dumpsItems false js' ++ ']' :: r' → js = js' ∧ r = r'
  | [], js', r, r', h, h', heq => by
      cases js' with
      | nil => exact ⟨rfl, (List.cons.inj heq).2⟩
      | cons j' js' =>
          rw [dumpsItems_cons, List.append_assoc] at heq
          exact absurd heq.symm (dumps_ne_bracket (Bool.and_eq_true_iff.mp h').1)
  | j :: js, js', r, r', h, h', heq => by
      obtain ⟨hj, hjs⟩ := Bool.and_eq_true_iff.mp h
      cases js' with
      | nil =>
          rw [dumpsItems_cons, List.append_assoc] at heq
          exact absurd heq (dumps_ne_bracket hj)
      | cons j' js' =>
          obtain ⟨hj', hjs'⟩ := Bool.and_eq_true_iff.mp h'
          rw [dumpsItems_cons, dumpsItems_cons, List.append_assoc, List.append_assoc] at heq
          obtain ⟨rfl, hmore⟩ := dumps_inj j hj hj' (follows_moreItems js r)
            (follows_moreItems js' r') heq
          cases js with
          | nil =>
              cases js' with
              | nil => exact ⟨rfl, (List.cons.inj hmore).2⟩
              | cons j' js' => exact absurd (List.cons.inj hmore).1 (by decide)
          | cons j₂ js =>
              cases js' with
              | nil => exact absurd (List.cons.inj hmore).1 (by decide)
              | cons j₂' js' =>
                  obtain ⟨htail, hrest⟩ := dumpsItems_inj (j₂ :: js) hjs hjs' (List.cons.inj hmore).2
                  exact ⟨congrArg (j :: ·) htail, hrest⟩

theorem dumpsFields_inj : ∀ (fields : List (String × Json)) {fields' : List (String × Json)}
    {r r' : List Char}, legibleFields fields = true → legibleFields fields' = true →
      dumpsFields false fields ++ '\x7d' :: r = dumpsFields false fields' ++ '\x7d' :: r' →
        fields = fields' ∧ r = r'
  | [], fields', r, r', h, h', heq => by
      cases fields' with
      | nil => exact ⟨rfl, (List.cons.inj heq).2⟩
      | cons field' fields' =>
          obtain ⟨key', j'⟩ := field'
          rw [dumpsFields_cons] at heq
          exact absurd (List.cons.inj heq).1 (by decide)
  | (key, j) :: fields, fields', r, r', h, h', heq => by
      obtain ⟨hj, hfields⟩ := Bool.and_eq_true_iff.mp h
      cases fields' with
      | nil =>
          rw [dumpsFields_cons] at heq
          exact absurd (List.cons.inj heq).1 (by decide)
      | cons field' fields' =>
          obtain ⟨key', j'⟩ := field'
          obtain ⟨hj', hfields'⟩ := Bool.and_eq_true_iff.mp h'
          rw [dumpsFields_cons, dumpsFields_cons, List.append_assoc, List.append_assoc] at heq
          obtain ⟨rfl, hvalue⟩ := quoted_inj heq
          rw [List.cons_append, List.cons_append, List.append_assoc, List.append_assoc] at hvalue
          obtain ⟨rfl, hmore⟩ := dumps_inj j hj hj' (follows_moreFields fields r)
            (follows_moreFields fields' r') (List.cons.inj hvalue).2
          cases fields with
          | nil =>
              cases fields' with
              | nil => exact ⟨rfl, (List.cons.inj hmore).2⟩
              | cons field' fields' => exact absurd (List.cons.inj hmore).1 (by decide)
          | cons field fields =>
              cases fields' with
              | nil => exact absurd (List.cons.inj hmore).1 (by decide)
              | cons field' fields' =>
                  obtain ⟨htail, hrest⟩ :=
                    dumpsFields_inj (field :: fields) hfields hfields' (List.cons.inj hmore).2
                  exact ⟨congrArg ((key, j) :: ·) htail, hrest⟩

end

/-- **One text, one value.** -/
theorem eq_of_dumps_eq {j j' : Json} (h : plain j = true) (h' : plain j' = true)
    (heq : dumps false j = dumps false j') : j = j' := by
  have hend : Follows [] := nofun
  have hsame : dumps false j ++ [] = dumps false j' ++ [] := by rw [heq]
  exact (dumps_inj j (legible_of_plain j h) (legible_of_plain j' h') hend hend hsame).1

theorem eq_of_legible {j j' : Json} (h : legible j = true) (h' : legible j' = true)
    (heq : dumps false j = dumps false j') : j = j' := by
  have hend : Follows [] := nofun
  have hsame : dumps false j ++ [] = dumps false j' ++ [] := by rw [heq]
  exact (dumps_inj j h h' hend hend hsame).1

/-! ## Sorted keys -/

theorem plainFields_eq_all (fields : List (String × Json)) :
    plainFields fields = fields.all fun field => plain field.2 := by
  induction fields with
  | nil => rfl
  | cons field fields ih =>
      obtain ⟨key, j⟩ := field
      rw [plainFields, ih, List.all_cons]

mutual

theorem plain_sortKeys : ∀ j : Json, plain (sortKeys j) = plain j
  | .list items => plain_sortKeysItems items
  | .obj fields => by
      have hperm := List.perm_insertionSort (fun f g : String × Json => f.1 ≤ g.1)
        (sortKeysFields fields)
      rw [sortKeys, plain, plainFields_eq_all, hperm.all_eq, ← plainFields_eq_all,
        plain_sortKeysFields fields, plain]
  | .null | .bool _ | .int _ | .float _ | .str _ | .decimal _ | .time _ => rfl

theorem plain_sortKeysItems : ∀ js : List Json, plainItems (sortKeysItems js) = plainItems js
  | [] => rfl
  | j :: js => by
      rw [sortKeysItems, plainItems, plain_sortKeys j, plain_sortKeysItems js, plainItems]

theorem plain_sortKeysFields : ∀ fields : List (String × Json),
    plainFields (sortKeysFields fields) = plainFields fields
  | [] => rfl
  | (key, j) :: fields => by
      rw [sortKeysFields, plainFields, plain_sortKeys j, plain_sortKeysFields fields, plainFields]

end

theorem legibleFields_eq_all (fields : List (String × Json)) :
    legibleFields fields = fields.all fun field => legible field.2 := by
  induction fields with
  | nil => rfl
  | cons field fields ih =>
      obtain ⟨key, j⟩ := field
      rw [legibleFields, ih, List.all_cons]

mutual

theorem legible_sortKeys : ∀ j : Json, legible (sortKeys j) = legible j
  | .list items => legible_sortKeysItems items
  | .obj fields => by
      have hperm := List.perm_insertionSort (fun f g : String × Json => f.1 ≤ g.1)
        (sortKeysFields fields)
      rw [sortKeys, legible, legibleFields_eq_all, hperm.all_eq, ← legibleFields_eq_all,
        legible_sortKeysFields fields, legible]
  | .null | .bool _ | .int _ | .float _ | .str _ | .decimal _ | .time _ => rfl

theorem legible_sortKeysItems : ∀ js : List Json, legibleItems (sortKeysItems js) = legibleItems js
  | [] => rfl
  | j :: js => by
      rw [sortKeysItems, legibleItems, legible_sortKeys j, legible_sortKeysItems js, legibleItems]

theorem legible_sortKeysFields : ∀ fields : List (String × Json),
    legibleFields (sortKeysFields fields) = legibleFields fields
  | [] => rfl
  | (key, j) :: fields => by
      rw [sortKeysFields, legibleFields, legible_sortKeys j, legible_sortKeysFields fields,
        legibleFields]

end

end Crumblr.Json
