import Crumblr.Lib.HashChain
import Crumblr.Lib.Raising
import Crumblr.Persistence.PaperRecords
import Crumblr.Proof.JsonText

/-!
# What a hash of the paper journal stands for

A record's hash covers the text of the record, and the text determines the record, up to one thing:
a key is written as a text whatever it is. A line whose payload is a list of pairs may have keys that
are none, and passes for one that has the texts of those keys.

With keys of one kind the last hash binds the whole history.
-/

namespace Crumblr

/-! ## What a record's text determines -/

/-- A double's text is legible. -/
theorem isFloatText_json (x : Binary64.Value) : Json.isFloatText x.json = true := by
  have hchar : ∀ c, Binary64.IsTextChar c → c ≠ ',' ∧ c ≠ ']' ∧ c ≠ '\x7d' := by
    intro c hc
    refine ⟨?_, ?_, ?_⟩
    · rintro rfl
      exact absurd hc (by unfold Binary64.IsTextChar; decide)
    · rintro rfl
      exact absurd hc (by unfold Binary64.IsTextChar; decide)
    · rintro rfl
      exact absurd hc (by unfold Binary64.IsTextChar; decide)
  have hmark : ∀ c ∈ ".eNI".toList, ¬ (c = '-' ∨ c.isDigit = true) := by
    have hall : (".eNI".toList.all fun c => decide (¬ (c = '-' ∨ c.isDigit = true))) = true := by
      decide
    exact fun c hc => of_decide_eq_true (List.all_eq_true.mp hall c hc)
  unfold Json.isFloatText
  refine Bool.and_eq_true_iff.mpr ⟨Bool.and_eq_true_iff.mpr ⟨?_, ?_⟩, ?_⟩
  · exact List.all_eq_true.mpr fun c hc =>
      decide_eq_true (hchar c (Binary64.isTextChar_json hc))
  · obtain ⟨c, hc, hcmark⟩ := Binary64.mark_json x
    exact List.any_eq_true.mpr ⟨c, hc, decide_eq_true (hmark c hcmark)⟩
  · obtain ⟨c, rest, htext, hhead⟩ := Binary64.json_head x
    rw [htext]
    refine decide_eq_true ?_
    rcases hhead with hdigit | rfl | rfl | rfl
    · exact congrArg some (Json.kindOf_intChar (.inr hdigit))
    · rfl
    · rfl
    · rfl

mutual

/-- What a line says is legible. -/
theorem legible_ofValue? : ∀ (v : PyJson.Value) {j : Json}, Json.ofValue? v = some j →
    j.legible = true
  | .null, j, h => by
      cases h
      rfl
  | .bool b, j, h => by
      cases h
      rfl
  | .int n, j, h => by
      cases h
      rfl
  | .float text, j, h => by
      cases h
      change Json.isFloatText (String.ofList _).toList = true
      rw [String.toList_ofList]
      exact isFloatText_json _
  | .str codes, j, h => by
      obtain ⟨s, -, rfl⟩ := Option.map_eq_some_iff.mp h
      rfl
  | .list items, j, h => by
      obtain ⟨js, hjs, rfl⟩ := Option.map_eq_some_iff.mp h
      exact legible_ofItems? items hjs
  | .obj fields, j, h => by
      obtain ⟨fs, hfs, rfl⟩ := Option.map_eq_some_iff.mp h
      exact legible_ofFields? fields hfs

theorem legible_ofItems? : ∀ (vs : List PyJson.Value) {js : List Json},
    Json.ofItems? vs = some js → Json.legibleItems js = true
  | [], js, h => by
      cases h
      rfl
  | v :: vs, js, h => by
      obtain ⟨j, hj, h⟩ := Option.bind_eq_some_iff.mp h
      obtain ⟨js', hjs', h⟩ := Option.bind_eq_some_iff.mp h
      cases h
      exact Bool.and_eq_true_iff.mpr ⟨legible_ofValue? v hj, legible_ofItems? vs hjs'⟩

theorem legible_ofFields? : ∀ (fields : List (List Nat × PyJson.Value)) {fs : List (String × Json)},
    Json.ofFields? fields = some fs → Json.legibleFields fs = true
  | [], fs, h => by
      cases h
      rfl
  | (key, v) :: fields, fs, h => by
      obtain ⟨k, -, h⟩ := Option.bind_eq_some_iff.mp h
      obtain ⟨j, hj, h⟩ := Option.bind_eq_some_iff.mp h
      obtain ⟨fs', hfs', h⟩ := Option.bind_eq_some_iff.mp h
      cases h
      exact Bool.and_eq_true_iff.mpr ⟨legible_ofValue? v hj, legible_ofFields? fields hfs'⟩

end

/-- A key as its text, and whether it is one. Two keys are one if they are shown alike. -/
def PyKey.shown (k : PyKey String) : Bool × String := (k.isText, k.text)

/-- A field of a payload, as it is shown, the keys in its value in order. -/
def shownField (f : PyKey String × Json) : (Bool × String) × Json := (f.1.shown, f.2.sortKeys)

namespace PaperRecord

/-- The same entry: a dictionary is the same in any order. -/
structure Same (r r' : PaperRecord) : Prop where
  sequence : r.sequence = r'.sequence
  eventType : r.eventType = r'.eventType
  eventKey : r.eventKey = r'.eventKey
  previousHash : r.previousHash = r'.previousHash
  recordHash : r.recordHash = r'.recordHash
  payload : (r.payload.map shownField).Perm (r'.payload.map shownField)

/-- Every key of the payload is a text. -/
def textual (r : PaperRecord) : Bool := r.payload.all fun f => f.1.isText

/-- What a record that was taken is like: its values are legible, and its keys are all texts or none
is. -/
structure Taken (host : JournalHost) (r : PaperRecord) : Prop where
  legible : ∀ f ∈ r.payload, f.2.legible = true
  uniform : ∀ f ∈ r.payload, f.1.isText = r.textual
  hash : r.recordHash = host.sha256Hex r.canonicalText

variable {host : JournalHost} {r r' : PaperRecord}

/-- The payload in the order it is written in. -/
def sorted (r : PaperRecord) : List (PyKey String × Json) :=
  r.payload.insertionSort fun f g => g.1.lt f.1 = false

theorem perm_sorted (r : PaperRecord) : r.sorted.Perm r.payload := List.perm_insertionSort _ _

theorem legible_canonical (h : r.Taken host) :
    (Json.obj [("event_key", .str r.eventKey), ("event_type", .str r.eventType.value),
      ("payload", .obj (r.sorted.map fun f => (f.1.text, f.2.sortKeys))),
      ("previous_hash", .opt .str r.previousHash), ("sequence", .int r.sequence)]).legible
      = true := by
  have hfields : ∀ fields : List (PyKey String × Json), (∀ f ∈ fields, f.2.legible = true) →
      Json.legibleFields (fields.map fun f => (f.1.text, f.2.sortKeys)) = true := by
    intro fields
    induction fields with
    | nil => exact fun _ => rfl
    | cons f fields ih =>
        intro hall
        have hvalue : f.2.sortKeys.legible = true := by
          rw [Json.legible_sortKeys]
          exact hall f List.mem_cons_self
        exact Bool.and_eq_true_iff.mpr
          ⟨hvalue, ih fun g hg => hall g (List.mem_cons_of_mem _ hg)⟩
  have hpayload := hfields r.sorted fun f hf => h.legible f (r.perm_sorted.mem_iff.mp hf)
  have hprevious : (Json.opt .str r.previousHash).legible = true := by
    cases r.previousHash <;> rfl
  simp only [Json.legible, Json.legibleFields, hpayload, hprevious, Bool.and_true]

/-- **A text determines its record**, but for the kind of its keys. -/
theorem eq_of_canonicalText (h : r.Taken host) (h' : r'.Taken host)
    (htext : r.canonicalText = r'.canonicalText) :
    r.sequence = r'.sequence ∧ r.eventType = r'.eventType ∧ r.eventKey = r'.eventKey
      ∧ r.previousHash = r'.previousHash
      ∧ (r.payload.map fun f => (f.1.text, f.2.sortKeys)).Perm
          (r'.payload.map fun f => (f.1.text, f.2.sortKeys)) := by
  have hvalue := Json.eq_of_legible (legible_canonical h) (legible_canonical h') htext
  simp only [Json.obj.injEq, List.cons.injEq, Prod.mk.injEq, Json.str.injEq, Json.int.injEq,
    true_and, and_true] at hvalue
  obtain ⟨hkey, htype, hpayload, hprevious, hsequence⟩ := hvalue
  refine ⟨hsequence, ?_, hkey, ?_, ?_⟩
  · have hof := congrArg PaperJournalEventType.ofValue? htype
    simpa using hof
  · cases hr : r.previousHash <;> cases hr' : r'.previousHash <;> simp_all [Json.opt]
  · have hsorted := (r.perm_sorted.map fun f => (f.1.text, f.2.sortKeys)).symm
    rw [hpayload] at hsorted
    exact hsorted.trans (r'.perm_sorted.map fun f => (f.1.text, f.2.sortKeys))

theorem Same.textual_eq (h : r.Same r') : r.textual = r'.textual := by
  have hkinds : ∀ q : PaperRecord, q.textual = (q.payload.map shownField).all (fun g => g.1.1) := by
    intro q
    rw [List.all_map]
    rfl
  rw [hkinds r, hkinds r', h.payload.all_eq]

/-- **Records of one text are the same**, exactly if both have texts for keys or neither does. -/
theorem same_iff_textual (h : r.Taken host) (h' : r'.Taken host)
    (htext : r.canonicalText = r'.canonicalText) : r.Same r' ↔ r.textual = r'.textual := by
  obtain ⟨hsequence, htype, hkey, hprevious, hpayload⟩ := eq_of_canonicalText h h' htext
  have hshown : ∀ {q : PaperRecord}, q.Taken host → q.payload.map shownField
      = (q.payload.map fun f => (f.1.text, f.2.sortKeys)).map
        fun g => ((q.textual, g.1), g.2) := by
    intro q hq
    rw [List.map_map]
    refine List.map_congr_left fun f hf => ?_
    unfold shownField PyKey.shown
    rw [hq.uniform f hf]
    rfl
  constructor
  · exact Same.textual_eq
  · intro hkind
    refine ⟨hsequence, htype, hkey, hprevious, ?_, ?_⟩
    · rw [h.hash, h'.hash, htext]
    · rw [hshown h, hshown h', hkind]
      exact hpayload.map _

end PaperRecord

/-! ## Keys -/

namespace PyKey

/-- A value that is a text is a key that is. -/
theorem isText_ofValue? {v : PyJson.Value} {k : PyKey (List Nat)} (h : ofValue? v = some k) :
    k.isText = match v with
      | .str _ => true
      | _ => false := by
  cases v <;> cases h <;> rfl

theorem isText_decoded? {k : PyKey (List Nat)} {k' : PyKey String} (h : k.decoded? = some k') :
    k'.isText = k.isText := by
  cases k with
  | str codes =>
      obtain ⟨s, -, rfl⟩ := Option.map_eq_some_iff.mp h
      rfl
  | _ =>
      cases h
      rfl

/-- A text is one key with nothing else. -/
theorem isText_eq_of_same {a b : PyKey (List Nat)} (h : a.same b = true) : a.isText = b.isText := by
  rcases Bool.or_eq_true_iff.mp h with heq | hnumber
  · rw [of_decide_eq_true heq]
  · obtain ⟨hsome, heq⟩ := Bool.and_eq_true_iff.mp hnumber
    have hnone : ∀ k : PyKey (List Nat), k.isText = true → k.number? = Option.none := by
      intro k hk
      cases k with
      | str _ => rfl
      | _ => cases hk
    have hsome' : b.number?.isSome = true := by
      rw [← of_decide_eq_true heq]
      exact hsome
    have hfalse : ∀ k : PyKey (List Nat), k.number?.isSome = true → k.isText = false := by
      intro k hk
      by_contra htext
      rw [hnone k (by simpa using htext)] at hk
      cases hk
    rw [hfalse a hsome, hfalse b hsome']

/-- Keys that can be put in order are texts, all of them or none. -/
theorem Comparable.uniform {keys : List (PyKey (List Nat))} (h : Comparable keys) :
    ∀ k ∈ keys, k.isText = keys.all isText := by
  rcases h with hall | hall | hone
  · intro k hk
    rw [hall]
    exact List.all_eq_true.mp hall k hk
  · intro k hk
    have hnumber : ∀ k : PyKey (List Nat), k.isNumber = true → k.isText = false := by
      intro k hk
      cases k <;> first | rfl | cases hk
    have hk' := hnumber k (List.all_eq_true.mp hall k hk)
    rw [hk']
    refine (Bool.eq_false_iff.mpr fun htrue => ?_).symm
    rw [List.all_eq_true.mp htrue k hk] at hk'
    cases hk'
  · intro k hk
    match keys, hone with
    | [a], _ =>
        obtain rfl := List.mem_singleton.mp hk
        simp

end PyKey

/-- What a pair of a payload begins with is a text. -/
def beginsWithText : PyJson.Value → Bool
  | .list (.str _ :: _) => true
  | .list _ => false
  | _ => true

/-- A payload has texts for keys: it's a dictionary, or a list each of whose pairs begins with a
text. -/
def textKeys : PyJson.Value → Bool
  | .list items => items.all beginsWithText
  | _ => true

theorem all_setKey (fields : List (PyKey (List Nat) × PyJson.Value)) (k : PyKey (List Nat))
    (v : PyJson.Value) : ((setKey fields k v).all fun f => f.1.isText)
      = ((fields.all fun f => f.1.isText) && k.isText) := by
  unfold setKey
  split
  · rename_i hany
    obtain ⟨f, hf, hsame⟩ := List.any_eq_true.mp hany
    have hkeys : ∀ g : PyKey (List Nat) × PyJson.Value,
        (if g.1.same k then (g.1, v) else g).1.isText = g.1.isText := by
      intro g
      split <;> rfl
    rw [List.all_map]
    simp only [Function.comp_def, hkeys]
    cases hk : k.isText with
    | true => rw [Bool.and_true]
    | false =>
        rw [Bool.and_false]
        refine Bool.eq_false_iff.mpr fun htrue => ?_
        have hf' := List.all_eq_true.mp htrue f hf
        rw [PyKey.isText_eq_of_same hsame, hk] at hf'
        cases hf'
  · rw [List.all_append]
    simp

/-- **A dictionary's keys are texts exactly if its source says so.** -/
theorem all_dictOf {v : PyJson.Value} {fields : List (PyKey (List Nat) × PyJson.Value)}
    (h : dictOf v = .ok fields) : (fields.all fun f => f.1.isText) = textKeys v := by
  have hpair : ∀ {element key w : PyJson.Value} {k : PyKey (List Nat)},
      pairOf element = .ok (key, w) → PyKey.ofValue? key = some k →
        k.isText = beginsWithText element := by
    intro element key w k hpair hkey
    rw [PyKey.isText_ofValue? hkey]
    unfold pairOf at hpair
    split at hpair <;> cases hpair
    · cases key <;> rfl
    · rfl
    · rfl
  cases v with
  | obj members =>
      cases h
      simp [textKeys, PyKey.isText]
  | list items =>
      change List.foldlM _ [] items = _ at h
      have hkeys : textKeys (.list items) = ((([] : List (PyKey (List Nat) × PyJson.Value)).all
          fun f => f.1.isText) && items.all beginsWithText) := rfl
      rw [hkeys]
      clear hkeys
      -- the dictionary that's there already is a parameter of the induction
      generalize ([] : List (PyKey (List Nat) × PyJson.Value)) = start at h ⊢
      induction items generalizing start with
      | nil =>
          cases h
          simp
      | cons element items ih =>
          rw [List.foldlM_cons] at h
          obtain ⟨next, hnext, h⟩ := bind_ok h
          obtain ⟨⟨key, w⟩, hkey, hnext⟩ := bind_ok hnext
          cases hof : PyKey.ofValue? key with
          | none =>
              simp only [hof] at hnext
              cases hnext
          | some k =>
              simp only [hof] at hnext
              cases hnext
              rw [ih _ h, all_setKey, hpair hkey hof, List.all_cons, Bool.and_assoc]
  | str codes =>
      cases codes with
      | nil =>
          cases h
          rfl
      | cons c codes => cases h
  | _ => cases h

/-! ## A line that is taken -/

/-- What has been raised is that the journal is corrupt. -/
def IsCorruption {α : Type} (x : Except PyError α) : Prop := ∃ message, x = .error (corruption message)

/-- Whether a line's payload has texts for keys, if it has a payload. -/
def TextKeyed (host : JournalHost) (line : List Char) : Bool :=
  match PyJson.loads host.limits line with
  | .ok raw => (raw.get? "payload").all textKeys
  | .error _ => true

variable {host : JournalHost} {position : Nat} {previous : Option String} {line line' : List Char}
  {raw : RawEntry} {r r' : PaperRecord}

theorem hashed_ok (h : raw.hashed host previous = .ok r) :
    r.Taken host ∧ r.sequence = raw.sequence ∧ r.previousHash = previous
      ∧ r.textual = raw.payload.all fun f => f.1.isText := by
  unfold RawEntry.hashed at h
  split at h
  · cases h
  rename_i hcomparable
  split at h
  · cases h
  rename_i record hrecord
  cases h
  obtain ⟨eventKey, -, hrecord⟩ := Option.bind_eq_some_iff.mp hrecord
  obtain ⟨payload, hpayload, hrecord⟩ := Option.bind_eq_some_iff.mp hrecord
  cases hrecord
  have hfields := Traverse.forall₂_of_some hpayload
  have hkinds : payload.map (fun f => f.1.isText) = raw.payload.map fun f => f.1.isText := by
    refine (Traverse.map_eq_of_forall₂ hfields fun g f hfg => ?_).symm
    obtain ⟨k, hk, hfg⟩ := Option.bind_eq_some_iff.mp hfg
    obtain ⟨j, -, hfg⟩ := Option.bind_eq_some_iff.mp hfg
    cases hfg
    exact (PyKey.isText_decoded? hk).symm
  have hall : (payload.all fun f => f.1.isText) = raw.payload.all fun f => f.1.isText := by
    have hid := congrArg (fun l : List Bool => l.all id) hkinds
    simpa [List.all_map, Function.comp_def] using hid
  refine ⟨⟨?_, ?_, rfl⟩, rfl, rfl, hall⟩
  · intro f hf
    obtain ⟨g, -, hg⟩ := Traverse.exists_left hfields hf
    obtain ⟨k, -, hg⟩ := Option.bind_eq_some_iff.mp hg
    obtain ⟨j, hj, hg⟩ := Option.bind_eq_some_iff.mp hg
    cases hg
    exact legible_ofValue? _ hj
  · intro f hf
    change f.1.isText = payload.all fun f => f.1.isText
    rw [hall]
    have hmem : f.1.isText ∈ raw.payload.map fun f => f.1.isText :=
      hkinds ▸ List.mem_map_of_mem hf
    obtain ⟨g, hg, hgf⟩ := List.mem_map.mp hmem
    have huniform := (not_not.mp hcomparable).uniform g.1 (List.mem_map_of_mem hg)
    rw [List.all_map] at huniform
    rw [← hgf]
    exact huniform

/-- **What a line that is taken says.** -/
theorem readLine_ok (h : readLine host position previous line = .ok r) :
    ∃ raw, decodeLine host line = .ok raw ∧ line.getLast? = some '\n' ∧ raw.sequence = position
      ∧ isPrevious previous raw.previousHash = true ∧ raw.hashed host previous = .ok r
      ∧ raw.recordHash = PyJson.codes r.recordHash := by
  unfold readLine at h
  split at h
  · cases h
  rename_i hline
  split at h
  · split at h <;> cases h
  rename_i raw hraw
  split at h
  · cases h
  rename_i hsequence
  split at h
  · cases h
  rename_i hprevious
  split at h
  · cases h
  rename_i record hhashed
  split at h
  · cases h
  rename_i hhash
  cases h
  exact ⟨raw, hraw, not_not.mp hline, not_not.mp hsequence, by simpa using hprevious, hhashed,
    not_not.mp hhash⟩

theorem payload_decodeLine (h : decodeLine host line = .ok raw) :
    (raw.payload.all fun f => f.1.isText) = TextKeyed host line := by
  obtain ⟨value, hvalue, h⟩ := bind_ok h
  have hloads : PyJson.loads host.limits line = .ok value := by
    unfold parseLine at hvalue
    split at hvalue <;> cases hvalue
    assumption
  obtain ⟨_, -, h⟩ := bind_ok h
  obtain ⟨_, -, h⟩ := bind_ok h
  obtain ⟨_, -, h⟩ := bind_ok h
  obtain ⟨_, -, h⟩ := bind_ok h
  obtain ⟨_, -, h⟩ := bind_ok h
  obtain ⟨_, -, h⟩ := bind_ok h
  obtain ⟨v, hv, h⟩ := bind_ok h
  obtain ⟨payload, hpayload, h⟩ := bind_ok h
  obtain ⟨_, -, h⟩ := bind_ok h
  cases h
  have hget : value.get? "payload" = some v := by
    unfold item at hv
    split at hv
    · split at hv <;> cases hv
      assumption
    · cases hv
    · cases hv
    · cases hv
  unfold TextKeyed
  rw [hloads]
  change _ = (value.get? "payload").all textKeys
  rw [hget]
  exact all_dictOf hpayload

theorem textual_readLine (h : readLine host position previous line = .ok r) :
    r.textual = TextKeyed host line := by
  obtain ⟨raw, hraw, -, -, -, hhashed, -⟩ := readLine_ok h
  rw [(hashed_ok hhashed).2.2.2, payload_decodeLine hraw]

/-! ## A line that is not -/

/-- What a line ends in that is read where it doesn't belong. A nesting too deep, a number that's
infinite, keys that cannot be compared or a lone surrogate raises what the reader does not catch. -/
def Escapes (host : JournalHost) (position : Nat) (previous : Option String) (line : List Char) :
    Prop :=
  line.getLast? = some '\n' ∧
    ((∃ error, decodeLine host line = .error error ∧ error.kind ∉ malformedKinds)
      ∨ ∃ raw, decodeLine host line = .ok raw ∧ raw.sequence = position
        ∧ isPrevious previous raw.previousHash = true
        ∧ ∃ error, raw.hashed host previous = .error error)

theorem parseLine_error {e : PyError} (h : parseLine host line = .error e) :
    e.kind ≠ .journalCorruption := by
  unfold parseLine at h
  split at h <;> cases h <;> decide

theorem item_error {value : PyJson.Value} {key : String} {e : PyError}
    (h : item value key = .error e) : e.kind ≠ .journalCorruption := by
  unfold item at h
  split at h
  · split at h <;> cases h
    exact ErrorKind.noConfusion
  all_goals
    cases h
    exact ErrorKind.noConfusion

theorem intOf_error {v : PyJson.Value} {e : PyError} (h : intOf host v = .error e) :
    e.kind ≠ .journalCorruption := by
  unfold intOf at h
  split at h
  · cases h
  · cases h
  · split at h <;> cases h <;> exact ErrorKind.noConfusion
  · split at h <;> cases h
    exact ErrorKind.noConfusion
  · cases h
    exact ErrorKind.noConfusion

theorem eventTypeOf_error {v : PyJson.Value} {e : PyError} (h : eventTypeOf v = .error e) :
    e.kind ≠ .journalCorruption := by
  unfold eventTypeOf at h
  dsimp only at h
  split at h <;> cases h
  decide

theorem pairOf_error {v : PyJson.Value} {e : PyError} (h : pairOf v = .error e) :
    e.kind ≠ .journalCorruption := by
  unfold pairOf at h
  split at h <;> cases h <;> exact ErrorKind.noConfusion

theorem dictOf_error {v : PyJson.Value} {e : PyError} (h : dictOf v = .error e) :
    e.kind ≠ .journalCorruption := by
  unfold dictOf at h
  split at h
  · cases h
  · rename_i items
    generalize ([] : List (PyKey (List Nat) × PyJson.Value)) = start at h
    induction items generalizing start with
    | nil => cases h
    | cons element items ih =>
        rw [List.foldlM_cons] at h
        rcases bind_error h with hstep | ⟨next, -, hrest⟩
        · rcases bind_error hstep with hpair | ⟨⟨key, w⟩, -, hkey⟩
          · exact pairOf_error hpair
          · dsimp only at hkey
            split at hkey <;> cases hkey
            exact ErrorKind.noConfusion
        · exact ih next hrest
  · cases h
  all_goals
    cases h
    exact ErrorKind.noConfusion

/-- Decoding a line never finds the journal corrupt. -/
theorem decodeLine_error {e : PyError} (h : decodeLine host line = .error e) :
    e.kind ≠ .journalCorruption := by
  rcases bind_error h with h | ⟨_, -, h⟩
  · exact parseLine_error h
  rcases bind_error h with h | ⟨_, -, h⟩
  · exact item_error h
  rcases bind_error h with h | ⟨_, -, h⟩
  · exact intOf_error h
  rcases bind_error h with h | ⟨_, -, h⟩
  · exact item_error h
  rcases bind_error h with h | ⟨_, -, h⟩
  · exact eventTypeOf_error h
  rcases bind_error h with h | ⟨_, -, h⟩
  · exact item_error h
  rcases bind_error h with h | ⟨_, -, h⟩
  · exact item_error h
  rcases bind_error h with h | ⟨_, -, h⟩
  · exact item_error h
  rcases bind_error h with h | ⟨_, -, h⟩
  · exact dictOf_error h
  rcases bind_error h with h | ⟨_, -, h⟩
  · exact item_error h
  · cases h

theorem hashed_error {e : PyError} (h : raw.hashed host previous = .error e) :
    e.kind ≠ .journalCorruption := by
  unfold RawEntry.hashed at h
  split at h
  · cases h
    decide
  · split at h <;> cases h
    decide

/-- **A line is taken, or found corrupt, or escapes.** -/
theorem readLine_cases (host : JournalHost) (position : Nat) (previous : Option String)
    (line : List Char) :
    ((∃ r, readLine host position previous line = .ok r) ∧ ¬ Escapes host position previous line)
      ∨ (IsCorruption (readLine host position previous line)
        ∧ ¬ Escapes host position previous line)
      ∨ ((∃ e, readLine host position previous line = .error e ∧ e.kind ≠ .journalCorruption)
        ∧ Escapes host position previous line) := by
  unfold readLine
  split
  · rename_i hline
    exact .inr (.inl ⟨⟨_, rfl⟩, fun hescapes => hline hescapes.1⟩)
  rename_i hline
  split
  · rename_i error herror
    split
    · rename_i hkind
      refine .inr (.inl ⟨⟨_, rfl⟩, ?_⟩)
      rintro ⟨-, ⟨error', herror', hkind'⟩ | ⟨raw, hraw, -⟩⟩
      · rw [herror] at herror'
        cases herror'
        exact hkind' hkind
      · rw [herror] at hraw
        cases hraw
    · rename_i hkind
      exact .inr (.inr ⟨⟨error, rfl, decodeLine_error herror⟩,
        not_not.mp hline, .inl ⟨error, herror, hkind⟩⟩)
  rename_i raw hraw
  have hescapes : Escapes host position previous line → raw.sequence = position
      ∧ isPrevious previous raw.previousHash = true
      ∧ ∃ error, raw.hashed host previous = .error error := by
    rintro ⟨-, ⟨error, herror, -⟩ | ⟨raw', hraw', h⟩⟩
    · rw [hraw] at herror
      cases herror
    · rw [hraw] at hraw'
      cases hraw'
      exact h
  split
  · rename_i hsequence
    exact .inr (.inl ⟨⟨_, rfl⟩, fun h => hsequence (hescapes h).1⟩)
  rename_i hsequence
  split
  · rename_i hprevious
    refine .inr (.inl ⟨⟨_, rfl⟩, fun h => ?_⟩)
    rw [(hescapes h).2.1] at hprevious
    cases hprevious
  rename_i hprevious
  cases hhashed : raw.hashed host previous with
  | error error =>
      exact .inr (.inr ⟨⟨error, rfl, hashed_error hhashed⟩, not_not.mp hline,
        .inr ⟨raw, hraw, not_not.mp hsequence, by simpa using hprevious, error, hhashed⟩⟩)
  | ok record =>
      have hnot : ¬ Escapes host position previous line := by
        intro h
        obtain ⟨error, herror⟩ := (hescapes h).2.2
        rw [hhashed] at herror
        cases herror
      dsimp only
      split
      · exact .inr (.inl ⟨⟨_, rfl⟩, hnot⟩)
      · exact .inl ⟨⟨_, rfl⟩, hnot⟩

/-- A line that is taken somewhere is corrupt where another number is due. -/
theorem corrupt_of_position (h : readLine host position previous line = .ok r) {position' : Nat}
    (hne : position ≠ position') (previous' : Option String) :
    IsCorruption (readLine host position' previous' line) := by
  obtain ⟨raw, hraw, hline, hsequence, -⟩ := readLine_ok h
  unfold readLine
  rw [if_neg (not_not.mpr hline), hraw]
  dsimp only
  rw [if_pos]
  · exact ⟨_, rfl⟩
  · rw [hsequence]
    exact fun hcontra => hne (Int.ofNat_inj.mp hcontra)

theorem codes_inj {s t : String} (h : PyJson.codes s = PyJson.codes t) : s = t := by
  have hinj : Function.Injective Char.toNat := fun a b hab => by
    rw [← Char.ofNat_toNat a, hab, Char.ofNat_toNat]
  exact String.toList_inj.mp (List.map_injective_iff.mpr hinj h)

theorem isPrevious_some {hash : String} {v : PyJson.Value} :
    isPrevious (some hash) v = true ↔ v = .str (PyJson.codes hash) := by
  cases v with
  | str codes =>
      unfold isPrevious
      rw [decide_eq_true_iff, Option.map_some, Option.some.injEq, PyJson.Value.str.injEq, eq_comm]
  | _ => exact ⟨fun h => absurd h Bool.false_ne_true, fun h => by cases h⟩

/-- A line that is taken after one hash is corrupt after another. -/
theorem corrupt_of_previous {hash hash' : String}
    (h : readLine host position (some hash) line = .ok r) (hne : hash ≠ hash') :
    IsCorruption (readLine host position (some hash') line) := by
  obtain ⟨raw, hraw, hline, hsequence, hprevious, -⟩ := readLine_ok h
  have hbroken : isPrevious (some hash') raw.previousHash = false := by
    refine Bool.eq_false_iff.mpr fun hcontra => hne (codes_inj ?_)
    rw [isPrevious_some.mp hprevious] at hcontra
    exact PyJson.Value.str.inj (isPrevious_some.mp hcontra)
  unfold readLine
  rw [if_neg (not_not.mpr hline), hraw]
  dsimp only
  rw [if_neg (not_not.mpr hsequence), if_pos hbroken]
  exact ⟨_, rfl⟩

/-! ## A file -/

section Files

variable {rs rs' : List PaperRecord} {lines lines' : List (List Char)}

/-- The hash of the last record. -/
def lastHash (rs : List PaperRecord) : Option String := rs.getLast?.map (·.recordHash)

@[simp] theorem lastHash_append (rs : List PaperRecord) (r : PaperRecord) :
    lastHash (rs ++ [r]) = some r.recordHash := by
  simp [lastHash]

theorem readLines_append {before after : List (List Char)}
    (h : readLines host before = .ok rs) :
    readLines host (before ++ after) = after.foldlM (readNext host) rs := by
  unfold readLines at h ⊢
  rw [List.foldlM_append, h]
  rfl

theorem readNext_ok : readNext host rs line = .ok rs'
    ↔ ∃ r, readLine host rs.length (lastHash rs) line = .ok r ∧ rs' = rs ++ [r] := by
  unfold readNext lastHash
  cases readLine host rs.length (rs.getLast?.map (·.recordHash)) line with
  | error e =>
      constructor
      · intro h
        cases h
      · rintro ⟨r, hr, -⟩
        cases hr
  | ok r =>
      constructor
      · intro h
        cases h
        exact ⟨r, rfl, rfl⟩
      · rintro ⟨r', hr', rfl⟩
        cases hr'
        rfl

theorem foldlM_cons_of_ok {after : List (List Char)}
    (h : readLine host rs.length (lastHash rs) line = .ok r) :
    (line :: after).foldlM (readNext host) rs = after.foldlM (readNext host) (rs ++ [r]) := by
  rw [List.foldlM_cons, readNext_ok.mpr ⟨r, h, rfl⟩]
  rfl

/-- A line that's not taken ends the reading. -/
theorem foldlM_cons_of_error {after : List (List Char)} {e : PyError}
    (h : readLine host rs.length (lastHash rs) line = .error e) :
    (line :: after).foldlM (readNext host) rs = .error e := by
  have hnext : readNext host rs line = .error e := by
    unfold lastHash at h
    unfold readNext
    rw [h]
  rw [List.foldlM_cons, hnext]
  rfl

theorem corrupt_foldlM {after : List (List Char)}
    (h : IsCorruption (readLine host rs.length (lastHash rs) line)) :
    IsCorruption ((line :: after).foldlM (readNext host) rs) := by
  obtain ⟨message, h⟩ := h
  exact ⟨message, foldlM_cons_of_error h⟩

/-- What is read further depends on how many records there are, and on the last one's hash. -/
theorem foldlM_congr {after : List (List Char)} (hlength : rs.length = rs'.length)
    (hlast : lastHash rs = lastHash rs')
    (h : ∃ out, after.foldlM (readNext host) rs = .ok out) :
    ∃ out, after.foldlM (readNext host) rs' = .ok out := by
  induction after generalizing rs rs' with
  | nil => exact ⟨rs', rfl⟩
  | cons line after ih =>
      obtain ⟨out, h⟩ := h
      rw [List.foldlM_cons] at h
      obtain ⟨next, hnext, h⟩ := bind_ok h
      obtain ⟨r, hr, rfl⟩ := readNext_ok.mp hnext
      rw [hlength, hlast] at hr
      rw [foldlM_cons_of_ok hr]
      exact ih (by simp [hlength]) (by simp) ⟨out, h⟩

/-- **What a line of an accepted file is**: it was taken at its place. -/
theorem readLines_split {before after : List (List Char)}
    (h : readLines host (before ++ line :: after) = .ok rs) :
    ∃ rs₁ r, readLines host before = .ok rs₁ ∧ rs₁.length = before.length
      ∧ readLine host before.length (lastHash rs₁) line = .ok r
      ∧ ∃ out, after.foldlM (readNext host) (rs₁ ++ [r]) = .ok out := by
  have hlengths : ∀ (lines : List (List Char)) {start out : List PaperRecord},
      lines.foldlM (readNext host) start = .ok out → out.length = start.length + lines.length := by
    intro lines
    induction lines with
    | nil =>
        intro start out h
        cases h
        rfl
    | cons line lines ih =>
        intro start out h
        rw [List.foldlM_cons] at h
        obtain ⟨next, hnext, h⟩ := bind_ok h
        obtain ⟨r, -, rfl⟩ := readNext_ok.mp hnext
        rw [ih h, List.length_append, List.length_singleton, List.length_cons]
        omega
  unfold readLines at h
  rw [List.foldlM_append] at h
  obtain ⟨rs₁, hbefore, h⟩ := bind_ok h
  have hlength : rs₁.length = before.length := by
    rw [hlengths before hbefore, List.length_nil, Nat.zero_add]
  rw [List.foldlM_cons] at h
  obtain ⟨next, hnext, h⟩ := bind_ok h
  obtain ⟨r, hr, rfl⟩ := readNext_ok.mp hnext
  rw [hlength] at hr
  exact ⟨rs₁, r, hbefore, hlength, hr, rs, h⟩

/-- **The records of an accepted file are a chain**, each of them taken. -/
theorem linked_readLines (h : readLines host lines = .ok rs) :
    HashChain.Linked (·.recordHash) (·.previousHash) rs ∧ (∀ r ∈ rs, r.Taken host)
      ∧ List.Forall₂ (fun line r => r.textual = TextKeyed host line) lines rs := by
  induction lines using List.reverseRecOn generalizing rs with
  | nil =>
      cases h
      exact ⟨.nil, nofun, .nil⟩
  | append_singleton lines line ih =>
      obtain ⟨rs₁, r, hbefore, hlength, hr, out, hout⟩ := readLines_split h
      have hrs : rs = rs₁ ++ [r] := by
        rw [readLines_append hbefore, foldlM_cons_of_ok (hlength ▸ hr)] at h
        exact (Except.ok.inj h).symm
      subst hrs
      obtain ⟨hlinked, htaken, hkinds⟩ := ih hbefore
      obtain ⟨raw, -, -, -, -, hhashed, -⟩ := readLine_ok hr
      obtain ⟨hr', -, hprevious, -⟩ := hashed_ok hhashed
      refine ⟨.snoc hlinked hprevious, ?_, List.rel_append hkinds (.cons (textual_readLine hr) .nil)⟩
      intro q hq
      rcases List.mem_append.mp hq with hq | hq
      · exact htaken q hq
      · obtain rfl := List.mem_singleton.mp hq
        exact hr'

/-! ## Keys of another kind -/

/-- A line says what another does, but for its payload's keys: these are texts in one of them, and
have the same texts without being texts in the other. -/
def OtherKeys (host : JournalHost) (previous : Option String) (line line' : List Char) : Prop :=
  TextKeyed host line ≠ TextKeyed host line' ∧ line'.getLast? = some '\n' ∧
    ∃ raw raw', decodeLine host line = .ok raw ∧ decodeLine host line' = .ok raw'
      ∧ raw'.sequence = raw.sequence ∧ isPrevious previous raw'.previousHash = true
      ∧ raw'.recordHash = raw.recordHash ∧ PyKey.Comparable (raw'.payload.map Prod.fst)
      ∧ (raw'.record? previous).map (·.canonicalText) = (raw.record? previous).map (·.canonicalText)

theorem record?_of_hashed (h : raw.hashed host previous = .ok r) :
    PyKey.Comparable (raw.payload.map Prod.fst)
      ∧ (raw.record? previous).map (·.canonicalText) = some r.canonicalText
      ∧ r.recordHash = host.sha256Hex r.canonicalText := by
  unfold RawEntry.hashed at h
  split at h
  · cases h
  rename_i hcomparable
  cases hrecord : raw.record? previous with
  | none =>
      rw [hrecord] at h
      cases h
  | some record =>
      rw [hrecord] at h
      cases h
      exact ⟨not_not.mp hcomparable, rfl, rfl⟩

theorem hashed_of_record? (hcomparable : PyKey.Comparable (raw.payload.map Prod.fst))
    {text : List Char} (htext : (raw.record? previous).map (·.canonicalText) = some text) :
    ∃ r, raw.hashed host previous = .ok r ∧ r.canonicalText = text
      ∧ r.recordHash = host.sha256Hex text := by
  obtain ⟨record, hrecord, rfl⟩ := Option.map_eq_some_iff.mp htext
  refine ⟨{ record with recordHash := host.sha256Hex record.canonicalText }, ?_, rfl, rfl⟩
  unfold RawEntry.hashed
  rw [if_neg (not_not.mpr hcomparable), hrecord]

/-- **A line passes for another** exactly if it differs from it in what its keys are. -/
theorem otherKeys_iff (hsha : Function.Injective host.sha256Hex)
    (h : readLine host position previous line = .ok r) :
    OtherKeys host previous line line'
      ↔ ∃ r', readLine host position previous line' = .ok r' ∧ r'.recordHash = r.recordHash
        ∧ ¬ r.Same r' := by
  obtain ⟨raw, hraw, hline, hsequence, hprevious, hhashed, hrecordHash⟩ := readLine_ok h
  obtain ⟨hcomparable, htext, hhash⟩ := record?_of_hashed hhashed
  constructor
  · rintro ⟨hkeys, hline', raw₀, raw', hraw₀, hraw', hsequence', hprevious', hrecordHash', hcomparable',
      htext'⟩
    rw [hraw] at hraw₀
    cases hraw₀
    rw [htext] at htext'
    obtain ⟨r', hhashed', hcanonical, hhash'⟩ := @hashed_of_record? host _ _ hcomparable' _ htext'
    have hsame : r'.recordHash = r.recordHash := hhash'.trans hhash.symm
    have hread : readLine host position previous line' = .ok r' := by
      unfold readLine
      rw [if_neg (not_not.mpr hline'), hraw']
      dsimp only
      rw [if_neg (not_not.mpr (hsequence'.trans hsequence)), hprevious', if_neg Bool.noConfusion,
        hhashed']
      dsimp only
      rw [if_neg (not_not.mpr ?_)]
      rw [hrecordHash', hrecordHash, hsame]
    refine ⟨r', hread, hsame, fun hcontra => hkeys ?_⟩
    rw [← textual_readLine h, ← textual_readLine hread]
    exact (PaperRecord.same_iff_textual (hashed_ok hhashed).1 (hashed_ok hhashed').1
      hcanonical.symm).mp hcontra
  · rintro ⟨r', hread, hsame, hdiffer⟩
    obtain ⟨raw', hraw', hline', hsequence', hprevious', hhashed', hrecordHash'⟩ := readLine_ok hread
    obtain ⟨hcomparable', htext', hhash'⟩ := record?_of_hashed hhashed'
    have hcanonical : r.canonicalText = r'.canonicalText := by
      rw [hhash, hhash'] at hsame
      exact (hsha hsame).symm
    refine ⟨fun hkeys => hdiffer ?_, hline', raw, raw', hraw, hraw',
      hsequence'.trans hsequence.symm, hprevious', ?_, hcomparable', ?_⟩
    · refine (PaperRecord.same_iff_textual (hashed_ok hhashed).1 (hashed_ok hhashed').1
        hcanonical).mpr ?_
      rw [textual_readLine h, textual_readLine hread, hkeys]
    · rw [hrecordHash', hrecordHash, hsame]
    · rw [htext, htext', hcanonical]

/-! ## Tampering -/

/-- A line changed, the hashes after it being left as they are. -/
theorem changed_iff (hsha : Function.Injective host.sha256Hex) {before after : List (List Char)}
    (h : readLines host before = .ok rs)
    (hline : readLine host rs.length (lastHash rs) line = .ok r)
    (hafter : ∃ out, after.foldlM (readNext host) (rs ++ [r]) = .ok out)
    (hchanged : ∀ r', readLine host rs.length (lastHash rs) line' = .ok r' → ¬ r.Same r')
    (hlast : after = [] → ∀ r', readLine host rs.length (lastHash rs) line' = .ok r' →
      r'.recordHash = r.recordHash) :
    IsCorruption (readLines host (before ++ line' :: after))
      ↔ ¬ Escapes host rs.length (lastHash rs) line'
        ∧ ¬ OtherKeys host (lastHash rs) line line' := by
  rw [readLines_append h, otherKeys_iff hsha hline]
  rcases readLine_cases host rs.length (lastHash rs) line' with
    ⟨⟨r', hread⟩, hescapes⟩ | ⟨hcorrupt, hescapes⟩ | ⟨⟨e, herror, hkind⟩, hescapes⟩
  · rw [foldlM_cons_of_ok hread]
    by_cases hsame : r'.recordHash = r.recordHash
    · refine iff_of_false ?_ fun hcontra =>
        hcontra.2 ⟨r', hread, hsame, hchanged r' hread⟩
      rintro ⟨message, hcontra⟩
      obtain ⟨out, hout⟩ := @foldlM_congr _ _ (rs ++ [r']) _ (by simp) (by simp [hsame]) hafter
      rw [hout] at hcontra
      cases hcontra
    · refine iff_of_true ?_ ⟨hescapes, ?_⟩
      · cases after with
        | nil => exact absurd (hlast rfl r' hread) hsame
        | cons next after =>
            obtain ⟨out, hout⟩ := hafter
            rw [List.foldlM_cons] at hout
            obtain ⟨_, hnext, -⟩ := bind_ok hout
            obtain ⟨q, hq, -⟩ := readNext_ok.mp hnext
            refine corrupt_foldlM ?_
            rw [lastHash_append, List.length_append, List.length_singleton] at hq ⊢
            exact corrupt_of_previous hq (Ne.symm hsame)
      · rintro ⟨q, hq, hcontra, -⟩
        rw [hread] at hq
        cases hq
        exact hsame hcontra
  · refine iff_of_true (corrupt_foldlM hcorrupt) ⟨hescapes, ?_⟩
    rintro ⟨q, hq, -⟩
    obtain ⟨message, hcorrupt⟩ := hcorrupt
    rw [hcorrupt] at hq
    cases hq
  · refine iff_of_false ?_ fun hcontra => hcontra.1 hescapes
    rintro ⟨message, hcontra⟩
    rw [foldlM_cons_of_error herror] at hcontra
    cases hcontra
    exact hkind rfl

/-- **A line put in** is corrupt itself, or makes the next one so. -/
theorem inserted_iff {before : List (List Char)} {next : List Char} {after : List (List Char)}
    (h : readLines host before = .ok rs)
    (hnext : readLine host rs.length (lastHash rs) next = .ok r) :
    IsCorruption (readLines host (before ++ line' :: next :: after))
      ↔ ¬ Escapes host rs.length (lastHash rs) line' := by
  rw [readLines_append h]
  rcases readLine_cases host rs.length (lastHash rs) line' with
    ⟨⟨r', hread⟩, hescapes⟩ | ⟨hcorrupt, hescapes⟩ | ⟨⟨e, herror, hkind⟩, hescapes⟩
  · rw [foldlM_cons_of_ok hread]
    refine iff_of_true (corrupt_foldlM ?_) hescapes
    refine corrupt_of_position hnext ?_ _
    rw [List.length_append, List.length_singleton]
    omega
  · exact iff_of_true (corrupt_foldlM hcorrupt) hescapes
  · refine iff_of_false ?_ fun hcontra => hcontra hescapes
    rintro ⟨message, hcontra⟩
    rw [foldlM_cons_of_error herror] at hcontra
    cases hcontra
    exact hkind rfl

/-- **Lines in another order** are corrupt where the order first differs. -/
theorem corrupt_of_perm (h : readLines host lines = .ok rs) (hperm : lines.Perm lines')
    (hne : lines ≠ lines') : IsCorruption (readLines host lines') := by
  have hsplit : ∀ xs ys : List (List Char), xs.length = ys.length → xs ≠ ys →
      ∃ before x y xs' ys', xs = before ++ x :: xs' ∧ ys = before ++ y :: ys' ∧ x ≠ y := by
    intro xs
    induction xs with
    | nil =>
        intro ys hlength hne
        exact absurd (List.length_eq_zero_iff.mp hlength.symm).symm hne
    | cons x xs ih =>
        intro ys hlength hne
        cases ys with
        | nil => cases hlength
        | cons y ys =>
            by_cases hxy : x = y
            · subst hxy
              obtain ⟨before, a, b, xs', ys', rfl, rfl, hab⟩ :=
                ih ys (Nat.succ.inj hlength) fun heq => hne (by rw [heq])
              exact ⟨x :: before, a, b, xs', ys', rfl, rfl, hab⟩
            · exact ⟨[], x, y, xs, ys, rfl, rfl, hxy⟩
  obtain ⟨before, x, y, xs', ys', rfl, rfl, hxy⟩ := hsplit lines lines' hperm.length_eq hne
  obtain ⟨rs₁, q, hbefore, hlength, hq, -⟩ := readLines_split h
  rw [readLines_append hbefore]
  refine corrupt_foldlM ?_
  -- the line is one of the accepted file's, and stood at another place there
  have hmem : y ∈ before ++ x :: xs' := hperm.mem_iff.mpr (by simp)
  obtain ⟨before', after', hplace⟩ := List.append_of_mem hmem
  rw [hplace] at h
  obtain ⟨rs₂, q', -, -, hq', -⟩ := readLines_split h
  refine corrupt_of_position hq' ?_ _
  rw [hlength]
  intro hcontra
  have hx : (before ++ x :: xs')[before.length]? = some x := by simp
  rw [hplace, ← hcontra] at hx
  have hy : (before' ++ y :: after')[before'.length]? = some y := by simp
  rw [hy] at hx
  exact hxy (Option.some.inj hx).symm

/-! ## What the last hash binds -/

/-- The lines of a file. -/
def HasLines (file : ByteArray) (lines : List (List Char)) : Prop :=
  ∃ text, PyText.decode? file = some text ∧ PyText.lines text = lines

theorem readJournal_of_lines {file : ByteArray} (h : HasLines file lines) :
    readJournal host file = readLines host lines := by
  obtain ⟨text, htext, rfl⟩ := h
  unfold readJournal
  rw [htext]

/-- A file of these lines. -/
def fileOf (lines : List (List Char)) : ByteArray :=
  (String.ofList (lines.flatMap (· ++ ['\n']))).toUTF8

theorem hasLines_fileOf {lines : List (List Char)}
    (h : ∀ line ∈ lines, '\r' ∉ line ∧ '\n' ∉ line) :
    HasLines (fileOf lines) (lines.map (· ++ ['\n'])) := by
  refine ⟨_, PyText.decode?_toUTF8 ?_, ?_⟩
  · simp only [List.mem_flatMap, List.mem_append, List.mem_singleton, not_exists, not_and, not_or]
    exact fun line hline => ⟨(h line hline).1, by decide⟩
  · induction lines with
    | nil => rfl
    | cons line lines ih =>
        obtain ⟨hline, hlines⟩ := List.forall_mem_cons.mp h
        rw [List.flatMap_cons, List.append_assoc, List.singleton_append,
          PyText.lines_append hline.2, ih hlines, List.map_cons]

/-- The hash a line after these refers to. -/
def hashBefore (host : JournalHost) (before : List (List Char)) : Option String :=
  match readLines host before with
  | .ok rs => lastHash rs
  | .error _ => none

/-- What a file with a line in it makes known of what comes before the line, and after it. -/
theorem accepted_split {before after : List (List Char)}
    (h : readLines host (before ++ line :: after) = .ok rs) :
    ∃ rs₁ r, readLines host before = .ok rs₁ ∧ rs₁.length = before.length
      ∧ lastHash rs₁ = hashBefore host before
      ∧ readLine host rs₁.length (lastHash rs₁) line = .ok r
      ∧ ∃ out, after.foldlM (readNext host) (rs₁ ++ [r]) = .ok out := by
  obtain ⟨rs₁, r, hbefore, hlength, hr, hout⟩ := readLines_split h
  refine ⟨rs₁, r, hbefore, hlength, ?_, hlength ▸ hr, hout⟩
  unfold hashBefore
  rw [hbefore]

end Files

/-- Records of the same texts are the same, exactly if their lines' keys are of one kind. -/
theorem forall₂_same_iff {lines lines' : List (List Char)} {rs rs' : List PaperRecord}
    (hkinds : List.Forall₂ (fun line r => r.textual = TextKeyed host line) lines rs)
    (hkinds' : List.Forall₂ (fun line r => r.textual = TextKeyed host line) lines' rs')
    (htexts : List.Forall₂ (fun r r' => r.Taken host ∧ r'.Taken host
      ∧ r.canonicalText = r'.canonicalText) rs rs') :
    List.Forall₂ PaperRecord.Same rs rs'
      ↔ List.Forall₂ (fun line line' => TextKeyed host line = TextKeyed host line') lines lines' := by
  induction htexts generalizing lines lines' with
  | nil =>
      cases hkinds
      cases hkinds'
      exact iff_of_true .nil .nil
  | cons htext _ ih =>
      cases hkinds with
      | cons hline hkinds =>
      cases hkinds' with
      | cons hline' hkinds' =>
      rw [List.forall₂_cons, List.forall₂_cons, ih hkinds hkinds',
        PaperRecord.same_iff_textual htext.1 htext.2.1 htext.2.2, hline, hline']

/-- **What the hash chain of a journal binds.** Two files that end in one hash hold the same entries
if their keys are of the same kind; and a line that's changed, put in, taken out or moved is found out,
if it can be read at all and does not pass for the line that was there. -/
structure ChainBinds (host : JournalHost) : Prop where
  history {file file' : ByteArray} {lines lines' : List (List Char)} {rs rs' : List PaperRecord}
    (hfile : HasLines file lines) (hfile' : HasLines file' lines')
    (h : readJournal host file = .ok rs) (h' : readJournal host file' = .ok rs')
    (hlast : lastHash rs = lastHash rs') :
    List.Forall₂ PaperRecord.Same rs rs'
      ↔ List.Forall₂ (fun line line' => TextKeyed host line = TextKeyed host line') lines lines'
  changed {file file' : ByteArray} {before after : List (List Char)} {line line' : List Char}
    {rs : List PaperRecord} (hfile : HasLines file (before ++ line :: after))
    (hfile' : HasLines file' (before ++ line' :: after)) (h : readJournal host file = .ok rs)
    (hchanged : ∀ r r', readLine host before.length (hashBefore host before) line = .ok r →
      readLine host before.length (hashBefore host before) line' = .ok r' → ¬ r.Same r')
    (hlast : after = [] → ∀ raw raw', decodeLine host line = .ok raw →
      decodeLine host line' = .ok raw' → raw'.recordHash = raw.recordHash) :
    IsCorruption (readJournal host file')
      ↔ ¬ Escapes host before.length (hashBefore host before) line'
        ∧ ¬ OtherKeys host (hashBefore host before) line line'
  inserted {file file' : ByteArray} {before after : List (List Char)} {line' : List Char}
    {rs : List PaperRecord} (hfile : HasLines file (before ++ after))
    (hfile' : HasLines file' (before ++ line' :: after)) (h : readJournal host file = .ok rs)
    (hafter : after ≠ []) :
    IsCorruption (readJournal host file')
      ↔ ¬ Escapes host before.length (hashBefore host before) line'
  removed {file file' : ByteArray} {before after : List (List Char)} {line : List Char}
    {rs : List PaperRecord} (hfile : HasLines file (before ++ line :: after))
    (hfile' : HasLines file' (before ++ after)) (h : readJournal host file = .ok rs)
    (hafter : after ≠ []) : IsCorruption (readJournal host file')
  reordered {file file' : ByteArray} {lines lines' : List (List Char)} {rs : List PaperRecord}
    (hfile : HasLines file lines) (hfile' : HasLines file' lines')
    (h : readJournal host file = .ok rs) (hperm : lines.Perm lines') (hne : lines ≠ lines') :
    IsCorruption (readJournal host file')

/-- **The hash chain binds the history.** -/
theorem paper_chain_binds (host : JournalHost) (hsha : Function.Injective host.sha256Hex) :
    ChainBinds host where
  history := by
    intro file file' lines lines' rs rs' hfile hfile' h h' hlast
    rw [readJournal_of_lines hfile] at h
    rw [readJournal_of_lines hfile'] at h'
    obtain ⟨hlinked, htaken, hkinds⟩ := linked_readLines h
    obtain ⟨hlinked', htaken', hkinds'⟩ := linked_readLines h'
    have htexts : List.Forall₂ (fun r r' => r.Taken host ∧ r'.Taken host
        ∧ r.canonicalText = r'.canonicalText) rs rs' := by
      refine hlinked.bound ?_ hlinked' hlast
      intro r hr r' hr' hhash
      rw [(htaken r hr).hash, (htaken' r' hr').hash] at hhash
      have htext := hsha hhash
      exact ⟨⟨htaken r hr, htaken' r' hr', htext⟩,
        (PaperRecord.eq_of_canonicalText (htaken r hr) (htaken' r' hr') htext).2.2.2.1⟩
    exact forall₂_same_iff hkinds hkinds' htexts
  changed := by
    intro file file' before after line line' rs hfile hfile' h hchanged hlast
    rw [readJournal_of_lines hfile] at h
    rw [readJournal_of_lines hfile']
    obtain ⟨rs₁, r, hbefore, hlength, hprevious, hr, hout⟩ := accepted_split h
    rw [← hlength, ← hprevious] at hchanged ⊢
    refine changed_iff hsha hbefore hr hout (hchanged r · hr) ?_
    intro hnil r' hr'
    obtain ⟨raw, hraw, -, -, -, -, hrecordHash⟩ := readLine_ok hr
    obtain ⟨raw', hraw', -, -, -, -, hrecordHash'⟩ := readLine_ok hr'
    have hkept := hlast hnil raw raw' hraw hraw'
    rw [hrecordHash, hrecordHash'] at hkept
    exact codes_inj hkept
  inserted := by
    intro file file' before after line' rs hfile hfile' h hafter
    rw [readJournal_of_lines hfile] at h
    rw [readJournal_of_lines hfile']
    cases after with
    | nil => exact absurd rfl hafter
    | cons next after =>
        obtain ⟨rs₁, r, hbefore, hlength, hprevious, hr, -⟩ := accepted_split h
        rw [← hlength, ← hprevious]
        exact inserted_iff hbefore hr
  removed := by
    intro file file' before after line rs hfile hfile' h hafter
    rw [readJournal_of_lines hfile] at h
    rw [readJournal_of_lines hfile']
    cases after with
    | nil => exact absurd rfl hafter
    | cons next after =>
        obtain ⟨rs₁, r, hbefore, hlength, -, hr, out, hout⟩ := accepted_split h
        rw [List.foldlM_cons] at hout
        obtain ⟨_, hnext, -⟩ := bind_ok hout
        obtain ⟨q, hq, -⟩ := readNext_ok.mp hnext
        rw [readLines_append hbefore]
        refine corrupt_foldlM (corrupt_of_position hq ?_ _)
        rw [List.length_append, List.length_singleton]
        omega
  reordered := by
    intro file file' lines lines' rs hfile hfile' h hperm hne
    rw [readJournal_of_lines hfile] at h
    rw [readJournal_of_lines hfile']
    exact corrupt_of_perm h hperm hne

namespace Sample

/-- A digest that's the text itself. -/
def chainHost : JournalHost := ⟨String.ofList, ⟨1000, 4300⟩, fun _ => []⟩

end Sample

namespace Sample

/-- A text as JSON writes it. -/
def written (text : List Char) : List Char :=
  '"' :: text.flatMap (fun c => if c = '"' ∨ c = '\\' then ['\\', c] else [c]) ++ ['"']

def field (key : String) (value : List Char) : List Char := written key.toList ++ ':' :: value

def braces (fields : List (List Char)) : List Char :=
  '\x7b' :: List.intercalate [','] fields ++ ['\x7d']

/-- The fields of a fact, its hash put in before its number. -/
def factFields (key : String) (payload previousHash recordHash : List Char)
    (sequence : Char) : List Char :=
  braces ([field "event_key" (written key.toList), field "event_type" (written "AUDIT_FACT".toList),
    field "payload" payload, field "previous_hash" previousHash]
      ++ (if recordHash = [] then [] else [field "record_hash" recordHash])
      ++ [field "sequence" [sequence]])

/-- What the hash of a fact is of. -/
def factText (key : String) (payload previousHash : List Char) (sequence : Char) : List Char :=
  factFields key payload previousHash [] sequence

def firstFact : List Char := factText "a" (braces []) "null".toList '0'

def firstLine : List Char := factFields "a" (braces []) "null".toList (written firstFact) '0'

/-- The line of a fact that refers to the first. -/
def secondLine : List Char :=
  factFields "b" (braces []) (written firstFact)
    (written (factText "b" (braces []) (written firstFact) '1')) '1'

end Sample

open Sample in
/-- Of two facts one is taken out, or they change places. -/
theorem paper_chain_binds_sample :
    (∃ rs, readJournal chainHost (fileOf [firstLine, secondLine]) = .ok rs ∧ rs.length = 2)
      ∧ IsCorruption (readJournal chainHost (fileOf [secondLine]))
      ∧ IsCorruption (readJournal chainHost (fileOf [secondLine, firstLine])) := by
  have hsha : Function.Injective chainHost.sha256Hex := fun _ _ h => String.ofList_inj.mp h
  have hbinds := paper_chain_binds chainHost hsha
  have hread : (match readLines chainHost [firstLine ++ ['\n'], secondLine ++ ['\n']] with
      | .ok rs => decide (rs.length = 2)
      | .error _ => false) = true := by decide +kernel
  have hplain : ('\r' ∉ firstLine ∧ '\n' ∉ firstLine) ∧ ('\r' ∉ secondLine ∧ '\n' ∉ secondLine)
      ∧ firstLine ≠ secondLine := by decide +kernel
  obtain ⟨hfirst, hsecond, hne⟩ := hplain
  have hfile : HasLines (fileOf [firstLine, secondLine])
      ([] ++ (firstLine ++ ['\n']) :: [secondLine ++ ['\n']]) :=
    hasLines_fileOf (List.forall_mem_cons.mpr ⟨hfirst, List.forall_mem_singleton.mpr hsecond⟩)
  have hremoved : HasLines (fileOf [secondLine]) ([] ++ [secondLine ++ ['\n']]) :=
    hasLines_fileOf (List.forall_mem_singleton.mpr hsecond)
  have hreordered : HasLines (fileOf [secondLine, firstLine])
      [secondLine ++ ['\n'], firstLine ++ ['\n']] :=
    hasLines_fileOf (List.forall_mem_cons.mpr ⟨hsecond, List.forall_mem_singleton.mpr hfirst⟩)
  split at hread
  · rename_i rs hrs
    have hjournal : readJournal chainHost (fileOf [firstLine, secondLine]) = .ok rs :=
      (readJournal_of_lines hfile).trans hrs
    refine ⟨⟨rs, hjournal, of_decide_eq_true hread⟩, ?_, ?_⟩
    · exact hbinds.removed hfile hremoved hjournal (List.cons_ne_nil _ _)
    · refine hbinds.reordered hfile hreordered hjournal (List.Perm.swap _ _ _) fun h => hne ?_
      exact List.append_cancel_right (List.cons.inj h).1
  · cases hread

namespace Sample

/-- The line of one fact, whose payload is given, and passes for a dictionary. -/
def oneFact (payload : List Char) : List Char :=
  factFields "k" payload "null".toList
    (written (factText "k" (braces [field "1" ['2']]) "null".toList '0')) '0'

/-- Both journals are read and end in one hash, but only the first has a text for its fact. -/
def passesFor : Except PyError (List PaperRecord) → Except PyError (List PaperRecord) → Bool
  | .ok rs, .ok rs' => decide (rs.map (·.textual) = [true] ∧ rs'.map (·.textual) = [false]
      ∧ lastHash rs = lastHash rs')
  | _, _ => false

end Sample

open Sample in
/-- A list of a pair passes for a dictionary with a text where the pair has a number. -/
theorem pair_passes :
    ¬ ∀ (host : JournalHost), Function.Injective host.sha256Hex →
      ∀ (file file' : ByteArray) (rs rs' : List PaperRecord), readJournal host file = .ok rs →
        readJournal host file' = .ok rs' → lastHash rs = lastHash rs' →
          List.Forall₂ PaperRecord.Same rs rs' := by
  intro h
  have hchecked : passesFor (readLines chainHost [oneFact (braces [field "1" ['2']]) ++ ['\n']])
      (readLines chainHost [oneFact "[[1,2]]".toList ++ ['\n']]) = true := by decide +kernel
  have hplain : ('\r' ∉ oneFact (braces [field "1" ['2']]) ∧ '\n' ∉ oneFact (braces [field "1" ['2']]))
      ∧ '\r' ∉ oneFact "[[1,2]]".toList ∧ '\n' ∉ oneFact "[[1,2]]".toList := by decide +kernel
  have hsha : Function.Injective chainHost.sha256Hex := fun _ _ h => String.ofList_inj.mp h
  unfold passesFor at hchecked
  split at hchecked
  · rename_i rs rs' hdict hlist
    obtain ⟨hone, hone', hlast⟩ := of_decide_eq_true hchecked
    have hfile := hasLines_fileOf (List.forall_mem_singleton.mpr hplain.1)
    have hfile' := hasLines_fileOf (List.forall_mem_singleton.mpr hplain.2)
    have hsame := h chainHost hsha _ _ rs rs' ((readJournal_of_lines hfile).trans hdict)
      ((readJournal_of_lines hfile').trans hlist) hlast
    have hkinds : rs.map (·.textual) = rs'.map (·.textual) :=
      Traverse.map_eq_of_forall₂ hsame fun _ _ hrr' => hrr'.textual_eq
    rw [hone, hone'] at hkinds
    cases hkinds
  · cases hchecked

end Crumblr
