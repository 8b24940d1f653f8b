import Crumblr.Application.Calls
import Crumblr.Mt5Gateway.OrderRequest
import Crumblr.Proof.AtMostOnce
import Crumblr.Proof.JsonText
import Crumblr.Proof.OrderRequest

/-!
# An event is appended once

An event of a request stands under one identity. What is appended again under it must have the
same content, and nothing changes; with other content it is refused. The content is compared by
its fingerprint, and a float has none: a payload that holds the broker's own floats is stored
the first time and can be compared with nothing after that.
-/

namespace Crumblr

namespace Json

/-! ## The canonical text of a payload -/

mutual

/-- The value with every leaf as it is written. -/
def written : Json → Json
  | .decimal d => .str d.text
  | .time t => .str (isoTime t)
  | .list items => .list (writtenItems items)
  | .obj fields => .obj (writtenFields fields)
  | .null => .null
  | .bool b => .bool b
  | .int n => .int n
  | .float x => .float x
  | .str s => .str s

def writtenItems : List Json → List Json
  | [] => []
  | j :: js => written j :: writtenItems js

def writtenFields : List (String × Json) → List (String × Json)
  | [] => []
  | (key, j) :: fields => (key, written j) :: writtenFields fields

end

/-- What a fingerprint is taken of: the keys in order, and no blanks. -/
def canonicalText (j : Json) : List Char := (written j).sortKeys.dumps false

/-- The same value but for the order of keys. -/
def Same (a b : Json) : Prop := (written a).sortKeys = (written b).sortKeys

mutual

theorem plain_written : ∀ j : Json, plain (written j) = !hasFloat j
  | .list items => plain_writtenItems items
  | .obj fields => plain_writtenFields fields
  | .null | .bool _ | .int _ | .float _ | .str _ | .decimal _ | .time _ => rfl

theorem plain_writtenItems : ∀ js : List Json, plainItems (writtenItems js) = !listHasFloat js
  | [] => rfl
  | j :: js => by
      rw [writtenItems, plainItems, plain_written j, plain_writtenItems js, listHasFloat,
        Bool.not_or]

theorem plain_writtenFields : ∀ fields : List (String × Json),
    plainFields (writtenFields fields) = !fieldsHaveFloat fields
  | [] => rfl
  | (key, j) :: fields => by
      rw [writtenFields, plainFields, plain_written j, plain_writtenFields fields,
        fieldsHaveFloat, Bool.not_or]

end

/-- Payloads without floats have one text when they are the same. -/
theorem canonicalText_eq_iff {a b : Json} (ha : a.hasFloat = false) (hb : b.hasFloat = false) :
    canonicalText a = canonicalText b ↔ Same a b := by
  have hplain : ∀ j : Json, j.hasFloat = false → plain (written j).sortKeys = true := by
    intro j hj
    rw [plain_sortKeys, plain_written, hj]
    rfl
  refine ⟨eq_of_dumps_eq (hplain a ha) (hplain b hb), fun h => ?_⟩
  exact congrArg (dumps false) h

end Json

/-! ## What a store of events promises -/

/-- A table of events and its append, as a worker's transactions see them. -/
structure EventStore (E : Type) where
  /-- The request an event belongs to has been claimed. -/
  claimed : World → E → Bool
  /-- The event that stands under the same identity. -/
  recorded : World → E → Option E
  record : World → E → World
  append : World → E → Except PyError Bool × World
  content : E → Json
  conflict : ErrorKind

section

variable [Externals] {E : Type}

/-- No two canonical texts have one digest. -/
def CollisionFree : Prop :=
  ∃ sha256 : String → String, Function.Injective sha256
    ∧ ∀ j, digestOf j = sha256 (String.ofList j.canonicalText)

/-- The first append of an event inserts it; what is appended under a recorded identity is
compared with what is there. -/
structure EventStore.Lawful (s : EventStore E) : Prop where
  first : ∀ w e, s.recorded w e = none → s.claimed w e = true →
    s.append w e = (.ok true, s.record w e)
  again : ∀ w e existing, s.recorded w e = some existing → ∀ new old,
    fingerprint (s.content e) = .ok new → fingerprint (s.content existing) = .ok old →
      (new = old → s.append w e = (.ok false, w))
        ∧ (new ≠ old → ∃ message, s.append w e = (.error ⟨s.conflict, message⟩, w))

/-- What is promised of an event and of another that is appended under its identity. -/
structure AppendedOnce (s : EventStore E) (e e' : E) : Prop where
  /-- The first append stores it. -/
  stores : ∀ w, s.recorded w e = none → s.claimed w e = true →
    s.append w e = (.ok true, s.record w e)
  /-- The same content again inserts nothing and changes nothing. -/
  repeats : ∀ w, s.recorded w e' = some e → Json.Same (s.content e') (s.content e) →
    s.append w e' = (.ok false, w)
  /-- Other content is refused, and changes nothing. -/
  conflicts : ∀ w, s.recorded w e' = some e → ¬ Json.Same (s.content e') (s.content e) →
    ∃ message, s.append w e' = (.error ⟨s.conflict, message⟩, w)
  /-- Both can be fingerprinted. -/
  fingerprints : ∀ e'' ∈ [e, e'], ∃ digest, fingerprint (s.content e'') = .ok digest

theorem fingerprint_ok_iff {j : Json} :
    (∃ digest, fingerprint j = .ok digest) ↔ j.hasFloat = false := by
  unfold fingerprint
  cases j.hasFloat with
  | false => exact ⟨fun _ => rfl, fun _ => ⟨_, rfl⟩⟩
  | true =>
      constructor
      · rintro ⟨digest, h⟩
        cases h
      · intro h
        cases h

theorem fingerprint_of_noFloat {j : Json} (h : j.hasFloat = false) :
    fingerprint j = .ok (digestOf j) := by
  unfold fingerprint
  rw [h]
  rfl

/-- Fingerprints are equal when the payloads are the same. -/
theorem CollisionFree.digestOf_eq_iff (hdigest : CollisionFree) {a b : Json}
    (ha : a.hasFloat = false) (hb : b.hasFloat = false) :
    digestOf a = digestOf b ↔ Json.Same a b := by
  obtain ⟨sha256, hinjective, hsha⟩ := hdigest
  rw [hsha, hsha, hinjective.eq_iff, String.ofList_inj, Json.canonicalText_eq_iff ha hb]

/-- **A store keeps its promise of what has no float, and of nothing else.** -/
theorem EventStore.Lawful.appendedOnce_iff {s : EventStore E} (h : s.Lawful)
    (hdigest : CollisionFree) (e e' : E) :
    AppendedOnce s e e' ↔ (s.content e).hasFloat = false ∧ (s.content e').hasFloat = false := by
  constructor
  · intro hpromise
    exact ⟨fingerprint_ok_iff.mp (hpromise.fingerprints e (by simp)),
      fingerprint_ok_iff.mp (hpromise.fingerprints e' (by simp))⟩
  · rintro ⟨hold, hnew⟩
    have hagain := fun w hrecorded => h.again w e' e hrecorded _ _ (fingerprint_of_noFloat hnew)
      (fingerprint_of_noFloat hold)
    exact {
      stores := fun w => h.first w e
      repeats := fun w hrecorded hsame =>
        (hagain w hrecorded).1 ((hdigest.digestOf_eq_iff hnew hold).mpr hsame)
      conflicts := fun w hrecorded hdiffers => (hagain w hrecorded).2 fun heq =>
        hdiffers ((hdigest.digestOf_eq_iff hnew hold).mp heq)
      fingerprints := by
        intro e'' hmem
        simp only [List.mem_cons, List.not_mem_nil, or_false] at hmem
        rcases hmem with rfl | rfl
        · exact fingerprint_ok_iff.mpr hold
        · exact fingerprint_ok_iff.mpr hnew }

/-! ## The two tables -/

def executionStore : EventStore ExecutionEventRecord where
  claimed w e := w.db.executionRequests.any fun r => r.orderRequestId = e.orderRequestId
  recorded w e := Table.lookup ExecutionEventRecord.key w.db.executionEvents e.key
  record w e := { w with db := { w.db with executionEvents := w.db.executionEvents ++ [e] } }
  append w e := w.stored (w.db.appendEvent e)
  content e := Database.eventContent e.reasonCodes e.detail e.payload
  conflict := .executionEventConflict

def flattenStore : EventStore FlattenEventRecord where
  claimed w e := w.db.flattenRequests.any fun r => r.flattenRequestId = e.flattenRequestId
  recorded w e := Table.lookup FlattenEventRecord.key w.db.flattenEvents e.key
  record w e := { w with db := { w.db with flattenEvents := w.db.flattenEvents ++ [e] } }
  append w e := w.stored (w.db.appendFlattenEvent e)
  content e := Database.eventContent e.reasonCodes e.detail e.payload
  conflict := .flattenEventConflict

theorem executionStore_lawful : executionStore.Lawful where
  first := by
    intro w e hnone hclaimed
    simp only [executionStore] at hnone hclaimed ⊢
    unfold Database.appendEvent
    rw [hnone]
    simp only [hclaimed, if_true]
    rfl
  again := by
    intro w e existing hrecorded new old hnew hold
    simp only [executionStore] at hrecorded hnew hold ⊢
    unfold Database.appendEvent
    rw [hrecorded]
    simp only [hnew, hold, bind, Except.bind]
    constructor
    · intro heq
      rw [if_neg (not_not.mpr heq)]
      rfl
    · intro hne
      rw [if_pos hne]
      exact ⟨_, rfl⟩

theorem flattenStore_lawful : flattenStore.Lawful where
  first := by
    intro w e hnone hclaimed
    simp only [flattenStore] at hnone hclaimed ⊢
    unfold Database.appendFlattenEvent
    rw [hnone]
    simp only [hclaimed, if_true]
    rfl
  again := by
    intro w e existing hrecorded new old hnew hold
    simp only [flattenStore] at hrecorded hnew hold ⊢
    unfold Database.appendFlattenEvent
    rw [hrecorded]
    simp only [hnew, hold, bind, Except.bind]
    constructor
    · intro heq
      rw [if_neg (not_not.mpr heq)]
      rfl
    · intro hne
      rw [if_pos hne]
      exact ⟨_, rfl⟩

/-- No float anywhere in the payload. -/
def FloatFree (payload : Option Json) : Prop := ∀ j ∈ payload, j.hasFloat = false

omit [Externals] in
/-- Of an event's content only the payload can hold a float. -/
theorem eventContent_hasFloat (reasonCodes : List ReasonCode) (detail : Option String)
    (payload : Option Json) :
    (Database.eventContent reasonCodes detail payload).hasFloat = false ↔ FloatFree payload := by
  have hreasons : Json.listHasFloat (reasonCodes.map fun c => .str c.value) = false := by
    induction reasonCodes with
    | nil => rfl
    | cons c reasonCodes ih => exact ih
  have hdetail : (Json.opt Json.str detail).hasFloat = false := by
    cases detail with
    | none => rfl
    | some text => rfl
  unfold Database.eventContent FloatFree
  rw [Json.hasFloat, Json.fieldsHaveFloat, Json.fieldsHaveFloat, Json.fieldsHaveFloat,
    Json.fieldsHaveFloat, Json.hasFloat, hreasons, hdetail]
  cases payload with
  | none => simp [Json.hasFloat, Json.opt]
  | some j => simp [Json.opt]

/--
**Appending is idempotent and conflicts are atomic exactly for payloads without floats**, in the
history of execution requests and in that of flattens.
-/
theorem append_idempotent_iff (hdigest : CollisionFree) :
    (∀ e e' : ExecutionEventRecord,
        AppendedOnce executionStore e e' ↔ FloatFree e.payload ∧ FloatFree e'.payload)
      ∧ ∀ e e' : FlattenEventRecord,
        AppendedOnce flattenStore e e' ↔ FloatFree e.payload ∧ FloatFree e'.payload := by
  refine ⟨fun e e' => ?_, fun e e' => ?_⟩
  · rw [executionStore_lawful.appendedOnce_iff hdigest, ← eventContent_hasFloat e.reasonCodes
      e.detail, ← eventContent_hasFloat e'.reasonCodes e'.detail]
    rfl
  · rw [flattenStore_lawful.appendedOnce_iff hdigest, ← eventContent_hasFloat e.reasonCodes
      e.detail, ← eventContent_hasFloat e'.reasonCodes e'.detail]
    rfl

end

namespace Sample

/-- A digest that is the text itself. -/
@[reducible] def spelled : Externals := { externals with sha256Hex := fun j => String.ofList j.canonicalText }

/-- An event of a request, with a payload. -/
def event (eventType : ExecutionEventType) (payload : Json) : ExecutionEventRecord where
  orderRequestId := ⟨"order"⟩
  eventType
  occurredAtUtc := noon
  reasonCodes := []
  detail := none
  payload := some payload

def flattenEvent (payload : Json) : FlattenEventRecord where
  flattenRequestId := ⟨"flatten"⟩
  eventType := .flattenSubmissionStarted
  occurredAtUtc := noon
  reasonCodes := []
  detail := none
  payload := some payload

/-- MT5's answer to a check that it passes. -/
def checkReply : OrderCheckReply where
  retcode := 0
  balance := ⟨"10000.0"⟩
  equity := ⟨"10000.0"⟩
  profit := ⟨"0.0"⟩
  margin := ⟨"36.67"⟩
  marginFree := ⟨"9963.33"⟩
  marginLevel := ⟨"27270.25"⟩
  comment := "Done"
  marginDecimal := some ⟨3667, -2⟩

end Sample

open Sample in
theorem append_idempotent_iff_sample :
    @AppendedOnce spelled _ (@executionStore spelled)
        (event .submissionStarted (.obj [("retcode", .int 0), ("margin", .decimal ⟨3667, -2⟩)]))
        (event .submissionStarted (.obj [("margin", .str "36.67"), ("retcode", .int 0)]))
      ∧ @AppendedOnce spelled _ (@flattenStore spelled) (flattenEvent (.obj [("ticket", .int 5)]))
        (flattenEvent (.obj [("ticket", .int 6)])) := by
  have hdigest : @CollisionFree spelled := ⟨id, Function.injective_id, fun j => rfl⟩
  obtain ⟨hexecution, hflatten⟩ := @append_idempotent_iff spelled hdigest
  refine ⟨(hexecution _ _).mpr ⟨?_, ?_⟩, (hflatten _ _).mpr ⟨?_, ?_⟩⟩
  all_goals
    intro j hj
    cases hj
    rfl

open Sample in
/-- The event of a passed check holds MT5's floats: appended again as it is, it raises. -/
theorem order_check_repeat_raises :
    ∃ check, orderCheck mt5Module (1, "Success") (fun _ => some checkReply) (buyOrder .market)
        = .ok check
      ∧ ∃ w, executionStore.recorded w (event .orderChecked check.dump)
          = some (event .orderChecked check.dump)
        ∧ executionStore.append w (event .orderChecked check.dump)
          = (.error ⟨.type, "float cannot be fingerprinted deterministically; use Decimal"⟩, w) :=
  ⟨_, rfl, { world with db := { world.db with executionEvents := [event .orderChecked _] } },
    rfl, rfl⟩

end Crumblr
