import Crumblr.Persistence.PaperLite
import Crumblr.Proof.AtMostOnce

/-!
# The journal is as good as the memory

A paper portfolio lives in memory; on disk there are only the orders, observations, flattens and
facts, in the order they were accepted. Everything that is written can be read back, and applying
an entry to the portfolio it was appended to does what the operation did then. So nothing depends
on the process: one that starts again has the portfolio of one that never stopped.
-/

namespace Crumblr

/-! ## What is written can be read -/

namespace Json

@[simp] theorem asOpt?_opt {α : Type} {read : Json → Option α} {write : α → Json}
    (h : ∀ a, read (write a) = some a) (hnull : ∀ a, write a ≠ .null) (x : Option α) :
    asOpt? read (opt write x) = some x := by
  cases x with
  | none => rfl
  | some a =>
      have hsome : asOpt? read (write a) = (read (write a)).map some := by
        have := hnull a
        unfold asOpt?
        split
        · contradiction
        · rfl
      rw [opt, hsome, h, Option.map_some]

@[simp] theorem readDecimal_decimal (d : Decimal) : (decimal d).readDecimal = some d := rfl

@[simp] theorem readPositive_decimal (d : { d : Decimal // 0 < d }) :
    (decimal d.val).readPositive = some d := by
  simp only [readPositive, readDecimal_decimal, dif_pos d.property]

@[simp] theorem readNat_int (n : Nat) : (int n).readNat = some n := by
  simp [readNat]

@[simp] theorem readEnum_str {α : Type} {value : α → String} {ofValue? : String → Option α}
    (h : ∀ a, ofValue? (value a) = some a) (a : α) :
    readEnum ofValue? (str (value a)) = some a := h a

@[simp] theorem asTime?_time (t : UtcDatetime) : (time t).asTime? = some t := rfl

section

variable {fields : List (String × Json)} {α β : Type}

/-- A field that is there and can be read is read. -/
theorem field_bind {key : String} {v : Json} {read : Json → Option α} {a : α}
    {f : α → Except PyError β} (hget : (obj fields).get? key = some v) (hread : read v = some a) :
    (do let a ← (obj fields).field key read; f a) = f a := by
  rw [field, hget]
  simp only [hread]
  rfl

/-- Nothing is refused that has only the known fields. -/
theorem forbidExtra_bind {known : List String} {rest : Except PyError β}
    (h : (fields.all fun field => decide (field.1 ∈ known)) = true) :
    (do (obj fields).forbidExtra known; rest) = rest := by
  rw [forbidExtra, if_pos h]
  rfl

end

mutual

theorem same_self : (j : Json) → j.same j = true
  | .null => rfl
  | .bool b => by simp [same]
  | .int n => by simp [same]
  | .float x => by simp [same]
  | .str s => by simp [same]
  | .decimal d => by simp [same]
  | .time t => by simp [same]
  | .list items => by rw [same]; exact sameList_self items
  | .obj fields => by rw [same]; exact sameFields_self fields

theorem sameList_self : (items : List Json) → sameList items items = true
  | [] => rfl
  | a :: as => by rw [sameList, same_self a, sameList_self as]; rfl

theorem sameFields_self : (fields : List (String × Json)) → sameFields fields fields = true
  | [] => rfl
  | (k, a) :: fs => by rw [sameFields, same_self a, sameFields_self fs]; simp

end

theorem readSymbol_str {s : String} (h : IsSymbol s) : (str s).readSymbol = some s := by
  obtain ⟨hstrip, hlow, hhigh⟩ := h
  simp only [readSymbol, hstrip, hlow, hhigh, and_self, if_true]

end Json

theorem Bar.create_self (b : Bar) :
    Bar.create b.openTimeUtc b.openPrice b.high b.low b.close b.tickVolume b.realVolume
      b.spreadPoints = .ok b := by
  unfold Bar.create
  rw [dif_pos b.ohlc]

theorem Bar.modelValidate_dump (b : Bar) : Bar.modelValidate b.dump = .ok b := by
  have hnat : ∀ x : Option Nat,
      Json.asOpt? Json.readNat (.opt (fun (n : Nat) => .int n) x) = some x :=
    Json.asOpt?_opt Json.readNat_int fun a h => by cases h
  unfold Bar.modelValidate
  simp only [Bar.dump, Json.forbidExtra, Json.field, Json.get?_cons]
  simp [Json.asTime?, bind, Except.bind, hnat, Bar.create_self]

theorem ApprovedOrder.create_self (o : ApprovedOrder) :
    ApprovedOrder.create o.orderRequestId o.intentId o.intentRiskDecisionId
      o.finalRiskDecisionId o.supervisorDecisionId o.brokerSymbol o.side o.entryType o.volume
      o.price o.stopLossPrice o.takeProfitPrice o.maxSlippagePoints o.createdAtUtc o.expiresAtUtc
      o.environment = .ok o := by
  unfold ApprovedOrder.create
  rw [dif_pos o.directional, dif_pos o.priced, dif_pos o.lifetime]

section

variable [Externals]

theorem ApprovedOrder.modelValidate_dump {o : ApprovedOrder} (h : IsSymbol o.brokerSymbol) :
    ApprovedOrder.modelValidate o.dump = .ok o := by
  have hprice : ∀ x : Option Price,
      Json.asOpt? Json.readPositive (.opt (fun p => .decimal p.val) x) = some x :=
    Json.asOpt?_opt Json.readPositive_decimal fun a h => by cases h
  have huuid : ∀ x : Option Uuid, Json.asOpt? Json.asUuid? (.opt Json.uuid x) = some x :=
    Json.asOpt?_opt Json.asUuid?_uuid fun a h => by cases h
  have hside : Json.readEnum Side.ofValue? (.str o.side.value) = some o.side :=
    Json.readEnum_str Side.ofValue?_value o.side
  have hentry : Json.readEnum EntryType.ofValue? (.str o.entryType.value) = some o.entryType :=
    Json.readEnum_str EntryType.ofValue?_value o.entryType
  have henvironment : Json.readEnum Environment.ofValue? (.str o.environment.value)
      = some o.environment := Json.readEnum_str Environment.ofValue?_value o.environment
  have hread (d : { d : Decimal // 0 < d }) := Json.readPositive_decimal d
  unfold ApprovedOrder.modelValidate ApprovedOrder.dump
  refine Eq.trans (Json.forbidExtra_bind ?_) ?_
  · simp
  refine Eq.trans (Json.field_bind (by simp) (Json.asUuid?_uuid o.orderRequestId)) ?_
  refine Eq.trans (Json.field_bind (by simp) (Json.asUuid?_uuid o.intentId)) ?_
  refine Eq.trans (Json.field_bind (by simp) (Json.asUuid?_uuid o.intentRiskDecisionId)) ?_
  refine Eq.trans (Json.field_bind (by simp) (huuid o.finalRiskDecisionId)) ?_
  refine Eq.trans (Json.field_bind (by simp) (Json.asUuid?_uuid o.supervisorDecisionId)) ?_
  refine Eq.trans (Json.field_bind (by simp) (Json.readSymbol_str h)) ?_
  refine Eq.trans (Json.field_bind (by simp) hside) ?_
  refine Eq.trans (Json.field_bind (by simp) hentry) ?_
  refine Eq.trans (Json.field_bind (by simp) (hread o.volume)) ?_
  refine Eq.trans (Json.field_bind (by simp) (hprice o.price)) ?_
  refine Eq.trans (Json.field_bind (by simp) (hread o.stopLossPrice)) ?_
  refine Eq.trans (Json.field_bind (by simp) (hprice o.takeProfitPrice)) ?_
  refine Eq.trans (Json.field_bind (by simp) (Json.readNat_int o.maxSlippagePoints)) ?_
  refine Eq.trans (Json.field_bind (by simp) (Json.asTime?_time o.createdAtUtc)) ?_
  refine Eq.trans (Json.field_bind (by simp) (Json.asTime?_time o.expiresAtUtc)) ?_
  refine Eq.trans (Json.field_bind (by simp) henvironment) ?_
  exact o.create_self

end

/-- An observation is read back as it was simulated. -/
theorem tickFromPayload_observationPayload (tick : GeneratedTick) (sourceBar : Json)
    (sourceBarFingerprint : String) (applied : Bool) :
    tickFromPayload (observationPayload tick sourceBar sourceBarFingerprint applied)
      = .ok tick := by
  have hfault : ∀ x : Option String, Json.asOpt? Json.asStr? (.opt .str x) = some x :=
    Json.asOpt?_opt (fun _ => rfl) fun a h => by cases h
  have hquality : Json.readEnum DataQuality.ofValue? (.str tick.dataQuality.value)
      = some tick.dataQuality := Json.readEnum_str DataQuality.ofValue?_value tick.dataQuality
  unfold tickFromPayload
  simp only [observationPayload, tickPayload, List.cons_append, List.nil_append, Json.field,
    Json.get?_cons]
  simp [Json.asTime?, Json.asInt?, bind, Except.bind, pure, Except.pure, hfault, hquality,
    Bar.modelValidate_dump]

/-! ## The chain -/

/-- A payload is a dictionary. -/
def IsObject (j : Json) : Prop := ∃ fields, j = .obj fields

theorem PaperJournalEntry.decode_encoded {e : PaperJournalEntry} (h : IsObject e.payload) :
    PaperJournalEntry.decode e.encoded = .ok e := by
  obtain ⟨fields, hfields⟩ := h
  have hprevious : ∀ x : Option String, Json.asOpt? Json.asStr? (.opt .str x) = some x :=
    Json.asOpt?_opt (fun _ => rfl) fun a h => by cases h
  have htype : Json.readEnum PaperJournalEventType.ofValue? (.str e.eventType.value)
      = some e.eventType := Json.readEnum_str PaperJournalEventType.ofValue?_value e.eventType
  unfold PaperJournalEntry.decode
  simp only [PaperJournalEntry.encoded, recordMaterial, List.cons_append, List.nil_append,
    Json.field, Json.get?_cons]
  simp [Json.asStr?, bind, Except.bind, pure, Except.pure, hprevious, htype, hfields]
  rw [← hfields]

section

variable [Externals]

/-- Every entry is numbered, refers to the one before it and is covered by its own hash. -/
inductive Chained : List PaperJournalEntry → Prop where
  | nil : Chained []
  | snoc {entries : List PaperJournalEntry} {e : PaperJournalEntry} (h : Chained entries)
      (hsequence : e.sequence = entries.length)
      (hprevious : e.previousHash = entries.getLast?.map (·.recordHash))
      (hhash : e.recordHash = recordHashOf e) (hpayload : IsObject e.payload) :
      Chained (entries ++ [e])

/-- **A chain is read back from its file.** -/
theorem Chained.readEntries {entries : List PaperJournalEntry} (h : Chained entries) :
    readEntries (entries.map PaperJournalEntry.encoded) = .ok entries := by
  induction h with
  | nil => rfl
  | @snoc entries e _ hsequence hprevious hhash hpayload ih =>
      unfold Crumblr.readEntries at ih ⊢
      rw [List.map_append, List.foldlM_append, ih]
      change List.foldlM readEntry entries [e.encoded] = _
      simp [readEntry, PaperJournalEntry.decode_encoded hpayload, hsequence, hprevious, ← hhash,
        bind, Except.bind, pure, Except.pure]

variable {b : DurablePaperBroker} {eventType : PaperJournalEventType} {eventKey : String}
  {payload : Json}

theorem recordHashOf_nextEntry : (b.nextEntry eventType eventKey payload).recordHash
    = recordHashOf (b.nextEntry eventType eventKey payload) := rfl

theorem Chained.nextEntry (h : Chained b.entries) (hpayload : IsObject payload) :
    Chained (b.entries ++ [b.nextEntry eventType eventKey payload]) :=
  .snoc h rfl rfl recordHashOf_nextEntry hpayload

/-! ## What each operation does -/

variable {α : Type} {r : Option PaperJournalEntry} {s : DurablePaperBroker}

/-- An append that returns found its content on record, or put it there. -/
theorem append_cases {a : α}
    {next : Bool → DurablePaperBroker → Except PyError α × DurablePaperBroker}
    (h : b.append eventType eventKey payload next = ⟨r, .ok a, s⟩) :
    (r = none ∧ b.eventPayloadHashes.lookup eventKey = some (digestOf payload)
        ∧ next false b = (.ok a, s))
      ∨ (r = some (b.nextEntry eventType eventKey payload)
        ∧ b.eventPayloadHashes.lookup eventKey = none
        ∧ next true (b.journalled (b.nextEntry eventType eventKey payload)) = (.ok a, s)) := by
  unfold DurablePaperBroker.append at h
  cases hlookup : b.eventPayloadHashes.lookup eventKey with
  | some existing =>
      simp only [hlookup] at h
      split at h
      · cases h
      · rename_i hsame
        obtain rfl : existing = digestOf payload := by simpa using hsame
        obtain ⟨rfl, houtcome, hleft⟩ := Sourcing.Effect.mk.inj h
        exact .inl ⟨rfl, rfl, Prod.ext houtcome hleft⟩
  | none =>
      simp only [hlookup] at h
      obtain ⟨rfl, houtcome, hleft⟩ := Sourcing.Effect.mk.inj h
      exact .inr ⟨rfl, rfl, Prod.ext houtcome hleft⟩

theorem append_known {next : Bool → DurablePaperBroker → Except PyError α × DurablePaperBroker}
    (h : b.eventPayloadHashes.lookup eventKey = some (digestOf payload)) :
    b.append eventType eventKey payload next = ⟨none, (next false b).1, (next false b).2⟩ := by
  unfold DurablePaperBroker.append
  simp [h]

/-- What an operation leaves of the journal: it appends the entry, if there is one. -/
structure Grown (b : DurablePaperBroker) (r : Option PaperJournalEntry) (s : DurablePaperBroker) :
    Prop where
  entries : s.entries = b.entries ++ r.toList
  hashes : s.eventPayloadHashes
    = b.eventPayloadHashes ++ r.toList.map fun e => (e.eventKey, digestOf e.payload)
  fingerprints : b.orderFingerprints <+: s.orderFingerprints
  results : b.orderResults <+: s.orderResults
  flattens : b.flattenResults <+: s.flattenResults
  ranges : b.barRangesApplied <+: s.barRangesApplied

theorem Grown.refl : Grown b none b := by
  constructor <;> simp

/-! ### Observations -/

/-- What is on record of an observation, once the simulation has its tick. -/
def payloadOf (b : DurablePaperBroker) (tick simulated : GeneratedTick) : Json :=
  observationPayload simulated tick.bar.dump (digestOf tick.bar.dump)
    (decide (digestOf tick.bar.dump ∉ b.barRangesApplied))

/-- The range an observation uses. -/
def rangeOf (b : DurablePaperBroker) (tick : GeneratedTick) : Option String :=
  if digestOf tick.bar.dump ∉ b.barRangesApplied then some (digestOf tick.bar.dump) else none

theorem advance_cases {tick : GeneratedTick} {trades : List ClosedTrade}
    (h : b.advance tick = ⟨r, .ok trades, s⟩) :
    ∃ simulated, b.simulationTick tick = .ok simulated
      ∧ ((r = none ∧ trades = [] ∧ s = b
          ∧ (b.eventPayloadHashes.lookup
              (DurablePaperBroker.observationKey (payloadOf b tick simulated))).isSome)
        ∨ (b.eventPayloadHashes.lookup
              (DurablePaperBroker.observationKey (payloadOf b tick simulated)) = none
          ∧ r = some (b.nextEntry .marketObserved
              (DurablePaperBroker.observationKey (payloadOf b tick simulated))
              (payloadOf b tick simulated))
          ∧ (trades, s) = (b.journalled (b.nextEntry .marketObserved
              (DurablePaperBroker.observationKey (payloadOf b tick simulated))
              (payloadOf b tick simulated))).observed simulated (rangeOf b tick))) := by
  unfold DurablePaperBroker.advance at h
  cases hsimulated : b.simulationTick tick with
  | error e => rw [hsimulated] at h; cases h
  | ok simulated =>
      refine ⟨simulated, rfl, ?_⟩
      simp only [hsimulated] at h
      rw [show observationPayload simulated tick.bar.dump (digestOf tick.bar.dump)
        (decide (digestOf tick.bar.dump ∉ b.barRangesApplied)) = payloadOf b tick simulated
        from rfl] at h
      split at h
      · rename_i hknown
        obtain ⟨rfl, htrades, rfl⟩ := Sourcing.Effect.mk.inj h
        cases htrades
        exact .inl ⟨rfl, rfl, rfl, hknown⟩
      · rename_i hknown
        rcases append_cases h with ⟨-, hlookup, -⟩ | ⟨rfl, hlookup, hnext⟩
        · rw [hlookup] at hknown
          exact absurd rfl hknown
        · refine .inr ⟨hlookup, rfl, ?_⟩
          have hrange : (if decide (digestOf tick.bar.dump ∉ b.barRangesApplied) = true then
              some (digestOf tick.bar.dump) else none) = rangeOf b tick := by
            simp [rangeOf]
          rw [hrange] at hnext
          obtain ⟨htrades, rfl⟩ := Prod.mk.inj hnext
          rw [← Except.ok.inj htrades]

/-! ### Orders -/

theorem applyOrder_grown {order : ApprovedOrder} {orderFingerprint : String}
    {authorizedRiskAmount : Decimal} {result : SimulatedResult}
    (h : b.applyOrder order orderFingerprint authorizedRiskAmount = (.ok result, s)) :
    ∃ broker, b.broker.orderSend order = (.ok result, broker)
      ∧ s = { b with
          broker
          orderFingerprints := b.orderFingerprints ++ [(order.orderRequestId, orderFingerprint)]
          orderResults := b.orderResults ++ [(order.orderRequestId, result)]
          orderRiskAmounts := b.orderRiskAmounts
            ++ (result.mt5PositionTicket.map fun t => (t, authorizedRiskAmount)).toList } := by
  unfold DurablePaperBroker.applyOrder at h
  split at h
  · cases h
  · rename_i result' broker hsend
    cases h
    exact ⟨broker, hsend, rfl⟩

/-- The state in which submissions and flattens are on record exactly when they were carried
out, and the journal is a chain. -/
structure Claimed (b : DurablePaperBroker) : Prop where
  orders : ∀ id, (b.eventPayloadHashes.lookup (DurablePaperBroker.orderKey id)).isSome →
    (b.orderFingerprints.lookup id).isSome
  flattens : ∀ id, (b.eventPayloadHashes.lookup (DurablePaperBroker.flattenKey id)).isSome →
    (b.flattenResults.lookup id).isSome
  answered : b.orderResults.map Prod.fst = b.orderFingerprints.map Prod.fst
  chained : Chained b.entries

theorem submit_cases {order : PaperOrder} {authorizedRiskAmount : Decimal}
    {correlationId : Option Uuid} {result : SimulatedResult} (hb : Claimed b)
    (h : b.submit order authorizedRiskAmount correlationId = ⟨r, .ok result, s⟩) :
    (r = none ∧ s = b
        ∧ b.orderFingerprints.lookup order.val.orderRequestId = some (digestOf order.val.dump)
        ∧ b.orderResults.lookup order.val.orderRequestId = some result)
      ∨ (b.orderFingerprints.lookup order.val.orderRequestId = none
        ∧ b.eventPayloadHashes.lookup (DurablePaperBroker.orderKey order.val.orderRequestId) = none
        ∧ r = some (b.nextEntry .paperOrderAccepted
            (DurablePaperBroker.orderKey order.val.orderRequestId)
            (DurablePaperBroker.orderPayload order.val authorizedRiskAmount correlationId))
        ∧ (b.journalled (b.nextEntry .paperOrderAccepted
            (DurablePaperBroker.orderKey order.val.orderRequestId)
            (DurablePaperBroker.orderPayload order.val authorizedRiskAmount correlationId))).applyOrder
              order.val (digestOf order.val.dump) authorizedRiskAmount = (.ok result, s)) := by
  unfold DurablePaperBroker.submit at h
  split at h
  · cases h
  cases hknown : b.orderFingerprints.lookup order.val.orderRequestId with
  | some existing =>
      simp only [hknown] at h
      split at h
      · cases h
      · rename_i hsame
        obtain rfl : existing = digestOf order.val.dump := by simpa using hsame
        split at h
        · rename_i result' hresult
          cases h
          exact .inl ⟨rfl, rfl, rfl, hresult⟩
        · cases h
  | none =>
      simp only [hknown] at h
      rcases append_cases h with ⟨-, hlookup, -⟩ | ⟨rfl, hlookup, hnext⟩
      · -- a key on record is an order that was carried out
        have hdone := hb.orders order.val.orderRequestId (by rw [hlookup]; rfl)
        rw [hknown] at hdone
        cases hdone
      · exact .inr ⟨rfl, hlookup, rfl, hnext⟩

/-! ### Flattens -/

omit [Externals] in
theorem applyFlatten_grown {flattenRequestId : Uuid} {reason : String} {closed : List Int}
    (h : b.applyFlatten flattenRequestId reason = (.ok closed, s)) :
    ∃ broker, b.broker.closeAllPositions reason = .ok (closed, broker)
      ∧ s = { b with
          broker, flattenResults := b.flattenResults ++ [(flattenRequestId, closed)] } := by
  unfold DurablePaperBroker.applyFlatten at h
  split at h
  · cases h
  · rename_i closed' broker hclose
    cases h
    exact ⟨broker, hclose, rfl⟩

theorem flattenAll_cases {flattenRequestId : Uuid} {reason : String} {closed : List Int}
    (hb : Claimed b) (h : b.flattenAll flattenRequestId reason = ⟨r, .ok closed, s⟩) :
    (r = none ∧ s = b ∧ b.flattenResults.lookup flattenRequestId = some closed)
      ∨ (b.flattenResults.lookup flattenRequestId = none
        ∧ b.eventPayloadHashes.lookup (DurablePaperBroker.flattenKey flattenRequestId) = none
        ∧ r = some (b.nextEntry .paperFlattenRequested
            (DurablePaperBroker.flattenKey flattenRequestId)
            (DurablePaperBroker.flattenPayload flattenRequestId reason))
        ∧ (b.journalled (b.nextEntry .paperFlattenRequested
            (DurablePaperBroker.flattenKey flattenRequestId)
            (DurablePaperBroker.flattenPayload flattenRequestId reason))).applyFlatten
              flattenRequestId reason = (.ok closed, s)) := by
  unfold DurablePaperBroker.flattenAll at h
  cases hknown : b.flattenResults.lookup flattenRequestId with
  | some closed' =>
      simp only [hknown] at h
      cases h
      exact .inl ⟨rfl, rfl, rfl⟩
  | none =>
      simp only [hknown] at h
      rcases append_cases h with ⟨-, hlookup, -⟩ | ⟨rfl, hlookup, hnext⟩
      · have hdone := hb.flattens flattenRequestId (by rw [hlookup]; rfl)
        rw [hknown] at hdone
        cases hdone
      · exact .inr ⟨rfl, hlookup, rfl, hnext⟩

/-! ### Audit facts -/

theorem recordAuditFact_cases {fact : String} {correlationId : Uuid} {detail : Option String}
    {recorded : Bool} (h : b.recordAuditFact fact correlationId detail = ⟨r, .ok recorded, s⟩) :
    (r = none ∧ s = b ∧ recorded = false
        ∧ b.eventPayloadHashes.lookup (DurablePaperBroker.auditKey fact correlationId)
          = some (digestOf (DurablePaperBroker.auditPayload fact correlationId detail)))
      ∨ (b.eventPayloadHashes.lookup (DurablePaperBroker.auditKey fact correlationId) = none
        ∧ recorded = true
        ∧ r = some (b.nextEntry .auditFact (DurablePaperBroker.auditKey fact correlationId)
            (DurablePaperBroker.auditPayload fact correlationId detail))
        ∧ s = b.journalled (b.nextEntry .auditFact
            (DurablePaperBroker.auditKey fact correlationId)
            (DurablePaperBroker.auditPayload fact correlationId detail))) := by
  rcases append_cases h with ⟨rfl, hlookup, hnext⟩ | ⟨rfl, hlookup, hnext⟩
  · cases hnext
    exact .inl ⟨rfl, rfl, rfl, hlookup⟩
  · cases hnext
    exact .inr ⟨hlookup, rfl, rfl, rfl⟩

/-! ## The keys -/

omit [Externals] in
/-- Texts that begin differently differ. -/
theorem append_ne {p q x y : String} {c d : Char} (hp : p.toList.head? = some c)
    (hq : q.toList.head? = some d) (hcd : c ≠ d) : p ++ x ≠ q ++ y := by
  intro h
  have hhead := congrArg (fun s => s.toList.head?) h
  simp only [String.toList_append, List.head?_append, hp, hq, Option.some_or,
    Option.some.injEq] at hhead
  exact hcd hhead

omit [Externals] in
theorem orderKey_ne_flattenKey (id id' : Uuid) :
    DurablePaperBroker.orderKey id ≠ DurablePaperBroker.flattenKey id' :=
  append_ne (c := 'o') (d := 'f') rfl rfl (by decide)

theorem observationKey_ne (id : Uuid) (payload : Json) :
    DurablePaperBroker.observationKey payload ≠ DurablePaperBroker.orderKey id
      ∧ DurablePaperBroker.observationKey payload ≠ DurablePaperBroker.flattenKey id :=
  ⟨append_ne (c := 'm') (d := 'o') rfl rfl (by decide),
    append_ne (c := 'm') (d := 'f') rfl rfl (by decide)⟩

omit [Externals] in
theorem auditKey_ne (id correlationId : Uuid) (fact : String) :
    DurablePaperBroker.auditKey fact correlationId ≠ DurablePaperBroker.orderKey id
      ∧ DurablePaperBroker.auditKey fact correlationId ≠ DurablePaperBroker.flattenKey id := by
  unfold DurablePaperBroker.auditKey
  rw [String.append_assoc, String.append_assoc]
  exact ⟨append_ne (c := 'a') (d := 'o') rfl rfl (by decide),
    append_ne (c := 'a') (d := 'f') rfl rfl (by decide)⟩

omit [Externals] in
theorem orderKey_inj {id id' : Uuid}
    (h : DurablePaperBroker.orderKey id = DurablePaperBroker.orderKey id') : id = id' := by
  have hlist := congrArg String.toList h
  simp only [DurablePaperBroker.orderKey, String.toList_append, List.append_cancel_left_eq] at hlist
  cases id
  cases id'
  simpa using String.toList_inj.mp hlist

omit [Externals] in
theorem flattenKey_inj {id id' : Uuid}
    (h : DurablePaperBroker.flattenKey id = DurablePaperBroker.flattenKey id') : id = id' := by
  have hlist := congrArg String.toList h
  simp only [DurablePaperBroker.flattenKey, String.toList_append,
    List.append_cancel_left_eq] at hlist
  cases id
  cases id'
  simpa using String.toList_inj.mp hlist

omit [Externals] in
/-- What a table says of a key, it says when it has grown. -/
theorem lookup_mono {β γ : Type} [BEq β] {xs ys : List (β × γ)} (h : xs <+: ys) {k : β}
    {v : γ} (hk : xs.lookup k = some v) : ys.lookup k = some v := by
  obtain ⟨zs, rfl⟩ := h
  rw [List.lookup_append, hk, Option.some_or]

omit [Externals] in
theorem isSome_lookup_mono {β γ : Type} [BEq β] {xs ys : List (β × γ)} (h : xs <+: ys)
    {k : β} (hk : (xs.lookup k).isSome) : (ys.lookup k).isSome := by
  obtain ⟨v, hv⟩ := Option.isSome_iff_exists.mp hk
  rw [lookup_mono h hv]
  rfl

/-! ## What every operation keeps -/

theorem observed_grown {entry : PaperJournalEntry} {simulated : GeneratedTick}
    {range : Option String} {trades : List ClosedTrade}
    (h : (trades, s) = (b.journalled entry).observed simulated range) : Grown b (some entry) s := by
  cases h
  constructor <;> simp [DurablePaperBroker.journalled]

/-- **What an operation leaves of the journal.** -/
theorem run_grown (hb : Claimed b) {o : PaperOperation} {a : o.Answer}
    (h : o.run b = ⟨r, .ok a, s⟩) : Grown b r s := by
  cases o with
  | advance tick =>
      obtain ⟨simulated, -, ⟨rfl, -, rfl, -⟩ | ⟨-, rfl, hobserved⟩⟩ := advance_cases h
      · exact .refl
      · exact observed_grown hobserved
  | submit order authorizedRiskAmount correlationId =>
      rcases submit_cases hb h with ⟨rfl, rfl, -⟩ | ⟨-, -, rfl, happly⟩
      · exact .refl
      · obtain ⟨broker, -, rfl⟩ := applyOrder_grown happly
        constructor <;> simp [DurablePaperBroker.journalled]
  | flattenAll flattenRequestId reason =>
      rcases flattenAll_cases hb h with ⟨rfl, rfl, -⟩ | ⟨-, -, rfl, happly⟩
      · exact .refl
      · obtain ⟨broker, -, rfl⟩ := applyFlatten_grown happly
        constructor <;> simp [DurablePaperBroker.journalled]
  | recordAuditFact fact correlationId detail =>
      rcases recordAuditFact_cases h with ⟨rfl, rfl, -⟩ | ⟨-, -, rfl, rfl⟩
      · exact .refl
      · constructor <;> simp [DurablePaperBroker.journalled]

/-- A new entry claims what has been carried out by then. -/
theorem Claimed.grown {e : PaperJournalEntry} (hb : Claimed b) (hg : Grown b (some e) s)
    (hchained : Chained (b.entries ++ [e]))
    (horder : ∀ id, e.eventKey = DurablePaperBroker.orderKey id →
      (s.orderFingerprints.lookup id).isSome)
    (hflatten : ∀ id, e.eventKey = DurablePaperBroker.flattenKey id →
      (s.flattenResults.lookup id).isSome)
    (hanswered : s.orderResults.map Prod.fst = s.orderFingerprints.map Prod.fst) : Claimed s := by
  have hlookup : ∀ key, (s.eventPayloadHashes.lookup key).isSome →
      (b.eventPayloadHashes.lookup key).isSome ∨ e.eventKey = key := by
    intro key hkey
    rw [hg.hashes, List.lookup_append] at hkey
    cases hold : b.eventPayloadHashes.lookup key with
    | some _ => exact .inl rfl
    | none =>
        refine .inr ?_
        rw [hold] at hkey
        simp only [Option.toList_some, List.map_cons, List.map_nil, Option.none_or,
          List.lookup_cons] at hkey
        split at hkey
        · rename_i heq
          exact (beq_iff_eq.mp heq).symm
        · cases hkey
  refine ⟨fun id hid => ?_, fun id hid => ?_, hanswered, ?_⟩
  · rcases hlookup _ hid with hold | hnew
    · exact isSome_lookup_mono hg.fingerprints (hb.orders id hold)
    · exact horder id hnew
  · rcases hlookup _ hid with hold | hnew
    · exact isSome_lookup_mono hg.flattens (hb.flattens id hold)
    · exact hflatten id hnew
  · rw [hg.entries]
    exact hchained

omit [Externals] in
theorem lookup_concat_isSome {β γ : Type} [BEq β] [LawfulBEq β] {xs : List (β × γ)} {k : β} {v : γ} :
    ((xs ++ [(k, v)]).lookup k).isSome := by
  rw [List.lookup_append]
  cases xs.lookup k <;> simp

/-- **What every operation keeps.** -/
theorem claimed_run (hb : Claimed b) {o : PaperOperation} {a : o.Answer}
    (h : o.run b = ⟨r, .ok a, s⟩) : Claimed s := by
  have hgrown := run_grown hb h
  cases o with
  | advance tick =>
      obtain ⟨simulated, -, ⟨rfl, -, rfl, -⟩ | ⟨-, rfl, hobserved⟩⟩ := advance_cases h
      · exact hb
      · refine hb.grown hgrown (hb.chained.nextEntry ⟨_, rfl⟩)
          (fun id hid => absurd hid (observationKey_ne id _).1)
          (fun id hid => absurd hid (observationKey_ne id _).2) ?_
        cases hobserved
        exact hb.answered
  | submit order authorizedRiskAmount correlationId =>
      rcases submit_cases hb h with ⟨rfl, rfl, -⟩ | ⟨-, -, rfl, happly⟩
      · exact hb
      · obtain ⟨broker, -, rfl⟩ := applyOrder_grown happly
        refine hb.grown hgrown (hb.chained.nextEntry ⟨_, rfl⟩) (fun id hid => ?_)
          (fun id hid => absurd hid (orderKey_ne_flattenKey _ id)) ?_
        · obtain rfl := orderKey_inj hid
          exact lookup_concat_isSome
        · simpa [DurablePaperBroker.journalled] using hb.answered
  | flattenAll flattenRequestId reason =>
      rcases flattenAll_cases hb h with ⟨rfl, rfl, -⟩ | ⟨-, -, rfl, happly⟩
      · exact hb
      · obtain ⟨broker, -, rfl⟩ := applyFlatten_grown happly
        refine hb.grown hgrown (hb.chained.nextEntry ⟨_, rfl⟩)
          (fun id hid => absurd hid.symm (orderKey_ne_flattenKey id _)) (fun id hid => ?_)
          hb.answered
        obtain rfl := flattenKey_inj hid
        exact lookup_concat_isSome
  | recordAuditFact fact correlationId detail =>
      rcases recordAuditFact_cases h with ⟨rfl, rfl, -⟩ | ⟨-, -, rfl, rfl⟩
      · exact hb
      · exact hb.grown hgrown (hb.chained.nextEntry ⟨_, rfl⟩)
          (fun id hid => absurd hid (auditKey_ne id _ _).1)
          (fun id hid => absurd hid (auditKey_ne id _ _).2) hb.answered

/-! ## Replaying an entry does what was done when it was appended -/

omit [Externals] in
theorem Bar.Same.refl (a : Bar) : a.Same a :=
  ⟨rfl, Decimal.compare_eq.mpr ⟨le_refl _, le_refl _⟩, Decimal.compare_eq.mpr ⟨le_refl _, le_refl _⟩,
    Decimal.compare_eq.mpr ⟨le_refl _, le_refl _⟩, Decimal.compare_eq.mpr ⟨le_refl _, le_refl _⟩,
    rfl, rfl, rfl⟩

theorem applyEntry_of_none {e : PaperJournalEntry}
    (h : b.eventPayloadHashes.lookup e.eventKey = none) : b.applyEntry e =
      match e.eventType with
      | .marketObserved => (b.journalled e).applyObservation e
      | .paperOrderAccepted => (b.journalled e).applyAcceptedOrder e
      | .paperFlattenRequested => (b.journalled e).applyRequestedFlatten e
      | .portfolioCreated | .auditFact => .ok (b.journalled e) := by
  unfold DurablePaperBroker.applyEntry
  cases e.eventType <;> simp only [h]

/-- An observation is applied to what it was made on. -/
theorem applyObservation_payloadOf {e : PaperJournalEntry} {tick simulated : GeneratedTick}
    (hpayload : e.payload = payloadOf b tick simulated)
    (hsimulated : b.simulationTick tick = .ok simulated) :
    (b.journalled e).applyObservation e
      = .ok ((b.journalled e).observed simulated (rangeOf b tick)).2 := by
  have htick : tickFromPayload e.payload = .ok simulated := by
    rw [hpayload]
    exact tickFromPayload_observationPayload ..
  have hbar : (e.payload.get? "source_bar").getD .null = tick.bar.dump := by
    rw [hpayload]
    simp [payloadOf, observationPayload, tickPayload]
  have hfingerprint : ((e.payload.get? "source_bar_fingerprint").map Json.text).getD "None"
      = digestOf tick.bar.dump := by
    rw [hpayload]
    simp [payloadOf, observationPayload, tickPayload, Json.text]
  have hrange : (e.payload.get? "historical_bar_range_applied").bind Json.asBool?
      = some (decide (digestOf tick.bar.dump ∉ b.barRangesApplied)) := by
    rw [hpayload]
    simp [payloadOf, observationPayload, tickPayload, Json.asBool?]
  unfold DurablePaperBroker.applyObservation
  simp only [htick, hbar, Bar.modelValidate_dump, hfingerprint, hrange, bind, Except.bind]
  have hjournalled : (b.journalled e).barRangesApplied = b.barRangesApplied := rfl
  by_cases happlied : digestOf tick.bar.dump ∈ b.barRangesApplied
  · simp [happlied, hjournalled, rangeOf, pure, Except.pure]
  · have hsame : simulated = tick := by
      unfold DurablePaperBroker.simulationTick at hsimulated
      rw [if_neg happlied] at hsimulated
      exact (Except.ok.inj hsimulated).symm
    simp [happlied, hjournalled, rangeOf, hsame, Bar.Same.refl, pure, Except.pure]

/-- **Replay does what the operation did.** -/
theorem applyEntry_run (hb : Claimed b) {o : PaperOperation} {a : o.Answer}
    {e : PaperJournalEntry} (h : o.run b = ⟨some e, .ok a, s⟩) : b.applyEntry e = .ok s := by
  cases o with
  | advance tick =>
      obtain ⟨simulated, hsimulated, ⟨hnone, -⟩ | ⟨hlookup, hentry, hobserved⟩⟩ := advance_cases h
      · cases hnone
      · cases hentry
        rw [applyEntry_of_none hlookup]
        change (b.journalled _).applyObservation _ = _
        rw [applyObservation_payloadOf rfl hsimulated, ← hobserved]
  | submit order authorizedRiskAmount correlationId =>
      rcases submit_cases hb h with ⟨hnone, -⟩ | ⟨-, hlookup, hentry, happly⟩
      · cases hnone
      · cases hentry
        rw [applyEntry_of_none hlookup]
        change (b.journalled _).applyAcceptedOrder _ = _
        unfold DurablePaperBroker.applyAcceptedOrder
        simp only [DurablePaperBroker.nextEntry, DurablePaperBroker.orderPayload, Json.field,
          Json.get?_cons] at happly ⊢
        simp [ApprovedOrder.modelValidate_dump order.property, Json.asStr?, happly, bind,
          Except.bind, Except.map]
  | flattenAll flattenRequestId reason =>
      rcases flattenAll_cases hb h with ⟨hnone, -⟩ | ⟨-, hlookup, hentry, happly⟩
      · cases hnone
      · cases hentry
        rw [applyEntry_of_none hlookup]
        change (b.journalled _).applyRequestedFlatten _ = _
        unfold DurablePaperBroker.applyRequestedFlatten
        simp only [DurablePaperBroker.nextEntry, DurablePaperBroker.flattenPayload, Json.field,
          Json.get?_cons] at happly ⊢
        simp [Json.asStr?, happly, bind, Except.bind, Except.map]
  | recordAuditFact fact correlationId detail =>
      rcases recordAuditFact_cases h with ⟨hnone, -⟩ | ⟨hlookup, -, hentry, rfl⟩
      · cases hnone
      · cases hentry
        exact applyEntry_of_none hlookup

theorem lookup_header {p : PaperPortfolio} {key : String} (hne : key ≠ "portfolio") :
    p.created.eventPayloadHashes.lookup key = none := by
  have hhashes : p.created.eventPayloadHashes = [("portfolio", digestOf p.headerPayload)] := rfl
  rw [hhashes, List.lookup_cons, beq_false_of_ne hne]
  rfl

theorem claimed_created (p : PaperPortfolio) : Claimed p.created := by
  have hportfolio : "portfolio" = "p" ++ "ortfolio" := rfl
  refine ⟨fun id hid => ?_, fun id hid => ?_, rfl, Chained.nil.nextEntry ⟨_, rfl⟩⟩
  · have hne : DurablePaperBroker.orderKey id ≠ "portfolio" :=
      hportfolio ▸ append_ne (c := 'o') (d := 'p') rfl rfl (by decide)
    rw [lookup_header hne] at hid
    cases hid
  · have hne : DurablePaperBroker.flattenKey id ≠ "portfolio" :=
      hportfolio ▸ append_ne (c := 'f') (d := 'p') rfl rfl (by decide)
    rw [lookup_header hne] at hid
    cases hid

/-- **The journal of a paper portfolio is faithful.** -/
theorem paperSource_faithful (p : PaperPortfolio) : (paperSource p).Faithful Claimed where
  start := claimed_created p
  keeps := fun hb h => claimed_run hb h
  applies := fun hb h => applyEntry_run hb h
  silent := by
    intro o b a s hb h
    cases o with
    | advance tick =>
        obtain ⟨simulated, -, ⟨-, -, rfl, -⟩ | ⟨-, hentry, -⟩⟩ := advance_cases h
        · rfl
        · cases hentry
    | submit order authorizedRiskAmount correlationId =>
        rcases submit_cases hb h with ⟨-, rfl, -⟩ | ⟨-, -, hentry, -⟩
        · rfl
        · cases hentry
    | flattenAll flattenRequestId reason =>
        rcases flattenAll_cases hb h with ⟨-, rfl, -⟩ | ⟨-, -, hentry, -⟩
        · rfl
        · cases hentry
    | recordAuditFact fact correlationId detail =>
        rcases recordAuditFact_cases h with ⟨-, rfl, -⟩ | ⟨-, -, hentry, -⟩
        · rfl
        · cases hentry

/-! ## Starting from the file -/

/-- The entries in memory are those of the file. -/
theorem entries_direct {p : PaperPortfolio} {h : List ((o : PaperOperation) × o.Answer)}
    {process : Sourcing.Process DurablePaperBroker PaperJournalEntry}
    (hd : (paperSource p).Direct h process) :
    process.live.entries = p.header :: process.journal := by
  induction hd with
  | init => rfl
  | @ran h process o a r s hd hrun ih =>
      have hclaimed := ((paperSource_faithful p).rebuild_live hd.reach).2
      have hgrown : Grown process.live r s := run_grown hclaimed hrun
      rw [hgrown.entries, ih, List.cons_append]

/-- **What a process that starts makes of the file is what the journal makes of itself.** -/
theorem load_paperFile {p : PaperPortfolio} {journal : List PaperJournalEntry}
    (hchained : Chained (p.header :: journal)) :
    p.load (paperFile p journal) = (paperSource p).rebuild journal := by
  unfold PaperPortfolio.load paperFile
  rw [hchained.readEntries]
  change p.replay (p.header :: journal) = _
  unfold PaperPortfolio.replay
  have hheader : DurablePaperBroker.applyEntry p.fresh p.header = .ok p.created :=
    applyEntry_of_none rfl
  have hpayload : p.header.payload.same p.headerPayload = true := Json.same_self _
  have htype : p.header.eventType = .portfolioCreated := rfl
  simp only [bind, Except.bind, htype, hpayload, ne_eq, not_true_eq_false, if_false, Bool.not_true,
    Bool.false_eq_true, List.foldlM_cons, hheader]
  rfl

/-- **The file of a run makes its portfolio.** -/
theorem load_of_reach {p : PaperPortfolio} {h : List ((o : PaperOperation) × o.Answer)}
    {process : Sourcing.Process DurablePaperBroker PaperJournalEntry}
    (hp : (paperSource p).Reach h process) :
    p.load (paperFile p process.journal) = .ok process.live
      ∧ Claimed process.live ∧ process.live.entries = p.header :: process.journal := by
  have hfaithful := paperSource_faithful p
  have hentries := entries_direct (hfaithful.direct hp)
  obtain ⟨hlive, hclaimed⟩ := hfaithful.rebuild_live hp
  have hchained := hclaimed.chained
  rw [hentries] at hchained
  exact ⟨(load_paperFile hchained).trans hlive, hclaimed, hentries⟩

/-! ## Trying again -/

/-- What a second try answers: it closes no trade and records no fact. -/
def PaperOperation.retried : (o : PaperOperation) → o.Answer → o.Answer
  | .advance _, _ => []
  | .submit .., result => result
  | .flattenAll .., closed => closed
  | .recordAuditFact .., _ => false

section

variable {p : PaperPortfolio} {h : List ((o : PaperOperation) × o.Answer)}
  {process : Sourcing.Process DurablePaperBroker PaperJournalEntry}

/-- An observation uses the range of its bar when the bar is new to the portfolio. -/
def UsesRange (p : PaperPortfolio) (before : List ((o : PaperOperation) × o.Answer))
    (o : PaperOperation) : Prop :=
  ∃ tick process, o = .advance tick ∧ (paperSource p).Direct before process
    ∧ digestOf tick.bar.dump ∉ process.live.barRangesApplied

/-- What an operation that was answered leaves behind. -/
def Left (o : PaperOperation) (a : o.Answer) (b : DurablePaperBroker) : Prop :=
  match o, a with
  | .advance tick, _ => digestOf tick.bar.dump ∈ b.barRangesApplied ∧
      ∃ simulated, quoteOnlyTick tick = .ok simulated ∧
        (b.eventPayloadHashes.lookup (DurablePaperBroker.observationKey (observationPayload simulated
          tick.bar.dump (digestOf tick.bar.dump) false))).isSome
  | .submit order authorizedRiskAmount _, result => ¬ authorizedRiskAmount < 0
      ∧ b.orderFingerprints.lookup order.val.orderRequestId = some (digestOf order.val.dump)
      ∧ b.orderResults.lookup order.val.orderRequestId = some result
  | .flattenAll flattenRequestId _, closed =>
      b.flattenResults.lookup flattenRequestId = some closed
  | .recordAuditFact fact correlationId detail, _ =>
      b.eventPayloadHashes.lookup (DurablePaperBroker.auditKey fact correlationId)
        = some (digestOf (DurablePaperBroker.auditPayload fact correlationId detail))

/-- A second try finds what the first left, and changes nothing. -/
theorem run_of_left {o : PaperOperation} {a : o.Answer} (h : Left o a b) :
    o.run b = ⟨none, .ok (o.retried a), b⟩ := by
  cases o with
  | advance tick =>
      obtain ⟨happlied, simulated, hsimulated, hknown⟩ := h
      have hfalse : decide (digestOf tick.bar.dump ∉ b.barRangesApplied) = false := by
        simpa using happlied
      change b.advance tick = _
      unfold DurablePaperBroker.advance DurablePaperBroker.simulationTick
      rw [if_pos happlied, hsimulated]
      simp only [hfalse, hknown, if_true]
      rfl
  | submit order authorizedRiskAmount correlationId =>
      obtain ⟨hamount, hfingerprint, hresult⟩ := h
      change b.submit order authorizedRiskAmount correlationId = _
      unfold DurablePaperBroker.submit
      rw [if_neg hamount]
      simp only [hfingerprint, ne_eq, not_true_eq_false, if_false, hresult]
      rfl
  | flattenAll flattenRequestId reason =>
      change b.flattenAll flattenRequestId reason = _
      unfold DurablePaperBroker.flattenAll
      simp only [show b.flattenResults.lookup flattenRequestId = some a from h]
      rfl
  | recordAuditFact fact correlationId detail =>
      change b.recordAuditFact fact correlationId detail = _
      exact append_known h

omit [Externals] in
theorem lookup_concat_of_none {β γ : Type} [BEq β] [LawfulBEq β] {xs : List (β × γ)} {k : β} {v : γ}
    (hk : xs.lookup k = none) : (xs ++ [(k, v)]).lookup k = some v := by
  rw [List.lookup_append, hk, Option.none_or, List.lookup_cons, beq_self_eq_true]

omit [Externals] in
theorem lookup_eq_none_iff_keys {β γ : Type} [BEq β] [LawfulBEq β] {xs : List (β × γ)} {k : β} :
    xs.lookup k = none ↔ k ∉ xs.map Prod.fst := by
  rw [List.lookup_eq_none_iff]
  simp only [List.mem_map, not_exists, not_and, bne_iff_ne, ne_eq]
  exact ⟨fun h pair hpair hk => h pair hpair hk.symm, fun h pair hpair hk => h pair hpair hk.symm⟩

/-- The key of an entry that is appended stands for its payload. -/
theorem Grown.lookup_key {e : PaperJournalEntry} (hg : Grown b (some e) s)
    (hkey : b.eventPayloadHashes.lookup e.eventKey = none) :
    s.eventPayloadHashes.lookup e.eventKey = some (digestOf e.payload) := by
  rw [hg.hashes]
  exact lookup_concat_of_none hkey

theorem Grown.prefix_hashes (hg : Grown b r s) : b.eventPayloadHashes <+: s.eventPayloadHashes :=
  ⟨_, hg.hashes.symm⟩

/-- What is left is kept. -/
theorem Left.grown {o : PaperOperation} {a : o.Answer} (h : Left o a b) (hg : Grown b r s) :
    Left o a s := by
  cases o with
  | advance tick =>
      obtain ⟨happlied, simulated, hsimulated, hknown⟩ := h
      exact ⟨hg.ranges.subset happlied, simulated, hsimulated,
        isSome_lookup_mono hg.prefix_hashes hknown⟩
  | submit order authorizedRiskAmount correlationId =>
      obtain ⟨hamount, hfingerprint, hresult⟩ := h
      exact ⟨hamount, lookup_mono hg.fingerprints hfingerprint,
        lookup_mono hg.results hresult⟩
  | flattenAll flattenRequestId reason => exact lookup_mono hg.flattens h
  | recordAuditFact fact correlationId detail => exact lookup_mono hg.prefix_hashes h

/-- Every operation leaves what a second try needs, an observation when its bar was known. -/
theorem left_of_run (hb : Claimed b) {o : PaperOperation} {a : o.Answer}
    (h : o.run b = ⟨r, .ok a, s⟩)
    (hseen : ∀ tick, o = .advance tick → digestOf tick.bar.dump ∈ b.barRangesApplied) :
    Left o a s := by
  have hgrown := run_grown hb h
  cases o with
  | advance tick =>
      have happlied := hseen tick rfl
      obtain ⟨simulated, hsimulated, hcases⟩ := advance_cases h
      have hpayload : payloadOf b tick simulated = observationPayload simulated tick.bar.dump
          (digestOf tick.bar.dump) false := by
        simp [payloadOf, happlied]
      have hquote : quoteOnlyTick tick = .ok simulated := by
        rw [← hsimulated, DurablePaperBroker.simulationTick, if_pos happlied]
      refine ⟨hgrown.ranges.subset happlied, simulated, hquote, ?_⟩
      rw [← hpayload]
      rcases hcases with ⟨-, -, rfl, hknown⟩ | ⟨hlookup, rfl, -⟩
      · exact hknown
      · have hkey := hgrown.lookup_key hlookup
        exact Option.isSome_iff_exists.mpr ⟨_, hkey⟩
  | submit order authorizedRiskAmount correlationId =>
      have hamount : ¬ authorizedRiskAmount < 0 := by
        intro hnegative
        change b.submit order authorizedRiskAmount correlationId = _ at h
        rw [DurablePaperBroker.submit, if_pos hnegative] at h
        cases h
      rcases submit_cases hb h with ⟨-, rfl, hfingerprint, hresult⟩ | ⟨hfresh, -, rfl, happly⟩
      · exact ⟨hamount, hfingerprint, hresult⟩
      · obtain ⟨broker, -, rfl⟩ := applyOrder_grown happly
        refine ⟨hamount, lookup_concat_of_none hfresh, lookup_concat_of_none ?_⟩
        rw [lookup_eq_none_iff_keys] at hfresh ⊢
        change _ ∉ b.orderResults.map Prod.fst
        rw [hb.answered]
        exact hfresh
  | flattenAll flattenRequestId reason =>
      rcases flattenAll_cases hb h with ⟨-, rfl, hclosed⟩ | ⟨hfresh, -, -, happly⟩
      · exact hclosed
      · obtain ⟨broker, -, rfl⟩ := applyFlatten_grown happly
        exact lookup_concat_of_none hfresh
  | recordAuditFact fact correlationId detail =>
      rcases recordAuditFact_cases h with ⟨-, rfl, -, hknown⟩ | ⟨hlookup, -, rfl, -⟩
      · exact hknown
      · exact hgrown.lookup_key hlookup

variable (hp : (paperSource p).Reach h process)
include hp

/-- **A paper portfolio survives its process.** However often the process dies, also between an
append and what it was for, the answers, the journal and the portfolio are those of a process that
never died; the next process makes that portfolio of the file; and what is tried again is answered
as it was and changes nothing, an observation when it did not use the range of its bar. -/
theorem paper_journal_replay :
    (paperSource p).Direct h process
      ∧ p.load (paperFile p process.journal) = .ok process.live
      ∧ ∀ before o a after, h = before ++ ⟨o, a⟩ :: after → ¬ UsesRange p before o →
        o.run process.live = ⟨none, .ok (o.retried a), process.live⟩ := by
  have hfaithful := paperSource_faithful p
  have hdirect := hfaithful.direct hp
  refine ⟨hdirect, (load_of_reach hp).1, fun before o a after hsplit hrange => run_of_left ?_⟩
  refine hfaithful.answered (P := fun before o a b => ¬ UsesRange p before o → Left o a b)
    (fun hd hb hrun hnew => ?_) (fun hb hrun hleft hnew => ?_) hdirect hsplit hrange
  · refine left_of_run hb hrun fun tick ho => ?_
    by_contra hfresh
    exact hnew ⟨tick, _, ho, hd, hfresh⟩
  · exact (hleft hnew).grown (run_grown hb hrun)

end

end

end Crumblr

namespace Crumblr

namespace Sample

def portfolio : PaperPortfolio where
  spec
  startingBalance := spec.contractSize
  accountCurrency := "USD"
  leverage := 100

/-- The quote of one bar, some minutes after noon. -/
def quoted (minutes : Int) : GeneratedTick where
  bar := {
    openTimeUtc := noon
    openPrice := price 110000
    high := price 110010
    low := price 109990
    close := price 110001
    tickVolume := 1
    realVolume := none
    spreadPoints := none
    ohlc := by decide }
  bid := ⟨110000, -5⟩
  ask := ⟨110002, -5⟩
  spreadPoints := 2
  eventTimeUtc := noon + minutes * 60000000
  receivedTimeUtc := noon + minutes * 60000000
  dataQuality := .good
  injectedFault := none

theorem volume_pos : (0 : Decimal) < ⟨1, -1⟩ := by decide

def paperOrder : PaperOrder where
  val := {
    orderRequestId := ⟨"order"⟩
    intentId := ⟨"intent"⟩
    intentRiskDecisionId := ⟨"risk"⟩
    finalRiskDecisionId := none
    supervisorDecisionId := ⟨"policy"⟩
    brokerSymbol := "EURUSD"
    side := .buy
    entryType := .market
    volume := ⟨⟨1, -1⟩, volume_pos⟩
    price := none
    stopLossPrice := ⟨⟨109950, -5⟩, by decide⟩
    takeProfitPrice := none
    maxSlippagePoints := 20
    createdAtUtc := noon
    expiresAtUtc := noon + 60000000
    environment := .paper
    directional := buy_directional
    priced := by decide
    lifetime := by decide }
  property := by decide +kernel

/-- A bar and an order. -/
def traded : List PaperOperation := [.advance (quoted 0), .submit paperOrder ⟨50, 0⟩ none]

/-- A run ends with a position open, and the bar is observed again. -/
def observesAgain (end_ : List ((o : PaperOperation) × o.Answer)
    × Sourcing.Process DurablePaperBroker PaperJournalEntry) : Bool :=
  decide (end_.2.live.broker.open_.length = 1)
    && match (end_.2.live.advance (quoted 1)) with
      | ⟨some _, .ok _, _⟩ => true
      | _ => false

end Sample

open Sample in
/-- With a position open, a process dies between the append of an observation and the change of
its state. -/
theorem paper_journal_replay_sample : ∃ h p r a s process, (paperSource portfolio).Reach h p
    ∧ p.live.broker.open_.length = 1
    ∧ (paperSource portfolio).run (.advance (Sample.quoted 1)) p.live = ⟨some r, .ok a, s⟩
    ∧ process.journal = p.journal ++ [r]
    ∧ (paperSource portfolio).rebuild process.journal = .ok process.live
    ∧ (paperSource portfolio).Direct (h ++ [⟨.advance (Sample.quoted 1), a⟩]) process
    ∧ portfolio.load (paperFile portfolio process.journal) = .ok process.live := by
  have hrun : (match (paperSource portfolio).carryOut traded ⟨[], portfolio.created⟩ with
      | .ok end_ => observesAgain end_
      | .error _ => false) = true := by decide +kernel
  obtain ⟨h, p, hp, hend⟩ := Sourcing.Source.Reach.exists_of_carryOut traded observesAgain
    (.init (S := paperSource portfolio)) hrun
  obtain ⟨hopen, hobserves⟩ := Bool.and_eq_true_iff.mp hend
  split at hobserves
  · rename_i r a s hadvance
    have hadvance : (paperSource portfolio).run (.advance (Sample.quoted 1)) p.live
        = ⟨some r, .ok a, s⟩ := hadvance
    have hfaithful := paperSource_faithful portfolio
    obtain ⟨hlive, hinvariant⟩ := hfaithful.rebuild_live hp
    have hrebuild := hfaithful.rebuild_cut hlive hinvariant hadvance
    obtain ⟨hdirect, hload, -⟩ := paper_journal_replay (.cut hp hadvance hrebuild)
    exact ⟨h, p, r, a, s, _, hp, of_decide_eq_true hopen, hadvance, rfl, hrebuild, hdirect, hload⟩
  · cases hobserves

open Sample in
/-- A fact that is recorded again is not answered as it was. -/
theorem recorded_again : ∃ h process, (paperSource portfolio).Reach h process
    ∧ (⟨.recordAuditFact "PAPER_FILLED" ⟨"outcome"⟩ none, true⟩ :
        (o : PaperOperation) × o.Answer) ∈ h
    ∧ (process.live.recordAuditFact "PAPER_FILLED" ⟨"outcome"⟩ none).outcome = .ok false :=
  ⟨_, _, .ran .init (o := .recordAuditFact "PAPER_FILLED" ⟨"outcome"⟩ none) (a := true) rfl,
    by simp, rfl⟩

end Crumblr
