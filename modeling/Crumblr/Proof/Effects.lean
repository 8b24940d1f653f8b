import Crumblr.Proof.PassConformance

/-!
# What one call does to the ledger

Of everything a call can change, the arguments about submissions and flattens need
six tables and the two lists of broker calls. One inversion lemma says what each
call does to them, and every invariant is proved from that lemma alone.
-/

namespace Crumblr

variable [Externals]

/-- The part of the world that submissions and flattens are about. -/
structure Ledger where
  requests : List ExecutionRequest
  events : List ExecutionEventRecord
  consumptions : List CanaryPermitConsumption
  sends : List Send
  flattenRequests : List FlattenRequest
  flattenEvents : List FlattenEventRecord
  closes : List FlattenInstruction

def World.ledger (w : World) : Ledger where
  requests := w.db.executionRequests
  events := w.db.executionEvents
  consumptions := w.db.canaryPermitConsumptions
  sends := w.sends
  flattenRequests := w.db.flattenRequests
  flattenEvents := w.db.flattenEvents
  closes := w.closes

namespace Ledger

/-- The history of one request. -/
def eventsFor (l : Ledger) (r : Uuid) : List ExecutionEventRecord :=
  l.events.filter fun e => e.orderRequestId = r

/-- The history of one occurrence. -/
def flattenEventsFor (l : Ledger) (f : Uuid) : List FlattenEventRecord :=
  l.flattenEvents.filter fun e => e.flattenRequestId = f

end Ledger

/-- Two events the store takes for the same. -/
def sameContent (e e' : ExecutionEventRecord) : Prop :=
  ∃ digest, fingerprint (Database.eventContent e.reasonCodes e.detail e.payload) = .ok digest
    ∧ fingerprint (Database.eventContent e'.reasonCodes e'.detail e'.payload) = .ok digest

def sameFlattenContent (e e' : FlattenEventRecord) : Prop :=
  ∃ digest, fingerprint (Database.eventContent e.reasonCodes e.detail e.payload) = .ok digest
    ∧ fingerprint (Database.eventContent e'.reasonCodes e'.detail e'.payload) = .ok digest

/-- The call, answered so, changes nothing and tells nothing. -/
structure Idle (c : Call) (a : Except PyError c.Answer) : Prop where
  /-- It tells nothing of a request. -/
  news : ∀ r, executionNews r ⟨c, a⟩ = .silent
  /-- It tells nothing of an occurrence. -/
  flattenNews : ∀ f, flattenNews f ⟨c, a⟩ = .silent
  /-- It changes no standing. -/
  holding : ∀ r h, holdingAfter r h ⟨c, a⟩ = h
  /-- It is no order. -/
  calm : ∀ order, c ≠ .orderSend order

/-- Everything a call can do to the ledger. -/
inductive Effect (l : Ledger) : (c : Call) → Except PyError c.Answer → Ledger → Prop where
  /-- A claim is won. -/
  | claimed (row : ExecutionRequest) :
      Table.lookup (·.orderRequestId) l.requests row.orderRequestId = none →
      Effect l (.claim row) (.ok true) { l with requests := l.requests ++ [row] }
  /-- An event is new. -/
  | appended (e : ExecutionEventRecord) :
      Table.lookup ExecutionEventRecord.key l.events e.key = none →
      (∃ row ∈ l.requests, row.orderRequestId = e.orderRequestId) →
      Effect l (.append e) (.ok true) { l with events := l.events ++ [e] }
  /-- An event is there already, with the same content. -/
  | repeated (e e' : ExecutionEventRecord) :
      Table.lookup ExecutionEventRecord.key l.events e.key = some e' → sameContent e e' →
      Effect l (.append e) (.ok false) l
  /-- A history is read. -/
  | read (r : Uuid) : Effect l (.eventsFor r) (.ok (l.eventsFor r)) l
  /-- A permit is consumed, and the commitment is new. -/
  | committed (permitId r : Uuid) (now : UtcDatetime) (payload : Json) :
      Table.lookup (·.permitId) l.consumptions permitId = none →
      Table.lookup ExecutionEventRecord.key l.events (r, .submissionStarted) = none →
      (∃ row ∈ l.requests, row.orderRequestId = r) →
      Effect l (.consumeAndStart permitId r now payload) (.ok .consumed)
        { l with
          consumptions := l.consumptions ++ [⟨permitId, r, now⟩]
          events := l.events ++ [⟨r, .submissionStarted, now, [], none, some payload⟩] }
  /-- A permit is consumed for a commitment that was there already. -/
  | recommitted (permitId r : Uuid) (now : UtcDatetime) (payload : Json)
      (e : ExecutionEventRecord) :
      Table.lookup (·.permitId) l.consumptions permitId = none →
      Table.lookup ExecutionEventRecord.key l.events (r, .submissionStarted) = some e →
      Effect l (.consumeAndStart permitId r now payload) (.ok .consumed)
        { l with consumptions := l.consumptions ++ [⟨permitId, r, now⟩] }
  /-- A permit is not consumed. -/
  | refused (permitId r : Uuid) (now : UtcDatetime) (payload : Json)
      (a : Except PyError Database.CanaryPermitConsumeOutcome) :
      a ≠ .ok .consumed → Effect l (.consumeAndStart permitId r now payload) a l
  /-- An order goes out. -/
  | sent (order : ApprovedOrder) (fate : SendFate) (a : Except PyError ExecutionResult) :
      Effect l (.orderSend order) a { l with sends := l.sends ++ [⟨order, fate⟩] }
  /-- The claim of an occurrence is won. -/
  | claimedFlatten (row : FlattenRequest) :
      Table.lookup (·.flattenRequestId) l.flattenRequests row.flattenRequestId = none →
      Effect l (.claimFlatten row) (.ok true)
        { l with flattenRequests := l.flattenRequests ++ [row] }
  /-- A flatten event is new. -/
  | appendedFlatten (e : FlattenEventRecord) :
      Table.lookup FlattenEventRecord.key l.flattenEvents e.key = none →
      (∃ row ∈ l.flattenRequests, row.flattenRequestId = e.flattenRequestId) →
      Effect l (.appendFlatten e) (.ok true) { l with flattenEvents := l.flattenEvents ++ [e] }
  /-- A flatten event is there already, with the same content. -/
  | repeatedFlatten (e e' : FlattenEventRecord) :
      Table.lookup FlattenEventRecord.key l.flattenEvents e.key = some e' →
      sameFlattenContent e e' → Effect l (.appendFlatten e) (.ok false) l
  /-- The history of an occurrence is read. -/
  | readFlatten (f : Uuid) : Effect l (.flattenEventsFor f) (.ok (l.flattenEventsFor f)) l
  /-- A close goes out. -/
  | closed (instruction : FlattenInstruction) (a : Except PyError ExecutionResult) :
      Effect l (.closePosition instruction) a { l with closes := l.closes ++ [instruction] }
  /-- Nothing happens. -/
  | idle (c : Call) (a : Except PyError c.Answer) : Idle c a → Effect l c a l

/-- What a call does to the requests and their events. -/
theorem Effect.filed {l l' : Ledger} {c : Call} {a : Except PyError c.Answer}
    (h : Effect l c a l') :
    (l'.requests = l.requests ∧ l'.events = l.events)
      ∨ (∃ row, c = .claim row
          ∧ Table.lookup (·.orderRequestId) l.requests row.orderRequestId = none
          ∧ l'.requests = l.requests ++ [row] ∧ l'.events = l.events)
      ∨ ∃ e, l'.requests = l.requests ∧ l'.events = l.events ++ [e]
          ∧ (∃ row ∈ l.requests, row.orderRequestId = e.orderRequestId)
          ∧ (c = .append e ∨ e.eventType = .submissionStarted ∧ ∃ permitId payload,
              c = .consumeAndStart permitId e.orderRequestId e.occurredAtUtc payload) := by
  cases h with
  | claimed row hnone => exact .inr (.inl ⟨row, rfl, hnone, rfl, rfl⟩)
  | appended e _ hrow => exact .inr (.inr ⟨e, rfl, rfl, hrow, .inl rfl⟩)
  | committed permitId r now payload _ _ hrow =>
      exact .inr (.inr ⟨_, rfl, rfl, hrow, .inr ⟨rfl, permitId, payload, rfl⟩⟩)
  | _ => exact .inl ⟨rfl, rfl⟩

/-- The log of flattens is only ever appended to. -/
theorem Effect.flattened {l l' : Ledger} {c : Call} {a : Except PyError c.Answer}
    (h : Effect l c a l') :
    l'.flattenEvents = l.flattenEvents
      ∨ ∃ e, c = .appendFlatten e ∧ l'.flattenEvents = l.flattenEvents ++ [e] := by
  cases h with
  | appendedFlatten e => exact .inr ⟨e, rfl, rfl⟩
  | _ => exact .inl rfl

/-- Only a call that sends an order adds to the orders sent. -/
theorem Effect.sends {l l' : Ledger} {c : Call} {a : Except PyError c.Answer}
    (h : Effect l c a l') :
    (∃ order fate, c = .orderSend order ∧ l'.sends = l.sends ++ [⟨order, fate⟩])
      ∨ (∀ order, c ≠ .orderSend order) ∧ l'.sends = l.sends := by
  cases h with
  | sent order fate a => exact .inl ⟨order, fate, rfl, rfl⟩
  | idle c a hidle => exact .inr ⟨hidle.calm, rfl⟩
  | _ =>
      refine .inr ⟨?_, rfl⟩
      rintro _ ⟨⟩

/-! ## The store methods -/

omit [Externals] in
/-- What a claim does, unless it raises. -/
theorem claim_ok {db db' : Database} {row : ExecutionRequest} {won : Bool}
    (h : db.claim row = .ok (won, db')) :
    (won = true ∧ Table.lookup (·.orderRequestId) db.executionRequests row.orderRequestId = none
        ∧ db' = { db with executionRequests := db.executionRequests ++ [row] })
      ∨ (won = false ∧ db' = db) := by
  unfold Database.claim at h
  split at h
  · rename_i hnone
    split at h
    · cases h; exact .inl ⟨rfl, hnone, rfl⟩
    · cases h
  · split at h
    · cases h
    · cases h; exact .inr ⟨rfl, rfl⟩

/-- What an append does, unless it raises. -/
theorem appendEvent_ok {db db' : Database} {e : ExecutionEventRecord} {inserted : Bool}
    (h : db.appendEvent e = .ok (inserted, db')) :
    (inserted = true ∧ Table.lookup ExecutionEventRecord.key db.executionEvents e.key = none
        ∧ (∃ row ∈ db.executionRequests, row.orderRequestId = e.orderRequestId)
        ∧ db' = { db with executionEvents := db.executionEvents ++ [e] })
      ∨ (inserted = false ∧ db' = db ∧ ∃ e',
          Table.lookup ExecutionEventRecord.key db.executionEvents e.key = some e'
            ∧ sameContent e e') := by
  unfold Database.appendEvent at h
  split at h
  · rename_i hnone
    split at h
    · rename_i hrow
      cases h
      exact .inl ⟨rfl, hnone, by simpa using hrow, rfl⟩
    · cases h
  · rename_i e' hsome
    cases hnew : fingerprint (Database.eventContent e.reasonCodes e.detail e.payload) with
    | error err => rw [hnew] at h; cases h
    | ok new =>
        rw [hnew] at h
        cases hold : fingerprint (Database.eventContent e'.reasonCodes e'.detail e'.payload) with
        | error err => simp only [hold] at h; cases h
        | ok old =>
            simp only [hold, bind, Except.bind] at h
            split at h
            · cases h
            · rename_i heq
              cases h
              simp only [Decidable.not_not] at heq
              exact .inr ⟨rfl, rfl, e', hsome, new, hnew, by rw [heq]; exact hold⟩

/-- What the submission transaction does, unless it raises. -/
theorem consumeAndStart_ok {db db' : Database} {permitId r : Uuid} {now : UtcDatetime}
    {payload : Json} {outcome : Database.CanaryPermitConsumeOutcome}
    (h : db.consumeAndStart permitId r now payload = .ok (outcome, db')) :
    (outcome = .consumed
        ∧ Table.lookup (·.permitId) db.canaryPermitConsumptions permitId = none
        ∧ ∃ inserted, ({ db with canaryPermitConsumptions :=
            db.canaryPermitConsumptions ++ [⟨permitId, r, now⟩] } : Database).appendEvent
              ⟨r, .submissionStarted, now, [], none, some payload⟩ = .ok (inserted, db'))
      ∨ (outcome ≠ .consumed ∧ db' = db) := by
  unfold Database.consumeAndStart Database.consume at h
  cases hp : db.permitFor permitId with
  | none =>
      simp only [hp] at h
      cases h
      exact .inr ⟨by simp, rfl⟩
  | some permit =>
      simp only [hp] at h
      by_cases hexp : permit.validUntilUtc < now
      · simp only [hexp, if_true] at h
        cases h
        exact .inr ⟨by simp, rfl⟩
      · simp only [hexp, if_false] at h
        cases hins : Table.insert? (·.permitId) db.canaryPermitConsumptions
          ⟨permitId, r, now⟩ with
        | none =>
            simp only [hins] at h
            cases h
            exact .inr ⟨by simp, rfl⟩
        | some rows =>
            obtain ⟨hfree, rfl⟩ := Table.insert?_eq_some hins
            simp only [hins] at h
            generalize happ : Database.appendEvent _ _ = appended at h
            cases appended with
            | error err => cases h
            | ok result =>
                cases h
                exact .inl ⟨rfl, hfree, result.1, rfl⟩

omit [Externals] in
theorem claimFlatten_ok {db db' : Database} {row : FlattenRequest} {won : Bool}
    (h : db.claimFlatten row = .ok (won, db')) :
    (won = true
        ∧ Table.lookup (·.flattenRequestId) db.flattenRequests row.flattenRequestId = none
        ∧ db' = { db with flattenRequests := db.flattenRequests ++ [row] })
      ∨ (won = false ∧ db' = db) := by
  unfold Database.claimFlatten at h
  split at h
  · rename_i hnone
    cases h
    exact .inl ⟨rfl, hnone, rfl⟩
  · split at h
    · cases h
    · cases h; exact .inr ⟨rfl, rfl⟩

theorem appendFlattenEvent_ok {db db' : Database} {e : FlattenEventRecord} {inserted : Bool}
    (h : db.appendFlattenEvent e = .ok (inserted, db')) :
    (inserted = true ∧ Table.lookup FlattenEventRecord.key db.flattenEvents e.key = none
        ∧ (∃ row ∈ db.flattenRequests, row.flattenRequestId = e.flattenRequestId)
        ∧ db' = { db with flattenEvents := db.flattenEvents ++ [e] })
      ∨ (inserted = false ∧ db' = db ∧ ∃ e',
          Table.lookup FlattenEventRecord.key db.flattenEvents e.key = some e'
            ∧ sameFlattenContent e e') := by
  unfold Database.appendFlattenEvent at h
  split at h
  · rename_i hnone
    split at h
    · rename_i hrow
      cases h
      exact .inl ⟨rfl, hnone, by simpa using hrow, rfl⟩
    · cases h
  · rename_i e' hsome
    cases hnew : fingerprint (Database.eventContent e.reasonCodes e.detail e.payload) with
    | error err => rw [hnew] at h; cases h
    | ok new =>
        rw [hnew] at h
        cases hold : fingerprint (Database.eventContent e'.reasonCodes e'.detail e'.payload) with
        | error err => simp only [hold] at h; cases h
        | ok old =>
            simp only [hold, bind, Except.bind] at h
            split at h
            · cases h
            · rename_i heq
              cases h
              simp only [Decidable.not_not] at heq
              exact .inr ⟨rfl, rfl, e', hsome, new, hnew, by rw [heq]; exact hold⟩

/-! ## Calls -/

/-- What is left of a call that raises. -/
theorem failed_effect (w : World) (fate : SendFate) (c : Call) (e : PyError) :
    Effect w.ledger c (.error e) (w.failed fate c).ledger := by
  cases c with
  | orderSend order => exact .sent order fate _
  | closePosition instruction => exact .closed instruction _
  | consumeAndStart permitId r now payload => exact .refused _ _ _ _ _ (by simp)
  | _ => exact .idle _ _ ⟨fun _ => rfl, fun _ => rfl, fun _ _ => rfl, fun _ => by simp⟩

/-- What a call that nothing disturbs does. -/
theorem answer_effect (replies : Replies) (i : Nat) (w : World) (c : Call) :
    Effect w.ledger c (w.answer replies i c).1 (w.answer replies i c).2.ledger := by
  cases c with
  | orderSend order => exact .sent order .reached _
  | closePosition instruction => exact .closed instruction _
  | eventsFor r => exact .read r
  | flattenEventsFor f => exact .readFlatten f
  | claim row =>
      change Effect w.ledger (.claim row) (w.stored (w.db.claim row)).1 (w.stored (w.db.claim row)).2.ledger
      cases hdb : w.db.claim row with
      | error e => exact .idle _ _ ⟨fun _ => rfl, fun _ => rfl, fun _ _ => rfl, fun _ => by simp⟩
      | ok result =>
          obtain ⟨won, db'⟩ := result
          rcases claim_ok hdb with ⟨rfl, hnone, rfl⟩ | ⟨rfl, rfl⟩
          · exact .claimed row hnone
          · exact .idle _ _ ⟨fun _ => rfl, fun _ => rfl, fun _ _ => rfl, fun _ => by simp⟩
  | append e =>
      change Effect w.ledger (.append e) (w.stored (w.db.appendEvent e)).1
        (w.stored (w.db.appendEvent e)).2.ledger
      cases hdb : w.db.appendEvent e with
      | error e => exact .idle _ _ ⟨fun _ => rfl, fun _ => rfl, fun _ _ => rfl, fun _ => by simp⟩
      | ok result =>
          obtain ⟨inserted, db'⟩ := result
          rcases appendEvent_ok hdb with ⟨rfl, hnone, hrow, rfl⟩ | ⟨rfl, rfl, e', hsome, hsame⟩
          · exact .appended e hnone hrow
          · exact .repeated e e' hsome hsame
  | consumeAndStart permitId r now payload =>
      change Effect w.ledger (.consumeAndStart permitId r now payload) (w.stored (w.db.consumeAndStart permitId r now payload)).1
        (w.stored (w.db.consumeAndStart permitId r now payload)).2.ledger
      cases hdb : w.db.consumeAndStart permitId r now payload with
      | error e => exact .refused _ _ _ _ _ (by simp [World.stored])
      | ok result =>
          obtain ⟨outcome, db'⟩ := result
          rcases consumeAndStart_ok hdb with ⟨rfl, hfree, inserted, happ⟩ | ⟨hother, rfl⟩
          · rcases appendEvent_ok happ with ⟨-, hnone, hrow, rfl⟩ | ⟨-, rfl, e', hsome, -⟩
            · exact .committed permitId r now payload hfree hnone hrow
            · exact .recommitted permitId r now payload e' hfree hsome
          · exact .refused _ _ _ _ _ (by simpa [World.stored] using hother)
  | claimFlatten row =>
      change Effect w.ledger (.claimFlatten row) (w.stored (w.db.claimFlatten row)).1
        (w.stored (w.db.claimFlatten row)).2.ledger
      cases hdb : w.db.claimFlatten row with
      | error e => exact .idle _ _ ⟨fun _ => rfl, fun _ => rfl, fun _ _ => rfl, fun _ => by simp⟩
      | ok result =>
          obtain ⟨won, db'⟩ := result
          rcases claimFlatten_ok hdb with ⟨rfl, hnone, rfl⟩ | ⟨rfl, rfl⟩
          · exact .claimedFlatten row hnone
          · exact .idle _ _ ⟨fun _ => rfl, fun _ => rfl, fun _ _ => rfl, fun _ => by simp⟩
  | appendFlatten e =>
      change Effect w.ledger (.appendFlatten e) (w.stored (w.db.appendFlattenEvent e)).1
        (w.stored (w.db.appendFlattenEvent e)).2.ledger
      cases hdb : w.db.appendFlattenEvent e with
      | error e => exact .idle _ _ ⟨fun _ => rfl, fun _ => rfl, fun _ _ => rfl, fun _ => by simp⟩
      | ok result =>
          obtain ⟨inserted, db'⟩ := result
          rcases appendFlattenEvent_ok hdb with
            ⟨rfl, hnone, hrow, rfl⟩ | ⟨rfl, rfl, e', hsome, hsame⟩
          · exact .appendedFlatten e hnone hrow
          · exact .repeatedFlatten e e' hsome hsame
  | _ => exact .idle _ _ ⟨fun _ => rfl, fun _ => rfl, fun _ _ => rfl, fun _ => by simp⟩

/-- **Everything one call of a worker can do to the ledger.** -/
theorem serve_effect (o : Oracle) (i : Nat) (w : World) (c : Call) :
    Effect w.ledger c (w.serve o i c).1 (w.serve o i c).2.ledger := by
  unfold World.serve
  split
  · split
    · exact failed_effect w o.fate c _
    · exact answer_effect o.replies i w c
  · exact answer_effect o.replies i w c

/-- **Events stay, and come by an append or by a commitment.** -/
theorem serve_grows (w : World) (o : Oracle) (i : Nat) (c : Call) :
    ∃ es, (w.serve o i c).2.db.executionEvents = w.db.executionEvents ++ es
      ∧ ∀ e ∈ es, c = .append e ∨ e.eventType = .submissionStarted := by
  rcases (serve_effect o i w c).filed with ⟨-, hsame⟩ | ⟨row, -, -, -, hsame⟩
    | ⟨e, -, hgrown, -, hc⟩
  · exact ⟨[], hsame.trans (List.append_nil _).symm, by simp⟩
  · exact ⟨[], hsame.trans (List.append_nil _).symm, by simp⟩
  · refine ⟨[e], hgrown, fun e' he' => ?_⟩
    rw [List.mem_singleton.mp he']
    exact hc.imp_right And.left

omit [Externals] in
theorem readAll_market {db : Database} {environment : Environment} {canonicalSymbol : String}
    {c : DecisionCapsule} (h : c ∈ db.readAll environment canonicalSymbol) :
    c.environment = environment ∧ c.canonicalSymbol = canonicalSymbol := by
  unfold Database.readAll at h
  rw [List.mem_insertionSort, List.mem_filter] at h
  simpa using h.2

/-- **The stores' queries keep what the discipline counts on.** -/
theorem serve_answers (w : World) (o : Oracle) (i : Nat) (c : Call) :
    mayAnswer c (w.serve o i c).1 := by
  have hanswer : mayAnswer c (w.answer o.replies i c).1 := by
    cases c with
    | requestIdsWithEvent eventType environment canonicalSymbol =>
        exact Table.nodup_eraseDups _
    | readAll environment canonicalSymbol => exact fun c hc => readAll_market hc
    | _ => trivial
  unfold World.serve
  split
  · split
    · cases c <;> trivial
    · exact hanswer
  · exact hanswer

/-! ## What the ledger leaves out -/

/-- What a call does to the capsules, the safety record and the switches. -/
structure Aside (w w' : World) (i : Nat) (c : Call) : Prop where
  capsules : w'.db.decisionCapsules = w.db.decisionCapsules
  record : w'.db.safetyState = w.db.safetyState
    ∨ ∃ halt : HaltRecord, c = .trip halt ∧ w'.db.safetyState = some halt.toSafetyState
  switches : w'.killSwitches = w.killSwitches
    ∨ ∃ halt : HaltRecord, c = .trip halt
        ∧ w'.killSwitches = Function.update w.killSwitches i ((w.killSwitches i).tripped halt)

omit [Externals] in
theorem stored_aside {α : Type} {w : World} {i : Nat} {c : Call}
    {x : Except PyError (α × Database)}
    (h : ∀ a db, x = .ok (a, db) →
      db.decisionCapsules = w.db.decisionCapsules ∧ db.safetyState = w.db.safetyState) :
    Aside w (w.stored x).2 i c := by
  cases x with
  | error e => exact ⟨rfl, .inl rfl, .inl rfl⟩
  | ok out =>
      obtain ⟨hcapsules, hrecord⟩ := h out.1 out.2 rfl
      exact ⟨hcapsules, .inl hrecord, .inl rfl⟩

/-- **No call touches the capsules, and only a halt the record or a switch.** -/
theorem serve_aside (w : World) (o : Oracle) (i : Nat) (c : Call) :
    Aside w (w.serve o i c).2 i c := by
  have hfailed : Aside w (w.failed o.fate c) i c := by
    cases c <;> exact ⟨rfl, .inl rfl, .inl rfl⟩
  have hanswer : Aside w (w.answer o.replies i c).2 i c := by
    cases c with
    | claim row =>
        refine stored_aside fun won db h => ?_
        rcases claim_ok h with ⟨-, -, rfl⟩ | ⟨-, rfl⟩ <;> exact ⟨rfl, rfl⟩
    | append e =>
        refine stored_aside fun inserted db h => ?_
        rcases appendEvent_ok h with ⟨-, -, -, rfl⟩ | ⟨-, rfl, -⟩ <;> exact ⟨rfl, rfl⟩
    | consumeAndStart permitId r now payload =>
        refine stored_aside fun outcome db h => ?_
        rcases consumeAndStart_ok h with ⟨-, -, inserted, happend⟩ | ⟨-, rfl⟩
        · rcases appendEvent_ok happend with ⟨-, -, -, rfl⟩ | ⟨-, rfl, -⟩ <;> exact ⟨rfl, rfl⟩
        · exact ⟨rfl, rfl⟩
    | claimFlatten row =>
        refine stored_aside fun won db h => ?_
        rcases claimFlatten_ok h with ⟨-, -, rfl⟩ | ⟨-, rfl⟩ <;> exact ⟨rfl, rfl⟩
    | appendFlatten e =>
        refine stored_aside fun inserted db h => ?_
        rcases appendFlattenEvent_ok h with ⟨-, -, -, rfl⟩ | ⟨-, rfl, -⟩ <;> exact ⟨rfl, rfl⟩
    | trip halt => exact ⟨rfl, .inr ⟨halt, rfl, rfl⟩, .inr ⟨halt, rfl, rfl⟩⟩
    | _ => exact ⟨rfl, .inl rfl, .inl rfl⟩
  unfold World.serve
  split
  · split
    · exact hfailed
    · exact hanswer
  · exact hanswer

/-! ## Everything else -/

/-- What happens to an order once it has left. -/
def SettledFrom (s s' : Send) : Prop :=
  s'.order = s.order ∧ (s.fate ≠ .wire → s' = s)

omit [Externals] in
theorem settle_sends (fate : SendFate) (n : Nat) (w : World) :
    List.Forall₂ SettledFrom w.sends (w.settle fate n).sends := by
  unfold World.settle
  dsimp only
  induction w.sends generalizing n with
  | nil => simp
  | cons s sends ih =>
      have hrefl : ∀ l : List Send, List.Forall₂ SettledFrom l l :=
        fun l => List.forall₂_same.mpr fun _ _ => ⟨rfl, fun _ => rfl⟩
      cases n with
      | zero =>
          simp only [List.modify_zero_cons]
          refine .cons ?_ (hrefl _)
          split
          · rename_i hw
            exact ⟨rfl, fun h => absurd hw h⟩
          · exact ⟨rfl, fun _ => rfl⟩
      | succ n =>
          simp only [List.modify_succ_cons]
          exact .cons ⟨rfl, fun _ => rfl⟩ (ih n)

omit [Externals] in
/-- **Nature settles orders on the wire, and does nothing else to the ledger.** -/
theorem nature_ledger (n : World.Event) (w : World) :
    ∃ sends, (World.nature n w).ledger = { w.ledger with sends }
      ∧ List.Forall₂ SettledFrom w.sends sends := by
  have hrefl : List.Forall₂ SettledFrom w.sends w.sends :=
    List.forall₂_same.mpr fun _ _ => ⟨rfl, fun _ => rfl⟩
  cases n with
  | deliver n => exact ⟨_, rfl, settle_sends .reached n w⟩
  | drop n => exact ⟨_, rfl, settle_sends .lost n w⟩
  | sealCapsule capsule =>
      refine ⟨w.sends, ?_, hrefl⟩
      simp only [World.nature]
      split <;> rfl
  | _ => exact ⟨w.sends, rfl, hrefl⟩

omit [Externals] in
theorem nature_killSwitches (n : World.Event) (w : World) :
    (World.nature n w).killSwitches = w.killSwitches := by
  cases n with
  | sealCapsule capsule =>
      simp only [World.nature]
      split <;> rfl
  | _ => rfl

omit [Externals] in
theorem restart_ledger (i : Nat) (w : World) : (w.restart i).ledger = w.ledger := rfl

end Crumblr
