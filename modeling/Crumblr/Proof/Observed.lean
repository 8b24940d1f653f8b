import Crumblr.Proof.Parts

/-!
# What a pass has seen of the broker

The newest reading of each book, the observation the pass recorded last, and the
stored snapshot it judged last. An observation is what was read just before it; a
reconciliation that says MATCHED has judged a known snapshot that agrees with the
expectation in everything.
-/

namespace Crumblr

open ExecutionOrchestrator

/-- What a pass has seen of the broker, the newest of each kind. -/
structure Sight where
  /-- The reading of the open positions, or the error it raised. -/
  positions : Option (Except PyError (List PositionState))
  /-- The reading of the resting orders. -/
  pendingOrders : Option (Except PyError (List PendingOrderState))
  /-- The observation that was stored. -/
  recorded : Option BrokerStateObservation
  /-- The stored snapshot that was looked up, and the rows under it. -/
  snapshot : Option BrokerAccountSnapshot
  positionRows : Option (List BrokerPositionSnapshot)
  orderRows : Option (List BrokerPendingOrderSnapshot)

def Sight.nothing : Sight := ⟨none, none, none, none, none, none⟩

/-- What one call adds. -/
def sightAfter (v : Sight) : Entry Call Call.Answer PyError → Sight
  | ⟨.positions, a⟩ => { v with positions := some a }
  | ⟨.pendingOrders, a⟩ => { v with pendingOrders := some a }
  | ⟨.record observation, .ok _⟩ => { v with recorded := some observation }
  | ⟨.latestAccountSnapshot, .ok snapshot⟩ => { v with snapshot }
  | ⟨.positionsFor _, .ok rows⟩ => { v with positionRows := some rows }
  | ⟨.pendingOrdersFor _, .ok rows⟩ => { v with orderRows := some rows }
  | _ => v

/-- What a pass with this past has seen. -/
def sight : Past → Sight
  | [] => .nothing
  | entry :: past => sightAfter (sight past) entry

/-- The call shows nothing of the broker. -/
def Blind : Call → Prop
  | .positions | .pendingOrders | .record _ | .latestAccountSnapshot | .positionsFor _
  | .pendingOrdersFor _ => False
  | _ => True

theorem sight_of_blind {c : Call} (h : Blind c) (a : Except PyError c.Answer) (past : Past) :
    sight (⟨c, a⟩ :: past) = sight past := by
  cases c <;> first | rfl | exact h.elim

/-- What is about no book and no stored snapshot shows nothing of the broker. -/
theorem About.blind {topics : List Topic} (h : ∀ t ∈ topics, t ≠ .watching ∧ t ≠ .judging)
    (c : Call) (hc : About topics c) : Blind c := by
  have ht := h _ hc.mem
  cases c <;> first | trivial | exact absurd rfl ht.1 | exact absurd rfl ht.2

/-! ## Observing -/

/-- What a reading of a book is recorded as. -/
def bookOf {α : Type} : Except PyError (List α) → List α × SnapshotCompleteness
  | .ok xs => (xs, .complete)
  | .error _ => ([], .failed)

variable {past : Past} {α β : Type} {topics : List Topic}

section

variable [Externals]

/-- The observation is what was read of the broker just before it was recorded. -/
structure Observed (environment : Environment) (canonicalSymbol : String)
    (observation : BrokerStateObservation) (past : Past) : Prop where
  recorded : (sight past).recorded = some observation
  reading : ∃ (r : BrokerReading) (positions : Except PyError (List PositionState))
      (orders : Except PyError (List PendingOrderState)),
    observation = r.observation environment canonicalSymbol
      ∧ (sight past).positions = some positions
      ∧ (r.positions, r.positionSetState) = bookOf positions
      ∧ (sight past).pendingOrders = some orders
      ∧ (r.pendingOrders, r.pendingOrderSetState) = bookOf orders
      ∧ ⟨.accountWithExtras, .ok (r.account, r.extras)⟩ ∈ past

end

/-- The discipline lets calls about these go. -/
def Lets (D : Discipline Call Call.Answer PyError) (topics : List Topic) : Prop :=
  ∀ past c, About topics c → D.allows past c

variable {D : Discipline Call Call.Answer PyError}

theorem Lets.sub {topics' : List Topic} (h : Lets D topics) (hsub : ∀ t ∈ topics', t ∈ topics) :
    Lets D topics' := fun past c hc => h past c (About.mono hsub c hc)

/-- A program about such things leaves what no such call disturbs. -/
theorem Lets.frame {p : Pass α} {I : Past → Prop} (hD : Lets D topics)
    (hp : Only (About topics) p)
    (hI : ∀ past c a, I past → About topics c → I (⟨c, a⟩ :: past)) (h : I past) :
    Leads D.protocol past p fun past' _ => I past' :=
  Leads.frame hp (fun past c hc => hD past c hc) hI h

/-- A book is what its reading is recorded as. -/
theorem leads_orFailed {read : Pass (List α)} {R : Past → Except PyError (List α) → Prop}
    (h : Conforms D.protocol past read R) :
    Leads D.protocol past (orFailed read) fun past' book =>
      ∃ a, R past' a ∧ book = bookOf a := by
  refine Leads.rescue (Conforms.bind.mpr (Conforms.mono ?_ h))
  intro past' a hR
  cases a with
  | ok xs => exact ⟨_, hR, rfl⟩
  | error e =>
      change Leads D.protocol past' (if e.kind = .mt5CallFailed then _ else _) _
      split
      · exact Leads.ret.mpr ⟨_, hR, rfl⟩
      · exact Leads.raise.mpr trivial

/-- One append, and what it leaves in the past. -/
theorem leads_append {orderRequestId : Uuid} {eventType : ExecutionEventType} {now : UtcDatetime}
    {reasonCodes : List ReasonCode} {detail : Option String} {payload : Option Json}
    (hc : D.allows past (.append ⟨orderRequestId, eventType, now, reasonCodes, detail, payload⟩)) :
    Leads D.protocol past (append orderRequestId eventType now reasonCodes detail payload)
      fun past' _ => ∃ inserted, past' = ⟨.append ⟨orderRequestId, eventType, now, reasonCodes,
        detail, payload⟩, .ok inserted⟩ :: past :=
  Leads.next hc fun inserted _ => Leads.ret.mpr ⟨inserted, rfl⟩

/-- One reading, and what it leaves in the past. -/
theorem conforms_ask {c : Call} (hc : D.allows past c) :
    Conforms D.protocol past (ask c) fun past' a => past' = ⟨c, a⟩ :: past :=
  Conforms.perform.mpr ⟨hc, fun _ _ hm => hm.2⟩

section

variable [Externals]

/-- **An observation is what was read of the broker.** -/
theorem leads_observe (self : ExecutionOrchestrator) {environment : Environment}
    (hD : Lets D [.time, .watching]) :
    Leads D.protocol past (self.observe environment) fun past' observation =>
      Observed environment self.canonicalSymbol observation past' := by
  refine Leads.seq (R := fun past' observation => ∃ (r : BrokerReading)
    (positions : Except PyError (List PositionState))
    (orders : Except PyError (List PendingOrderState)),
    observation = r.observation environment self.canonicalSymbol
      ∧ (sight past').positions = some positions
      ∧ (r.positions, r.positionSetState) = bookOf positions
      ∧ (sight past').pendingOrders = some orders
      ∧ (r.pendingOrders, r.pendingOrderSetState) = bookOf orders
      ∧ ⟨.accountWithExtras, .ok (r.account, r.extras)⟩ ∈ past') ?_ ?_
  · refine Leads.next (hD _ _ rfl) fun snapshotId _ => Leads.next (hD _ _ rfl) fun observedAtUtc _ =>
      Leads.next (hD _ _ rfl) fun account _ => Leads.next (hD _ _ rfl) fun terminal _ => ?_
    refine Leads.seq (leads_orFailed (conforms_ask (hD _ _ rfl))) ?_
    rintro past₁ book ⟨positions, rfl, rfl⟩
    refine Leads.seq (leads_orFailed (conforms_ask (hD _ _ rfl))) ?_
    rintro past₂ book ⟨orders, rfl, rfl⟩
    refine Leads.next (hD _ _ rfl) fun recordedAtUtc _ => Leads.ret.mpr ?_
    exact ⟨_, positions, orders, rfl, rfl, rfl, rfl, rfl, by simp⟩
  · rintro past₁ observation ⟨r, positions, orders, heq, hp, hbook, ho, hbook', hacc⟩
    refine Leads.next (hD _ _ rfl) fun _ _ => Leads.ret.mpr ⟨rfl, ?_⟩
    exact ⟨r, positions, orders, heq, hp, hbook, ho, hbook', List.mem_cons_of_mem _ hacc⟩

/-! ## Judging -/

/-- The stored snapshot the pass judged last is known, and agrees in everything. -/
structure Matched (expectation : ExpectedState) (now : UtcDatetime) (past : Past)
    (snapshot : BrokerAccountSnapshot) (positions : List BrokerPositionSnapshot)
    (orders : List BrokerPendingOrderSnapshot) : Prop where
  judged : (sight past).snapshot = some snapshot
  positionRows : (sight past).positionRows = some positions
  orderRows : (sight past).orderRows = some orders
  known : snapshotUnknown snapshot expectation now = none
  agreed : ∃ version spec, expectation.expectedSpecVersion = some version
    ∧ ⟨.latestSpec expectation.canonicalSymbol, .ok (some spec)⟩ ∈ past
    ∧ mismatches snapshot positions orders expectation version spec = []

omit [Externals] in
/-- Judging shows nothing new of the broker itself. -/
theorem sight_of_judging {c : Call} (h : About [.judging, .specifying] c) (a : Except PyError c.Answer)
    (past : Past) :
    (sight (⟨c, a⟩ :: past)).recorded = (sight past).recorded
      ∧ (sight (⟨c, a⟩ :: past)).positions = (sight past).positions
      ∧ (sight (⟨c, a⟩ :: past)).pendingOrders = (sight past).pendingOrders := by
  cases c <;> first | exact ⟨rfl, rfl, rfl⟩ | (cases a <;> exact ⟨rfl, rfl, rfl⟩) | cases h

theorem Observed.judging {environment : Environment} {canonicalSymbol : String}
    {observation : BrokerStateObservation} {c : Call} {a : Except PyError c.Answer}
    (h : Observed environment canonicalSymbol observation past) (hc : About [.judging, .specifying] c) :
    Observed environment canonicalSymbol observation (⟨c, a⟩ :: past) := by
  obtain ⟨hr, hp, ho⟩ := sight_of_judging hc a past
  obtain ⟨r, positions, orders, heq, hpos, hbook, hord, hbook', hacc⟩ := h.reading
  exact ⟨hr.trans h.recorded, r, positions, orders, heq, hp.trans hpos, hbook, ho.trans hord,
    hbook', List.mem_cons_of_mem _ hacc⟩

theorem Observed.blind {environment : Environment} {canonicalSymbol : String}
    {observation : BrokerStateObservation} {c : Call} {a : Except PyError c.Answer}
    (h : Observed environment canonicalSymbol observation past) (hc : Blind c) :
    Observed environment canonicalSymbol observation (⟨c, a⟩ :: past) := by
  have hs := sight_of_blind hc a past
  obtain ⟨r, positions, orders, heq, hpos, hbook, hord, hbook', hacc⟩ := h.reading
  exact ⟨hs ▸ h.recorded, r, positions, orders, heq, hs ▸ hpos, hbook, hs ▸ hord, hbook',
    List.mem_cons_of_mem _ hacc⟩

theorem Matched.blind {expectation : ExpectedState} {now : UtcDatetime}
    {snapshot : BrokerAccountSnapshot} {positions : List BrokerPositionSnapshot}
    {orders : List BrokerPendingOrderSnapshot} {c : Call} {a : Except PyError c.Answer}
    (h : Matched expectation now past snapshot positions orders) (hc : Blind c) :
    Matched expectation now (⟨c, a⟩ :: past) snapshot positions orders := by
  have hs := sight_of_blind hc a past
  obtain ⟨version, spec, hv, hspec, hm⟩ := h.agreed
  exact ⟨hs ▸ h.judged, hs ▸ h.positionRows, hs ▸ h.orderRows, h.known, version, spec, hv,
    List.mem_cons_of_mem _ hspec, hm⟩

/-- **MATCHED is said of a known snapshot that agrees in everything.** -/
theorem leads_reconcile {expectation : ExpectedState} {now : UtcDatetime}
    (hD : Lets D [.judging, .specifying]) :
    Leads D.protocol past (reconcile expectation now) fun past' result =>
      result.status = .matched →
        ∃ snapshot positions orders, Matched expectation now past' snapshot positions orders := by
  refine Leads.next (hD _ _ rfl) fun latest _ => ?_
  cases latest with
  | none => exact Leads.ret.mpr fun h => by cases h
  | some snapshot =>
      dsimp only
      split
      · exact Leads.ret.mpr fun h => by cases h
      rename_i hknown
      split
      · exact Leads.ret.mpr fun h => by cases h
      rename_i version hversion
      refine Leads.next (hD _ _ rfl) fun spec _ => ?_
      cases spec with
      | none => exact Leads.ret.mpr fun h => by cases h
      | some spec =>
          refine Leads.next (hD _ _ rfl) fun positions _ => ?_
          refine Leads.next (hD _ _ rfl) fun orders _ => Leads.ret.mpr fun hmatched => ?_
          refine ⟨snapshot, positions, orders, rfl, rfl, rfl, hknown, version, spec, hversion,
            by simp, ?_⟩
          by_contra hne
          rw [if_neg hne] at hmatched
          cases hmatched

end

end Crumblr
