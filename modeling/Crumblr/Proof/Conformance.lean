import Crumblr.Proof.Parts

/-!
# Every pass keeps the discipline

One lemma per function of the worker, each saying what the function needs to know
of a request when it starts and what is known when it returns. Most of the worker
touches no history at all; for that part one frame rule is enough.
-/

namespace Crumblr

open ExecutionOrchestrator

variable [Externals]

/-- The program keeps the discipline, and `Q` holds of the past and of its value
where it returns. -/
abbrev Keeps {α : Type} (past : Past) (p : Pass α) (Q : Past → α → Prop) : Prop :=
  Leads passDiscipline.protocol past p Q

/-- Nothing is asked of what the program returns. -/
abbrev Fine {α : Type} : Past → α → Prop := fun _ _ => True

/-- The pass stands with request `r` at `h`, and knows its history to be of types `ts`. -/
def Holds (r : Uuid) (h : Holding) (ts : List ExecutionEventType) (past : Past) : Prop :=
  holding r past = h ∧ ∃ events, known r past = some events ∧ types events = ts

variable {r : Uuid} {h : Holding} {ts : List ExecutionEventType} {past : Past} {α β : Type}

/-! ## Quiet programs -/

omit [Externals] in
theorem Holds.quiet {c : Call} (hq : Quiet c) (a : Except PyError c.Answer)
    (hh : Holds r h ts past) : Holds r h ts (⟨c, a⟩ :: past) := by
  obtain ⟨h1, events, h2, h3⟩ := hh
  exact ⟨by rw [holding_of_quiet hq, h1], events, by rw [known_of_quiet hq, h2], h3⟩

/-- **A quiet program keeps the discipline, and keeps what is not of histories.** -/
theorem conforms_quiet {p : Pass α} {I : Past → Prop} (hp : Only Quiet p)
    (hI : ∀ past c a, I past → Quiet c → I (⟨c, a⟩ :: past)) (h : I past) :
    Conforms passDiscipline.protocol past p fun past' _ => I past' := by
  refine Only.conforms (fun s c _ hc => mayCall_of_quiet hc) ?_ hp h
  rintro s c a s' hs hc ⟨-, rfl⟩
  exact hI s c a hs hc

/-- A quiet program leaves the standing of a request as it is. -/
theorem keeps_quiet {p : Pass α} (hp : Only Quiet p) (hh : Holds r h ts past) :
    Keeps past p fun past' _ => Holds r h ts past' :=
  Conforms.mono (fun _ _ hs _ _ => hs)
    (conforms_quiet hp (fun _ _ _ hs hc => hs.quiet hc _) hh)

/-- A quiet program is fine anywhere. -/
theorem fine_quiet {p : Pass α} (hp : Only Quiet p) : Keeps past p Fine :=
  Conforms.mono (fun _ _ _ _ _ => trivial)
    (conforms_quiet hp (I := fun _ => True) (fun _ _ _ _ _ => trivial) trivial)

theorem Keeps.fine {p : Pass α} {Q : Past → α → Prop} (hp : Keeps past p Q) :
    Keeps past p Fine :=
  Leads.mono hp fun _ _ _ => trivial

omit [Externals] in
/-- What is about no history is quiet. -/
theorem only_quiet {p : Pass α} {topics : List Topic} (hp : Only (About topics) p)
    (h : ∀ t ∈ topics, t ≠ .recording ∧ t ≠ .sending ∧ t ≠ .flattening) : Only Quiet p :=
  Only.mono (About.quiet h) hp

/-! ## One call, and then the rest -/

theorem keeps_ask {c : Call} {f : c.Answer → Pass β} {Q : Past → β → Prop} (hc : mayCall past c)
    (hf : ∀ a, mayAnswer c (.ok a) → Keeps (⟨c, .ok a⟩ :: past) (f a) Q) :
    Keeps past (Prog.bind (ask c) f) Q :=
  Leads.bind.mpr (Leads.heard.mpr ⟨hc, hf⟩)

/-- A quiet program, and then something that is fine wherever the request still stands. -/
theorem keeps_after {p : Pass α} {f : α → Pass β} {Q : Past → β → Prop} (hp : Only Quiet p)
    (hh : Holds r h ts past) (hf : ∀ past' a, Holds r h ts past' → Keeps past' (f a) Q) :
    Keeps past (Prog.bind p f) Q :=
  Leads.seq (keeps_quiet hp hh) hf

/-! ## Appending -/

omit [Externals] in
theorem Holds.append {t : ExecutionEventType} {now : UtcDatetime} {codes : List ReasonCode}
    {detail : Option String} {payload : Option Json} {b : Bool} (hh : Holds r h ts past) :
    Holds r (if t = .submissionStarted then .committed else h) (ts ++ [t])
      (⟨.append ⟨r, t, now, codes, detail, payload⟩, .ok b⟩ :: past) := by
  obtain ⟨h1, events, h2, h3⟩ := hh
  refine ⟨?_, events ++ [⟨r, t, now, codes, detail, payload⟩], ?_, ?_⟩
  · simp only [holding, holdingAfter, h1, true_and]
  · unfold known at h2 ⊢
    simp [recollect, executionNews, h2]
  · simp [types, ← h3]

omit [Externals] in
/-- Only a resolution denies a submission. -/
theorem not_denies_of_advances {l : Option ExecutionEventType} {e : ExecutionEventRecord}
    (ht : e.eventType ∈ advances l) : ¬ e.deniesSubmission := by
  rintro ⟨ha, -⟩
  rw [ha] at ht
  unfold advances at ht
  split at ht <;> simp at ht

/-- **The owner appends what comes next.** -/
theorem keeps_append {t : ExecutionEventType} {now : UtcDatetime} {codes : List ReasonCode}
    {detail : Option String} {payload : Option Json} (hh : Holds r h ts past)
    (hown : h ≠ .none) (ht : t ∈ advances ts.getLast?)
    (hs : t = .submissionStarted → h = .owned) :
    Keeps past (append r t now codes detail payload) fun past' _ =>
      Holds r (if t = .submissionStarted then .committed else h) (ts ++ [t]) past' := by
  have hmay : MayAppend past ⟨r, t, now, codes, detail, payload⟩ := by
    obtain ⟨h1, events, h2, rfl⟩ := hh
    refine ⟨⟨events, h2, .inl ⟨by rwa [h1], ht, fun hss => by rw [h1]; exact hs hss⟩⟩, ?_⟩
    exact fun hd => absurd hd (not_denies_of_advances ht)
  exact keeps_ask hmay fun _ _ => Leads.ret.mpr hh.append

/-- A refusal ends the chain. -/
theorem keeps_refuse {t : ExecutionEventType} {now : UtcDatetime} {capsule : DecisionCapsule}
    {codes : List ReasonCode} {detail : Option String} {payload : Option Json}
    (hh : Holds r h ts past) (hown : h ≠ .none) (ht : t ∈ advances ts.getLast?)
    (hs : t ≠ .submissionStarted) :
    Keeps past (refuse r capsule t codes now detail payload) Fine :=
  Leads.seq (keeps_append hh hown ht fun h => absurd h hs) fun _ _ _ => Leads.ret.mpr trivial

/-! ## The submission -/

theorem keeps_startSubmission {p : Prepared}
    (hh : Holds p.orderRequestId .owned ts past)
    (hts : ts.getLast? = some .submissionGatePassed) :
    Keeps past (startSubmission p) Fine :=
  Leads.seq (keeps_append hh (by simp) (by simp [hts, advances]) fun _ => rfl)
    fun _ _ _ => Leads.ret.mpr trivial

omit [Externals] in
/-- What the broker's answer to an order is recorded as. -/
theorem normalizeExecutionResult_type {result : ExecutionResult} {t : ExecutionEventType}
    {payload : Json} (hn : normalizeExecutionResult result = .ok (t, payload)) :
    t ∈ advances (some .submissionStarted) := by
  unfold normalizeExecutionResult at hn
  simp only at hn
  split at hn <;> cases hn <;> simp [advances]

omit [Externals] in
/-- After the commitment, and whatever the broker answers, the request stands committed. -/
theorem Holds.committed {permitId : Uuid} {now : UtcDatetime} {payload : Json}
    (hh : Holds r h ts past) :
    Holds r .committed (ts ++ [.submissionStarted])
      (⟨.consumeAndStart permitId r now payload, .ok .consumed⟩ :: past) := by
  obtain ⟨-, events, h2, h3⟩ := hh
  refine ⟨?_, events ++ [⟨r, .submissionStarted, now, [], none, some payload⟩], ?_, ?_⟩
  · simp only [holding, holdingAfter, if_true]
  · unfold known at h2 ⊢
    simp [recollect, executionNews, h2]
  · simp [types, ← h3]

omit [Externals] in
theorem Holds.refused {permitId : Uuid} {now : UtcDatetime} {payload : Json}
    {outcome : Database.CanaryPermitConsumeOutcome} (ho : outcome ≠ .consumed)
    (hh : Holds r h ts past) :
    Holds r .refused ts (⟨.consumeAndStart permitId r now payload, .ok outcome⟩ :: past) := by
  obtain ⟨-, events, h2, h3⟩ := hh
  refine ⟨?_, events, ?_, h3⟩
  · cases outcome <;> first | exact absurd rfl ho | simp [holding, holdingAfter]
  · unfold known at h2 ⊢
    cases outcome <;> first | exact absurd rfl ho | simpa [recollect, executionNews] using h2

omit [Externals] in
/-- Sending an order tells nothing of any history. -/
theorem Holds.sent {order : ApprovedOrder} {a : Except PyError ExecutionResult}
    (hh : Holds r h ts past) : Holds r h ts (⟨.orderSend order, a⟩ :: past) := by
  obtain ⟨h1, events, h2, h3⟩ := hh
  exact ⟨h1, events, h2, h3⟩

theorem keeps_sendOrder {p : Prepared} (hid : p.order.orderRequestId = p.orderRequestId)
    (hjust : JustCommitted past p.orderRequestId)
    (hh : Holds p.orderRequestId .committed ts past)
    (hts : ts.getLast? = some .submissionStarted) : Keeps past (sendOrder p) Fine := by
  refine Leads.seq (R := fun past' _ => Holds p.orderRequestId .committed ts past') ?_ ?_
  · refine Leads.rescue (Conforms.bind.mpr (Conforms.perform.mpr ⟨?_, ?_⟩))
    · change JustCommitted past p.order.orderRequestId
      rwa [hid]
    · rintro a past' ⟨-, rfl⟩
      cases a with
      | ok result => exact hh.sent
      | error e =>
          change Keeps _ (if e.kind = .mt5CallFailed then _ else _) _
          split
          · exact Leads.ret.mpr hh.sent
          · exact Leads.raise.mpr trivial
  · intro past' result hh'
    cases result with
    | none => exact Leads.ret.mpr trivial
    | some result =>
        refine leads_lift fun ⟨eventType, payload⟩ hn => ?_
        refine keeps_after (only_ask trivial) hh' fun past'' now hh'' => ?_
        have ht := normalizeExecutionResult_type hn
        refine Leads.seq (keeps_append hh'' (by simp) (by rwa [hts]) ?_)
          fun _ _ _ => Leads.ret.mpr trivial
        rintro rfl
        simp [advances] at ht

theorem keeps_attemptRealEntrySubmission (self : ExecutionOrchestrator)
    {canaryConfig : CanaryEntrySubmissionConfig} {p : Prepared}
    (hid : p.order.orderRequestId = p.orderRequestId)
    (hh : Holds p.orderRequestId .owned ts past)
    (hts : ts.getLast? = some .submissionGatePassed) :
    Keeps past (self.attemptRealEntrySubmission canaryConfig p) Fine := by
  have hblocked : ExecutionEventType.canaryPermitBlocked ∈ advances ts.getLast? := by
    simp [hts, advances]
  unfold attemptRealEntrySubmission
  split
  · exact keeps_refuse hh (by simp) hblocked (by simp)
  · refine keeps_after (only_ask trivial) hh fun past₁ permit hh₁ => ?_
    refine leads_lift fun mismatches _ => ?_
    split
    · exact keeps_refuse hh₁ (by simp) hblocked (by simp)
    · refine leads_lift fun permit _ => ?_
      refine keeps_ask ?_ fun outcome _ => ?_
      · obtain ⟨h1, events, h2, rfl⟩ := hh₁
        exact ⟨h1, events, h2, hts⟩
      · split
        · rename_i hconsumed
          subst hconsumed
          exact keeps_sendOrder hid ⟨_, _, _, _, rfl⟩ hh₁.committed (by simp)
        · rename_i hother
          exact keeps_refuse (hh₁.refused hother) (by simp) hblocked (by simp)

/-- The gate's verdict is in the history by the time it is known. -/
theorem keeps_evaluateSubmissionReadiness (self : ExecutionOrchestrator) {p : Prepared}
    (hh : Holds p.orderRequestId .owned ts past) (hts : ts.getLast? = some .orderChecked) :
    Keeps past (self.evaluateSubmissionReadiness p) fun past' decision =>
      decision.isOpen = true →
        Holds p.orderRequestId .owned (ts ++ [.submissionGatePassed]) past' := by
  refine keeps_after (only_ask trivial) hh fun past₁ killSwitch hh₁ => ?_
  dsimp only
  split
  · refine Leads.seq (keeps_append hh₁ (by simp) (by simp [hts, advances]) (by simp)) ?_
    intro past₂ _ hh₂
    exact Leads.ret.mpr fun _ => by simpa using hh₂
  · rename_i hclosed
    refine Leads.seq (keeps_append hh₁ (by simp) (by simp [hts, advances]) (by simp)) ?_
    intro past₂ _ _
    exact Leads.ret.mpr fun hopen => absurd hopen hclosed

theorem keeps_checkAndSubmit (self : ExecutionOrchestrator) {p : Prepared}
    (hid : p.order.orderRequestId = p.orderRequestId)
    (hh : Holds p.orderRequestId .owned ts past) (hts : ts.getLast? = some .finalRiskPassed) :
    Keeps past (self.checkAndSubmit p) Fine := by
  refine keeps_after (only_ask trivial) hh fun past₁ check hh₁ => ?_
  cases hacc : check.accepted with
  | false =>
      refine Leads.seq (keeps_append hh₁ (by simp) ?_ (by simp)) fun _ _ _ => ?_
      · simp [hts, advances]
      · exact Leads.ret.mpr trivial
  | true =>
      refine Leads.seq (keeps_append hh₁ (by simp) ?_ (by simp)) fun past₂ _ hh₂ => ?_
      · simp [hts, advances]
      · simp only [if_true, reduceCtorEq, if_false] at hh₂
        simp only [Bool.not_true, Bool.false_eq_true, if_false]
        refine Leads.seq (keeps_evaluateSubmissionReadiness self hh₂ (by simp)) ?_
        intro past₃ decision hopen
        cases hdec : decision.isOpen with
        | false => exact Leads.ret.mpr trivial
        | true =>
            have hh₃ := hopen hdec
            simp only [Bool.not_true, Bool.false_eq_true, if_false]
            split
            · exact keeps_startSubmission hh₃ (by simp)
            · exact keeps_attemptRealEntrySubmission self hid hh₃ (by simp)

/-! ## The chain before it -/

omit [Externals] in
theorem approvedOrder_orderRequestId {self : ExecutionOrchestrator} {q : Priced}
    {finalRisk : RiskDecision} {volume : Volume} {stopLossPrice : Price} {order : ApprovedOrder}
    (ho : self.approvedOrder q finalRisk volume stopLossPrice = .ok order) :
    order.orderRequestId = q.orderRequestId := by
  unfold approvedOrder ApprovedOrder.create at ho
  split at ho
  · split at ho
    · split at ho
      · cases ho; rfl
      · cases ho
    · cases ho
  · cases ho

theorem keeps_finalRisk (self : ExecutionOrchestrator) {q : Priced}
    (hh : Holds q.orderRequestId .owned ts past) (hts : ts.getLast? = some .requestClaimed) :
    Keeps past (self.finalRisk q) Fine := by
  refine keeps_after (only_ask trivial) hh fun past₁ _ hh₁ => ?_
  refine keeps_after (only_ask trivial) hh₁ fun past₂ _ hh₂ => ?_
  refine leads_lift fun finalRisk _ => ?_
  split
  · exact keeps_refuse hh₂ (by simp) (by simp [hts, advances]) (by simp)
  · refine leads_lift fun volume _ => leads_lift fun stop _ => leads_lift fun order ho => ?_
    refine Leads.seq (keeps_append hh₂ (by simp) (by simp [hts, advances]) (by simp)) ?_
    intro past₃ _ hh₃
    exact keeps_checkAndSubmit self (approvedOrder_orderRequestId ho)
      (by simpa using hh₃) (by simp)

theorem keeps_priceAndRisk (self : ExecutionOrchestrator) {capsule : DecisionCapsule}
    {chain : ApprovalChain} {observation : BrokerStateObservation} {account : AccountState}
    {now : UtcDatetime} (hh : Holds r .owned ts past)
    (hts : ts.getLast? = some .requestClaimed) :
    Keeps past (self.priceAndRisk capsule chain r observation account now) Fine := by
  have hblocked : ExecutionEventType.finalRiskBlocked ∈ advances ts.getLast? := by
    simp [hts, advances]
  refine keeps_after (only_ask trivial) hh fun past₁ spec hh₁ => ?_
  split
  · exact keeps_refuse hh₁ (by simp) hblocked (by simp)
  · refine keeps_after (only_ask trivial) hh₁ fun past₂ ticks hh₂ => ?_
    split
    · exact keeps_refuse hh₂ (by simp) hblocked (by simp)
    · refine leads_lift fun snapshot _ => ?_
      refine keeps_after (only_ask trivial) hh₂ fun past₃ finalNow hh₃ => ?_
      refine keeps_after ?_ hh₃ fun past₄ recovered hh₄ => ?_
      · exact Only.rescue (Only.bind (only_quiet (only_recoverRiskSession ..) (by decide)) fun _ => trivial)
          fun _ => trivial
      · split
        · refine keeps_after (only_quiet (only_tripUnlessHalted ..) (by decide)) hh₄ fun past₅ _ hh₅ => ?_
          exact keeps_refuse hh₅ (by simp) hblocked (by simp)
        · split
          · refine keeps_after (only_quiet (only_tripUnlessHalted ..) (by decide)) hh₄ fun past₅ _ hh₅ => ?_
            exact keeps_refuse hh₅ (by simp) hblocked (by simp)
          · exact keeps_finalRisk self hh₄ hts

theorem keeps_observeAndReconcile (self : ExecutionOrchestrator) {capsule : DecisionCapsule}
    {chain : ApprovalChain} {now : UtcDatetime} (hh : Holds r .owned ts past)
    (hts : ts.getLast? = some .requestClaimed) :
    Keeps past (self.observeAndReconcile capsule chain r now) Fine := by
  refine keeps_after (only_quiet (only_observe ..) (by decide)) hh fun past₁ observation hh₁ => ?_
  refine leads_lift fun account _ => ?_
  refine keeps_after (only_quiet (only_reconcile ..) (by decide)) hh₁ fun past₂ result hh₂ => ?_
  split
  · exact keeps_refuse hh₂ (by simp) (by simp [hts, advances]) (by simp)
  · exact keeps_priceAndRisk self hh₂ hts

theorem keeps_processClaimed (self : ExecutionOrchestrator) {capsule : DecisionCapsule}
    {chain : ApprovalChain} {now : UtcDatetime} (hh : Holds r .owned [] past) :
    Keeps past (self.processClaimed capsule chain r now) Fine := by
  refine Leads.seq (keeps_append hh (by simp) (by simp [advances]) (by simp)) ?_
  intro past₁ _ hh₁
  simp only [reduceCtorEq, if_false, List.nil_append] at hh₁
  dsimp only
  split
  · exact keeps_refuse hh₁ (by simp) (by simp [advances]) (by simp)
  · refine keeps_after (only_ask trivial) hh₁ fun past₂ killSwitch hh₂ => ?_
    split
    · exact keeps_refuse hh₂ (by simp) (by simp [advances]) (by simp)
    · exact keeps_observeAndReconcile self hh₂ (by simp)

/-! ## Recovery -/

omit [Externals] in
/-- The types of a history whose last event is of a given type. -/
theorem getLast?_types {events : List ExecutionEventRecord} {t : ExecutionEventType} :
    endsWith events t = true ↔ (types events).getLast? = some t := by
  unfold endsWith types
  rw [List.getLast?_map]
  cases events.getLast? <;> simp

/-- **Whoever read a history resolves what it left open.** -/
theorem keeps_resolution {t : ExecutionEventType} {now : UtcDatetime} {payload : Json}
    {events : List ExecutionEventRecord} (hk : known r past = some events)
    (ht : t ∈ resolves (types events).getLast?)
    (hev : (⟨r, t, now, [], none, some payload⟩ : ExecutionEventRecord).deniesSubmission →
      SawNothing r past) :
    Keeps past (append r t now [] none (some payload)) Fine :=
  keeps_ask (c := .append ⟨r, t, now, [], none, some payload⟩)
    ⟨⟨events, hk, .inr ht⟩, hev⟩ fun _ _ => Leads.ret.mpr trivial

theorem keeps_resolveAmbiguous {capsule : DecisionCapsule} {now : UtcDatetime} {payload : Json}
    {events : List ExecutionEventRecord} (hk : known r past = some events)
    (ht : .ambiguousOutcomeResolved ∈ resolves (types events).getLast?)
    (hev : (payload.get? "submitted").bind Json.asBool? = some false → SawNothing r past) :
    Keeps past (resolveAmbiguous r capsule now payload) Fine :=
  Leads.seq (keeps_resolution hk ht fun hd => hev hd.2) fun _ _ _ => Leads.ret.mpr trivial

omit [Externals] in
/-- A payload that marks an integrity conflict denies nothing. -/
theorem not_denies_of_payload {t : ExecutionEventType} {now : UtcDatetime} {payload : Json}
    (hp : payload.get? "submitted" = none) :
    ¬ (⟨r, t, now, [], none, some payload⟩ : ExecutionEventRecord).deniesSubmission := by
  rintro ⟨-, hf⟩
  simp [hp] at hf

theorem integrityPayload_submitted (found : List PositionState) :
    (integrityPayload r found).get? "submitted" = none := by
  simp [integrityPayload]

theorem integrityPendingPayload_submitted (resting : List PendingOrderState) :
    (integrityPendingPayload r resting).get? "submitted" = none := by
  simp [integrityPendingPayload]

theorem ambiguousPayload_submitted (found : List PositionState) :
    (ambiguousPayload r found).get? "submitted" = some (.bool (found.length = 1)) := by
  simp [ambiguousPayload]

theorem keeps_recoverAmbiguousSubmission {capsule : DecisionCapsule} {row : ExecutionRequest}
    {rest : Past} (hrow : row.orderRequestId = r) :
    Keeps (⟨.claim row, .ok false⟩ :: rest) (recoverAmbiguousSubmission r capsule) Fine := by
  refine keeps_ask trivial fun events _ => ?_
  split
  · exact Leads.ret.mpr trivial
  rename_i hlast
  have hend : (types events).getLast? = some .submissionStarted :=
    getLast?_types.mp (by simpa using hlast)
  -- the history stays known while positions and orders are looked at
  have hknown : ∀ past' : Past, known r (⟨.eventsFor r, .ok events⟩ :: past') = some events := by
    intro past'
    simp [known, recollect, executionNews]
  have hres : ExecutionEventType.ambiguousOutcomeResolved ∈ resolves (types events).getLast? := by
    simp [hend, resolves]
  refine keeps_ask trivial fun positions _ => ?_
  refine keeps_ask trivial fun now _ => ?_
  dsimp only
  split
  · refine Leads.seq (keeps_resolveAmbiguous ?_ hres fun hd => ?_) fun _ _ _ => ?_
    · exact hknown _
    · rw [integrityPayload_submitted] at hd
      cases hd
    · exact Leads.seq (fine_quiet (only_quiet (only_tripUnlessHalted ..) (by decide))) fun _ _ _ => Leads.ret.mpr trivial
  split
  · rename_i hnone
    refine keeps_ask trivial fun orders _ => ?_
    split
    · refine Leads.seq (keeps_resolveAmbiguous ?_ hres fun hd => ?_) fun _ _ _ => ?_
      · exact hknown _
      · rw [integrityPendingPayload_submitted] at hd
        cases hd
      · exact Leads.seq (fine_quiet (only_quiet (only_tripUnlessHalted ..) (by decide)))
          fun _ _ _ => Leads.ret.mpr trivial
    split
    · exact Leads.ret.mpr trivial
    · rename_i hmany hone
      refine Leads.seq (keeps_resolveAmbiguous ?_ hres fun _ => ?_) fun _ _ _ =>
        Leads.ret.mpr trivial
      · exact hknown _
      · exact ⟨row, events, now, positions, orders, rest, rfl, hrow, hend,
          List.length_eq_zero_iff.mp hnone, List.length_eq_zero_iff.mp (by omega)⟩
  · rename_i hmany hsome
    refine Leads.seq (keeps_resolveAmbiguous ?_ hres fun hd => ?_) fun _ _ _ =>
      Leads.ret.mpr trivial
    · exact hknown _
    · have hone : (positionMatches r positions).length = 1 := by omega
      rw [ambiguousPayload_submitted, hone] at hd
      cases hd

theorem keeps_process (self : ExecutionOrchestrator) {capsule : DecisionCapsule}
    {now : UtcDatetime} : Keeps past (self.process capsule now) Fine := by
  refine leads_lift fun chain _ => ?_
  split
  · exact Leads.raise.mpr trivial
  · refine keeps_ask trivial fun claimed _ => ?_
    cases claimed with
    | true =>
        refine Leads.seq (keeps_processClaimed self ?_) fun _ _ _ => Leads.ret.mpr trivial
        refine ⟨?_, [], ?_, rfl⟩
        · simp [holding, holdingAfter, claimRow]
        · simp [known, recollect, executionNews, claimRow]
    | false => exact keeps_recoverAmbiguousSubmission rfl

end Crumblr
