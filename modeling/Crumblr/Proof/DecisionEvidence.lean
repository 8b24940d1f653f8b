import Crumblr.Proof.DecisionTrail

/-!
# What a call leaves on record

A call that reaches the gateway leaves a settlement and, as far as it went, a capsule, facts in the
journal and an accepted order. The dashboard reads the outcome of the call back from these, in an
order of its own.
-/

namespace Crumblr.PaperLite

open DurablePaperBroker (orderKey orderPayload auditKey auditPayload)
open Dashboard

/-! ## The decision path -/

section

variable [Externals] {self : PaperLiteOrchestrator} {p : PaperPortfolio} {w w' w₀ : PaperWorld}
  {α β : Type}

/-- A program of the decision path, as a part of the process. -/
abbrev PathGoes (self : PaperLiteOrchestrator) (p : PaperPortfolio) (w : PaperWorld)
    (prog : AgentPass α) (Q : PaperWorld → α → Prop) : Prop :=
  Leads (Machine.solo (paperWorker self p) freshDecisions fun _ => True).left w prog Q

/-- Calls of the decision path that seal nothing. -/
def PathPlain : AgentCall → Prop
  | .seal _ => False
  | _ => True

theorem pathGoes_plain {prog : AgentPass α} (hprog : Only PathPlain prog) :
    PathGoes self p w prog fun w' _ => Onward w w' := by
  unfold PathGoes Leads
  refine Conforms.mono (fun _ _ h _ _ => h) (Only.conforms (N := PathPlain) (I := Onward w)
    (fun _ _ _ _ => trivial) ?_ hprog (Onward.refl w))
  rintro w₁ c r w₂ h hc ⟨v, o, hdrift, -, hserve⟩
  have hplain : Plain (.inl c) := by
    cases c <;> first | exact hc.elim | trivial
  have hstep := onward_serve (w := v) o hplain
  change (v.serve o (.inl c)) = (r, w₂) at hserve
  rw [hserve] at hstep
  exact (h.trans (onward_drift hdrift)).trans hstep

/-- One plain call, and then the rest. -/
theorem pathGoes_next {c : AgentCall} (hc : PathPlain c) {f : c.Answer → AgentPass β}
    {Q : PaperWorld → β → Prop} (hw : Onward w₀ w)
    (hf : ∀ a w', Onward w₀ w' → PathGoes self p w' (f a) Q) :
    PathGoes self p w ((Prog.perform c).bind f) Q :=
  Leads.seq (pathGoes_plain (Only.perform hc)) fun w' a h => hf a w' (hw.trans h)

/-- A capsule was put on record, unless its id is taken. -/
structure Sealed (w w' : PaperWorld) (capsule : SealedCapsule) : Prop where
  kept : Kept w'
  journal : w'.journal = w.journal
  tables : w.gateway.tables.Within w'.gateway.tables
  capsules : w'.capsules = (Table.insert? (·.capsuleId) w.capsules capsule).getD w.capsules

/-- What an evaluation of an outcome has sealed of its result. -/
structure Told (outcomeId : Uuid) (intent : Option TradeIntent) (w w' : PaperWorld)
    (path : AgentDecisionPathResult) : Prop where
  recorded : Sealed w w' path.capsule
  capsuleId : path.capsule.capsuleId = agentCapsuleId outcomeId
  intent : path.capsule.tradeIntent = intent
  risk : path.capsule.riskDecision = path.riskDecision
  policy : path.capsule.supervisorDecision = path.supervisorDecision

variable {d : AgentDecisionPath} {intent : TradeIntent}

/-- An evaluation ends with the sealing of its result. -/
theorem pathGoes_sealing (hapart : TellsApart) (hw₀ : Kept w₀) (hw : Onward w₀ w)
    {capsule : SealedCapsule} {outcomeId : Uuid} {intent : Option TradeIntent}
    {risk : Option RiskDecision} {policy : Option SupervisorDecision}
    {review : Option SupervisorReviewOutcome} {record : Option ExternalSupervisorReviewRecord}
    (hid : capsule.capsuleId = agentCapsuleId outcomeId) (hintent : capsule.tradeIntent = intent)
    (hrisk : capsule.riskDecision = risk) (hpolicy : capsule.supervisorDecision = policy) :
    PathGoes self p w
      ((Prog.perform (.seal capsule)).bind fun _ => .ret ⟨capsule, risk, policy, review, record⟩)
      fun w' path => Told outcomeId intent w₀ w' path := by
  refine Leads.bind.mpr (Leads.perform.mpr ⟨trivial, ?_⟩)
  rintro a w₁ ⟨v, o, hdrift, -, hserve⟩
  have honward := hw.trans (onward_drift hdrift)
  have hkept := (honward.kept hw₀).serve hapart o (.inl (.seal capsule))
  change v.serve o (.inl (.seal capsule)) = (.ok a, w₁) at hserve
  rw [hserve] at hkept
  unfold PaperWorld.serve at hserve
  split at hserve
  · cases hserve
  simp only [PaperWorld.serveAgent, PaperOracle.write] at hserve
  split at hserve
  swap
  · cases hserve
  cases hserve
  refine Leads.ret.mpr ⟨⟨hkept, honward.journal, honward.tables, ?_⟩, hid, hintent, hrisk, hpolicy⟩
  change (Table.insert? (·.capsuleId) v.capsules capsule).getD v.capsules = _
  rw [honward.capsules]

/-- A stage that halts goes on with what comes after it, and so does one that does not. -/
theorem pathGoes_halting {halts : Prop} [Decidable halts] {trip : AgentPass Unit}
    {rest : Unit → AgentPass β} {Q : PaperWorld → β → Prop} (htrip : Only PathPlain trip)
    (hw : Onward w₀ w) (hrest : ∀ w', Onward w₀ w' → PathGoes self p w' (rest ()) Q) :
    PathGoes self p w (if halts then trip.bind rest else rest ()) Q := by
  split
  · exact Leads.seq (pathGoes_plain htrip) fun w' _ h => hrest w' (hw.trans h)
  · exact hrest w hw

omit [Externals] in
theorem plain_trip {reasonCodes : List ReasonCode} {trippedBy : String}
    {occurredAtUtc : UtcDatetime} {correlationId : Uuid} {detail : Option String} :
    Only PathPlain (AgentDecisionPath.trip reasonCodes trippedBy occurredAtUtc correlationId
      detail) := by
  unfold AgentDecisionPath.trip
  refine Only.bind (Only.perform trivial) fun killSwitch => Only.ite Only.ret
    (Only.ite Only.raise ?_)
  exact Only.bind (Only.perform trivial) fun _ => Only.bind (Only.perform trivial) fun _ =>
    Only.perform trivial

theorem plain_recoverRiskSession {portfolio : PortfolioSnapshot} :
    Only PathPlain (d.recoverRiskSession portfolio) := by
  unfold AgentDecisionPath.recoverRiskSession
  refine Only.bind (Only.rescue ?_ fun _ => Only.ret) fun recovered => ?_
  · exact Only.bind (Only.perform trivial) fun _ => Only.bind (Only.perform trivial) fun _ =>
      Only.bind Only.ofExcept fun _ => Only.ret
  · split
    · exact Only.ret
    · exact Only.ofExcept

theorem plain_askSupervisor {risk : RiskDecision} {policy : SupervisorDecision} :
    Only PathPlain (d.askSupervisor intent risk policy) := by
  unfold AgentDecisionPath.askSupervisor
  split
  · exact Only.ret
  · exact Only.ite (Only.bind (Only.perform trivial) fun _ => Only.ret) Only.ret

theorem pathGoes_gateAndReview (hapart : TellsApart) (hw₀ : Kept w₀) (hw : Onward w₀ w)
    {portfolio : PortfolioSnapshot} {risk : RiskDecision} :
    PathGoes self p w (d.gateAndReview portfolio intent risk)
      fun w' path => Told d.outcomeId (some intent) w₀ w' path := by
  unfold AgentDecisionPath.gateAndReview
  refine pathGoes_next (by trivial) hw fun _ w₁ h₁ => pathGoes_halting plain_trip h₁ fun w₂ h₂ => ?_
  refine Leads.seq (pathGoes_plain plain_askSupervisor) fun w₃ review h₃ => ?_
  exact pathGoes_sealing hapart hw₀ (h₂.trans h₃) rfl rfl rfl rfl

theorem pathGoes_judgeIntent (hapart : TellsApart) (hw₀ : Kept w₀) (hw : Onward w₀ w)
    {portfolio : PortfolioSnapshot} :
    PathGoes self p w (d.judgeIntent portfolio intent)
      fun w' path => Told d.outcomeId (some intent) w₀ w' path := by
  unfold AgentDecisionPath.judgeIntent
  refine pathGoes_next (by trivial) hw fun _ w₁ h₁ => ?_
  refine Leads.seq (pathGoes_plain plain_recoverRiskSession) fun w₂ recovery h₂ => ?_
  refine pathGoes_halting plain_trip (h₁.trans h₂) fun w₃ h₃ => ?_
  refine Leads.bind.mpr (Leads.ofExcept.mpr fun openRisk _ => ?_)
  refine Leads.bind.mpr (Leads.ofExcept.mpr fun context _ => ?_)
  refine pathGoes_next (by trivial) h₃ fun killSwitch w₄ h₄ => ?_
  refine Leads.bind.mpr (Leads.ofExcept.mpr fun risk _ => ?_)
  refine pathGoes_next (by trivial) h₄ fun _ w₅ h₅ => pathGoes_halting plain_trip h₅ fun w₆ h₆ => ?_
  split
  · exact pathGoes_sealing hapart hw₀ h₆ rfl rfl rfl rfl
  · exact pathGoes_gateAndReview hapart hw₀ h₆

/-- **An evaluation seals what it comes to.** -/
theorem goes_evaluate (hapart : TellsApart) (hw : Kept w) {q : Observation} {outcomeId : Uuid}
    {proposal : Option TradeProposal} {intent : Option TradeIntent} :
    Goes self p w (self.evaluate q outcomeId proposal intent)
      fun w' path => Told outcomeId intent w w' path := by
  refine Leads.inl (pathGoes_next (by trivial) (Onward.refl w) fun portfolio w₁ h₁ => ?_)
  cases intent with
  | none =>
      exact pathGoes_sealing hapart hw h₁ rfl rfl rfl rfl
  | some intent => exact pathGoes_judgeIntent hapart hw h₁

end

/-! ## What is on record of an outcome -/

section

variable [Externals] {self : PaperLiteOrchestrator} {p : PaperPortfolio} {w w' : PaperWorld}
  {id : Uuid} {accepted : Bool} {marks : List (PaperJournalEventType × Json)}
  {capsule : Option SealedCapsule} {facts : List String}

/-- What is on record of an outcome: its settlement, the entries that name it, and its capsule. -/
structure Evidence (id : Uuid) (accepted : Bool) (marks : List (PaperJournalEventType × Json))
    (capsule : Option SealedCapsule) (w : PaperWorld) : Prop where
  formed : ∀ e ∈ w.journal, Formed e
  settled : ∃ s, w.gateway.tables.settlementFor id = some s
    ∧ s.eventType = if accepted then .accepted else .rejected
  marks : (w.journal.filter (correlates id)).map (fun e => (e.eventType, e.payload)) = marks
  capsule : Table.lookup (·.capsuleId) w.capsules (agentCapsuleId id) = capsule

theorem Evidence.onward (h : Evidence id accepted marks capsule w) (ho : Onward w w') :
    Evidence id accepted marks capsule w' := by
  obtain ⟨s, hs, htype⟩ := h.settled
  refine ⟨ho.journal ▸ h.formed, ⟨s, ho.tables.settlementFor hs, htype⟩, ?_, ?_⟩
  · rw [ho.journal]
    exact h.marks
  · rw [ho.capsules]
    exact h.capsule

/-- An accepted outcome, and what can still be recorded of it. -/
structure Pending (id : Uuid) (marks : List (PaperJournalEventType × Json))
    (capsule : Option SealedCapsule) (facts : List String) (w : PaperWorld) : Prop where
  evidence : Evidence id true marks capsule w
  kept : Kept w
  keyed : ∀ e ∈ w.journal, ∀ fact ∈ facts, e.eventKey ≠ auditKey fact id
  ordered : ∀ e ∈ w.journal, intentOf? e.payload ≠ some (AgentGateway.deriveTradeIntentId id)

theorem Pending.onward (h : Pending id marks capsule facts w) (ho : Onward w w') :
    Pending id marks capsule facts w' where
  evidence := h.evidence.onward ho
  kept := ho.kept h.kept
  keyed := ho.journal ▸ h.keyed
  ordered := ho.journal ▸ h.ordered

/-- A sealed capsule is the outcome's, if it has none yet. -/
theorem Pending.told (h : Pending id marks none facts w) {intent : Option TradeIntent}
    {path : AgentDecisionPathResult} (ht : Told id intent w w' path) :
    Pending id marks (some path.capsule) facts w' := by
  obtain ⟨⟨hkept, hjournal, htables, hcapsules⟩, hid, -, -, -⟩ := ht
  obtain ⟨s, hs, htype⟩ := h.evidence.settled
  refine ⟨⟨hjournal ▸ h.evidence.formed, ⟨s, htables.settlementFor hs, htype⟩, ?_, ?_⟩, hkept,
    hjournal ▸ h.keyed, hjournal ▸ h.ordered⟩
  · rw [hjournal]
    exact h.evidence.marks
  · have hnone : Table.lookup (·.capsuleId) w.capsules path.capsule.capsuleId = none := by
      rw [hid]
      exact h.evidence.capsule
    rw [hcapsules, Table.insert?, if_pos hnone, Option.getD_some, ← hid]
    exact Table.lookup_append_self hnone

theorem Evidence.entered (h : Evidence id accepted marks capsule w) {e : PaperJournalEntry}
    (he : Entered w w' e) (hnames : correlates id e = true) :
    Evidence id accepted (marks ++ [(e.eventType, e.payload)]) capsule w' := by
  obtain ⟨s, hs, htype⟩ := h.settled
  refine ⟨he.kept.1, ⟨s, he.tables.settlementFor hs, htype⟩, ?_, ?_⟩
  · rw [he.journal, List.filter_append, List.map_append, h.marks, List.filter_cons, if_pos hnames]
    rfl
  · rw [he.capsules]
    exact h.capsule

omit [Externals] in
theorem auditKey_inj {fact fact' : String} (h : auditKey fact id = auditKey fact' id) :
    fact = fact' := by
  have hlist := congrArg String.toList h
  simp only [auditKey, String.toList_append, List.append_cancel_left_eq,
    List.append_cancel_right_eq] at hlist
  exact String.toList_inj.mp hlist

/-- **A fact about a pending outcome is on record once it is stated.** -/
theorem goes_fact (hapart : TellsApart) (h : Pending id marks capsule facts w) {fact : String}
    (hfact : fact ∈ facts) {detail : Option String} :
    Goes self p w (PaperLiteOrchestrator.audit fact id detail) fun w' _ =>
      Pending id (marks ++ [(.auditFact, auditPayload fact id detail)]) capsule
        (facts.filter fun f => f ≠ fact) w' := by
  refine Leads.mono (goes_audit hapart h.kept fun e he => h.keyed e he fact hfact) ?_
  rintro w' - ⟨e, he, htype, hkey, hpayload⟩
  have hnames : correlates id e = true := by
    simp [correlates, hpayload, auditPayload, Json.uuid, Json.asStr?]
  refine ⟨?_, he.kept, fun e' he' f hf => ?_, fun e' he' => ?_⟩
  · have hevidence := h.evidence.entered he hnames
    rwa [htype, hpayload] at hevidence
  · simp only [ne_eq, List.mem_filter, decide_not, Bool.not_eq_eq_eq_not, Bool.not_true,
      decide_eq_false_iff_not] at hf
    rw [he.journal] at he'
    rcases List.mem_append.mp he' with hold | hnew
    · exact h.keyed e' hold f hf.1
    · rw [List.mem_singleton.mp hnew, hkey]
      exact fun hsame => hf.2 (auditKey_inj hsame).symm
  · rw [he.journal] at he'
    rcases List.mem_append.mp he' with hold | hnew
    · exact h.ordered e' hold
    · rw [List.mem_singleton.mp hnew, hpayload]
      simp [intentOf?, auditPayload]

theorem Answered.pending {decision : AgentSubmission} {result : AgentDecisionOutcomeResult}
    (h : Answered decision result w) (haccepted : result.accepted = true) :
    Pending result.outcomeId [] none decisionFacts w where
  evidence := by
    obtain ⟨s, hs, htype⟩ := h.settled
    refine ⟨h.kept.1, ⟨s, hs, by rw [htype, haccepted]⟩, ?_, Table.lookup_eq_none.mpr h.capsule⟩
    rw [List.map_eq_nil_iff, List.filter_eq_nil_iff]
    intro e he hnames
    rw [h.named e he] at hnames
    cases hnames
  kept := h.kept
  keyed := h.keyed
  ordered := h.ordered

/-! ## What the dashboard makes of it -/

/-- What the dashboard reads of the journal. -/
def journalRead (p : PaperPortfolio) (w : PaperWorld) : JournalReadResult :=
  readJournalEntries ((paperFile p w.journal).map some)

/-- What the dashboard shows of an outcome. -/
def Shows (p : PaperPortfolio) (id : Uuid) (platformOutcome : String) (w : PaperWorld) : Prop :=
  ∃ report, stateOf w.gateway.tables w.capsules (journalRead p w).entries id = .ok report
    ∧ report.platformOutcome = platformOutcome

theorem entries_journalRead : (journalRead p w).entries = paperFile p w.journal := by
  simp [journalRead, readJournalEntries, List.filterMap_map]

theorem hadCorruption_journalRead : (journalRead p w).hadCorruption = false := by
  simp [journalRead, readJournalEntries]

omit [Externals] in
@[simp] theorem hasEventType_encoded (eventType : String) (e : PaperJournalEntry) :
    hasEventType eventType e.encoded = (e.eventType.value == eventType) := by
  simp [hasEventType, PaperJournalEntry.encoded, recordMaterial, Json.asStr?]

omit [Externals] in
@[simp] theorem payloadGet_encoded (key : String) (e : PaperJournalEntry) :
    payloadGet e.encoded key = (e.payload.get? key).getD .null := by
  simp [payloadGet, PaperJournalEntry.encoded, recordMaterial]

omit [Externals] in
theorem correlationId_encoded {e : PaperJournalEntry} (h : IsObject e.payload) :
    correlationId e.encoded = .ok ((e.payload.get? "correlation_id").getD .null) := by
  obtain ⟨fields, hfields⟩ := h
  simp [correlationId, PaperJournalEntry.encoded, recordMaterial, hfields, dictGet]

omit [Externals] in
theorem matching_encoded {entries : List PaperJournalEntry}
    (h : ∀ e ∈ entries, IsObject e.payload) :
    matching id (entries.map PaperJournalEntry.encoded)
      = .ok ((entries.filter (correlates id)).map PaperJournalEntry.encoded) := by
  induction entries with
  | nil => rfl
  | cons e entries ih =>
      have hrest := ih fun e' he' => h e' (List.mem_cons_of_mem _ he')
      have hnames : (((e.payload.get? "correlation_id").getD .null).asStr? = some id.text)
          ↔ correlates id e = true := by
        unfold correlates
        cases e.payload.get? "correlation_id" <;> simp [Json.asStr?]
      simp only [List.map_cons, matching, correlationId_encoded (h e (List.mem_cons_self ..)),
        hrest, bind, Except.bind, pure, Except.pure, List.filter_cons]
      by_cases hc : correlates id e = true
      · rw [if_pos (hnames.mpr hc), if_pos hc, List.map_cons]
      · rw [if_neg (fun hn => hc (hnames.mp hn)), if_neg hc]

theorem matching_paperFile {journal : List PaperJournalEntry} (h : ∀ e ∈ journal, Formed e) :
    matching id (paperFile p journal)
      = .ok ((journal.filter (correlates id)).map PaperJournalEntry.encoded) := by
  have hheader : correlates id p.header = false := by
    simp [correlates, PaperPortfolio.header, DurablePaperBroker.nextEntry,
      PaperPortfolio.headerPayload]
  unfold paperFile
  rw [matching_encoded, List.filter_cons, if_neg (by simp [hheader])]
  intro e he
  rcases List.mem_cons.mp he with rfl | he
  · exact ⟨_, rfl⟩
  · exact (h e he).object

/-- A rejection is shown whatever else there is. -/
theorem Evidence.shows_rejected (h : Evidence id false marks capsule w) :
    Shows p id "GATEWAY_REJECTED" w := by
  obtain ⟨s, hs, htype⟩ := h.settled
  refine ⟨bareState (some s.occurredAtUtc) "GATEWAY_REJECTED" (.opt .str s.detail) s.reasonCodes
    false, ?_, rfl⟩
  unfold stateOf
  rw [hs]
  simp [htype]

/-- What was accepted is shown by the entries that name it, and its capsule. -/
theorem Evidence.shows_accepted (h : Evidence id true marks capsule w) {platformOutcome : String}
    (hshown : ∀ (settlement : Option AgentDecisionEventRecord) (entries : List PaperJournalEntry),
      entries.map (fun e => (e.eventType, e.payload)) = marks →
      ∃ report, stateFromEvidence w.capsules id settlement
          (entries.map PaperJournalEntry.encoded) = .ok report
        ∧ report.platformOutcome = platformOutcome) :
    Shows p id platformOutcome w := by
  obtain ⟨s, hs, htype⟩ := h.settled
  obtain ⟨report, hreport, hshows⟩ := hshown (some s) _ h.marks
  refine ⟨report, ?_, hshows⟩
  unfold stateOf
  rw [hs, entries_journalRead, matching_paperFile h.formed]
  simp only [htype, if_true]
  exact hreport

end

section

variable [Externals] {self : PaperLiteOrchestrator} {p : PaperPortfolio} {w w' : PaperWorld}
  {id : Uuid} {marks : List (PaperJournalEventType × Json)} {capsule : Option SealedCapsule}
  {sealing : SealedCapsule}

omit [Externals] in
@[simp] theorem get?_auditPayload_fact (fact : String) (detail : Option String) :
    (auditPayload fact id detail).get? "fact" = some (.str fact) := by
  simp [auditPayload]

omit [Externals] in
@[simp] theorem get?_auditPayload_detail (fact : String) (detail : Option String) :
    (auditPayload fact id detail).get? "detail" = some (.opt .str detail) := by
  simp [auditPayload]

/-- Of an outcome with a capsule and no entry. -/
theorem Evidence.shows_capsule (h : Evidence id true [] (some sealing) w) :
    Shows p id (capsuleOutcome sealing.toDecisionCapsule none false) w := by
  refine h.shows_accepted fun settlement entries hentries => ?_
  obtain rfl := List.map_eq_nil_iff.mp hentries
  refine ⟨fromCapsule sealing.toDecisionCapsule false none false, ?_, rfl⟩
  simp [stateFromEvidence, endingFact, h.capsule, pure, Except.pure, bind, Except.bind]

/-- Of an outcome that a fact ended. -/
theorem Evidence.shows_fact {fact platformOutcome : String} {detail : Option String}
    (h : Evidence id true [(.auditFact, auditPayload fact id detail)] capsule w)
    (hends : auditFactOutcome fact = some platformOutcome)
    (hreview : fact ≠ "PAPER_LITE_EXTERNAL_SUPERVISOR_REVIEWED") :
    Shows p id platformOutcome w := by
  refine h.shows_accepted fun settlement entries hentries => ?_
  obtain ⟨e, rest, rfl, he, hrest⟩ := List.map_eq_cons_iff.mp hentries
  obtain rfl := List.map_eq_nil_iff.mp hrest
  obtain ⟨htype, hpayload⟩ := Prod.mk.inj he
  refine ⟨bareState none platformOutcome (.opt .str detail) []
    (fact == "SUPERVISOR_SKIPPED_PAPER_MODE"), ?_, rfl⟩
  simp [stateFromEvidence, endingFact, isFact, htype, hpayload, hends, hreview,
    PaperJournalEventType.value, Json.asStr?, pure, Except.pure, bind, Except.bind]

/-- A fact that says whether the reviewing agent was asked, and its verdict. -/
def Consulted (fact detail : String) (verdict : Option String) : Prop :=
  (fact = "PAPER_LITE_EXTERNAL_SUPERVISOR_REVIEWED"
      ∧ parseSupervisorVerdict (.str detail) = .ok verdict)
    ∨ (fact = "SUPERVISOR_SKIPPED_PAPER_MODE" ∧ verdict = none)

section

variable {fact detail : String} {verdict : Option String}

/-- Of an outcome that the reviewing agent had its say in, or was not asked about. -/
theorem Evidence.shows_consulted
    (h : Evidence id true [(.auditFact, auditPayload fact id (some detail))] (some sealing) w)
    (hconsulted : Consulted fact detail verdict) :
    Shows p id (capsuleOutcome sealing.toDecisionCapsule verdict false) w := by
  refine h.shows_accepted fun settlement entries hentries => ?_
  obtain ⟨e, rest, rfl, he, hrest⟩ := List.map_eq_cons_iff.mp hentries
  obtain rfl := List.map_eq_nil_iff.mp hrest
  obtain ⟨htype, hpayload⟩ := Prod.mk.inj he
  refine ⟨fromCapsule sealing.toDecisionCapsule (fact == "SUPERVISOR_SKIPPED_PAPER_MODE") verdict
    false, ?_, rfl⟩
  rcases hconsulted with ⟨rfl, hverdict⟩ | ⟨rfl, rfl⟩
  · simp [stateFromEvidence, endingFact, isFact, htype, hpayload, auditFactOutcome, h.capsule,
      PaperJournalEventType.value, Json.asStr?, Json.opt, pure, Except.pure, bind, Except.bind,
      hverdict]
  · simp [stateFromEvidence, endingFact, isFact, htype, hpayload, auditFactOutcome, h.capsule,
      PaperJournalEventType.value, Json.asStr?, pure, Except.pure, bind, Except.bind]

/-- Of an outcome whose order the broker would not have. -/
theorem Evidence.shows_orderCheck {comment : Option String}
    (h : Evidence id true [(.auditFact, auditPayload fact id (some detail)),
      (.auditFact, auditPayload "PAPER_LITE_ORDER_CHECK_BLOCKED" id comment)] capsule w)
    (hconsulted : Consulted fact detail verdict) :
    Shows p id "PAPER_ORDER_CHECK_BLOCKED" w := by
  refine h.shows_accepted fun settlement entries hentries => ?_
  obtain ⟨e, rest, rfl, he, hrest⟩ := List.map_eq_cons_iff.mp hentries
  obtain ⟨e', rest', rfl, he', hrest'⟩ := List.map_eq_cons_iff.mp hrest
  obtain rfl := List.map_eq_nil_iff.mp hrest'
  obtain ⟨htype, hpayload⟩ := Prod.mk.inj he
  obtain ⟨htype', hpayload'⟩ := Prod.mk.inj he'
  refine ⟨bareState none "PAPER_ORDER_CHECK_BLOCKED" (.opt .str comment) []
    (fact == "SUPERVISOR_SKIPPED_PAPER_MODE"), ?_, rfl⟩
  rcases hconsulted with ⟨rfl, hverdict⟩ | ⟨rfl, rfl⟩
  · simp [stateFromEvidence, endingFact, isFact, htype, hpayload, htype', hpayload',
      auditFactOutcome, PaperJournalEventType.value, Json.asStr?, Json.opt, pure, Except.pure,
      bind, Except.bind, hverdict]
  · simp [stateFromEvidence, endingFact, isFact, htype, hpayload, htype', hpayload',
      auditFactOutcome, PaperJournalEventType.value, Json.asStr?, pure, Except.pure, bind,
      Except.bind]

/-- Of an outcome whose order was accepted. -/
theorem Evidence.shows_filled {order : ApprovedOrder} {riskAmount : Decimal}
    (h : Evidence id true [(.auditFact, auditPayload fact id (some detail)),
      (.paperOrderAccepted, orderPayload order riskAmount (some id))] (some sealing) w)
    (hconsulted : Consulted fact detail verdict) :
    Shows p id (capsuleOutcome sealing.toDecisionCapsule verdict true) w := by
  refine h.shows_accepted fun settlement entries hentries => ?_
  obtain ⟨e, rest, rfl, he, hrest⟩ := List.map_eq_cons_iff.mp hentries
  obtain ⟨e', rest', rfl, he', hrest'⟩ := List.map_eq_cons_iff.mp hrest
  obtain rfl := List.map_eq_nil_iff.mp hrest'
  obtain ⟨htype, hpayload⟩ := Prod.mk.inj he
  obtain ⟨htype', hpayload'⟩ := Prod.mk.inj he'
  refine ⟨fromCapsule sealing.toDecisionCapsule (fact == "SUPERVISOR_SKIPPED_PAPER_MODE") verdict
    true, ?_, rfl⟩
  rcases hconsulted with ⟨rfl, hverdict⟩ | ⟨rfl, rfl⟩
  · simp [stateFromEvidence, endingFact, isFact, htype, hpayload, htype', auditFactOutcome,
      h.capsule, PaperJournalEventType.value, Json.asStr?, Json.opt, pure, Except.pure, bind,
      Except.bind, hverdict]
  · simp [stateFromEvidence, endingFact, isFact, htype, hpayload, htype', auditFactOutcome,
      h.capsule, PaperJournalEventType.value, Json.asStr?, pure, Except.pure, bind, Except.bind]

end

omit [Externals] in
/-- **The verdict of a review is read back from its record.** -/
theorem parse_reviewDetail (outcome : SupervisorReviewOutcome) :
    parseSupervisorVerdict (.str (PaperLiteOrchestrator.reviewDetail outcome))
      = .ok (some outcome.verdict.value) := by
  obtain ⟨rest, hdetail⟩ : ∃ rest, (PaperLiteOrchestrator.reviewDetail outcome).toList
      = "verdict=".toList ++ (outcome.verdict.value.toList ++ ' ' :: rest) := by
    have hspace : " reason_codes=".toList = ' ' :: "reason_codes=".toList := rfl
    simp only [PaperLiteOrchestrator.reviewDetail, String.toList_append, List.append_assoc, hspace,
      List.cons_append]
    exact ⟨_, rfl⟩
  have hword : ((PaperLiteOrchestrator.reviewDetail outcome).toList.takeWhile
      fun c => !PyText.isSpace c.toNat) = "verdict=".toList ++ outcome.verdict.value.toList := by
    have hletters : ∀ c ∈ "verdict=".toList ++ outcome.verdict.value.toList,
        (!PyText.isSpace c.toNat) = true := by
      cases outcome.verdict <;> simp [ExternalSupervisorVerdict.value, PyText.isSpace, PyText.spaces]
    rw [hdetail, ← List.append_assoc, List.takeWhile_append_of_pos hletters]
    simp [PyText.isSpace, PyText.spaces]
  unfold parseSupervisorVerdict
  simp only [hword]
  rw [hdetail]
  cases outcome.verdict <;> rfl

end

end Crumblr.PaperLite
