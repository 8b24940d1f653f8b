import Crumblr.Proof.DecisionEvidence

/-!
# The dashboard tells what the process did

Every way a call can end is read back from what it left. What the dashboard shows of an assignment
is of the outcome claimed last, by the instants at which outcomes were claimed.
-/

namespace Crumblr.PaperLite

open DurablePaperBroker (orderKey orderPayload auditKey auditPayload)
open Dashboard

/-! ## What the process reports -/

section

variable [Externals] {self : PaperLiteOrchestrator} {p : PaperPortfolio} {w w' : PaperWorld}
  {q : Observation} {result : AgentDecisionOutcomeResult} {context : AgentMarketContext}
  {closedTrades : List ClosedTrade}

omit [Externals] in
theorem plain_tripRiskSessionAt {reasonCodes : List ReasonCode} {occurredAtUtc : UtcDatetime}
    {correlationId : Uuid} {detail : Option String} :
    Only Plain (PaperLiteOrchestrator.tripRiskSessionAt reasonCodes occurredAtUtc correlationId
      detail) := by
  unfold PaperLiteOrchestrator.tripRiskSessionAt
  refine Only.bind (Only.perform trivial) fun killSwitch => Only.ite Only.ret
    (Only.ite Only.raise ?_)
  exact Only.bind (Only.perform trivial) fun _ => Only.bind (Only.perform trivial) fun _ =>
    Only.perform trivial

theorem plain_persistRiskSession : Only Plain self.persistRiskSession := by
  unfold PaperLiteOrchestrator.persistRiskSession
  refine Only.bind (Only.perform trivial) fun m => ?_
  split
  · refine Only.bind (Only.perform trivial) fun b => Only.bind Only.ofExcept fun account =>
      Only.bind Only.ofExcept fun positions => Only.bind Only.ofExcept fun openRisk => ?_
    refine Only.bind (Only.perform trivial) fun _ => Only.bind Only.ofExcept fun view => ?_
    exact Only.rescue (Only.perform trivial) fun _ => plain_tripRiskSessionAt
  · exact Only.ret

/-- What a call comes to is what the dashboard shows of its decision. -/
def Truthful (p : PaperPortfolio) (w : PaperWorld) (outcome : PaperLiteOutcome) : Prop :=
  ∀ result, outcome.gatewayResult = some result →
    Shows p result.outcomeId outcome.outcomeType.value w

/-- **What is reported is what is on record**, as far as the record is read that way. -/
theorem goes_outcome {outcomeType : PaperLiteOutcomeType} {detail : Option String}
    {path : Option AgentDecisionPathResult} {execution : Option SimulatedResult} {accepted : Bool}
    {marks : List (PaperJournalEventType × Json)} {capsule : Option SealedCapsule}
    (h : Evidence result.outcomeId accepted marks capsule w)
    (hshows : ∀ w', Evidence result.outcomeId accepted marks capsule w' →
      Shows p result.outcomeId outcomeType.value w') :
    Goes self p w (self.outcome outcomeType context result closedTrades detail path execution)
      fun w' outcome => Truthful p w' outcome := by
  unfold PaperLiteOrchestrator.outcome
  refine Leads.seq (goes_plain plain_persistRiskSession) fun w₁ _ h₁ => ?_
  refine Leads.seq (goes_plain (Only.perform trivial)) fun w₂ b h₂ => ?_
  refine Leads.bind.mpr (Leads.ofExcept.mpr fun portfolio _ => Leads.ret.mpr ?_)
  rintro result' ⟨⟩
  exact hshows w₂ ((h.onward h₁).onward h₂)

omit [Externals] in
/-- An order is of its intent. -/
theorem order_create_intentId {orderRequestId intentId intentRiskDecisionId : Uuid}
    {finalRiskDecisionId : Option Uuid} {supervisorDecisionId : Uuid} {brokerSymbol : String}
    {side : Side} {entryType : EntryType} {volume : Volume} {price : Option Price}
    {stopLossPrice : Price} {takeProfitPrice : Option Price} {maxSlippagePoints : Nat}
    {createdAtUtc expiresAtUtc : UtcDatetime} {environment : Environment} {order : ApprovedOrder}
    (h : ApprovedOrder.create orderRequestId intentId intentRiskDecisionId finalRiskDecisionId
      supervisorDecisionId brokerSymbol side entryType volume price stopLossPrice takeProfitPrice
      maxSlippagePoints createdAtUtc expiresAtUtc environment = .ok order) :
    order.intentId = intentId := by
  unfold ApprovedOrder.create at h
  repeat' split at h
  all_goals cases h
  rfl

theorem intentId_approvedOrder {intent : TradeIntent} {risk : RiskDecision}
    {policy : SupervisorDecision} {order : PaperOrder} {riskAmount : Decimal}
    (h : self.approvedOrder q intent risk policy = .ok (order, riskAmount)) :
    order.val.intentId = intent.intentId := by
  obtain ⟨volume, -, h⟩ := bind_ok h
  obtain ⟨amount, -, h⟩ := bind_ok h
  obtain ⟨stop, -, h⟩ := bind_ok h
  obtain ⟨approved, happroved, h⟩ := bind_ok h
  obtain ⟨order', horder, h⟩ := bind_ok h
  cases h
  unfold PaperLiteOrchestrator.paperOrder at horder
  split at horder
  · cases horder
    exact order_create_intentId happroved
  · cases horder

/-- A capsule of an intent that risk passed and policy approved. -/
structure Cleared (capsule : SealedCapsule) (intent : TradeIntent) (risk : RiskDecision)
    (policy : SupervisorDecision) : Prop where
  traded : capsule.tradeIntent = some intent
  judged : capsule.riskDecision = some risk
  passed : risk.verdict = .pass
  gated : capsule.supervisorDecision = some policy
  approved : policy.verdict = .approve

theorem goes_fill (hapart : TellsApart) {path : AgentDecisionPathResult} {intent : TradeIntent}
    {risk : RiskDecision} {policy : SupervisorDecision} {fact detail : String}
    {verdict : Option String} {capsule : SealedCapsule} {facts : List String}
    (hpending : Pending result.outcomeId
      [(.auditFact, auditPayload fact result.outcomeId (some detail))] (some capsule) facts w)
    (hconsulted : Consulted fact detail verdict)
    (hfact : "PAPER_LITE_ORDER_CHECK_BLOCKED" ∈ facts)
    (hintent : intent.intentId = AgentGateway.deriveTradeIntentId result.outcomeId)
    (hcleared : Cleared capsule intent risk policy) :
    Goes self p w (self.fill q context result closedTrades path intent risk policy)
      fun w' outcome => Truthful p w' outcome := by
  unfold PaperLiteOrchestrator.fill
  refine Leads.bind.mpr (Leads.ofExcept.mpr fun ⟨order, riskAmount⟩ horder => ?_)
  refine Leads.seq (goes_plain (Only.perform trivial)) fun w₁ b h₁ => ?_
  refine Leads.bind.mpr (Leads.ofExcept.mpr fun check _ => ?_)
  have hpending₁ := hpending.onward h₁
  split
  · refine Leads.seq (goes_fact hapart hpending₁ hfact) fun w₂ _ h₂ => ?_
    exact goes_outcome h₂.evidence fun w' h => h.shows_orderCheck hconsulted
  · have hnew : ∀ e ∈ w₁.journal, intentOf? e.payload ≠ some order.val.intentId := by
      rw [intentId_approvedOrder horder, hintent]
      exact hpending₁.ordered
    refine Leads.seq (goes_submit hapart hpending₁.kept hnew) fun w₂ execution h₂ => ?_
    obtain ⟨e, he, htype, hpayload⟩ := h₂
    have hnames : correlates result.outcomeId e = true := by
      simp [correlates, hpayload, orderPayload, Json.opt, Json.uuid, Json.asStr?]
    have hevidence := hpending₁.evidence.entered he hnames
    rw [htype, hpayload] at hevidence
    refine goes_outcome hevidence fun w' h => ?_
    have hshows := h.shows_filled (p := p) hconsulted
    have houtcome : capsuleOutcome capsule.toDecisionCapsule verdict true = "PAPER_FILLED" := by
      simp [capsuleOutcome, hcleared.traded, hcleared.judged, hcleared.passed, hcleared.gated,
        hcleared.approved]
    rw [houtcome] at hshows
    exact hshows

/-- What the reviewing agent said is on record, or that nobody asked it. -/
theorem goes_reviewVerdict (hapart : TellsApart) {path : AgentDecisionPathResult}
    {capsule : Option SealedCapsule}
    (hpending : Pending result.outcomeId [] capsule decisionFacts w) :
    Goes self p w (self.reviewVerdict result.outcomeId path) fun w' blocks =>
      ∃ fact detail verdict facts, Consulted fact detail verdict
        ∧ "PAPER_LITE_ORDER_CHECK_BLOCKED" ∈ facts
        ∧ (blocks ≠ none → ∃ v, verdict = some v ∧ v ≠ "APPROVE")
        ∧ Pending result.outcomeId
          [(.auditFact, auditPayload fact result.outcomeId (some detail))] capsule facts w' := by
  unfold PaperLiteOrchestrator.reviewVerdict
  split
  · refine Leads.bind.mpr (Leads.ofExcept.mpr fun outcome _ => ?_)
    refine Leads.seq (goes_fact hapart hpending (by simp [decisionFacts])) fun w₁ _ h₁ => ?_
    have hconsulted : Consulted "PAPER_LITE_EXTERNAL_SUPERVISOR_REVIEWED"
        (PaperLiteOrchestrator.reviewDetail outcome) (some outcome.verdict.value) :=
      .inl ⟨rfl, parse_reviewDetail outcome⟩
    split
    · rename_i hblocks
      refine Leads.ret.mpr ⟨_, _, _, _, hconsulted, by simp [decisionFacts], fun _ => ⟨_, rfl, ?_⟩,
        h₁⟩
      revert hblocks
      cases outcome.verdict <;> simp [ExternalSupervisorVerdict.value]
    · exact Leads.ret.mpr ⟨_, _, _, _, hconsulted, by simp [decisionFacts],
        fun hsome => absurd rfl hsome, h₁⟩
  · refine Leads.seq (goes_fact hapart hpending (by simp [decisionFacts])) fun w₁ _ h₁ => ?_
    exact Leads.ret.mpr ⟨_, _, none, _, .inr ⟨rfl, rfl⟩, by simp [decisionFacts],
      fun hsome => absurd rfl hsome, h₁⟩

theorem goes_judgeProposal (hapart : TellsApart) {proposal : TradeProposal}
    (hpending : Pending result.outcomeId [] none decisionFacts w)
    (hintent : ∀ i, result.tradeIntent = some i →
      i.intentId = AgentGateway.deriveTradeIntentId result.outcomeId) :
    Goes self p w (self.judgeProposal q context proposal result closedTrades)
      fun w' outcome => Truthful p w' outcome := by
  unfold PaperLiteOrchestrator.judgeProposal
  refine Leads.seq (goes_plain (Only.perform trivial)) fun w₁ killSwitch h₁ => ?_
  have hpending₁ := hpending.onward h₁
  split
  · refine Leads.seq (goes_fact hapart hpending₁ (by simp [decisionFacts])) fun w₂ _ h₂ => ?_
    exact goes_outcome h₂.evidence fun w' h => h.shows_fact rfl (by decide)
  split
  · refine Leads.seq (goes_fact hapart hpending₁ (by simp [decisionFacts])) fun w₂ _ h₂ => ?_
    exact goes_outcome h₂.evidence fun w' h => h.shows_fact rfl (by decide)
  refine Leads.bind.mpr (Leads.ofExcept.mpr fun intent hsome => ?_)
  refine Leads.seq (goes_evaluate hapart hpending₁.kept) fun w₂ path htold => ?_
  have hpending₂ := hpending₁.told htold
  -- the capsule says what the path says
  have hshows : ∀ (platformOutcome : String),
      capsuleOutcome path.capsule.toDecisionCapsule none false = platformOutcome →
      ∀ w', Evidence result.outcomeId true [] (some path.capsule) w' →
        Shows p result.outcomeId platformOutcome w' := by
    rintro _ rfl w' h
    exact h.shows_capsule
  split
  · rename_i hrisk
    refine goes_outcome hpending₂.evidence (hshows _ ?_)
    simp [capsuleOutcome, htold.intent, htold.risk, hrisk, PaperLiteOutcomeType.value]
  rename_i risk hrisk
  split
  · rename_i hrefused
    refine goes_outcome hpending₂.evidence (hshows _ ?_)
    simp [capsuleOutcome, htold.intent, htold.risk, hrisk, hrefused, PaperLiteOutcomeType.value]
  rename_i hpass
  split
  · rename_i hpolicy
    refine goes_outcome hpending₂.evidence (hshows _ ?_)
    simp [capsuleOutcome, htold.intent, htold.risk, hrisk, not_not.mp hpass, htold.policy, hpolicy,
      PaperLiteOutcomeType.value]
  rename_i policy hpolicy
  split
  · rename_i hvetoed
    refine goes_outcome hpending₂.evidence (hshows _ ?_)
    simp [capsuleOutcome, htold.intent, htold.risk, hrisk, not_not.mp hpass, htold.policy, hpolicy,
      hvetoed, PaperLiteOutcomeType.value]
  rename_i happrove
  have hcleared : Cleared path.capsule intent risk policy :=
    ⟨htold.intent, htold.risk.trans hrisk, not_not.mp hpass, htold.policy.trans hpolicy,
      not_not.mp happrove⟩
  refine Leads.seq (goes_reviewVerdict hapart hpending₂) fun w₃ blocks hreviewed => ?_
  obtain ⟨fact, detail, verdict, facts, hconsulted, hfact, hblocks, hpending₃⟩ := hreviewed
  cases blocks with
  | some reason =>
      obtain ⟨v, rfl, hv⟩ := hblocks (by simp)
      refine goes_outcome hpending₃.evidence fun w' h => ?_
      have hshown := h.shows_consulted (p := p) hconsulted
      have houtcome : capsuleOutcome path.capsule.toDecisionCapsule (some v) false
          = "EXTERNAL_SUPERVISOR_BLOCKED" := by
        simp [capsuleOutcome, hcleared.traded, hcleared.judged, hcleared.passed, hcleared.gated,
          hcleared.approved, hv]
      rw [houtcome] at hshown
      exact hshown
  | none =>
      exact goes_fill hapart hpending₃ hconsulted hfact (hintent intent (assertSome_ok hsome))
        hcleared

theorem goes_judgeDecision (hapart : TellsApart) {decision : AgentSubmission}
    (h : Answered decision result w) :
    Goes self p w (self.judgeDecision q context decision result closedTrades)
      fun w' outcome => Truthful p w' outcome := by
  unfold PaperLiteOrchestrator.judgeDecision
  split
  · rename_i hrejected
    have hfalse : result.accepted = false := by simpa using hrejected
    obtain ⟨s, hs, htype⟩ := h.settled
    rw [hfalse] at htype
    have hevidence : Evidence result.outcomeId false
        ((w.journal.filter (correlates result.outcomeId)).map fun e => (e.eventType, e.payload))
        (Table.lookup (·.capsuleId) w.capsules (agentCapsuleId result.outcomeId)) w :=
      ⟨h.kept.1, ⟨s, hs, htype⟩, rfl, rfl⟩
    exact goes_outcome hevidence fun w' h => h.shows_rejected
  rename_i haccepted
  have hpending := h.pending (by simpa using haccepted)
  cases decision with
  | noTrade decision =>
      refine Leads.seq (goes_evaluate hapart hpending.kept) fun w₁ path htold => ?_
      refine goes_outcome (hpending.told htold).evidence fun w' h => ?_
      have hshown := h.shows_capsule (p := p)
      have houtcome : capsuleOutcome path.capsule.toDecisionCapsule none false = "NO_TRADE" := by
        simp [capsuleOutcome, htold.intent]
      rw [houtcome] at hshown
      exact hshown
  | proposal proposal => exact goes_judgeProposal hapart hpending h.intent

/-- **A call reports what the dashboard shows of its decision.** -/
theorem goes_process (hapart : TellsApart) (hw : Kept w) :
    Goes self p w (self.process q) fun w' outcome => Truthful p w' outcome := by
  unfold PaperLiteOrchestrator.process
  refine Leads.seq (goes_kept hapart hw) fun w₁ closedTrades h₁ => ?_
  refine Leads.seq (goes_kept hapart h₁) fun w₂ closedTrades h₂ => ?_
  refine Leads.seq (goes_kept hapart h₂) fun w₃ _ h₃ => ?_
  refine Leads.seq (goes_kept hapart h₃) fun w₄ claimed h₄ => ?_
  dsimp only
  split
  · refine Leads.seq (goes_kept hapart h₄) fun w₅ b _ => ?_
    exact Leads.bind.mpr (Leads.ofExcept.mpr fun portfolio _ => Leads.ret.mpr
      fun result hresult => by cases hresult)
  · refine Leads.seq (goes_kept hapart h₄) fun w₅ ⟨context, decision⟩ h₅ => ?_
    refine Leads.seq (goes_submitToGateway hapart h₅) fun w₆ result hanswered => ?_
    exact goes_judgeDecision hapart hanswered

end

/-! ## The last decision -/

section

variable [Externals] {self : PaperLiteOrchestrator} {p : PaperPortfolio} {s₀ s : PaperConfig}
  {q : Observation} {w : PaperWorld}

/-- What the dashboard shows of an assignment. -/
def lastDecision (p : PaperPortfolio) (w : PaperWorld) (assignmentId : Uuid) :
    Except PyError (Option LastDecisionState) :=
  buildLastDecision w.gateway.tables w.capsules (some assignmentId) (journalRead p w)

omit [Externals] in
/-- The outcomes that an assignment claimed. -/
def claimedBy (w : PaperWorld) (assignmentId : Uuid) : List AgentDecisionOutcome :=
  w.gateway.tables.outcomes.filter fun row => row.assignmentId = assignmentId

theorem lastDecision_eq (assignmentId : Uuid) : lastDecision p w assignmentId
    = match Table.latest (·.claimedAtUtc) (claimedBy w assignmentId) with
      | none => .ok none
      | some row =>
          (stateOf w.gateway.tables w.capsules (journalRead p w).entries row.outcomeId).map some := by
  unfold lastDecision buildLastDecision
  rw [hadCorruption_journalRead]
  simp only [Option.bind_some, AgentDecisionOutcomes.latestOutcomeIdFor, Bool.false_eq_true,
    if_false, claimedBy]
  cases Table.latest (·.claimedAtUtc) (w.gateway.tables.outcomes.filter fun row =>
    row.assignmentId = assignmentId) <;> rfl

/-- **The dashboard tells what the process did.** After a call that reached the gateway and
returned, the dashboard shows of an assignment the outcome that the call returned, if the call's
decision is the one the assignment claimed last; and what it shows of an assignment is always of
an outcome that this assignment claimed. -/
theorem dashboard_tells_outcome (hapart : TellsApart) (hfresh : Fresh p s₀)
    (h : Machine.Reach (paperWorker self p) Machine.Always s₀ s) {w' : PaperWorld}
    {outcome : PaperLiteOutcome} {result : AgentDecisionOutcomeResult}
    (hends : Machine.Ends (paperWorker self p) freshDecisions s.world (self.process q) w'
      (.ok outcome))
    (hresult : outcome.gatewayResult = some result) :
    (∀ assignmentId row, Table.Latest (·.claimedAtUtc) (claimedBy w' assignmentId) row →
        row.outcomeId = result.outcomeId →
        ∃ report, lastDecision p w' assignmentId = .ok (some report)
          ∧ report.platformOutcome = outcome.outcomeType.value)
      ∧ ∀ assignmentId report, lastDecision p w' assignmentId = .ok (some report) →
        ∃ row ∈ claimedBy w' assignmentId,
          Table.Latest (·.claimedAtUtc) (claimedBy w' assignmentId) row
            ∧ stateOf w'.gateway.tables w'.capsules (journalRead p w').entries row.outcomeId
              = .ok report := by
  have htruthful : Truthful p w' outcome :=
    hends.conforms (goes_process hapart (kept_of_reach hapart hfresh h)) outcome rfl
  refine ⟨fun assignmentId row hlatest hrow => ?_, fun assignmentId report hreport => ?_⟩
  · obtain ⟨report, hstate, hshows⟩ := htruthful result hresult
    refine ⟨report, ?_, hshows⟩
    rw [lastDecision_eq, Table.latest_eq_some.mpr hlatest]
    simp only [hrow, hstate]
    rfl
  · rw [lastDecision_eq] at hreport
    cases hlast : Table.latest (·.claimedAtUtc) (claimedBy w' assignmentId) with
    | none =>
        rw [hlast] at hreport
        cases hreport
    | some row =>
        rw [hlast] at hreport
        have hlatest := Table.latest_eq_some.mp hlast
        refine ⟨row, hlatest.mem, hlatest, ?_⟩
        cases hstate : stateOf w'.gateway.tables w'.capsules (journalRead p w').entries
            row.outcomeId with
        | error e =>
            simp only [hstate] at hreport
            cases hreport
        | ok state =>
            simp only [hstate] at hreport
            cases hreport
            rfl

end

end Crumblr.PaperLite

namespace Crumblr

open PaperLite Dashboard

/-! ## Two calls, the second with a clock that is behind -/

namespace Desk

/-- The intent an order's content names, or its record's. -/
def intentText (j : Json) : String :=
  match (j.get? "intent_id").bind Json.asStr? with
  | some text => text
  | none => (((j.get? "order").bind (·.get? "intent_id")).bind Json.asStr?).getD ""

/-- Eight hex digits of a number, the last one first. -/
def hexDigits (n : Nat) : List Char := (List.range 8).map fun i => Nat.digitChar (n / 16 ^ i % 16)

scoped instance digests : Externals where
  sha256Hex := fun j => String.ofList (hexDigits (Sample.weight j) ++ (intentText j).toList)
  uuid5 := fun name => ⟨name⟩
  uuid5Dns := fun name => ⟨name⟩
  saltedDigest := fun salt secret => salt ++ secret
  newYorkOffset := fun _ => hours (-4)
  newYorkToUtc := fun wall => wall + hours 4

theorem intentText_of_digest {a b : Json} (h : digestOf a = digestOf b) :
    intentText a = intentText b := by
  have hlist := String.ofList_inj.mp h
  have htext := (List.append_inj hlist (by simp [hexDigits])).2
  exact String.toList_inj.mp htext

theorem uuid_of_text {a b : Uuid} (h : a.text = b.text) : a = b := by
  cases a
  cases b
  cases h
  rfl

theorem tellsApart : TellsApart where
  orders := fun a b h => by
    have htext := intentText_of_digest h
    exact uuid_of_text (by simpa [intentText, ApprovedOrder.dump, Json.uuid, Json.asStr?] using htext)
  records := fun a b x y c d h => by
    have htext := intentText_of_digest h
    exact uuid_of_text (by
      simpa [intentText, DurablePaperBroker.orderPayload, ApprovedOrder.dump, Json.uuid,
        Json.asStr?] using htext)

/-- The market some minutes after noon. -/
def atMinute (n : Int) (now : UtcDatetime) : Observation where
  snapshot := { Sample.seen n with symbolSpecVersion := Sample.spec.specVersion }
  spec := Sample.spec
  incidentStatus := .clear
  now

/-- A process with a new portfolio; the agent is registered. -/
def opening : PaperWorld :=
  { Sample.paperWorld with
    process := .ok ⟨Sample.portfolio.created, ⟨none, none, none⟩, ⟨.running, []⟩, []⟩
    gateway := AgentGateway.empty.run Sample.registering }

/-- A run whose operator cleared the incidents. -/
def orchestrator : Except PyError PaperLite.PaperLiteOrchestrator :=
  PaperLite.PaperLiteOrchestrator.create
    (Sample.paperConfig { Sample.market with expectedSpecVersion := some Sample.spec.specVersion })
    Sample.settings Sample.assignment ⟨"agent"⟩ "secret" "c"
    (some ⟨"operator", "checked", Sample.noon⟩) false

/-- The agent proposes, on the context it was registered with. -/
def proposing : PaperOracle :=
  Sample.deciding "c0" (.proposal
    { Sample.paperProposal "first" with contextHash := Sample.bundle.contentHash })

/-- The agent does not trade, on a context. -/
def abstaining (id contextHash : String) (now : UtcDatetime) : PaperOracle :=
  Sample.deciding id (.noTrade ⟨⟨id⟩, ⟨"agent"⟩, ⟨"assignment"⟩, contextHash, Sample.sweep, now⟩)

/-- An agent's decision has an id that is not in use. -/
def allowed (w : PaperWorld) (c : PaperCall) : Bool :=
  match c with
  | .inr (.transact call) => decide (Unused w call.submission.outcomeId)
  | _ => true

theorem fresh_of_allowed (w : PaperWorld) (c : PaperCall) (h : allowed w c = true)
    (o : PaperOracle) : freshDecisions.call w o c := by
  rintro call rfl
  exact of_decide_eq_true h

/-- A whole call, every statement of which succeeds. -/
def serving (o : PaperLite.PaperLiteOrchestrator) (q : Observation) (oracle : PaperOracle)
    (w : PaperWorld) : Option (PaperWorld × Except PyError PaperLiteOutcome) :=
  Machine.conduct (paperWorker o Sample.portfolio) allowed oracle (o.process q) w

/-- The call reported an outcome of a type, and its decision is the one claimed last. -/
def endsLast (assignmentId : Uuid) (outcomeType : PaperLiteOutcomeType) (w : PaperWorld)
    (outcome : PaperLiteOutcome) : Bool :=
  decide (outcome.outcomeType = outcomeType)
    && outcome.gatewayResult.any fun result =>
      (Table.latest (·.claimedAtUtc) (claimedBy w assignmentId)).any fun row =>
        decide (row.outcomeId = result.outcomeId)

theorem last_of_endsLast {assignmentId : Uuid} {outcomeType : PaperLiteOutcomeType}
    {w : PaperWorld} {outcome : PaperLiteOutcome}
    (h : endsLast assignmentId outcomeType w outcome = true) :
    outcome.outcomeType = outcomeType ∧ ∃ result row, outcome.gatewayResult = some result
      ∧ Table.Latest (·.claimedAtUtc) (claimedBy w assignmentId) row
      ∧ row.outcomeId = result.outcomeId := by
  obtain ⟨htype, hany⟩ := Bool.and_eq_true_iff.mp h
  obtain ⟨result, hresult, hany⟩ := (Option.any_eq_true ..).mp hany
  obtain ⟨row, hrow, hsame⟩ := (Option.any_eq_true ..).mp hany
  exact ⟨of_decide_eq_true htype, result, row, hresult, Table.latest_eq_some.mp hrow,
    of_decide_eq_true hsame⟩

/-- The second of two calls reported an outcome that the dashboard does not show. -/
def hidden (assignmentId : Uuid) (w : PaperWorld) (outcome : PaperLiteOutcome) : Bool :=
  outcome.gatewayResult.isSome
    && match lastDecision Sample.portfolio w assignmentId with
      | .ok (some report) => decide (report.platformOutcome ≠ outcome.outcomeType.value)
      | _ => true

/-- A call returned, and its outcome passes a test. -/
def ended (test : PaperWorld → PaperLiteOutcome → Bool)
    (e : PaperWorld × Except PyError PaperLiteOutcome) : Bool :=
  match e.2 with
  | .ok outcome => test e.1 outcome
  | .error _ => false

theorem exists_of_ended {test : PaperWorld → PaperLiteOutcome → Bool}
    {e : Option (PaperWorld × Except PyError PaperLiteOutcome)} (h : e.any (ended test) = true) :
    ∃ w outcome, e = some (w, .ok outcome) ∧ test w outcome = true := by
  obtain ⟨⟨w, r⟩, rfl, h⟩ := (Option.any_eq_true ..).mp h
  cases r with
  | ok outcome => exact ⟨w, outcome, rfl, h⟩
  | error e => cases h

theorem exists_orchestrator {test : PaperLite.PaperLiteOrchestrator → Bool}
    (h : Desk.orchestrator.toOption.any test = true) :
    ∃ o, Desk.orchestrator = .ok o ∧ test o = true := by
  obtain ⟨o, ho, h⟩ := (Option.any_eq_true ..).mp h
  cases hall : Desk.orchestrator with
  | ok o' =>
      rw [hall] at ho
      cases ho
      exact ⟨o, rfl, h⟩
  | error e =>
      rw [hall] at ho
      cases ho

theorem fresh_opening : Fresh Sample.portfolio (Machine.idle opening) :=
  ⟨rfl, rfl, rfl, _, rfl, rfl⟩

/-- Two calls in which the agent does not trade; the second has a clock that is behind, and names
no context. -/
def servingTwice (o : PaperLite.PaperLiteOrchestrator) : Bool :=
  (Machine.conduct (paperWorker o Sample.portfolio) allowed
      (abstaining "n1" Sample.bundle.contentHash Sample.noon)
      (o.perform (.process (atMinute 0 (Sample.noon + minutes 4)))) opening).any fun first =>
    (serving o (atMinute 1 (Sample.noon + minutes 3)) (abstaining "n2" "other" Sample.noon)
      first.1).any (ended (hidden o.assignment.assignmentId))

end Desk

open Desk in
/-- A proposal is filled, and the dashboard shows that it was. -/
theorem dashboard_tells_fill : ∃ o w' outcome report, Desk.orchestrator = .ok o
    ∧ Machine.Ends (paperWorker o Sample.portfolio) freshDecisions opening
        (o.process (atMinute 0 Sample.noon)) w' (.ok outcome)
    ∧ outcome.outcomeType = .paperFilled
    ∧ lastDecision Sample.portfolio w' o.assignment.assignmentId = .ok (some report)
    ∧ report.platformOutcome = outcome.outcomeType.value := by
  have hrun : (Desk.orchestrator.toOption.any fun o =>
      (serving o (atMinute 0 Sample.noon) proposing opening).any
        (ended (endsLast o.assignment.assignmentId .paperFilled))) = true := by decide +kernel
  obtain ⟨o, ho, hrun⟩ := exists_orchestrator hrun
  obtain ⟨w', outcome, hserving, hends⟩ := exists_of_ended hrun
  obtain ⟨htype, result, row, hresult, hlatest, hrow⟩ := last_of_endsLast hends
  have hrun : Machine.Ends (paperWorker o Sample.portfolio) freshDecisions opening
      (o.process (atMinute 0 Sample.noon)) w' (.ok outcome) :=
    .of_conduct (fun w c h => fresh_of_allowed w c h _) hserving
  obtain ⟨report, hreport, hshows⟩ :=
    (dashboard_tells_outcome tellsApart fresh_opening .init hrun hresult).1 _ row hlatest hrow
  exact ⟨o, w', outcome, report, ho, hrun, htype, hreport, hshows⟩

open Desk in
/-- The clock of the second of two calls is behind: the dashboard goes on showing the first. -/
theorem dashboard_hides_earlier_call :
    ¬ ∀ (_ : Externals) (self : PaperLite.PaperLiteOrchestrator) (p : PaperPortfolio)
        (s₀ s : PaperConfig) (q : Observation) (w' : PaperWorld) (outcome : PaperLiteOutcome),
      TellsApart → Fresh p s₀ →
      Machine.Reach (paperWorker self p) freshDecisions.guard s₀ s →
      Machine.Ends (paperWorker self p) freshDecisions s.world (self.process q) w' (.ok outcome) →
      outcome.gatewayResult ≠ none →
      ∃ report, lastDecision p w' self.assignment.assignmentId = .ok (some report)
        ∧ report.platformOutcome = outcome.outcomeType.value := by
  intro hclaim
  have hrun : Desk.orchestrator.toOption.any servingTwice = true := by decide +kernel
  obtain ⟨o, -, hrun⟩ := exists_orchestrator hrun
  obtain ⟨⟨w₁, r⟩, hfirst, hsecond⟩ := (Option.any_eq_true ..).mp hrun
  obtain ⟨w', outcome, hserving, hhidden⟩ := exists_of_ended hsecond
  let started : PaperConfig := Machine.set (Machine.idle opening) ()
    (some ⟨.process (atMinute 0 (Sample.noon + minutes 4)), [],
      o.perform (.process (atMinute 0 (Sample.noon + minutes 4)))⟩)
  have hstart : Machine.Reach (paperWorker o Sample.portfolio) freshDecisions.guard
      (Machine.idle opening) started :=
    .tail .init trivial (m := .start () (.process (atMinute 0 (Sample.noon + minutes 4)))) rfl
  obtain ⟨s, hreach, hworld⟩ := Machine.Reach.of_conduct (E := freshDecisions) (s := started)
    (fun w c h => fresh_of_allowed w c h _) rfl hfirst
  subst hworld
  obtain ⟨hsome, hhidden⟩ := Bool.and_eq_true_iff.mp hhidden
  have hgateway : outcome.gatewayResult ≠ none := by
    intro hnone
    rw [hnone] at hsome
    cases hsome
  obtain ⟨report, hreport, hshows⟩ := hclaim digests o Sample.portfolio _ s _ w' outcome tellsApart
    fresh_opening (hstart.trans hreach) (.of_conduct (fun w c h => fresh_of_allowed w c h _) hserving)
    hgateway
  rw [hreport] at hhidden
  exact of_decide_eq_true hhidden hshows

end Crumblr
