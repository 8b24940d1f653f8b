import Crumblr.Proof.Scene
import Crumblr.Proof.Observed

/-!
# What a pass has behind a commitment

Which events each part of a pass records; and what a pass has done by the time it
passes FINAL risk or commits to a submission: it has claimed the request of a capsule
of its own market, counted the commitments of the last hour and found room, and last
saw the switch of its process running.
-/

namespace Crumblr

open ExecutionOrchestrator

/-! ## Which events are recorded -/

/-- Of the events of requests, the call records these types only. -/
def Records (ts : List ExecutionEventType) : Call → Prop
  | .append e => e.eventType ∈ ts
  | .consumeAndStart .. => .submissionStarted ∈ ts
  | _ => True

variable {α : Type} {ts ts' : List ExecutionEventType} {topics : List Topic}

theorem Records.mono (h : ∀ t ∈ ts, t ∈ ts') (c : Call) (hc : Records ts c) : Records ts' c := by
  cases c <;> first | exact h _ hc | trivial

/-- What is about no request's history records nothing. -/
theorem records_of_about {p : Pass α} (hp : Only (About topics) p)
    (h : ∀ t ∈ topics, t ≠ .recording) : Only (Records ts) p := by
  refine Only.mono (fun c hc => ?_) hp
  have ht := h _ hc.mem
  cases c <;> trivial

section

variable {orderRequestId : Uuid} {eventType : ExecutionEventType} {now : UtcDatetime}
  {reasonCodes : List ReasonCode} {detail : Option String} {payload : Option Json}

theorem records_append (h : eventType ∈ ts) :
    Only (Records ts) (append orderRequestId eventType now reasonCodes detail payload) :=
  Only.bind (only_ask h) fun _ => trivial

theorem records_refuse {capsule : DecisionCapsule} (h : eventType ∈ ts) :
    Only (Records ts)
      (refuse orderRequestId capsule eventType reasonCodes now detail payload) :=
  Only.bind (records_append h) fun _ => trivial

end

theorem records_trip (reasonCodes : List ReasonCode) (trippedBy : String) (now : UtcDatetime)
    (detail : Option String) : Only (Records ts) (tripUnlessHalted reasonCodes trippedBy now detail) :=
  records_of_about (only_tripUnlessHalted ..) (by decide)

/-- What a broker response is recorded as. -/
def brokerOutcomes : List ExecutionEventType := [.filled, .rejected, .submitted]

theorem normalizeExecutionResult_outcome {result : ExecutionResult} {t : ExecutionEventType}
    {payload : Json} (h : normalizeExecutionResult result = .ok (t, payload)) :
    t ∈ brokerOutcomes := by
  unfold normalizeExecutionResult at h
  split at h <;> cases h <;> decide

theorem records_sendOrder (p : Prepared) : Only (Records brokerOutcomes) (sendOrder p) := by
  refine Only.bind (Only.rescue (Only.bind (only_ask trivial) fun _ => trivial) fun e => ?_)
    fun result => ?_
  · split <;> trivial
  · split
    · trivial
    refine only_bind_lift fun event hevent => ?_
    obtain ⟨t, payload⟩ := event
    exact Only.bind (only_ask trivial) fun _ =>
      Only.bind (records_append (normalizeExecutionResult_outcome hevent)) fun _ => trivial

/-! ## What a pass has last seen -/

/-- The switch as a pass last saw it; its own halts undo the sight. -/
def switchSeen : Past → Option KillSwitch
  | [] => none
  | ⟨.killSwitch, .ok k⟩ :: _ => some k
  | ⟨.trip _, .ok _⟩ :: _ => none
  | _ :: past => switchSeen past

/-- The last count of events a pass made. -/
structure Tally where
  eventType : ExecutionEventType
  since : UtcDatetime
  environment : Environment
  canonicalSymbol : String
  count : Nat

def tallied : Past → Option Tally
  | [] => none
  | ⟨.countEventsSince eventType since environment canonicalSymbol, .ok count⟩ :: _ =>
      some ⟨eventType, since, environment, canonicalSymbol, count⟩
  | _ :: past => tallied past

/-- The call leaves both as they were. -/
def LeavesSights : Call → Prop
  | .killSwitch | .trip _ | .countEventsSince .. => False
  | _ => True

theorem switchSeen_cons {c : Call} (h : LeavesSights c) (a : Except PyError c.Answer)
    (past : Past) : switchSeen (⟨c, a⟩ :: past) = switchSeen past := by
  cases c <;> first | rfl | exact h.elim

/-- The pass last saw the switch running. -/
def Armed (past : Past) : Prop := ∃ k, switchSeen past = some k ∧ k.isHalted = false

/-- The pass last counted the market's commitments of the hour before, and found room. -/
def Counted (self : ExecutionOrchestrator) (now : UtcDatetime) (past : Past) : Prop :=
  ∃ count, tallied past = some ⟨.submissionStarted, now - hours 1, self.config.environment,
      self.canonicalSymbol, count⟩
    ∧ count < self.riskConfig.maxOrdersPerHour

/-- The pass claimed the request, for a capsule of its own market. -/
def ClaimedHere (self : ExecutionOrchestrator) (orderRequestId : Uuid) (past : Past) : Prop :=
  ∃ row capsules capsule, ⟨.claim row, .ok true⟩ ∈ past ∧ row.orderRequestId = orderRequestId
    ∧ ⟨.readAll self.config.environment self.canonicalSymbol, .ok capsules⟩ ∈ past
    ∧ capsule ∈ capsules ∧ row.capsuleId = capsule.capsuleId

theorem ClaimedHere.mono {self : ExecutionOrchestrator} {orderRequestId : Uuid} {past past' : Past}
    (h : ClaimedHere self orderRequestId past) (hs : past <:+ past') :
    ClaimedHere self orderRequestId past' := by
  obtain ⟨row, capsules, capsule, hclaim, hid, hread, hmem, hcapsule⟩ := h
  exact ⟨row, capsules, capsule, hs.subset hclaim, hid, hs.subset hread, hmem, hcapsule⟩

/-! ## The discipline -/

/-- FINAL risk passes on a running switch; a commitment has a running switch, a count with
room, and a claim in its market behind it. -/
def commitDiscipline (self : ExecutionOrchestrator) : Discipline Call Call.Answer PyError where
  allows := fun past c => match c with
    | .append e =>
        (e.eventType = .finalRiskPassed → Armed past)
          ∧ (e.eventType = .submissionStarted → Armed past ∧ Counted self e.occurredAtUtc past
            ∧ ClaimedHere self e.orderRequestId past)
    | .consumeAndStart _ orderRequestId now _ =>
        Armed past ∧ Counted self now past ∧ ClaimedHere self orderRequestId past
    | _ => True
  answers := mayAnswer

/-! ## The parts of a pass -/

variable [Externals]

theorem records_observe (self : ExecutionOrchestrator) (environment : Environment) :
    Only (Records ts) (self.observe environment) :=
  records_of_about (only_observe ..) (by decide)

theorem records_reconcile (expectation : ExpectedState) (now : UtcDatetime) :
    Only (Records ts) (reconcile expectation now) :=
  records_of_about (only_reconcile ..) (by decide)

theorem records_recoverAmbiguousSubmission (orderRequestId : Uuid) (capsule : DecisionCapsule) :
    Only (Records [.ambiguousOutcomeResolved])
      (recoverAmbiguousSubmission orderRequestId capsule) := by
  have hresolve : ∀ now payload, Only (Records [.ambiguousOutcomeResolved])
      (resolveAmbiguous orderRequestId capsule now payload) :=
    fun _ _ => Only.bind (records_append (by decide)) fun _ => trivial
  refine Only.bind (only_ask trivial) fun events => ?_
  split
  · trivial
  refine Only.bind (only_ask trivial) fun positions => Only.bind (only_ask trivial) fun now => ?_
  dsimp only
  split
  · exact Only.bind (hresolve ..) fun _ => Only.bind (records_trip ..) fun _ => trivial
  split
  · refine Only.bind (only_ask trivial) fun orders => ?_
    split
    · exact Only.bind (hresolve ..) fun _ => Only.bind (records_trip ..) fun _ => trivial
    split
    · trivial
    · exact Only.bind (hresolve ..) fun _ => trivial
  · exact Only.bind (hresolve ..) fun _ => trivial

omit [Externals] in
theorem records_reconcileRequest (exposure : DerivedExposure) (positions : List PositionState)
    (status : ReconciliationStatus) (now : UtcDatetime)
    (history : Uuid × List ExecutionEventRecord) :
    Only (Records [.reconciled]) (reconcileRequest exposure positions status now history) := by
  obtain ⟨r, events⟩ := history
  unfold reconcileRequest
  dsimp only
  split
  · trivial
  · exact Only.bind only_lift fun _ => Only.bind only_lift fun _ =>
      Only.bind (records_of_about (only_tripOnIssues ..) (by decide)) fun _ =>
      Only.bind (records_append (by decide)) fun _ => trivial

theorem records_reconcileOnce (self : ExecutionOrchestrator) :
    Only (Records [.reconciled]) self.reconcileOnce := by
  refine Only.bind (only_ask trivial) fun candidates => ?_
  split
  · trivial
  refine Only.bind (Only.collect fun _ _ => Only.bind (only_ask trivial) fun _ => trivial)
    fun histories => ?_
  split
  · trivial
  refine Only.bind (only_ask trivial) fun flattens => Only.bind only_lift fun exposure =>
    Only.bind (only_ask trivial) fun now => Only.bind (records_observe ..) fun observation =>
    Only.bind (records_reconcile ..) fun result => ?_
  split
  · trivial
  · exact Only.collect fun history _ => records_reconcileRequest ..

theorem records_resolvePendingOnce (self : ExecutionOrchestrator) :
    Only (Records [.filled, .ambiguousOutcomeResolved]) self.resolvePendingOnce := by
  refine Only.bind (only_ask trivial) fun ids => ?_
  split
  · trivial
  refine Only.bind (only_ask trivial) fun now => Only.bind (only_ask trivial) fun positions =>
    Only.bind (only_ask trivial) fun orders => Only.collect fun r _ => ?_
  refine Only.bind (only_ask trivial) fun events => ?_
  split
  · trivial
  split
  · trivial
  refine Only.bind only_lift fun ticket => ?_
  split
  · trivial
  split
  · trivial
  split
  · trivial
  · exact Only.bind (records_append (by decide)) fun _ => trivial
  · exact Only.bind (records_append (by decide)) fun _ =>
      Only.bind (records_trip ..) fun _ => trivial

theorem records_flattenOnce (self : ExecutionOrchestrator) : Only (Records ts) self.flattenOnce :=
  records_of_about (ofFlatten_flattenOnce self) (by decide)

/-! ## Walking the chain -/

section

variable {self : ExecutionOrchestrator} {past past' : Past} {now : UtcDatetime} {β : Type}

/-- The program commits with everything behind it. -/
abbrev Commits (self : ExecutionOrchestrator) (past : Past) (p : Pass α) : Prop :=
  Leads (commitDiscipline self).protocol past p fun _ _ => True

omit [Externals] in
/-- What neither passes FINAL risk nor commits is free. -/
theorem commitDiscipline_lets {c : Call} (hfinal : .finalRiskPassed ∉ ts)
    (hstart : .submissionStarted ∉ ts) (hc : Records ts c) :
    (commitDiscipline self).allows past c := by
  cases c with
  | append e =>
      refine ⟨fun h => ?_, fun h => ?_⟩
      · have hmem : e.eventType ∈ ts := hc
        rw [h] at hmem
        exact absurd hmem hfinal
      · have hmem : e.eventType ∈ ts := hc
        rw [h] at hmem
        exact absurd hmem hstart
  | consumeAndStart permitId orderRequestId now payload => exact absurd hc hstart
  | _ => trivial

omit [Externals] in
theorem commits_nothing {p : Pass α} (hp : Only (Records ts) p)
    (hfinal : .finalRiskPassed ∉ ts) (hstart : .submissionStarted ∉ ts) : Commits self past p :=
  Leads.frame hp (fun _ _ hc => commitDiscipline_lets hfinal hstart hc)
    (fun _ _ _ _ _ => trivial) trivial

omit [Externals] in
theorem commits_ask {c : Call} {f : c.Answer → Pass β} (hc : Records [] c)
    (hf : ∀ a, Commits self (⟨c, .ok a⟩ :: past) (f a)) :
    Commits self past (Prog.bind (ask c) f) :=
  Leads.next (commitDiscipline_lets (by decide) (by decide) hc) fun a _ => hf a

omit [Externals] in
/-- A part that records nothing, and then the rest. -/
theorem commits_after {p : Pass α} {f : α → Pass β} (hp : Only (Records []) p)
    (hf : ∀ past' a, past <:+ past' → Commits self past' (f a)) :
    Commits self past (Prog.bind p f) :=
  Leads.seq (Leads.suffix (commits_nothing hp (by decide) (by decide)))
    fun past' a h => hf past' a h.1

theorem evaluateSubmissionGate_running {context : SubmissionGateContext}
    (h : (evaluateSubmissionGate context).isOpen = true) : context.killSwitch.isHalted = false :=
  GateDecision.ofLegs_isOpen.mp h (context.killSwitch.isHalted, .systemHalted) (by simp)

/-- An open gate was judged by a running switch. -/
theorem commits_evaluateSubmissionReadiness (p : Prepared) :
    Leads (commitDiscipline self).protocol past (self.evaluateSubmissionReadiness p)
      fun past' decision => past <:+ past' ∧ tallied past' = tallied past
        ∧ (decision.isOpen = true → Armed past') := by
  refine Leads.next trivial fun killSwitch _ => ?_
  dsimp only
  have hgate : Records [.submissionGatePassed, .submissionGateBlocked]
      (.append ⟨p.orderRequestId, if (evaluateSubmissionGate
        (self.submissionGateContext p killSwitch)).isOpen then .submissionGatePassed
        else .submissionGateBlocked, p.finalNow, (evaluateSubmissionGate
        (self.submissionGateContext p killSwitch)).reasonCodes, none, some (submissionGatePayload
        (self.submissionGateContext p killSwitch))⟩) := by
    unfold Records
    dsimp only
    split <;> decide
  refine Leads.seq (leads_append (commitDiscipline_lets (by decide) (by decide) hgate)) ?_
  rintro _ _ ⟨_, rfl⟩
  refine Leads.ret.mpr ⟨?_, rfl, fun hopen => ?_⟩
  · exact (List.suffix_cons ..).trans (List.suffix_cons ..)
  · exact ⟨killSwitch, rfl, evaluateSubmissionGate_running hopen⟩

theorem commits_attemptRealEntrySubmission {canary : CanaryEntrySubmissionConfig} {p : Prepared}
    (harmed : Armed past) (hcounted : Counted self p.finalNow past)
    (hclaimed : ClaimedHere self p.orderRequestId past) :
    Commits self past (self.attemptRealEntrySubmission canary p) := by
  have hblocked : ∀ past reasons, Commits self past (refuse p.orderRequestId p.capsule
      .canaryPermitBlocked reasons p.finalNow none none) :=
    fun _ _ => commits_nothing (records_refuse (List.mem_singleton_self _)) (by decide) (by decide)
  unfold attemptRealEntrySubmission
  split
  · exact hblocked ..
  refine commits_ask trivial fun permit => leads_lift fun mismatches _ => ?_
  split
  · exact hblocked ..
  refine leads_lift fun permit _ => ?_
  refine Leads.next ⟨harmed, hcounted, hclaimed.mono (List.suffix_cons ..)⟩ fun outcome _ => ?_
  split
  · exact commits_nothing (records_sendOrder p) (by decide) (by decide)
  · exact hblocked ..

theorem commits_checkAndSubmit {p : Prepared} (hcounted : Counted self p.finalNow past)
    (hclaimed : ClaimedHere self p.orderRequestId past) :
    Commits self past (self.checkAndSubmit p) := by
  refine commits_ask trivial fun check => ?_
  dsimp only
  have hchecked : Records [.orderChecked, .orderCheckRejected] (.append ⟨p.orderRequestId,
      if check.accepted then .orderChecked else .orderCheckRejected, p.finalNow, [], none,
      some check.dump⟩) := by
    unfold Records
    dsimp only
    split <;> decide
  refine Leads.seq (leads_append (commitDiscipline_lets (by decide) (by decide) hchecked)) ?_
  rintro past₁ _ ⟨_, rfl⟩
  cases check.accepted with
  | false => exact Leads.ret.mpr trivial
  | true =>
      refine Leads.seq (commits_evaluateSubmissionReadiness p) ?_
      rintro past₂ decision ⟨hsuffix, htally, harmed⟩
      cases hdec : decision.isOpen with
      | false => exact Leads.ret.mpr trivial
      | true =>
          have hcounted₂ : Counted self p.finalNow past₂ := by
            obtain ⟨count, hcount, hroom⟩ := hcounted
            exact ⟨count, htally.trans hcount, hroom⟩
          have hclaimed₂ := (hclaimed.mono
            ((List.suffix_cons ..).trans (List.suffix_cons ..))).mono hsuffix
          simp only [Bool.not_true, Bool.false_eq_true, if_false]
          split
          · refine Leads.seq (leads_append ⟨fun h => ?_, fun _ =>
              ⟨harmed hdec, hcounted₂, hclaimed₂⟩⟩) fun _ _ _ => Leads.ret.mpr trivial
            cases h
          · exact commits_attemptRealEntrySubmission (harmed hdec) hcounted₂ hclaimed₂

/-- A refusal does not pass. -/
theorem refuseRisk_verdict {intent : TradeIntent} {reasons : List ReasonCode}
    {context : RiskContext} {stage : String} {d : RiskDecision}
    (h : refuseRisk intent reasons context now stage = .ok d) : d.verdict ≠ .pass := by
  unfold refuseRisk RiskDecision.createRefusal at h
  dsimp only at h
  split at h
  · rename_i hrefusal
    cases h
    exact hrefusal.1
  · cases h

/-- **A PASS fails no leg.** -/
theorem evaluate_pass_legs {intent : TradeIntent} {snapshot : MarketSnapshot}
    {spec : InstrumentSpec} {portfolio : PortfolioState} {context : RiskContext}
    {killSwitch : KillSwitch} {d : RiskDecision}
    (h : evaluate intent snapshot spec portfolio context killSwitch now = .ok d)
    (hpass : d.verdict = .pass) :
    (∀ leg ∈ entryLegs intent snapshot portfolio context killSwitch now, leg.1 = false)
      ∧ ∀ leg ∈ exposureLegs intent snapshot portfolio context, leg.1 = false := by
  obtain ⟨stop, -, h⟩ := bind_ok h
  obtain ⟨points, -, h⟩ := bind_ok h
  dsimp only at h
  split at h
  · exact absurd hpass (refuseRisk_verdict h)
  · rename_i hnone
    have hlegs := failing_eq_nil.mp (Decidable.not_not.mp hnone)
    exact ⟨fun leg hleg => hlegs leg (by simp [hleg]), fun leg hleg => hlegs leg (by simp [hleg])⟩

/-- **A PASS needs a running switch and room for one more order.** -/
theorem evaluate_pass {intent : TradeIntent} {snapshot : MarketSnapshot} {spec : InstrumentSpec}
    {portfolio : PortfolioState} {context : RiskContext} {killSwitch : KillSwitch}
    {d : RiskDecision}
    (h : evaluate intent snapshot spec portfolio context killSwitch now = .ok d)
    (hpass : d.verdict = .pass) :
    killSwitch.isHalted = false ∧ portfolio.ordersInLastHour < context.risk.maxOrdersPerHour := by
  obtain ⟨hentry, hexposure⟩ := evaluate_pass_legs h hpass
  have hhalted := hentry (killSwitch.isHalted, .systemHalted) (by simp [entryLegs])
  have hroom := hexposure (decide (context.risk.maxOrdersPerHour ≤ portfolio.ordersInLastHour),
    .orderFrequencyLimit) (by simp [exposureLegs])
  exact ⟨hhalted, by simpa using hroom⟩

/-- **A PASS needs a decision that has not been seen.** -/
theorem evaluate_pass_unseen {intent : TradeIntent} {snapshot : MarketSnapshot}
    {spec : InstrumentSpec} {portfolio : PortfolioState} {context : RiskContext}
    {killSwitch : KillSwitch} {d : RiskDecision}
    (h : evaluate intent snapshot spec portfolio context killSwitch now = .ok d)
    (hpass : d.verdict = .pass) : intent.decisionHash ∉ portfolio.seenDecisionHashes := by
  have hseen := (evaluate_pass_legs h hpass).1
    (decide (intent.decisionHash ∈ portfolio.seenDecisionHashes), .duplicateIntent)
    (by simp [entryLegs])
  simpa using hseen

theorem finalRiskDecision_pass {q : Priced} {count : Nat} {killSwitch : KillSwitch}
    {d : RiskDecision} (h : self.finalRiskDecision q count killSwitch = .ok d)
    (hpass : d.verdict = .pass) :
    killSwitch.isHalted = false ∧ count < self.riskConfig.maxOrdersPerHour := by
  obtain ⟨openRisk, -, h⟩ := bind_ok h
  obtain ⟨volume, -, h⟩ := bind_ok h
  obtain ⟨stop, -, h⟩ := bind_ok h
  obtain ⟨fresh, hfresh, h⟩ := bind_ok h
  obtain ⟨points, -, h⟩ := bind_ok h
  dsimp only at h
  split at h
  · exact absurd hpass (refuseRisk_verdict h)
  · rename_i hnone
    simp only [not_or, ne_eq, Decidable.not_not] at hnone
    exact evaluate_pass hfresh hnone.1

theorem commits_finalRisk {q : Priced} (hclaimed : ClaimedHere self q.orderRequestId past) :
    Commits self past (self.finalRisk q) := by
  refine commits_ask trivial fun count => ?_
  refine Leads.next trivial fun killSwitch _ => leads_lift fun finalRisk hfinal => ?_
  split
  · exact commits_nothing (records_refuse (List.mem_singleton_self _)) (by decide) (by decide)
  rename_i hverdict
  obtain ⟨hrunning, hroom⟩ := finalRiskDecision_pass hfinal (Decidable.not_not.mp hverdict)
  refine leads_lift fun volume _ => leads_lift fun stop _ => leads_lift fun order _ => ?_
  refine Leads.seq (leads_append ⟨fun _ => ⟨killSwitch, rfl, hrunning⟩, fun h => ?_⟩) ?_
  · cases h
  rintro past₁ _ ⟨_, rfl⟩
  refine commits_checkAndSubmit ⟨count, rfl, hroom⟩ (hclaimed.mono ?_)
  exact (List.suffix_cons ..).trans ((List.suffix_cons ..).trans (List.suffix_cons ..))

theorem commits_priceAndRisk {capsule : DecisionCapsule} {chain : ApprovalChain}
    {orderRequestId : Uuid} {observation : BrokerStateObservation} {account : AccountState}
    (hclaimed : ClaimedHere self orderRequestId past) :
    Commits self past
      (self.priceAndRisk capsule chain orderRequestId observation account now) := by
  have hblocked : ∀ past reasons now detail, Commits self past (refuse orderRequestId capsule
      .finalRiskBlocked reasons now detail none) :=
    fun _ _ _ _ =>
      commits_nothing (records_refuse (List.mem_singleton_self _)) (by decide) (by decide)
  refine commits_ask trivial fun spec => ?_
  split
  · exact hblocked ..
  refine commits_ask trivial fun ticks => ?_
  split
  · exact hblocked ..
  refine leads_lift fun snapshot _ => commits_ask trivial fun finalNow => ?_
  refine commits_after (Only.rescue (Only.bind
    (records_of_about (only_recoverRiskSession ..) (by decide)) fun _ => trivial)
    fun _ => trivial) fun past₁ recovered hsuffix => ?_
  split
  · exact commits_after (records_trip ..) fun _ _ _ => hblocked ..
  split
  · exact commits_after (records_trip ..) fun _ _ _ => hblocked ..
  · refine commits_finalRisk (hclaimed.mono (List.IsSuffix.trans ?_ hsuffix))
    exact (List.suffix_cons ..).trans ((List.suffix_cons ..).trans (List.suffix_cons ..))

theorem commits_processClaimed {capsule : DecisionCapsule} {chain : ApprovalChain}
    {orderRequestId : Uuid} (hclaimed : ClaimedHere self orderRequestId past) :
    Commits self past (self.processClaimed capsule chain orderRequestId now) := by
  refine Leads.seq (leads_append ⟨nofun, nofun⟩) ?_
  rintro past₁ _ ⟨_, rfl⟩
  dsimp only
  split
  · exact commits_nothing (records_refuse (List.mem_singleton_self _)) (by decide) (by decide)
  refine commits_ask trivial fun killSwitch => ?_
  split
  · exact commits_nothing (records_refuse (List.mem_singleton_self _)) (by decide) (by decide)
  refine commits_after (records_observe ..) fun past₂ observation hsuffix₂ =>
    leads_lift fun account _ => commits_after (records_reconcile ..) fun past₃ result hsuffix₃ => ?_
  split
  · exact commits_nothing (records_refuse (List.mem_singleton_self _)) (by decide) (by decide)
  · refine commits_priceAndRisk (hclaimed.mono (List.IsSuffix.trans ?_ (hsuffix₂.trans hsuffix₃)))
    exact (List.suffix_cons ..).trans (List.suffix_cons ..)

theorem commits_process {capsule : DecisionCapsule} {capsules : List DecisionCapsule}
    (hread : ⟨.readAll self.config.environment self.canonicalSymbol, .ok capsules⟩ ∈ past)
    (hmem : capsule ∈ capsules) : Commits self past (self.process capsule now) := by
  refine leads_lift fun chain _ => ?_
  split
  · exact Leads.raise.mpr trivial
  refine commits_ask trivial fun claimed => ?_
  cases claimed with
  | true =>
      refine Leads.seq (commits_processClaimed ?_) fun _ _ _ => Leads.ret.mpr trivial
      exact ⟨_, capsules, capsule, List.mem_cons_self .., rfl, List.mem_cons_of_mem _ hread, hmem,
        rfl⟩
  | false =>
      exact commits_nothing (records_recoverAmbiguousSubmission ..) (by decide) (by decide)

theorem commits_runOnce : Commits self past self.runOnce := by
  refine commits_after (records_flattenOnce self) fun past₁ _ _ =>
    commits_ask trivial fun now => commits_ask trivial fun capsules => ?_
  -- every capsule still to come was read
  have hloop := Leads.collect (P := (commitDiscipline self).protocol)
    (f := fun capsule => self.process capsule now)
    (I := fun rest _ past' => (∀ c ∈ rest, c ∈ capsules)
      ∧ ⟨.readAll self.config.environment self.canonicalSymbol, .ok capsules⟩ ∈ past')
    ?_ (capsules.filter isIntentTimeApproved) []
    (s := ⟨.readAll self.config.environment self.canonicalSymbol, .ok capsules⟩
      :: ⟨.clock, .ok now⟩ :: past₁)
    ⟨fun c hc => (List.mem_filter.mp hc).1, List.mem_cons_self ..⟩
  · refine Leads.seq hloop fun past₂ outcomes _ => ?_
    exact Leads.seq (commits_nothing (records_reconcileOnce self) (by decide) (by decide))
      fun _ _ _ => Leads.ret.mpr trivial
  · rintro capsule rest _ past' ⟨hrest, hread⟩
    refine Leads.mono (Leads.suffix (commits_process hread
      (hrest capsule (List.mem_cons_self ..)))) ?_
    rintro past'' _ ⟨hsuffix, -⟩
    exact ⟨fun c hc => hrest c (List.mem_cons_of_mem _ hc), hsuffix.subset hread⟩

/-- **Every pass keeps to the discipline.** -/
theorem program_commits (q : Task) :
    Conforms (commitDiscipline q.orchestrator).protocol [] q.program fun _ _ => True := by
  have hcommits : Commits q.orchestrator [] q.program := by
    unfold Task.program
    split
    · exact Leads.seq commits_runOnce fun _ _ _ => Leads.ret.mpr trivial
    · exact Leads.seq (commits_nothing (records_resolvePendingOnce _) (by decide) (by decide))
        fun _ _ _ => Leads.ret.mpr trivial
    · exact Leads.seq (commits_nothing (records_reconcileOnce _) (by decide) (by decide))
        fun _ _ _ => Leads.ret.mpr trivial
  exact Conforms.mono (fun _ _ _ => trivial) hcommits

end

end Crumblr
