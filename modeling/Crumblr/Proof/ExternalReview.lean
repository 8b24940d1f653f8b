import Crumblr.Proof.Authorization
import Crumblr.Proof.GatewayRate
import Crumblr.Proof.OrderFrequency
import Crumblr.Proof.RiskPaths
import Crumblr.Scripts.AgentCanaryExecution

/-!
# What a reviewing agent's answer is worth

The answer is turned into a verdict and handed back beside the capsule, which carries only what
risk and the policy gate said. A reviewer is asked about nothing but what both of them passed.
So whatever it answers, the capsule passes the test by which an execution worker picks what to
send, and the driver, which takes only the capsule's id, starts a worker for it.

What does keep an order back is the canary configuration. A pass sends only for the one capsule its
configuration names, and an order's request belongs to the capsule it was claimed for. So a review
binds in the runs in which nobody is started with a configuration that names a capsule its
reviewer did not approve.
-/

namespace Crumblr

/-- An evaluation, answered to its end. -/
abbrev AgentDecisionPath.answered [Externals] (self : AgentDecisionPath) (intent : TradeIntent)
    (answer : Trace AgentCall AgentCall.Answer PyError → (c : AgentCall) →
      Except PyError c.Answer) :
    Trace AgentCall AgentCall.Answer PyError × Except PyError AgentDecisionPathResult :=
  (self.evaluateAgentTradeIntent (some intent)).answered answer []

/-- The worker's canary configuration names the capsule. -/
def ExecutionOrchestrator.Names (self : ExecutionOrchestrator) (capsuleId : Uuid) : Prop :=
  ∃ canary, self.entrySubmission = some canary ∧ canary.capsuleId = capsuleId

/-- The driver's worker names what its cycle sealed, if the driver has a permit, and nothing else. -/
theorem AgentCanaryExecution.runOrchestrator_names {driver : AgentCanaryExecution}
    {sealedCapsuleId capsuleId : Uuid} {worker : ExecutionOrchestrator}
    (h : driver.runOrchestrator (some sealedCapsuleId) = some worker) :
    worker.Names capsuleId ↔ driver.canaryPermit ≠ none ∧ sealedCapsuleId = capsuleId := by
  unfold runOrchestrator at h
  cases hpermit : driver.canaryPermit with
  | none =>
      rw [hpermit] at h
      obtain rfl := Option.some.inj h
      refine ⟨?_, fun hno => absurd rfl hno.1⟩
      rintro ⟨_, hcanary, _⟩
      cases hcanary
  | some permit =>
      rw [hpermit] at h
      obtain rfl := Option.some.inj h
      constructor
      · rintro ⟨_, hcanary, hid⟩
        obtain rfl := Option.some.inj hcanary
        exact ⟨nofun, hid⟩
      · exact fun hid => ⟨_, rfl, hid.2⟩

namespace ExternalReview

variable [Externals]

/-- Some worker is about to send an order on a request of the capsule. -/
def SendsFor (s : Config Nat Task World Call Call.Answer PyError) (capsuleId : Uuid) : Prop :=
  ∃ i q past order k, s.threads i = some ⟨q, past, .call (.orderSend order) k⟩
    ∧ ∃ row ∈ s.world.db.executionRequests,
      row.orderRequestId = order.orderRequestId ∧ row.capsuleId = capsuleId

/-- A review that does not approve keeps its capsule from being approved and sent. -/
def Binds (s : Config Nat Task World Call Call.Answer PyError) (capsule : DecisionCapsule)
    (outcome : SupervisorReviewOutcome) : Prop :=
  outcome.verdict ≠ .approve →
    ¬ (isIntentTimeApproved capsule = true ∧ SendsFor s capsule.capsuleId)

/-- Only such passes are started. -/
def Starting (P : Task → Prop) : Guard := fun _ m _ => match m with
  | .start _ q => P q
  | _ => True

/-- Nobody is started with a configuration that names the capsule, unless it was approved. -/
def Released (capsuleId : Uuid) (approved : Prop) : Guard :=
  Starting fun q => q.orchestrator.Names capsuleId → approved

/-- **A pass sends for the capsule its configuration names.** An order's request was claimed by the
pass that sends it, for that capsule and no other. -/
theorem sendsFor_named {w : World} {s : Config Nat Task World Call Call.Answer PyError}
    {P : Task → Prop} {capsuleId : Uuid} (hdb : Constrained w.db) (h : ReachUnder (Starting P) w s)
    (hsends : SendsFor s capsuleId) : ∃ q, P q ∧ q.orchestrator.Names capsuleId := by
  obtain ⟨i, q, past, order, k, ht, row, hrow, hid, hcapsule⟩ := hsends
  obtain ⟨hstore, hq⟩ := pass_inStore (P := P) (fun _ _ _ hg => hg) h ht
  obtain ⟨z, now, hproceeded, -⟩ := reachable_allowed
    (D := fun q => entryDiscipline q.orchestrator) program_sends (fun _ => rfl) h ht
  obtain ⟨claimed, hclaim, hclaimed, hclaimedFor⟩ := hproceeded.cleared.claimed
  -- request ids are unique, so the claimed row is the order's
  obtain rfl : claimed = row := (hdb.run h).requests.eq_of_mem (hstore.claims _ hclaim) hrow
    (hclaimed.trans (hproceeded.request.symm.trans hid.symm))
  exact ⟨q, hq, z.canary, hproceeded.canary.1,
    hproceeded.canary.2.symm.trans (hclaimedFor.symm.trans hcapsule)⟩

/-- The reviewer was asked about the decision, and gave this answer. -/
def Heard (self : AgentDecisionPath) (intent : TradeIntent)
    (past : Trace AgentCall AgentCall.Answer PyError) (proposal : TradeProposal)
    (review : Option SupervisorReview) : Prop :=
  self.proposal = some proposal ∧ ∃ riskDecisionId policyGateDecisionId,
    ⟨.review proposal intent riskDecisionId policyGateDecisionId self.now, .ok review⟩ ∈ past

/-- What an evaluation that asked for a review ends with. -/
structure Reviewed (self : AgentDecisionPath) (intent : TradeIntent)
    (past : Trace AgentCall AgentCall.Answer PyError) (result : AgentDecisionPathResult)
    (outcome : SupervisorReviewOutcome) : Prop where
  sealed : ⟨.seal result.capsule, .ok ()⟩ ∈ past
  approved : isIntentTimeApproved result.capsule.toDecisionCapsule = true
  heard : ∃ proposal review, Heard self intent past proposal review
    ∧ outcome = SupervisorReview.evaluateSupervisorReview review proposal.proposalId
        intent.intentId intent.decisionHash self.now

variable {self : AgentDecisionPath} {intent : TradeIntent}
  {past : Trace AgentCall AgentCall.Answer PyError}

/-- An evaluation that ends with a review's outcome is one that asked for it. -/
abbrev Asks (self : AgentDecisionPath) (intent : TradeIntent)
    (past : Trace AgentCall AgentCall.Answer PyError) (p : AgentPass AgentDecisionPathResult) :
    Prop :=
  Leads Discipline.free.protocol past p fun past' result =>
    ∀ outcome, result.externalSupervisorOutcome = some outcome →
      Reviewed self intent past' result outcome

/-- Asking the reviewer, if at all, is asking about what the policy gate approved. -/
theorem leads_askSupervisor {riskDecision : RiskDecision}
    {supervisorDecision : SupervisorDecision} :
    Leads Discipline.free.protocol past
      (self.askSupervisor intent riskDecision supervisorDecision) fun past' review =>
        ∀ outcome record, review = some (outcome, record) →
          supervisorDecision.verdict = .approve ∧ ∃ proposal answer,
            Heard self intent past' proposal answer
            ∧ outcome = SupervisorReview.evaluateSupervisorReview answer proposal.proposalId
                intent.intentId intent.decisionHash self.now := by
  unfold AgentDecisionPath.askSupervisor
  split
  · exact Leads.ret.mpr fun _ _ h => by cases h
  rename_i proposal hproposal
  split
  · rename_i hasked
    refine Leads.next trivial fun answer _ => Leads.ret.mpr ?_
    rintro outcome record heq
    cases heq
    exact ⟨hasked.1, proposal, answer, ⟨hproposal, _, _, List.mem_cons_self ..⟩, rfl⟩
  · exact Leads.ret.mpr fun _ _ h => by cases h

/-- A stage that halts goes on with what comes after it, and so does one that does not. -/
theorem asks_halting {halts : Prop} [Decidable halts] {trip : AgentPass Unit}
    {rest : Unit → AgentPass AgentDecisionPathResult}
    (h : ∀ past' u, Asks self intent past' (rest u)) :
    Asks self intent past (if halts then trip.bind rest else rest ()) := by
  split
  · exact Leads.seq Leads.free fun past₁ u _ => h past₁ u
  · exact h past ()

theorem asks_gateAndReview {portfolio : PortfolioSnapshot} {riskDecision : RiskDecision}
    (hpass : riskDecision.verdict = .pass) :
    Asks self intent past (self.gateAndReview portfolio intent riskDecision) := by
  unfold AgentDecisionPath.gateAndReview
  refine Leads.next trivial fun _ _ => asks_halting fun past₁ _ => ?_
  refine Leads.seq leads_askSupervisor fun past₂ review hreview => ?_
  refine Leads.next trivial fun _ _ => Leads.ret.mpr fun outcome hout => ?_
  obtain ⟨⟨o, record⟩, hsome, heq⟩ := Option.map_eq_some_iff.mp hout
  cases heq
  obtain ⟨happrove, proposal, answer, ⟨hproposal, r, g, hmem⟩, ho⟩ := hreview _ _ hsome
  refine ⟨List.mem_cons_self .., ?_, proposal, answer,
    ⟨hproposal, r, g, List.mem_cons_of_mem _ hmem⟩, ho⟩
  simp [isIntentTimeApproved, AgentDecisionPath.capsuleOf, DecisionCapsule.approvalChain, hpass,
    happrove]

/-- A result without a review says nothing of one. -/
theorem asks_unreviewed {capsule : SealedCapsule} {riskDecision : Option RiskDecision} :
    Asks self intent past (do
      AgentDecisionPath.ask (.seal capsule)
      pure ⟨capsule, riskDecision, none, none, none⟩) :=
  Leads.next trivial fun _ _ => Leads.ret.mpr fun _ h => by cases h

theorem asks_judgeIntent {portfolio : PortfolioSnapshot} :
    Asks self intent past (self.judgeIntent portfolio intent) := by
  unfold AgentDecisionPath.judgeIntent
  refine Leads.next trivial fun _ _ => ?_
  refine Leads.seq Leads.free fun past₁ recovery _ => asks_halting fun past₂ _ => ?_
  refine Leads.bind.mpr (Leads.ofExcept.mpr fun openRisk _ => ?_)
  refine Leads.bind.mpr (Leads.ofExcept.mpr fun context _ => ?_)
  refine Leads.next trivial fun killSwitch _ => ?_
  refine Leads.bind.mpr (Leads.ofExcept.mpr fun riskDecision _ => ?_)
  refine Leads.next trivial fun _ _ => asks_halting fun past₃ _ => ?_
  split
  · exact asks_unreviewed
  · rename_i hpass
    exact asks_gateAndReview (not_not.mp hpass)

theorem asks_evaluateAgentTradeIntent :
    Asks self intent past (self.evaluateAgentTradeIntent (some intent)) := by
  unfold AgentDecisionPath.evaluateAgentTradeIntent
  exact Leads.next trivial fun portfolio _ => asks_judgeIntent

end ExternalReview

open ExternalReview in
/--
**What an external veto binds.** Every evaluation that asked for a review seals a capsule that
passes the approval test, whatever the reviewer said. In every run of any number of workers over
the stores, the review binds in every state if nobody is started with a configuration that names
the capsule unless the reviewer approved. The driver's own worker meets this exactly when the
driver has no permit, or the reviewer approved.
-/
theorem external_review_binds [Externals] {self : AgentDecisionPath} {intent : TradeIntent}
    {answer : Trace AgentCall AgentCall.Answer PyError → (c : AgentCall) →
      Except PyError c.Answer}
    {past : Trace AgentCall AgentCall.Answer PyError} {result : AgentDecisionPathResult}
    {outcome : SupervisorReviewOutcome} (hrun : self.answered intent answer = (past, .ok result))
    (hreviewed : result.externalSupervisorOutcome = some outcome) :
    ∃ proposal review, Heard self intent past proposal review
      ∧ ⟨.seal result.capsule, .ok ()⟩ ∈ past
      ∧ isIntentTimeApproved result.capsule.toDecisionCapsule = true
      ∧ (∀ (driver : AgentCanaryExecution) worker,
        driver.runOrchestrator (AgentCanaryExecution.runOneDecisionCycle (some result)) = some worker →
          ((worker.Names result.capsule.capsuleId → SupervisorReview.Approves review
              proposal.proposalId intent.intentId intent.decisionHash self.now)
            ↔ driver.canaryPermit = none ∨ SupervisorReview.Approves review
              proposal.proposalId intent.intentId intent.decisionHash self.now))
      ∧ ∀ w s, Constrained w.db →
        ReachUnder (Released result.capsule.capsuleId (SupervisorReview.Approves review
          proposal.proposalId intent.intentId intent.decisionHash self.now)) w s →
          Binds s result.capsule.toDecisionCapsule outcome := by
  have hasks : Asks self intent [] (self.evaluateAgentTradeIntent (some intent)) :=
    asks_evaluateAgentTradeIntent
  have hasks := Conforms.answered answer hasks
  rw [show (self.evaluateAgentTradeIntent (some intent)).answered answer [] = (past, .ok result)
    from hrun] at hasks
  obtain ⟨hsealed, happroved, proposal, review, hheard, houtcome⟩ :=
    hasks result rfl outcome hreviewed
  refine ⟨proposal, review, hheard, hsealed, happroved, fun driver worker hworker => ?_, ?_⟩
  · rw [driver.runOrchestrator_names hworker, and_iff_left rfl, imp_iff_not_or, not_not]
  · rintro w s hdb h hrefused ⟨-, hsends⟩
    obtain ⟨q, hreleased, hnames⟩ := sendsFor_named hdb h hsends
    refine hrefused ?_
    rw [houtcome]
    exact SupervisorReview.evaluateSupervisorReview_approve.mpr (hreleased hnames)

/-! ## A veto that stops nothing -/

namespace Sample

def proposal : TradeProposal where
  proposalId := ⟨"proposal"⟩
  agentId := ⟨"agent"⟩
  assignmentId := ⟨"assignment"⟩
  contextHash := "context"
  strategyArtifactHash := "v1"
  side := .buy
  entryType := .market
  referencePrice := ⟨⟨1100, -3⟩, by decide⟩
  stopLossPrice := ⟨⟨1099, -3⟩, by decide⟩
  takeProfitPrice := ⟨⟨1102, -3⟩, by decide⟩
  confidence := ⟨"0.9"⟩
  requestedRiskFraction := fraction 50 (-4)
  reasonCodes := ⟨[⟨"breakout", by decide +kernel⟩], by decide⟩
  evidenceRefs := []
  submittedAtUtc := noon - minutes 1
  expiresAtUtc := noon + minutes 5
  directional := buy_directional
  buyStops := by decide
  sellStops := by decide
  lifetime := intent.lifetime

theorem no_reasons : ([] : List ReasonCodeToken).length ≤ maxReasonCodes := by decide

/-- A reviewer's answer on the sample decision. -/
def review (verdict : ExternalSupervisorVerdict) : SupervisorReview where
  reviewId := ⟨"review"⟩
  proposalId := ⟨"proposal"⟩
  proposalFingerprint := proposal.proposalFingerprint
  tradeIntentId := ⟨"intent"⟩
  tradeIntentDecisionHash := intent.decisionHash
  riskDecisionId := none
  policyGateDecisionId := none
  supervisorAgentId := ⟨"reviewer"⟩
  supervisorRuntimeVersion := "r1"
  policyVersion := "review-policy"
  verdict
  reasonCodes := ⟨[], no_reasons⟩
  evidenceClaims := []
  confidence := none
  calibrationNotes := none
  reviewedAtUtc := noon
  expiresAtUtc := noon + minutes 1
  expiry := by decide

def reviewedPath : AgentDecisionPath :=
  { agentPath config with proposal := some proposal, externalSupervisor := true }

/-- A flat account that has half of what it has later, no session yet, and a reviewer with one
answer. -/
def reviewedWith (verdict : ExternalSupervisorVerdict) :
    Trace AgentCall AgentCall.Answer PyError → (c : AgentCall) → Except PyError c.Answer
  | _, .portfolio => .ok ⟨{ account with equity := ⟨5000, 0⟩ }, [], .matched⟩
  | _, .killSwitch => .ok ⟨.running, []⟩
  | _, .lock _ => .ok ()
  | _, .loadRiskSession _ => .ok ⟨none, none⟩
  | _, .trip _ => .ok ()
  | _, .record _ => .ok ()
  | _, .flush => .ok ()
  | _, .review .. => .ok (some (review verdict))
  | _, .seal _ => .ok ()

/-- A permit for the agent's own orders. -/
def agentPermit : CanaryPermit := { permit with
  agentId := some ⟨"agent"⟩
  assignmentId := some ⟨"assignment"⟩
  strategyArtifactHash := some "v1"
  identity := .inl ⟨rfl, rfl, rfl⟩ }

/-- The agent's driver, run with a permit or without. -/
def driver (canaryPermit : Option CanaryPermit) : AgentCanaryExecution where
  config := config
  agentId := ⟨"agent"⟩
  assignment := assignment
  canaryPermit
  riskConfig := risk
  riskConfigMerged := rfl

/-- The permit is issued, and nothing is decided yet. -/
def undecided : World :=
  { world with db := { world.db with decisionCapsules := [], canaryPermits := [agentPermit] } }

theorem undecided_constrained : Constrained undecided.db where
  capsules := List.nodup_nil
  requests := List.nodup_nil
  requestCapsules := nofun
  eventRequests := nofun

/-- What an evaluation sealed reaches the store, and the worker, if there is one, makes calls of a
pass. -/
def passed (worker : Option ExecutionOrchestrator) (result : AgentDecisionPathResult) (n : Nat) :
    Option (Config Nat Task World Call Call.Answer PyError) :=
  worker.bind fun worker => workers.run Machine.unchecked (Machine.idle undecided)
    (.nature (.sealCapsule result.capsule.toDecisionCapsule) :: .start 0 ⟨worker, .runOnce⟩
      :: served 0 n)

/-- The order worker 0 is about to send is on a request of the capsule. -/
def dueFor (s : Config Nat Task World Call Call.Answer PyError) (capsuleId : Uuid) : Bool :=
  (dueOrder s 0).any fun due => s.world.db.executionRequests.any fun row =>
    decide (row.orderRequestId = due.2.2.orderRequestId ∧ row.capsuleId = capsuleId)

end Sample

namespace ExternalReview

/-- Nobody but the driver's own worker on what its cycle sealed runs a pass. -/
def Driven (driver : AgentCanaryExecution) (result : AgentDecisionPathResult) : Guard :=
  Starting fun q => q.kind = .runOnce
    ∧ driver.runOrchestrator (AgentCanaryExecution.runOneDecisionCycle (some result))
      = some q.orchestrator

open Sample in
/-- What a worker's pass comes to is reached by it alone. -/
theorem reach_of_passed {worker : Option ExecutionOrchestrator} {result : AgentDecisionPathResult}
    {n : Nat} {p : Config Nat Task World Call Call.Answer PyError → Bool} {P : Task → Prop}
    (hP : ∀ worker', worker = some worker' → P ⟨worker', .runOnce⟩)
    (h : (passed worker result n).any p = true) :
    ∃ s, ReachUnder (Starting P) undecided s ∧ p s = true := by
  obtain ⟨s, hs, hp⟩ := (Option.any_eq_true _ _).mp h
  obtain ⟨worker', hworker, hrun⟩ := Option.bind_eq_some_iff.mp hs
  refine ⟨s, .of_moves (fun m hm s' _ => ?_) .init hrun, hp⟩
  rcases List.mem_cons.mp hm with rfl | hm
  · trivial
  rcases List.mem_cons.mp hm with rfl | hm
  · exact hP worker' hworker
  · obtain rfl := List.eq_of_mem_replicate hm
    trivial

open Sample in
theorem sendsFor_of_due {s : Config Nat Task World Call Call.Answer PyError} {capsuleId : Uuid}
    (h : dueFor s capsuleId = true) : SendsFor s capsuleId := by
  obtain ⟨⟨q, past, order⟩, hdue, hrow⟩ := (Option.any_eq_true _ _).mp h
  obtain ⟨k, ht⟩ := dueOrder_eq_some hdue
  obtain ⟨row, hmem, hids⟩ := List.any_eq_true.mp hrow
  exact ⟨0, q, past, order, k, ht, row, hmem, of_decide_eq_true hids⟩

theorem not_approve_of_isVeto {outcome : SupervisorReviewOutcome} (h : outcome.isVeto = true) :
    outcome.verdict ≠ .approve := by
  rw [of_decide_eq_true h]
  exact nofun

end ExternalReview

/-- An answered evaluation that passes a check of its result has one. -/
theorem answered_ok {x : Trace AgentCall AgentCall.Answer PyError
      × Except PyError AgentDecisionPathResult} {p : AgentDecisionPathResult → Bool}
    (h : x.2.toOption.any p = true) : ∃ past result, x = (past, .ok result) ∧ p result = true := by
  obtain ⟨past, answered⟩ := x
  cases answered with
  | error e => cases h
  | ok result => exact ⟨past, result, rfl, h⟩

open Sample ExternalReview in
/-- The reviewer vetoes. In a later cycle, which sealed another capsule, the driver's worker takes
the vetoed one up to its permit, and no further. -/
theorem external_review_binds_sample :
    ∃ past result outcome s,
      reviewedPath.answered intent (reviewedWith .veto) = (past, .ok result)
        ∧ result.externalSupervisorOutcome = some outcome ∧ outcome.verdict ≠ .approve
        ∧ isIntentTimeApproved result.capsule.toDecisionCapsule = true
        ∧ ReachUnder (Starting fun q => (driver (some agentPermit)).runOrchestrator
          (some ⟨"another"⟩) = some q.orchestrator) undecided s
        ∧ s.world.db.executionEvents.getLast?.map (·.eventType) = some .canaryPermitBlocked
        ∧ Binds s result.capsule.toDecisionCapsule outcome := by
  have hcheck : (reviewedPath.answered intent (reviewedWith .veto)).2.toOption.any
      (fun result => result.externalSupervisorOutcome.any (·.isVeto)
        && decide (⟨"another"⟩ ≠ result.capsule.capsuleId)
        && (passed ((driver (some agentPermit)).runOrchestrator (some ⟨"another"⟩)) result 39).any
          fun s => decide (s.world.db.executionEvents.getLast?.map (·.eventType)
            = some .canaryPermitBlocked)) = true := by
    decide +kernel
  obtain ⟨past, result, hrun, hp⟩ := answered_ok hcheck
  simp only [Bool.and_eq_true] at hp
  obtain ⟨⟨hveto, hother⟩, hpassed⟩ := hp
  obtain ⟨outcome, hreviewed, hverdict⟩ := (Option.any_eq_true _ _).mp hveto
  obtain ⟨s, hs, hblocked⟩ := reach_of_passed (P := fun q => (driver (some agentPermit)).runOrchestrator
    (some ⟨"another"⟩) = some q.orchestrator) (fun _ h => h) hpassed
  obtain ⟨proposal, review, -, -, happroved, -, hbinds⟩ := external_review_binds hrun hreviewed
  refine ⟨past, result, outcome, s, hrun, hreviewed, not_approve_of_isVeto hverdict, happroved, hs,
    of_decide_eq_true hblocked, hbinds undecided s undecided_constrained ?_⟩
  -- the worker's configuration names the other capsule
  refine Machine.Reach.mono (fun _ m _ hg => ?_) hs
  cases m with
  | start i q =>
      intro hnames
      exact absurd ((AgentCanaryExecution.runOrchestrator_names hg).mp hnames).2
        (of_decide_eq_true hother)
  | _ => trivial

open Sample ExternalReview in
/-- The reviewer vetoes, and the driver's own worker is about to send the order. -/
theorem external_review_vetoed_and_sent :
    ¬ ∀ (driver : AgentCanaryExecution) (self : AgentDecisionPath) (intent : TradeIntent)
        (answer : Trace AgentCall AgentCall.Answer PyError → (c : AgentCall) →
          Except PyError c.Answer)
        (past : Trace AgentCall AgentCall.Answer PyError) (result : AgentDecisionPathResult)
        (outcome : SupervisorReviewOutcome) (w : World)
        (s : Config Nat Task World Call Call.Answer PyError),
      self.answered intent answer = (past, .ok result) →
      result.externalSupervisorOutcome = some outcome → Constrained w.db →
      ReachUnder (Driven driver result) w s →
      Binds s result.capsule.toDecisionCapsule outcome := by
  intro h
  have hcheck : (reviewedPath.answered intent (reviewedWith .veto)).2.toOption.any
      (fun result => result.externalSupervisorOutcome.any (·.isVeto)
        && isIntentTimeApproved result.capsule.toDecisionCapsule
        && (passed ((driver (some agentPermit)).runOrchestrator
          (AgentCanaryExecution.runOneDecisionCycle (some result))) result 40).any
            (dueFor · result.capsule.capsuleId)) = true := by
    decide +kernel
  obtain ⟨past, result, hrun, hp⟩ := answered_ok hcheck
  simp only [Bool.and_eq_true] at hp
  obtain ⟨⟨hveto, happroved⟩, hpassed⟩ := hp
  obtain ⟨outcome, hreviewed, hverdict⟩ := (Option.any_eq_true _ _).mp hveto
  obtain ⟨s, hs, hdue⟩ := reach_of_passed (P := fun q => q.kind = .runOnce
    ∧ (driver (some agentPermit)).runOrchestrator
      (AgentCanaryExecution.runOneDecisionCycle (some result)) = some q.orchestrator)
    (fun _ h => ⟨rfl, h⟩) hpassed
  exact h (driver (some agentPermit)) reviewedPath intent _ past result outcome undecided s hrun
    hreviewed undecided_constrained hs (not_approve_of_isVeto hverdict)
    ⟨happroved, sendsFor_of_due hdue⟩

end Crumblr
