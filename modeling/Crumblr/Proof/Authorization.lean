import Crumblr.Proof.Observed
import Crumblr.Proof.AtMostOnce
import Crumblr.Proof.Reconciliation

/-!
# What stands behind an order

Every refusal of the entry chain lies between the capsules a pass read and the one
call that sends an order. Walking the chain forward, each part adds what it has
checked to what is known, and nothing after it takes that away: a fact about calls
that were made stays a fact.

One check does not speak of what the pass itself saw. Reconciliation judges the
*latest stored* snapshot, which is the pass's own observation only as long as no
other process has recorded a later one in between.
-/

namespace Crumblr

open ExecutionOrchestrator

section

variable [Externals]

/-- The decisions, the permit and the prepared order behind a call of `order_send`. -/
structure Authorization where
  chain : ApprovalChain
  canary : CanaryEntrySubmissionConfig
  prepared : Prepared
  finalRisk : RiskDecision
  permit : CanaryPermit

/-- The capsule is approved, and this worker's. -/
structure Admitted (worker : ExecutionOrchestrator) (capsule : DecisionCapsule)
    (chain : ApprovalChain) (past : Past) : Prop where
  /-- The pass read it among the capsules of its market and environment. -/
  read : ∃ capsules,
    ⟨.readAll worker.config.environment worker.canonicalSymbol, .ok capsules⟩ ∈ past
      ∧ capsule ∈ capsules
  /-- The pass claimed the request, for this capsule. -/
  claimed : ∃ row, ⟨.claim row, .ok true⟩ ∈ past
    ∧ row.orderRequestId = orderRequestIdFor chain.intent ∧ row.capsuleId = capsule.capsuleId
  environment : capsule.environment = worker.config.environment
  market : capsule.canonicalSymbol = worker.canonicalSymbol
    ∧ chain.intent.symbol = worker.canonicalSymbol
  /-- Its approvals. -/
  carried : capsule.approvalChain = some chain
  passed : chain.riskDecision.verdict = .pass
  approved : chain.supervisorDecision.verdict = .approve

/-- The capsule is current besides, and preflight was open for it. -/
structure Cleared (worker : ExecutionOrchestrator) (capsule : DecisionCapsule)
    (chain : ApprovalChain) (past : Past) : Prop
    extends Admitted worker capsule chain past where
  /-- It was not decided before this worker was activated. -/
  activated : ∃ watermark, worker.activationWatermark = some watermark
    ∧ watermark ≤ capsule.occurredAtUtc
  strategy : capsule.strategyVersion = worker.currentStrategyVersion
  riskConfig : capsule.riskConfigVersion = worker.config.configVersion
  preflight : ∃ killSwitch, ⟨.killSwitch, .ok killSwitch⟩ ∈ past
    ∧ (evaluatePreflightGate capsule.environment worker.canonicalSymbol
        worker.config.enabledSymbols killSwitch).isOpen = true

/-- FINAL risk passed, and the event that says so is on record. -/
structure FinallyPassed (chain : ApprovalChain) (order : ApprovedOrder) (finalRisk : RiskDecision)
    (past : Past) : Prop where
  recorded : ∃ occurredAtUtc inserted, ⟨.append ⟨order.orderRequestId, .finalRiskPassed,
    occurredAtUtc, [], none, some (finalRiskPayload finalRisk order)⟩, .ok inserted⟩ ∈ past
  verdict : finalRisk.verdict = .pass
  volume : finalRisk.approvedVolume = some order.volume
  side : chain.intent.side = order.side
  stop : chain.intent.stopLossPrice = some order.stopLossPrice

/-- The permit covers this order of this account. -/
structure Covers (permit : CanaryPermit) (worker : ExecutionOrchestrator)
    (canary : CanaryEntrySubmissionConfig) (p : Prepared) : Prop where
  valid : p.finalNow ≤ permit.validUntilUtc
  account : permit.approvedAccountRef = p.account.loginHash
  server : permit.expectedServer = p.account.server
  symbol : permit.canonicalSymbol = worker.canonicalSymbol
  entryType : permit.entryType = p.order.entryType
  agent : permit.agentId = canary.agentId
  assignment : permit.assignmentId = canary.assignmentId
  artifact : permit.strategyArtifactHash = canary.strategyArtifactHash
  risk : ∃ fraction, p.intent.requestedRiskFraction = some fraction
    ∧ ¬ permit.maxRequestedRiskFraction.val < fraction.val

/-- Everything an order has behind it, but for what reconciliation judged. -/
structure Proceeded (worker : ExecutionOrchestrator) (past : Past) (order : ApprovedOrder)
    (z : Authorization) : Prop where
  prepared : z.prepared.order = order
  request : order.orderRequestId = orderRequestIdFor z.chain.intent
  intent : z.prepared.intent = z.chain.intent
  cleared : Cleared worker z.prepared.capsule z.chain past
  /-- It is the capsule the canary configuration names. -/
  canary : worker.entrySubmission = some z.canary
    ∧ z.prepared.capsule.capsuleId = z.canary.capsuleId
  /-- The account is the one the pass observed. -/
  observed : (sight past).recorded = some z.prepared.observation
    ∧ z.prepared.observation.accountState = some z.prepared.account
  /-- The tick is the newest the pass read. -/
  tick : ∃ since ticks,
    ⟨.ticks worker.canonicalSymbol since 100 "execution_orchestrator", .ok ticks⟩ ∈ past
      ∧ ticks.getLast? = some z.prepared.tick
  final : FinallyPassed z.chain order z.finalRisk past
  gate : ∃ killSwitch, ⟨.killSwitch, .ok killSwitch⟩ ∈ past
    ∧ (evaluateSubmissionGate (worker.submissionGateContext z.prepared killSwitch)).isOpen = true
  permit : ⟨.permitFor z.canary.permitId, .ok (some z.permit)⟩ ∈ past
  covers : Covers z.permit worker z.canary z.prepared
  /-- The permit was consumed for this request just before. -/
  consumed : ∃ payload rest, past = ⟨.consumeAndStart z.permit.permitId order.orderRequestId
    z.prepared.finalNow payload, .ok .consumed⟩ :: rest

/-- Both books were read completely and empty, and that observation is the one that
reconciliation found MATCHED. -/
structure FlatAndMatched (worker : ExecutionOrchestrator) (now : UtcDatetime) (past : Past)
    (observation : BrokerStateObservation) : Prop where
  positions : (sight past).positions = some (.ok [])
  pendingOrders : (sight past).pendingOrders = some (.ok [])
  positionsComplete : observation.account.positionSetState = .complete
  pendingOrdersComplete : observation.account.pendingOrderSetState = .complete
  matched : Matched worker.flatExpectation now past observation.account observation.positions
    observation.pendingOrders

/-- An order may go out after these calls. -/
def AuthorizationComplete (self : ExecutionOrchestrator) (past : Past) (order : ApprovedOrder) :
    Prop :=
  ∃ z now, Proceeded self past order z ∧ FlatAndMatched self now past z.prepared.observation

/-- What reconciliation judged is the observation the pass itself recorded. -/
def JudgedOwn (past : Past) : Prop :=
  ∃ observation, (sight past).recorded = some observation
    ∧ (sight past).snapshot = some observation.account
    ∧ (sight past).positionRows = some observation.positions
    ∧ (sight past).orderRows = some observation.pendingOrders

/-! ## A matched observation is flat -/

theorem mismatches_flat {self : ExecutionOrchestrator} {snapshot : BrokerAccountSnapshot}
    {positions : List BrokerPositionSnapshot} {orders : List BrokerPendingOrderSnapshot}
    {version : String} {spec : InstrumentSpec}
    (h : mismatches snapshot positions orders self.flatExpectation version spec = []) :
    positions = [] ∧ orders = [] := by
  have hagrees := mismatches_eq_nil.mp h
  -- against the expectation of nothing, agreement is emptiness
  have hpositions : positions.map (·.ticket) = [] :=
    List.eq_nil_iff_forall_not_mem.mpr fun t ht => by cases (hagrees.tickets t).mp ht
  have horders : orders.map (·.orderId) = [] :=
    List.eq_nil_iff_forall_not_mem.mpr fun t ht => by cases (hagrees.orderIds t).mp ht
  exact ⟨List.map_eq_nil_iff.mp hpositions, List.map_eq_nil_iff.mp horders⟩

omit [Externals] in
/-- A book recorded as complete and empty was read so. -/
theorem bookOf_nil {α : Type} {a : Except PyError (List α)} (h : bookOf a = ([], .complete)) :
    a = .ok [] := by
  cases a with
  | ok xs => rw [show xs = [] from congrArg Prod.fst h]
  | error e => cases h

variable {self : ExecutionOrchestrator} {past : Past} {now : UtcDatetime} {α : Type}

/-- **Judging its own observation, a matched pass has seen an empty account.** -/
theorem flatAndMatched {environment : Environment} {observation : BrokerStateObservation}
    {snapshot : BrokerAccountSnapshot} {positions : List BrokerPositionSnapshot}
    {orders : List BrokerPendingOrderSnapshot}
    (hobs : Observed environment self.canonicalSymbol observation past)
    (hm : Matched self.flatExpectation now past snapshot positions orders)
    (hown : JudgedOwn past) : FlatAndMatched self now past observation := by
  obtain ⟨observation', hrec, hsnap, hrows, horders⟩ := hown
  obtain rfl : observation' = observation := Option.some.inj (hrec.symm.trans hobs.recorded)
  obtain rfl : snapshot = observation'.account := Option.some.inj (hm.judged.symm.trans hsnap)
  obtain rfl : positions = observation'.positions :=
    Option.some.inj (hm.positionRows.symm.trans hrows)
  obtain rfl : orders = observation'.pendingOrders :=
    Option.some.inj (hm.orderRows.symm.trans horders)
  obtain ⟨-, hpc, hoc, -⟩ := snapshotUnknown_eq_none.mp hm.known
  obtain ⟨version, spec, -, -, hagree⟩ := hm.agreed
  obtain ⟨hpnil, honil⟩ := mismatches_flat hagree
  obtain ⟨r, readPositions, readOrders, rfl, hp, hbook, ho, hbook', -⟩ := hobs.reading
  have hr : r.positions = [] := List.map_eq_nil_iff.mp hpnil
  have hr' : r.pendingOrders = [] := List.map_eq_nil_iff.mp honil
  have hpc' : r.positionSetState = .complete := hpc
  have hoc' : r.pendingOrderSetState = .complete := hoc
  rw [hr, hpc'] at hbook
  rw [hr', hoc'] at hbook'
  exact ⟨by rw [hp, bookOf_nil hbook.symm], by rw [ho, bookOf_nil hbook'.symm], hpc, hoc, hm⟩

/-! ## Walking the chain -/

/-- Before an order goes out, everything but the judgement of its own observation is
established. -/
def entryDiscipline (self : ExecutionOrchestrator) : Discipline Call Call.Answer PyError where
  allows := fun past c => match c with
    | .orderSend order => ∃ z now, Proceeded self past order z
        ∧ Observed z.prepared.capsule.environment self.canonicalSymbol z.prepared.observation past
        ∧ ∃ snapshot positions orders,
            Matched self.flatExpectation now past snapshot positions orders
    | _ => True
  answers := mayAnswer

theorem entryDiscipline_lets {topics : List Topic} (h : ∀ t ∈ topics, t ≠ .sending) :
    Lets (entryDiscipline self) topics := by
  intro past c hc
  have ht := h _ hc.mem
  cases c <;> trivial

/-- The program sends only what is authorized. -/
abbrev Sends (self : ExecutionOrchestrator) (past : Past) (p : Pass α) : Prop :=
  Leads (entryDiscipline self).protocol past p fun _ _ => True

/-- A program that sends nothing sends nothing unauthorized. -/
theorem sends_of_about {p : Pass α} {topics : List Topic} (hp : Only (About topics) p)
    (h : ∀ t ∈ topics, t ≠ .sending) : Sends self past p :=
  (entryDiscipline_lets h).frame hp (fun _ _ _ _ _ => trivial) trivial

theorem sends_nothing {p : Pass α} (hp : OfRecords p) : Sends self past p :=
  sends_of_about hp (by decide)

theorem sends_ask {c : Call} {β : Type} {f : c.Answer → Pass β}
    (hc : About recordTopics c) (hf : ∀ a, Sends self (⟨c, .ok a⟩ :: past) (f a)) :
    Sends self past (Prog.bind (ask c) f) :=
  Leads.next (entryDiscipline_lets (by decide) _ _ hc) fun a _ => hf a

/-- What has been checked so far stays checked. -/
theorem Admitted.mono {capsule : DecisionCapsule} {chain : ApprovalChain} {past' : Past}
    (h : Admitted self capsule chain past) (hs : past <:+ past') :
    Admitted self capsule chain past' := by
  obtain ⟨capsules, hread, hmem⟩ := h.read
  obtain ⟨row, hclaim, hrow⟩ := h.claimed
  exact { h with
    read := ⟨capsules, hs.subset hread, hmem⟩
    claimed := ⟨row, hs.subset hclaim, hrow⟩ }

theorem Cleared.mono {capsule : DecisionCapsule} {chain : ApprovalChain} {past' : Past}
    (h : Cleared self capsule chain past) (hs : past <:+ past') :
    Cleared self capsule chain past' := by
  obtain ⟨killSwitch, hheard, hopen⟩ := h.preflight
  exact { h with
    toAdmitted := h.toAdmitted.mono hs
    preflight := ⟨killSwitch, hs.subset hheard, hopen⟩ }

/-- The capsule is cleared, and its market observed and matched. -/
structure Reconciled (worker : ExecutionOrchestrator) (capsule : DecisionCapsule)
    (chain : ApprovalChain) (observation : BrokerStateObservation) (account : AccountState)
    (now : UtcDatetime) (past : Past) : Prop where
  cleared : Cleared worker capsule chain past
  observed : Observed capsule.environment worker.canonicalSymbol observation past
  account : observation.accountState = some account
  matched : ∃ snapshot positions orders,
    Matched worker.flatExpectation now past snapshot positions orders

theorem Reconciled.blind {capsule : DecisionCapsule} {chain : ApprovalChain}
    {observation : BrokerStateObservation} {account : AccountState} {c : Call}
    {a : Except PyError c.Answer}
    (h : Reconciled self capsule chain observation account now past) (hc : Blind c) :
    Reconciled self capsule chain observation account now (⟨c, a⟩ :: past) := by
  obtain ⟨snapshot, positions, orders, hm⟩ := h.matched
  exact ⟨h.cleared.mono (List.suffix_cons ..), h.observed.blind hc, h.account,
    snapshot, positions, orders, hm.blind hc⟩

/-- The order is prepared, and FINAL risk passed on it. -/
structure Ready (worker : ExecutionOrchestrator) (chain : ApprovalChain) (finalRisk : RiskDecision)
    (p : Prepared) (now : UtcDatetime) (past : Past) : Prop where
  reconciled : Reconciled worker p.capsule chain p.observation p.account now past
  intent : p.intent = chain.intent
  request : p.orderRequestId = orderRequestIdFor chain.intent
  orderRequest : p.order.orderRequestId = p.orderRequestId
  tick : ∃ since ticks,
    ⟨.ticks worker.canonicalSymbol since 100 "execution_orchestrator", .ok ticks⟩ ∈ past
      ∧ ticks.getLast? = some p.tick
  final : FinallyPassed chain p.order finalRisk past

theorem Ready.blind {chain : ApprovalChain} {finalRisk : RiskDecision} {p : Prepared} {c : Call}
    {a : Except PyError c.Answer} (h : Ready self chain finalRisk p now past) (hc : Blind c) :
    Ready self chain finalRisk p now (⟨c, a⟩ :: past) := by
  obtain ⟨since, ticks, hticks, hlast⟩ := h.tick
  obtain ⟨occurredAtUtc, inserted, hrec⟩ := h.final.recorded
  exact { h with
    reconciled := h.reconciled.blind hc
    tick := ⟨since, ticks, List.mem_cons_of_mem _ hticks, hlast⟩
    final := { h.final with recorded := ⟨occurredAtUtc, inserted, List.mem_cons_of_mem _ hrec⟩ } }

/-- A permit without mismatches covers the order. -/
theorem covers_of_scope {permit : CanaryPermit} {canary : CanaryEntrySubmissionConfig}
    {p : Prepared} (h : canaryPermitScopeMismatches (some permit) p.account self.canonicalSymbol
      p.order p.intent canary p.finalNow = .ok []) : Covers permit self canary p := by
  unfold canaryPermitScopeMismatches at h
  cases hf : p.intent.requestedRiskFraction with
  | none => rw [hf] at h; cases h
  | some fraction =>
      rw [hf] at h
      have hnone := failing_eq_nil.mp (Except.ok.inj h)
      simp only [List.mem_cons, List.not_mem_nil, or_false, forall_eq_or_imp, forall_eq,
        decide_eq_false_iff_not, Decidable.not_not] at hnone
      obtain ⟨hvalid, hacc, hserver, hsym, htype, hagent, hassign, hart, hrisk⟩ := hnone
      exact ⟨Int.not_lt.mp hvalid, hacc, hserver, hsym, htype, hagent, hassign, hart,
        fraction, hf, hrisk⟩

/-- What is sent after the permit was consumed is authorized. -/
theorem sends_sendOrder {z : Authorization}
    (hp : Proceeded self past z.prepared.order z)
    (hr : Reconciled self z.prepared.capsule z.chain z.prepared.observation z.prepared.account
      now past) : Sends self past (sendOrder z.prepared) := by
  refine Leads.seq (R := fun _ _ => True) ?_ fun past' result _ => ?_
  · refine Leads.rescue (Conforms.bind.mpr (Conforms.perform.mpr ⟨?_, ?_⟩))
    · exact ⟨z, now, hp, hr.observed, hr.matched⟩
    · rintro a past' ⟨-, rfl⟩
      cases a with
      | ok result => trivial
      | error e =>
          change Sends self _ (if e.kind = .mt5CallFailed then _ else _)
          split
          · exact Leads.ret.mpr trivial
          · exact Leads.raise.mpr trivial
  · cases result with
    | none => exact Leads.ret.mpr trivial
    | some result =>
        refine sends_nothing (Only.bind only_lift fun _ => Only.bind (only_ask rfl) fun _ =>
          Only.bind (ofRecords_append ..) fun _ => trivial)

theorem sends_attemptRealEntrySubmission {canary : CanaryEntrySubmissionConfig}
    {chain : ApprovalChain} {finalRisk : RiskDecision} {p : Prepared}
    (hself : self.entrySubmission = some canary) (h : Ready self chain finalRisk p now past)
    (hgate : ∃ killSwitch, ⟨.killSwitch, .ok killSwitch⟩ ∈ past
      ∧ (evaluateSubmissionGate (self.submissionGateContext p killSwitch)).isOpen = true) :
    Sends self past (self.attemptRealEntrySubmission canary p) := by
  unfold attemptRealEntrySubmission
  split
  · exact sends_nothing (ofRecords_refuse ..)
  rename_i hcapsule
  refine sends_ask rfl fun permit => leads_lift fun mismatches hm => ?_
  split
  · exact sends_nothing (ofRecords_refuse ..)
  rename_i hnone
  cases permit with
  | none => exact leads_lift fun _ hpermit => by cases hpermit
  | some permit =>
      refine leads_lift fun permit' hpermit => ?_
      obtain rfl : permit = permit' := Except.ok.inj hpermit
      refine sends_ask rfl fun outcome => ?_
      split
      · rename_i hconsumed
        subst hconsumed
        have hready := (h.blind (c := .permitFor canary.permitId) (a := .ok (some permit))
          trivial).blind (c := .consumeAndStart permit.permitId p.orderRequestId p.finalNow
            p.order.dump) (a := .ok .consumed) trivial
        rw [Decidable.not_not.mp hnone] at hm
        obtain ⟨killSwitch, hheard, hopen⟩ := hgate
        refine sends_sendOrder (z := ⟨chain, canary, p, finalRisk, permit⟩) ?_ hready.reconciled
        exact {
          prepared := rfl
          request := h.orderRequest.trans h.request
          intent := h.intent
          cleared := hready.reconciled.cleared
          canary := ⟨hself, Decidable.not_not.mp hcapsule⟩
          observed := ⟨hready.reconciled.observed.recorded, h.reconciled.account⟩
          tick := hready.tick
          final := hready.final
          gate := ⟨killSwitch, by simp [hheard], hopen⟩
          permit := by simp
          covers := covers_of_scope hm
          consumed := ⟨p.order.dump, _, by rw [h.orderRequest]⟩ }
      · exact sends_nothing (ofRecords_refuse ..)

/-- An open gate was evaluated on what the pass had prepared. -/
theorem leads_evaluateSubmissionReadiness {chain : ApprovalChain} {finalRisk : RiskDecision}
    {p : Prepared} (h : Ready self chain finalRisk p now past) :
    Leads (entryDiscipline self).protocol past (self.evaluateSubmissionReadiness p)
      fun past' decision => Ready self chain finalRisk p now past' ∧ (decision.isOpen = true →
        ∃ killSwitch, ⟨.killSwitch, .ok killSwitch⟩ ∈ past'
          ∧ (evaluateSubmissionGate (self.submissionGateContext p killSwitch)).isOpen = true) := by
  refine Leads.next trivial fun killSwitch _ => ?_
  refine Leads.seq (leads_append trivial) ?_
  rintro _ _ ⟨_, rfl⟩
  exact Leads.ret.mpr ⟨(h.blind (by trivial)).blind (by trivial), fun hopen => ⟨killSwitch, by simp, hopen⟩⟩

theorem sends_checkAndSubmit {chain : ApprovalChain} {finalRisk : RiskDecision} {p : Prepared}
    (h : Ready self chain finalRisk p now past) : Sends self past (self.checkAndSubmit p) := by
  refine sends_ask rfl fun check => ?_
  refine Leads.seq (leads_append trivial) ?_
  rintro past₁ _ ⟨_, rfl⟩
  cases check.accepted with
  | false => exact Leads.ret.mpr trivial
  | true =>
      refine Leads.seq (leads_evaluateSubmissionReadiness
        ((h.blind (by trivial)).blind (by trivial))) ?_
      rintro past₂ decision ⟨hready, hgate⟩
      cases hdec : decision.isOpen with
      | false => exact Leads.ret.mpr trivial
      | true =>
          simp only [Bool.not_true, Bool.false_eq_true, if_false]
          split
          · exact sends_nothing (Only.bind (ofRecords_append ..) fun _ => trivial)
          · rename_i canary hcanary
            exact sends_attemptRealEntrySubmission hcanary hready (hgate hdec)

omit [Externals] in
/-- What an approved order takes from the decisions behind it. -/
theorem approvedOrder_fields {q : Priced} {finalRisk : RiskDecision} {volume : Volume}
    {stopLossPrice : Price} {order : ApprovedOrder}
    (h : self.approvedOrder q finalRisk volume stopLossPrice = .ok order) :
    order.orderRequestId = q.orderRequestId ∧ order.volume = volume
      ∧ order.side = q.chain.intent.side ∧ order.stopLossPrice = stopLossPrice := by
  unfold approvedOrder ApprovedOrder.create at h
  split at h
  · split at h
    · split at h
      · cases h
        exact ⟨rfl, rfl, rfl, rfl⟩
      · cases h
    · cases h
  · cases h

theorem sends_finalRisk {q : Priced}
    (h : Reconciled self q.capsule q.chain q.observation q.account now past)
    (hrequest : q.orderRequestId = orderRequestIdFor q.chain.intent)
    (htick : ∃ since ticks,
      ⟨.ticks self.canonicalSymbol since 100 "execution_orchestrator", .ok ticks⟩ ∈ past
        ∧ ticks.getLast? = some q.tick) : Sends self past (self.finalRisk q) := by
  refine sends_ask rfl fun ordersInLastHour => sends_ask rfl fun killSwitch => ?_
  refine leads_lift fun finalRisk _ => ?_
  split
  · exact sends_nothing (ofRecords_refuse ..)
  rename_i hpass
  refine leads_lift fun volume hvolume => leads_lift fun stop hstop => leads_lift fun order ho => ?_
  refine Leads.seq (leads_append trivial) ?_
  rintro past₁ _ ⟨inserted, rfl⟩
  obtain ⟨hid, hvol, hside, hstopLoss⟩ := approvedOrder_fields ho
  obtain ⟨since, ticks, hheard, hlast⟩ := htick
  suffices hready : Ready self q.chain finalRisk _ now _ from sends_checkAndSubmit hready
  exact {
    reconciled := ((h.blind (by trivial)).blind (by trivial)).blind (by trivial)
    intent := rfl
    request := hrequest
    orderRequest := hid
    tick := ⟨since, ticks, by simp [hheard], hlast⟩
    final := {
      recorded := ⟨q.finalNow, inserted, by rw [hid]; exact List.mem_cons_self ..⟩
      verdict := Decidable.not_not.mp hpass
      volume := by rw [hvol]; exact assertSome_ok hvolume
      side := hside.symm
      stop := by rw [hstopLoss]; exact assertSome_ok hstop } }

theorem sends_priceAndRisk {capsule : DecisionCapsule} {chain : ApprovalChain}
    {observation : BrokerStateObservation} {account : AccountState}
    (h : Reconciled self capsule chain observation account now past) :
    Sends self past (self.priceAndRisk capsule chain (orderRequestIdFor chain.intent)
      observation account now) := by
  refine Leads.next trivial fun spec _ => ?_
  have h₁ : Reconciled self capsule chain observation account now
      (⟨.latestSpec self.canonicalSymbol, .ok spec⟩ :: past) := h.blind trivial
  split
  · exact sends_nothing (ofRecords_refuse ..)
  rename_i spec
  refine sends_ask rfl fun ticks => ?_
  have h₂ := h₁.blind (c := .ticks self.canonicalSymbol (now - seconds 30) 100
    "execution_orchestrator") (a := .ok ticks) trivial
  split
  · exact sends_nothing (ofRecords_refuse ..)
  rename_i tick hlast
  refine leads_lift fun snapshot _ => sends_ask rfl fun finalNow => ?_
  -- the risk session shows nothing of the broker
  refine Leads.seq (R := fun past' _ =>
    Reconciled self capsule chain observation account now past' ∧ ∃ since ticks,
      ⟨.ticks self.canonicalSymbol since 100 "execution_orchestrator", .ok ticks⟩ ∈ past'
        ∧ ticks.getLast? = some tick) ?_ ?_
  · have hlets : Lets (entryDiscipline self) [.asking] := entryDiscipline_lets (by decide)
    refine hlets.frame ?_ ?_
      ⟨h₂.blind trivial, _, ticks, by simp, hlast⟩
    · exact Only.rescue (Only.bind (only_recoverRiskSession ..) fun _ => trivial)
        fun _ => trivial
    · rintro past' c a ⟨hr, since, ticks', hheard, hlast'⟩ hc
      exact ⟨hr.blind (About.blind (by decide) c hc), since, ticks',
        List.mem_cons_of_mem _ hheard, hlast'⟩
  · rintro past' recovered ⟨hr, htick⟩
    split
    · exact sends_nothing (Only.bind (ofRecords_trip (only_tripUnlessHalted ..))
        fun _ => ofRecords_refuse ..)
    split
    · exact sends_nothing (Only.bind (ofRecords_trip (only_tripUnlessHalted ..))
        fun _ => ofRecords_refuse ..)
    · exact sends_finalRisk hr rfl htick

theorem sends_observeAndReconcile {capsule : DecisionCapsule} {chain : ApprovalChain}
    (h : Cleared self capsule chain past) :
    Sends self past (self.observeAndReconcile capsule chain (orderRequestIdFor chain.intent)
      now) := by
  refine Leads.seq (Leads.suffix (leads_observe self (entryDiscipline_lets (by decide)))) ?_
  rintro past₁ observation ⟨hsuffix, hobs⟩
  refine leads_lift fun account haccount => ?_
  have hkeep : Leads (entryDiscipline self).protocol past₁ (reconcile self.flatExpectation now)
      fun past' _ => Observed capsule.environment self.canonicalSymbol observation past' :=
    (entryDiscipline_lets (by decide)).frame (only_reconcile ..) (fun _ _ _ h hc => h.judging hc)
      hobs
  have hjudged : Leads (entryDiscipline self).protocol past₁ (reconcile self.flatExpectation now) _ :=
    leads_reconcile (entryDiscipline_lets (by decide))
  refine Leads.seq (Leads.suffix (Leads.and hkeep hjudged)) ?_
  rintro past₂ result ⟨hsuffix', hobs', hmatched⟩
  split
  · exact sends_nothing (ofRecords_refuse ..)
  rename_i hstatus
  exact sends_priceAndRisk ⟨h.mono (hsuffix.trans hsuffix'), hobs', assertSome_ok haccount,
    hmatched (Decidable.not_not.mp hstatus)⟩

omit [Externals] in
/-- What an open eligibility gate says of a capsule. -/
theorem eligibility_open {capsule : DecisionCapsule} {intent : TradeIntent}
    {watermark : Option UtcDatetime} {strategyVersion riskConfigVersion : String}
    {intraday : IntradayPolicy} {calendar : TradingCalendar}
    (h : (evaluateExecutionEligibility capsule intent watermark now strategyVersion
      riskConfigVersion intraday calendar).isOpen = true) :
    (∃ w, watermark = some w ∧ w ≤ capsule.occurredAtUtc)
      ∧ capsule.strategyVersion = strategyVersion
      ∧ capsule.riskConfigVersion = riskConfigVersion := by
  have hlegs := GateDecision.ofLegs_isOpen.mp h
  simp only [List.mem_cons, List.not_mem_nil, or_false, forall_eq_or_imp, forall_eq,
    decide_eq_false_iff_not, not_or, Decidable.not_not] at hlegs
  obtain ⟨hmark, ⟨hstrategy, hrisk⟩, -, -⟩ := hlegs
  cases watermark with
  | none => cases hmark
  | some w => exact ⟨⟨w, rfl, Int.not_lt.mp (of_decide_eq_false hmark)⟩, hstrategy, hrisk⟩

theorem sends_processClaimed {capsule : DecisionCapsule} {chain : ApprovalChain}
    (h : Admitted self capsule chain past) :
    Sends self past (self.processClaimed capsule chain (orderRequestIdFor chain.intent) now) := by
  refine Leads.seq (leads_append trivial) ?_
  rintro past₁ _ ⟨_, rfl⟩
  dsimp only
  split
  · exact sends_nothing (ofRecords_refuse ..)
  rename_i heligible
  obtain ⟨hactivated, hstrategy, hrisk⟩ := eligibility_open (by simpa using heligible)
  refine sends_ask rfl fun killSwitch => ?_
  split
  · exact sends_nothing (ofRecords_refuse ..)
  rename_i hgate
  refine sends_observeAndReconcile {
    toAdmitted := h.mono ((List.suffix_cons ..).trans (List.suffix_cons ..))
    activated := hactivated
    strategy := hstrategy
    riskConfig := hrisk
    preflight := ⟨killSwitch, List.mem_cons_self .., by simpa using hgate⟩ }

omit [Externals] in
/-- An approved capsule carries its approvals. -/
theorem isIntentTimeApproved_chain {capsule : DecisionCapsule} {chain : ApprovalChain}
    (h : isIntentTimeApproved capsule = true) (hc : capsule.approvalChain = some chain) :
    chain.riskDecision.verdict = .pass ∧ chain.supervisorDecision.verdict = .approve := by
  unfold isIntentTimeApproved at h
  rw [hc] at h
  simpa using h

theorem sends_process {capsule : DecisionCapsule} {capsules : List DecisionCapsule}
    (hread : ⟨.readAll self.config.environment self.canonicalSymbol, .ok capsules⟩ ∈ past)
    (hmem : capsule ∈ capsules) (henv : capsule.environment = self.config.environment)
    (happroved : isIntentTimeApproved capsule = true) :
    Sends self past (self.process capsule now) := by
  refine leads_lift fun chain hchain => ?_
  have hcarried := assertSome_ok hchain
  obtain ⟨hpass, happrove⟩ := isIntentTimeApproved_chain happroved hcarried
  split
  · exact Leads.raise.mpr trivial
  rename_i hmarket
  simp only [not_or, Decidable.not_not] at hmarket
  refine sends_ask rfl fun claimed => ?_
  cases claimed with
  | true =>
      refine Leads.seq (sends_processClaimed ?_) fun _ _ _ => Leads.ret.mpr trivial
      exact ⟨⟨capsules, List.mem_cons_of_mem _ hread, hmem⟩, ⟨_, List.mem_cons_self .., rfl, rfl⟩,
        henv, hmarket, hcarried, hpass, happrove⟩
  | false => exact sends_nothing (ofRecords_recoverAmbiguousSubmission ..)

theorem sends_runOnce : Sends self past self.runOnce := by
  have hflatten : Sends self past self.flattenOnce :=
    (entryDiscipline_lets (by decide)).frame (ofFlatten_flattenOnce self)
      (fun _ _ _ _ _ => trivial) trivial
  refine Leads.seq hflatten fun past₁ _ _ => sends_ask rfl fun now => ?_
  refine Leads.next trivial fun capsules hcapsules => ?_
  -- every capsule still to come was read, and is approved
  have hloop := Leads.collect (P := (entryDiscipline self).protocol)
    (f := fun capsule => self.process capsule now)
    (I := fun rest _ past' => (∀ c ∈ rest, c ∈ capsules ∧ isIntentTimeApproved c = true)
      ∧ ⟨.readAll self.config.environment self.canonicalSymbol, .ok capsules⟩ ∈ past')
    ?_ (capsules.filter isIntentTimeApproved) []
    (s := ⟨.readAll self.config.environment self.canonicalSymbol, .ok capsules⟩
      :: ⟨.clock, .ok now⟩ :: past₁)
    ⟨fun c hc => List.mem_filter.mp hc, List.mem_cons_self ..⟩
  · refine Leads.seq hloop fun past₂ outcomes _ => ?_
    exact Leads.seq (sends_of_about (only_reconcileOnce self) (by decide)) fun _ _ _ =>
      Leads.ret.mpr trivial
  · rintro capsule rest _ past' ⟨hrest, hread⟩
    obtain ⟨hmem, happroved⟩ := hrest capsule (List.mem_cons_self ..)
    refine Leads.mono (Leads.suffix (sends_process hread hmem (hcapsules capsule hmem).1
      happroved)) ?_
    rintro past'' _ ⟨hsuffix, -⟩
    exact ⟨fun c hc => hrest c (List.mem_cons_of_mem _ hc), hsuffix.subset hread⟩

theorem program_sends (q : Task) :
    Conforms (entryDiscipline q.orchestrator).protocol [] q.program fun _ _ => True := by
  have hsends : Sends q.orchestrator [] q.program := by
    unfold Task.program
    split
    · exact Leads.seq sends_runOnce fun _ _ _ => Leads.ret.mpr trivial
    · exact sends_nothing (Only.bind (ofRecords_resolvePendingOnce _) fun _ => trivial)
    · exact sends_of_about (Only.bind (only_reconcileOnce _) fun _ => trivial) (by decide)
  exact Conforms.mono (fun _ _ _ => trivial) hsends

/--
**An order has everything behind it exactly when its pass judged its own observation.**
Whatever the stores and the broker hold, when a worker is about to send an order, all
that was to be checked was checked, and the only thing that can be missing is that the
snapshot reconciliation found MATCHED is the one the pass itself observed.
-/
theorem order_authorized_iff {w : World} {s : Config Nat Task World Call Call.Answer PyError}
    {i : Nat} {q : Task} {past : Past} {order : ApprovedOrder}
    {k : Except PyError ExecutionResult → Pass Unit} (h : Reachable w s)
    (ht : s.threads i = some ⟨q, past, .call (.orderSend order) k⟩) :
    AuthorizationComplete q.orchestrator past order ↔ JudgedOwn past := by
  obtain ⟨z, now, hproceeded, hobs, snapshot, positions, orders, hmatched⟩ :=
    reachable_allowed (D := fun q => entryDiscipline q.orchestrator) program_sends
      (fun _ => rfl) h ht
  constructor
  · rintro ⟨z', now', hp, hflat⟩
    exact ⟨_, hp.observed.1, hflat.matched.judged, hflat.matched.positionRows,
      hflat.matched.orderRows⟩
  · exact fun hown => ⟨z, now, hproceeded, flatAndMatched hobs hmatched hown⟩

end

/-! ## A pass that judges its own observation, and one that does not -/

/-- The order worker `i` is about to send, and what it has behind it. -/
def dueOrder (s : Config Nat Task World Call Call.Answer PyError) (i : Nat) :
    Option (Task × Past × ApprovedOrder) :=
  match s.threads i with
  | some ⟨q, past, .call (.orderSend order) _⟩ => some (q, past, order)
  | _ => none

theorem dueOrder_eq_some {s : Config Nat Task World Call Call.Answer PyError} {i : Nat} {q : Task}
    {past : Past} {order : ApprovedOrder} (h : dueOrder s i = some (q, past, order)) :
    ∃ k, s.threads i = some ⟨q, past, .call (.orderSend order) k⟩ := by
  unfold dueOrder at h
  split at h
  · rename_i ht
    cases h
    exact ⟨_, ht⟩
  · cases h

namespace Sample

/-- Calls that give out one fresh id. -/
def observing (id : String) (n : Nat) : List (Move Nat Task Oracle World.Event) :=
  List.replicate n (.call 0 { calm with replies := { replies with freshId := ⟨id⟩ } })

/-- The worker's next call, with the broker's terminal out of reach. -/
def unreachable : Move Nat Task Oracle World.Event :=
  .call 0 { calm with fault := some ⟨.mt5CallFailed, "positions_get failed"⟩ }

/-- What another process observes of the same account, empty. -/
def elsewhere : BrokerStateObservation :=
  (BrokerReading.mk ⟨"elsewhere"⟩ noon account ⟨⟨0, 0⟩, none⟩ (some true) [] .complete [] .complete
    noon).observation .paper "EUR/USD"

/-- One pass up to its order, its two observations apart. -/
def observed : List (Move Nat Task Oracle World.Event) :=
  .start 0 ⟨worker, .runOnce⟩ :: observing "first" 12 ++ observing "second" 28

/-- The positions cannot be read, and before the pass judges what it recorded, another
process records the account as empty. -/
def overlooked : List (Move Nat Task Oracle World.Event) :=
  .start 0 ⟨worker, .runOnce⟩ :: observing "first" 12 ++ observing "second" 7 ++ unreachable
    :: observing "second" 3 ++ .nature (.observe elsewhere) :: observing "second" 17

end Sample

open Sample in
/-- An order goes out though its pass could not read the positions. -/
theorem order_unauthorized :
    ∃ s q past order k, Reachable Sample.world s
      ∧ s.threads 0 = some ⟨q, past, .call (.orderSend order) k⟩
      ∧ ¬ AuthorizationComplete q.orchestrator past order := by
  have hrun : (workers.run Machine.unchecked (Machine.idle Sample.world) overlooked).any
      (fun s => (dueOrder s 0).any fun due => (sight due.2.1).positions.any fun a =>
        match a with
        | .ok _ => false
        | .error _ => true) = true := by decide +kernel
  obtain ⟨s, hs, hp⟩ := Machine.Reach.exists_of_run (G := Machine.Always) _ _
    (fun _ _ _ => trivial) hrun
  obtain ⟨⟨q, past, order⟩, hdue, hread⟩ := (Option.any_eq_true _ _).mp hp
  obtain ⟨k, ht⟩ := dueOrder_eq_some hdue
  refine ⟨s, q, past, order, k, hs, ht, ?_⟩
  rintro ⟨z, now, -, hflat⟩
  rw [hflat.positions] at hread
  cases hread

open Sample in
theorem order_authorized_iff_sample :
    ∃ s q past order k, Reachable Sample.world s
      ∧ s.threads 0 = some ⟨q, past, .call (.orderSend order) k⟩
      ∧ AuthorizationComplete q.orchestrator past order := by
  have hrun : (workers.run Machine.unchecked (Machine.idle Sample.world) observed).any
      (fun s => (dueOrder s 0).any fun due => (sight due.2.1).recorded.any fun o =>
        decide ((sight due.2.1).snapshot = some o.account) && o.positions.isEmpty
          && o.pendingOrders.isEmpty && ((sight due.2.1).positionRows.any (·.isEmpty))
          && ((sight due.2.1).orderRows.any (·.isEmpty))) = true := by decide +kernel
  obtain ⟨s, hs, hp⟩ := Machine.Reach.exists_of_run (G := Machine.Always) _ _
    (fun _ _ _ => trivial) hrun
  obtain ⟨⟨q, past, order⟩, hdue, hown⟩ := (Option.any_eq_true _ _).mp hp
  obtain ⟨k, ht⟩ := dueOrder_eq_some hdue
  refine ⟨s, q, past, order, k, hs, ht, (order_authorized_iff hs ht).mpr ?_⟩
  simp only [Option.any_eq_true, Bool.and_eq_true, decide_eq_true_eq, List.isEmpty_iff] at hown
  obtain ⟨o, hrec, ⟨⟨⟨hsnap, hpos⟩, hord⟩, ⟨rows, hrows, rfl⟩⟩, orders, horders, rfl⟩ := hown
  exact ⟨o, hrec, hsnap, by rw [hrows, hpos], by rw [horders, hord]⟩

end Crumblr
