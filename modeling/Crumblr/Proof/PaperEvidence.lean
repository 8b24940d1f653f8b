import Crumblr.Application.PaperWorker
import Crumblr.Proof.Commitments

/-!
# What a paper process knows when it acts

Three of its calls change the positions: an observation, a flatten and an order. Each is made on
positions that the process has just been able to report. An order is made in a call in which the
gateway accepted a proposal, risk passed and policy approved its intent, nobody had halted, the
session was open, the reviewing agent approved if there is one, and the broker accepted the check
of that very order.
-/

namespace Crumblr.PaperLite

open SupervisorReview (evaluateSupervisorReview)

/-- The calls of a pass so far, with their answers. -/
abbrev PaperPast : Type := Trace PaperCall PaperCall.Answer PyError

/-! ## What the process has heard of its own memory -/

/-- The switch as far as it is known after a call. -/
def switchAfter (known : Option KillSwitch) : Entry PaperCall PaperCall.Answer PyError →
    Option KillSwitch
  | ⟨.inl .killSwitch, .ok killSwitch⟩ => some killSwitch
  | ⟨.inl (.trip _), _⟩ => none
  | _ => known

/-- The switch as the process last read it, if it did not halt since. -/
def heardSwitch (past : PaperPast) : Option KillSwitch :=
  past.foldr (fun entry known => switchAfter known entry) none

/-- The books that are known after a call. -/
def booksAfter (known : List DurablePaperBroker) : Entry PaperCall PaperCall.Answer PyError →
    List DurablePaperBroker
  | ⟨.inr .book, .ok b⟩ => b :: known
  | ⟨.inr (.operate (.recordAuditFact ..)), _⟩ => known
  | ⟨.inr (.operate _), _⟩ => []
  | _ => known

/-- The books the process has read since it last changed the positions. -/
def heardBooks (past : PaperPast) : List DurablePaperBroker :=
  past.foldr (fun entry known => booksAfter known entry) []

@[simp] theorem heardSwitch_cons (entry : Entry PaperCall PaperCall.Answer PyError)
    (past : PaperPast) : heardSwitch (entry :: past) = switchAfter (heardSwitch past) entry := rfl

@[simp] theorem heardBooks_cons (entry : Entry PaperCall PaperCall.Answer PyError)
    (past : PaperPast) : heardBooks (entry :: past) = booksAfter (heardBooks past) entry := rfl

/-- Calls that neither read nor change the switch. -/
def LeavesSwitch : PaperCall → Prop
  | .inl .killSwitch => False
  | .inl (.trip _) => False
  | _ => True

/-- Calls that change no position. -/
def LeavesBook : PaperCall → Prop
  | .inr (.operate (.recordAuditFact ..)) => True
  | .inr (.operate _) => False
  | _ => True

theorem switchAfter_of_leaves {c : PaperCall} (hc : LeavesSwitch c)
    (a : Except PyError (PaperCall.Answer c)) (known : Option KillSwitch) :
    switchAfter known ⟨c, a⟩ = known := by
  rcases c with c | c
  · cases c <;> first | exact hc.elim | rfl
  · rfl

theorem mem_booksAfter {c : PaperCall} (hc : LeavesBook c)
    (a : Except PyError (PaperCall.Answer c)) {known : List DurablePaperBroker}
    {b : DurablePaperBroker} (hb : b ∈ known) : b ∈ booksAfter known ⟨c, a⟩ := by
  rcases c with c | c
  · exact hb
  · cases c with
    | book =>
        cases a with
        | ok b' => exact List.mem_cons_of_mem _ hb
        | error e => exact hb
    | operate op =>
        cases op with
        | recordAuditFact fact correlationId detail => exact hb
        | _ => cases hc
    | _ => exact hb

/-- The positions that stand now could be reported, or there is nothing yet to report. -/
def Reportable (past : PaperPast) : Prop :=
  ∃ b ∈ heardBooks past, b.latestTick = none ∨ ∃ positions, b.broker.positions = .ok positions

theorem Reportable.cons {past : PaperPast} (h : Reportable past) {c : PaperCall}
    (hc : LeavesBook c) (a : Except PyError (PaperCall.Answer c)) : Reportable (⟨c, a⟩ :: past) := by
  obtain ⟨b, hb, hreport⟩ := h
  exact ⟨b, mem_booksAfter hc a hb, hreport⟩

/-! ## The evidence for an order -/

/-- An event with this payload was recorded. -/
def Recorded (past : PaperPast) (payload : LivePayload) : Prop :=
  ∃ event : LiveEvent, event.payload = payload ∧ ⟨.inl (.record event), .ok ()⟩ ∈ past

/-- What an order rests on. -/
structure Grounds where
  proposal : TradeProposal
  result : AgentDecisionOutcomeResult
  intent : TradeIntent
  risk : RiskDecision
  policy : SupervisorDecision

variable [Externals]

/-- The reviewing agent was asked about the intent, and its answer approves. -/
def Endorsed (q : Observation) (past : PaperPast) (g : Grounds) : Prop :=
  ∃ review, ⟨.inl (.review g.proposal g.intent g.risk.decisionId g.policy.decisionId q.now),
      .ok review⟩ ∈ past
    ∧ (evaluateSupervisorReview review g.proposal.proposalId g.intent.intentId
        g.intent.decisionHash q.now).verdict = .approve

/-- The gateway, called at the observation's time, answered that it accepts the proposal, with this
intent. -/
structure Accepted (q : Observation) (past : PaperPast) (g : Grounds) : Prop where
  answered : ∃ call : GatewayCall, call.submission = .proposal g.proposal ∧ call.now = q.now
    ∧ ⟨.inr (.transact call), .ok g.result⟩ ∈ past
  accepted : g.result.accepted = true
  intent : g.result.tradeIntent = some g.intent

/-- Everything between a proposal and its order let it through. -/
structure Judged (o : PaperLiteOrchestrator) (q : Observation) (past : PaperPast) (g : Grounds) :
    Prop where
  accepted : Accepted q past g
  open_ : o.sessionPhase q.now = .open
  running : ∃ killSwitch, heardSwitch past = some killSwitch ∧ killSwitch.isHalted = false
  passed : Recorded past (.risk g.risk) ∧ g.risk.verdict = .pass
  approved : Recorded past (.supervisor g.policy) ∧ g.policy.verdict = .approve
  endorsed : o.externalSupervisor = true → Endorsed q past g

/-- What an order is made of. -/
structure Carries (order : ApprovedOrder) (g : Grounds) : Prop where
  orderRequestId : order.orderRequestId = PaperLiteOrchestrator.orderId g.intent
  side : order.side = g.intent.side
  stopLossPrice : g.intent.stopLossPrice = some order.stopLossPrice
  volume : g.risk.approvedVolume = some order.volume

/-- An order that may be submitted. -/
structure Authorized (o : PaperLiteOrchestrator) (q : Observation) (past : PaperPast)
    (order : ApprovedOrder) (g : Grounds) : Prop where
  judged : Judged o q past g
  carries : Carries order g
  checked : ∃ b ∈ heardBooks past, ∃ check, b.broker.orderCheck order = .ok check
    ∧ check.accepted = true

/-! ## The discipline -/

section

variable (self : PaperLiteOrchestrator)

/-- Which calls a task may make. -/
def mayCall (task : PaperTask) (past : PaperPast) : PaperCall → Prop
  | .inr (.operate (.advance tick)) =>
      Reportable past ∧ ∃ snapshot, generatedTickFromSnapshot snapshot = .ok tick
  | .inr (.operate (.flattenAll ..)) => Reportable past
  | .inr (.operate (.submit order _ _)) =>
      Reportable past ∧ ∃ q g, task = .process q ∧ Authorized self q past order.val g
  | _ => True

/-- What the surroundings can answer. -/
def mayAnswer : (c : PaperCall) → Except PyError (PaperCall.Answer c) → Prop
  | .inr (.authenticateOwn _ _ submission now), .ok call =>
      call.submission = submission ∧ call.now = now
  | _, _ => True

def paperDiscipline (task : PaperTask) : Discipline PaperCall PaperCall.Answer PyError where
  allows := mayCall self task
  answers := mayAnswer

end

variable {self : PaperLiteOrchestrator} {q : Observation}

theorem mayCall_of_leaves {task : PaperTask} {past : PaperPast} {c : PaperCall}
    (hc : LeavesBook c) : mayCall self task past c := by
  rcases c with c | c
  · trivial
  · cases c with
    | operate op =>
        cases op with
        | recordAuditFact fact correlationId detail => trivial
        | _ => cases hc
    | _ => trivial

theorem authenticateOwn_submission {g : GatewayRegistries} {agentId : Uuid} {credentialSecret : String}
    {submission : AgentSubmission} {now : UtcDatetime} {call : GatewayCall}
    (h : AgentGateway.authenticateOwn g agentId credentialSecret submission now = .ok call) :
    call.submission = submission ∧ call.now = now := by
  obtain ⟨identity, -, h⟩ := bind_ok h
  split at h
  · cases h
    exact ⟨rfl, rfl⟩
  · cases h

/-- What the world answers, the discipline expects. -/
theorem mayAnswer_serve (w : PaperWorld) (o : PaperOracle) (c : PaperCall) :
    mayAnswer c (w.serve o c).1 := by
  rcases c with c | c
  · trivial
  · cases c with
    | authenticateOwn agentId credentialSecret submission now =>
        cases hserve : (w.serve o (.inr (.authenticateOwn agentId credentialSecret submission now))).1 with
        | error e => trivial
        | ok call =>
            unfold PaperWorld.serve at hserve
            split at hserve
            · cases hserve
            · simp only [PaperWorld.serveOwn] at hserve
              split at hserve
              · cases hserve
              · exact authenticateOwn_submission hserve
    | _ => trivial

/-! ## What stays known -/

/-- The past has gone on, and no position has changed since. -/
structure Later (past past' : PaperPast) : Prop where
  suffix : past <:+ past'
  books : heardBooks past ⊆ heardBooks past'

section

variable {past past' past'' : PaperPast}

omit [Externals] in
theorem Later.refl (past : PaperPast) : Later past past := ⟨List.suffix_refl _, fun _ h => h⟩

omit [Externals] in
theorem Later.trans (h : Later past past') (h' : Later past' past'') : Later past past'' :=
  ⟨h.suffix.trans h'.suffix, fun _ hb => h'.books (h.books hb)⟩

omit [Externals] in
theorem Later.cons (h : Later past past') {c : PaperCall} (hc : LeavesBook c)
    (a : Except PyError (PaperCall.Answer c)) : Later past (⟨c, a⟩ :: past') :=
  ⟨h.suffix.trans (List.suffix_cons ..), fun _ hb => mem_booksAfter hc a (h.books hb)⟩

omit [Externals] in
theorem Later.reportable (h : Later past past') (hr : Reportable past) : Reportable past' := by
  obtain ⟨b, hb, hreport⟩ := hr
  exact ⟨b, h.books hb, hreport⟩

omit [Externals] in
theorem Later.recorded (h : Later past past') {payload : LivePayload}
    (hr : Recorded past payload) : Recorded past' payload := by
  obtain ⟨event, hevent, hmem⟩ := hr
  exact ⟨event, hevent, h.suffix.subset hmem⟩

omit [Externals] in
theorem Later.accepted (h : Later past past') {g : Grounds} (ha : Accepted q past g) :
    Accepted q past' g := by
  obtain ⟨⟨call, hcall, hnow, hmem⟩, haccepted, hintent⟩ := ha
  exact ⟨⟨call, hcall, hnow, h.suffix.subset hmem⟩, haccepted, hintent⟩

theorem Later.endorsed (h : Later past past') {g : Grounds} (he : Endorsed q past g) :
    Endorsed q past' g := by
  obtain ⟨review, hmem, hreview⟩ := he
  exact ⟨review, h.suffix.subset hmem, hreview⟩

theorem Later.judged (h : Later past past') {g : Grounds} (hj : Judged self q past g)
    (hswitch : heardSwitch past' = heardSwitch past) : Judged self q past' g where
  accepted := h.accepted hj.accepted
  open_ := hj.open_
  running := hswitch ▸ hj.running
  passed := ⟨h.recorded hj.passed.1, hj.passed.2⟩
  approved := ⟨h.recorded hj.approved.1, hj.approved.2⟩
  endorsed := fun hsupervisor => h.endorsed (hj.endorsed hsupervisor)

end

/-! ## Programs that change no position -/

section

variable {task : PaperTask} {past : PaperPast} {α β : Type}

/-- A program of the task, and what is known where it returns. -/
abbrev Knows (self : PaperLiteOrchestrator) (task : PaperTask) (past : PaperPast)
    (p : PaperPass α) (Q : PaperPast → α → Prop) : Prop :=
  Leads (paperDiscipline self task).protocol past p Q

/-- Calls that change neither the positions nor the switch, nor read the switch. -/
def Quiet (c : PaperCall) : Prop := LeavesBook c ∧ LeavesSwitch c

theorem knows_leaving {p : PaperPass α} (hp : Only LeavesBook p) :
    Knows self task past p fun past' _ => Later past past' :=
  Leads.frame hp (fun _ _ hc => mayCall_of_leaves hc) (fun _ _ _ h hc => h.cons hc _)
    (Later.refl past)

theorem knows_quiet {p : PaperPass α} (hp : Only Quiet p) :
    Knows self task past p fun past' _ =>
      Later past past' ∧ heardSwitch past' = heardSwitch past := by
  refine Leads.frame hp (fun _ _ hc => mayCall_of_leaves hc.1) (fun past' c a h hc => ?_)
    ⟨Later.refl past, rfl⟩
  exact ⟨h.1.cons hc.1 _, (switchAfter_of_leaves hc.2 a _).trans h.2⟩

omit [Externals] in
/-- The decision path changes no position. -/
theorem leaving_inl (p : AgentPass α) : Only LeavesBook (p.inl : PaperPass α) := by
  induction p with
  | ret a => trivial
  | raise e => trivial
  | call c k ih => exact ⟨trivial, ih⟩

omit [Externals] in
theorem leaving_tripRiskSessionAt {reasonCodes : List ReasonCode} {occurredAtUtc : UtcDatetime}
    {correlationId : Uuid} {detail : Option String} :
    Only LeavesBook (PaperLiteOrchestrator.tripRiskSessionAt reasonCodes occurredAtUtc
      correlationId detail) := by
  unfold PaperLiteOrchestrator.tripRiskSessionAt
  refine Only.bind (Only.perform trivial) fun killSwitch => Only.ite Only.ret (Only.ite Only.raise ?_)
  exact Only.bind (Only.perform trivial) fun _ => Only.bind (Only.perform trivial) fun _ =>
    Only.perform trivial

omit [Externals] in
theorem leaving_rememberSession {ledger : EquityLedger} {tradingDay : Option Date} :
    Only LeavesBook (PaperLiteOrchestrator.rememberSession ledger tradingDay) :=
  Only.bind (Only.perform trivial) fun _ => Only.perform trivial

omit [Externals] in
theorem leaving_loadRiskSession : Only LeavesBook self.loadRiskSession := by
  unfold PaperLiteOrchestrator.loadRiskSession
  exact Only.rescue (Only.bind (Only.perform trivial) fun _ =>
    Only.bind (Only.perform trivial) fun _ => Only.ret) fun _ => Only.ret

theorem leaving_persistRiskSession : Only LeavesBook self.persistRiskSession := by
  unfold PaperLiteOrchestrator.persistRiskSession
  refine Only.bind (Only.perform trivial) fun m => ?_
  split
  · refine Only.bind (Only.perform trivial) fun b => Only.bind Only.ofExcept fun account =>
      Only.bind Only.ofExcept fun positions => Only.bind Only.ofExcept fun openRisk => ?_
    refine Only.bind (Only.perform trivial) fun _ => Only.bind Only.ofExcept fun view => ?_
    exact Only.rescue (Only.perform trivial) fun _ => leaving_tripRiskSessionAt
  · exact Only.ret

/-! ## Up to the agent's decision -/

omit [Externals] in
/-- A book that is read and whose positions can be reported. -/
theorem reportable_read {b : DurablePaperBroker} {positions : List PositionState}
    (h : b.broker.positions = .ok positions) : Reportable (⟨.inr .book, .ok b⟩ :: past) :=
  ⟨b, List.mem_cons_self .., .inr ⟨positions, h⟩⟩

/-- A recovery that returns has read the positions, and changes none. -/
theorem knows_recoverRiskSession {snapshot : BarredSnapshot} :
    Knows self task past (self.recoverRiskSession snapshot) fun past' _ => Reportable past' := by
  unfold PaperLiteOrchestrator.recoverRiskSession
  refine Leads.next trivial fun b _ => Leads.bind.mpr (Leads.ofExcept.mpr fun account _ => ?_)
  refine Leads.bind.mpr (Leads.ofExcept.mpr fun positions hpositions => ?_)
  have hread : Reportable ((⟨.inr .book, .ok b⟩ : Entry PaperCall PaperCall.Answer PyError) :: past) :=
    reportable_read hpositions
  refine Leads.mono (knows_leaving ?_) fun past' _ hlater => hlater.reportable hread
  refine Only.bind leaving_loadRiskSession fun found => ?_
  split
  · exact Only.bind Only.ofExcept fun ledger => Only.bind leaving_rememberSession fun _ =>
      leaving_tripRiskSessionAt
  · refine Only.ite ?_ ?_
    · exact Only.bind Only.ofExcept fun ledger => Only.bind leaving_rememberSession fun _ =>
        leaving_tripRiskSessionAt
    · exact Only.bind Only.ofExcept fun recovery => Only.bind leaving_rememberSession fun _ =>
        Only.ite leaving_tripRiskSessionAt Only.ret

theorem knows_takeSnapshot :
    Knows self task past (self.takeSnapshot q) fun _ _ => True := by
  unfold PaperLiteOrchestrator.takeSnapshot
  refine Leads.bind.mpr (Leads.ofExcept.mpr fun _ _ => Leads.next trivial fun b _ => ?_)
  -- what comes after the recovery, if there is anything to recover
  have hrest : ∀ past', Reportable past' → Knows self task past' (do
      let tick ← lift (generatedTickFromSnapshot q.snapshot)
      let closedTrades ← own (.operate (.advance tick))
      let m ← own .memory
      if m.ledger.isNone then self.recoverRiskSession q.snapshot
      let m ← own .memory
      own (.remember { m with recordedAtUtc := some q.snapshot.receivedTimeUtc })
      pure closedTrades) fun _ _ => True := by
    intro past' hreport
    refine Leads.bind.mpr (Leads.ofExcept.mpr fun tick htick => ?_)
    refine Leads.next ⟨hreport, q.snapshot, htick⟩ fun closedTrades _ => ?_
    refine Leads.next trivial fun m _ => ?_
    have hend : ∀ past'', Knows self task past'' (do
        let m ← own .memory
        own (.remember { m with recordedAtUtc := some q.snapshot.receivedTimeUtc })
        pure closedTrades) fun _ _ => True := fun past'' =>
      Leads.next trivial fun _ _ => Leads.next trivial fun _ _ => Leads.ret.mpr trivial
    dsimp only
    split
    · exact Leads.seq knows_recoverRiskSession fun past'' _ _ => hend past''
    · exact hend _
  dsimp only
  split
  · exact Leads.seq knows_recoverRiskSession fun past' _ hreport => hrest past' hreport
  · rename_i hnone
    refine hrest _ ⟨b, List.mem_cons_self .., .inl ?_⟩
    simpa [DurablePaperBroker.hasMarketObservation] using hnone

theorem knows_flattenBook {now : UtcDatetime} {closedTrades : List ClosedTrade}
    (hreport : Reportable past) :
    Knows self task past (PaperLiteOrchestrator.flattenBook now closedTrades) fun _ _ => True := by
  unfold PaperLiteOrchestrator.flattenBook
  refine Leads.next trivial fun b _ => Leads.next (hreport.cons (c := .inr .book) trivial _) fun tickets _ => ?_
  refine Leads.next trivial fun b' _ => ?_
  dsimp only
  split
  · exact Leads.raise.mpr trivial
  · exact Leads.ret.mpr trivial

theorem knows_meetSession {closedTrades : List ClosedTrade} :
    Knows self task past (self.meetSession q closedTrades) fun _ _ => True := by
  unfold PaperLiteOrchestrator.meetSession
  dsimp only
  split
  · refine Leads.next trivial fun b _ => ?_
    refine Leads.bind.mpr (Leads.ofExcept.mpr fun positions hpositions => ?_)
    split
    · exact Leads.ret.mpr trivial
    · split
      · exact knows_flattenBook (reportable_read hpositions)
      · refine Leads.seq (knows_leaving leaving_tripRiskSessionAt) fun past' _ _ => ?_
        exact Leads.seq (knows_leaving leaving_persistRiskSession) fun past'' _ _ =>
          Leads.raise.mpr trivial
  · exact Leads.ret.mpr trivial

theorem leaving_claimWindow {snapshot : BarredSnapshot} :
    Only LeavesBook (self.claimWindow snapshot) := by
  unfold PaperLiteOrchestrator.claimWindow
  split
  · exact Only.raise
  · exact Only.perform trivial

/-- What an agent is shown is of positions that could be reported. -/
theorem knows_askAgent :
    Knows self task past (self.askAgent q) fun past' _ => Reportable past' := by
  unfold PaperLiteOrchestrator.askAgent
  refine Leads.next trivial fun b _ => Leads.bind.mpr (Leads.ofExcept.mpr fun account _ => ?_)
  refine Leads.bind.mpr (Leads.ofExcept.mpr fun positions hpositions => ?_)
  have hread : Reportable ((⟨.inr .book, .ok b⟩ : Entry PaperCall PaperCall.Answer PyError) :: past) :=
    reportable_read hpositions
  refine Leads.mono (knows_leaving ?_) fun past' _ hlater => hlater.reportable hread
  refine Only.bind Only.ofExcept fun openRisk => Only.bind ?_ fun bundle => ?_
  · unfold PaperLiteOrchestrator.publishContext
    exact Only.bind Only.ofExcept fun hints => Only.bind (Only.perform trivial) fun _ =>
      Only.bind (Only.perform trivial) fun contextId => Only.bind (Only.perform trivial) fun _ =>
        Only.ret
  · exact Only.bind (Only.perform trivial) fun killSwitch => Only.bind Only.ofExcept fun fraction =>
      Only.bind (Only.perform trivial) fun decision => Only.ret

/-- What the gateway answers is an answer to the decision. -/
theorem knows_submitToGateway {decision : AgentSubmission} {now : UtcDatetime} :
    Knows self task past (self.submitToGateway decision now) fun past' result =>
      Later past past' ∧ ∃ call : GatewayCall, call.submission = decision ∧ call.now = now
        ∧ ⟨.inr (.transact call), .ok result⟩ ∈ past' := by
  unfold PaperLiteOrchestrator.submitToGateway
  refine Leads.next trivial fun call hcall => ?_
  refine Leads.heard.mpr
    ⟨trivial, fun result _ => ⟨?_, call, hcall.1, hcall.2, List.mem_cons_self ..⟩⟩
  exact ((Later.refl past).cons (c := .inr (.authenticateOwn ..)) trivial _).cons (c := .inr (.transact call))
    trivial _

/-! ## The decision path -/

/-- A program of the decision path, as a part of the task. -/
abbrev PathKnows (self : PaperLiteOrchestrator) (task : PaperTask) (past : PaperPast)
    (p : AgentPass α) (Q : PaperPast → α → Prop) : Prop :=
  Leads (paperDiscipline self task).protocol.left past p Q

/-- One call of the decision path, and then the rest. -/
theorem pathKnows_next {c : AgentCall} {f : c.Answer → AgentPass β} {Q : PaperPast → β → Prop}
    (hf : ∀ a, PathKnows self task (⟨.inl c, .ok a⟩ :: past) (f a) Q) :
    PathKnows self task past ((Prog.perform c).bind f) Q := by
  refine Leads.bind.mpr (Leads.perform.mpr ⟨trivial, ?_⟩)
  rintro a past' ⟨-, rfl⟩
  exact hf a

/-- Whatever the decision path does, no position changes. -/
theorem pathKnows_later {p : AgentPass α} :
    PathKnows self task past p fun past' _ => Later past past' := by
  unfold PathKnows Leads
  have hall : ∀ (p : AgentPass α), Only (fun _ => True) p := by
    intro p
    induction p with
    | ret a => trivial
    | raise e => trivial
    | call c k ih => exact ⟨trivial, ih⟩
  refine Conforms.mono (fun _ _ h _ _ => h) (Only.conforms (N := fun _ => True)
    (I := fun past' => Later past past') (fun _ _ _ _ => trivial) ?_ (hall p) (Later.refl past))
  rintro past' c a past'' h - ⟨-, rfl⟩
  exact h.cons (c := .inl c) trivial a

/-- A stage that halts goes on with what comes after it, and so does one that does not. -/
theorem pathKnows_halting {halts : Prop} [Decidable halts] {trip : AgentPass Unit}
    {rest : Unit → AgentPass β} {Q : PaperPast → β → Prop}
    (htrip : halts → ∀ past', Later past past' → PathKnows self task past' (rest ()) Q)
    (hrest : ¬ halts → PathKnows self task past (rest ()) Q) :
    PathKnows self task past (if halts then trip.bind rest else rest ()) Q := by
  split
  · rename_i hhalts
    exact Leads.seq pathKnows_later fun past' _ h => htrip hhalts past' h
  · rename_i hgo
    exact hrest hgo

/-- What an evaluation of an intent says of what risk, policy and the reviewing agent said. -/
def Evaluated (q : Observation) (proposal : TradeProposal) (intent : TradeIntent)
    (past past' : PaperPast) (path : AgentDecisionPathResult) : Prop :=
  Later past past' ∧ ∀ risk policy, path.riskDecision = some risk → risk.verdict = .pass →
    path.supervisorDecision = some policy → policy.verdict = .approve →
    (∃ killSwitch, heardSwitch past' = some killSwitch ∧ killSwitch.isHalted = false)
      ∧ Recorded past' (.risk risk) ∧ Recorded past' (.supervisor policy)
      ∧ ∀ outcome, path.externalSupervisorOutcome = some outcome → outcome.verdict = .approve →
        ∀ result, Endorsed q past' ⟨proposal, result, intent, risk, policy⟩

/-- A result of an evaluation that did not get to the policy gate claims nothing. -/
theorem evaluated_unjudged {proposal : TradeProposal} {intent : TradeIntent} {past' : PaperPast}
    {capsule : SealedCapsule} {riskDecision : Option RiskDecision} (h : Later past past') :
    Evaluated q proposal intent past past' ⟨capsule, riskDecision, none, none, none⟩ :=
  ⟨h, fun _ _ _ _ hpolicy => by cases hpolicy⟩

variable {proposal : TradeProposal} {intent : TradeIntent} {d : AgentDecisionPath}

/-- What asking the reviewing agent says, in the path of a proposal. -/
theorem pathKnows_askSupervisor {risk : RiskDecision} {policy : SupervisorDecision}
    (hproposal : d.proposal = some proposal) (hnow : d.now = q.now) :
    PathKnows self task past (d.askSupervisor intent risk policy)
      fun past' review => (Later past past' ∧ heardSwitch past' = heardSwitch past) ∧
        ∀ outcome record, review = some (outcome, record) → outcome.verdict = .approve →
          ∀ result, Endorsed q past' ⟨proposal, result, intent, risk, policy⟩ := by
  unfold AgentDecisionPath.askSupervisor
  rw [hproposal, hnow]
  dsimp only
  split
  · refine pathKnows_next fun review => Leads.ret.mpr ⟨⟨?_, rfl⟩, ?_⟩
    · exact (Later.refl past).cons (c := .inl (.review ..)) trivial _
    · rintro outcome record heq happrove result
      cases heq
      exact ⟨review, List.mem_cons_self .., happrove⟩
  · exact Leads.ret.mpr ⟨⟨Later.refl past, rfl⟩, fun _ _ h => by cases h⟩

/-- The review and the sealing, of what risk and policy said. -/
theorem pathKnows_reviewAndSeal {portfolio : PortfolioSnapshot} {risk : RiskDecision}
    {policy : SupervisorDecision} {past₀ : PaperPast} (hproposal : d.proposal = some proposal)
    (hnow : d.now = q.now) (hlater : Later past₀ past)
    (hrisk : Recorded past (.risk risk)) (hpolicy : Recorded past (.supervisor policy))
    (hrunning : policy.verdict = .approve →
      ∃ killSwitch, heardSwitch past = some killSwitch ∧ killSwitch.isHalted = false) :
    PathKnows self task past (do
      let review ← d.askSupervisor intent risk policy
      let capsule := d.capsuleOf (some intent) (some risk) (some policy) portfolio.openPositions
      AgentDecisionPath.ask (.seal capsule)
      pure ⟨capsule, some risk, some policy, review.map (·.1), review.map (·.2)⟩)
      fun past' path => Evaluated q proposal intent past₀ past' path := by
  refine Leads.seq (pathKnows_askSupervisor hproposal hnow) fun past₁ review hreview => ?_
  obtain ⟨⟨hlater₁, hswitch⟩, hendorsed⟩ := hreview
  refine pathKnows_next fun _ => Leads.ret.mpr ?_
  have hsealed := (Later.refl past₁).cons (c := .inl (.seal (d.capsuleOf (some intent) (some risk)
    (some policy) portfolio.openPositions))) trivial (.ok ())
  refine ⟨(hlater.trans hlater₁).trans hsealed, ?_⟩
  rintro _ _ ⟨⟩ - ⟨⟩ happrove
  refine ⟨?_, (hlater₁.trans hsealed).recorded hrisk, (hlater₁.trans hsealed).recorded hpolicy, ?_⟩
  · change ∃ killSwitch, heardSwitch past₁ = some killSwitch ∧ _
    rw [hswitch]
    exact hrunning happrove
  · intro outcome houtcome hverdict result
    obtain ⟨⟨o, record⟩, hsome, rfl⟩ := Option.map_eq_some_iff.mp houtcome
    exact hsealed.endorsed (hendorsed _ _ hsome hverdict result)

theorem pathKnows_gateAndReview {portfolio : PortfolioSnapshot} {risk : RiskDecision}
    {past₀ : PaperPast} (hproposal : d.proposal = some proposal) (hnow : d.now = q.now)
    (hlater : Later past₀ past) (hrisk : Recorded past (.risk risk))
    (hrunning : ∃ killSwitch, heardSwitch past = some killSwitch ∧ killSwitch.isHalted = false) :
    PathKnows self task past (d.gateAndReview portfolio intent risk)
      fun past' path => Evaluated q proposal intent past₀ past' path := by
  unfold AgentDecisionPath.gateAndReview
  refine pathKnows_next fun _ => ?_
  set policy := AgentDecisionPath.evaluatePlatformPolicy intent d.incidentStatus
    portfolio.reconciliationStatus d.now
  set event : LiveEvent :=
    ⟨.supervisor policy, d.snapshot.snapshotId, d.snapshot.eventTimeUtc, "supervisor"⟩
  have hrecord := (Later.refl past).cons (c := .inl (.record event)) trivial (.ok ())
  have hpolicy : Recorded ((⟨.inl (.record event), .ok ()⟩ :
      Entry PaperCall PaperCall.Answer PyError) :: past) (.supervisor policy) :=
    ⟨event, rfl, List.mem_cons_self ..⟩
  refine pathKnows_halting (fun hhalt past₁ hlater₁ => ?_) fun _ => ?_
  · -- a policy that halts does not approve
    refine pathKnows_reviewAndSeal hproposal hnow (hlater.trans (hrecord.trans hlater₁))
      ((hrecord.trans hlater₁).recorded hrisk) (hlater₁.recorded hpolicy) fun happrove => ?_
    rw [hhalt] at happrove
    cases happrove
  · exact pathKnows_reviewAndSeal hproposal hnow (hlater.trans hrecord) (hrecord.recorded hrisk)
      hpolicy fun _ => hrunning

theorem pathKnows_judgeIntent {portfolio : PortfolioSnapshot} {past₀ : PaperPast}
    (hproposal : d.proposal = some proposal) (hnow : d.now = q.now) (hlater : Later past₀ past) :
    PathKnows self task past (d.judgeIntent portfolio intent)
      fun past' path => Evaluated q proposal intent past₀ past' path := by
  unfold AgentDecisionPath.judgeIntent
  refine pathKnows_next fun _ => Leads.seq pathKnows_later fun past₁ recovery hlater₁ => ?_
  replace hlater₁ := hlater.trans (((Later.refl past).cons (c := .inl (.record _)) trivial _).trans
    hlater₁)
  suffices hrest : ∀ past₂, Later past₀ past₂ → PathKnows self task past₂ _
      fun past' path => Evaluated q proposal intent past₀ past' path from
    pathKnows_halting (fun _ past₂ hlater₂ => hrest past₂ (hlater₁.trans hlater₂))
      fun _ => hrest past₁ hlater₁
  intro past₂ hlater₂
  refine Leads.bind.mpr (Leads.ofExcept.mpr fun openRisk _ => ?_)
  refine Leads.bind.mpr (Leads.ofExcept.mpr fun context _ => ?_)
  refine pathKnows_next fun killSwitch => ?_
  refine Leads.bind.mpr (Leads.ofExcept.mpr fun risk hevaluate => ?_)
  refine pathKnows_next fun _ => ?_
  set event : LiveEvent :=
    ⟨.risk risk, d.snapshot.snapshotId, d.snapshot.eventTimeUtc, "risk_engine"⟩
  set past₃ : PaperPast :=
    ⟨.inl (.record event), .ok ()⟩ :: ⟨.inl .killSwitch, .ok killSwitch⟩ :: past₂
  have hlater₃ : Later past₀ past₃ :=
    (hlater₂.cons (c := .inl .killSwitch) trivial _).cons (c := .inl (.record event)) trivial _
  have hrisk : Recorded past₃ (.risk risk) := ⟨event, rfl, List.mem_cons_self ..⟩
  refine pathKnows_halting (fun hhalt past₄ hlater₄ => ?_) fun _ => ?_
  · split
    · refine pathKnows_next fun _ => Leads.ret.mpr (evaluated_unjudged ?_)
      exact (hlater₃.trans hlater₄).cons (c := .inl (.seal _)) trivial _
    · -- what halts does not pass
      rename_i hpass
      rw [hhalt] at hpass
      exact absurd (by simp) hpass
  · split
    · refine pathKnows_next fun _ => Leads.ret.mpr (evaluated_unjudged ?_)
      exact hlater₃.cons (c := .inl (.seal _)) trivial _
    · rename_i hpass
      have hrunning := (evaluate_pass hevaluate (not_not.mp hpass)).1
      exact pathKnows_gateAndReview hproposal hnow hlater₃ hrisk ⟨killSwitch, rfl, hrunning⟩

/-- **What an evaluation of an accepted proposal leaves known.** -/
theorem knows_evaluate {outcomeId : Uuid} : Knows self task past
    (self.evaluate q outcomeId (some proposal) (some intent))
    fun past' path => Evaluated q proposal intent past past' path := by
  refine Leads.inl (pathKnows_next fun portfolio => pathKnows_judgeIntent rfl rfl ?_)
  exact (Later.refl past).cons (c := .inl .portfolio) trivial _

/-! ## The order -/

theorem leaving_outcome {outcomeType : PaperLiteOutcomeType} {context : AgentMarketContext}
    {gatewayResult : AgentDecisionOutcomeResult} {closedTrades : List ClosedTrade}
    {detail : Option String} {path : Option AgentDecisionPathResult}
    {execution : Option SimulatedResult} :
    Only LeavesBook (self.outcome outcomeType context gatewayResult closedTrades detail path
      execution) := by
  unfold PaperLiteOrchestrator.outcome
  exact Only.bind leaving_persistRiskSession fun _ => Only.bind (Only.perform trivial) fun b =>
    Only.bind Only.ofExcept fun portfolio => Only.ret

/-- A report ends the call. -/
theorem knows_outcome {outcomeType : PaperLiteOutcomeType} {context : AgentMarketContext}
    {gatewayResult : AgentDecisionOutcomeResult} {closedTrades : List ClosedTrade}
    {detail : Option String} {path : Option AgentDecisionPathResult}
    {execution : Option SimulatedResult} :
    Knows self task past (self.outcome outcomeType context gatewayResult closedTrades detail path
      execution) fun _ _ => True :=
  Leads.mono (knows_leaving leaving_outcome) fun _ _ _ => trivial

omit [Externals] in
theorem quiet_audit {fact : String} {outcomeId : Uuid} {detail : Option String} :
    Only Quiet (PaperLiteOrchestrator.audit fact outcomeId detail) :=
  Only.bind (Only.perform ⟨trivial, trivial⟩) fun _ => Only.ret

/-- A verdict that does not block is an approval, if there is a reviewing agent. -/
theorem knows_reviewVerdict {outcomeId : Uuid} {path : AgentDecisionPathResult} :
    Knows self task past (self.reviewVerdict outcomeId path) fun past' verdict =>
      (Later past past' ∧ heardSwitch past' = heardSwitch past) ∧
        (verdict = none → self.externalSupervisor = true → ∃ outcome,
          path.externalSupervisorOutcome = some outcome ∧ outcome.verdict = .approve) := by
  unfold PaperLiteOrchestrator.reviewVerdict
  split
  · refine Leads.bind.mpr (Leads.ofExcept.mpr fun outcome houtcome => ?_)
    refine Leads.seq (knows_quiet quiet_audit) fun past' _ hlater => ?_
    split
    · exact Leads.ret.mpr ⟨hlater, fun h => by cases h⟩
    · rename_i happrove
      exact Leads.ret.mpr ⟨hlater, fun _ _ => ⟨outcome, assertSome_ok houtcome, not_not.mp happrove⟩⟩
  · rename_i hnone
    exact Leads.seq (knows_quiet quiet_audit) fun past' _ hlater =>
      Leads.ret.mpr ⟨hlater, fun _ h => absurd h hnone⟩

omit [Externals] in
/-- An order that is built is of what it was built from. -/
theorem order_create_ok {orderRequestId intentId intentRiskDecisionId : Uuid}
    {finalRiskDecisionId : Option Uuid} {supervisorDecisionId : Uuid} {brokerSymbol : String}
    {side : Side} {entryType : EntryType} {volume : Volume} {price : Option Price}
    {stopLossPrice : Price} {takeProfitPrice : Option Price} {maxSlippagePoints : Nat}
    {createdAtUtc expiresAtUtc : UtcDatetime} {environment : Environment} {order : ApprovedOrder}
    (h : ApprovedOrder.create orderRequestId intentId intentRiskDecisionId finalRiskDecisionId
      supervisorDecisionId brokerSymbol side entryType volume price stopLossPrice takeProfitPrice
      maxSlippagePoints createdAtUtc expiresAtUtc environment = .ok order) :
    order.orderRequestId = orderRequestId ∧ order.side = side
      ∧ order.stopLossPrice = stopLossPrice ∧ order.volume = volume := by
  unfold ApprovedOrder.create at h
  repeat' split at h
  all_goals cases h
  exact ⟨rfl, rfl, rfl, rfl⟩

/-- An order carries what the intent and the risk decision say. -/
theorem carries_approvedOrder {g : Grounds} {order : PaperOrder} {riskAmount : Decimal}
    (h : self.approvedOrder q g.intent g.risk g.policy = .ok (order, riskAmount)) :
    Carries order.val g := by
  obtain ⟨volume, hvolume, h⟩ := bind_ok h
  obtain ⟨amount, -, h⟩ := bind_ok h
  obtain ⟨stop, hstop, h⟩ := bind_ok h
  obtain ⟨approved, happroved, h⟩ := bind_ok h
  obtain ⟨order', horder, h⟩ := bind_ok h
  cases h
  have hval : order.val = approved := by
    unfold PaperLiteOrchestrator.paperOrder at horder
    split at horder
    · cases horder
      rfl
    · cases horder
  obtain ⟨hid, hside, hstops, hvolumes⟩ := order_create_ok happroved
  rw [hval]
  exact ⟨hid, hside, hstops ▸ assertSome_ok hstop, hvolumes ▸ assertSome_ok hvolume⟩

theorem knows_fill {g : Grounds} {context : AgentMarketContext} {closedTrades : List ClosedTrade}
    {path : AgentDecisionPathResult} (htask : task = .process q) (hreport : Reportable past)
    (hjudged : Judged self q past g) :
    Knows self task past (self.fill q context g.result closedTrades path g.intent g.risk g.policy)
      fun _ _ => True := by
  unfold PaperLiteOrchestrator.fill
  refine Leads.bind.mpr (Leads.ofExcept.mpr fun ⟨order, riskAmount⟩ horder => ?_)
  refine Leads.next trivial fun b _ => Leads.bind.mpr (Leads.ofExcept.mpr fun check hcheck => ?_)
  have hread := (Later.refl past).cons (c := .inr .book) trivial (.ok b)
  split
  · exact Leads.seq (knows_leaving (Only.mono (fun _ hc => hc.1) quiet_audit)) fun _ _ _ =>
      knows_outcome
  · rename_i haccepted
    refine Leads.next ⟨hread.reportable hreport, q, g, htask, ?_⟩ fun execution _ => knows_outcome
    exact ⟨hread.judged hjudged rfl, carries_approvedOrder horder, b, List.mem_cons_self .., check,
      hcheck, by simpa using haccepted⟩

theorem knows_judgeProposal {context : AgentMarketContext} {result : AgentDecisionOutcomeResult}
    {closedTrades : List ClosedTrade} (htask : task = .process q) (hreport : Reportable past)
    (hanswered : ∃ call : GatewayCall, call.submission = .proposal proposal ∧ call.now = q.now
      ∧ ⟨.inr (.transact call), .ok result⟩ ∈ past) (haccepted : result.accepted = true) :
    Knows self task past (self.judgeProposal q context proposal result closedTrades)
      fun _ _ => True := by
  unfold PaperLiteOrchestrator.judgeProposal
  refine Leads.next trivial fun killSwitch _ => ?_
  split
  · exact Leads.seq (knows_leaving (Only.mono (fun _ hc => hc.1) quiet_audit)) fun _ _ _ =>
      knows_outcome
  split
  · exact Leads.seq (knows_leaving (Only.mono (fun _ hc => hc.1) quiet_audit)) fun _ _ _ =>
      knows_outcome
  rename_i hopen
  refine Leads.bind.mpr (Leads.ofExcept.mpr fun intent hintent => ?_)
  refine Leads.seq knows_evaluate fun past₁ path hpath => ?_
  obtain ⟨hlater₁, hevaluated⟩ := hpath
  replace hlater₁ := ((Later.refl past).cons (c := .inl .killSwitch) trivial _).trans hlater₁
  split
  · exact knows_outcome
  rename_i risk hrisk
  split
  · exact knows_outcome
  rename_i hpass
  split
  · exact knows_outcome
  rename_i policy hpolicy
  split
  · exact knows_outcome
  rename_i happrove
  obtain ⟨hrunning, hrecordedRisk, hrecordedPolicy, hendorsed⟩ :=
    hevaluated risk policy hrisk (not_not.mp hpass) hpolicy (not_not.mp happrove)
  refine Leads.seq knows_reviewVerdict fun past₂ verdict hverdict => ?_
  obtain ⟨⟨hlater₂, hswitch⟩, hreviewed⟩ := hverdict
  cases verdict with
  | some detail => exact knows_outcome
  | none =>
      have hjudged : Judged self q past₁ ⟨proposal, result, intent, risk, policy⟩ := {
        accepted := hlater₁.accepted ⟨hanswered, haccepted, assertSome_ok hintent⟩
        open_ := not_not.mp hopen
        running := hrunning
        passed := ⟨hrecordedRisk, not_not.mp hpass⟩
        approved := ⟨hrecordedPolicy, not_not.mp happrove⟩
        endorsed := fun hsupervisor => by
          obtain ⟨outcome, houtcome, hverdict⟩ := hreviewed rfl hsupervisor
          exact hendorsed outcome houtcome hverdict result }
      exact knows_fill (g := ⟨proposal, result, intent, risk, policy⟩) htask
        ((hlater₁.trans hlater₂).reportable hreport) (hlater₂.judged hjudged hswitch)

theorem knows_judgeDecision {context : AgentMarketContext} {decision : AgentSubmission}
    {result : AgentDecisionOutcomeResult} {closedTrades : List ClosedTrade}
    (htask : task = .process q) (hreport : Reportable past)
    (hanswered : ∃ call : GatewayCall, call.submission = decision ∧ call.now = q.now
      ∧ ⟨.inr (.transact call), .ok result⟩ ∈ past) :
    Knows self task past (self.judgeDecision q context decision result closedTrades)
      fun _ _ => True := by
  unfold PaperLiteOrchestrator.judgeDecision
  split
  · exact knows_outcome
  rename_i haccepted
  cases decision with
  | noTrade decision =>
      refine Leads.seq (knows_leaving (leaving_inl _)) fun past₁ path _ => knows_outcome
  | proposal proposal => exact knows_judgeProposal htask hreport hanswered (by simpa using haccepted)

/-- **A call keeps the discipline.** -/
theorem knows_process (htask : task = .process q) :
    Knows self task past (self.process q) fun _ _ => True := by
  unfold PaperLiteOrchestrator.process
  refine Leads.seq knows_takeSnapshot fun past₁ closedTrades _ => ?_
  refine Leads.seq knows_meetSession fun past₂ closedTrades _ => ?_
  refine Leads.seq (knows_leaving leaving_persistRiskSession) fun past₃ _ _ => ?_
  refine Leads.seq (knows_leaving leaving_claimWindow) fun past₄ claimed _ => ?_
  dsimp only
  split
  · exact Leads.next trivial fun b _ => Leads.bind.mpr (Leads.ofExcept.mpr fun portfolio _ =>
      Leads.ret.mpr trivial)
  · refine Leads.seq knows_askAgent fun past₅ ⟨context, decision⟩ hreport => ?_
    refine Leads.seq knows_submitToGateway fun past₆ result hsubmitted => ?_
    obtain ⟨hlater, hanswered⟩ := hsubmitted
    exact knows_judgeDecision htask (hlater.reportable hreport) hanswered

/-- **Every task keeps the discipline.** -/
theorem conforms_perform (task : PaperTask) :
    Conforms (paperDiscipline self task).protocol [] (self.perform task) fun _ _ => True := by
  have hfine : Knows self task [] (self.perform task) fun _ _ => True := by
    cases task with
    | process q => exact Leads.seq (knows_process rfl) fun _ _ _ => Leads.ret.mpr trivial
    | assertIncidentClear =>
        unfold PaperLiteOrchestrator.perform PaperLiteOrchestrator.recordIncidentClear
        dsimp only
        split
        · exact Leads.ret.mpr trivial
        · exact Leads.mono (knows_quiet quiet_audit) fun _ _ _ => trivial
  exact Conforms.mono (fun _ _ _ => trivial) hfine

end

end Crumblr.PaperLite
