import Crumblr.Lib.Window
import Crumblr.Proof.PaperFills

/-!
# How often a paper process has orders filled

The risk engine refuses an order when as many were filled within the hour as the configuration
allows, by a count its caller supplies. The paper process supplies zero. What else holds the orders
back is the gateway: an assignment gets no more proposals accepted in an hour than it allows, and
every fill rests on a proposal that was accepted in its call.

So fills are counted by acceptances. Each fill is laid to the acceptance in its call; two fills are
never laid to one, because a call's acceptance has one intent, and an intent opens one position.
The cap then holds where the assignment allows no more proposals than the configuration allows
orders, if the agent proposes for the assignment of the process and under new ids. An hour here is
one by the clock the process is called with; it is an hour of the market's time where the fills are
at ticks of that time.
-/

namespace Crumblr.PaperLite

/-- When the positions were opened, in the market's time. -/
def openingTimes (w : PaperWorld) : List UtcDatetime := w.opened.map (·.openedAtUtc)

/-! ## The gateway meanwhile -/

section

variable [Externals]

/-- What is on record at the gateway stays there, and the rate is kept. -/
structure Keeps (g g' : AgentGateway) : Prop where
  rated : AgentGateway.Rated g.registries g.tables → AgentGateway.Rated g'.registries g'.tables
  tables : g.tables.Within g'.tables
  assignments : g.registries.assignments <+: g'.registries.assignments

variable {g g' : AgentGateway} {w w' : PaperWorld} {o : PaperOracle}

omit [Externals] in
theorem Keeps.refl : Keeps g g := ⟨id, .refl, List.prefix_refl _⟩

theorem keeps_step (op : GatewayOperation) : Keeps g (g.step op) :=
  ⟨fun h => AgentGateway.rated_step h op, (AgentGateway.within_step op).1,
    (AgentGateway.within_step op).2.assignments⟩

omit [Externals] in
theorem keeps_write (hw : Keeps g w.gateway) (hw' : Keeps g w'.gateway) :
    Keeps g (o.write w w').2.gateway := by
  rcases write_either (o := o) w w' with h | h <;> rw [h]
  · exact hw
  · exact hw'

omit [Externals] in
/-- The decision path does not touch the gateway. -/
theorem serveAgent_gateway (m : PaperMemory) (c : AgentCall) :
    (w.serveAgent o m c).2.gateway = w.gateway := by
  cases c <;> simp only [PaperWorld.serveAgent, PaperOracle.write, PaperOracle.writeThen,
    PaperOracle.read, PaperWorld.remembering, PaperWorld.insertCapsule]
  all_goals (repeat' split)
  all_goals rfl

/-- **Whatever the process does, the gateway keeps its records and the rate.** -/
theorem keeps_serve (c : PaperCall) : Keeps w.gateway (w.serve o c).2.gateway := by
  unfold PaperWorld.serve
  split
  · exact .refl
  rename_i m hm
  rcases c with c | c
  · rw [show (w.serveAgent o m c).2.gateway = w.gateway from serveAgent_gateway m c]
    exact .refl
  cases c with
  | operate op =>
      change Keeps w.gateway (w.operate o m op).2.gateway
      unfold PaperWorld.operate
      dsimp only
      split <;> exact .refl
  | recordEvidence evidence => exact keeps_write .refl (keeps_step (.recordEvidence evidence))
  | saveRiskSession state => exact keeps_write .refl .refl
  | issueContextBundle bundle =>
      simp only [PaperWorld.serveOwn]
      split
      · exact .refl
      · rename_i registries hissue
        have hstep := keeps_step (g := w.gateway) (.issueContextBundle bundle)
        simp only [AgentGateway.step, hissue] at hstep
        exact keeps_write .refl hstep
  | decide context =>
      simp only [PaperWorld.serveOwn, PaperOracle.read]
      split <;> exact .refl
  | authenticateOwn agentId credentialSecret submission now =>
      simp only [PaperWorld.serveOwn]
      split <;> exact .refl
  | transact call =>
      simp only [PaperWorld.serveOwn]
      split
      · exact .refl
      · rename_i result tables h
        exact ⟨fun hr => hr.transacts (AgentGateway.transact_ok h), AgentGateway.within_transact h,
          List.prefix_refl _⟩
  | _ => exact .refl

theorem keeps_nature (n : PaperWorld.Event) : Keeps w.gateway (w.nature n).gateway := by
  cases n with
  | gateway op => exact keeps_step op
  | _ => exact .refl

/-- Only an operation on the portfolio opens a position. -/
theorem serve_opened {c : PaperCall} (hc : ∀ op, c ≠ .inr (.operate op)) :
    (w.serve o c).2.opened = w.opened := by
  cases hm : w.process with
  | error e => rw [serve_dead hm]
  | ok m => exact (serve_undisturbed hm hc).opened

/-- A transaction that answers is one of the gateway. -/
theorem transacted_of_serve {call : GatewayCall} {result : AgentDecisionOutcomeResult}
    (h : (w.serve o (.inr (.transact call))).1 = .ok result) :
    ∃ tables, (w.serve o (.inr (.transact call))).2.gateway = { w.gateway with tables }
      ∧ AgentGateway.Transacted w.gateway.registries w.gateway.tables call.identity call.now
          call.submission result tables := by
  unfold PaperWorld.serve at h ⊢
  split at h
  · cases h
  rename_i m hm
  simp only [PaperWorld.serveOwn] at h ⊢
  split at h
  · cases h
  · rename_i result' tables hanswer
    obtain rfl := Except.ok.inj h
    exact ⟨tables, rfl, AgentGateway.transact_ok hanswer⟩

end

/-! ## What a fill rests on -/

section

variable [Externals] {self : PaperLiteOrchestrator} {w w' : PaperWorld} {past past' : PaperPast}

/-- The gateway accepted the proposal at that time, for an assignment that allows no more proposals
an hour than the process may have orders filled. -/
structure Backed (paper : PaperLiteOrchestrator) (g : AgentGateway) (proposalId : Uuid)
    (acceptedAt : UtcDatetime) : Prop where
  accepted : ∃ e ∈ g.tables.events, g.tables.isAcceptance paper.assignment.assignmentId e = true
    ∧ e.outcomeId = proposalId ∧ e.occurredAtUtc = acceptedAt
  allowed : ∃ a ∈ g.registries.assignments, a.assignmentId = paper.assignment.assignmentId
    ∧ a.maxProposalsPerHour.val ≤ paper.riskConfig.maxOrdersPerHour

omit [Externals] in
theorem Backed.keeps {g g' : AgentGateway} {proposalId : Uuid} {acceptedAt : UtcDatetime}
    (h : Backed self g proposalId acceptedAt) (hk : Keeps g g') :
    Backed self g' proposalId acceptedAt := by
  obtain ⟨⟨e, he, hacc, hrest⟩, a, ha, hallowed⟩ := h
  exact ⟨⟨e, hk.tables.events.subset he, hk.tables.isAcceptance hacc, hrest⟩,
    a, hk.assignments.subset ha, hallowed⟩

omit [Externals] in
/-- The gateway knows the proposal. -/
theorem Backed.known {g : AgentGateway} {proposalId : Uuid} {acceptedAt : UtcDatetime}
    (h : Backed self g proposalId acceptedAt)
    (hr : AgentGateway.Rated g.registries g.tables) :
    Table.lookup (·.outcomeId) g.tables.outcomes proposalId ≠ none := by
  obtain ⟨e, he, -, hid, -⟩ := h.accepted
  obtain ⟨o, ho, hoid⟩ := hr.claimed e he
  exact fun hnone => Table.lookup_eq_none.mp hnone o ho (hoid.trans hid)

/-- In this pass the gateway accepted the proposal at that time, with this intent. -/
def Heard (past : PaperPast) (proposal : TradeProposal) (acceptedAt : UtcDatetime)
    (intent : TradeIntent) : Prop :=
  ∃ call result, call.submission = .proposal proposal ∧ call.now = acceptedAt
    ∧ ⟨.inr (.transact call), .ok result⟩ ∈ past ∧ result.accepted = true
    ∧ result.tradeIntent = some intent

/-- One fill: the position, the call it was opened in, and the proposal behind it. -/
structure PaperFill where
  position : OpenPosition
  call : Observation
  proposalId : Uuid

/-- The fills so far, each laid to the acceptance of a proposal of its own. What the running pass
has heard accepted belongs to no earlier fill, but to the one it opened itself. -/
structure Accounted (paper : PaperLiteOrchestrator) (w : PaperWorld) (past : PaperPast)
    (fills : List PaperFill) : Prop where
  rated : AgentGateway.Rated w.gateway.registries w.gateway.tables
  positions : fills.map (·.position) = w.opened
  once : (fills.map (·.proposalId)).Nodup
  backed : ∀ fill ∈ fills, Backed paper w.gateway fill.proposalId fill.call.now
  heard : ∀ proposal t intent, Heard past proposal t intent →
    Backed paper w.gateway proposal.proposalId t
  alike : ∀ proposal t intent proposal' t' intent', Heard past proposal t intent →
    Heard past proposal' t' intent' → proposal.proposalId = proposal'.proposalId → intent = intent'
  ordered : ∀ fill ∈ fills, ∀ proposal t intent, Heard past proposal t intent →
    proposal.proposalId = fill.proposalId →
    fill.position.orderRequestId = PaperLiteOrchestrator.orderId intent

variable {fills : List PaperFill}

/-- Where nothing is opened and nothing is heard accepted, the account stands. -/
theorem Accounted.same (h : Accounted self w past fills) (hk : Keeps w.gateway w'.gateway)
    (hopened : w'.opened = w.opened)
    (hheard : ∀ proposal t intent, Heard past' proposal t intent → Heard past proposal t intent) :
    Accounted self w' past' fills where
  rated := hk.rated h.rated
  positions := h.positions.trans hopened.symm
  once := h.once
  backed := fun fill hfill => (h.backed fill hfill).keeps hk
  heard := fun p t i hp => (h.heard p t i (hheard p t i hp)).keeps hk
  alike := fun p t i p' t' i' hp hp' =>
    h.alike p t i p' t' i' (hheard p t i hp) (hheard p' t' i' hp')
  ordered := fun fill hfill p t i hp => h.ordered fill hfill p t i (hheard p t i hp)

/-- A new proposal of the process's own assignment, which allows no more than the cap. -/
structure Fitting (paper : PaperLiteOrchestrator) (g : AgentGateway) (proposal : TradeProposal) :
    Prop where
  own : proposal.assignmentId = paper.assignment.assignmentId
  fresh : Table.lookup (·.outcomeId) g.tables.outcomes proposal.proposalId = none
  allowed : ∀ a ∈ g.registries.assignments, a.assignmentId = paper.assignment.assignmentId →
    a.maxProposalsPerHour.val ≤ paper.riskConfig.maxOrdersPerHour

/-- **A fitting proposal that is accepted** is one that no fill has been laid to yet. -/
theorem Accounted.transact (h : Accounted self w past fills) {o : PaperOracle} {call : GatewayCall}
    (hfitting : ∀ proposal, call.submission = .proposal proposal → Fitting self w.gateway proposal) :
    Accounted self (w.serve o (.inr (.transact call))).2
      (⟨.inr (.transact call), (w.serve o (.inr (.transact call))).1⟩ :: past) fills := by
  have hk : Keeps w.gateway (w.serve o (.inr (.transact call))).2.gateway := keeps_serve _
  have hopened := serve_opened (w := w) (o := o) (c := .inr (.transact call))
    fun op hop => by cases hop
  -- what is heard was heard before, or is this call's new proposal
  have hnew : ∀ proposal t intent,
      Heard (⟨.inr (.transact call), (w.serve o (.inr (.transact call))).1⟩ :: past) proposal t intent →
      Heard past proposal t intent ∨ ∃ result, call.submission = .proposal proposal ∧ call.now = t
        ∧ (w.serve o (.inr (.transact call))).1 = .ok result ∧ result.accepted = true
        ∧ result.tradeIntent = some intent := by
    rintro proposal t intent ⟨call', result, hsubmission, hnow, hmem, hrest⟩
    rcases List.mem_cons.mp hmem with heq | hmem
    · obtain ⟨hcall, hanswer⟩ := Sigma.mk.inj_iff.mp heq
      obtain rfl : call' = call := by cases hcall; rfl
      exact .inr ⟨result, hsubmission, hnow, (eq_of_heq hanswer).symm, hrest⟩
    · exact .inl ⟨call', result, hsubmission, hnow, hmem, hrest⟩
  have hunknown : ∀ proposal t intent, Heard past proposal t intent →
      ∀ proposal', call.submission = .proposal proposal' →
        proposal.proposalId ≠ proposal'.proposalId := fun p t i hp p' hp' heq =>
    (h.heard p t i hp).known h.rated (heq ▸ (hfitting p' hp').fresh)
  refine ⟨hk.rated h.rated, h.positions.trans hopened.symm, h.once,
    fun fill hfill => (h.backed fill hfill).keeps hk, ?_, ?_, ?_⟩
  · intro p t i hp
    rcases hnew p t i hp with hold | ⟨result, hsubmission, rfl, hanswer, haccepted, -⟩
    · exact (h.heard p t i hold).keeps hk
    have hfits := hfitting p hsubmission
    obtain ⟨tables, hgateway, ht⟩ := transacted_of_serve hanswer
    rw [hsubmission] at ht
    obtain ⟨⟨e, he, hacc, hid, hat⟩, a, ha, haid⟩ := h.rated.accepts hfits.fresh ht haccepted
    rw [hfits.own] at hacc haid
    rw [hgateway]
    exact ⟨⟨e, he, hacc, hid, hat⟩, a, ha, haid, hfits.allowed a ha haid⟩
  · intro p t i p' t' i' hp hp' hids
    rcases hnew p t i hp with hold | ⟨result, hsubmission, -, hanswer, -, hintent⟩
    · rcases hnew p' t' i' hp' with hold' | ⟨-, hsubmission', -⟩
      · exact h.alike p t i p' t' i' hold hold' hids
      · exact absurd hids (hunknown p t i hold p' hsubmission')
    · rcases hnew p' t' i' hp' with hold' | ⟨result', -, -, hanswer', -, hintent'⟩
      · exact absurd hids.symm (hunknown p' t' i' hold' p hsubmission)
      · obtain rfl : result = result' := Except.ok.inj (hanswer.symm.trans hanswer')
        exact Option.some.inj (hintent.symm.trans hintent')
  · intro fill hfill p t i hp hid
    rcases hnew p t i hp with hold | ⟨-, hsubmission, -⟩
    · exact h.ordered fill hfill p t i hold hid
    · exact absurd (hid ▸ (hfitting p hsubmission).fresh) ((h.backed fill hfill).known h.rated)

/-- **A fill** is laid to what its pass heard accepted; no other fill was. -/
theorem Accounted.filled (h : Accounted self w past fills) (hk : Keeps w.gateway w'.gateway)
    {position : OpenPosition} (hopened : w'.opened = w.opened ++ [position])
    (hfresh : ∀ x ∈ w.opened, x.orderRequestId ≠ position.orderRequestId)
    {proposal : TradeProposal} {q : Observation} {intent : TradeIntent}
    (hgrounds : Heard past proposal q.now intent)
    (horder : position.orderRequestId = PaperLiteOrchestrator.orderId intent)
    (hheard : ∀ proposal t intent, Heard past' proposal t intent → Heard past proposal t intent) :
    Accounted self w' past' (fills ++ [⟨position, q, proposal.proposalId⟩]) := by
  refine ⟨hk.rated h.rated, ?_, ?_, ?_, fun p t i hp => (h.heard p t i (hheard p t i hp)).keeps hk,
    fun p t i p' t' i' hp hp' => h.alike p t i p' t' i' (hheard p t i hp) (hheard p' t' i' hp'), ?_⟩
  · rw [List.map_append, h.positions, hopened]
    rfl
  · rw [List.map_append, List.map_singleton]
    refine List.nodup_append.mpr ⟨h.once, List.nodup_singleton _, ?_⟩
    intro id hid id' hid' heq
    obtain ⟨fill, hfill, rfl⟩ := List.mem_map.mp hid
    rw [List.mem_singleton.mp hid'] at heq
    -- the earlier fill would be of the order that opened nothing before
    refine hfresh fill.position ?_
      ((h.ordered fill hfill proposal q.now intent hgrounds heq.symm).trans horder.symm)
    rw [← h.positions]
    exact List.mem_map_of_mem hfill
  · intro fill hfill
    rcases List.mem_append.mp hfill with hfill | hfill
    · exact (h.backed fill hfill).keeps hk
    · rw [List.mem_singleton.mp hfill]
      exact (h.heard proposal q.now intent hgrounds).keeps hk
  · intro fill hfill p t i hp hid
    rcases List.mem_append.mp hfill with hfill | hfill
    · exact h.ordered fill hfill p t i (hheard p t i hp) hid
    · rw [List.mem_singleton.mp hfill] at hid ⊢
      rw [h.alike p t i proposal q.now intent (hheard p t i hp) hgrounds hid]
      exact horder

/-- **Fills that are accounted for keep the cap.** -/
theorem Accounted.rated_fills (h : Accounted self w past fills) :
    Window.Rated (hours 1) self.riskConfig.maxOrdersPerHour (fills.map (·.call.now)) := by
  intro t
  rcases List.eq_nil_or_concat fills with rfl | ⟨init, last, rfl⟩
  · exact Nat.zero_le _
  have hlast : last ∈ init.concat last := by simp
  obtain ⟨a, ha, haid, hallowed⟩ := (h.backed last hlast).allowed
  refine le_trans ?_ ((h.rated.rated a ha t).trans hallowed)
  unfold Window.within AgentDecisionOutcomes.acceptedTimes
  rw [List.countP_map, List.countP_map, List.countP_filter]
  -- the fills in the window have acceptances of their own in it
  refine @Table.countP_le_countP _ _ _ _ AgentDecisionEventRecord.outcomeId _ _ _ _
    (h.once.sublist (List.filter_sublist.map _)) fun fill hfill hin => ?_
  obtain ⟨e, he, hacc, hid, hat⟩ := (h.backed fill hfill).accepted
  refine ⟨e, he, ?_, hid⟩
  rw [haid, hacc]
  simpa [hat, AgentGateway.rateLimitWindow] using hin

end

/-! ## Runs -/

section

variable [Externals] {self : PaperLiteOrchestrator} {p : PaperPortfolio} {s₀ s : PaperConfig}

/-- A condition on the steps of a run. -/
abbrev PaperGuard : Type := Machine.Guard Unit PaperTask PaperOracle PaperWorld.Event PaperWorld
  PaperCall PaperCall.Answer PyError

abbrev PaperMove : Type := Move Unit PaperTask PaperOracle PaperWorld.Event

/-- The proposals that go to the gateway are fitting. -/
def Limited (self : PaperLiteOrchestrator) : PaperGuard := fun v _ c => ∀ call proposal,
  c = some (.inr (.transact call)) → call.submission = .proposal proposal →
    Fitting self v.world.gateway proposal

/-- Orders go out at the time of the tick they are filled at. -/
def Timely : PaperGuard := fun v _ c => ∀ order riskAmount correlationId q past m tick,
  c = some (.inr (.operate (.submit order riskAmount correlationId))) →
    v.seen () = some (.process q, past) → v.world.process = .ok m →
    m.book.latestTick = some tick → tick.eventTimeUtc = q.now

/-- What the running pass has heard. -/
def heardBy (s : PaperConfig) : PaperPast := ((s.threads ()).map (·.past)).getD []

omit [Externals] in
theorem heardBy_set (t : Option (Thread PaperTask PaperCall PaperCall.Answer PyError)) :
    heardBy (Machine.set s () t) = (t.map (·.past)).getD [] := by
  unfold heardBy
  rw [Machine.threads_set]

omit [Externals] in
theorem not_heard_nil {proposal : TradeProposal} {t : UtcDatetime} {intent : TradeIntent} :
    ¬ Heard [] proposal t intent := by
  rintro ⟨call, result, -, -, hmem, -⟩
  cases hmem

omit [Externals] in
/-- Only a transaction lets a pass hear of an acceptance. -/
theorem heard_of_cons {past : PaperPast} {c : PaperCall} {a : Except PyError (PaperCall.Answer c)}
    (hc : ∀ call, c ≠ .inr (.transact call)) {proposal : TradeProposal} {t : UtcDatetime}
    {intent : TradeIntent} (h : Heard (⟨c, a⟩ :: past) proposal t intent) :
    Heard past proposal t intent := by
  obtain ⟨call, result, hsubmission, hnow, hmem, hrest⟩ := h
  rcases List.mem_cons.mp hmem with heq | hmem
  · obtain ⟨rfl, -⟩ := Sigma.mk.inj_iff.mp heq
    exact absurd rfl (hc call)
  · exact ⟨call, result, hsubmission, hnow, hmem, hrest⟩

/-- An order that goes out at the time of its tick opens a position at that time. -/
theorem opened_timely {G : PaperGuard} (hfresh : Fresh p s₀)
    (h : Machine.Reach (paperWorker self p) G s₀ s) {q : Observation} {x : OpenPosition} {g : Grounds}
    (hopened : OpenedIn self s q x g) {o : PaperOracle}
    (htimely : Timely s.view (.call () o) (Machine.asked s (.call () o : PaperMove))) :
    x.openedAtUtc = q.now := by
  obtain ⟨past, order, m, fill, hfilling, -, -, -, rfl⟩ := hopened.submits
  obtain ⟨riskAmount, correlationId, k, hcalling⟩ := hfilling.calling
  have htick := (SimulatedBroker.fillOf_tick hfilling.filled).1
  rw [((sound hfresh h).booked m hfilling.process).tick] at htick
  exact htimely order riskAmount correlationId q past m fill.tick (by simp [Machine.asked, hcalling])
    (by simp [Config.view, hcalling]) hfilling.process htick

/-- **Every fill of a run is accounted for**, and was opened in its call. -/
theorem accounted {G : PaperGuard} (hG : ∀ v n c, G v n c → Limited self v n c)
    (hfresh : Fresh p s₀)
    (hgateway : AgentGateway.Rated s₀.world.gateway.registries s₀.world.gateway.tables)
    (h : Machine.Reach (paperWorker self p) G s₀ s) :
    ∃ fills, Accounted self s.world (heardBy s) fills ∧ ∀ fill ∈ fills, ∃ s₁ o g,
      Machine.Reach (paperWorker self p) G s₀ s₁ ∧ Machine.Reach (paperWorker self p) G s₁ s
        ∧ OpenedIn self s₁ fill.call fill.position g
        ∧ G s₁.view (.call () o) (Machine.asked s₁ (.call () o : PaperMove)) := by
  induction h with
  | init =>
      have hnil : heardBy s₀ = [] := by simp [heardBy, hfresh.idle]
      refine ⟨[], ⟨hgateway, hfresh.opened.symm, List.nodup_nil, List.forall_mem_nil _, ?_, ?_,
        List.forall_mem_nil _⟩, List.forall_mem_nil _⟩
      · exact fun p t i hp => absurd (hnil ▸ hp) not_heard_nil
      · exact fun p t i _ _ _ hp => absurd (hnil ▸ hp) not_heard_nil
  | @tail s s' n hr hg hstep ih =>
      obtain ⟨fills, hacc, hfills⟩ := ih
      have hlater : ∀ fill ∈ fills, ∃ s₁ o g, Machine.Reach (paperWorker self p) G s₀ s₁
          ∧ Machine.Reach (paperWorker self p) G s₁ s' ∧ OpenedIn self s₁ fill.call fill.position g
          ∧ G s₁.view (.call () o) (Machine.asked s₁ (.call () o : PaperMove)) := by
        intro fill hfill
        obtain ⟨s₁, o, g, hr₁, hrest, hopened⟩ := hfills fill hfill
        exact ⟨s₁, o, g, hr₁, .tail hrest hg hstep, hopened⟩
      have hopening := opened_step (sound hfresh hr) hstep
      have honce : (s'.world.opened.map (·.orderRequestId)).Nodup :=
        (sound hfresh (.tail hr hg hstep)).once
      rcases Machine.step_cases hstep with ⟨⟨⟩, task, rfl, hi, rfl⟩
        | ⟨⟨⟩, o, task, past, c, k, rfl, hi, rfl⟩ | ⟨⟨⟩, t, rfl, hi, rfl⟩ | ⟨⟨⟩, rfl, rfl⟩
        | ⟨event, rfl, rfl⟩
      · refine ⟨fills, hacc.same .refl rfl fun p t i hp => ?_, hlater⟩
        rw [heardBy_set] at hp
        exact absurd hp not_heard_nil
      · have hpast : heardBy s = past := by simp [heardBy, hi]
        have hasked : Machine.asked s (.call () o : PaperMove) = some c := by
          simp [Machine.asked, hi]
        rw [hpast] at hacc
        by_cases htransact : ∃ call, c = .inr (.transact call)
        · obtain ⟨call, rfl⟩ := htransact
          refine ⟨fills, ?_, hlater⟩
          rw [hasked] at hg
          rw [heardBy_set]
          exact hacc.transact fun proposal hp => hG _ _ _ hg call proposal rfl hp
        have hheard : ∀ proposal t intent,
            Heard (⟨c, (s.world.serve o c).1⟩ :: past) proposal t intent →
              Heard past proposal t intent :=
          fun p t i hp => heard_of_cons (fun call hcall => htransact ⟨call, hcall⟩) hp
        rcases hopening with hsame | ⟨task', past', order, m, fill, hfilling, -, hopened⟩
        · refine ⟨fills, ?_, hlater⟩
          rw [heardBy_set]
          exact hacc.same (keeps_serve c) hsame hheard
        -- the order that is filled rests on what the pass heard
        obtain ⟨q, g, -, hauthorized, hopenedIn⟩ := openedIn_of_filling hfresh hr hfilling
        obtain rfl : past' = past := by
          obtain ⟨_, _, _, hcalling⟩ := hfilling.calling
          cases hi.symm.trans hcalling
          rfl
        obtain ⟨⟨call, hsubmission, hnow, hmem⟩, haccepted, hintent⟩ := hauthorized.judged.accepted
        rw [hopened, List.map_append, List.nodup_append] at honce
        refine ⟨fills ++ [⟨m.book.broker.positionOf order.val fill, q, g.proposal.proposalId⟩], ?_, ?_⟩
        · rw [heardBy_set]
          exact hacc.filled (keeps_serve c) hopened
            (fun x hx => honce.2.2 _ (List.mem_map_of_mem hx) _ (List.mem_singleton_self _))
            ⟨call, g.result, hsubmission, hnow, hmem, haccepted, hintent⟩ hopenedIn.orderRequestId
            hheard
        · intro fill' hfill'
          rcases List.mem_append.mp hfill' with hfill' | hfill'
          · exact hlater fill' hfill'
          · rw [List.mem_singleton.mp hfill']
            exact ⟨s, o, g, hr, .tail .init hg hstep, hopenedIn, hg⟩
      · refine ⟨fills, hacc.same .refl rfl fun p t i hp => ?_, hlater⟩
        rw [heardBy_set] at hp
        exact absurd hp not_heard_nil
      · refine ⟨fills, hacc.same .refl rfl fun p t i hp => ?_, hlater⟩
        rw [heardBy_set] at hp
        exact absurd hp not_heard_nil
      · exact ⟨fills, hacc.same (keeps_nature event) (nature_same event s.world).2.2
          fun p t i hp => hp, hlater⟩

/--
**Paper orders keep the hourly cap where the gateway keeps it for them.** In a run in which every
proposal that goes to the gateway is new, of the process's own assignment, and that assignment
allows no more proposals an hour than the configuration allows orders, no hour of the times the
process was called at holds more fills than the cap. If orders go out at the time of their tick, no
hour of the times the positions were opened at does.
-/
theorem paper_orders_within_cap (hfresh : Fresh p s₀)
    (hgateway : ∃ ops, s₀.world.gateway = AgentGateway.empty.run ops)
    (h : Machine.Reach (paperWorker self p) (Limited self) s₀ s) :
    (∃ fills : List (OpenPosition × Observation), fills.map (·.1) = s.world.opened
      ∧ (∀ fill ∈ fills, ∃ s₁ g, Machine.Reach (paperWorker self p) Machine.Always s₀ s₁
        ∧ Machine.Reach (paperWorker self p) Machine.Always s₁ s
        ∧ OpenedIn self s₁ fill.2 fill.1 g)
      ∧ Window.Rated (hours 1) self.riskConfig.maxOrdersPerHour (fills.map (·.2.now)))
    ∧ (Machine.Reach (paperWorker self p) (fun v n c => Limited self v n c ∧ Timely v n c) s₀ s →
      Window.Rated (hours 1) self.riskConfig.maxOrdersPerHour (openingTimes s.world)) := by
  have hrated : AgentGateway.Rated s₀.world.gateway.registries s₀.world.gateway.tables := by
    obtain ⟨ops, hops⟩ := hgateway
    rw [hops]
    exact AgentGateway.rated_run AgentGateway.rated_empty ops
  constructor
  · obtain ⟨fills, hacc, hfills⟩ := accounted (fun _ _ _ h => h) hfresh hrated h
    refine ⟨fills.map fun fill => (fill.position, fill.call), ?_, ?_, ?_⟩
    · rw [List.map_map]
      exact hacc.positions
    · intro x hx
      obtain ⟨fill, hfill, rfl⟩ := List.mem_map.mp hx
      obtain ⟨s₁, o, g, hr₁, hrest, hopened, -⟩ := hfills fill hfill
      exact ⟨s₁, g, hr₁.mono fun _ _ _ _ => trivial, hrest.mono fun _ _ _ _ => trivial, hopened⟩
    · rw [List.map_map]
      exact hacc.rated_fills
  · intro htimely
    obtain ⟨fills, hacc, hfills⟩ := accounted (fun _ _ _ h => h.1) hfresh hrated htimely
    have htimes : openingTimes s.world = fills.map (·.call.now) := by
      unfold openingTimes
      rw [← hacc.positions, List.map_map]
      refine List.map_congr_left fun fill hfill => ?_
      obtain ⟨s₁, o, g, hr₁, -, hopened, -, hg⟩ := hfills fill hfill
      exact opened_timely hfresh hr₁ hopened hg
    rw [htimes]
    exact hacc.rated_fills

end

end Crumblr.PaperLite

namespace Crumblr

open PaperLite

namespace Sample

/-- The assignment, with more proposals an hour. -/
def busyAssignment : TradingAssignment := { assignment with maxProposalsPerHour := ⟨5, by decide⟩ }

/-- The market, with one order an hour. -/
def oneAnHourMarket : MarketConfig :=
  { market with riskOverrides := some ⟨none, none, none, none, some 1, none, none⟩ }

def registeringBusy : List GatewayOperation :=
  [.registerIdentity identity, .setCredential ⟨"agent"⟩ "secret" "00",
   .issueAssignment busyAssignment, .recordEvidence evidence, .issueContextBundle bundle]

def busyWorld : PaperWorld :=
  { paperWorld with gateway := AgentGateway.empty.run registeringBusy }

/-- Another proposal, with a wider stop. -/
def widerProposal : TradeProposal :=
  { paperProposal "second" with
    stopLossPrice := ⟨⟨109890, -5⟩, by decide⟩
    buyStops := fun _ => by decide
    sellStops := fun hs => by cases hs }

/-- Two proposals within a minute; the second call is so long. -/
def twoProposals (calls : Nat) : List (Move Unit PaperTask PaperOracle PaperWorld.Event) :=
  calling 0 "c0" (.proposal (paperProposal "first")) 40
    ++ calling 1 "c1" (.proposal widerProposal) calls

/-- What goes to the gateway is checked, -/
def limited (o : PaperLite.PaperLiteOrchestrator) (s : PaperConfig)
    (n : Move Unit PaperTask PaperOracle PaperWorld.Event) : Bool :=
  match Machine.asked s n with
  | some (.inr (.transact call)) =>
      match call.submission with
      | .proposal p => decide (p.assignmentId = o.assignment.assignmentId)
          && (Table.lookup (·.outcomeId) s.world.gateway.tables.outcomes p.proposalId).isNone
          && s.world.gateway.registries.assignments.all fun a =>
            decide (a.assignmentId = o.assignment.assignmentId →
              a.maxProposalsPerHour.val ≤ o.riskConfig.maxOrdersPerHour)
      | .noTrade _ => true
  | _ => true

/-- and so is the time of each order. -/
def timely (s : PaperConfig) (n : Move Unit PaperTask PaperOracle PaperWorld.Event) : Bool :=
  match Machine.asked s n, s.view.seen (), s.world.process with
  | some (.inr (.operate (.submit ..))), some (.process q, _), .ok m =>
      m.book.latestTick.all fun tick => decide (tick.eventTimeUtc = q.now)
  | _, _, _ => true

theorem limited_of_check {o : PaperLite.PaperLiteOrchestrator} (s : PaperConfig)
    (n : Move Unit PaperTask PaperOracle PaperWorld.Event) (h : limited o s n = true) :
    Limited o s.view n (Machine.asked s n) := by
  intro call proposal hasked hsubmission
  unfold limited at h
  rw [hasked] at h
  dsimp only at h
  rw [hsubmission] at h
  simp only [Bool.and_eq_true, decide_eq_true_eq, Option.isNone_iff_eq_none, List.all_eq_true] at h
  exact ⟨h.1.1, h.1.2, h.2⟩

theorem timely_of_check (s : PaperConfig) (n : Move Unit PaperTask PaperOracle PaperWorld.Event)
    (h : timely s n = true) : Timely s.view n (Machine.asked s n) := by
  intro order riskAmount correlationId q past m tick hasked hseen hprocess htick
  unfold timely at h
  rw [hasked, hseen, show s.world.process = .ok m from hprocess] at h
  dsimp only at h
  rw [htick] at h
  exact of_decide_eq_true h

end Sample

open Sample in
/-- The agent proposes twice within a minute. The gateway refuses the second proposal, and one order
is filled. -/
theorem paper_orders_within_cap_sample : ∃ o, clearedRun oneAnHourMarket assignment = .ok o
    ∧ o.riskConfig.maxOrdersPerHour = 1
    ∧ ∃ s : PaperConfig, Machine.Reach (paperWorker o portfolio)
        (fun v n c => Limited o v n c ∧ Timely v n c) (Machine.idle paperWorld) s
      ∧ (∃ e ∈ s.world.gateway.tables.events,
        e.eventType = .rejected ∧ e.occurredAtUtc = noon + minutes 1)
      ∧ openingTimes s.world = [noon] ∧ Window.Rated (hours 1) 1 (openingTimes s.world)
      ∧ ∃ fills : List (OpenPosition × Observation), fills.map (·.1) = s.world.opened
        ∧ Window.Rated (hours 1) 1 (fills.map (·.2.now)) := by
  have hchecked : (clearedRun oneAnHourMarket assignment).toOption.any (fun o =>
      decide (o.riskConfig.maxOrdersPerHour = 1)
        && ((paperWorker o portfolio).run (fun s n => limited o s n && timely s n)
          (Machine.idle paperWorld) (twoProposals 28)).any fun s =>
            (s.world.gateway.tables.events.any fun e =>
              decide (e.eventType = .rejected ∧ e.occurredAtUtc = noon + minutes 1))
            && decide (openingTimes s.world = [noon])) = true := by
    decide +kernel
  cases h : clearedRun oneAnHourMarket assignment with
  | error e => rw [h] at hchecked; cases hchecked
  | ok o =>
      rw [h] at hchecked
      obtain ⟨hcap, hrun⟩ := Bool.and_eq_true_iff.mp hchecked
      have hcap := of_decide_eq_true hcap
      obtain ⟨s, hs, hone⟩ := Machine.Reach.exists_of_run (M := paperWorker o portfolio)
        (G := fun v n c => Limited o v n c ∧ Timely v n c) _ _ (fun s n hsn => by
          obtain ⟨hlimited, htimely⟩ := Bool.and_eq_true_iff.mp hsn
          exact ⟨limited_of_check s n hlimited, timely_of_check s n htimely⟩) hrun
      obtain ⟨hrejected, hone⟩ := Bool.and_eq_true_iff.mp hone
      obtain ⟨e, he, hat⟩ := List.any_eq_true.mp hrejected
      have hlimited : Machine.Reach (paperWorker o portfolio) (Limited o) (Machine.idle paperWorld) s :=
        hs.mono fun _ _ _ hg => hg.1
      obtain ⟨⟨fills, hfst, -, hrated⟩, htimes⟩ := paper_orders_within_cap
        ⟨rfl, rfl, rfl, _, rfl, rfl⟩ ⟨registering, rfl⟩ hlimited
      rw [hcap] at hrated htimes
      exact ⟨o, rfl, hcap, s, hs, ⟨e, he, of_decide_eq_true hat⟩, of_decide_eq_true hone, htimes hs,
        fills, hfst, hrated⟩

open Sample in
/-- **Two orders are filled within a minute** where one an hour is allowed, each at the time of its
call. -/
theorem filled_beyond_the_cap : ∃ o, clearedRun oneAnHourMarket busyAssignment = .ok o
    ∧ ∃ s : PaperConfig, Machine.Reach (paperWorker o portfolio) Timely
        (Machine.idle busyWorld) s
      ∧ o.riskConfig.maxOrdersPerHour < Window.within (hours 1) (openingTimes s.world) noon := by
  have hchecked : (clearedRun oneAnHourMarket busyAssignment).toOption.any (fun o =>
      ((paperWorker o portfolio).run timely (Machine.idle busyWorld) (twoProposals 40)).any
        fun s => decide (o.riskConfig.maxOrdersPerHour
          < Window.within (hours 1) (openingTimes s.world) noon)) = true := by
    decide +kernel
  cases h : clearedRun oneAnHourMarket busyAssignment with
  | error e => rw [h] at hchecked; cases hchecked
  | ok o =>
      rw [h] at hchecked
      obtain ⟨s, hs, hbeyond⟩ := Machine.Reach.exists_of_run (M := paperWorker o portfolio)
        (G := Timely) (twoProposals 40) _ timely_of_check hchecked
      exact ⟨o, rfl, s, hs, of_decide_eq_true hbeyond⟩

end Crumblr
