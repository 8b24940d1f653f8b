import Crumblr.Dashboard.AgentState
import Crumblr.Proof.Gateway
import Crumblr.Proof.PaperFills

/-!
# What a paper process leaves of a decision

What a portfolio in memory has noted, by its keys and its digests, is in its journal. So where
nothing on record is of a decision, what the process claims for it is new: the gateway settles it,
every fact about it is appended, and its order is no order that was filled before.
-/

namespace Crumblr.PaperLite

open DurablePaperBroker (orderKey orderPayload auditKey auditPayload)

/-! ## What the journal says -/

/-- An entry names a decision. -/
def correlates (id : Uuid) (e : PaperJournalEntry) : Bool :=
  (e.payload.get? "correlation_id").bind Json.asStr? == some id.text

/-- The intent of the order in an entry, if there is one. -/
def intentOf? (payload : Json) : Option Uuid :=
  ((payload.get? "order").bind (·.get? "intent_id")).bind Json.asUuid?

/-- The facts a process records about a decision. -/
def decisionFacts : List String :=
  ["PAPER_LITE_SAFETY_HALTED", "PAPER_LITE_SESSION_BLOCKED",
   "PAPER_LITE_EXTERNAL_SUPERVISOR_REVIEWED", "SUPERVISOR_SKIPPED_PAPER_MODE",
   "PAPER_LITE_ORDER_CHECK_BLOCKED"]

section

variable [Externals]

@[simp] theorem intentOf?_orderPayload (order : ApprovedOrder) (riskAmount : Decimal)
    (correlationId : Option Uuid) :
    intentOf? (orderPayload order riskAmount correlationId) = some order.intentId := by
  simp [intentOf?, orderPayload, ApprovedOrder.dump]

/-- Digests tell orders of different intents apart, and the records of such orders. -/
structure TellsApart [Externals] : Prop where
  orders : ∀ a b : ApprovedOrder, digestOf a.dump = digestOf b.dump → a.intentId = b.intentId
  records : ∀ (a b : ApprovedOrder) (x y : Decimal) (c d : Option Uuid),
    digestOf (orderPayload a x c) = digestOf (orderPayload b y d) → a.intentId = b.intentId

/-- What an operation appends. -/
structure Formed (e : PaperJournalEntry) : Prop where
  object : IsObject e.payload
  order : ∀ id, e.eventKey = orderKey id →
    ∃ a riskAmount correlationId, e.payload = orderPayload a riskAmount correlationId

/-- What a portfolio has noted is in a journal. -/
structure Noted (journal : List PaperJournalEntry) (b : DurablePaperBroker) : Prop where
  formed : ∀ e ∈ journal, Formed e
  keyed : ∀ x ∈ b.eventPayloadHashes, x.1 = "portfolio"
    ∨ ∃ e ∈ journal, e.eventKey = x.1 ∧ digestOf e.payload = x.2
  ordered : ∀ x ∈ b.orderFingerprints, ∃ e ∈ journal, ∃ a : ApprovedOrder,
    x.2 = digestOf a.dump ∧ intentOf? e.payload = some a.intentId

variable {journal : List PaperJournalEntry} {b : DurablePaperBroker}

omit [Externals] in
theorem orderKey_ne_portfolio (id : Uuid) : orderKey id ≠ "portfolio" := by
  intro h
  have hhead := congrArg (fun s => s.toList.head?) h
  simp [orderKey] at hhead

/-- What is noted under an order's key is in the journal, as an order. -/
theorem Noted.order (h : Noted journal b) {id : Uuid} {hash : String}
    (hlookup : b.eventPayloadHashes.lookup (orderKey id) = some hash) :
    ∃ e ∈ journal, ∃ a riskAmount correlationId,
      e.payload = orderPayload a riskAmount correlationId
        ∧ digestOf (orderPayload a riskAmount correlationId) = hash := by
  obtain ⟨before, after, hsplit, -⟩ := List.lookup_eq_some_iff.mp hlookup
  have hmem : (orderKey id, hash) ∈ b.eventPayloadHashes := by
    rw [hsplit]
    simp
  rcases h.keyed _ hmem with hportfolio | ⟨e, he, hkey, hdigest⟩
  · exact absurd hportfolio (orderKey_ne_portfolio id)
  · obtain ⟨a, riskAmount, correlationId, hpayload⟩ := (h.formed e he).order id hkey
    exact ⟨e, he, a, riskAmount, correlationId, hpayload, hpayload ▸ hdigest⟩

/-- A journal that goes on holds what it held. -/
theorem Noted.append (h : Noted journal b) {e : PaperJournalEntry} (he : Formed e)
    {b' : DurablePaperBroker}
    (hhashes : b'.eventPayloadHashes = b.eventPayloadHashes ++ [(e.eventKey, digestOf e.payload)])
    (hprints : ∀ x ∈ b'.orderFingerprints, x ∈ b.orderFingerprints
      ∨ ∃ a : ApprovedOrder, x.2 = digestOf a.dump ∧ intentOf? e.payload = some a.intentId) :
    Noted (journal ++ [e]) b' := by
  refine ⟨fun x hx => ?_, fun x hx => ?_, fun x hx => ?_⟩
  · rcases List.mem_append.mp hx with hx | hx
    · exact h.formed x hx
    · rwa [List.mem_singleton.mp hx]
  · rw [hhashes] at hx
    rcases List.mem_append.mp hx with hx | hx
    · rcases h.keyed x hx with hportfolio | ⟨e', he', hkey⟩
      · exact .inl hportfolio
      · exact .inr ⟨e', List.mem_append_left _ he', hkey⟩
    · rw [List.mem_singleton.mp hx]
      exact .inr ⟨e, by simp, rfl, rfl⟩
  · rcases hprints x hx with hx | ⟨a, ha⟩
    · obtain ⟨e', he', ha⟩ := h.ordered x hx
      exact ⟨e', List.mem_append_left _ he', ha⟩
    · exact ⟨e, by simp, a, ha⟩

/-- Where a continuation notes nothing but an order of the payload's intent, an append keeps what
is noted in the journal. -/
theorem noted_append (hapart : TellsApart) {α : Type} {eventType : PaperJournalEventType}
    {eventKey : String} {payload : Json}
    {next : Bool → DurablePaperBroker → Except PyError α × DurablePaperBroker}
    (hb : Noted journal b) (hobject : IsObject payload)
    (horder : ∀ id, eventKey = orderKey id →
      ∃ a riskAmount correlationId, payload = orderPayload a riskAmount correlationId)
    (hhashes : ∀ appended b', (next appended b').2.eventPayloadHashes = b'.eventPayloadHashes)
    (hprints : ∀ appended b', ∀ x ∈ (next appended b').2.orderFingerprints,
      x ∈ b'.orderFingerprints ∨ ∃ (a : ApprovedOrder) (id : Uuid) (riskAmount : Decimal)
        (correlationId : Option Uuid), x.2 = digestOf a.dump ∧ eventKey = orderKey id
          ∧ payload = orderPayload a riskAmount correlationId) :
    Noted (journal ++ (b.append eventType eventKey payload next).appended.toList)
      (b.append eventType eventKey payload next).left := by
  rcases append_result (b := b) eventType eventKey payload next with ⟨e, h⟩ | ⟨hknown, h⟩ | ⟨-, h⟩
  · rw [h]
    simpa using hb
  · rw [h]
    simp only [Option.toList_none, List.append_nil]
    refine ⟨hb.formed, fun x hx => hb.keyed x (hhashes false b ▸ hx), fun x hx => ?_⟩
    rcases hprints false b x hx with hold | ⟨a, id, riskAmount, correlationId, ha, rfl, rfl⟩
    · exact hb.ordered x hold
    · -- the order on record under the key is of the same intent
      obtain ⟨e, he, a', x', c', hpayload, hdigest⟩ := hb.order hknown
      refine ⟨e, he, a, ha, ?_⟩
      rw [hpayload, intentOf?_orderPayload, hapart.records _ _ _ _ _ _ hdigest]
  · rw [h]
    simp only [Option.toList_some]
    refine hb.append (e := b.nextEntry eventType eventKey payload) ⟨hobject, horder⟩ ?_ ?_
    · rw [hhashes]
      rfl
    · intro x hx
      rcases hprints true _ x hx with hold | ⟨a, id, riskAmount, correlationId, ha, -, rfl⟩
      · exact .inl hold
      · exact .inr ⟨a, ha, intentOf?_orderPayload a riskAmount correlationId⟩

/-- **What every operation keeps.** -/
theorem noted_run (hapart : TellsApart) (hb : Noted journal b) (o : PaperOperation) :
    Noted (journal ++ (o.run b).appended.toList) (o.run b).left := by
  have hnothing : Noted (journal ++ (none : Option PaperJournalEntry).toList) b := by simpa using hb
  cases o with
  | advance tick =>
      change Noted (journal ++ (b.advance tick).appended.toList) (b.advance tick).left
      unfold DurablePaperBroker.advance
      split
      · exact hnothing
      · dsimp only
        split
        · exact hnothing
        · exact noted_append hapart hb ⟨_, rfl⟩
            (fun id h => absurd h (observationKey_ne id _).1) (fun _ _ => rfl)
            fun _ _ x hx => .inl hx
  | submit order authorizedRiskAmount correlationId =>
      change Noted (journal ++ (b.submit order authorizedRiskAmount correlationId).appended.toList)
        (b.submit order authorizedRiskAmount correlationId).left
      unfold DurablePaperBroker.submit
      split
      · exact hnothing
      split
      · split
        · exact hnothing
        · split <;> exact hnothing
      refine noted_append hapart hb ⟨_, rfl⟩ (fun _ _ => ⟨_, _, _, rfl⟩) (fun _ b' => ?_)
        fun _ b' x hx => ?_
      · unfold DurablePaperBroker.applyOrder
        split <;> rfl
      · unfold DurablePaperBroker.applyOrder at hx
        split at hx
        · exact .inl hx
        · rcases List.mem_append.mp hx with hx | hx
          · exact .inl hx
          · rw [List.mem_singleton.mp hx]
            exact .inr ⟨order.val, _, _, _, rfl, rfl, rfl⟩
  | flattenAll flattenRequestId reason =>
      change Noted (journal ++ (b.flattenAll flattenRequestId reason).appended.toList)
        (b.flattenAll flattenRequestId reason).left
      unfold DurablePaperBroker.flattenAll
      split
      · exact hnothing
      refine noted_append hapart hb ⟨_, rfl⟩
        (fun id h => absurd h.symm (orderKey_ne_flattenKey id flattenRequestId)) (fun _ b' => ?_)
        fun _ b' x hx => .inl ?_
      · unfold DurablePaperBroker.applyFlatten
        split <;> rfl
      · unfold DurablePaperBroker.applyFlatten at hx
        split at hx <;> exact hx
  | recordAuditFact fact correlationId detail =>
      exact noted_append hapart hb ⟨_, rfl⟩ (fun id h => absurd h (auditKey_ne id correlationId fact).1)
        (fun _ _ => rfl) fun _ _ x hx => .inl hx

end


/-! ## Every state a run reaches -/

section

variable [Externals] {self : PaperLiteOrchestrator} {p : PaperPortfolio} {w : PaperWorld}

/-- The process has noted what is in its journal. -/
def Kept (w : PaperWorld) : Prop :=
  (∀ e ∈ w.journal, Formed e) ∧ ∀ m, w.process = .ok m → Noted w.journal m.book

theorem Kept.serve (hapart : TellsApart) (h : Kept w) (o : PaperOracle) (c : PaperCall) :
    Kept (w.serve o c).2 := by
  cases hm : w.process with
  | error e =>
      rw [serve_dead hm]
      exact h
  | ok m =>
      have hnoted := h.2 m hm
      by_cases hop : ∃ op, c = .inr (.operate op)
      · obtain ⟨op, rfl⟩ := hop
        rcases serve_operate (o := o) hm op with hserve | hserve <;> rw [hserve]
        · exact h
        · have hrun := noted_run hapart hnoted op
          refine ⟨hrun.formed, fun m' hm' => ?_⟩
          cases hm'
          exact hrun
      · have hu := serve_undisturbed (o := o) hm fun op h => hop ⟨op, h⟩
        obtain ⟨m', hm', hbook, -⟩ := hu.process
        refine ⟨hu.journal ▸ h.1, fun m'' hm'' => ?_⟩
        cases hm'.symm.trans hm''
        rw [hu.journal, hbook]
        exact hnoted

theorem Kept.nature (h : Kept w) (n : PaperWorld.Event) : Kept (PaperWorld.nature n w) := by
  obtain ⟨hjournal, hprocess, -⟩ := nature_same n w
  refine ⟨hjournal ▸ h.1, fun m hm => ?_⟩
  rw [hjournal]
  exact h.2 m (hprocess ▸ hm)

theorem Fresh.kept {s : PaperConfig} (h : Fresh p s) : Kept s.world := by
  obtain ⟨m, hm, hbook⟩ := h.book
  refine ⟨fun e he => ?_, fun m' hm' => ?_⟩
  · rw [h.journal] at he
    cases he
  · cases hm.symm.trans hm'
    rw [h.journal, hbook]
    refine ⟨fun e he => absurd he List.not_mem_nil, fun x hx => .inl ?_,
      fun x hx => absurd hx List.not_mem_nil⟩
    obtain rfl := List.mem_singleton.mp hx
    rfl

/-- **In every state of every run**, what the process has noted is in its journal. -/
theorem kept_of_reach (hapart : TellsApart) {s₀ s : PaperConfig} (hfresh : Fresh p s₀)
    (h : Machine.Reach (paperWorker self p) Machine.Always s₀ s) : Kept s.world := by
  induction h with
  | init => exact hfresh.kept
  | @tail s s' n hr _ hstep ih =>
      rcases Machine.step_cases hstep with ⟨⟨⟩, task, rfl, hi, rfl⟩
        | ⟨⟨⟩, o, task, past, c, k, rfl, hi, rfl⟩ | ⟨⟨⟩, t, rfl, hi, rfl⟩ | ⟨⟨⟩, rfl, rfl⟩
        | ⟨event, rfl, rfl⟩
      · exact ih
      · exact ih.serve hapart o c
      · exact ih
      · -- the portfolio of a process that starts is the one before it
        obtain ⟨-, hsame⟩ := (sound hfresh hr).recoverable.restart
        refine ⟨ih.1, fun m' hm' => ?_⟩
        obtain ⟨m, hm, hbook⟩ := hsame m' hm'
        rw [hbook]
        exact ih.2 m hm
      · exact ih.nature event

end

/-! ## What a call leaves of the stores -/

section

variable [Externals] {self : PaperLiteOrchestrator} {p : PaperPortfolio} {w w' w'' : PaperWorld}
  {α : Type}

/-- Nothing was recorded about a decision. -/
structure Onward (w w' : PaperWorld) : Prop where
  journal : w'.journal = w.journal
  book : ∀ m', w'.process = .ok m' → ∃ m, w.process = .ok m ∧ m'.book = m.book
  tables : w.gateway.tables.Within w'.gateway.tables
  capsules : w'.capsules = w.capsules

omit [Externals] in
theorem Onward.refl (w : PaperWorld) : Onward w w := ⟨rfl, fun m hm => ⟨m, hm, rfl⟩, .refl, rfl⟩

omit [Externals] in
theorem Onward.trans (h : Onward w w') (h' : Onward w' w'') : Onward w w'' := by
  refine ⟨h'.journal.trans h.journal, fun m'' hm'' => ?_, h.tables.trans h'.tables,
    h'.capsules.trans h.capsules⟩
  obtain ⟨m', hm', hbook'⟩ := h'.book m'' hm''
  obtain ⟨m, hm, hbook⟩ := h.book m' hm'
  exact ⟨m, hm, hbook'.trans hbook⟩

theorem Onward.kept (h : Onward w w') (hw : Kept w) : Kept w' := by
  refine ⟨h.journal ▸ hw.1, fun m' hm' => ?_⟩
  obtain ⟨m, hm, hbook⟩ := h.book m' hm'
  rw [h.journal, hbook]
  exact hw.2 m hm

theorem onward_nature (n : PaperWorld.Event) (w : PaperWorld) : Onward w (PaperWorld.nature n w) := by
  obtain ⟨hjournal, hprocess, -⟩ := nature_same n w
  refine ⟨hjournal, fun m' hm' => ⟨m', hprocess ▸ hm', rfl⟩, ?_, ?_⟩
  · cases n with
    | gateway op => exact (AgentGateway.within_step op).1
    | _ => exact .refl
  · cases n <;> rfl

/-- Calls that record nothing about a decision. -/
def Plain : PaperCall → Prop
  | .inl (.seal _) => False
  | .inr (.operate _) => False
  | .inr (.transact _) => False
  | _ => True

/-- **A call of no such kind leaves the stores.** -/
theorem onward_serve (o : PaperOracle) {c : PaperCall} (hc : Plain c) :
    Onward w (w.serve o c).2 := by
  cases hm : w.process with
  | error e =>
      rw [serve_dead hm]
      exact .refl w
  | ok m =>
      have hplain : ∀ op, c ≠ .inr (.operate op) := by
        rintro op rfl
        exact hc
      have hu := serve_undisturbed (o := o) hm hplain
      have hstores : w.gateway.tables.Within (w.serve o c).2.gateway.tables
          ∧ (w.serve o c).2.capsules = w.capsules := by
        have hsame : ∀ w' : PaperWorld, w'.gateway = w.gateway → w'.capsules = w.capsules →
            ∀ w'' : PaperWorld, w''.gateway.tables = w.gateway.tables →
              w''.capsules = w.capsules →
              w.gateway.tables.Within (o.write w' w'').2.gateway.tables
                ∧ (o.write w' w'').2.capsules = w.capsules := by
          intro w' hg hc w'' hg' hc'
          rcases write_either (o := o) w' w'' with he | he <;> rw [he]
          · exact ⟨hg ▸ .refl, hc⟩
          · exact ⟨hg' ▸ .refl, hc'⟩
        unfold PaperWorld.serve
        rw [hm]
        rcases c with c | c
        · cases c with
          | «seal» capsule => exact hc.elim
          | lock canonicalSymbol => exact hsame w rfl rfl w rfl rfl
          | flush =>
              exact hsame (w.remembering { m with pending := [] }) rfl rfl
                { w.remembering { m with pending := [] } with events := w.events ++ m.pending }
                rfl rfl
          | trip halt =>
              simp only [PaperWorld.serveAgent, PaperOracle.writeThen]
              split
              · exact ⟨.refl, rfl⟩
              · split <;> exact ⟨.refl, rfl⟩
          | review proposal intent riskDecisionId supervisorDecisionId now =>
              simp only [PaperWorld.serveAgent, PaperOracle.read]
              split <;> exact ⟨.refl, rfl⟩
          | _ => exact ⟨.refl, rfl⟩
        · cases c with
          | operate op => exact hc.elim
          | transact call => exact hc.elim
          | saveRiskSession state => exact hsame w rfl rfl _ rfl rfl
          | recordEvidence evidence => exact hsame w rfl rfl _ rfl rfl
          | issueContextBundle bundle =>
              simp only [PaperWorld.serveOwn]
              split
              · exact ⟨.refl, rfl⟩
              · exact hsame w rfl rfl _ rfl rfl
          | decide context =>
              simp only [PaperWorld.serveOwn, PaperOracle.read]
              split <;> exact ⟨.refl, rfl⟩
          | authenticateOwn agentId credentialSecret submission now =>
              simp only [PaperWorld.serveOwn]
              split <;> exact ⟨.refl, rfl⟩
          | _ => exact ⟨.refl, rfl⟩
      refine ⟨hu.journal, fun m' hm' => ⟨m, hm, ?_⟩, hstores.1, hstores.2⟩
      obtain ⟨m'', hm'', hbook, -⟩ := hu.process
      cases hm''.symm.trans hm'
      exact hbook

/-! ## Runs of one process -/

/-- Nothing on record is of a decision: it has not been claimed or sealed, and no entry of the
journal names it, stands under a key of it or holds an order of its intent. -/
structure Unused (w : PaperWorld) (id : Uuid) : Prop where
  outcome : ∀ row ∈ w.gateway.tables.outcomes, row.outcomeId ≠ id
  event : ∀ e ∈ w.gateway.tables.events, e.outcomeId ≠ id
  capsule : ∀ c ∈ w.capsules, c.capsuleId ≠ Dashboard.agentCapsuleId id
  named : ∀ e ∈ w.journal, correlates id e = false
  keyed : ∀ e ∈ w.journal, ∀ fact ∈ decisionFacts, e.eventKey ≠ auditKey fact id
  ordered : ∀ e ∈ w.journal, intentOf? e.payload ≠ some (AgentGateway.deriveTradeIntentId id)

instance (w : PaperWorld) (id : Uuid) : Decidable (Unused w id) :=
  decidable_of_iff
    ((∀ row ∈ w.gateway.tables.outcomes, row.outcomeId ≠ id)
      ∧ (∀ e ∈ w.gateway.tables.events, e.outcomeId ≠ id)
      ∧ (∀ c ∈ w.capsules, c.capsuleId ≠ Dashboard.agentCapsuleId id)
      ∧ (∀ e ∈ w.journal, correlates id e = false)
      ∧ (∀ e ∈ w.journal, ∀ fact ∈ decisionFacts, e.eventKey ≠ auditKey fact id)
      ∧ ∀ e ∈ w.journal, intentOf? e.payload ≠ some (AgentGateway.deriveTradeIntentId id))
    ⟨fun ⟨h₁, h₂, h₃, h₄, h₅, h₆⟩ => ⟨h₁, h₂, h₃, h₄, h₅, h₆⟩,
      fun ⟨h₁, h₂, h₃, h₄, h₅, h₆⟩ => ⟨h₁, h₂, h₃, h₄, h₅, h₆⟩⟩

/-- Whatever the surroundings do: an agent's decision has an id that is not in use. -/
def freshDecisions :
    Machine.Surroundings PaperOracle PaperWorld.Event PaperWorld PaperCall where
  call := fun w _ c => ∀ call, c = .inr (.transact call) → Unused w call.submission.outcomeId
  nature := fun _ _ => True
  crash := fun _ => True

/-- A program of the process, and what holds where it returns. -/
abbrev Goes (self : PaperLiteOrchestrator) (p : PaperPortfolio) (w : PaperWorld)
    (prog : PaperPass α) (Q : PaperWorld → α → Prop) : Prop :=
  Leads (Machine.solo (paperWorker self p) freshDecisions fun _ => True) w prog Q

theorem onward_drift (h : Machine.Drift (paperWorker self p) freshDecisions w w') :
    Onward w w' := by
  induction h with
  | refl => exact .refl _
  | @head w v n _ _ ih => exact (onward_nature n w).trans ih

/-- A program of plain calls leaves the stores. -/
theorem goes_plain {prog : PaperPass α} (hprog : Only Plain prog) :
    Goes self p w prog fun w' _ => Onward w w' := by
  unfold Goes Leads
  refine Conforms.mono (fun _ _ h _ _ => h) (Only.conforms (N := Plain) (I := Onward w)
    (fun _ _ _ _ => trivial) ?_ hprog (Onward.refl w))
  rintro w₁ c r w₂ h hc ⟨v, o, hdrift, -, hserve⟩
  have hstep := onward_serve (w := v) o hc
  change (v.serve o c) = (r, w₂) at hserve
  rw [hserve] at hstep
  exact (h.trans (onward_drift hdrift)).trans hstep

end

/-! ## What the gateway leaves -/

section

variable [Externals]

/-- **A submission that is new is settled by its verdict.** -/
theorem settled_of_unclaimed {g : GatewayRegistries} {t t' : AgentDecisionOutcomes}
    {faults : GatewayFaults} {identity : AgentIdentity} {submission : AgentSubmission}
    {now : UtcDatetime} {result : AgentDecisionOutcomeResult}
    (h : submission.transact g t faults identity now = .ok (result, t'))
    (houtcomes : ∀ row ∈ t.outcomes, row.outcomeId ≠ submission.outcomeId)
    (hevents : ∀ e ∈ t.events, e.outcomeId ≠ submission.outcomeId) :
    result.outcomeId = submission.outcomeId
      ∧ (∃ s, t'.settlementFor submission.outcomeId = some s
        ∧ s.eventType = if result.accepted then .accepted else .rejected)
      ∧ ∀ i, result.tradeIntent = some i →
        i.intentId = AgentGateway.deriveTradeIntentId submission.outcomeId := by
  have hclaim : Table.lookup (·.outcomeId) t.outcomes submission.outcomeId = none :=
    Table.lookup_eq_none.mpr houtcomes
  cases AgentGateway.transact_ok h with
  | replayed row settlement claimed same settled told unchanged =>
      rw [hclaim] at claimed
      cases claimed
  | judged claimed t₁ t₂ reason tradeIntent claim unsettled received verdict recorded told =>
      subst told
      have hevents₁ : t₁.events = t.events := by
        rcases AgentDecisionOutcomes.claim_cases claim with ⟨-, -, rfl⟩ | ⟨-, rfl, -⟩ <;> rfl
      have hevents₂ : ∀ e ∈ t₂.events, e.outcomeId = submission.outcomeId →
          e.eventType = .received := by
        rcases AgentDecisionOutcomes.appendEvent_cases received with ⟨-, rfl⟩ | ⟨rfl, -⟩
        · intro e he hid
          rcases List.mem_append.mp he with he | he
          · exact absurd hid (hevents e (hevents₁ ▸ he))
          · rw [List.mem_singleton.mp he]
        · intro e he hid
          exact absurd hid (hevents e (hevents₁ ▸ he))
      refine ⟨rfl, ⟨AgentGateway.verdictEvent submission.outcomeId reason now, ?_, ?_⟩, ?_⟩
      · have hkey : (AgentGateway.verdictEvent submission.outcomeId reason now).outcomeId
            = submission.outcomeId := by
          cases reason <;> rfl
        have hsettling : (AgentGateway.verdictEvent submission.outcomeId reason now).eventType
            ∈ settlingEventTypes := by
          cases reason <;> simp [AgentGateway.verdictEvent, settlingEventTypes]
        have hnone : t₂.events.find? (fun e => decide (e.outcomeId = submission.outcomeId)
            && decide (e.eventType ∈ settlingEventTypes)) = none := by
          refine List.find?_eq_none.mpr fun e he hboth => ?_
          simp only [Bool.and_eq_true, decide_eq_true_eq] at hboth
          rw [hevents₂ e he hboth.1] at hboth
          simp [settlingEventTypes] at hboth
        rcases AgentDecisionOutcomes.appendEvent_cases recorded with ⟨-, rfl⟩
          | ⟨-, existing, hexisting, -⟩
        · unfold AgentDecisionOutcomes.settlementFor
          rw [List.find?_append, hnone, Option.none_or]
          simp [hkey, hsettling]
        · -- no verdict was on record
          obtain ⟨hmem, hsame⟩ := Table.lookup_eq_some hexisting
          have hid : existing.outcomeId = submission.outcomeId :=
            (congrArg Prod.fst hsame).trans hkey
          have htype : existing.eventType
              = (AgentGateway.verdictEvent submission.outcomeId reason now).eventType :=
            congrArg Prod.snd hsame
          rw [hevents₂ existing hmem hid] at htype
          rw [← htype] at hsettling
          simp [settlingEventTypes] at hsettling
      · cases reason <;> rfl
      · intro i hi
        change tradeIntent = some i at hi
        cases submission with
        | noTrade d => exact absurd (verdict.2.symm.trans hi) (by simp)
        | proposal proposal =>
            obtain ⟨-, hbuilt, hnone⟩ := verdict
            by_cases hreason : reason = none
            · obtain ⟨a, i', -, hbuild, hsome⟩ := hbuilt hreason
              cases hsome.symm.trans hi
              obtain ⟨bundle, -, hbuild⟩ := bind_ok hbuild
              split at hbuild
              · cases hbuild
                rfl
              · cases hbuild
            · exact absurd ((hnone hreason).symm.trans hi) (by simp)

end

section

variable [Externals] {self : PaperLiteOrchestrator} {p : PaperPortfolio} {w w' : PaperWorld}
  {α β : Type}

/-- Whatever a program does, the process has noted what is in its journal. -/
theorem goes_kept (hapart : TellsApart) (hw : Kept w) {prog : PaperPass α} :
    Goes self p w prog fun w' _ => Kept w' := by
  have hall : ∀ prog : PaperPass α, Only (fun _ => True) prog := by
    intro prog
    induction prog with
    | ret a => trivial
    | raise e => trivial
    | call c k ih => exact ⟨trivial, ih⟩
  unfold Goes Leads
  refine Conforms.mono (fun _ _ h _ _ => h) (Only.conforms (N := fun _ => True) (I := Kept)
    (fun _ _ _ _ => trivial) ?_ (hall prog) hw)
  rintro w₁ c r w₂ h - ⟨v, o, hdrift, -, hserve⟩
  have hv := ((onward_drift hdrift).kept h).serve hapart o c
  change (v.serve o c) = (r, w₂) at hserve
  rwa [hserve] at hv

/-- What is there of a decision once the gateway has answered. -/
structure Answered (decision : AgentSubmission) (result : AgentDecisionOutcomeResult)
    (w : PaperWorld) : Prop where
  kept : Kept w
  outcomeId : result.outcomeId = decision.outcomeId
  intent : ∀ i, result.tradeIntent = some i →
    i.intentId = AgentGateway.deriveTradeIntentId result.outcomeId
  settled : ∃ s, w.gateway.tables.settlementFor result.outcomeId = some s
    ∧ s.eventType = if result.accepted then .accepted else .rejected
  capsule : ∀ c ∈ w.capsules, c.capsuleId ≠ Dashboard.agentCapsuleId result.outcomeId
  named : ∀ e ∈ w.journal, correlates result.outcomeId e = false
  keyed : ∀ e ∈ w.journal, ∀ fact ∈ decisionFacts, e.eventKey ≠ auditKey fact result.outcomeId
  ordered : ∀ e ∈ w.journal,
    intentOf? e.payload ≠ some (AgentGateway.deriveTradeIntentId result.outcomeId)

theorem goes_submitToGateway (hapart : TellsApart) (hw : Kept w) {decision : AgentSubmission}
    {now : UtcDatetime} :
    Goes self p w (self.submitToGateway decision now) fun w' result =>
      Answered decision result w' := by
  unfold PaperLiteOrchestrator.submitToGateway
  refine Leads.bind.mpr (Leads.perform.mpr ⟨trivial, ?_⟩)
  rintro call w₁ ⟨v, o, hdrift, -, hserve⟩
  have hcall : call.submission = decision := by
    have hanswer := mayAnswer_serve v o (.inr (.authenticateOwn self.agentId
      self.credentialSecret decision now))
    change v.serve o (.inr (.authenticateOwn self.agentId self.credentialSecret decision now))
      = (.ok call, w₁) at hserve
    rw [hserve] at hanswer
    exact hanswer.1
  have hw₁ : Kept w₁ := by
    have hkept := ((onward_drift hdrift).kept hw).serve hapart o
      (.inr (.authenticateOwn self.agentId self.credentialSecret decision now))
    change v.serve o (.inr (.authenticateOwn self.agentId self.credentialSecret decision now))
      = (.ok call, w₁) at hserve
    rwa [hserve] at hkept
  refine Leads.perform.mpr ⟨trivial, ?_⟩
  rintro result w₂ ⟨v₁, o₁, hdrift₁, hfresh, hserve₁⟩
  have hunused := hfresh call rfl
  rw [hcall] at hunused
  have hkept := ((onward_drift hdrift₁).kept hw₁).serve hapart o₁ (.inr (.transact call))
  change v₁.serve o₁ (.inr (.transact call)) = (.ok result, w₂) at hserve₁
  rw [hserve₁] at hkept
  unfold PaperWorld.serve at hserve₁
  split at hserve₁
  · cases hserve₁
  simp only [PaperWorld.serveOwn] at hserve₁
  split at hserve₁
  · cases hserve₁
  rename_i result' tables htransact
  cases hserve₁
  rw [hcall] at htransact
  obtain ⟨hid, hsettled, hintent⟩ := settled_of_unclaimed htransact hunused.outcome hunused.event
  rw [← hid] at hunused hsettled hintent
  exact ⟨hkept, hid, hintent, hsettled, hunused.capsule, hunused.named, hunused.keyed,
    hunused.ordered⟩

/-! ## What the process appends -/

/-- An entry was appended, and nothing else recorded. -/
structure Entered (w w' : PaperWorld) (e : PaperJournalEntry) : Prop where
  kept : Kept w'
  journal : w'.journal = w.journal ++ [e]
  tables : w.gateway.tables.Within w'.gateway.tables
  capsules : w'.capsules = w.capsules

/-- An operation that returns, whose entry is appended. -/
theorem goes_operate (hapart : TellsApart) (hw : Kept w) {op : PaperOperation}
    {Q : PaperJournalEntry → Prop}
    (hop : ∀ v m a, Onward w v → v.process = .ok m → (op.run m.book).outcome = .ok a →
      ∃ e, (op.run m.book).appended = some e ∧ Q e) :
    Goes self p w (own (.operate op)) fun w' _ => ∃ e, Entered w w' e ∧ Q e := by
  refine Leads.perform.mpr ⟨trivial, ?_⟩
  rintro a w' ⟨v, o, hdrift, -, hserve⟩
  have honward := onward_drift hdrift
  have hkept := (honward.kept hw).serve hapart o (.inr (.operate op))
  change v.serve o (.inr (.operate op)) = (.ok a, w') at hserve
  rw [hserve] at hkept
  unfold PaperWorld.serve at hserve
  split at hserve
  · cases hserve
  rename_i m hm
  simp only [PaperWorld.serveOwn, PaperWorld.operate] at hserve
  split at hserve
  · cases hserve
  obtain ⟨houtcome, rfl⟩ := Prod.mk.inj hserve
  obtain ⟨e, happended, he⟩ := hop v m a honward hm houtcome
  refine ⟨e, ⟨hkept, ?_, honward.tables, honward.capsules⟩, he⟩
  change v.journal ++ (op.run m.book).appended.toList = _
  rw [happended, honward.journal]
  rfl

omit [Externals] in
theorem auditKey_ne_portfolio (fact : String) (id : Uuid) : auditKey fact id ≠ "portfolio" := by
  intro h
  have hhead := congrArg (fun s => s.toList.head?) h
  simp [auditKey] at hhead

/-- **A fact under a key that is free is appended.** -/
theorem goes_audit (hapart : TellsApart) (hw : Kept w) {fact : String} {id : Uuid}
    {detail : Option String} (hfree : ∀ e ∈ w.journal, e.eventKey ≠ auditKey fact id) :
    Goes self p w (PaperLiteOrchestrator.audit fact id detail) fun w' _ => ∃ e, Entered w w' e
      ∧ e.eventType = .auditFact ∧ e.eventKey = auditKey fact id
      ∧ e.payload = auditPayload fact id detail := by
  unfold PaperLiteOrchestrator.audit
  refine Leads.seq (goes_operate hapart hw (Q := fun e => e.eventType = .auditFact
    ∧ e.eventKey = auditKey fact id ∧ e.payload = auditPayload fact id detail) ?_)
    fun _ _ h => Leads.ret.mpr h
  intro v m a honward hm houtcome
  have hnoted := (honward.kept hw).2 m hm
  change (m.book.recordAuditFact fact id detail).outcome = _ at houtcome
  change ∃ e, (m.book.recordAuditFact fact id detail).appended = some e ∧ _
  unfold DurablePaperBroker.recordAuditFact at houtcome ⊢
  rcases append_result (b := m.book) .auditFact (auditKey fact id) (auditPayload fact id detail)
      (fun appended b => (.ok appended, b)) with ⟨e, h⟩ | ⟨hknown, -⟩ | ⟨-, h⟩
  · rw [h] at houtcome
    cases houtcome
  · obtain ⟨before, after, hsplit, -⟩ := List.lookup_eq_some_iff.mp hknown
    rcases hnoted.keyed (auditKey fact id, digestOf (auditPayload fact id detail))
        (by rw [hsplit]; simp) with hportfolio | ⟨e, he, hkey, -⟩
    · exact absurd hportfolio (auditKey_ne_portfolio fact id)
    · rw [honward.journal] at he
      exact absurd hkey (hfree e he)
  · rw [h]
    exact ⟨_, rfl, rfl, rfl, rfl⟩

/-- **An order of an intent of which none is on record is appended.** -/
theorem goes_submit (hapart : TellsApart) (hw : Kept w) {order : PaperOrder} {riskAmount : Decimal}
    {id : Uuid} (hnew : ∀ e ∈ w.journal, intentOf? e.payload ≠ some order.val.intentId) :
    Goes self p w (own (.operate (.submit order riskAmount (some id)))) fun w' _ =>
      ∃ e, Entered w w' e ∧ e.eventType = .paperOrderAccepted
        ∧ e.payload = orderPayload order.val riskAmount (some id) := by
  refine goes_operate hapart hw ?_
  intro v m a honward hm houtcome
  have hnoted := (honward.kept hw).2 m hm
  rw [← honward.journal] at hnew
  change (m.book.submit order riskAmount (some id)).outcome = _ at houtcome
  change ∃ e, (m.book.submit order riskAmount (some id)).appended = some e ∧ _
  unfold DurablePaperBroker.submit at houtcome ⊢
  split at houtcome
  · cases houtcome
  split at houtcome
  · rename_i existing hlookup
    split at houtcome
    · cases houtcome
    · -- an order on record with this fingerprint would be of this intent
      rename_i hsame
      obtain ⟨before, after, hsplit, -⟩ := List.lookup_eq_some_iff.mp hlookup
      obtain ⟨e, he, a', hprint, hintent⟩ := hnoted.ordered (order.val.orderRequestId, existing)
        (by rw [hsplit]; simp)
      have hdump : digestOf a'.dump = digestOf order.val.dump :=
        hprint.symm.trans (not_not.mp hsame)
      rw [hapart.orders _ _ hdump] at hintent
      exact absurd hintent (hnew e he)
  · rename_i hneg _ hlookup
    rw [if_neg hneg]
    rcases append_result (b := m.book) .paperOrderAccepted (orderKey order.val.orderRequestId)
        (orderPayload order.val riskAmount (some id))
        (fun _ b => b.applyOrder order.val (digestOf order.val.dump) riskAmount)
      with ⟨e, h⟩ | ⟨hknown, -⟩ | ⟨-, h⟩
    · rw [h] at houtcome
      cases houtcome
    · obtain ⟨e, he, a', x, c, hpayload, hdigest⟩ := hnoted.order hknown
      refine absurd ?_ (hnew e he)
      rw [hpayload, intentOf?_orderPayload, hapart.records _ _ _ _ _ _ hdigest]
    · rw [h]
      exact ⟨_, rfl, rfl, rfl⟩

end

end Crumblr.PaperLite
