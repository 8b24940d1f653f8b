import Crumblr.AgentGateway.Gateway

/-!
# What a gateway transaction can do

A submission's transaction either answers from a settlement and leaves the tables alone, or
judges the submission and adds to them: the claim, unless it was there, that the submission was
received, and the verdict. Nothing is ever taken away, and the registries keep what was first
registered.
-/

namespace Crumblr

namespace AgentDecisionOutcomes

variable {t t' : AgentDecisionOutcomes} {row : AgentDecisionOutcome}
  {event : AgentDecisionEventRecord} {claimed : Bool}

/-- A claim is won, or lost to the same content. -/
theorem claim_cases (h : t.claim row = .ok (claimed, t')) :
    (claimed = true ∧ Table.lookup (·.outcomeId) t.outcomes row.outcomeId = none
        ∧ t' = { t with outcomes := t.outcomes ++ [row] })
      ∨ (claimed = false ∧ t' = t ∧ ∃ existing,
        Table.lookup (·.outcomeId) t.outcomes row.outcomeId = some existing
          ∧ existing.fingerprint = row.fingerprint) := by
  unfold claim at h
  split at h
  · rename_i hnone
    cases h
    exact .inl ⟨rfl, hnone, rfl⟩
  · rename_i existing hsome
    split at h
    · cases h
    · rename_i hsame
      cases h
      exact .inr ⟨rfl, rfl, existing, hsome, not_not.mp hsame⟩

/-- An event is new, or says what is on record. -/
theorem appendEvent_cases (h : t.appendEvent event = .ok t') :
    (Table.lookup AgentDecisionEventRecord.key t.events event.key = none
        ∧ t' = { t with events := t.events ++ [event] })
      ∨ (t' = t ∧ ∃ existing,
        Table.lookup AgentDecisionEventRecord.key t.events event.key = some existing
          ∧ existing.reasonCodes = event.reasonCodes) := by
  unfold appendEvent at h
  split at h
  · rename_i hnone
    cases h
    exact .inl ⟨hnone, rfl⟩
  · rename_i existing hsome
    split at h
    · cases h
    · rename_i hsame
      cases h
      exact .inr ⟨rfl, existing, hsome, (Prod.mk.inj (not_not.mp hsame)).1⟩

/-! ## Tables only grow -/

/-- What one state of the tables says, the other says too. -/
structure Within (t t' : AgentDecisionOutcomes) : Prop where
  outcomes : t.outcomes <+: t'.outcomes
  events : t.events <+: t'.events

theorem Within.refl : Within t t := ⟨List.prefix_refl _, List.prefix_refl _⟩

theorem Within.trans {t'' : AgentDecisionOutcomes} (h : Within t t') (h' : Within t' t'') :
    Within t t'' :=
  ⟨h.outcomes.trans h'.outcomes, h.events.trans h'.events⟩

theorem within_claim (h : t.claim row = .ok (claimed, t')) : Within t t' := by
  rcases claim_cases h with ⟨-, -, rfl⟩ | ⟨-, rfl, -⟩
  · exact ⟨List.prefix_append .., List.prefix_refl _⟩
  · exact .refl

theorem within_appendEvent (h : t.appendEvent event = .ok t') : Within t t' := by
  rcases appendEvent_cases h with ⟨-, rfl⟩ | ⟨rfl, -⟩
  · exact ⟨List.prefix_refl _, List.prefix_append ..⟩
  · exact .refl

/-- A row that is found stays found. -/
theorem Within.lookup (h : Within t t') {outcomeId : Uuid} {row : AgentDecisionOutcome}
    (hrow : Table.lookup (·.outcomeId) t.outcomes outcomeId = some row) :
    Table.lookup (·.outcomeId) t'.outcomes outcomeId = some row := by
  obtain ⟨more, hmore⟩ := h.outcomes
  unfold Table.lookup at hrow ⊢
  rw [← hmore, List.find?_append, hrow]
  rfl

/-- A settlement that is found stays the one that is found. -/
theorem Within.settlementFor (h : Within t t') {outcomeId : Uuid}
    {settlement : AgentDecisionEventRecord} (hs : t.settlementFor outcomeId = some settlement) :
    t'.settlementFor outcomeId = some settlement := by
  obtain ⟨more, hmore⟩ := h.events
  unfold AgentDecisionOutcomes.settlementFor at hs ⊢
  rw [← hmore, List.find?_append, hs]
  rfl

end AgentDecisionOutcomes

namespace AgentGateway

variable [Externals] {g : GatewayRegistries} {t t' : AgentDecisionOutcomes}
  {faults : GatewayFaults} {identity : AgentIdentity} {submission : AgentSubmission}
  {now : UtcDatetime} {result : AgentDecisionOutcomeResult}

/-- The row a submission claims. -/
def claimRow (submission : AgentSubmission) (now : UtcDatetime) : AgentDecisionOutcome :=
  ⟨submission.outcomeId, submission.outcomeType, submission.agentId, submission.assignmentId,
    submission.fingerprint, now⟩

omit [Externals] in
/-- The event a verdict is recorded as. -/
def verdictEvent (outcomeId : Uuid) (reason : Option AgentRejectionReason) (now : UtcDatetime) :
    AgentDecisionEventRecord :=
  match reason with
  | some reason => ⟨outcomeId, .rejected, now, [reason.value], none⟩
  | none => ⟨outcomeId, .accepted, now, [], none⟩

/-- What the verdict on a submission rests on. -/
def Judged (g : GatewayRegistries) (t : AgentDecisionOutcomes) (identity : AgentIdentity)
    (now : UtcDatetime) (reason : Option AgentRejectionReason) (tradeIntent : Option TradeIntent) :
    AgentSubmission → Prop
  | .proposal p =>
      evaluateProposal g identity p (g.assignment p.assignmentId)
          ((g.assignment p.assignmentId).map fun a =>
            t.countClaimedSince a.assignmentId (now - rateLimitWindow)) now = reason
        ∧ (reason = none → ∃ a i, g.assignment p.assignmentId = some a
            ∧ buildTradeIntent g p a = .ok i ∧ tradeIntent = some i)
        ∧ (reason ≠ none → tradeIntent = none)
  | .noTrade d =>
      evaluateNoTrade g identity d (g.assignment d.assignmentId) now = reason ∧ tradeIntent = none

/-- The record holds an answer to a submission. -/
def SettledAs (g : GatewayRegistries) (t : AgentDecisionOutcomes) (submission : AgentSubmission)
    (told : AgentDecisionOutcomeResult) : Prop :=
  ∃ row settlement, Table.lookup (·.outcomeId) t.outcomes submission.outcomeId = some row
    ∧ row.fingerprint = submission.fingerprint
    ∧ t.settlementFor submission.outcomeId = some settlement
    ∧ resultFromSettlement g settlement submission.proposal? = .ok told

/-- Everything a transaction that returns can have done. -/
inductive Transacted (g : GatewayRegistries) (t : AgentDecisionOutcomes) (identity : AgentIdentity)
    (now : UtcDatetime) (submission : AgentSubmission) (result : AgentDecisionOutcomeResult)
    (t' : AgentDecisionOutcomes) : Prop where
  /-- The id was settled before. -/
  | replayed (row : AgentDecisionOutcome) (settlement : AgentDecisionEventRecord)
      (claimed : Table.lookup (·.outcomeId) t.outcomes submission.outcomeId = some row)
      (same : row.fingerprint = submission.fingerprint)
      (settled : t.settlementFor submission.outcomeId = some settlement)
      (told : resultFromSettlement g settlement submission.proposal? = .ok result)
      (unchanged : t' = t)
  /-- The submission was judged. -/
  | judged (claimed : Bool) (t₁ t₂ : AgentDecisionOutcomes) (reason : Option AgentRejectionReason)
      (tradeIntent : Option TradeIntent)
      (claim : t.claim (claimRow submission now) = .ok (claimed, t₁))
      (unsettled : claimed = true ∨ t₁.settlementFor submission.outcomeId = none)
      (received : t₁.appendEvent ⟨submission.outcomeId, .received, now, [], none⟩ = .ok t₂)
      (verdict : Judged g t₂ identity now reason tradeIntent submission)
      (recorded : t₂.appendEvent (verdictEvent submission.outcomeId reason now) = .ok t')
      (told : result = ⟨submission.outcomeId, submission.outcomeType, reason.isNone, reason,
        tradeIntent⟩)

omit [Externals] in
theorem settle_ok {outcomeId : Uuid} {outcomeType : AgentOutcomeType}
    {reason : Option AgentRejectionReason} {tradeIntent : Option TradeIntent}
    (h : settle t outcomeId outcomeType reason now tradeIntent = .ok (result, t')) :
    t.appendEvent (verdictEvent outcomeId reason now) = .ok t'
      ∧ result = ⟨outcomeId, outcomeType, reason.isNone, reason,
          if reason.isNone then tradeIntent else none⟩ := by
  unfold settle at h
  split at h
  all_goals
    obtain ⟨t₁, ht₁, heq⟩ := bind_ok h
    cases heq
    exact ⟨ht₁, rfl⟩

theorem evaluateClaimedProposal_ok {p : TradeProposal}
    (h : evaluateClaimedProposal g t faults identity p now = .ok (result, t')) :
    ∃ t₂ reason tradeIntent,
      t.appendEvent ⟨p.proposalId, .received, now, [], none⟩ = .ok t₂
        ∧ Judged g t₂ identity now reason tradeIntent (.proposal p)
        ∧ t₂.appendEvent (verdictEvent p.proposalId reason now) = .ok t'
        ∧ result = ⟨p.proposalId, .tradeProposal, reason.isNone, reason, tradeIntent⟩ := by
  unfold evaluateClaimedProposal at h
  obtain ⟨-, -, h⟩ := bind_ok h
  obtain ⟨t₂, hreceived, h⟩ := bind_ok h
  obtain ⟨-, -, h⟩ := bind_ok h
  obtain ⟨-, -, h⟩ := bind_ok h
  obtain ⟨-, -, h⟩ := bind_ok h
  split at h
  · rename_i reason hreason
    obtain ⟨-, -, h⟩ := bind_ok h
    obtain ⟨hrecorded, htold⟩ := settle_ok h
    exact ⟨t₂, some reason, none, hreceived, ⟨hreason, (fun hn => by cases hn), fun _ => rfl⟩, hrecorded,
      htold⟩
  · rename_i hreason
    obtain ⟨a, ha, h⟩ := bind_ok h
    obtain ⟨i, hi, h⟩ := bind_ok h
    obtain ⟨-, -, h⟩ := bind_ok h
    obtain ⟨hrecorded, htold⟩ := settle_ok h
    exact ⟨t₂, none, some i, hreceived,
      ⟨hreason, fun _ => ⟨a, i, assertSome_ok ha, hi, rfl⟩, fun hne => absurd rfl hne⟩, hrecorded,
      htold⟩

theorem evaluateClaimedNoTrade_ok {d : NoTradeDecision}
    (h : evaluateClaimedNoTrade g t faults identity d now = .ok (result, t')) :
    ∃ t₂ reason,
      t.appendEvent ⟨d.decisionId, .received, now, [], none⟩ = .ok t₂
        ∧ Judged g t₂ identity now reason none (.noTrade d)
        ∧ t₂.appendEvent (verdictEvent d.decisionId reason now) = .ok t'
        ∧ result = ⟨d.decisionId, .noTrade, reason.isNone, reason, none⟩ := by
  unfold evaluateClaimedNoTrade at h
  obtain ⟨-, -, h⟩ := bind_ok h
  obtain ⟨t₂, hreceived, h⟩ := bind_ok h
  obtain ⟨-, -, h⟩ := bind_ok h
  obtain ⟨-, -, h⟩ := bind_ok h
  obtain ⟨-, -, h⟩ := bind_ok h
  obtain ⟨hrecorded, htold⟩ := settle_ok h
  refine ⟨t₂, _, hreceived, ⟨rfl, rfl⟩, hrecorded, ?_⟩
  rw [htold, ite_self]

/-- Judging a submission that is claimed and not settled. -/
def evaluateClaimed (g : GatewayRegistries) (t : AgentDecisionOutcomes) (faults : GatewayFaults)
    (identity : AgentIdentity) (now : UtcDatetime) :
    AgentSubmission → Except PyError (AgentDecisionOutcomeResult × AgentDecisionOutcomes)
  | .proposal p => evaluateClaimedProposal g t faults identity p now
  | .noTrade d => evaluateClaimedNoTrade g t faults identity d now

theorem evaluateClaimed_ok
    (h : evaluateClaimed g t faults identity now submission = .ok (result, t')) :
    ∃ t₂ reason tradeIntent,
      t.appendEvent ⟨submission.outcomeId, .received, now, [], none⟩ = .ok t₂
        ∧ Judged g t₂ identity now reason tradeIntent submission
        ∧ t₂.appendEvent (verdictEvent submission.outcomeId reason now) = .ok t'
        ∧ result = ⟨submission.outcomeId, submission.outcomeType, reason.isNone, reason,
            tradeIntent⟩ := by
  cases submission with
  | proposal p => exact evaluateClaimedProposal_ok h
  | noTrade d =>
      obtain ⟨t₂, reason, hrest⟩ := evaluateClaimedNoTrade_ok h
      exact ⟨t₂, reason, none, hrest⟩

/-- The two kinds of submission go through one transaction. -/
theorem transact_eq :
    submission.transact g t faults identity now = (do
      raising (faults .lockAssignment)
      raising (faults .claim)
      let (claimed, t) ← t.claim (claimRow submission now)
      raising (if claimed then none else faults .settlement)
      match if claimed then none else t.settlementFor submission.outcomeId with
      | some settlement => do
          let result ← resultFromSettlement g settlement submission.proposal?
          raising (faults .commit)
          pure (result, t)
      | none => do
          let settled ← evaluateClaimed g t faults identity now submission
          raising (faults .commit)
          pure settled) := by
  cases submission with
  | proposal p => rfl
  | noTrade d => rfl

/-- **Everything a transaction can do.** -/
theorem transact_ok (h : submission.transact g t faults identity now = .ok (result, t')) :
    Transacted g t identity now submission result t' := by
  rw [transact_eq] at h
  obtain ⟨-, -, h⟩ := bind_ok h
  obtain ⟨-, -, h⟩ := bind_ok h
  obtain ⟨⟨claimed, t₁⟩, hclaim, h⟩ := bind_ok h
  obtain ⟨-, -, h⟩ := bind_ok h
  split at h
  · rename_i settlement hsettled
    obtain ⟨r, hr, h⟩ := bind_ok h
    obtain ⟨-, -, h⟩ := bind_ok h
    cases h
    rcases AgentDecisionOutcomes.claim_cases hclaim with
      ⟨rfl, -, -⟩ | ⟨rfl, rfl, existing, hexisting, hsame⟩
    · cases hsettled
    · exact .replayed existing settlement hexisting hsame hsettled hr rfl
  · rename_i hunsettled
    obtain ⟨⟨r, t₃⟩, hjudged, h⟩ := bind_ok h
    obtain ⟨-, -, h⟩ := bind_ok h
    cases h
    obtain ⟨t₂, reason, tradeIntent, hreceived, hverdict, hrecorded, htold⟩ :=
      evaluateClaimed_ok hjudged
    refine .judged claimed t₁ t₂ reason tradeIntent hclaim ?_ hreceived hverdict hrecorded htold
    cases claimed with
    | true => exact .inl rfl
    | false => exact .inr hunsettled

theorem within_transact (h : submission.transact g t faults identity now = .ok (result, t')) :
    t.Within t' := by
  cases transact_ok h with
  | replayed row settlement claimed same settled told unchanged =>
      rw [unchanged]
      exact .refl
  | judged claimed t₁ t₂ reason tradeIntent claim unsettled received verdict recorded told =>
      exact ((AgentDecisionOutcomes.within_claim claim).trans
        (AgentDecisionOutcomes.within_appendEvent received)).trans
        (AgentDecisionOutcomes.within_appendEvent recorded)

end AgentGateway

/-! ## What the registries keep -/

namespace GatewayRegistries

/-- What was registered before is registered still. -/
structure Within (g g' : GatewayRegistries) : Prop where
  assignments : g.assignments <+: g'.assignments
  contexts : g.contexts <+: g'.contexts

variable {g g' : GatewayRegistries}

theorem Within.refl : Within g g := ⟨List.prefix_refl _, List.prefix_refl _⟩

theorem Within.trans {g'' : GatewayRegistries} (h : Within g g') (h' : Within g' g'') :
    Within g g'' :=
  ⟨h.assignments.trans h'.assignments, h.contexts.trans h'.contexts⟩

theorem Within.assignment (h : Within g g') {assignmentId : Uuid} {a : TradingAssignment}
    (ha : g.assignment assignmentId = some a) : g'.assignment assignmentId = some a := by
  obtain ⟨more, hmore⟩ := h.assignments
  unfold GatewayRegistries.assignment Table.lookup at ha ⊢
  rw [← hmore, List.find?_append, ha]
  rfl

/-- A bundle found under a hash leaves one to be found. -/
theorem Within.byHash [Externals] (h : Within g g') {contentHash : String}
    {b : DecisionContextBundle} (hb : g.byHash contentHash = some b) :
    ∃ b', g'.byHash contentHash = some b' := by
  obtain ⟨more, hmore⟩ := h.contexts
  unfold GatewayRegistries.byHash at hb ⊢
  rw [← hmore, List.filter_append, List.getLast?_append, hb]
  cases (more.filter _).getLast? with
  | none => exact ⟨b, rfl⟩
  | some b' => exact ⟨b', rfl⟩

theorem byHash_eq_some [Externals] {contentHash : String} {b : DecisionContextBundle}
    (h : g.byHash contentHash = some b) : b ∈ g.contexts ∧ b.contentHash = contentHash := by
  have hmem := List.mem_of_getLast? h
  simpa using List.mem_filter.mp hmem

theorem within_registerAssignment [Externals] {a : TradingAssignment}
    (h : g.registerAssignment a = .ok g') : Within g g' := by
  unfold registerAssignment at h
  split at h
  · cases h
    exact ⟨List.prefix_append .., List.prefix_refl _⟩
  · split at h
    · cases h
    · cases h
      exact .refl

theorem within_issueContextBundle [Externals] {b : DecisionContextBundle}
    (h : AgentGateway.issueContextBundle g b = .ok g') : Within g g' := by
  unfold AgentGateway.issueContextBundle issue at h
  split at h
  · cases h
  split at h
  · cases h
    exact ⟨List.prefix_refl _, List.prefix_append ..⟩
  · split at h
    · cases h
    · cases h
      exact .refl

end GatewayRegistries

namespace AgentGateway

variable [Externals] {s : AgentGateway}

/-- **Whatever happens, what is on record stays.** -/
theorem within_step (op : GatewayOperation) :
    s.tables.Within (s.step op).tables ∧ s.registries.Within (s.step op).registries := by
  cases op with
  | registerIdentity identity => exact ⟨.refl, List.prefix_refl _, List.prefix_refl _⟩
  | setCredential agentId secret salt => exact ⟨.refl, List.prefix_refl _, List.prefix_refl _⟩
  | recordEvidence evidence => exact ⟨.refl, List.prefix_refl _, List.prefix_refl _⟩
  | abandon n => exact ⟨.refl, .refl⟩
  | issueAssignment a =>
      simp only [step]
      split
      · rename_i g' hg
        exact ⟨.refl, GatewayRegistries.within_registerAssignment hg⟩
      · exact ⟨.refl, .refl⟩
  | issueContextBundle b =>
      simp only [step]
      split
      · rename_i g' hg
        exact ⟨.refl, GatewayRegistries.within_issueContextBundle hg⟩
      · exact ⟨.refl, .refl⟩
  | arrive agentId secret submission now =>
      simp only [step]
      split
      · exact ⟨.refl, .refl⟩
      · exact ⟨.refl, .refl⟩
  | transact n faults =>
      simp only [step]
      split
      · rename_i r t hanswer
        refine ⟨?_, .refl⟩
        obtain ⟨c, -, hc⟩ := Option.map_eq_some_iff.mp hanswer
        exact within_transact hc
      · exact ⟨.refl, .refl⟩

theorem within_run (ops : List GatewayOperation) :
    s.tables.Within (s.run ops).tables ∧ s.registries.Within (s.run ops).registries := by
  induction ops generalizing s with
  | nil => exact ⟨.refl, .refl⟩
  | cons op ops ih =>
      have hstep := within_step (s := s) op
      have hrest := ih (s := s.step op)
      exact ⟨hstep.1.trans hrest.1, hstep.2.trans hrest.2⟩

end AgentGateway

end Crumblr
