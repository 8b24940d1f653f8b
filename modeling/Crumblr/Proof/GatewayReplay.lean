import Crumblr.Proof.GatewayRate
import Crumblr.Lib.Normalize

/-!
# Asking the gateway again

A settled id is answered from its settlement, and the intent of an accepted proposal is built
again. What it is built from does not change: assignments and bundles stay as they were first
registered, and a bundle is found by a digest of all it says but its id. So a retry is told what
was told before, whatever happened in between.

Which call is a retry is decided by the digest of a submission's content, in which a decimal is
rounded to 28 significant digits. A submission under a settled id whose decimals differ past the
28th digit is taken for a retry, although it says something else. The law holds exactly of the
calls that are not of this kind.
-/

namespace Crumblr

open AgentDecisionOutcomes AgentGateway

/-! ## Saying the same -/

/-- Decimals of one value. -/
def SameValue (x y : Decimal) : Prop := x.compare y = .eq

/-- Decimals a content digest cannot tell apart. -/
def SameNormal (x y : Decimal) : Prop := x.normalize = y.normalize

/-- Two proposals say the same, as far as `R` compares decimals. -/
structure TradeProposal.Agree (R : Decimal → Decimal → Prop) (p q : TradeProposal) : Prop where
  agentId : p.agentId = q.agentId
  assignmentId : p.assignmentId = q.assignmentId
  contextHash : p.contextHash = q.contextHash
  strategyArtifactHash : p.strategyArtifactHash = q.strategyArtifactHash
  side : p.side = q.side
  entryType : p.entryType = q.entryType
  referencePrice : R p.referencePrice.val q.referencePrice.val
  stopLossPrice : R p.stopLossPrice.val q.stopLossPrice.val
  takeProfitPrice : R p.takeProfitPrice.val q.takeProfitPrice.val
  confidence : p.confidence = q.confidence
  requestedRiskFraction : R p.requestedRiskFraction.val q.requestedRiskFraction.val
  reasonCodes : p.reasonCodes = q.reasonCodes
  evidenceRefs : p.evidenceRefs = q.evidenceRefs
  submittedAtUtc : p.submittedAtUtc = q.submittedAtUtc
  expiresAtUtc : p.expiresAtUtc = q.expiresAtUtc

structure NoTradeDecision.Agree (d e : NoTradeDecision) : Prop where
  agentId : d.agentId = e.agentId
  assignmentId : d.assignmentId = e.assignmentId
  contextHash : d.contextHash = e.contextHash
  reasonCodes : d.reasonCodes = e.reasonCodes
  decidedAtUtc : d.decidedAtUtc = e.decidedAtUtc

/-- Two submissions say the same; of different types they never do. -/
def AgentSubmission.Agree (R : Decimal → Decimal → Prop) :
    AgentSubmission → AgentSubmission → Prop
  | .proposal p, .proposal q => p.Agree R q
  | .noTrade d, .noTrade e => d.Agree e
  | _, _ => False

structure TradeIntent.Agree (R : Decimal → Decimal → Prop) (i j : TradeIntent) : Prop where
  intentId : i.intentId = j.intentId
  strategyId : i.strategyId = j.strategyId
  strategyVersion : i.strategyVersion = j.strategyVersion
  modelVersion : i.modelVersion = j.modelVersion
  symbol : i.symbol = j.symbol
  side : i.side = j.side
  createdAtUtc : i.createdAtUtc = j.createdAtUtc
  expiresAtUtc : i.expiresAtUtc = j.expiresAtUtc
  entryType : i.entryType = j.entryType
  referencePrice : R i.referencePrice.val j.referencePrice.val
  stopLossPrice : Option.Rel (fun x y : Price => R x.val y.val) i.stopLossPrice j.stopLossPrice
  takeProfitPrice : Option.Rel (fun x y : Price => R x.val y.val) i.takeProfitPrice
    j.takeProfitPrice
  confidence : i.confidence = j.confidence
  reasonCodes : i.reasonCodes = j.reasonCodes
  requestedRiskFraction : Option.Rel (fun x y : RiskFraction => R x.val y.val)
    i.requestedRiskFraction j.requestedRiskFraction
  featureSnapshotId : i.featureSnapshotId = j.featureSnapshotId

/-- Two answers say the same. -/
structure AgentDecisionOutcomeResult.Agree (R : Decimal → Decimal → Prop)
    (r r' : AgentDecisionOutcomeResult) : Prop where
  outcomeId : r.outcomeId = r'.outcomeId
  outcomeType : r.outcomeType = r'.outcomeType
  accepted : r.accepted = r'.accepted
  reason : r.reason = r'.reason
  tradeIntent : Option.Rel (TradeIntent.Agree R) r.tradeIntent r'.tradeIntent

section

variable {R S : Decimal → Decimal → Prop}

theorem AgentSubmission.Agree.mono (hRS : ∀ x y, R x y → S x y) {first second : AgentSubmission}
    (h : first.Agree R second) : first.Agree S second := by
  cases first with
  | proposal p =>
      cases second with
      | proposal q =>
          exact { h with
            referencePrice := hRS _ _ h.referencePrice
            stopLossPrice := hRS _ _ h.stopLossPrice
            takeProfitPrice := hRS _ _ h.takeProfitPrice
            requestedRiskFraction := hRS _ _ h.requestedRiskFraction }
      | noTrade e => exact h
  | noTrade d =>
      cases second with
      | proposal q => exact h
      | noTrade e => exact h

theorem side_value_inj {a b : Side} (h : a.value = b.value) : a = b := by
  cases a <;> cases b <;> first | rfl | exact absurd h (by decide)

theorem entryType_value_inj {a b : EntryType} (h : a.value = b.value) : a = b := by
  cases a <;> cases b <;> first | rfl | exact absurd h (by decide)

theorem str_inj {a b : String} (h : Json.str a = Json.str b) : a = b := Json.str.inj h

theorem uuid_inj {a b : Uuid} (h : Json.uuid a = Json.uuid b) : a = b := by
  cases a
  cases b
  exact congrArg Uuid.mk (Json.str.inj h)

theorem reasonCodes_json_inj {a b : ReasonCodes} (h : a.json = b.json) : a = b := by
  have hstrings : a.strings = b.strings :=
    List.map_injective_iff.mpr (fun _ _ => str_inj) (Json.list.inj h)
  exact Subtype.ext (List.map_injective_iff.mpr Subtype.val_injective hstrings)

theorem TradeProposal.content_eq_iff {p q : TradeProposal} :
    p.content = q.content ↔ p.Agree SameNormal q := by
  constructor
  · intro h
    simp only [content, Json.obj.injEq, List.cons.injEq, Prod.mk.injEq, true_and, and_true,
      Json.str.injEq, Json.decimal.injEq, Json.time.injEq] at h
    obtain ⟨hagent, hassignment, hcontext, hstrategy, hside, hentry, hreference, hstop, htake,
      hconfidence, hrisk, hreasons, hrefs, hsubmitted, hexpires⟩ := h
    refine ⟨uuid_inj hagent, uuid_inj hassignment, hcontext, hstrategy, side_value_inj hside,
      entryType_value_inj hentry, hreference, hstop, htake, ?_, hrisk,
      reasonCodes_json_inj hreasons, ?_, hsubmitted, hexpires⟩
    · exact congrArg PyFloat.mk hconfidence
    · exact List.map_injective_iff.mpr (fun _ _ => uuid_inj) (Json.list.inj hrefs)
  · intro h
    have hreference : p.referencePrice.val.normalize = q.referencePrice.val.normalize :=
      h.referencePrice
    have hstop : p.stopLossPrice.val.normalize = q.stopLossPrice.val.normalize := h.stopLossPrice
    have htake : p.takeProfitPrice.val.normalize = q.takeProfitPrice.val.normalize :=
      h.takeProfitPrice
    have hrisk : p.requestedRiskFraction.val.normalize = q.requestedRiskFraction.val.normalize :=
      h.requestedRiskFraction
    unfold content
    rw [h.agentId, h.assignmentId, h.contextHash, h.strategyArtifactHash, h.side, h.entryType,
      hreference, hstop, htake, h.confidence, hrisk, h.reasonCodes, h.evidenceRefs,
      h.submittedAtUtc, h.expiresAtUtc]

theorem NoTradeDecision.content_eq_iff {d e : NoTradeDecision} :
    d.content = e.content ↔ d.Agree e := by
  constructor
  · intro h
    simp only [content, Json.obj.injEq, List.cons.injEq, Prod.mk.injEq, true_and, and_true,
      Json.str.injEq, Json.time.injEq] at h
    obtain ⟨hagent, hassignment, hcontext, hreasons, hdecided⟩ := h
    exact ⟨uuid_inj hagent, uuid_inj hassignment, hcontext, reasonCodes_json_inj hreasons, hdecided⟩
  · intro h
    unfold content
    rw [h.agentId, h.assignmentId, h.contextHash, h.reasonCodes, h.decidedAtUtc]

/-- What a digest is made of says everything, but for a decimal's digits after the 28th. -/
theorem AgentSubmission.content_eq_iff {first second : AgentSubmission} :
    first.content = second.content ↔ first.Agree SameNormal second := by
  cases first with
  | proposal p =>
      cases second with
      | proposal q => exact TradeProposal.content_eq_iff
      | noTrade e =>
          refine ⟨fun h => ?_, False.elim⟩
          simp [content, TradeProposal.content, NoTradeDecision.content] at h
  | noTrade d =>
      cases second with
      | proposal q =>
          refine ⟨fun h => ?_, False.elim⟩
          simp [content, TradeProposal.content, NoTradeDecision.content] at h
      | noTrade e => exact NoTradeDecision.content_eq_iff

/-- Optional values that agree, agree in what is weaker. -/
theorem rel_mono {α : Type} {f : α → Decimal} {x y : Option α} (hRS : ∀ x y, R x y → S x y)
    (h : Option.Rel (fun x y => R (f x) (f y)) x y) :
    Option.Rel (fun x y => S (f x) (f y)) x y := by
  cases h with
  | none => exact .none
  | some hxy => exact .some (hRS _ _ hxy)

theorem TradeIntent.Agree.mono (hRS : ∀ x y, R x y → S x y) {i j : TradeIntent}
    (h : i.Agree R j) : i.Agree S j :=
  { h with
    referencePrice := hRS _ _ h.referencePrice
    stopLossPrice := rel_mono hRS h.stopLossPrice
    takeProfitPrice := rel_mono hRS h.takeProfitPrice
    requestedRiskFraction := rel_mono hRS h.requestedRiskFraction }

/-- An optional decimal in a digest. -/
theorem opt_normalize_congr {α : Type} {f : α → Decimal} {x y : Option α}
    (h : Option.Rel (fun x y => SameNormal (f x) (f y)) x y) :
    Json.opt (fun a => .decimal (f a).normalize) x
      = Json.opt (fun a => .decimal (f a).normalize) y := by
  cases h with
  | none => rfl
  | some hxy => exact congrArg Json.decimal hxy

/-- **Intents that say the same have one decision hash.** -/
theorem TradeIntent.Agree.decisionHash_eq [Externals] {i j : TradeIntent}
    (h : i.Agree SameNormal j) : i.decisionHash = j.decisionHash := by
  unfold TradeIntent.decisionHash
  have hreference : Json.decimal i.referencePrice.val.normalize
      = .decimal j.referencePrice.val.normalize := congrArg _ h.referencePrice
  rw [h.strategyId, h.strategyVersion, h.modelVersion, h.symbol, h.side, h.createdAtUtc,
    h.expiresAtUtc, h.entryType, hreference, opt_normalize_congr h.stopLossPrice,
    opt_normalize_congr h.takeProfitPrice, h.confidence, h.reasonCodes,
    opt_normalize_congr h.requestedRiskFraction, h.featureSnapshotId]

end

/-! ## Building an answer again -/

namespace AgentGateway

variable [Externals] {g g' : GatewayRegistries} {t : AgentDecisionOutcomes}
  {R : Decimal → Decimal → Prop} {first second : AgentSubmission}

/-- No two bundles that differ in content share a content hash. -/
def ContentHashesApart (g : GatewayRegistries) : Prop :=
  ∀ b ∈ g.contexts, ∀ b' ∈ g.contexts, b.contentHash = b'.contentHash → b.content = b'.content

/-- The bundle found under a hash later refers to the same evidence. -/
theorem byHash_again (hwithin : g.Within g') (hapart : ContentHashesApart g')
    {contextHash : String} {b : DecisionContextBundle} (hb : g.byHash contextHash = some b) :
    ∃ b', g'.byHash contextHash = some b' ∧ b'.featureSnapshotId = b.featureSnapshotId := by
  obtain ⟨b', hb'⟩ := hwithin.byHash hb
  obtain ⟨hmem, hhash⟩ := GatewayRegistries.byHash_eq_some hb
  obtain ⟨hmem', hhash'⟩ := GatewayRegistries.byHash_eq_some hb'
  have hcontent := hapart b' hmem' b (hwithin.contexts.subset hmem) (hhash'.trans hhash.symm)
  refine ⟨b', hb', ?_⟩
  simp only [DecisionContextBundle.content, Json.obj.injEq, List.cons.injEq, Prod.mk.injEq,
    true_and, and_true] at hcontent
  obtain ⟨-, -, -, -, -, -, hfeature, -⟩ := hcontent
  exact uuid_inj hfeature

/-- **An intent is built again as it was.** -/
theorem buildTradeIntent_again {p q : TradeProposal} {a : TradingAssignment} {i : TradeIntent}
    (hwithin : g.Within g') (hapart : ContentHashesApart g') (hid : p.proposalId = q.proposalId)
    (hagree : p.Agree R q) (hi : buildTradeIntent g p a = .ok i) :
    ∃ j, buildTradeIntent g' q a = .ok j ∧ i.Agree R j := by
  unfold buildTradeIntent at hi
  obtain ⟨b, hb, hi⟩ := bind_ok hi
  obtain ⟨b', hb', hfeature⟩ := byHash_again hwithin hapart (assertSome_ok hb)
  rw [hagree.contextHash] at hb'
  split at hi
  · rename_i hreasoned
    have hreasoned' : q.reasonCodes.val ≠ [] := by
      rw [← hagree.reasonCodes]
      exact hreasoned
    cases hi
    unfold buildTradeIntent
    rw [hb']
    simp only [assertSome, bind, Except.bind, dif_pos hreasoned']
    refine ⟨_, rfl, ?_⟩
    exact {
      intentId := congrArg deriveTradeIntentId hid
      strategyId := rfl
      strategyVersion := rfl
      modelVersion := rfl
      symbol := rfl
      side := hagree.side
      createdAtUtc := hagree.submittedAtUtc
      expiresAtUtc := hagree.expiresAtUtc
      entryType := hagree.entryType
      referencePrice := hagree.referencePrice
      stopLossPrice := .some hagree.stopLossPrice
      takeProfitPrice := .some hagree.takeProfitPrice
      confidence := hagree.confidence
      reasonCodes := congrArg ReasonCodes.strings hagree.reasonCodes
      requestedRiskFraction := .some hagree.requestedRiskFraction
      featureSnapshotId := hfeature.symm }
  · cases hi

/-- **A settlement is reported again as it was.** -/
theorem resultFromSettlement_again {settlement : AgentDecisionEventRecord}
    {told : AgentDecisionOutcomeResult} (hwithin : g.Within g') (hapart : ContentHashesApart g')
    (hid : first.outcomeId = second.outcomeId) (hagree : first.Agree R second)
    (htold : resultFromSettlement g settlement first.proposal? = .ok told) :
    ∃ again, resultFromSettlement g' settlement second.proposal? = .ok again
      ∧ told.Agree R again := by
  -- what was refused, or declined, is reported from the settlement alone
  have hplain : ∀ r : AgentDecisionOutcomeResult, r.tradeIntent = none → r.Agree R r := by
    intro r hnone
    refine ⟨rfl, rfl, rfl, rfl, ?_⟩
    rw [hnone]
    exact .none
  cases first with
  | noTrade d =>
      cases second with
      | proposal q => exact hagree.elim
      | noTrade e =>
          refine ⟨told, htold, hplain told ?_⟩
          simp only [resultFromSettlement, AgentSubmission.proposal?] at htold
          split at htold
          · obtain ⟨reason, -, heq⟩ := bind_ok htold
            cases heq
            rfl
          · cases htold
            rfl
  | proposal p =>
      cases second with
      | noTrade e => exact hagree.elim
      | proposal q =>
          simp only [resultFromSettlement, AgentSubmission.proposal?, Option.isSome_some,
            if_true] at htold ⊢
          split at htold
          · rename_i hrejected
            refine ⟨told, ?_, hplain told ?_⟩
            · rw [if_pos hrejected]
              exact htold
            · obtain ⟨reason, -, heq⟩ := bind_ok htold
              cases heq
              rfl
          · rename_i haccepted
            obtain ⟨a, ha, htold⟩ := bind_ok htold
            obtain ⟨i, hi, heq⟩ := bind_ok htold
            cases heq
            have ha' := hwithin.assignment (assertSome_ok ha)
            obtain ⟨j, hj, hij⟩ := buildTradeIntent_again hwithin hapart hid hagree hi
            rw [if_neg haccepted, ← hagree.assignmentId, ha']
            simp only [assertSome, bind, Except.bind, hj]
            exact ⟨_, rfl, ⟨rfl, rfl, rfl, rfl, .some hij⟩⟩

/-! ## What a settled id is answered -/

/-- Nothing fails. -/
def faultless : GatewayFaults := fun _ => none

/-- A verdict is reported as it was given. -/
theorem resultFromSettlement_verdict {identity : AgentIdentity} {now : UtcDatetime}
    {submission : AgentSubmission} {reason : Option AgentRejectionReason}
    {tradeIntent : Option TradeIntent}
    (h : Judged g t identity now reason tradeIntent submission) :
    resultFromSettlement g (verdictEvent submission.outcomeId reason now) submission.proposal?
      = .ok ⟨submission.outcomeId, submission.outcomeType, reason.isNone, reason, tradeIntent⟩ := by
  cases submission with
  | noTrade d =>
      obtain ⟨-, rfl⟩ := h
      cases reason with
      | none => rfl
      | some reason =>
          simp only [resultFromSettlement, verdictEvent, settledReason, if_true,
            AgentRejectionReason.ofValue?_value]
          rfl
  | proposal p =>
      obtain ⟨-, haccepted, hrejected⟩ := h
      cases reason with
      | none =>
          obtain ⟨a, i, ha, hi, rfl⟩ := haccepted rfl
          simp only [resultFromSettlement, verdictEvent, AgentSubmission.proposal?,
            reduceCtorEq, if_false, ha, assertSome, bind, Except.bind, hi]
          rfl
      | some reason =>
          rw [hrejected (by simp)]
          simp only [resultFromSettlement, verdictEvent, settledReason, if_true,
            AgentRejectionReason.ofValue?_value]
          rfl

/-- The verdict on a new id is the settlement found under it. -/
theorem Rated.settlementFor_settled (h : Rated g t) {submission : AgentSubmission}
    {now : UtcDatetime} {reason : Option AgentRejectionReason}
    (hnew : Table.lookup (·.outcomeId) t.outcomes submission.outcomeId = none) :
    (settledTables t submission now reason).settlementFor submission.outcomeId
      = some (verdictEvent submission.outcomeId reason now) := by
  obtain ⟨hid, -, htype⟩ := verdictEvent_type submission.outcomeId reason now
  have hold : t.settlementFor submission.outcomeId = none := by
    refine List.find?_eq_none.mpr fun e he hsettles => ?_
    obtain ⟨heid, -⟩ := Bool.and_eq_true_iff.mp hsettles
    exact Table.lookup_eq_none.mp (h.unrecorded hnew e.eventType) e he
      (Prod.ext (of_decide_eq_true heid) rfl)
  unfold AgentDecisionOutcomes.settlementFor at hold ⊢
  unfold settledTables receivedTables
  rw [List.find?_append, List.find?_append, hold]
  -- that it was received settles nothing; the verdict does
  cases reason with
  | none => simp [settlingEventTypes, verdictEvent]
  | some reason => simp [settlingEventTypes, verdictEvent]

/-- **A transaction that answers leaves its answer on record.** -/
theorem Rated.settledAs {submission : AgentSubmission} {faults : GatewayFaults}
    {identity : AgentIdentity} {now : UtcDatetime} {told : AgentDecisionOutcomeResult}
    {t' : AgentDecisionOutcomes} (h : Rated g t)
    (hanswer : submission.transact g t faults identity now = .ok (told, t')) :
    SettledAs g t' submission told := by
  rcases h.transacted (transact_ok hanswer) with ⟨rfl, hsettled⟩ | ⟨reason, tradeIntent, hnew,
    hjudged, rfl, rfl⟩
  · exact hsettled
  · refine ⟨claimRow submission now, _, ?_, rfl, h.settlementFor_settled hnew,
      resultFromSettlement_verdict hjudged⟩
    exact Table.lookup_append_self hnew

/-- **What is on record is on record for good**, as long as the digests are apart. -/
theorem SettledAs.again {t' : AgentDecisionOutcomes} {told : AgentDecisionOutcomeResult}
    (h : SettledAs g t first told) (hwithin : g.Within g') (hgrown : t.Within t')
    (hapart : ContentHashesApart g') (hid : first.outcomeId = second.outcomeId)
    (hagree : first.Agree R second) (hnormal : ∀ x y, R x y → SameNormal x y) :
    ∃ again, SettledAs g' t' second again ∧ told.Agree R again := by
  obtain ⟨row, settlement, hrow, hsame, hsettled, htold⟩ := h
  obtain ⟨again, hagain, htoldAgain⟩ := resultFromSettlement_again hwithin hapart hid hagree htold
  have hcontent : first.content = second.content :=
    AgentSubmission.content_eq_iff.mpr (hagree.mono hnormal)
  refine ⟨again, ⟨row, settlement, ?_, ?_, ?_, hagain⟩, htoldAgain⟩
  · rw [← hid]
    exact hgrown.lookup hrow
  · rw [hsame]
    exact congrArg digestOf hcontent
  · rw [← hid]
    exact hgrown.settlementFor hsettled

/-- **A submission on record is answered from it**, and the tables stay as they are. -/
theorem SettledAs.transact {submission : AgentSubmission} {identity : AgentIdentity}
    {now : UtcDatetime} {told : AgentDecisionOutcomeResult}
    (h : SettledAs g t submission told) :
    submission.transact g t faultless identity now = .ok (told, t) := by
  obtain ⟨row, settlement, hrow, hsame, hsettled, htold⟩ := h
  have hclaim : t.claim (claimRow submission now) = .ok (false, t) := by
    unfold claim
    rw [show Table.lookup (·.outcomeId) t.outcomes (claimRow submission now).outcomeId
      = some row from hrow]
    exact if_neg (not_not.mpr hsame)
  rw [transact_eq]
  simp only [faultless, raising, hclaim, bind, Except.bind, hsettled, htold, Bool.false_eq_true,
    if_false, ite_self]
  rfl

/-- **An id that is claimed for other content is refused.** -/
theorem transact_conflict {submission : AgentSubmission} {identity : AgentIdentity}
    {now : UtcDatetime} {row : AgentDecisionOutcome}
    (hrow : Table.lookup (·.outcomeId) t.outcomes submission.outcomeId = some row)
    (hother : row.fingerprint ≠ submission.fingerprint) :
    ∃ e, submission.transact g t faultless identity now = .error e ∧ e.kind = .decisionConflict := by
  obtain ⟨e, hclaim, hkind⟩ : ∃ e, t.claim (claimRow submission now) = .error e
      ∧ e.kind = .decisionConflict := by
    unfold claim
    rw [show Table.lookup (·.outcomeId) t.outcomes (claimRow submission now).outcomeId
      = some row from hrow]
    exact ⟨_, if_pos hother, rfl⟩
  rw [transact_eq]
  simp only [faultless, raising, bind, Except.bind, hclaim]
  exact ⟨e, rfl, hkind⟩

/-! ## The law -/

/-- What asking under a settled id must come to, when `told` was the answer to `first`. -/
structure ReplayLaw (s : AgentGateway) (m : Nat) (first second : AgentSubmission)
    (told : AgentDecisionOutcomeResult) : Prop where
  /-- The same content is told the same. -/
  retried : first.Agree SameValue second → ∃ again,
    s.answer m faultless = some (.ok (again, s.tables)) ∧ told.Agree SameValue again
      ∧ again.tradeIntent.map (·.decisionHash) = told.tradeIntent.map (·.decisionHash)
  /-- Other content, or the other type, is a conflict. -/
  refused : ¬ first.Agree SameValue second →
    ∃ e, s.answer m faultless = some (.error e) ∧ e.kind = .decisionConflict
  /-- Either way nothing is stored. -/
  unchanged : (s.step (.transact m faultless)).tables = s.tables
    ∧ (s.step (.transact m faultless)).registries = s.registries

/-- Answers that agree carry intents of one decision hash. -/
theorem decisionHash_map_eq {told again : AgentDecisionOutcomeResult}
    (hagree : told.Agree R again) (hnormal : ∀ x y, R x y → SameNormal x y) :
    again.tradeIntent.map (·.decisionHash) = told.tradeIntent.map (·.decisionHash) := by
  have hintent := hagree.tradeIntent
  generalize told.tradeIntent = x at hintent
  generalize again.tradeIntent = y at hintent
  cases hintent with
  | none => rfl
  | some hij => exact congrArg some (hij.mono hnormal).decisionHash_eq.symm

/-- **Where the id is on record, the law is that of the digests.** -/
theorem SettledAs.replayLaw {s : AgentGateway} {m : Nat} {call : GatewayCall}
    {first : AgentSubmission} {told : AgentDecisionOutcomeResult}
    (hcall : s.inFlight[m]? = some call)
    (hretried : ∀ R : Decimal → Decimal → Prop, (∀ x y, R x y → SameNormal x y) →
      first.Agree R call.submission →
      ∃ again, SettledAs s.registries s.tables call.submission again ∧ told.Agree R again)
    (hrefused : first.content ≠ call.submission.content → ∃ row,
      Table.lookup (·.outcomeId) s.tables.outcomes call.submission.outcomeId = some row
        ∧ row.fingerprint ≠ call.submission.fingerprint) :
    ReplayLaw s m first call.submission told
      ↔ (first.Agree SameNormal call.submission → first.Agree SameValue call.submission) := by
  have hanswer : s.answer m faultless = some (call.submission.transact s.registries s.tables faultless
      call.identity call.now) := by
    unfold answer
    rw [hcall]
    rfl
  have hvalue : ∀ x y, SameValue x y → SameNormal x y := fun _ _ => Decimal.normalize_congr
  constructor
  · intro hlaw hnormal
    by_contra hother
    obtain ⟨e, he, -⟩ := hlaw.refused hother
    obtain ⟨again, hsettled, -⟩ := hretried SameNormal (fun _ _ h => h) hnormal
    rw [hanswer, hsettled.transact] at he
    cases he
  · intro hcond
    by_cases hsame : first.Agree SameValue call.submission
    · obtain ⟨again, hsettled, hagree⟩ := hretried SameValue hvalue hsame
      have hagain : s.answer m faultless = some (.ok (again, s.tables)) := by
        rw [hanswer, hsettled.transact]
      refine ⟨fun _ => ⟨again, hagain, hagree, decisionHash_map_eq hagree hvalue⟩,
        fun hother => absurd hsame hother, ?_, ?_⟩
      · simp only [step, hagain]
      · simp only [step, hagain]
    · obtain ⟨row, hrow, hother⟩ := hrefused fun hcontent =>
        hsame (hcond (AgentSubmission.content_eq_iff.mp hcontent))
      obtain ⟨e, he, hkind⟩ := transact_conflict hrow hother
      rw [he] at hanswer
      refine ⟨fun h => absurd h hsame, fun _ => ⟨e, hanswer, hkind⟩, ?_, ?_⟩
      · simp only [step, hanswer]
      · simp only [step, hanswer]

end AgentGateway

/--
**Asking again is told the same, and asking something else is refused.** A transaction answered
`first`; after whatever operations, `second` is the call of an agent that has authenticated
since, under the same id. The law holds of it exactly when `second`, if a content digest cannot
tell it from `first`, has `first`'s content; and a transaction that raises leaves everything
as if its call had been given up before.

The hypotheses say that SHA-256 has no collision among what is compared: the two submissions'
contents, and the contents of the bundles that were issued.
-/
theorem gateway_replay [Externals] {ops later : List GatewayOperation} {n m : Nat}
    {faults : GatewayFaults} {first second : GatewayCall} {told : AgentDecisionOutcomeResult}
    {t' : AgentDecisionOutcomes}
    (hfirst : (empty.run ops).inFlight[n]? = some first)
    (htold : (empty.run ops).answer n faults = some (.ok (told, t')))
    (hsecond : (((empty.run ops).step (.transact n faults)).run later).inFlight[m]? = some second)
    (hid : first.submission.outcomeId = second.submission.outcomeId)
    (hdigests : first.submission.fingerprint = second.submission.fingerprint →
      first.submission.content = second.submission.content)
    (hapart : ContentHashesApart
      (((empty.run ops).step (.transact n faults)).run later).registries) :
    (ReplayLaw (((empty.run ops).step (.transact n faults)).run later) m first.submission
        second.submission told
      ↔ (first.submission.Agree SameNormal second.submission →
          first.submission.Agree SameValue second.submission))
      ∧ ∀ ops n faults e, (empty.run ops).answer n faults = some (.error e) → ∀ later,
          ((empty.run ops).step (.transact n faults)).run later
            = ((empty.run ops).step (.abandon n)).run later := by
  constructor
  · have hstep : (empty.run ops).step (.transact n faults)
        = { empty.run ops with tables := t', inFlight := (empty.run ops).inFlight.eraseIdx n } := by
      simp only [step, htold]
    have htransact : first.submission.transact (empty.run ops).registries (empty.run ops).tables
        faults first.identity first.now = .ok (told, t') := by
      unfold answer at htold
      rw [hfirst] at htold
      exact Option.some.inj htold
    have hsettled := (rated_run rated_empty ops).settledAs htransact
    obtain ⟨hgrown, hwithin⟩ := within_run (s := (empty.run ops).step (.transact n faults)) later
    rw [show ((empty.run ops).step (.transact n faults)).tables = t' by rw [hstep]] at hgrown
    rw [show ((empty.run ops).step (.transact n faults)).registries = (empty.run ops).registries
      by rw [hstep]] at hwithin
    refine SettledAs.replayLaw hsecond (fun R hnormal hagree => ?_) fun hother => ?_
    · exact hsettled.again hwithin hgrown hapart hid hagree hnormal
    · obtain ⟨row, settlement, hrow, hsame, -⟩ := hsettled
      refine ⟨row, ?_, fun h => hother (hdigests (hsame.symm.trans h))⟩
      rw [← hid]
      exact hgrown.lookup hrow
  · intro ops n faults e herror later
    have hstep : (empty.run ops).step (.transact n faults) = (empty.run ops).step (.abandon n) := by
      simp only [step, herror]
    rw [hstep]

/-! ## On a concrete run -/

namespace AgentGateway

variable [Externals]

/-- A call that is let in waits with what it submits. -/
theorem inFlight_arrive {s : AgentGateway} {agentId : Uuid} {secret : String}
    {submission : AgentSubmission} {now : UtcDatetime} (hnone : s.inFlight.length = 0)
    (hadmitted : (authenticateOwn s.registries agentId secret submission now).toBool = true) :
    ∃ c, (s.step (.arrive agentId secret submission now)).inFlight[0]? = some c
      ∧ c.submission = submission := by
  rw [List.length_eq_zero_iff] at hnone
  simp only [step]
  cases hcall : authenticateOwn s.registries agentId secret submission now with
  | error e =>
      rw [hcall] at hadmitted
      cases hadmitted
  | ok c =>
      refine ⟨c, by simp [hnone], ?_⟩
      unfold authenticateOwn at hcall
      obtain ⟨identity, -, hcall⟩ := bind_ok hcall
      split at hcall
      · cases hcall
        rfl
      · cases hcall

/-- With one bundle issued, no two are confused. -/
theorem contentHashesApart_singleton {g : GatewayRegistries} (h : g.contexts.length = 1) :
    ContentHashesApart g := by
  obtain ⟨b, hb⟩ := List.length_eq_one_iff.mp h
  intro x hx y hy _
  rw [hb] at hx hy
  rw [List.mem_singleton.mp hx, List.mem_singleton.mp hy]

end AgentGateway

namespace Sample

open AgentGateway

/-- A proposal comes in. -/
def asking (p : TradeProposal) (now : UtcDatetime) : GatewayOperation :=
  .arrive ⟨"agent"⟩ "secret" (.proposal p) now

def asked (p : TradeProposal) : AgentGateway := empty.run (registering ++ [asking p noon])

/-- A proposal is settled, and one under its id waits for its transaction. -/
def askedAgain (p q : TradeProposal) : AgentGateway :=
  ((asked p).step (.transact 0 faultless)).run [asking q (noon + minutes 1)]

/-- Both are let in, and the first is answered. -/
def answers (p q : TradeProposal) : Bool :=
  (authenticateOwn (empty.run registering).registries ⟨"agent"⟩ "secret" (.proposal p) noon).toBool
    && ((asked p).answer 0 faultless).any (·.toBool)
    && ((asked p).step (.transact 0 faultless)).inFlight.length == 0
    && (authenticateOwn ((asked p).step (.transact 0 faultless)).registries ⟨"agent"⟩ "secret" (.proposal q)
      (noon + minutes 1)).toBool
    && (askedAgain p q).registries.contexts.length == 1

theorem answers_facts {p q : TradeProposal} (h : answers p q = true) :
    ∃ first second told t', (asked p).inFlight[0]? = some first
      ∧ (asked p).answer 0 faultless = some (.ok (told, t'))
      ∧ (askedAgain p q).inFlight[0]? = some second
      ∧ first.submission = .proposal p ∧ second.submission = .proposal q
      ∧ ContentHashesApart (askedAgain p q).registries := by
  simp only [answers, Bool.and_eq_true, beq_iff_eq] at h
  obtain ⟨⟨⟨⟨hfirst, hanswered⟩, hidle⟩, hsecond⟩, hcontexts⟩ := h
  have hnone : (empty.run registering).inFlight.length = 0 := by decide +kernel
  obtain ⟨first, hfirst, hp⟩ := inFlight_arrive hnone hfirst
  obtain ⟨second, hsecond, hq⟩ := inFlight_arrive hidle hsecond
  obtain ⟨answered, htold, hok⟩ := (Option.any_eq_true _ _).mp hanswered
  cases answered with
  | error e => cases hok
  | ok told =>
      exact ⟨first, second, told.1, told.2, hfirst, htold, hsecond, hp, hq,
        contentHashesApart_singleton hcontexts⟩

/-- A price, and one that differs from it in the thirtieth digit. -/
def plain : TradeProposal := proposalAt "asked" ⟨⟨1100, 0⟩, by decide⟩ (by decide)

def longer : TradeProposal :=
  proposalAt "asked" ⟨⟨1100 * 10 ^ 26 + 1, -26⟩, by decide +kernel⟩ (by decide +kernel)

end Sample

open Sample AgentGateway in
theorem gateway_replay_sample :
    ∃ told, ReplayLaw (askedAgain plain plain) 0 (.proposal plain) (.proposal plain) told := by
  obtain ⟨first, second, told, t', hfirst, htold, hsecond, hp, hq, hapart⟩ :=
    answers_facts (show answers plain plain = true by decide +kernel)
  have hlaw := (gateway_replay hfirst htold hsecond (by rw [hp, hq]) (fun _ => by rw [hp, hq])
    hapart).1
  rw [hp, hq] at hlaw
  refine ⟨told, hlaw.mpr fun _ => ?_⟩
  exact ⟨rfl, rfl, rfl, rfl, rfl, rfl, Decimal.compare_refl _, Decimal.compare_refl _,
    Decimal.compare_refl _, rfl, Decimal.compare_refl _, rfl, rfl, rfl, rfl⟩

open Sample AgentGateway in
/-- **Another price is taken for a retry**: the digest does not see its thirtieth digit. -/
theorem gateway_replay_of_other_content :
    ¬ ∀ (ops later : List GatewayOperation) (n m : Nat) (faults : GatewayFaults)
        (first second : GatewayCall) (told : AgentDecisionOutcomeResult)
        (t' : AgentDecisionOutcomes),
      (empty.run ops).inFlight[n]? = some first →
      (empty.run ops).answer n faults = some (.ok (told, t')) →
      (((empty.run ops).step (.transact n faults)).run later).inFlight[m]? = some second →
      first.submission.outcomeId = second.submission.outcomeId →
      (first.submission.fingerprint = second.submission.fingerprint →
        first.submission.content = second.submission.content) →
      ContentHashesApart (((empty.run ops).step (.transact n faults)).run later).registries →
      ReplayLaw (((empty.run ops).step (.transact n faults)).run later) m first.submission
        second.submission told := by
  intro h
  obtain ⟨first, second, told, t', hfirst, htold, hsecond, hp, hq, hapart⟩ :=
    answers_facts (show answers plain longer = true by decide +kernel)
  have hnormal : Decimal.normalize ⟨1100, 0⟩ = Decimal.normalize ⟨1100 * 10 ^ 26 + 1, -26⟩ := by
    decide +kernel
  have hcontent : first.submission.content = second.submission.content := by
    rw [hp, hq]
    exact TradeProposal.content_eq_iff.mpr
      ⟨rfl, rfl, rfl, rfl, rfl, rfl, hnormal, rfl, rfl, rfl, rfl, rfl, rfl, rfl, rfl⟩
  have hlaw := h _ _ 0 0 faultless first second told t' hfirst htold hsecond (by rw [hp, hq]; rfl)
    (fun _ => hcontent) hapart
  rw [hp, hq] at hlaw
  obtain ⟨e, he, -⟩ := hlaw.refused fun hagree => by
    have hprice : Decimal.compare ⟨1100, 0⟩ ⟨1100 * 10 ^ 26 + 1, -26⟩ = .eq := hagree.referencePrice
    exact absurd hprice (by decide +kernel)
  have hok : ((askedAgain plain longer).answer 0 faultless).all (·.toBool) = true := by
    decide +kernel
  rw [show (askedAgain plain longer).answer 0 faultless = _ from he] at hok
  cases hok

end Crumblr
