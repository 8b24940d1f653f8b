import Crumblr.Lib.Window
import Crumblr.Proof.AtMostOnce
import Crumblr.Proof.Gateway

/-!
# How many proposals an assignment gets accepted

A proposal is accepted at the instant it is claimed, and only when the claims of its assignment
since one hour before that instant, its own among them, are no more than the limit. Claims are
at least as many as acceptances, so there was room for one more. Nothing here asks the clocks
of the calls to agree: a claim of the future counts as well.
-/

namespace Crumblr

namespace AgentDecisionOutcomes

/-- Whether an event is the acceptance of one of an assignment's proposals. -/
def isAcceptance (t : AgentDecisionOutcomes) (assignmentId : Uuid) (e : AgentDecisionEventRecord) :
    Bool :=
  decide (e.eventType = .accepted) && t.outcomes.any fun o =>
    decide (o.outcomeId = e.outcomeId) && decide (o.outcomeType = .tradeProposal)
      && decide (o.assignmentId = assignmentId)

/-- When an assignment's proposals were accepted. -/
def acceptedTimes (t : AgentDecisionOutcomes) (assignmentId : Uuid) : List UtcDatetime :=
  (t.events.filter (t.isAcceptance assignmentId)).map (·.occurredAtUtc)

theorem isAcceptance_iff {t : AgentDecisionOutcomes} {assignmentId : Uuid}
    {e : AgentDecisionEventRecord} : t.isAcceptance assignmentId e = true
      ↔ e.eventType = .accepted ∧ ∃ o ∈ t.outcomes, o.outcomeId = e.outcomeId
          ∧ o.outcomeType = .tradeProposal ∧ o.assignmentId = assignmentId := by
  simp [isAcceptance, and_assoc]

/-- An acceptance on record stays one. -/
theorem Within.isAcceptance {t t' : AgentDecisionOutcomes} (h : t.Within t') {assignmentId : Uuid}
    {e : AgentDecisionEventRecord} (he : t.isAcceptance assignmentId e = true) :
    t'.isAcceptance assignmentId e = true := by
  obtain ⟨htype, o, ho, hrest⟩ := isAcceptance_iff.mp he
  exact isAcceptance_iff.mpr ⟨htype, o, h.outcomes.subset ho, hrest⟩

end AgentDecisionOutcomes

namespace AgentGateway

open AgentDecisionOutcomes

/-- What keeps the rate: every claim is settled with it, at its instant, and only claims of
registered assignments are accepted. -/
structure Rated (g : GatewayRegistries) (t : AgentDecisionOutcomes) : Prop where
  outcomes : Table.Keyed (·.outcomeId) t.outcomes
  events : Table.Keyed AgentDecisionEventRecord.key t.events
  claimed : ∀ e ∈ t.events, ∃ o ∈ t.outcomes, o.outcomeId = e.outcomeId
  settled : ∀ o ∈ t.outcomes, ∃ e ∈ t.events,
    e.outcomeId = o.outcomeId ∧ e.eventType ∈ settlingEventTypes
  accepted : ∀ e ∈ t.events, e.eventType = .accepted → ∀ o ∈ t.outcomes,
    o.outcomeId = e.outcomeId → o.claimedAtUtc = e.occurredAtUtc
      ∧ (o.outcomeType = .tradeProposal →
        ∃ a ∈ g.assignments, a.assignmentId = o.assignmentId)
  assignments : Table.Keyed (·.assignmentId) g.assignments
  rated : ∀ a ∈ g.assignments,
    Window.Rated rateLimitWindow a.maxProposalsPerHour.val (t.acceptedTimes a.assignmentId)

/-- The events of distinct ids among the acceptances. -/
theorem nodup_acceptances {t : AgentDecisionOutcomes} {assignmentId : Uuid}
    {p : AgentDecisionEventRecord → Bool} (hkeyed : Table.Keyed AgentDecisionEventRecord.key t.events)
    (hp : ∀ e, p e = true → t.isAcceptance assignmentId e = true) :
    ((t.events.filter p).map (·.outcomeId)).Nodup := by
  have hkeys : (t.events.filter p).map AgentDecisionEventRecord.key
      = ((t.events.filter p).map (·.outcomeId)).map fun id => (id, .accepted) := by
    rw [List.map_map]
    refine List.map_congr_left fun e he => ?_
    have hacc := (isAcceptance_iff.mp (hp e (List.mem_filter.mp he).2)).1
    exact Prod.ext rfl hacc
  have hnodup : ((t.events.filter p).map AgentDecisionEventRecord.key).Nodup :=
    hkeyed.sublist (List.filter_sublist.map _)
  rw [hkeys] at hnodup
  exact hnodup.of_map

/-- **There are at least as many claims as acceptances.** -/
theorem Rated.since_le {g : GatewayRegistries} {t : AgentDecisionOutcomes} (h : Rated g t)
    (assignmentId : Uuid) (since : UtcDatetime) :
    Window.since (t.acceptedTimes assignmentId) since
      ≤ t.countClaimedSince assignmentId since := by
  unfold Window.since acceptedTimes countClaimedSince
  rw [List.countP_map, List.countP_filter]
  have hnodup : ((t.events.filter fun e => decide (since ≤ e.occurredAtUtc)
      && t.isAcceptance assignmentId e).map (·.outcomeId)).Nodup :=
    nodup_acceptances h.events fun e he => (Bool.and_eq_true_iff.mp he).2
  have hclaimed : ∀ e ∈ t.events, (decide (since ≤ e.occurredAtUtc)
      && t.isAcceptance assignmentId e) = true → ∃ o ∈ t.outcomes,
      (decide (o.assignmentId = assignmentId) && decide (since ≤ o.claimedAtUtc)) = true
        ∧ o.outcomeId = e.outcomeId := by
    intro e he hp
    obtain ⟨hsince, hacc⟩ := Bool.and_eq_true_iff.mp hp
    obtain ⟨htype, o, ho, hid, -, hassigned⟩ := isAcceptance_iff.mp hacc
    refine ⟨o, ho, ?_, hid⟩
    have hat := (h.accepted e he htype o ho hid).1
    simpa [hassigned, hat] using hsince
  exact Table.countP_le_countP hnodup hclaimed

theorem rated_empty : Rated empty.registries empty.tables where
  outcomes := List.nodup_nil
  events := List.nodup_nil
  claimed := by simp [empty]
  settled := by simp [empty]
  accepted := by simp [empty]
  assignments := List.nodup_nil
  rated := by simp [empty]

variable [Externals] {g : GatewayRegistries} {t : AgentDecisionOutcomes} {identity : AgentIdentity} {now : UtcDatetime}
  {submission : AgentSubmission} {result : AgentDecisionOutcomeResult} {t' : AgentDecisionOutcomes}

/-- The tables a submission is judged on: its claim is there, and that it was received. -/
def receivedTables (t : AgentDecisionOutcomes) (submission : AgentSubmission)
    (now : UtcDatetime) : AgentDecisionOutcomes where
  outcomes := t.outcomes ++ [claimRow submission now]
  events := t.events ++ [⟨submission.outcomeId, .received, now, [], none⟩]

/-- The tables it leaves. -/
def settledTables (t : AgentDecisionOutcomes) (submission : AgentSubmission) (now : UtcDatetime)
    (reason : Option AgentRejectionReason) : AgentDecisionOutcomes where
  outcomes := (receivedTables t submission now).outcomes
  events := (receivedTables t submission now).events
    ++ [verdictEvent submission.outcomeId reason now]

omit [Externals] in
theorem verdictEvent_type (id : Uuid) (reason : Option AgentRejectionReason)
    (now : UtcDatetime) :
    (verdictEvent id reason now).outcomeId = id ∧ (verdictEvent id reason now).occurredAtUtc = now
      ∧ (verdictEvent id reason now).eventType = if reason = none then .accepted else .rejected := by
  cases reason with
  | none => exact ⟨rfl, rfl, rfl⟩
  | some r => exact ⟨rfl, rfl, rfl⟩

omit [Externals] in
/-- Of an id nothing is known of, no event is either. -/
theorem Rated.unrecorded (h : Rated g t) {id : Uuid}
    (hnew : Table.lookup (·.outcomeId) t.outcomes id = none) (type : AgentDecisionEventType) :
    Table.lookup AgentDecisionEventRecord.key t.events (id, type) = none := by
  rw [Table.lookup_eq_none]
  intro e he hkey
  obtain ⟨o, ho, hid⟩ := h.claimed e he
  exact Table.lookup_eq_none.mp hnew o ho (hid.trans (congrArg Prod.fst hkey))

/-- **Where every claim is settled, a transaction answers from the record or settles a new id.** -/
theorem Rated.transacted (h : Rated g t)
    (ht : Transacted g t identity now submission result t') :
    (t' = t ∧ SettledAs g t submission result) ∨ ∃ reason tradeIntent,
      Table.lookup (·.outcomeId) t.outcomes submission.outcomeId = none
        ∧ Judged g (receivedTables t submission now) identity now reason
            tradeIntent submission
        ∧ t' = settledTables t submission now reason
        ∧ result = ⟨submission.outcomeId, submission.outcomeType, reason.isNone, reason,
            tradeIntent⟩ := by
  cases ht with
  | replayed row settlement hclaimed same settled told unchanged =>
      exact .inl ⟨unchanged, row, settlement, hclaimed, same, settled, told⟩
  | judged claimed t₁ t₂ reason tradeIntent claim unsettled received verdict recorded told =>
      rcases claim_cases claim with ⟨-, hnew, rfl⟩ | ⟨rfl, rfl, row, hrow, -⟩
      · right
        have hnew' : Table.lookup (·.outcomeId) t.outcomes submission.outcomeId = none := hnew
        have hreceived : t₂ = receivedTables t submission now := by
          rcases appendEvent_cases received with ⟨-, rfl⟩ | ⟨-, e, he, -⟩
          · rfl
          · exact absurd (he.symm.trans (h.unrecorded hnew' _)) (by simp)
        subst hreceived
        refine ⟨reason, tradeIntent, hnew', verdict, ?_, told⟩
        rcases appendEvent_cases recorded with ⟨-, rfl⟩ | ⟨-, e, he, -⟩
        · rfl
        · -- neither the old events nor the one just appended are a verdict on this id
          obtain ⟨hid, -, htype⟩ := verdictEvent_type submission.outcomeId reason now
          obtain ⟨hmem, hkey⟩ := Table.lookup_eq_some he
          rcases List.mem_append.mp hmem with hold | hlast
          · have hnone := h.unrecorded hnew' (verdictEvent submission.outcomeId reason now).eventType
            refine absurd ?_ (Table.lookup_eq_none.mp hnone e hold)
            exact hkey.trans (Prod.ext hid rfl)
          · rw [List.mem_singleton.mp hlast] at hkey
            have hreceived := congrArg Prod.snd hkey
            simp only [AgentDecisionEventRecord.key, htype] at hreceived
            split at hreceived <;> cases hreceived
      · -- a row that is there is settled
        exfalso
        obtain ⟨hmem, hid⟩ := Table.lookup_eq_some hrow
        obtain ⟨e, he, heid, hsettles⟩ := h.settled row hmem
        rcases unsettled with hf | hnone
        · cases hf
        · have := List.find?_eq_none.mp hnone e he
          simp [heid, show row.outcomeId = submission.outcomeId from hid, hsettles] at this

/-- An event recorded before is an acceptance still exactly when it was one. -/
theorem isAcceptance_settled (h : Rated g t) {reason : Option AgentRejectionReason}
    (hnew : Table.lookup (·.outcomeId) t.outcomes submission.outcomeId = none)
    {assignmentId : Uuid} {e : AgentDecisionEventRecord} (he : e ∈ t.events) :
    (settledTables t submission now reason).isAcceptance assignmentId e
      = t.isAcceptance assignmentId e := by
  rw [Bool.eq_iff_iff, isAcceptance_iff, isAcceptance_iff]
  refine and_congr_right fun _ => ⟨?_, ?_⟩
  · rintro ⟨o, ho, hid, hrest⟩
    rcases List.mem_append.mp ho with hold | hlast
    · exact ⟨o, hold, hid, hrest⟩
    · obtain ⟨o', ho', hid'⟩ := h.claimed e he
      rw [List.mem_singleton.mp hlast] at hid
      exact absurd (hid'.trans hid.symm) (Table.lookup_eq_none.mp hnew o' ho')
  · rintro ⟨o, ho, hrest⟩
    exact ⟨o, List.mem_append_left _ ho, hrest⟩

/-- What settling a new id adds to an assignment's acceptances. -/
theorem acceptedTimes_settled (h : Rated g t) {reason : Option AgentRejectionReason}
    (hnew : Table.lookup (·.outcomeId) t.outcomes submission.outcomeId = none)
    {assignmentId : Uuid} :
    (settledTables t submission now reason).acceptedTimes assignmentId
      = t.acceptedTimes assignmentId
        ++ if reason = none ∧ submission.outcomeType = .tradeProposal
            ∧ submission.assignmentId = assignmentId then [now] else [] := by
  have hold : t.events.filter ((settledTables t submission now reason).isAcceptance assignmentId)
      = t.events.filter (t.isAcceptance assignmentId) :=
    List.filter_congr fun e he => isAcceptance_settled h hnew he
  obtain ⟨hid, -, htype⟩ := verdictEvent_type submission.outcomeId reason now
  -- that it was received is no acceptance; the verdict is one when it says so
  have hreceived : (settledTables t submission now reason).isAcceptance assignmentId
      ⟨submission.outcomeId, .received, now, [], none⟩ = false := by
    simp [isAcceptance]
  have hverdict : (settledTables t submission now reason).isAcceptance assignmentId
      (verdictEvent submission.outcomeId reason now) = decide (reason = none
        ∧ submission.outcomeType = .tradeProposal ∧ submission.assignmentId = assignmentId) := by
    rw [Bool.eq_iff_iff, isAcceptance_iff, decide_eq_true_iff, htype, hid]
    constructor
    · rintro ⟨hacc, o, ho, hoid, hotype, hassigned⟩
      have hreason : reason = none := by
        by_contra hne
        rw [if_neg hne] at hacc
        cases hacc
      rcases List.mem_append.mp ho with hmem | hlast
      · exact absurd hoid (Table.lookup_eq_none.mp hnew o hmem)
      · rw [List.mem_singleton.mp hlast] at hotype hassigned
        exact ⟨hreason, hotype, hassigned⟩
    · rintro ⟨hreason, hotype, hassigned⟩
      exact ⟨if_pos hreason, claimRow submission now,
        List.mem_append_right _ (List.mem_singleton_self _), rfl, hotype, hassigned⟩
  unfold acceptedTimes
  rw [show (settledTables t submission now reason).events = (t.events
      ++ [⟨submission.outcomeId, .received, now, [], none⟩])
      ++ [verdictEvent submission.outcomeId reason now] from rfl]
  rw [List.filter_append, List.filter_append, hold, List.filter_singleton, List.filter_singleton,
    hreceived, hverdict]
  by_cases hyes : reason = none ∧ submission.outcomeType = .tradeProposal
      ∧ submission.assignmentId = assignmentId
  · simp [hyes, verdictEvent]
  · simp [hyes]

/-- A proposal that is accepted is one of an assignment that had room for it. -/
theorem Judged.room {p : TradeProposal} {tradeIntent : Option TradeIntent}
    (h : Judged g t identity now none tradeIntent (.proposal p)) :
    ∃ a, g.assignment p.assignmentId = some a
      ∧ t.countClaimedSince a.assignmentId (now - rateLimitWindow) ≤ a.maxProposalsPerHour.val := by
  obtain ⟨hreason, haccept, -⟩ := h
  obtain ⟨a, -, ha, -⟩ := haccept rfl
  refine ⟨a, ha, ?_⟩
  rw [ha] at hreason
  unfold evaluateProposal at hreason
  simp only [Option.map_some, Option.any_some, decide_eq_true_eq] at hreason
  split at hreason
  · cases hreason
  split at hreason
  · cases hreason
  split at hreason
  · cases hreason
  rename_i hroom
  exact Nat.not_lt.mp hroom

/-- **Settling a new id keeps the rate.** -/
theorem Rated.settles (h : Rated g t) {reason : Option AgentRejectionReason}
    {tradeIntent : Option TradeIntent}
    (hnew : Table.lookup (·.outcomeId) t.outcomes submission.outcomeId = none)
    (hjudged : Judged g (receivedTables t submission now) identity now reason tradeIntent
      submission) : Rated g (settledTables t submission now reason) := by
  obtain ⟨hid, hat, htype⟩ := verdictEvent_type submission.outcomeId reason now
  have hrow : claimRow submission now ∈ (settledTables t submission now reason).outcomes :=
    List.mem_append_right _ (List.mem_singleton_self _)
  have hlast : verdictEvent submission.outcomeId reason now
      ∈ (settledTables t submission now reason).events :=
    List.mem_append_right _ (List.mem_singleton_self _)
  -- an event is old, or one of the two just appended
  have hevents : ∀ e ∈ (settledTables t submission now reason).events, e ∈ t.events
      ∨ e.outcomeId = submission.outcomeId ∧ (e.eventType = .accepted → e.occurredAtUtc = now
          ∧ reason = none) := by
    intro e he
    rcases List.mem_append.mp he with he' | he'
    · rcases List.mem_append.mp he' with hold | hreceived
      · exact .inl hold
      · rw [List.mem_singleton.mp hreceived]
        exact .inr ⟨rfl, fun hacc => by cases hacc⟩
    · rw [List.mem_singleton.mp he']
      refine .inr ⟨hid, fun hacc => ⟨hat, ?_⟩⟩
      by_contra hne
      rw [htype, if_neg hne] at hacc
      cases hacc
  have houtcomes : ∀ o ∈ (settledTables t submission now reason).outcomes, o ∈ t.outcomes
      ∨ o = claimRow submission now := by
    intro o ho
    rcases List.mem_append.mp ho with hold | hnew'
    · exact .inl hold
    · exact .inr (List.mem_singleton.mp hnew')
  refine ⟨Table.keyed_append h.outcomes hnew, ?_, ?_, ?_, ?_, h.assignments, ?_⟩
  · -- two new events, of different types and of an id that had none
    refine Table.keyed_append (Table.keyed_append h.events (h.unrecorded hnew _)) ?_
    unfold receivedTables
    rw [Table.lookup_append_of_ne]
    · have hnone := h.unrecorded hnew (verdictEvent submission.outcomeId reason now).eventType
      rw [show (verdictEvent submission.outcomeId reason now).key
        = (submission.outcomeId, (verdictEvent submission.outcomeId reason now).eventType)
        from Prod.ext hid rfl]
      exact hnone
    · intro hkey
      have hreceived := congrArg Prod.snd hkey
      simp only [AgentDecisionEventRecord.key, htype] at hreceived
      split at hreceived <;> cases hreceived
  · intro e he
    rcases hevents e he with hold | ⟨heid, -⟩
    · obtain ⟨o, ho, hoid⟩ := h.claimed e hold
      exact ⟨o, List.mem_append_left _ ho, hoid⟩
    · exact ⟨_, hrow, heid.symm⟩
  · intro o ho
    rcases houtcomes o ho with hold | rfl
    · obtain ⟨e, he, heid, hsettles⟩ := h.settled o hold
      exact ⟨e, List.mem_append_left _ (List.mem_append_left _ he), heid, hsettles⟩
    · refine ⟨_, hlast, hid, ?_⟩
      rw [htype]
      split <;> simp [settlingEventTypes]
  · intro e he hacc o ho hoid
    rcases hevents e he with hold | ⟨heid, hnow⟩
    · rcases houtcomes o ho with hold' | rfl
      · exact h.accepted e hold hacc o hold' hoid
      · obtain ⟨o', ho', hoid'⟩ := h.claimed e hold
        exact absurd (hoid'.trans hoid.symm) (Table.lookup_eq_none.mp hnew o' ho')
    · obtain ⟨hat', rfl⟩ := hnow hacc
      rcases houtcomes o ho with hold' | rfl
      · exact absurd (hoid.trans heid) (Table.lookup_eq_none.mp hnew o hold')
      · refine ⟨hat'.symm, fun htrade => ?_⟩
        cases submission with
        | noTrade d => cases htrade
        | proposal p =>
            obtain ⟨a, ha, -⟩ := Judged.room hjudged
            obtain ⟨hmem, haid⟩ := Table.lookup_eq_some ha
            exact ⟨a, hmem, haid⟩
  · intro a ha
    rw [acceptedTimes_settled h hnew]
    split
    · rename_i hadds
      obtain ⟨rfl, htrade, hassigned⟩ := hadds
      cases submission with
      | noTrade d => cases htrade
      | proposal p =>
          obtain ⟨a', ha', hroom⟩ := Judged.room hjudged
          obtain ⟨hmem, haid⟩ := Table.lookup_eq_some ha'
          obtain rfl : a' = a := h.assignments.eq_of_mem hmem ha (haid.trans hassigned)
          refine (h.rated a' ha).concat ?_
          -- the claim itself is among those that were counted
          have hcount : (receivedTables t (.proposal p) now).countClaimedSince a'.assignmentId
              (now - rateLimitWindow)
                = t.countClaimedSince a'.assignmentId (now - rateLimitWindow) + 1 := by
            unfold countClaimedSince receivedTables
            rw [List.countP_append, List.countP_singleton, if_pos]
            have hassigned' : p.assignmentId = a'.assignmentId := hassigned
            simp [claimRow, AgentSubmission.assignmentId, hassigned', rateLimitWindow, hours,
              minutes, seconds]
          have hsince := h.since_le a'.assignmentId (now - rateLimitWindow)
          omega
    · rw [List.append_nil]
      exact h.rated a ha

/-- **A transaction keeps the rate.** -/
theorem Rated.transacts (h : Rated g t) (ht : Transacted g t identity now submission result t') :
    Rated g t' := by
  rcases h.transacted ht with ⟨rfl, -⟩ | ⟨reason, i, hnew, hjudged, rfl, -⟩
  · exact h
  · exact h.settles hnew hjudged

/-- **A new proposal that is accepted** is one more acceptance of its assignment, at that time. -/
theorem Rated.accepts (h : Rated g t) {p : TradeProposal}
    (hnew : Table.lookup (·.outcomeId) t.outcomes p.proposalId = none)
    (ht : Transacted g t identity now (.proposal p) result t') (haccepted : result.accepted = true) :
    (∃ e ∈ t'.events, t'.isAcceptance p.assignmentId e = true ∧ e.outcomeId = p.proposalId
      ∧ e.occurredAtUtc = now) ∧ ∃ a ∈ g.assignments, a.assignmentId = p.assignmentId := by
  rcases h.transacted ht with ⟨-, row, settlement, hclaimed, -⟩ | ⟨reason, i, -, hjudged, rfl, rfl⟩
  · exact absurd (hclaimed.symm.trans hnew) (by simp)
  obtain rfl : reason = none := by
    cases reason with
    | none => rfl
    | some r => cases haccepted
  obtain ⟨a, ha, -⟩ := Judged.room hjudged
  refine ⟨⟨verdictEvent p.proposalId none now, List.mem_append_right _ (List.mem_singleton_self _),
    isAcceptance_iff.mpr ⟨rfl, claimRow (.proposal p) now,
      List.mem_append_right _ (List.mem_singleton_self _), rfl, rfl, rfl⟩, rfl, rfl⟩, a, ?_⟩
  exact Table.lookup_eq_some ha

/-- **Every step keeps the rate.** -/
theorem rated_step {s : AgentGateway} (h : Rated s.registries s.tables) (op : GatewayOperation) :
    Rated (s.step op).registries (s.step op).tables := by
  cases op with
  | registerIdentity identity => exact ⟨h.1, h.2, h.3, h.4, h.5, h.6, h.7⟩
  | setCredential agentId secret salt => exact ⟨h.1, h.2, h.3, h.4, h.5, h.6, h.7⟩
  | recordEvidence evidence => exact ⟨h.1, h.2, h.3, h.4, h.5, h.6, h.7⟩
  | abandon n => exact h
  | arrive agentId secret submission now =>
      simp only [step]
      split <;> exact h
  | issueContextBundle b =>
      simp only [step]
      split
      · rename_i g' hg
        have hsame : g'.assignments = s.registries.assignments := by
          unfold issueContextBundle GatewayRegistries.issue at hg
          split at hg
          · cases hg
          split at hg
          · cases hg
            rfl
          · split at hg
            · cases hg
            · cases hg
              rfl
        exact ⟨h.1, h.2, h.3, h.4, by rw [hsame]; exact h.5, by rw [hsame]; exact h.6,
          by rw [hsame]; exact h.7⟩
      · exact h
  | transact n faults =>
      simp only [step]
      split
      · rename_i r t' hanswer
        obtain ⟨c, -, hc⟩ := Option.map_eq_some_iff.mp hanswer
        exact h.transacts (transact_ok hc)
      · exact h
  | issueAssignment a =>
      simp only [step]
      split
      · rename_i g' hg
        unfold GatewayRegistries.registerAssignment at hg
        split at hg
        · rename_i hnew
          cases hg
          refine ⟨h.1, h.2, h.3, h.4, ?_, Table.keyed_append h.6 hnew, ?_⟩
          · intro e he hacc o ho hoid
            obtain ⟨hat, hreg⟩ := h.accepted e he hacc o ho hoid
            refine ⟨hat, fun htrade => ?_⟩
            obtain ⟨a', ha', haid⟩ := hreg htrade
            exact ⟨a', List.mem_append_left _ ha', haid⟩
          · intro a' ha'
            rcases List.mem_append.mp ha' with hold | hlast
            · exact h.rated a' hold
            · -- nothing was accepted under an id that was not registered
              rw [List.mem_singleton.mp hlast]
              have hnone : s.tables.acceptedTimes a.assignmentId = [] := by
                unfold acceptedTimes
                rw [List.map_eq_nil_iff, List.filter_eq_nil_iff]
                intro e he hacc
                obtain ⟨htype, o, ho, hoid, htrade, hassigned⟩ := isAcceptance_iff.mp hacc
                obtain ⟨-, hreg⟩ := h.accepted e he htype o ho hoid
                obtain ⟨a₀, ha₀, hid₀⟩ := hreg htrade
                exact Table.lookup_eq_none.mp hnew a₀ ha₀ (hid₀.trans hassigned)
              rw [hnone]
              exact .nil
        · split at hg
          · cases hg
          · cases hg
            exact h
      · exact h

theorem rated_run {s : AgentGateway} (h : Rated s.registries s.tables)
    (ops : List GatewayOperation) : Rated (s.run ops).registries (s.run ops).tables := by
  induction ops generalizing s with
  | nil => exact h
  | cons op ops ih => exact ih (rated_step h op)

end AgentGateway

open AgentGateway in
/--
**The rate limit.** Whatever happens to a gateway, in whatever order its calls get their locks
and whatever their clocks read: in no window of one hour were more proposals of an assignment
accepted than it allows.
-/
theorem accepted_within_rate [Externals] {ops : List GatewayOperation} {a : TradingAssignment}
    (ha : a ∈ (empty.run ops).registries.assignments) (start : UtcDatetime) :
    Window.within (hours 1) ((empty.run ops).tables.acceptedTimes a.assignmentId) start
      ≤ a.maxProposalsPerHour.val :=
  (rated_run rated_empty ops).rated a ha start

/-! ## An assignment of one proposal an hour -/

namespace Sample

def identity : AgentIdentity where
  agentId := ⟨"agent"⟩
  role := .trader
  runtimeVersion := "r1"
  modelProvider := none
  modelVersion := none
  serviceIdentity := "agent-service"
  status := .active
  capabilityClaims := []
  registeredAtUtc := noon - days 1

def assignment : TradingAssignment where
  assignmentId := ⟨"assignment"⟩
  assignmentVersion := "a1"
  allowedAgentId := ⟨"agent"⟩
  canonicalSymbol := "EUR/USD"
  timeframe := "M5"
  strategyArtifactId := ⟨"artifact"⟩
  strategyArtifactHash := "v1"
  validFromUtc := noon - days 1
  validUntilUtc := noon + days 1
  maxProposalsPerHour := ⟨1, by decide⟩
  allowedRiskFractionMin := fraction 10 (-4)
  allowedRiskFractionMax := fraction 10 (-3)
  requiredEvidenceFields := []
  supervisorPolicyVersion := "s1"
  environment := .paper
  championShadowStatus := .shadow
  validityWindow := by decide
  riskFractionRange := by decide

def evidence : AgentContextEvidence :=
  ⟨⟨"evidence"⟩, "agent_context_v1", "EUR/USD", noon, ⟨"snapshot"⟩, "spec", .open, .good, .unknown⟩

def bundle : DecisionContextBundle where
  contextId := ⟨"context"⟩
  assignmentId := ⟨"assignment"⟩
  marketSnapshotId := ⟨"snapshot"⟩
  instrumentSpecVersion := "spec"
  portfolioSummaryHash := "portfolio"
  sessionState := .open
  dataQuality := .good
  featureSnapshotId := ⟨"evidence"⟩
  policyHints := none
  newsSnapshotId := none
  issuedAtUtc := noon
  expiresAtUtc := noon + minutes 5
  expiry := by decide

/-- One reason. -/
def sweep : ReasonCodes := ⟨[⟨"sweep", by decide +kernel⟩], by decide⟩

/-- A proposal under an id, at a reference price. -/
def proposalAt (id : String) (referencePrice : Price)
    (h : (1099 : Decimal) < referencePrice.val ∧ referencePrice.val < (1102 : Decimal)) :
    TradeProposal where
  proposalId := ⟨id⟩
  agentId := ⟨"agent"⟩
  assignmentId := ⟨"assignment"⟩
  contextHash := bundle.contentHash
  strategyArtifactHash := "v1"
  side := .buy
  entryType := .market
  referencePrice := referencePrice
  stopLossPrice := ⟨1099, by decide⟩
  takeProfitPrice := ⟨1102, by decide⟩
  confidence := ⟨"0.9"⟩
  requestedRiskFraction := fraction 5 (-3)
  reasonCodes := sweep
  evidenceRefs := []
  submittedAtUtc := noon
  expiresAtUtc := noon + minutes 5
  directional := buy_directional
  buyStops := fun _ => h
  sellStops := fun hs => by cases hs
  lifetime := noon_lt

/-- An agent with an assignment and a context to propose on. -/
def registering : List GatewayOperation :=
  [.registerIdentity identity, .setCredential ⟨"agent"⟩ "secret" "00", .issueAssignment assignment,
   .recordEvidence evidence, .issueContextBundle bundle]

/-- A proposal comes in and gets its lock. -/
def submitting (p : TradeProposal) (now : UtcDatetime) : List GatewayOperation :=
  [.arrive ⟨"agent"⟩ "secret" (.proposal p) now, .transact 0 fun _ => none]

/-- Two proposals, the second with a clock that is behind. -/
def proposing : List GatewayOperation :=
  registering ++ submitting (proposalAt "first" ⟨1100, by decide⟩ (by decide)) noon
    ++ submitting (proposalAt "second" ⟨1100, by decide⟩ (by decide)) (noon - minutes 1)

end Sample

open Sample AgentGateway in
theorem accepted_within_rate_sample :
    (empty.run proposing).tables.acceptedTimes assignment.assignmentId = [noon]
      ∧ ∃ a ∈ (empty.run proposing).registries.assignments, a.assignmentId = assignment.assignmentId
        ∧ Window.within (hours 1)
            ((empty.run proposing).tables.acceptedTimes a.assignmentId) (noon - minutes 30)
          ≤ a.maxProposalsPerHour.val := by
  refine ⟨by decide +kernel, ?_⟩
  have hsome : ((empty.run proposing).registries.assignments.find? fun a =>
      decide (a.assignmentId = assignment.assignmentId)).isSome = true := by decide +kernel
  obtain ⟨a, ha⟩ := Option.isSome_iff_exists.mp hsome
  have hmem := List.mem_of_find?_eq_some ha
  have hp := List.find?_some ha
  exact ⟨a, hmem, of_decide_eq_true hp, accepted_within_rate hmem _⟩

end Crumblr
