import Crumblr.Proof.Conformance
import Crumblr.Proof.Exposure

/-!
# The passes keep the discipline

Reconciliation and the resolution of resting orders walk many requests, so the
loop has to carry what is known of those still to come. Reading or appending to
one history leaves the knowledge of every other as it was, and a query names no
request twice.
-/

namespace Crumblr

open ExecutionOrchestrator

variable [Externals]

variable {r f : Uuid} {past : Past} {α β : Type}

/-! ## Reconciling requests -/

/-- The pass knows each of these histories. -/
def KnowsAll (histories : List (Uuid × List ExecutionEventRecord)) (past : Past) : Prop :=
  ∀ history ∈ histories, known history.1 past = some history.2

omit [Externals] in
theorem KnowsAll.quiet {histories : List (Uuid × List ExecutionEventRecord)} {c : Call}
    (hk : KnowsAll histories past) (hc : Quiet c) (a : Except PyError c.Answer) :
    KnowsAll histories (⟨c, a⟩ :: past) := by
  intro history hmem
  rw [known_of_quiet hc, hk history hmem]

/-- A quiet program, and then something that is fine wherever the histories are known. -/
theorem keeps_after_known {histories : List (Uuid × List ExecutionEventRecord)} {p : Pass α}
    {g : α → Pass β} {Q : Past → β → Prop} (hp : Only Quiet p) (hk : KnowsAll histories past)
    (hg : ∀ past' a, KnowsAll histories past' → Keeps past' (g a) Q) :
    Keeps past (Prog.bind p g) Q :=
  Leads.seq (Conforms.mono (fun _ _ hs _ _ => hs)
    (conforms_quiet hp (fun _ _ a hs hc => hs.quiet hc a) hk)) hg

theorem keeps_readHistories {candidates : List Uuid} (hnodup : candidates.Nodup) :
    Keeps past (Prog.collect readHistory candidates) fun past' histories =>
      histories.map Prod.fst = candidates ∧ KnowsAll histories past' := by
  have hloop := Leads.collect (P := passDiscipline.protocol) (f := readHistory)
    (I := fun rest done past' => done.map Prod.fst ++ rest = candidates ∧ KnowsAll done past')
    ?_ candidates [] (s := past) ⟨rfl, by intro history h; cases h⟩
  · exact Leads.mono hloop fun past' histories h => by simpa using h
  · intro x rest done past' hI
    obtain ⟨hids, hk⟩ := hI
    refine keeps_ask trivial fun events _ => Leads.ret.mpr ⟨?_, ?_⟩
    · simp [← hids]
    · intro history hmem
      rcases List.mem_append.mp hmem with hmem | hmem
      · -- another request's history is not what was just read
        have hdone : history.1 ∈ done.map Prod.fst := List.mem_map_of_mem hmem
        have hne : x ≠ history.1 := by
          rintro rfl
          rw [← hids] at hnodup
          exact (List.nodup_append.mp hnodup).2.2 _ hdone _ (List.mem_cons_self ..) rfl
        have hkeep := hk history hmem
        unfold known at hkeep ⊢
        simp [recollect, executionNews, hne, hkeep]
      · simp only [Option.toList, List.mem_singleton] at hmem
        subst hmem
        simp [known, recollect, executionNews]

theorem keeps_reconcileRequest {exposure : DerivedExposure} {positions : List PositionState}
    {status : ReconciliationStatus} {now : UtcDatetime}
    {history : Uuid × List ExecutionEventRecord}
    {rest : List (Uuid × List ExecutionEventRecord)}
    (hlast : history.2.any (fun e => e.eventType = .reconciled) = false →
      history.1 ∈ exposure.determinedRequestIds →
      .reconciled ∈ resolves (types history.2).getLast?)
    (hnodup : ((history :: rest).map Prod.fst).Nodup) (hk : KnowsAll (history :: rest) past) :
    Keeps past (reconcileRequest exposure positions status now history) fun past' _ =>
      KnowsAll rest past' := by
  obtain ⟨rid, events⟩ := history
  have hrest : KnowsAll rest past := fun h hmem => hk h (List.mem_cons_of_mem _ hmem)
  unfold reconcileRequest
  dsimp only
  split
  · exact Leads.ret.mpr hrest
  · rename_i hgo
    simp only [not_or, Bool.not_eq_true, Decidable.not_not] at hgo
    refine leads_lift fun matching _ => leads_lift fun issues _ => ?_
    refine keeps_after_known (only_quiet (only_tripOnIssues ..) (by decide)) hk fun past₁ _ hk₁ => ?_
    · have hmay : MayAppend past₁ ⟨rid, .reconciled, now, [], none, some (reconciledPayload
          ((lookupLast exposure.ticketsByRequest rid).getD []) (positions.map (·.ticket))
          (matching.filter fun t => t ∉ (lookupLast exposure.ticketsByRequest rid).getD [])
          status issues)⟩ := by
        refine ⟨⟨events, hk₁ _ (List.mem_cons_self ..), .inr (hlast hgo.1 hgo.2.1)⟩, ?_⟩
        rintro ⟨ht, -⟩
        cases ht
      refine Leads.seq (R := fun past' _ => KnowsAll rest past') ?_
        fun _ _ hk' => Leads.ret.mpr hk'
      refine keeps_ask hmay fun b _ => Leads.ret.mpr ?_
      intro history hmem
      have hne : rid ≠ history.1 := by
        rintro rfl
        simp only [List.map_cons, List.nodup_cons] at hnodup
        exact hnodup.1 (List.mem_map_of_mem hmem)
      have hkeep := hk₁ history (List.mem_cons_of_mem _ hmem)
      unfold known at hkeep ⊢
      simp [recollect, executionNews, hne, hkeep]

theorem keeps_reconcileOnce (self : ExecutionOrchestrator) :
    Keeps past self.reconcileOnce Fine := by
  refine keeps_ask trivial fun candidates hcandidates => ?_
  split
  · exact Leads.ret.mpr trivial
  refine Leads.seq (keeps_readHistories hcandidates) fun past₁ histories hread => ?_
  obtain ⟨hids, hk₁⟩ := hread
  split
  · exact Leads.ret.mpr trivial
  refine keeps_after_known (only_ask trivial) hk₁ fun past₂ flattens hk₂ => ?_
  refine leads_lift fun exposure hexposure => ?_
  refine keeps_after_known (only_ask trivial) hk₂ fun past₃ now hk₃ => ?_
  refine keeps_after_known (only_quiet (only_observe ..) (by decide)) hk₃ fun past₄ observation hk₄ => ?_
  refine keeps_after_known (only_quiet (only_reconcile ..) (by decide)) hk₄ fun past₅ result hk₅ => ?_
  split
  · exact Leads.ret.mpr trivial
  have hnodup : (histories.map Prod.fst).Nodup := by rw [hids]; exact hcandidates
  -- what is still to be reconciled is a suffix of what was read, and still known
  have hloop := Leads.collect (P := passDiscipline.protocol)
    (f := reconcileRequest exposure observation.positionStates result.status now)
    (I := fun rest _ past' => rest <:+ histories ∧ KnowsAll rest past')
    ?_ histories [] (s := past₅) ⟨List.suffix_refl _, hk₅⟩
  · exact Keeps.fine hloop
  · intro history rest _ past' hI
    obtain ⟨hsuffix, hk'⟩ := hI
    refine Leads.mono (keeps_reconcileRequest ?_ ?_ hk') fun past'' _ hk'' =>
      ⟨(List.suffix_cons ..).trans hsuffix, hk''⟩
    · intro hrec hd
      obtain ⟨e, he, ht⟩ := determined_last hexposure hnodup
        (hsuffix.subset (List.mem_cons_self ..)) hd hrec
      have hlast : (types history.2).getLast? = some e.eventType := by
        simp [types, List.getLast?_map, he]
      rw [hlast]
      rcases ht with ht | ht <;> simp [ht, resolves]
    · exact hnodup.sublist (hsuffix.sublist.map _)

/-! ## Resolving resting orders -/

theorem keeps_resolvePending {positions : List PositionState}
    {pendingOrders : List PendingOrderState} {now : UtcDatetime} :
    Keeps past (resolvePending positions pendingOrders now r) Fine := by
  refine keeps_ask trivial fun events _ => ?_
  have hk : known r (⟨.eventsFor r, .ok events⟩ :: past) = some events := by
    simp [known, recollect, executionNews]
  split
  · exact Leads.ret.mpr trivial
  rename_i last hlast
  split
  · exact Leads.ret.mpr trivial
  rename_i hsubmitted
  have htypes : (types events).getLast? = some .submitted := by
    simp only [Decidable.not_not] at hsubmitted
    simp [types, List.getLast?_map, hlast, hsubmitted]
  refine leads_lift fun ticket _ => ?_
  split
  · exact Leads.ret.mpr trivial
  split
  · exact Leads.ret.mpr trivial
  split
  · exact Leads.ret.mpr trivial
  · refine Leads.seq (keeps_resolution hk (by simp [htypes, resolves]) ?_)
      fun _ _ _ => Leads.ret.mpr trivial
    rintro ⟨ht, -⟩
    cases ht
  · refine Leads.seq (keeps_resolution hk (by simp [htypes, resolves]) fun hd => ?_)
      fun _ _ _ => Leads.seq (fine_quiet (only_quiet (only_tripUnlessHalted ..) (by decide)))
        fun _ _ _ => Leads.ret.mpr trivial
    exact absurd hd (not_denies_of_payload (integrityPayload_submitted _))

/-- A loop of programs that are fine anywhere is fine. -/
theorem fine_collect {g : α → Pass (Option β)} {xs : List α}
    (hg : ∀ x past', Keeps past' (g x) Fine) : Keeps past (Prog.collect g xs) Fine :=
  Leads.collect (I := fun _ _ _ => True) (fun x _ _ past' _ => hg x past') xs [] trivial

theorem keeps_resolvePendingOnce (self : ExecutionOrchestrator) :
    Keeps past self.resolvePendingOnce Fine := by
  refine keeps_ask trivial fun submittedIds _ => ?_
  split
  · exact Leads.ret.mpr trivial
  · refine keeps_ask trivial fun now _ => keeps_ask trivial fun positions _ => ?_
    exact keeps_ask trivial fun orders _ => fine_collect fun _ _ => keeps_resolvePending

/-! ## Flattening -/

/-- The pass knows occurrence `f` to have a history of types `ts`. -/
def KnowsFlatten (f : Uuid) (ts : List FlattenEventType) (past : Past) : Prop :=
  ∃ events, knownFlatten f past = some events ∧ flattenTypes events = ts

/-- The pass claimed occurrence `f`, and knows its history to be of types `ts`. -/
def HoldsFlatten (f : Uuid) (ts : List FlattenEventType) (past : Past) : Prop :=
  ownsFlatten f past ∧ KnowsFlatten f ts past

variable {ts : List FlattenEventType}

omit [Externals] in
theorem ownsFlatten.cons {entry : Entry Call Call.Answer PyError} (h : ownsFlatten f past) :
    ownsFlatten f (entry :: past) := by
  obtain ⟨row, hrow, hmem⟩ := h
  exact ⟨row, hrow, List.mem_cons_of_mem _ hmem⟩

omit [Externals] in
theorem KnowsFlatten.quiet {c : Call} (hk : KnowsFlatten f ts past) (hc : Quiet c)
    (a : Except PyError c.Answer) : KnowsFlatten f ts (⟨c, a⟩ :: past) := by
  obtain ⟨events, h1, h2⟩ := hk
  exact ⟨events, by rw [knownFlatten_of_quiet hc, h1], h2⟩

theorem keeps_after_flatten {p : Pass α} {g : α → Pass β} {Q : Past → β → Prop}
    (hp : Only Quiet p) (hk : KnowsFlatten f ts past)
    (hg : ∀ past' a, KnowsFlatten f ts past' → Keeps past' (g a) Q) :
    Keeps past (Prog.bind p g) Q :=
  Leads.seq (Conforms.mono (fun _ _ hs _ _ => hs)
    (conforms_quiet hp (fun _ _ a hs hc => hs.quiet hc a) hk)) hg

theorem keeps_after_held {p : Pass α} {g : α → Pass β} {Q : Past → β → Prop}
    (hp : Only Quiet p) (hk : HoldsFlatten f ts past)
    (hg : ∀ past' a, HoldsFlatten f ts past' → Keeps past' (g a) Q) :
    Keeps past (Prog.bind p g) Q :=
  Leads.seq (Conforms.mono (fun _ _ hs _ _ => hs)
    (conforms_quiet hp (I := HoldsFlatten f ts)
      (fun _ _ a hs hc => ⟨hs.1.cons, hs.2.quiet hc a⟩) hk)) hg

/-- The owner of an occurrence appends what comes next. -/
theorem keeps_appendFlatten {t : FlattenEventType} {now : UtcDatetime} {codes : List ReasonCode}
    {detail : Option String} {payload : Option Json} (hh : HoldsFlatten f ts past)
    (ht : t ∈ commits ts.getLast?) :
    Keeps past (appendFlatten f t now codes detail payload) fun past' _ =>
      HoldsFlatten f (ts ++ [t]) past' := by
  obtain ⟨hown, events, hk, rfl⟩ := hh
  have hmay : MayAppendFlatten past ⟨f, t, now, codes, detail, payload⟩ :=
    ⟨events, hk, .inl ⟨hown, ht⟩⟩
  refine keeps_ask hmay fun b _ => Leads.ret.mpr ⟨hown.cons,
    events ++ [⟨f, t, now, codes, detail, payload⟩], ?_, ?_⟩
  · unfold knownFlatten at hk ⊢
    simp [recollect, flattenNews, hk]
  · simp [flattenTypes]

/-- Whoever read a commitment settles it. -/
theorem keeps_settlement {now : UtcDatetime} {payload : Json} (hk : KnowsFlatten f ts past)
    (hlast : ts.getLast? = some .flattenSubmissionStarted) :
    Keeps past (appendFlatten f .flattenOutcomeResolved now [] none (some payload)) Fine := by
  obtain ⟨events, hk, rfl⟩ := hk
  have hmay : MayAppendFlatten past
      ⟨f, .flattenOutcomeResolved, now, [], none, some payload⟩ :=
    ⟨events, hk, .inr (by simp [hlast, settles])⟩
  exact keeps_ask hmay fun _ _ => Leads.ret.mpr trivial

theorem keeps_settleFlatten {instructions open_ : List FlattenInstruction} {attempted : Bool}
    {now : UtcDatetime} (hk : KnowsFlatten f ts past)
    (hlast : ts.getLast? = some .flattenSubmissionStarted) :
    Keeps past (settleFlatten f instructions open_ attempted now) Fine := by
  unfold settleFlatten
  dsimp only
  split
  · exact Leads.seq (keeps_settlement hk hlast) fun _ _ _ => Leads.ret.mpr trivial
  split
  · exact Leads.seq (fine_quiet (only_quiet (only_tripUnlessHalted ..) (by decide))) fun _ _ _ => Leads.ret.mpr trivial
  · exact Leads.seq (keeps_settlement hk hlast) fun _ _ _ => Leads.ret.mpr trivial

theorem keeps_attemptAndResolveFlatten (self : ExecutionOrchestrator)
    {positions : List PositionState} {instructions : List FlattenInstruction} {now : UtcDatetime}
    (hk : KnowsFlatten f ts past) (hlast : ts.getLast? = some .flattenSubmissionStarted) :
    Keeps past (self.attemptAndResolveFlatten f positions instructions now) Fine := by
  unfold attemptAndResolveFlatten
  dsimp only
  split
  · refine keeps_after_flatten (only_quiet (only_closes _) (by decide)) hk fun past₁ _ hk₁ => ?_
    refine keeps_after_flatten (only_quiet (only_observe ..) (by decide)) hk₁ fun past₂ observation hk₂ => ?_
    refine keeps_after_flatten (only_ask trivial) hk₂ fun past₃ now hk₃ => ?_
    exact keeps_settleFlatten hk₃ hlast
  · exact keeps_settleFlatten hk hlast

theorem keeps_resolveFlattenOutcome (self : ExecutionOrchestrator)
    {positions : List PositionState} {events : List FlattenEventRecord} {now : UtcDatetime}
    (hk : KnowsFlatten f (flattenTypes events) past) :
    Keeps past (self.resolveFlattenOutcome f positions events now) Fine := by
  unfold resolveFlattenOutcome
  split
  · exact Leads.ret.mpr trivial
  rename_i last hlast
  split
  · exact Leads.ret.mpr trivial
  rename_i hstarted
  simp only [Decidable.not_not] at hstarted
  refine leads_lift fun instructions _ => ?_
  refine Leads.seq (keeps_attemptAndResolveFlatten self hk ?_)
    fun _ _ _ => Leads.ret.mpr trivial
  simp [flattenTypes, List.getLast?_map, hlast, hstarted]

theorem keeps_commitFlatten (self : ExecutionOrchestrator) {m : FlattenMoment}
    {observation : BrokerStateObservation} {pastDeadline crossedWeeklyClose : Bool}
    (hh : HoldsFlatten m.flattenRequestId [] past) :
    Keeps past (self.commitFlatten m observation pastDeadline crossedWeeklyClose) Fine := by
  refine Leads.seq (keeps_appendFlatten hh (by simp [commits])) fun past₁ _ hh₁ => ?_
  refine leads_lift fun account _ => ?_
  refine keeps_after_held (only_quiet (only_reconcile ..) (by decide)) hh₁ fun past₂ result hh₂ => ?_
  refine keeps_after_held (only_ask trivial) hh₂ fun past₃ killSwitch hh₃ => ?_
  dsimp only
  split
  · exact Leads.seq (keeps_appendFlatten hh₃ (by simp [commits])) fun _ _ _ =>
      Leads.ret.mpr trivial
  · refine Leads.seq (keeps_appendFlatten hh₃ (by simp [commits])) fun past₄ _ hh₄ => ?_
    refine leads_lift fun plan _ => ?_
    exact Leads.seq (keeps_appendFlatten hh₄ (by simp [commits])) fun _ _ _ =>
      Leads.ret.mpr trivial

theorem keeps_flattenUnclaimed (self : ExecutionOrchestrator) {m : FlattenMoment} :
    Keeps past (self.flattenUnclaimed m) Fine := by
  refine Leads.seq (fine_quiet (only_quiet (only_observe ..) (by decide))) fun past₁ observation _ => ?_
  refine Leads.seq (fine_quiet (only_quiet (only_tripUnlessBookKnown ..) (by decide))) fun past₂ _ _ => ?_
  dsimp only
  split
  · exact Leads.ret.mpr trivial
  refine keeps_ask trivial fun claimed _ => ?_
  cases claimed with
  | true =>
      have hclaimed : HoldsFlatten m.flattenRequestId []
          (⟨.claimFlatten (self.flattenClaimRow m), .ok true⟩ :: past₂) :=
        ⟨⟨_, rfl, List.mem_cons_self ..⟩, [],
          by simp [knownFlatten, recollect, flattenNews, flattenClaimRow], rfl⟩
      refine keeps_after_held (only_quiet (only_tripOvernightExposure ..) (by decide)) hclaimed fun past₃ _ hh => ?_
      exact Leads.seq (keeps_commitFlatten self hh) fun _ _ _ => Leads.ret.mpr trivial
  | false =>
      refine Leads.seq (fine_quiet (only_quiet (only_tripOvernightExposure ..) (by decide))) fun past₃ _ _ => ?_
      refine keeps_ask trivial fun events _ => keeps_resolveFlattenOutcome self ⟨events, ?_, rfl⟩
      simp [knownFlatten, recollect, flattenNews]

theorem keeps_flattenClaimed (self : ExecutionOrchestrator) {m : FlattenMoment}
    {priorEvents : List FlattenEventRecord} {last : FlattenEventRecord}
    (hk : KnowsFlatten m.flattenRequestId (flattenTypes priorEvents) past) :
    Keeps past (self.flattenClaimed m priorEvents last) Fine := by
  unfold flattenClaimed
  split
  · exact Leads.ret.mpr trivial
  · refine keeps_after_flatten (only_quiet (only_observe ..) (by decide)) hk fun past₁ observation hk₁ => ?_
    refine keeps_after_flatten (only_quiet (only_tripOvernightExposure ..) (by decide)) hk₁ fun past₂ _ hk₂ => ?_
    exact keeps_resolveFlattenOutcome self hk₂

theorem keeps_flattenOnce (self : ExecutionOrchestrator) :
    Keeps past self.flattenOnce Fine := by
  refine keeps_ask trivial fun now _ => ?_
  split
  · exact Leads.ret.mpr trivial
  · refine keeps_ask trivial fun priorEvents _ => ?_
    split
    · refine keeps_flattenClaimed self ⟨priorEvents, ?_, rfl⟩
      simp [knownFlatten, recollect, flattenNews]
    · exact keeps_flattenUnclaimed self

/-! ## Every pass -/

theorem keeps_runOnce (self : ExecutionOrchestrator) : Keeps past self.runOnce Fine := by
  refine Leads.seq (keeps_flattenOnce self) fun past₁ _ _ => ?_
  refine keeps_ask trivial fun now _ => keeps_ask trivial fun capsules _ => ?_
  refine Leads.seq (fine_collect fun _ _ => keeps_process self) fun past₂ outcomes _ => ?_
  exact Leads.seq (keeps_reconcileOnce self) fun _ _ _ => Leads.ret.mpr trivial

/-- **Every pass of every worker keeps the discipline.** -/
theorem program_conforms (i : Nat) (q : Task) :
    Conforms passDiscipline.protocol [] ((workers.program i q)) fun _ _ => True := by
  have hfine : Keeps [] q.program Fine := by
    unfold Task.program
    split
    · exact Leads.seq (keeps_runOnce _) fun _ _ _ => Leads.ret.mpr trivial
    · exact Leads.seq (keeps_resolvePendingOnce _) fun _ _ _ => Leads.ret.mpr trivial
    · exact Leads.seq (keeps_reconcileOnce _) fun _ _ _ => Leads.ret.mpr trivial
  exact Conforms.mono (fun _ _ _ => trivial) hfine

end Crumblr
