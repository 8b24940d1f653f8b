import Crumblr.Proof.LiveExposure
import Mathlib.Data.List.ReduceOption

/-!
# What is recorded as reconciled

A pass first reads: the requests with their histories, what is expected of them, the broker, and
the verdict on the book. Then it goes through the requests, and records those whose exposure is
accounted for. A position that is accounted for without the stop it should have halts before that
is recorded. What was recorded earlier is not looked at again, and neither is a position whose
request is not accounted for yet.
-/

namespace Crumblr

open ExecutionOrchestrator

/-! ## The two halves of a pass -/

/-- What a pass goes by when it goes through the requests. -/
structure Book where
  histories : List (Uuid × List ExecutionEventRecord)
  exposure : DerivedExposure
  now : UtcDatetime
  positions : List PositionState
  status : ReconciliationStatus

namespace Book

variable (b : Book) (r : Uuid)

/-- The tickets that are still the request's own. -/
def attributed : List Int := (lookupLast b.exposure.ticketsByRequest r).getD []

/-- The request is accounted for, and not yet on record as such. -/
structure Proven : Prop where
  pending : ∃ events, (r, events) ∈ b.histories ∧ ∀ e ∈ events, e.eventType ≠ .reconciled
  determined : r ∈ b.exposure.determinedRequestIds
  known : b.status ≠ .unknown
  observed : ∀ t ∈ b.attributed r, ∃ p ∈ b.positions, p.ticket = t

/-- The position carries the stop the request's order was sent with. -/
def Protected (p : PositionState) : Prop :=
  ∃ expected observed, lookupLast b.exposure.expectedStopLossByRequest r = some expected
    ∧ p.stopLossPrice.map (·.val) = some observed ∧ observed.compare expected = .eq

/-- A position observed under one of the request's tickets lacks its stop, or has another. -/
def Unprotected : Prop :=
  ∃ t ∈ b.attributed r, ∃ p, positionByTicket b.positions t = some p ∧ ¬ b.Protected r p

end Book

namespace ExecutionOrchestrator

variable [Externals] (self : ExecutionOrchestrator)

/-- The half that reads. -/
def readBook : Pass (Option Book) := do
  let candidates ← ask (.requestIdsWithEvent .submissionStarted self.config.environment
    self.canonicalSymbol)
  if candidates = [] then pure none
  else
    let requestHistories ← Prog.collect readHistory candidates
    if requestHistories.all (fun h => h.2.any fun e => e.eventType = .reconciled) then pure none
    else
      let flattenHistories ← ask
        (.occurrenceHistories self.config.environment self.canonicalSymbol)
      let exposure ← lift (deriveExpectedExposure requestHistories flattenHistories)
      let now ← ask .clock
      let observation ← self.observe self.config.environment
      let result ← reconcile (.fromDurableExposure self.config.accountGuard exposure
        self.canonicalSymbol self.expectedSpecVersion) now
      pure (some ⟨requestHistories, exposure, now, observation.positionStates, result.status⟩)

/-- The half that records. -/
def recordProven (b : Book) : Pass (List ReconciliationAttemptOutcome) :=
  if b.status = .unknown then pure []
  else Prog.collect (reconcileRequest b.exposure b.positions b.status b.now) b.histories

/-- **The pass is its two halves.** -/
theorem reconcileOnce_eq : self.reconcileOnce = self.readBook.bind fun book =>
    match book with
    | none => pure []
    | some b => recordProven b := by
  unfold reconcileOnce readBook
  simp only [Prog.bind_eq_bind, Prog.bind_assoc]
  congr 1
  funext candidates
  split
  · rfl
  simp only [Prog.bind_assoc]
  congr 1
  funext histories
  split
  · rfl
  simp only [Prog.bind_assoc, Prog.pure_eq_ret, Prog.ret_bind, recordProven]

end ExecutionOrchestrator

/-! ## What a pass records -/

/-- The requests a pass has set out to record as reconciled, the newest first. -/
def reconciledIn : Past → List Uuid
  | [] => []
  | ⟨.append e, _⟩ :: past =>
      if e.eventType = .reconciled then e.orderRequestId :: reconciledIn past
      else reconciledIn past
  | _ :: past => reconciledIn past

/-- The call records nothing of a request. -/
def Unrecording : Call → Prop
  | .append _ => False
  | _ => True

theorem About.unrecording {topics : List Topic} (h : .recording ∉ topics) (c : Call)
    (hc : About topics c) : Unrecording c := by
  have ht := hc.mem
  cases c <;> trivial

theorem reconciledIn_of_unrecording {c : Call} (h : Unrecording c) (a : Except PyError c.Answer)
    (past : Past) : reconciledIn (⟨c, a⟩ :: past) = reconciledIn past := by
  cases c <;> first | rfl | exact h.elim

/-- A worker's own switch, after what its pass did. -/
def switchAfter (killSwitch : KillSwitch) : Past → KillSwitch
  | [] => killSwitch
  | ⟨.trip halt, .ok _⟩ :: past => (switchAfter killSwitch past).tripped halt
  | _ :: past => switchAfter killSwitch past

/-- The answers a pass gets: the switch is the worker's own, and the store lists a request once.
Everything else, histories and observations, is as it may be. -/
def surrounded (killSwitch : KillSwitch) (answer : Past → (c : Call) → Except PyError c.Answer) :
    Past → (c : Call) → Except PyError c.Answer
  | past, .killSwitch => .ok (switchAfter killSwitch past)
  | past, .requestIdsWithEvent eventType environment canonicalSymbol =>
      (answer past (.requestIdsWithEvent eventType environment canonicalSymbol)).map
        List.eraseDups
  | past, c => answer past c

variable {killSwitch : KillSwitch} {past past' : Past}
  {answer : Past → (c : Call) → Except PyError c.Answer} {b : Book}

/-- What was halted stays halted. -/
theorem switchAfter_cons (entry : Entry Call Call.Answer PyError)
    (h : (switchAfter killSwitch past).isHalted = true) :
    (switchAfter killSwitch (entry :: past)).isHalted = true := by
  obtain ⟨c, a⟩ := entry
  cases c with
  | trip halt =>
      cases a with
      | ok _ => simp [switchAfter]
      | error e => exact h
  | _ => exact h

/-- **A switch seen halted is halted at the end.** -/
theorem halted_of_seen (hby : AnsweredBy (surrounded killSwitch answer) past)
    (h : SeenHalted past) : (switchAfter killSwitch past).isHalted = true := by
  induction past with
  | nil =>
      rcases h with ⟨_, hmem, -⟩ | ⟨_, hmem⟩
      · cases hmem
      · cases hmem
  | cons entry past ih =>
      obtain ⟨hanswer, hby⟩ := hby
      rcases h with ⟨seen, hmem, hhalted⟩ | ⟨halt, hmem⟩
      · rcases List.mem_cons.mp hmem with rfl | hmem
        · have hown : seen = switchAfter killSwitch past := Except.ok.inj hanswer
          exact switchAfter_cons _ (hown ▸ hhalted)
        · exact switchAfter_cons _ (ih hby (.inl ⟨seen, hmem, hhalted⟩))
      · rcases List.mem_cons.mp hmem with rfl | hmem
        · simp [switchAfter]
        · exact switchAfter_cons _ (ih hby (.inr ⟨halt, hmem⟩))

/-! ## Going through the requests -/

/-- When a request may be recorded as reconciled. -/
structure Book.MayRecord (b : Book) (past : Past) (r : Uuid) : Prop where
  proven : b.Proven r
  first : r ∉ reconciledIn past
  halted : b.Unprotected r → SeenHalted past

/-- How a pass records. -/
def recordDiscipline (b : Book) : Discipline Call Call.Answer PyError where
  allows := fun past c => match c with
    | .append e => e.eventType = .reconciled → b.MayRecord past e.orderRequestId
    | _ => True
  answers := fun _ _ => True

theorem recordDiscipline_lets {topics : List Topic} (h : .recording ∉ topics) :
    Lets (recordDiscipline b) topics := by
  intro past c hc
  have ht := hc.mem
  cases c <;> trivial

/-- **Everything recorded was accounted for, once, and halted if it had to.** -/
theorem allowed_recorded (h : AllowedBy (recordDiscipline b) past) :
    (reconciledIn past).Nodup ∧ ∀ r ∈ reconciledIn past, b.Proven r
      ∧ (b.Unprotected r → SeenHalted past) := by
  induction past with
  | nil => exact ⟨List.nodup_nil, fun r hr => by cases hr⟩
  | cons entry past ih =>
      obtain ⟨hnow, hbefore⟩ := h
      obtain ⟨hnodup, hall⟩ := ih hbefore
      have hkeep : ∀ r ∈ reconciledIn past, b.Proven r
          ∧ (b.Unprotected r → SeenHalted (entry :: past)) := fun r hr =>
        ⟨(hall r hr).1, fun hun => ((hall r hr).2 hun).mono (List.subset_cons_self ..)⟩
      obtain ⟨c, a⟩ := entry
      cases c with
      | append e =>
          by_cases ht : e.eventType = .reconciled
          · have hmay : b.MayRecord past e.orderRequestId := hnow ht
            rw [reconciledIn, if_pos ht]
            refine ⟨List.nodup_cons.mpr ⟨hmay.first, hnodup⟩, fun r hr => ?_⟩
            rcases List.mem_cons.mp hr with rfl | hr
            · exact ⟨hmay.proven, fun hun => (hmay.halted hun).mono (List.subset_cons_self ..)⟩
            · exact hkeep r hr
          · rw [reconciledIn, if_neg ht]
            exact ⟨hnodup, hkeep⟩
      | _ => exact ⟨hnodup, hkeep⟩

theorem positionAt_ok {positions : List PositionState} {t : Int} {p : PositionState} :
    positionAt positions t = .ok p ↔ positionByTicket positions t = some p := by
  unfold positionAt
  cases positionByTicket positions t <;> simp

/-- What is read of every item is read of each. -/
theorem mem_of_mapM_ok {α β : Type} {f : α → Except PyError β} {x : α} :
    ∀ {xs : List α} {ys : List β}, xs.mapM f = .ok ys → x ∈ xs → ∃ y ∈ ys, f x = .ok y := by
  intro xs
  induction xs with
  | nil => intro ys _ hx; cases hx
  | cons z xs ih =>
      intro ys h hx
      rw [List.mapM_cons] at h
      obtain ⟨y, hy, hrest⟩ := bind_ok h
      obtain ⟨ys', hys', hpure⟩ := bind_ok hrest
      cases hpure
      rcases List.mem_cons.mp hx with rfl | hx
      · exact ⟨y, List.mem_cons_self .., hy⟩
      · obtain ⟨y', hmem, hf⟩ := ih hys' hx
        exact ⟨y', List.mem_cons_of_mem _ hmem, hf⟩

/-- A list over which something is raised has an item it is raised at. -/
theorem mapM_error {α β : Type} {f : α → Except PyError β} {e : PyError} :
    ∀ {xs : List α}, xs.mapM f = .error e → ∃ x ∈ xs, f x = .error e := by
  intro xs
  induction xs with
  | nil => intro h; cases h
  | cons z xs ih =>
      intro h
      rw [List.mapM_cons] at h
      rcases bind_error h with hz | ⟨y, -, hrest⟩
      · exact ⟨z, List.mem_cons_self .., hz⟩
      rcases bind_error hrest with hxs | ⟨ys, -, hpure⟩
      · obtain ⟨x, hx, hf⟩ := ih hxs
        exact ⟨x, List.mem_cons_of_mem _ hx, hf⟩
      · cases hpure

/-- A stop that is not the expected one is an issue. -/
theorem protectiveStopIssue_eq_none {t : Int} {expected observed : Option Decimal} :
    protectiveStopIssue t expected observed = none
      ↔ ∃ e o, expected = some e ∧ observed = some o ∧ o.compare e = .eq := by
  cases expected <;> cases observed <;> simp [protectiveStopIssue]

/-- A position observed without its stop is an issue. -/
theorem issues_ne_nil {r : Uuid} {issues : List ProtectiveStopIssue}
    (h : verifyProtectiveStops b.positions (b.attributed r)
      (lookupLast b.exposure.expectedStopLossByRequest r) = .ok issues)
    (hun : b.Unprotected r) : issues ≠ [] := by
  obtain ⟨t, ht, p, hp, hbad⟩ := hun
  obtain ⟨found, hfound, hpure⟩ := bind_ok h
  cases hpure
  have hsorted : t ∈ sortedSet (b.attributed r) := by
    simpa [sortedSet, List.mem_insertionSort] using ht
  obtain ⟨y, hy, hissue⟩ := mem_of_mapM_ok hfound hsorted
  obtain ⟨p', hp', hpure⟩ := bind_ok hissue
  cases hpure
  obtain rfl : p' = p := Option.some.inj ((positionAt_ok.mp hp').symm.trans hp)
  cases hsome : protectiveStopIssue t (lookupLast b.exposure.expectedStopLossByRequest r)
      (p'.stopLossPrice.map (·.val)) with
  | none => exact absurd (protectiveStopIssue_eq_none.mp hsome) hbad
  | some issue =>
      have hmem : issue ∈ found.reduceOption := by
        rw [List.reduceOption_mem_iff, ← hsome]
        exact hy
      exact List.ne_nil_of_mem hmem

/-- **A look-up fails only for a ticket that is not open.** -/
theorem verifyProtectiveStops_error {positions : List PositionState} {attributed : List Int}
    {expected : Option Decimal} {e : PyError}
    (h : verifyProtectiveStops positions attributed expected = .error e) :
    ∃ t ∈ attributed, ∀ p ∈ positions, p.ticket ≠ t := by
  rcases bind_error h with hread | ⟨found, -, hpure⟩
  · obtain ⟨t, ht, hissue⟩ := mapM_error hread
    refine ⟨t, by simpa [sortedSet, List.mem_insertionSort] using ht, fun p hp hpt => ?_⟩
    rcases bind_error hissue with hat | ⟨p', -, hpure⟩
    · have hfound : (positionByTicket positions t).isSome = true :=
        List.find?_isSome.mpr ⟨p, List.mem_reverse.mpr hp, by simpa using hpt⟩
      obtain ⟨p', hp'⟩ := Option.isSome_iff_exists.mp hfound
      rw [positionAt_ok.mpr hp'] at hat
      cases hat
    · cases hpure
  · cases hpure

/-! ## Going through the requests -/

/-- The part of the requests a pass has been through, and what it has recorded of them. -/
structure GoneThrough (b : Book) (rest : List (Uuid × List ExecutionEventRecord)) (past : Past) :
    Prop where
  split : ∃ done, b.histories = done ++ rest
    ∧ (∀ r ∈ reconciledIn past, r ∈ done.map Prod.fst)
    ∧ ∀ h ∈ done, b.Proven h.1 → h.1 ∈ reconciledIn past

/-- One request more, that has been left alone. -/
theorem GoneThrough.skip {history : Uuid × List ExecutionEventRecord}
    {rest : List (Uuid × List ExecutionEventRecord)} (h : GoneThrough b (history :: rest) past)
    (hleft : ¬ b.Proven history.1) : GoneThrough b rest past := by
  obtain ⟨done, hsplit, hwithin, hdone⟩ := h.split
  refine ⟨done ++ [history], by simp [hsplit], fun r hr => ?_, fun h' hmem hproven => ?_⟩
  · have := hwithin r hr
    simp only [List.map_append, List.mem_append]
    exact .inl this
  · rcases List.mem_append.mp hmem with hmem | hmem
    · exact hdone h' hmem hproven
    · obtain rfl := List.mem_singleton.mp hmem
      exact absurd hproven hleft

/-- One request more, that has been recorded. -/
theorem GoneThrough.record {history : Uuid × List ExecutionEventRecord}
    {rest : List (Uuid × List ExecutionEventRecord)} (h : GoneThrough b (history :: rest) past)
    (hnow : reconciledIn past' = history.1 :: reconciledIn past) : GoneThrough b rest past' := by
  obtain ⟨done, hsplit, hwithin, hdone⟩ := h.split
  refine ⟨done ++ [history], by simp [hsplit], fun r hr => ?_, fun h' hmem hproven => ?_⟩
  · rw [hnow] at hr
    simp only [List.map_append, List.mem_append, List.map_cons, List.map_nil, List.mem_singleton]
    rcases List.mem_cons.mp hr with hr | hr
    · exact .inr hr
    · exact .inl (hwithin r hr)
  · rw [hnow]
    rcases List.mem_append.mp hmem with hmem | hmem
    · exact List.mem_cons_of_mem _ (hdone h' hmem hproven)
    · rw [List.mem_singleton.mp hmem]
      exact List.mem_cons_self ..

/-- What halts records nothing of a request. -/
theorem reconciledIn_tripped {p : Pass Unit} (hp : Only (About [.halting]) p) :
    Leads (recordDiscipline b).protocol past p
      fun past' _ => reconciledIn past' = reconciledIn past := by
  have hD : Lets (recordDiscipline b) [.halting] := recordDiscipline_lets (by decide)
  refine hD.frame (I := fun past' => reconciledIn past' = reconciledIn past) hp ?_ rfl
  intro past' c a h hc
  rw [reconciledIn_of_unrecording (About.unrecording (by decide) c hc), h]

theorem leads_tripOnIssues {r : Uuid} {issues : List ProtectiveStopIssue} {now : UtcDatetime} :
    Leads (recordDiscipline b).protocol past (tripOnIssues r issues now) fun past' _ =>
      (issues ≠ [] → SeenHalted past') ∧ reconciledIn past' = reconciledIn past := by
  refine Leads.and ?_ (reconciledIn_tripped (only_tripOnIssues ..))
  unfold tripOnIssues
  split
  · rename_i hnone
    exact Leads.ret.mpr fun h => absurd hnone h
  · exact Leads.mono (leads_tripUnlessHalted (recordDiscipline_lets (by decide))) fun _ _ h _ => h

/-- **One request.** It is recorded when it is accounted for, and left alone when it is not. -/
theorem leads_reconcileRequest {history : Uuid × List ExecutionEventRecord}
    {rest : List (Uuid × List ExecutionEventRecord)} (hnodup : (b.histories.map Prod.fst).Nodup)
    (hknown : b.status ≠ .unknown) (h : GoneThrough b (history :: rest) past) :
    Leads (recordDiscipline b).protocol past
      (reconcileRequest b.exposure b.positions b.status b.now history)
      fun past' _ => GoneThrough b rest past' := by
  obtain ⟨done, hsplit, hwithin, -⟩ := h.split
  have hmem : history ∈ b.histories := by simp [hsplit]
  -- a request has one history
  have hone : ∀ events, (history.1, events) ∈ b.histories → events = history.2 := fun events he =>
    congrArg Prod.snd (List.inj_on_of_nodup_map hnodup he hmem rfl)
  have hfirst : history.1 ∉ done.map Prod.fst := by
    rw [hsplit, List.map_append, List.map_cons] at hnodup
    intro hdone
    exact (List.nodup_append.mp hnodup).2.2 _ hdone _ (List.mem_cons_self ..) rfl
  obtain ⟨r, events⟩ := history
  unfold reconcileRequest
  dsimp only
  split
  · rename_i hleft
    refine Leads.ret.mpr (h.skip ?_)
    rintro ⟨⟨events', he', hpending⟩, hdetermined, -, hobserved⟩
    rcases hleft with hdone | hundetermined | hclosed
    · obtain rfl := hone events' he'
      obtain ⟨e, he, ht⟩ := List.any_eq_true.mp hdone
      exact hpending e he (of_decide_eq_true ht)
    · exact hundetermined hdetermined
    · obtain ⟨t, ht, hopen⟩ := List.any_eq_true.mp hclosed
      obtain ⟨p, hp, rfl⟩ := hobserved t ht
      exact of_decide_eq_true hopen (List.mem_map_of_mem hp)
  rename_i hgo
  simp only [not_or, Bool.not_eq_true, Decidable.not_not] at hgo
  have hproven : b.Proven r := by
    refine ⟨⟨events, hmem, fun e he ht => ?_⟩, hgo.2.1, hknown, fun t ht => ?_⟩
    · exact absurd (decide_eq_true ht) (by simpa using List.any_eq_false.mp hgo.1 e he)
    · have hopen := List.any_eq_false.mp hgo.2.2 t ht
      obtain ⟨p, hp, hpt⟩ := List.mem_map.mp (by simpa using hopen)
      exact ⟨p, hp, hpt⟩
  refine leads_lift fun matching _ => leads_lift fun issues hissues => ?_
  refine Leads.seq leads_tripOnIssues fun past₁ _ hhalted => ?_
  have hmay : b.MayRecord past₁ r := by
    refine ⟨hproven, fun hr => hfirst (hwithin r (hhalted.2 ▸ hr)), fun hun => ?_⟩
    exact hhalted.1 (issues_ne_nil hissues hun)
  refine Leads.seq (leads_append fun _ => hmay) ?_
  rintro past₂ - ⟨inserted, rfl⟩
  refine Leads.ret.mpr (h.record ?_)
  rw [reconciledIn, if_pos rfl, hhalted.2]

/-- **All of them.** -/
theorem leads_recordProven (hnodup : (b.histories.map Prod.fst).Nodup)
    (hnone : reconciledIn past = []) :
    Leads (recordDiscipline b).protocol past (recordProven b) fun past' _ =>
      ∀ r, b.Proven r → r ∈ reconciledIn past' := by
  unfold recordProven
  split
  · rename_i hunknown
    exact Leads.ret.mpr fun r hproven => absurd hunknown hproven.known
  rename_i hknown
  have hstart : GoneThrough b b.histories past := by
    refine ⟨[], rfl, fun r hr => ?_, fun h hmem => by cases hmem⟩
    rw [hnone] at hr
    cases hr
  refine Leads.mono (Leads.collect (I := fun rest _ past' => GoneThrough b rest past')
    (fun history rest _ past' h => leads_reconcileRequest hnodup hknown h) b.histories [] hstart) ?_
  intro past' _ h r hproven
  obtain ⟨done, hsplit, -, hdone⟩ := h.split
  obtain ⟨events, hmem, -⟩ := hproven.pending
  rw [List.append_nil] at hsplit
  exact hdone (r, events) (hsplit ▸ hmem) hproven

/-! ## Reading -/

/-- What the reading half leaves: nothing recorded, and one history for each request. -/
structure ReadOnce (past : Past) (result : Except PyError (Option Book)) : Prop where
  nothing : reconciledIn past = []
  distinct : ∀ b, result = .ok (some b) → (b.histories.map Prod.fst).Nodup

/-- The store lists a request once. -/
def storeDiscipline : Discipline Call Call.Answer PyError where
  allows := fun _ _ => True
  answers := fun c a => match c, a with
    | .requestIdsWithEvent .., .ok ids => List.Nodup ids
    | _, _ => True

theorem surrounded_answers (past : Past) (c : Call) :
    storeDiscipline.answers c (surrounded killSwitch answer past c) := by
  cases c with
  | requestIdsWithEvent eventType environment canonicalSymbol =>
      cases hids : answer past (.requestIdsWithEvent eventType environment canonicalSymbol) with
      | error e => simp [surrounded, hids, storeDiscipline, Except.map]
      | ok ids =>
          simpa [surrounded, hids, storeDiscipline, Except.map] using Table.nodup_eraseDups ids
  | _ => trivial

theorem leads_readHistories {candidates : List Uuid} :
    Leads storeDiscipline.protocol past (Prog.collect readHistory candidates)
      fun _ histories => histories.map Prod.fst = candidates := by
  refine Leads.mono (Leads.collect (I := fun rest read _ => read.map Prod.fst ++ rest = candidates)
    ?_ candidates [] (by simp)) fun _ histories h => by simpa using h
  intro r rest read past' h
  refine Leads.next trivial fun events _ => Leads.ret.mpr ?_
  simpa using h

variable [Externals] {self : ExecutionOrchestrator}

/-- **Reading records nothing.** -/
theorem unrecording_readBook : Only Unrecording self.readBook := by
  have hquiet : ∀ {α : Type} {p : Pass α} {topics : List Topic}, Only (About topics) p →
      .recording ∉ topics → Only Unrecording p := fun hp h => Only.mono (About.unrecording h) hp
  refine Only.bind (only_ask trivial) fun candidates => ?_
  split
  · trivial
  refine Only.bind (Only.collect fun _ _ => Only.bind (only_ask trivial) fun _ => trivial)
    fun histories => ?_
  split
  · trivial
  exact Only.bind (only_ask trivial) fun flattens => Only.bind only_lift fun exposure =>
    Only.bind (only_ask trivial) fun now =>
    Only.bind (hquiet (only_observe ..) (by decide)) fun observation =>
    Only.bind (hquiet (only_reconcile ..) (by decide)) fun result => trivial

theorem conforms_readBook : Conforms storeDiscipline.protocol [] self.readBook ReadOnce := by
  have hnothing : Conforms storeDiscipline.protocol [] self.readBook
      fun past _ => reconciledIn past = [] := by
    refine Only.conforms (I := fun past => reconciledIn past = []) (fun _ _ _ _ => trivial) ?_
      unrecording_readBook rfl
    rintro past c a past' h hc ⟨-, rfl⟩
    rw [reconciledIn_of_unrecording hc, h]
  have hdistinct : Leads storeDiscipline.protocol [] self.readBook
      fun _ book => ∀ b, book = some b → (b.histories.map Prod.fst).Nodup := by
    refine Leads.next trivial fun candidates hcandidates => ?_
    split
    · exact Leads.ret.mpr fun b h => by cases h
    refine Leads.seq leads_readHistories fun past₁ histories hkeys => ?_
    split
    · exact Leads.ret.mpr fun b h => by cases h
    refine Leads.next trivial fun flattens _ => leads_lift fun exposure _ =>
      Leads.next trivial fun now _ => ?_
    refine Leads.seq (R := fun _ _ => True) ?_ fun past₂ observation _ =>
      Leads.seq (R := fun _ _ => True) ?_ fun past₃ result _ => Leads.ret.mpr ?_
    · exact Conforms.mono (fun _ _ _ _ _ => trivial) (Conforms.unbound fun _ _ => trivial)
    · exact Conforms.mono (fun _ _ _ _ _ => trivial) (Conforms.unbound fun _ _ => trivial)
    · rintro b ⟨⟩
      rw [hkeys]
      exact hcandidates
  exact Conforms.mono (fun _ _ h => ⟨h.1, fun b hb => h.2 _ hb b rfl⟩)
    (Conforms.and hnothing hdistinct)

/-! ## Look-ups -/

/-- A flatten that is committed to and not resolved has an instruction without a ticket. -/
def Unticketed (flattens : List (Uuid × List FlattenEventRecord)) : Prop :=
  ∃ h ∈ flattens, lastFlattenPayload .flattenOutcomeResolved h.2 = none
    ∧ ∃ commitment, lastFlattenPayload .flattenSubmissionStarted h.2 = some commitment
      ∧ ∃ i ∈ instructionsOf commitment, i.get? "ticket" = none

section

omit [Externals]

theorem toInt_error {j : Json} {e : PyError} (h : j.toInt = .error e) : e.kind ≠ .lookup := by
  unfold Json.toInt at h
  split at h <;> cases h <;> decide

theorem intsAt_error {payload : Json} {key : String} {e : PyError}
    (h : payload.intsAt key = .error e) : e.kind ≠ .lookup := by
  unfold Json.intsAt at h
  split at h
  · cases h
  · obtain ⟨j, -, hj⟩ := mapM_error h
    exact toInt_error hj
  · cases h
    decide

theorem stopLossPriceOf_error {events : List ExecutionEventRecord} {e : PyError}
    (h : stopLossPriceOf events = .error e) : e.kind ≠ .lookup := by
  unfold stopLossPriceOf at h
  split at h <;> cases h
  decide

theorem entryTypeOf_error {events : List ExecutionEventRecord} {e : PyError}
    (h : entryTypeOf events = .error e) : e.kind ≠ .lookup := by
  unfold entryTypeOf at h
  split at h
  · cases h
  · split at h <;> cases h
    decide

theorem resolvedExposure_error {r : Uuid} {payload : Option Json}
    {events : List ExecutionEventRecord} {e : PyError}
    (h : resolvedExposure r payload events = .error e) : e.kind ≠ .lookup := by
  unfold resolvedExposure at h
  split at h
  · cases h
  split at h
  · cases h
  split at h
  · cases h
  split at h
  · cases h
  rcases bind_error h with htickets | ⟨tickets, -, h⟩
  · exact intsAt_error htickets
  rcases bind_error h with hstop | ⟨stopLoss, -, h⟩
  · exact stopLossPriceOf_error hstop
  rcases bind_error h with htype | ⟨entryType, -, h⟩
  · exact entryTypeOf_error htype
  · cases h

theorem requestExposure_error {r : Uuid} {events : List ExecutionEventRecord} {e : PyError}
    (h : requestExposure r events = .error e) : e.kind ≠ .lookup := by
  unfold requestExposure at h
  split at h
  · cases h
  · split at h
    · cases h
    · cases h
    · cases h
    · exact resolvedExposure_error h
    · cases h

theorem gatherExposure_error {e : PyError} :
    ∀ {histories : List (Uuid × List ExecutionEventRecord)},
      gatherExposure histories = .error e → e.kind ≠ .lookup := by
  intro histories
  induction histories with
  | nil => intro h; cases h
  | cons history histories ih =>
      intro h
      rcases bind_error h with hone | ⟨one, -, h⟩
      · exact requestExposure_error hone
      rcases bind_error h with hmore | ⟨more, -, h⟩
      · exact ih hmore
      · cases h

theorem flattenOccurrence_error {h : Uuid × List FlattenEventRecord} {e : PyError}
    (herr : flattenOccurrence h.1 h.2 = .error e) (hlookup : e.kind = .lookup) :
    Unticketed [h] := by
  unfold flattenOccurrence at herr
  split at herr
  · cases herr
  rename_i commitment hcommitment
  split at herr
  · rename_i resolved hresolved
    rcases bind_error herr with hints | ⟨closed, -, herr⟩
    · exact absurd hlookup (intsAt_error hints)
    · cases herr
  rename_i hopen
  rcases bind_error herr with hread | ⟨tickets, -, herr⟩
  · refine ⟨h, List.mem_singleton.mpr rfl, hopen, commitment, hcommitment, ?_⟩
    unfold instructionTickets at hread
    split at hread
    · cases hread
    · rename_i targets htargets
      obtain ⟨i, hi, hticket⟩ := mapM_error hread
      refine ⟨i, by simpa [instructionsOf, htargets, Json.asList?] using hi, ?_⟩
      unfold instructionTicket at hticket
      split at hticket
      · split at hticket
        · exact absurd hlookup (toInt_error hticket)
        · assumption
      · cases hticket
        cases hlookup
    · cases hread
      cases hlookup
  · cases herr

theorem flattenRemoved_error {e : PyError} (hlookup : e.kind = .lookup) :
    ∀ {flattens : List (Uuid × List FlattenEventRecord)},
      flattenRemovedAndUndetermined flattens = .error e → Unticketed flattens := by
  intro flattens
  induction flattens with
  | nil => intro h; cases h
  | cons flatten flattens ih =>
      intro h
      rcases bind_error h with hone | ⟨one, -, h⟩
      · obtain ⟨h, hmem, rest⟩ := flattenOccurrence_error hone hlookup
        exact ⟨h, by simp [List.mem_singleton.mp hmem], rest⟩
      rcases bind_error h with hmore | ⟨more, -, h⟩
      · obtain ⟨h, hmem, rest⟩ := ih hmore
        exact ⟨h, List.mem_cons_of_mem _ hmem, rest⟩
      · cases h

/-- **The derivation looks up one thing only, the tickets of open flattens.** -/
theorem deriveExpectedExposure_error {histories : List (Uuid × List ExecutionEventRecord)}
    {flattens : List (Uuid × List FlattenEventRecord)} {e : PyError}
    (h : deriveExpectedExposure histories flattens = .error e) (hlookup : e.kind = .lookup) :
    Unticketed flattens := by
  rcases bind_error h with hgather | ⟨gathered, -, h⟩
  · exact absurd hlookup (gatherExposure_error hgather)
  rcases bind_error h with hremoved | ⟨removed, -, h⟩
  · exact flattenRemoved_error hlookup hremoved
  · cases h

theorem rawMatching_error {events : List ExecutionEventRecord} {e : PyError}
    (h : rawMatching events = .error e) : e.kind ≠ .lookup := by
  unfold rawMatching at h
  split at h
  · cases h
  · exact intsAt_error h

/-- Where a look-up error comes from: a call raised it, or an open flatten names no ticket. -/
def LookedUp (past : Past) (e : PyError) : Prop :=
  e.kind = .lookup → (∃ c, ⟨c, .error e⟩ ∈ past)
    ∨ ∃ environment canonicalSymbol flattens,
      ⟨.occurrenceHistories environment canonicalSymbol, .ok flattens⟩ ∈ past
        ∧ Unticketed flattens

/-- A program whose look-up errors come from there. -/
abbrev LooksUp (past : Past) {α : Type} (p : Pass α) : Prop :=
  Fails Discipline.free.protocol past p LookedUp

variable {α β : Type}

theorem looksUp_ask {c : Call} : LooksUp past (ask c) := by
  refine Fails.perform trivial ?_
  rintro e past' ⟨-, rfl⟩ -
  exact .inl ⟨c, List.mem_cons_self ..⟩

theorem looksUp_lift {x : Except PyError α} (h : ∀ e, x = .error e → e.kind ≠ .lookup) :
    LooksUp past (lift x) :=
  Fails.ofExcept.mpr fun e he hlookup => absurd hlookup (h e he)

theorem looksUp_orFailed {read : Pass (List α)} (h : LooksUp past read) :
    LooksUp past (orFailed read) := by
  refine Fails.rescue (Fails.bind (Fails.mono h fun past' e he => ?_) fun _ _ => Fails.ret)
  split
  · exact Fails.ret
  · exact Fails.raise.mpr he

theorem looksUp_tripUnlessHalted {reasonCodes : List ReasonCode} {trippedBy : String}
    {now : UtcDatetime} {detail : Option String} :
    LooksUp past (tripUnlessHalted reasonCodes trippedBy now detail) := by
  refine Fails.bind looksUp_ask fun past' killSwitch => ?_
  split
  · exact Fails.ret
  split
  · exact Fails.raise.mpr fun h => by cases h
  · exact looksUp_ask

/-- **Going through a request looks up nothing that is not there.** -/
theorem looksUp_reconcileRequest {exposure : DerivedExposure} {positions : List PositionState}
    {status : ReconciliationStatus} {now : UtcDatetime}
    {history : Uuid × List ExecutionEventRecord} :
    LooksUp past (reconcileRequest exposure positions status now history) := by
  obtain ⟨r, events⟩ := history
  unfold reconcileRequest
  dsimp only
  split
  · exact Fails.ret
  rename_i hgo
  simp only [not_or, Bool.not_eq_true] at hgo
  refine Fails.bind (looksUp_lift fun e he => rawMatching_error he) fun past₁ matching => ?_
  refine Fails.bind (looksUp_lift fun e he => ?_) fun past₂ issues => ?_
  · -- every attributed ticket is open by now
    obtain ⟨t, ht, hnone⟩ := verifyProtectiveStops_error he
    have hopen := List.any_eq_false.mp hgo.2.2 t ht
    obtain ⟨p, hp, hpt⟩ := List.mem_map.mp (by simpa using hopen)
    exact absurd hpt (hnone p hp)
  refine Fails.bind ?_ fun past₃ _ =>
    Fails.bind (Fails.bind looksUp_ask fun _ _ => Fails.ret) fun past₄ _ => Fails.ret
  unfold tripOnIssues
  split
  · exact Fails.ret
  · exact looksUp_tripUnlessHalted

end

theorem looksUp_observe {environment : Environment} : LooksUp past (self.observe environment) := by
  refine Fails.bind ?_ fun _ observation => Fails.bind looksUp_ask fun _ _ => Fails.ret
  exact Fails.bind looksUp_ask fun _ _ => Fails.bind looksUp_ask fun _ _ =>
    Fails.bind looksUp_ask fun _ _ => Fails.bind looksUp_ask fun _ _ =>
    Fails.bind (looksUp_orFailed looksUp_ask) fun _ _ =>
    Fails.bind (looksUp_orFailed looksUp_ask) fun _ _ =>
    Fails.bind looksUp_ask fun _ _ => Fails.ret

theorem looksUp_reconcile {expectation : ExpectedState} {now : UtcDatetime} :
    LooksUp past (reconcile expectation now) := by
  refine Fails.bind looksUp_ask fun _ latest => ?_
  split
  · exact Fails.ret
  split
  · exact Fails.ret
  split
  · exact Fails.ret
  refine Fails.bind looksUp_ask fun _ spec => ?_
  split
  · exact Fails.ret
  · exact Fails.bind looksUp_ask fun _ _ => Fails.bind looksUp_ask fun _ _ => Fails.ret

theorem looksUp_readBook : LooksUp past self.readBook := by
  refine Fails.bind looksUp_ask fun past₁ candidates => ?_
  split
  · exact Fails.ret
  refine Fails.bind (Fails.collect fun _ _ => Fails.bind looksUp_ask fun _ _ => Fails.ret)
    fun past₂ histories => ?_
  split
  · exact Fails.ret
  refine Conforms.next (fun flattens => ?_) ?_
  · refine Fails.bind (Fails.ofExcept.mpr fun e he hlookup => ?_) fun past₃ exposure =>
      Fails.bind looksUp_ask fun _ _ => Fails.bind looksUp_observe fun _ _ =>
      Fails.bind looksUp_reconcile fun _ _ => Fails.ret
    exact .inr ⟨_, _, flattens, List.mem_cons_self .., deriveExpectedExposure_error he hlookup⟩
  · rintro e _ ⟨⟩ -
    exact .inl ⟨_, List.mem_cons_self ..⟩

theorem looksUp_reconcileOnce : LooksUp past self.reconcileOnce := by
  rw [reconcileOnce_eq]
  refine Fails.bind looksUp_readBook fun past₁ book => ?_
  split
  · exact Fails.ret
  · unfold recordProven
    split
    · exact Fails.ret
    · exact Fails.collect fun _ _ => looksUp_reconcileRequest

end Crumblr

namespace Crumblr

open ExecutionOrchestrator

/-- A pass, answered to its end. -/
abbrev ExecutionOrchestrator.reconciling [Externals] (self : ExecutionOrchestrator)
    (killSwitch : KillSwitch) (answer : Past → (c : Call) → Except PyError c.Answer) :
    Past × Except PyError (List ReconciliationAttemptOutcome) :=
  self.reconcileOnce.answered (surrounded killSwitch answer) []

/-- Its reading half. -/
abbrev ExecutionOrchestrator.reading [Externals] (self : ExecutionOrchestrator)
    (killSwitch : KillSwitch) (answer : Past → (c : Call) → Except PyError c.Answer) :
    Past × Except PyError (Option Book) :=
  self.readBook.answered (surrounded killSwitch answer) []

/-- What holds of a pass and the book it went by. -/
structure Book.Recorded (b : Book) (killSwitch : KillSwitch) (past : Past)
    (result : Except PyError (List ReconciliationAttemptOutcome)) : Prop where
  once : (reconciledIn past).Nodup
  proven : ∀ r ∈ reconciledIn past, b.Proven r
  halted : ∀ r ∈ reconciledIn past, b.Unprotected r →
    (switchAfter killSwitch past).isHalted = true
  complete : ∀ outcomes, result = .ok outcomes → ∀ r, b.Proven r → r ∈ reconciledIn past

section

variable [Externals] {self : ExecutionOrchestrator} {killSwitch : KillSwitch}
  {answer : Past → (c : Call) → Except PyError c.Answer} {past : Past}

omit [Externals] in
/-- Where nothing is recorded, everything recorded was allowed. -/
theorem allowedBy_of_nothing {b : Book} (h : reconciledIn past = []) :
    AllowedBy (recordDiscipline b) past := by
  induction past with
  | nil => trivial
  | cons entry past ih =>
      obtain ⟨c, a⟩ := entry
      cases c with
      | append e =>
          rw [reconciledIn] at h
          split at h
          · cases h
          · rename_i ht
            exact ⟨fun hrec => absurd hrec ht, ih h⟩
      | _ => exact ⟨trivial, ih h⟩

variable (self killSwitch answer) in
theorem readOnce_reading : ReadOnce (self.reading killSwitch answer).1
    (self.reading killSwitch answer).2 :=
  (Conforms.allowed (fun past c => surrounded_answers past c)
    (show AllowedBy storeDiscipline [] from trivial) conforms_readBook).2

theorem reconciling_eq : self.reconciling killSwitch answer =
    match self.reading killSwitch answer with
    | (past, .ok none) => (past, .ok [])
    | (past, .ok (some b)) => (recordProven b).answered (surrounded killSwitch answer) past
    | (past, .error e) => (past, .error e) := by
  unfold reconciling reading
  rw [reconcileOnce_eq, Prog.answered_bind]
  rcases self.readBook.answered (surrounded killSwitch answer) [] with ⟨past, e | book⟩
  · rfl
  · cases book <;> rfl

/-- **Only what is accounted for is recorded as reconciled**, whatever the histories, the broker
and the store say. A pass records nothing until it has read the book. It then records each request
once at most, and exactly those that are accounted for, if it comes to its end; and whichever it
records, a position under its tickets without the stop it should have leaves the switch halted.
No look-up fails, unless a call fails so or a flatten is on record without its tickets. -/
theorem reconciled_is_proven :
    (∀ past b, self.reading killSwitch answer = (past, .ok (some b)) →
        b.Recorded killSwitch (self.reconciling killSwitch answer).1
          (self.reconciling killSwitch answer).2)
      ∧ ((∀ past b, self.reading killSwitch answer ≠ (past, .ok (some b))) →
        reconciledIn (self.reconciling killSwitch answer).1 = [])
      ∧ ∀ e, (self.reconciling killSwitch answer).2 = .error e →
        LookedUp (self.reconciling killSwitch answer).1 e := by
  refine ⟨fun past b hread => ?_, fun hnone => ?_, ?_⟩
  · obtain ⟨hnothing, hdistinct⟩ := readOnce_reading self killSwitch answer
    rw [hread] at hnothing hdistinct
    have hby : AnsweredBy (surrounded killSwitch answer) (self.reconciling killSwitch answer).1 :=
      Prog.answeredBy _ trivial
    have hrun : self.reconciling killSwitch answer
        = (recordProven b).answered (surrounded killSwitch answer) past := by
      rw [reconciling_eq, hread]
    obtain ⟨hallowed, hcomplete⟩ := Conforms.allowed
      (fun past c => show (recordDiscipline b).answers c (surrounded killSwitch answer past c)
        from trivial)
      (allowedBy_of_nothing hnothing) (leads_recordProven (hdistinct b rfl) hnothing)
    rw [← hrun] at hallowed hcomplete
    obtain ⟨honce, hall⟩ := allowed_recorded hallowed
    exact ⟨honce, fun r hr => (hall r hr).1, fun r hr hun => halted_of_seen hby ((hall r hr).2 hun),
      hcomplete⟩
  · have hreading : reconciledIn (self.reading killSwitch answer).1 = [] :=
      (readOnce_reading self killSwitch answer).nothing
    rw [reconciling_eq]
    split
    · rename_i past heq
      rwa [heq] at hreading
    · rename_i past b heq
      exact absurd heq (hnone past b)
    · rename_i past e heq
      rwa [heq] at hreading
  · exact Conforms.answered (surrounded killSwitch answer) looksUp_reconcileOnce

end

end Crumblr

namespace Crumblr

open ExecutionOrchestrator

namespace Sample

/-- The answers of a world that nobody else changes. -/
def answersOf (w : World) (o : Oracle) (past : Past) (c : Call) : Except PyError c.Answer :=
  ((past.foldr (fun entry w => (w.serve o 0 entry.1).2) w).serve o 0 c).1

/-- A position under a ticket, with a stop or without. -/
def opened (ticket : Int) (stop : Option Price) : PositionState :=
  { overdue with ticket, stopLossPrice := stop }

/-- What a request has on record once its order was found under a ticket. -/
def foundOrder (orderRequestId : Uuid) (ticket : Int) : List ExecutionEventRecord :=
  [⟨orderRequestId, .submissionStarted, noon, [], none,
      some (.obj [("stop_loss_price", .decimal ⟨109900, -5⟩)])⟩,
    ⟨orderRequestId, .ambiguousOutcomeResolved, noon, [], none,
      some (.obj [("submitted", .bool true), ("matching_tickets", .list [.int ticket])])⟩]

/-- Two orders are open, and the first is on record as reconciled. -/
def reconciledWorld (flattenRequests : List FlattenRequest) (flattenEvents : List FlattenEventRecord) :
    World :=
  { world with
    db := { world.db with
      executionRequests :=
        [⟨⟨"first"⟩, capsule.capsuleId, ⟨"intent"⟩, "fingerprint", "w", noon⟩,
          ⟨⟨"second"⟩, capsule.capsuleId, ⟨"intent"⟩, "fingerprint", "w", noon⟩]
      executionEvents := foundOrder ⟨"first"⟩ 7 ++ foundOrder ⟨"second"⟩ 8
        ++ [⟨⟨"first"⟩, .reconciled, noon, [], none, none⟩]
      flattenRequests
      flattenEvents } }

/-- The broker shows these positions. -/
def shows (positions : List PositionState) : Oracle :=
  ⟨{ replies with positions }, none, .reached⟩

/-- A flatten that was committed to, with an instruction that names no ticket. -/
def unticketed : World :=
  reconciledWorld
    [{ flattenRequestId := ⟨"flatten"⟩, environment := .paper, canonicalSymbol := "EUR/USD"
       tradingDay := Sessions.tradingDay noon, sessionCloseUtc := noon, flattenDeadlineUtc := noon
       fingerprint := "fingerprint", claimedBy := "w", claimedAtUtc := noon }]
    [⟨⟨"flatten"⟩, .flattenSubmissionStarted, noon, [], none,
      some (.obj [("instructions", .list [.obj []])])⟩]

/-- The pass went by a matching book in which the first request's position has no stop. -/
def readsStopless : Except PyError (Option Book) → Bool
  | .ok (some b) => decide (b.status = .matched) && decide (7 ∈ b.attributed ⟨"first"⟩)
      && (positionByTicket b.positions 7).any fun p => p.stopLossPrice.isNone
  | _ => false

/-- Such a reading has the first request unprotected. -/
theorem reading_of_stopless {x : Past × Except PyError (Option Book)}
    (h : readsStopless x.2 = true) :
    ∃ past b, x = (past, .ok (some b)) ∧ b.Unprotected ⟨"first"⟩ := by
  obtain ⟨past, result⟩ := x
  cases result with
  | error e => cases h
  | ok book =>
      cases book with
      | none => cases h
      | some b =>
          simp only [readsStopless, Bool.and_eq_true, decide_eq_true_eq] at h
          obtain ⟨⟨-, hmem⟩, hstop⟩ := h
          obtain ⟨p, hp, hnone⟩ := (Option.any_eq_true _ _).mp hstop
          refine ⟨past, b, rfl, 7, hmem, p, hp, ?_⟩
          rintro ⟨expected, observed, -, hobserved, -⟩
          rw [Option.isNone_iff_eq_none.mp hnone] at hobserved
          cases hobserved

end Sample

open Sample in
/-- **A stop that is lost later is not missed.** The first request was recorded as reconciled. Its
position now has no stop; the pass reads that, says the book matches, and leaves the switch as it
was. And a commitment without a ticket ends the pass with a failed look-up. -/
theorem lost_stop_left_alone :
    (¬ ∀ (self : ExecutionOrchestrator) (killSwitch : KillSwitch)
        (answer : Past → (c : Call) → Except PyError c.Answer) (past : Past) (b : Book),
      self.reading killSwitch answer = (past, .ok (some b)) →
      (self.reconciling killSwitch answer).2.isOk = true →
      ∀ r, b.Unprotected r →
        (switchAfter killSwitch (self.reconciling killSwitch answer).1).isHalted = true)
      ∧ ¬ ∀ (self : ExecutionOrchestrator) (killSwitch : KillSwitch)
        (answer : Past → (c : Call) → Except PyError c.Answer) (e : PyError),
      (self.reconciling killSwitch answer).2 = .error e → e.kind = .lookup →
        ∃ c, ⟨c, .error e⟩ ∈ (self.reconciling killSwitch answer).1 := by
  constructor
  · intro h
    let answer := answersOf (reconciledWorld [] [])
      (shows [opened 7 none, opened 8 (some (price 109900))])
    have hread : readsStopless (worker.reading ⟨.running, []⟩ answer).2 = true := by
      decide +kernel
    have hend : ((worker.reconciling ⟨.running, []⟩ answer).2.isOk
        && !(switchAfter ⟨.running, []⟩ (worker.reconciling ⟨.running, []⟩ answer).1).isHalted)
          = true := by
      decide +kernel
    obtain ⟨hok, hrunning⟩ := Bool.and_eq_true_iff.mp hend
    obtain ⟨past, b, hreading, hb⟩ := reading_of_stopless hread
    rw [h worker _ answer past b hreading hok ⟨"first"⟩ hb] at hrunning
    cases hrunning
  · intro h
    have hend : (match worker.reconciling ⟨.running, []⟩ (answersOf unticketed (shows [])) with
        | (past, .error e) => decide (e.kind = .lookup)
          && past.all fun entry => entry.2.isOk
        | _ => false) = true := by
      decide +kernel
    split at hend
    · rename_i past e heq
      obtain ⟨hlookup, hanswered⟩ := Bool.and_eq_true_iff.mp hend
      obtain ⟨c, hc⟩ := h worker _ _ e (congrArg Prod.snd heq) (of_decide_eq_true hlookup)
      rw [heq] at hc
      cases List.all_eq_true.mp hanswered _ hc
    · cases hend

end Crumblr
