import Crumblr.Proof.Authorization
import Crumblr.Proof.ExpectedBook
import Crumblr.Proof.Undetermined

/-!
# What a flatten is settled on

A flatten plans from the observation the pass recorded, closes what the commitment before it
named, and is settled on the observation after. Positions that could not be read are recorded
as none, so a failed read settles a flatten as well as an empty book does.
-/

namespace Crumblr

open ExecutionOrchestrator

variable [Externals]

/-! ## The discipline -/

/-- The pass goes on from these instructions: an occurrence of its own market, as it read it,
was committed to them. -/
structure Resumes (o : ExecutionOrchestrator) (flattenRequestId : Uuid)
    (instructions : List FlattenInstruction) (past : Past) : Prop where
  occurrence : ∃ day, flattenRequestId
    = flattenRequestIdFor o.config.environment o.canonicalSymbol day
  committed : ∃ events last, ⟨.flattenEventsFor flattenRequestId, .ok events⟩ ∈ past
    ∧ last ∈ events ∧ last.eventType = .flattenSubmissionStarted
    ∧ committedInstructions last.payload = .ok instructions

variable {self : ExecutionOrchestrator} {past past' : Past} {flattenRequestId : Uuid}
  {instructions : List FlattenInstruction} {observation : BrokerStateObservation}

theorem Resumes.mono (h : Resumes self flattenRequestId instructions past) (hs : past ⊆ past') :
    Resumes self flattenRequestId instructions past' := by
  obtain ⟨events, last, hread, hlast⟩ := h.committed
  exact ⟨h.occurrence, events, last, hs hread, hlast⟩

/-- The commitment names the observed positions, each to be closed. -/
def Planned (self : ExecutionOrchestrator) (observation : BrokerStateObservation)
    (e : FlattenEventRecord) : Prop :=
  ∃ (day : Date) (now : UtcDatetime) (plan : FlattenPlan), e.flattenRequestId
      = flattenRequestIdFor self.config.environment self.canonicalSymbol day
    ∧ plan.instructions = observation.positionStates.map
      (flattenInstruction e.flattenRequestId now self.calendar)
    ∧ e.payload = some plan.dump

/-- The resolution says which of the instructions' tickets are still in the observation, and
nothing else. -/
structure Settles (instructions : List FlattenInstruction) (observation : BrokerStateObservation)
    (e : FlattenEventRecord) : Prop where
  reasonCodes : e.reasonCodes = []
  detail : e.detail = none
  payload : e.payload = some (flattenOutcomePayload (instructions.map (·.ticket))
    ((stillOpen instructions observation.positionStates).map (·.ticket))
    (decide (stillOpen instructions observation.positionStates = [])))

/-- Commitments are planned on the observation recorded last, resolutions and closes judged by it. -/
def flattenDiscipline (self : ExecutionOrchestrator) : Discipline Call Call.Answer PyError where
  allows := fun past c => match c with
    | .appendFlatten e =>
        (e.eventType = .flattenSubmissionStarted → ∃ observation,
            Observed self.config.environment self.canonicalSymbol observation past
              ∧ Planned self observation e)
          ∧ (e.eventType = .flattenOutcomeResolved → ∃ observation instructions,
            Observed self.config.environment self.canonicalSymbol observation past
              ∧ Resumes self e.flattenRequestId instructions past
              ∧ Settles instructions observation e)
    | .closePosition instruction => ∃ flattenRequestId instructions,
        Resumes self flattenRequestId instructions past ∧ instruction ∈ instructions
    | _ => True
  answers := mayAnswer

/-- The program plans, closes and settles flattens so. -/
abbrev Flattens (self : ExecutionOrchestrator) (past : Past) {α : Type} (p : Pass α) : Prop :=
  Leads (flattenDiscipline self).protocol past p fun _ _ => True

variable {α β : Type} {topics : List Topic} {now : UtcDatetime}

/-- What is about no occurrence is free. -/
theorem flattenDiscipline_lets (h : ∀ t ∈ topics, t ≠ .flattening ∧ t ≠ .closing) :
    Lets (flattenDiscipline self) topics := by
  intro past c hc
  have ht := h _ hc.mem
  cases c <;> first | trivial | exact absurd rfl ht.1 | exact absurd rfl ht.2

theorem flattens_nothing {p : Pass α} (hp : Only (About topics) p)
    (h : ∀ t ∈ topics, t ≠ .flattening ∧ t ≠ .closing) : Flattens self past p :=
  Leads.frame hp (fun _ _ hc => flattenDiscipline_lets h _ _ hc) (fun _ _ _ _ _ => trivial) trivial

/-- A part about no occurrence, and then the rest. -/
theorem flattens_after {p : Pass α} {f : α → Pass β} (hp : Only (About topics) p)
    (h : ∀ t ∈ topics, t ≠ .flattening ∧ t ≠ .closing)
    (hf : ∀ past' a, past <:+ past' → Flattens self past' (f a)) :
    Flattens self past (Prog.bind p f) :=
  Leads.seq (Leads.suffix (flattens_nothing hp h)) fun past' a hs => hf past' a hs.1

/-- A part that leaves an observation standing, and then the rest. -/
theorem flattens_standing {p : Pass α} {f : α → Pass β} (hp : Only (About topics) p)
    (h : ∀ t ∈ topics, t ≠ .flattening ∧ t ≠ .closing)
    (hobs : Observed self.config.environment self.canonicalSymbol observation past)
    (hstand : ∀ past' c (a : Except PyError c.Answer), About topics c →
      Observed self.config.environment self.canonicalSymbol observation past' →
      Observed self.config.environment self.canonicalSymbol observation (⟨c, a⟩ :: past'))
    (hf : ∀ past' a, past <:+ past' →
      Observed self.config.environment self.canonicalSymbol observation past' →
      Flattens self past' (f a)) :
    Flattens self past (Prog.bind p f) := by
  refine Leads.seq (Leads.suffix ((flattenDiscipline_lets h).frame hp ?_ hobs)) ?_
  · exact fun past' c a ho hc => hstand past' c a hc ho
  · exact fun past' a hs => hf past' a hs.1 hs.2

/-- One append, and what it leaves in the past. -/
theorem flattens_append {f : Uuid} {eventType : FlattenEventType} {reasonCodes : List ReasonCode}
    {detail : Option String} {payload : Option Json}
    (hc : (flattenDiscipline self).allows past
      (.appendFlatten ⟨f, eventType, now, reasonCodes, detail, payload⟩)) :
    Leads (flattenDiscipline self).protocol past
      (appendFlatten f eventType now reasonCodes detail payload) fun past' _ =>
        ∃ a, past' = ⟨.appendFlatten ⟨f, eventType, now, reasonCodes, detail, payload⟩, .ok a⟩
          :: past :=
  Leads.next hc fun a _ => Leads.ret.mpr ⟨a, rfl⟩

/-! ## Settling -/

theorem flattens_settleFlatten {attempted : Bool}
    (hobs : Observed self.config.environment self.canonicalSymbol observation past)
    (hresumes : Resumes self flattenRequestId instructions past) :
    Flattens self past (settleFlatten flattenRequestId instructions
      (stillOpen instructions observation.positionStates) attempted now) := by
  have hsettles : ∀ payload, payload = flattenOutcomePayload (instructions.map (·.ticket))
      ((stillOpen instructions observation.positionStates).map (·.ticket))
      (decide (stillOpen instructions observation.positionStates = [])) →
      (flattenDiscipline self).allows past (.appendFlatten
        ⟨flattenRequestId, .flattenOutcomeResolved, now, [], none, some payload⟩) := by
    rintro payload rfl
    refine ⟨fun h => ?_, fun _ => ⟨observation, instructions, hobs, hresumes, rfl, rfl, rfl⟩⟩
    cases h
  unfold settleFlatten
  dsimp only
  split
  · rename_i hnil
    refine Leads.seq (flattens_append (hsettles _ ?_)) fun _ _ _ => Leads.ret.mpr trivial
    rw [hnil]
    rfl
  rename_i hopen
  split
  · exact flattens_after (only_tripUnlessHalted ..) (by decide) fun _ _ _ => Leads.ret.mpr trivial
  · refine Leads.seq (flattens_append (hsettles _ ?_)) fun _ _ _ => Leads.ret.mpr trivial
    rw [decide_eq_false hopen]

/-- A close that was committed to leaves what was observed and resumed. -/
theorem flattens_tryClose {instruction : FlattenInstruction} (hmem : instruction ∈ instructions)
    (hresumes : Resumes self flattenRequestId instructions past) :
    Leads (flattenDiscipline self).protocol past (tryClose instruction) fun past' _ =>
      Resumes self flattenRequestId instructions past' := by
  have hclose : Conforms (flattenDiscipline self).protocol past (ask (.closePosition instruction))
      fun past' a => past' = ⟨.closePosition instruction, a⟩ :: past :=
    conforms_ask ⟨flattenRequestId, instructions, hresumes, hmem⟩
  refine Leads.rescue (Conforms.bind.mpr (Conforms.mono ?_ hclose))
  rintro past' a rfl
  have hkept := hresumes.mono (List.subset_cons_self ⟨.closePosition instruction, a⟩ past)
  cases a with
  | ok result => exact hkept
  | error e => exact Leads.ret.mpr hkept

theorem flattens_attemptAndResolveFlatten
    (hobs : Observed self.config.environment self.canonicalSymbol observation past)
    (hresumes : Resumes self flattenRequestId instructions past) :
    Flattens self past (self.attemptAndResolveFlatten flattenRequestId observation.positionStates
      instructions now) := by
  unfold attemptAndResolveFlatten
  dsimp only
  split
  swap
  · exact flattens_settleFlatten hobs hresumes
  refine Leads.seq (Leads.forEach (I := Resumes self flattenRequestId instructions)
    (fun instruction hmem past' hresumes' => ?_) hresumes) fun past₁ _ hresumes₁ => ?_
  · exact flattens_tryClose (List.mem_filter.mp hmem).1 hresumes'
  refine Leads.seq (Leads.suffix (leads_observe self (flattenDiscipline_lets (by decide)))) ?_
  rintro past₂ observation₂ ⟨hsuffix, hobs₂⟩
  refine Leads.next trivial fun now₂ _ => ?_
  exact flattens_settleFlatten (hobs₂.blind trivial)
    (hresumes₁.mono fun _ he => List.mem_cons_of_mem _ (hsuffix.subset he))

theorem flattens_resolveFlattenOutcome {events : List FlattenEventRecord}
    (hobs : Observed self.config.environment self.canonicalSymbol observation past)
    (hday : ∃ day, flattenRequestId
      = flattenRequestIdFor self.config.environment self.canonicalSymbol day)
    (hread : ⟨.flattenEventsFor flattenRequestId, .ok events⟩ ∈ past) :
    Flattens self past (self.resolveFlattenOutcome flattenRequestId observation.positionStates
      events now) := by
  unfold resolveFlattenOutcome
  split
  · exact Leads.ret.mpr trivial
  rename_i last hlast
  split
  · exact Leads.ret.mpr trivial
  rename_i hstarted
  refine leads_lift fun instructions hinstructions => ?_
  have hresumes : Resumes self flattenRequestId instructions past :=
    ⟨hday, events, last, hread, List.mem_of_getLast? hlast, Decidable.not_not.mp hstarted,
      hinstructions⟩
  exact Leads.seq (flattens_attemptAndResolveFlatten hobs hresumes) fun _ _ _ => Leads.ret.mpr trivial

/-! ## Committing -/

/-- An event that neither commits nor resolves is free. -/
theorem flattens_event {f : Uuid} {eventType : FlattenEventType} {reasonCodes : List ReasonCode}
    {detail : Option String} {payload : Option Json} (hstarted : eventType ≠ .flattenSubmissionStarted)
    (hresolved : eventType ≠ .flattenOutcomeResolved) :
    (flattenDiscipline self).allows past
      (.appendFlatten ⟨f, eventType, now, reasonCodes, detail, payload⟩) :=
  ⟨fun h => absurd h hstarted, fun h => absurd h hresolved⟩

theorem flattens_commitFlatten {m : FlattenMoment} {pastDeadline crossedWeeklyClose : Bool}
    (hm : m.flattenRequestId
      = flattenRequestIdFor self.config.environment self.canonicalSymbol m.day)
    (hobs : Observed self.config.environment self.canonicalSymbol observation past) :
    Flattens self past (self.commitFlatten m observation pastDeadline crossedWeeklyClose) := by
  refine Leads.seq (flattens_append (flattens_event (by decide) (by decide))) ?_
  rintro past₁ _ ⟨_, rfl⟩
  refine leads_lift fun account _ => flattens_standing (only_reconcile ..) (by decide)
    (hobs.blind trivial) (fun _ _ _ hc ho => ho.judging hc) fun past₂ result _ hobs₂ => ?_
  refine Leads.next trivial fun killSwitch _ => ?_
  dsimp only
  split
  · exact Leads.seq (flattens_append (flattens_event (by decide) (by decide)))
      fun _ _ _ => Leads.ret.mpr trivial
  refine Leads.seq (flattens_append (flattens_event (by decide) (by decide))) ?_
  rintro past₃ _ ⟨_, rfl⟩
  have hobs₃ : Observed self.config.environment self.canonicalSymbol observation
      (⟨.killSwitch, .ok killSwitch⟩ :: past₂) := hobs₂.blind trivial
  refine leads_lift fun plan hplan => Leads.seq (flattens_append ⟨fun _ => ?_, fun h => ?_⟩)
    fun _ _ _ => Leads.ret.mpr trivial
  · exact ⟨observation, hobs₃.blind trivial, m.day, m.now, plan, hm,
      buildFlattenPlan_instructions hplan, rfl⟩
  · cases h

theorem flattenMoment_id {m : FlattenMoment} (h : self.flattenMoment now = some m) :
    m.flattenRequestId = flattenRequestIdFor self.config.environment self.canonicalSymbol m.day := by
  unfold flattenMoment at h
  split at h
  · cases h
  · obtain ⟨close, -, rfl⟩ := Option.map_eq_some_iff.mp h
    rfl

theorem flattens_flattenOnce : Flattens self past self.flattenOnce := by
  refine Leads.next trivial fun now _ => ?_
  split
  · exact Leads.ret.mpr trivial
  rename_i m hmoment
  have hm := flattenMoment_id hmoment
  have hhalts : ∀ past' c (a : Except PyError c.Answer) o, About [.halting] c →
      Observed self.config.environment self.canonicalSymbol o past' →
      Observed self.config.environment self.canonicalSymbol o (⟨c, a⟩ :: past') :=
    fun _ c _ _ hc ho => ho.blind (About.blind (by decide) c hc)
  refine Leads.next trivial fun priorEvents _ => ?_
  have hobserve : ∀ past, Leads (flattenDiscipline self).protocol past
      (self.observe self.config.environment) fun past' observation =>
        Observed self.config.environment self.canonicalSymbol observation past' :=
    fun past => leads_observe self (flattenDiscipline_lets (by decide))
  split
  · rename_i last hlast
    unfold flattenClaimed
    split
    · exact Leads.ret.mpr trivial
    refine Leads.seq (Leads.suffix (hobserve _)) ?_
    rintro past₁ observation ⟨hsuffix₁, hobs₁⟩
    refine flattens_standing (only_tripOvernightExposure ..) (by decide) hobs₁
      (fun _ _ _ => hhalts _ _ _ _) fun past₂ _ hsuffix₂ hobs₂ => ?_
    refine flattens_resolveFlattenOutcome hobs₂ ⟨m.day, hm⟩ ?_
    exact (hsuffix₁.trans hsuffix₂).subset (List.mem_cons_self ..)
  · refine Leads.seq (hobserve _) fun past₁ observation hobs₁ => ?_
    refine flattens_standing (only_tripUnlessBookKnown ..) (by decide) hobs₁
      (fun _ _ _ => hhalts _ _ _ _) fun past₂ _ _ hobs₂ => ?_
    dsimp only
    split
    · exact Leads.ret.mpr trivial
    refine Leads.next trivial fun claimed _ => ?_
    refine flattens_standing (only_tripOvernightExposure ..) (by decide) (hobs₂.blind trivial)
      (fun _ _ _ => hhalts _ _ _ _) fun past₃ _ _ hobs₃ => ?_
    cases claimed with
    | false =>
        refine Leads.next trivial fun events _ => ?_
        exact flattens_resolveFlattenOutcome (hobs₃.blind trivial) ⟨m.day, hm⟩
          (List.mem_cons_self ..)
    | true =>
        exact Leads.seq (flattens_commitFlatten hm hobs₃) fun _ _ _ => Leads.ret.mpr trivial

theorem flattens_runOnce : Flattens self past self.runOnce := by
  unfold runOnce
  refine Leads.seq flattens_flattenOnce fun past₁ _ _ =>
    Leads.next trivial fun now _ => Leads.next trivial fun capsules _ => ?_
  refine flattens_after (Only.collect fun capsule _ => ofChain_process ..) (by decide)
    fun past₂ outcomes _ => ?_
  exact flattens_after (only_reconcileOnce _) (by decide) fun _ _ _ => Leads.ret.mpr trivial

/-- **Every pass plans, closes and settles flattens so.** -/
theorem program_flattens (q : Task) :
    Conforms (flattenDiscipline q.orchestrator).protocol [] q.program fun _ _ => True := by
  have hflattens : Flattens q.orchestrator [] q.program := by
    unfold Task.program
    split
    · exact Leads.seq flattens_runOnce fun _ _ _ => Leads.ret.mpr trivial
    · exact flattens_after (ofRecords_resolvePendingOnce _) (by decide)
        fun _ _ _ => Leads.ret.mpr trivial
    · exact flattens_after (only_reconcileOnce _) (by decide) fun _ _ _ => Leads.ret.mpr trivial
  exact Conforms.mono (fun _ _ _ => trivial) hflattens

/-! ## What a resolution is evidence of -/

/-- The observation shows that no such position is open. -/
def ShowsClosed (observation : BrokerStateObservation) (ticket : Int) : Prop :=
  observation.account.positionSetState = .complete
    ∧ ticket ∉ observation.positionStates.map (·.ticket)

/-- What is recorded of a flatten, the observation shows. -/
structure OnEvidence (observation : BrokerStateObservation) (e : FlattenEventRecord) : Prop where
  /-- It is called flattened only on a complete read without the targets. -/
  flattened : ∀ payload, e.payload = some payload → payload.get? "flattened" = some (.bool true) →
    observation.account.positionSetState = .complete
      ∧ ∀ targets, payload.intsAt "target_tickets" = .ok targets →
        ∀ t ∈ targets, ShowsClosed observation t
  /-- Tickets are called closed only so. -/
  closed : ∀ payload closed, e.payload = some payload →
    payload.intsAt "closed_tickets" = .ok closed → ∀ t ∈ closed, ShowsClosed observation t
  /-- No other ticket leaves the expected book. -/
  removed : ∀ events one, flattenOccurrence e.flattenRequestId (events ++ [e]) = .ok one →
    ∀ t ∈ one.1, ShowsClosed observation t

section

omit [Externals]

variable {targets stillOpenTickets : List Int} {flattened : Bool}

theorem flattenOutcomePayload_flattened :
    (flattenOutcomePayload targets stillOpenTickets flattened).get? "flattened"
      = some (.bool flattened) := by
  simp [flattenOutcomePayload]

theorem flattenOutcomePayload_targets :
    (flattenOutcomePayload targets stillOpenTickets flattened).intsAt "target_tickets"
      = .ok targets := by
  have hget : (flattenOutcomePayload targets stillOpenTickets flattened).get? "target_tickets"
      = some (.list (targets.map .int)) := by
    simp [flattenOutcomePayload]
  rw [Json.intsAt, hget]
  exact mapM_toInt targets

theorem flattenOutcomePayload_closed :
    (flattenOutcomePayload targets stillOpenTickets flattened).intsAt "closed_tickets"
      = .ok (targets.filter fun t => t ∉ stillOpenTickets) := by
  have hget : (flattenOutcomePayload targets stillOpenTickets flattened).get? "closed_tickets"
      = some (.list ((targets.filter fun t => t ∉ stillOpenTickets).map .int)) := by
    simp [flattenOutcomePayload]
  rw [Json.intsAt, hget]
  exact mapM_toInt _

/-- A target is still open as long as it is observed. -/
theorem mem_stillOpen_tickets {positions : List PositionState} {t : Int} :
    t ∈ (stillOpen instructions positions).map (·.ticket)
      ↔ t ∈ instructions.map (·.ticket) ∧ t ∈ positions.map (·.ticket) := by
  simp only [stillOpen, List.mem_map, List.mem_filter, List.any_eq_true, decide_eq_true_eq]
  constructor
  · rintro ⟨i, ⟨hi, p, hp, hticket⟩, rfl⟩
    exact ⟨⟨i, hi, rfl⟩, p, hp, hticket⟩
  · rintro ⟨⟨i, hi, rfl⟩, p, hp, hticket⟩
    exact ⟨i, ⟨hi, p, hp, hticket⟩, rfl⟩

/-- What the outcome names as closed is a target that was not observed. -/
theorem Settles.closed {e : FlattenEventRecord} {payload : Json} {closed : List Int}
    (h : Settles instructions observation e) (hp : e.payload = some payload)
    (hc : payload.intsAt "closed_tickets" = .ok closed) {t : Int} (ht : t ∈ closed) :
    t ∉ observation.positionStates.map (·.ticket) := by
  obtain rfl := Option.some.inj (hp.symm.trans h.payload)
  rw [flattenOutcomePayload_closed] at hc
  cases hc
  obtain ⟨htarget, hopen⟩ := List.mem_filter.mp ht
  intro hobserved
  exact of_decide_eq_true hopen (mem_stillOpen_tickets.mpr ⟨htarget, hobserved⟩)

/-- The last resolution of a history is the one that counts. -/
theorem lastFlattenPayload_append {events : List FlattenEventRecord} {e : FlattenEventRecord} :
    lastFlattenPayload e.eventType (events ++ [e]) = e.payload := by
  simp [lastFlattenPayload]

/-- **Of a complete read, what is recorded is shown.** -/
theorem Settles.onEvidence {e : FlattenEventRecord} (h : Settles instructions observation e)
    (he : e.eventType = .flattenOutcomeResolved)
    (hcomplete : observation.account.positionSetState = .complete) :
    OnEvidence observation e where
  flattened := by
    intro payload hp hflattened
    refine ⟨hcomplete, fun targets htargets t ht => ⟨hcomplete, fun hobserved => ?_⟩⟩
    obtain rfl := Option.some.inj (hp.symm.trans h.payload)
    rw [flattenOutcomePayload_flattened] at hflattened
    rw [flattenOutcomePayload_targets] at htargets
    cases htargets
    have hnone : stillOpen instructions observation.positionStates = [] :=
      of_decide_eq_true (Json.bool.inj (Option.some.inj hflattened))
    have hopen := mem_stillOpen_tickets.mpr ⟨ht, hobserved⟩
    rw [hnone] at hopen
    cases hopen
  closed := fun payload closed hp hc t ht => ⟨hcomplete, h.closed hp hc ht⟩
  removed := by
    intro events one hone t ht
    obtain ⟨closed, ⟨-, payload, hlast, hclosed⟩, ht⟩ := (flattenOccurrence_closed hone t).mp ht
    rw [← he, lastFlattenPayload_append] at hlast
    exact ⟨hcomplete, h.closed hlast hclosed ht⟩

/-- Of a failed read, every flatten is called flattened. -/
theorem Settles.flattened_of_empty {e : FlattenEventRecord} (h : Settles instructions observation e)
    (hnone : observation.positionStates = []) :
    ∃ payload, e.payload = some payload ∧ payload.get? "flattened" = some (.bool true) := by
  refine ⟨_, h.payload, ?_⟩
  have hclosed : stillOpen instructions observation.positionStates = [] := by
    rw [hnone]
    exact List.filter_eq_nil_iff.mpr fun _ _ => by simp
  rw [flattenOutcomePayload_flattened, decide_eq_true hclosed]

/-- **What is recorded of a flatten is shown exactly by a read that succeeded.** -/
theorem Settles.onEvidence_iff {e : FlattenEventRecord}
    {reading : Except PyError (List PositionState)} (h : Settles instructions observation e)
    (he : e.eventType = .flattenOutcomeResolved)
    (hbook : (observation.positionStates, observation.account.positionSetState)
      = bookOf reading) :
    OnEvidence observation e ↔ ∃ positions, reading = .ok positions := by
  obtain ⟨hpositions, hstate⟩ := Prod.mk.inj hbook
  constructor
  · intro hshown
    cases reading with
    | ok positions => exact ⟨positions, rfl⟩
    | error err =>
        obtain ⟨payload, hp, hflattened⟩ := h.flattened_of_empty hpositions
        have hcomplete := (hshown.flattened payload hp hflattened).1
        rw [hstate] at hcomplete
        cases hcomplete
  · rintro ⟨positions, rfl⟩
    exact h.onEvidence he hstate

end

/-- What was observed of the open positions is the pass's last reading of them. -/
theorem Observed.book {environment : Environment} {canonicalSymbol : String}
    (h : Observed environment canonicalSymbol observation past) :
    ∃ reading, (sight past).positions = some reading
      ∧ (observation.positionStates, observation.account.positionSetState) = bookOf reading := by
  obtain ⟨r, reading, orders, rfl, hreading, hbook, -⟩ := h.reading
  exact ⟨reading, hreading, hbook⟩

/--
**A flatten is resolved on evidence exactly if the read behind it succeeded.** In every state
workers reach, a resolution about to be recorded settles instructions an occurrence of the
market was committed to, on the observation the pass recorded last, which is its last reading
of the open positions. What it says is shown by that observation if the reading succeeded. If
it failed, the flatten is called flattened all the same.
-/
theorem resolved_on_evidence_iff {w : World} {s : Config Nat Task World Call Call.Answer PyError}
    (h : Reachable w s) {i : Nat} {q : Task} {past : Past} {e : FlattenEventRecord}
    {k : Except PyError (Call.appendFlatten e).Answer → Pass Unit}
    (ht : s.threads i = some ⟨q, past, .call (.appendFlatten e) k⟩)
    (he : e.eventType = .flattenOutcomeResolved) :
    ∃ observation reading instructions, (sight past).recorded = some observation
      ∧ (sight past).positions = some reading
      ∧ (observation.positionStates, observation.account.positionSetState) = bookOf reading
      ∧ Resumes q.orchestrator e.flattenRequestId instructions past
      ∧ Settles instructions observation e
      ∧ (OnEvidence observation e ↔ ∃ positions, reading = .ok positions) := by
  obtain ⟨-, hresolves⟩ := reachable_allowed (D := fun q => flattenDiscipline q.orchestrator)
    program_flattens (fun _ => rfl) h ht
  obtain ⟨observation, instructions, hobs, hresumes, hsettles⟩ := hresolves he
  obtain ⟨reading, hreading, hbook⟩ := hobs.book
  exact ⟨observation, reading, instructions, hobs.recorded, hreading, hbook, hresumes, hsettles,
    hsettles.onEvidence_iff he hbook⟩

end Crumblr

/-! ## A flatten that was carried out, and one that was not seen -/

namespace Crumblr

/-- The flatten event worker `i` is about to append. -/
def dueFlatten (s : Config Nat Task World Call Call.Answer PyError) (i : Nat) :
    Option (Task × Past × FlattenEventRecord) :=
  match s.threads i with
  | some ⟨q, past, .call (.appendFlatten e) _⟩ => some (q, past, e)
  | _ => none

theorem dueFlatten_eq_some {s : Config Nat Task World Call Call.Answer PyError} {i : Nat}
    {q : Task} {past : Past} {e : FlattenEventRecord} (h : dueFlatten s i = some (q, past, e)) :
    ∃ k, s.threads i = some ⟨q, past, .call (.appendFlatten e) k⟩ := by
  unfold dueFlatten at h
  split at h
  · rename_i ht
    cases h
    exact ⟨_, ht⟩
  · cases h

namespace Sample

/-- A position from the week before. -/
def overdue : PositionState where
  ticket := 5
  brokerSymbol := "EURUSD"
  side := .buy
  volume := amount 10 (-2)
  openPrice := price 110000
  currentPrice := none
  stopLossPrice := none
  takeProfitPrice := none
  openedAtUtc := noon - days 7
  profit := ⟨0, 0⟩
  swap := ⟨0, 0⟩
  magic := none
  observedAtUtc := noon
  directional := buy_directional

/-- The worker's calls while one position is open. -/
def exposed (p : PositionState) (id : String) (n : Nat) :
    List (Move Nat Task Oracle World.Event) :=
  List.replicate n (.call 0 { calm with replies := { replies with positions := [p], freshId := ⟨id⟩ } })

/-- A pass that commits to closing it, and the beginning of the next. -/
def committing (p : PositionState) : List (Move Nat Task Oracle World.Event) :=
  (.start 0 ⟨worker, .runOnce⟩ :: exposed p "observation" 28)
    ++ [.finish 0, .start 0 ⟨worker, .runOnce⟩]

/-- One pass commits to closing it, and the next reads the open positions so. -/
def flattening (reads : Move Nat Task Oracle World.Event) :
    List (Move Nat Task Oracle World.Event) :=
  committing overdue ++ observing "settled" 6 ++ reads :: served 0 3

/-- The next call records the flatten as resolved, and the positions were read so. -/
def resolvesOn (readable : Bool) (s : Config Nat Task World Call Call.Answer PyError) : Bool :=
  (dueFlatten s 0).any fun due => decide (due.2.2.eventType = .flattenOutcomeResolved)
    && (sight due.2.1).positions.any fun reading => reading.toBool == readable

end Sample

open Sample in
theorem resolved_on_evidence_iff_sample :
    ∃ s q past e k observation, Reachable Sample.world s
      ∧ s.threads 0 = some ⟨q, past, .call (.appendFlatten e) k⟩
      ∧ (sight past).recorded = some observation ∧ OnEvidence observation e := by
  have hrun : (workers.run Machine.unchecked (Machine.idle Sample.world)
      (flattening (.call 0 calm))).any (resolvesOn true) = true := by decide +kernel
  obtain ⟨s, hs, hp⟩ := Machine.Reach.exists_of_run (G := Machine.Always) _ _
    (fun _ _ _ => trivial) hrun
  obtain ⟨⟨q, past, e⟩, hdue, hp⟩ := (Option.any_eq_true _ _).mp hp
  obtain ⟨htype, hread⟩ := Bool.and_eq_true_iff.mp hp
  obtain ⟨k, ht⟩ := dueFlatten_eq_some hdue
  obtain ⟨observation, reading, instructions, hrecorded, hreading, -, -, -, hiff⟩ :=
    resolved_on_evidence_iff hs ht (of_decide_eq_true htype)
  rw [hreading] at hread
  refine ⟨s, q, past, e, k, observation, hs, ht, hrecorded, hiff.mpr ?_⟩
  cases reading with
  | ok positions => exact ⟨positions, rfl⟩
  | error err => cases hread

open Sample in
/-- A flatten is resolved on a read that failed. -/
theorem resolved_on_failed_read :
    ∃ s q past e k observation, Reachable Sample.world s
      ∧ s.threads 0 = some ⟨q, past, .call (.appendFlatten e) k⟩
      ∧ e.eventType = .flattenOutcomeResolved
      ∧ (sight past).recorded = some observation ∧ ¬ OnEvidence observation e := by
  have hrun : (workers.run Machine.unchecked (Machine.idle Sample.world)
      (flattening unreachable)).any (resolvesOn false) = true := by decide +kernel
  obtain ⟨s, hs, hp⟩ := Machine.Reach.exists_of_run (G := Machine.Always) _ _
    (fun _ _ _ => trivial) hrun
  obtain ⟨⟨q, past, e⟩, hdue, hp⟩ := (Option.any_eq_true _ _).mp hp
  obtain ⟨htype, hread⟩ := Bool.and_eq_true_iff.mp hp
  have htype : e.eventType = .flattenOutcomeResolved := of_decide_eq_true htype
  obtain ⟨k, ht⟩ := dueFlatten_eq_some hdue
  obtain ⟨-, hresolves⟩ := reachable_allowed (D := fun q => flattenDiscipline q.orchestrator)
    program_flattens (fun _ => rfl) hs ht
  obtain ⟨observation, instructions, hobs, -, hsettles⟩ := hresolves htype
  obtain ⟨reading, hreading, hbook⟩ := hobs.book
  refine ⟨s, q, past, e, k, observation, hs, ht, htype, hobs.recorded, fun hshown => ?_⟩
  obtain ⟨positions, rfl⟩ := (hsettles.onEvidence_iff htype hbook).mp hshown
  rw [hreading] at hread
  cases hread

end Crumblr
