import Crumblr.Proof.AppendOnce
import Crumblr.Proof.FlattenIsolation
import Crumblr.Proof.PendingResolution
import Crumblr.Proof.Races

/-!
# What a determination says

A pass that resolves what had been recorded writes down what the broker showed it, and nothing
else: the tickets it found under a request's number, the opening of a resting order's fill, the
tickets it accounted for. So one determination differs from another only where two passes found
different things, and whoever found the same appends the same content.
-/

namespace Crumblr

open ExecutionOrchestrator

/-- What the broker shows a pass of a request. -/
inductive Finding where
  /-- The positions with the request's number. -/
  | positions (found : List PositionState)
  /-- The resting orders with it, where no position has it. -/
  | restingOrders (found : List PendingOrderState)
  /-- The submitted order rests no longer, and one position has the number. -/
  | fill (submittedTicket : Int) (position : PositionState)
  /-- The tickets attributed to the request are in the book. -/
  | accounted (attributed closedByFlatten : List Int) (status : ReconciliationStatus)
      (issues : List ProtectiveStopIssue)

/-- Items without floats make a list without one. -/
theorem Json.listHasFloat_map {α : Type} {f : α → Json} (hf : ∀ x, (f x).hasFloat = false)
    (xs : List α) : Json.listHasFloat (xs.map f) = false := by
  induction xs with
  | nil => rfl
  | cons x xs ih => rw [List.map_cons, Json.listHasFloat, hf x, ih, Bool.or_self]

namespace Finding

/-- What two passes have to agree on: the tickets, and of a fill what it was opened as. -/
def Same : Finding → Finding → Prop
  | .positions found, .positions found' => found.map (·.ticket) = found'.map (·.ticket)
  | .restingOrders found, .restingOrders found' => found.map (·.orderId) = found'.map (·.orderId)
  | .fill submittedTicket position, .fill submittedTicket' position' =>
      submittedTicket = submittedTicket' ∧ position.ticket = position'.ticket
        ∧ position.brokerSymbol = position'.brokerSymbol ∧ position.side = position'.side
        ∧ position.volume = position'.volume ∧ position.openPrice = position'.openPrice
        ∧ position.openedAtUtc = position'.openedAtUtc
  | .accounted attributed closedByFlatten status issues,
      .accounted attributed' closedByFlatten' status' issues' =>
        sortedSet attributed = sortedSet attributed'
          ∧ sortedSet closedByFlatten = sortedSet closedByFlatten'
          ∧ status = status' ∧ issues = issues'
  | _, _ => False

def eventType : Finding → ExecutionEventType
  | .positions _ | .restingOrders _ => .ambiguousOutcomeResolved
  | .fill .. => .filled
  | .accounted .. => .reconciled

variable [Externals]

/-- What is written down of a request. -/
def payload (r : Uuid) : Finding → Json
  | .positions found =>
      if 1 < found.length then integrityPayload r found else ambiguousPayload r found
  | .restingOrders found =>
      if 1 < found.length then integrityPendingPayload r found else ambiguousPayload r []
  | .fill submittedTicket position => resolvedFillPayload r submittedTicket position
  | .accounted attributed closedByFlatten status issues =>
      reconciledPayload attributed attributed closedByFlatten status issues

/-- The event records the finding, and nothing else. -/
structure RecordedAs (finding : Finding) (e : ExecutionEventRecord) : Prop where
  eventType : e.eventType = finding.eventType
  reasonCodes : e.reasonCodes = []
  detail : e.detail = none
  payload : e.payload = some (finding.payload e.orderRequestId)

/-! ## The same finding is the same content -/

variable {finding finding' : Finding} {e e' : ExecutionEventRecord} {r : Uuid}

omit [Externals] in
/-- Lists with the same tickets are written down alike. -/
theorem written_eq {α : Type} (ticket : α → Int) {found found' : List α}
    (h : found.map ticket = found'.map ticket) :
    found.length = found'.length
      ∧ found.map (fun x => Json.int (ticket x)) = found'.map fun x => Json.int (ticket x) := by
  have hlength := congrArg List.length h
  have hjson := congrArg (List.map Json.int) h
  rw [List.length_map, List.length_map] at hlength
  rw [List.map_map, List.map_map] at hjson
  exact ⟨hlength, hjson⟩

theorem Same.payload (h : finding.Same finding') : finding.payload r = finding'.payload r := by
  unfold Finding.payload
  cases finding with
  | positions found =>
      cases finding' with
      | positions found' =>
          obtain ⟨hlength, htickets⟩ := written_eq PositionState.ticket h
          simp only [integrityPayload, ambiguousPayload, hlength, htickets]
      | _ => exact h.elim
  | restingOrders found =>
      cases finding' with
      | restingOrders found' =>
          obtain ⟨hlength, hids⟩ := written_eq PendingOrderState.orderId h
          simp only [integrityPendingPayload, hlength, hids]
      | _ => exact h.elim
  | fill submittedTicket position =>
      cases finding' with
      | fill submittedTicket' position' =>
          obtain ⟨hsubmitted, hticket, hsymbol, hside, hvolume, hprice, hopened⟩ := h
          simp only [resolvedFillPayload, hsubmitted, hticket, hsymbol, hside, hvolume, hprice,
            hopened]
      | _ => exact h.elim
  | accounted attributed closedByFlatten status issues =>
      cases finding' with
      | accounted attributed' closedByFlatten' status' issues' =>
          obtain ⟨hattributed, hclosed, hstatus, hissues⟩ := h
          have hall : ∀ ts : List Int, ts.filter (fun t => t ∈ ts) = ts :=
            fun ts => List.filter_eq_self.mpr fun _ ht => decide_eq_true ht
          simp only [reconciledPayload, hall, hattributed, hclosed, hstatus, hissues]
      | _ => exact h.elim

/-- No payload of a finding has a float. -/
theorem payload_hasFloat : (finding.payload r).hasFloat = false := by
  have hissue : ∀ issue, (protectiveStopIssueJson issue).hasFloat = false := by
    rintro ⟨ticket, reason, expected, observed⟩
    cases expected <;> cases observed <;> rfl
  unfold Finding.payload
  cases finding with
  | positions found =>
      have htickets : Json.listHasFloat (found.map fun p => .int p.ticket) = false :=
        Json.listHasFloat_map (fun _ => rfl) found
      dsimp only
      split <;> simp [integrityPayload, ambiguousPayload, Json.hasFloat, Json.fieldsHaveFloat, htickets]
  | restingOrders found =>
      have hids : Json.listHasFloat (found.map fun o => .int o.orderId) = false :=
        Json.listHasFloat_map (fun _ => rfl) found
      dsimp only
      split <;> simp [integrityPendingPayload, ambiguousPayload, Json.hasFloat,
        Json.fieldsHaveFloat, Json.listHasFloat, hids]
  | fill submittedTicket position => rfl
  | accounted attributed closedByFlatten status issues =>
      have hints : ∀ xs : List Int, Json.listHasFloat (xs.map .int) = false :=
        Json.listHasFloat_map fun _ => rfl
      have hissues := Json.listHasFloat_map hissue issues
      simp [reconciledPayload, Json.hasFloat, Json.fieldsHaveFloat, Json.listHasFloat, hints, hissues]

/-- **Who found the same records the same.** -/
theorem RecordedAs.sameContent (h : finding.RecordedAs e) (h' : finding'.RecordedAs e')
    (hsame : finding.Same finding') (hr : e.orderRequestId = e'.orderRequestId) :
    sameContent e e' := by
  have hfree : FloatFree (some (finding'.payload e'.orderRequestId)) := by
    rintro _ ⟨⟩
    exact payload_hasFloat
  have hdigest := fingerprint_of_noFloat ((eventContent_hasFloat [] none _).mpr hfree)
  unfold Crumblr.sameContent
  rw [h.reasonCodes, h.detail, h.payload, h'.reasonCodes, h'.detail, h'.payload, hr, hsame.payload]
  exact ⟨_, hdigest, hdigest⟩

end Finding

variable [Externals]

/-! ## What a pass has found -/

/-- What these calls of a pass show of a request. -/
def Discovered (past : Past) (r : Uuid) : Finding → Prop
  | .positions found => ∃ positions, ⟨.positions, .ok positions⟩ ∈ past
      ∧ found = positionMatches r positions
  | .restingOrders found => ∃ positions orders, ⟨.positions, .ok positions⟩ ∈ past
      ∧ positionMatches r positions = [] ∧ ⟨.pendingOrders, .ok orders⟩ ∈ past
      ∧ found = pendingMatches r orders
  | .fill submittedTicket position => ∃ positions orders, ⟨.positions, .ok positions⟩ ∈ past
      ∧ positionMatches r positions = [position] ∧ ⟨.pendingOrders, .ok orders⟩ ∈ past
      ∧ ∀ o ∈ orders, o.orderId ≠ submittedTicket
  | .accounted attributed _ _ issues => ∃ observation answer expectedStopLoss,
      ⟨.record observation, answer⟩ ∈ past
      ∧ (∀ t ∈ attributed, t ∈ observation.positionStates.map (·.ticket))
      ∧ verifyProtectiveStops observation.positionStates attributed expectedStopLoss = .ok issues

/-- The task's event resolves what had been recorded. -/
def Resolving (task : Task) (e : ExecutionEventRecord) : Prop :=
  e.eventType ∈ hindsight ∨ task.kind = .resolvePendingOnce

/-- What resolves is the record of what was found. -/
def findingDiscipline (task : Task) : Discipline Call Call.Answer PyError where
  allows := fun past c => match c with
    | .append e => Resolving task e →
        ∃ finding, Discovered past e.orderRequestId finding ∧ finding.RecordedAs e
    | _ => True
  answers := mayAnswer

variable {task : Task} {past : Past} {α β : Type} {self : ExecutionOrchestrator}
  {now : UtcDatetime} {r : Uuid}

/-- The program records what it has found. -/
abbrev Finds (task : Task) (past : Past) (p : Pass α) : Prop :=
  Leads (findingDiscipline task).protocol past p fun _ _ => True

/-- The call records nothing in hindsight. -/
def Forward : Call → Prop
  | .append e => e.eventType ∉ hindsight
  | _ => True

omit [Externals] in
theorem forward_of_records {l : List ExecutionEventType} {p : Pass α} (hp : Only (Records l) p)
    (h : ∀ t ∈ l, t ∉ hindsight) : Only Forward p := by
  refine Only.mono (fun c hc => ?_) hp
  cases c with
  | append e => exact h _ hc
  | _ => trivial

/-- What records nothing is free, and leaves what it does not disturb. -/
theorem finds_keeping {p : Pass α} {I : Past → Prop} (hp : Only (Records []) p)
    (hI : ∀ past e, I past → I (e :: past)) (h : I past) :
    Leads (findingDiscipline task).protocol past p fun past' _ => I past' := by
  refine Leads.frame hp (fun past c hc => ?_) (fun past c a h _ => hI past ⟨c, a⟩ h) h
  cases c with
  | append e => exact absurd hc List.not_mem_nil
  | _ => trivial

theorem finds_nothing {p : Pass α} (hp : Only (Records []) p) : Finds task past p :=
  finds_keeping (I := fun _ => True) hp (fun _ _ _ => trivial) trivial

/-- So is what records in turn, but in a pass that resolves resting orders. -/
theorem finds_forward {p : Pass α} (hkind : task.kind ≠ .resolvePendingOnce)
    (hp : Only Forward p) : Finds task past p := by
  refine Leads.frame hp (fun past c hc => ?_) (fun _ _ _ _ _ => trivial) trivial
  cases c with
  | append e => exact fun hor => (hor.elim hc hkind).elim
  | _ => trivial

/-! ## The entry chain records in turn -/

omit [Externals] in
theorem forward_refuse {capsule : DecisionCapsule} {eventType : ExecutionEventType}
    {reasonCodes : List ReasonCode} {detail : Option String} {payload : Option Json}
    (h : eventType ∉ hindsight) :
    Only Forward (refuse r capsule eventType reasonCodes now detail payload) :=
  forward_of_records (records_refuse (List.mem_singleton_self _)) (by simpa using h)

omit [Externals] in
theorem forward_append {eventType : ExecutionEventType} {reasonCodes : List ReasonCode}
    {detail : Option String} {payload : Option Json} (h : eventType ∉ hindsight) :
    Only Forward (append r eventType now reasonCodes detail payload) :=
  forward_of_records (records_append (List.mem_singleton_self _)) (by simpa using h)

theorem forward_attemptRealEntrySubmission {canary : CanaryEntrySubmissionConfig} {p : Prepared} :
    Only Forward (self.attemptRealEntrySubmission canary p) := by
  unfold attemptRealEntrySubmission
  split
  · exact forward_refuse (by decide)
  refine Only.bind (only_ask trivial) fun permit => Only.bind only_lift fun mismatches => ?_
  split
  · exact forward_refuse (by decide)
  refine Only.bind only_lift fun permit => Only.bind (only_ask trivial) fun outcome => ?_
  split
  · exact forward_of_records (records_sendOrder p) (by decide)
  · exact forward_refuse (by decide)

theorem forward_checkAndSubmit {p : Prepared} : Only Forward (self.checkAndSubmit p) := by
  refine Only.bind (only_ask trivial) fun check => Only.bind (forward_append ?_) fun _ => ?_
  · split <;> decide
  split
  · trivial
  refine Only.bind (Only.bind (only_ask trivial) fun _ =>
    Only.bind (forward_append ?_) fun _ => trivial) fun decision => ?_
  · split <;> decide
  split
  · trivial
  split
  · exact Only.bind (forward_append (by decide)) fun _ => trivial
  · exact forward_attemptRealEntrySubmission

theorem forward_finalRisk {q : Priced} : Only Forward (self.finalRisk q) := by
  refine Only.bind (only_ask trivial) fun _ => Only.bind (only_ask trivial) fun _ =>
    Only.bind only_lift fun finalRisk => ?_
  split
  · exact forward_refuse (by decide)
  · exact Only.bind only_lift fun _ => Only.bind only_lift fun _ => Only.bind only_lift fun _ =>
      Only.bind (forward_append (by decide)) fun _ => forward_checkAndSubmit

theorem forward_priceAndRisk {capsule : DecisionCapsule} {chain : ApprovalChain}
    {observation : BrokerStateObservation} {account : AccountState} :
    Only Forward (self.priceAndRisk capsule chain r observation account now) := by
  have htrip : ∀ {reasonCodes trippedBy now detail},
      Only Forward (tripUnlessHalted reasonCodes trippedBy now detail) :=
    forward_of_records (l := []) (records_trip ..) (by decide)
  refine Only.bind (only_ask trivial) fun spec => ?_
  split
  · exact forward_refuse (by decide)
  refine Only.bind (only_ask trivial) fun ticks => ?_
  split
  · exact forward_refuse (by decide)
  refine Only.bind only_lift fun snapshot => Only.bind (only_ask trivial) fun finalNow =>
    Only.bind ?_ fun recovered => ?_
  · exact Only.rescue (Only.bind (forward_of_records (l := [])
      (records_of_about (only_recoverRiskSession ..) (by decide)) (by decide)) fun _ => trivial)
      fun _ => trivial
  split
  · exact Only.bind htrip fun _ => forward_refuse (by decide)
  split
  · exact Only.bind htrip fun _ => forward_refuse (by decide)
  · exact forward_finalRisk

theorem forward_processClaimed {capsule : DecisionCapsule} {chain : ApprovalChain} :
    Only Forward (self.processClaimed capsule chain r now) := by
  refine Only.bind (forward_append (by decide)) fun _ => ?_
  dsimp only
  split
  · exact forward_refuse (by decide)
  refine Only.bind (only_ask trivial) fun killSwitch => ?_
  split
  · exact forward_refuse (by decide)
  refine Only.bind (forward_of_records (l := []) (records_observe ..) (by decide))
    fun observation => Only.bind only_lift fun account =>
    Only.bind (forward_of_records (l := []) (records_reconcile ..) (by decide)) fun result => ?_
  split
  · exact forward_refuse (by decide)
  · exact forward_priceAndRisk

/-! ## Determining -/

theorem finds_append (finding : Finding) {eventType : ExecutionEventType} {payload : Json}
    (hfound : Discovered past r finding) (htype : eventType = finding.eventType)
    (hpayload : payload = finding.payload r) :
    Leads (findingDiscipline task).protocol past (append r eventType now [] none (some payload))
      fun past' _ => ∃ entry, past' = entry :: past := by
  refine Leads.mono (leads_append fun _ => ⟨finding, hfound, htype, rfl, rfl, ?_⟩) ?_
  · rw [hpayload]
  · rintro past' _ ⟨inserted, rfl⟩
    exact ⟨_, rfl⟩

theorem finds_recoverAmbiguousSubmission {capsule : DecisionCapsule} :
    Finds task past (recoverAmbiguousSubmission r capsule) := by
  have hresolve : ∀ past now payload finding, Discovered past r finding →
      finding.eventType = .ambiguousOutcomeResolved → payload = finding.payload r →
      Finds task past (resolveAmbiguous r capsule now payload) :=
    fun past now payload finding hfound htype hpayload =>
      Leads.seq (finds_append finding hfound htype.symm hpayload) fun _ _ _ => Leads.ret.mpr trivial
  refine Leads.next trivial fun events _ => ?_
  split
  · exact Leads.ret.mpr trivial
  refine Leads.next trivial fun positions _ => Leads.next trivial fun now _ => ?_
  dsimp only
  split
  · rename_i hmany
    refine Leads.seq (hresolve _ _ _ (.positions (positionMatches r positions))
      ⟨positions, by simp, rfl⟩ rfl (if_pos hmany).symm) fun past₁ _ _ => ?_
    exact Leads.seq (finds_nothing (records_trip ..)) fun _ _ _ => Leads.ret.mpr trivial
  rename_i hfew
  split
  · rename_i hnone
    have hnil : positionMatches r positions = [] := List.length_eq_zero_iff.mp hnone
    refine Leads.next trivial fun orders _ => ?_
    have hfound : ∀ past, Discovered (⟨.pendingOrders, .ok orders⟩ :: ⟨.clock, .ok now⟩
        :: ⟨.positions, .ok positions⟩ :: past) r (.restingOrders (pendingMatches r orders)) :=
      fun _ => ⟨positions, orders, by simp, hnil, by simp, rfl⟩
    split
    · rename_i hmany
      refine Leads.seq (hresolve _ _ _ _ (hfound _) rfl (if_pos hmany).symm) fun past₁ _ _ => ?_
      exact Leads.seq (finds_nothing (records_trip ..)) fun _ _ _ => Leads.ret.mpr trivial
    rename_i hrest
    split
    · exact Leads.ret.mpr trivial
    · refine Leads.seq (hresolve _ _ _ _ (hfound _) rfl ?_) fun _ _ _ => Leads.ret.mpr trivial
      rw [hnil]
      exact (if_neg hrest).symm
  · refine Leads.seq (hresolve _ _ _ (.positions (positionMatches r positions))
      ⟨positions, by simp, rfl⟩ rfl (if_neg hfew).symm) fun _ _ _ => Leads.ret.mpr trivial

theorem finds_process {capsule : DecisionCapsule} (hkind : task.kind ≠ .resolvePendingOnce) :
    Finds task past (self.process capsule now) := by
  refine leads_lift fun chain _ => ?_
  split
  · exact Leads.raise.mpr trivial
  refine Leads.next trivial fun claimed _ => ?_
  split
  · exact Leads.seq (finds_forward hkind forward_processClaimed) fun _ _ _ => Leads.ret.mpr trivial
  · exact finds_recoverAmbiguousSubmission

theorem finds_resolvePending {positions : List PositionState}
    {pendingOrders : List PendingOrderState} (h : HaveRead positions pendingOrders past) :
    Leads (findingDiscipline task).protocol past
      (resolvePending positions pendingOrders now r)
      fun past' _ => HaveRead positions pendingOrders past' := by
  refine Leads.next trivial fun events _ => ?_
  have hread := h.cons (e := ⟨.eventsFor r, .ok events⟩)
  split
  · exact Leads.ret.mpr hread
  split
  · exact Leads.ret.mpr hread
  refine leads_lift fun ticket hticket => ?_
  split
  · exact Leads.ret.mpr hread
  rename_i submittedTicket
  split
  · exact Leads.ret.mpr hread
  rename_i hgone
  split
  · exact Leads.ret.mpr hread
  · rename_i position hmatches
    refine Leads.seq (finds_append (.fill submittedTicket position)
      ⟨positions, pendingOrders, hread.positions, hmatches, hread.pendingOrders,
        fun o ho heq => ?_⟩ rfl rfl) ?_
    · exact hgone (List.any_eq_true.mpr ⟨o, ho, decide_eq_true heq⟩)
    · rintro past' _ ⟨entry, rfl⟩
      exact Leads.ret.mpr hread.cons
  · -- neither none nor one
    rename_i hnotNil hnotOne
    have hmany : 1 < (positionMatches r positions).length := by
      rcases hfound : positionMatches r positions with _ | ⟨p, _ | ⟨p', rest⟩⟩
      · exact absurd hfound hnotNil
      · exact absurd hfound (hnotOne p)
      · simp
    refine Leads.seq (finds_append (.positions (positionMatches r positions))
      ⟨positions, hread.positions, rfl⟩ rfl (if_pos hmany).symm) ?_
    rintro past' _ ⟨entry, rfl⟩
    refine Leads.seq (finds_keeping (records_trip ..) (fun _ _ => HaveRead.cons) hread.cons)
      fun past'' _ hread'' => Leads.ret.mpr hread''

theorem finds_resolvePendingOnce : Finds task past self.resolvePendingOnce := by
  refine Leads.next trivial fun submittedIds _ => ?_
  split
  · exact Leads.ret.mpr trivial
  refine Leads.next trivial fun now _ => Leads.next trivial fun positions _ =>
    Leads.next trivial fun pendingOrders _ => ?_
  refine Leads.mono (Leads.collect (I := fun _ _ past' => HaveRead positions pendingOrders past')
    (fun _ _ _ _ => finds_resolvePending) submittedIds [] ?_) fun _ _ _ => trivial
  exact ⟨by simp, by simp⟩

/-! ## Accounting -/

/-- The pass has recorded the observation. -/
def HasRecorded (observation : BrokerStateObservation) (past : Past) : Prop :=
  ∃ answer, ⟨.record observation, answer⟩ ∈ past

omit [Externals] in
theorem HasRecorded.cons {observation : BrokerStateObservation}
    {entry : Entry Call Call.Answer PyError} (h : HasRecorded observation past) :
    HasRecorded observation (entry :: past) :=
  let ⟨answer, hmem⟩ := h
  ⟨answer, List.mem_cons_of_mem _ hmem⟩

theorem finds_observe {environment : Environment} :
    Leads (findingDiscipline task).protocol past (self.observe environment)
      fun past' observation => HasRecorded observation past' := by
  refine Leads.seq (finds_nothing (records_of_about (only_captureBrokerState ..) (by decide)))
    fun past₁ observation _ => Leads.next trivial fun answer _ => Leads.ret.mpr ?_
  exact ⟨.ok answer, List.mem_cons_self ..⟩

omit [Externals] in
/-- Of the attributed tickets all are written down as open. -/
theorem reconciledPayload_of_seen {attributed openTickets closedByFlatten : List Int}
    {status : ReconciliationStatus} {issues : List ProtectiveStopIssue}
    (h : ∀ t ∈ attributed, t ∈ openTickets) :
    reconciledPayload attributed openTickets closedByFlatten status issues
      = reconciledPayload attributed attributed closedByFlatten status issues := by
  unfold reconciledPayload
  rw [List.filter_eq_self.mpr fun t ht => decide_eq_true (h t ht),
    List.filter_eq_self.mpr fun t ht => decide_eq_true ht]

theorem finds_reconcileRequest {exposure : DerivedExposure} {observation : BrokerStateObservation}
    {status : ReconciliationStatus} {history : Uuid × List ExecutionEventRecord}
    (h : HasRecorded observation past) :
    Leads (findingDiscipline task).protocol past
      (reconcileRequest exposure observation.positionStates status now history)
      fun past' _ => HasRecorded observation past' := by
  obtain ⟨rid, events⟩ := history
  unfold reconcileRequest
  dsimp only
  split
  · exact Leads.ret.mpr h
  rename_i hgo
  refine leads_lift fun matching _ => leads_lift fun issues hissues => ?_
  refine Leads.seq (finds_keeping (records_of_about (only_tripOnIssues ..) (by decide))
    (fun _ _ => HasRecorded.cons) h) fun past₁ _ h₁ => ?_
  obtain ⟨answer, hrecorded⟩ := id h₁
  -- whatever is attributed was seen, or nothing is recorded
  have hseen : ∀ t ∈ (lookupLast exposure.ticketsByRequest rid).getD [],
      t ∈ observation.positionStates.map (·.ticket) := by
    intro t ht
    by_contra hnot
    exact hgo (.inr (.inr (List.any_eq_true.mpr ⟨t, ht, decide_eq_true hnot⟩)))
  refine Leads.seq (finds_append (.accounted ((lookupLast exposure.ticketsByRequest rid).getD [])
    (matching.filter fun t => t ∉ (lookupLast exposure.ticketsByRequest rid).getD []) status issues)
    ⟨observation, answer, _, hrecorded, hseen, hissues⟩ rfl ?_) ?_
  · exact reconciledPayload_of_seen hseen
  · rintro past₂ _ ⟨entry, rfl⟩
    exact Leads.ret.mpr h₁.cons

theorem finds_reconcileOnce : Finds task past self.reconcileOnce := by
  refine Leads.next trivial fun candidates _ => ?_
  split
  · exact Leads.ret.mpr trivial
  refine Leads.seq (finds_nothing (Only.collect fun _ _ =>
    Only.bind (only_ask trivial) fun _ => trivial)) fun past₁ histories _ => ?_
  split
  · exact Leads.ret.mpr trivial
  refine Leads.next trivial fun flattens _ => leads_lift fun exposure _ =>
    Leads.next trivial fun now _ => Leads.seq finds_observe fun past₂ observation h₂ => ?_
  refine Leads.seq (finds_keeping (records_reconcile ..) (fun _ _ => HasRecorded.cons) h₂)
    fun past₃ result h₃ => ?_
  split
  · exact Leads.ret.mpr trivial
  refine Leads.mono (Leads.collect (I := fun _ _ past' => HasRecorded observation past')
    (fun _ _ _ _ => finds_reconcileRequest) histories [] h₃) fun _ _ _ => trivial

theorem finds_runOnce (hkind : task.kind ≠ .resolvePendingOnce) :
    Finds task past self.runOnce := by
  refine Leads.seq (finds_nothing (records_flattenOnce self)) fun past₁ _ _ =>
    Leads.next trivial fun now _ => Leads.next trivial fun capsules _ => ?_
  refine Leads.seq (Leads.mono (Leads.collect (I := fun _ _ _ => True)
    (fun _ _ _ _ _ => finds_process hkind) _ [] trivial) fun _ _ _ => trivial)
    fun past₂ outcomes _ => ?_
  exact Leads.seq finds_reconcileOnce fun _ _ _ => Leads.ret.mpr trivial

/-- **Every pass records what it has found.** -/
theorem program_finds (task : Task) :
    Conforms (findingDiscipline task).protocol [] task.program fun _ _ => True := by
  have hfinds : Finds task [] task.program := by
    unfold Task.program
    split
    · rename_i hkind
      exact Leads.seq (finds_runOnce (by rw [hkind]; decide)) fun _ _ _ => Leads.ret.mpr trivial
    · exact Leads.seq finds_resolvePendingOnce fun _ _ _ => Leads.ret.mpr trivial
    · exact Leads.seq finds_reconcileOnce fun _ _ _ => Leads.ret.mpr trivial
  exact Conforms.mono (fun _ _ _ => trivial) hfinds

/-! ## What is on record -/

/-- The occurrence was committed to these instructions. -/
def CommittedTo (l : Ledger) (f : Uuid) (instructions : List FlattenInstruction) : Prop :=
  ∃ e ∈ l.flattenEventsFor f, e.eventType = .flattenSubmissionStarted
    ∧ committedInstructions e.payload = .ok instructions

/-- What is recorded to resolve was found, and what workers read is recorded. -/
structure Evidenced (S : Scene) : Prop where
  told : ∀ i f events, ⟨.flattenEventsFor f, .ok events⟩ ∈ S.past i →
    ∀ e ∈ events, e ∈ S.ledger.flattenEventsFor f
  found : ∀ e ∈ S.ledger.events, e.eventType ∈ hindsight →
    ∃ finding : Finding, finding.RecordedAs e
  settled : ∀ e ∈ S.ledger.flattenEvents, e.eventType = .flattenOutcomeResolved →
    ∃ instructions observation, CommittedTo S.ledger e.flattenRequestId instructions
      ∧ Settles instructions observation e

/-- What is appended to resolve was found by the pass that appends it. -/
def OnFindings : Guard := fun v m c => ∀ i o, m = .call i o →
  (∀ e, c = some (.append e) → e.eventType ∈ hindsight →
      ∃ finding : Finding, finding.RecordedAs e)
    ∧ ∀ e, c = some (.appendFlatten e) → e.eventType = .flattenOutcomeResolved →
      ∃ self observation instructions,
        Resumes self e.flattenRequestId instructions ((scene v).past i)
          ∧ Settles instructions observation e

section

omit [Externals]

/-- An occurrence is committed to once. -/
theorem CommittedTo.unique {l : Ledger} {f : Uuid} {instructions instructions' : List FlattenInstruction}
    (hkeyed : Table.Keyed FlattenEventRecord.key l.flattenEvents)
    (h : CommittedTo l f instructions) (h' : CommittedTo l f instructions') :
    instructions = instructions' := by
  obtain ⟨e, he, htype, hinstructions⟩ := h
  obtain ⟨e', he', htype', hinstructions'⟩ := h'
  obtain ⟨hmem, hid⟩ := List.mem_filter.mp he
  obtain ⟨hmem', hid'⟩ := List.mem_filter.mp he'
  have hsame : e = e' := hkeyed.eq_of_mem hmem hmem'
    (Prod.ext ((of_decide_eq_true hid).trans (of_decide_eq_true hid').symm) (htype.trans htype'.symm))
  rw [hsame, hinstructions'] at hinstructions
  exact (Except.ok.inj hinstructions).symm

end

omit [Externals] in
theorem thread_of_asked {s : Config Nat Task World Call Call.Answer PyError} {i : Nat} {o : Oracle}
    {c : Call} (h : Machine.asked s (.call i o : Move Nat Task Oracle World.Event) = some c) :
    ∃ q past k, s.threads i = some ⟨q, past, .call c k⟩ := by
  unfold Machine.asked at h
  dsimp only at h
  split at h
  · rename_i q past c' k ht
    cases h
    exact ⟨q, past, k, ht⟩
  · cases h

theorem onFindings_of_reach {G : Guard} {w : World}
    {s : Config Nat Task World Call Call.Answer PyError} (h : ReachUnder G w s) :
    ReachUnder OnFindings w s := by
  refine h.mono fun s m hr _ i o hm => ?_
  subst hm
  refine ⟨fun e hask htype => ?_, fun e hask htype => ?_⟩
  · obtain ⟨q, past, k, ht⟩ := thread_of_asked hask
    obtain ⟨finding, -, hrecorded⟩ := reachable_allowed (D := findingDiscipline) program_finds
      (fun _ => rfl) hr ht (.inl htype)
    exact ⟨finding, hrecorded⟩
  · obtain ⟨q, past, k, ht⟩ := thread_of_asked hask
    obtain ⟨-, hresolves⟩ := reachable_allowed (D := fun q => flattenDiscipline q.orchestrator)
      program_flattens (fun _ => rfl) hr ht
    obtain ⟨observation, instructions, -, hresumes, hsettles⟩ := hresolves htype
    refine ⟨q.orchestrator, observation, instructions, ?_, hsettles⟩
    simpa [scene, Config.view, ht] using hresumes

namespace Evidenced

variable {S : Scene} {i : Nat} {f : Uuid} {instructions : List FlattenInstruction} {c : Call}
  {a : Except PyError c.Answer} {l : Ledger}

theorem init (hev : l.events = []) (hflatten : l.flattenEvents = []) :
    Evidenced ⟨l, fun _ => []⟩ where
  told := fun _ _ _ hread => absurd hread List.not_mem_nil
  found := fun e he => by simp [hev] at he
  settled := fun e he => by simp [hflatten] at he

theorem reset (h : Evidenced S) (j : Nat) : Evidenced (S.reset j) where
  told := by
    intro i f events hread
    rcases S.reset_past (i := j) i with hnil | hsame
    · rw [hnil] at hread
      cases hread
    · rw [hsame] at hread
      exact h.told i f events hread
  found := h.found
  settled := h.settled

/-- What a pass goes on from is what the occurrence was committed to. -/
theorem resumed (h : Evidenced S) {o : ExecutionOrchestrator}
    (hresumes : Resumes o f instructions (S.past i)) : CommittedTo S.ledger f instructions := by
  obtain ⟨events, last, hread, hlast, hstarted, hinstructions⟩ := hresumes.committed
  exact ⟨last, h.told i f events hread last hlast, hstarted, hinstructions⟩

/-- **A call that appends what was found keeps it so.** -/
theorem call (h : Evidenced S) (heff : Effect S.ledger c a l)
    (hfound : ∀ e, c = .append e → e.eventType ∈ hindsight →
      ∃ finding : Finding, finding.RecordedAs e)
    (hsettled : ∀ e, c = .appendFlatten e → e.eventType = .flattenOutcomeResolved →
      ∃ self observation instructions, Resumes self e.flattenRequestId instructions (S.past i)
        ∧ Settles instructions observation e) : Evidenced (S.called i c a l) := by
  have hgrows : ∀ f, ∀ e ∈ S.ledger.flattenEventsFor f, e ∈ l.flattenEventsFor f := by
    intro f e he
    obtain ⟨hmem, hid⟩ := List.mem_filter.mp he
    rcases heff.flattened with hsame | ⟨new, -, hnew⟩
    · exact List.mem_filter.mpr ⟨hsame ▸ hmem, hid⟩
    · exact List.mem_filter.mpr ⟨hnew ▸ List.mem_append_left _ hmem, hid⟩
  have hcommitted : ∀ f instructions, CommittedTo S.ledger f instructions →
      CommittedTo l f instructions :=
    fun f _ ⟨e, he, hrest⟩ => ⟨e, hgrows f e he, hrest⟩
  exact {
    told := by
      intro j f events hread e he
      refine hgrows f e ?_
      by_cases hji : j = i
      · subst hji
        rw [Scene.called_past_self] at hread
        rcases List.mem_cons.mp hread with hnow | hbefore
        · -- what is read just now is the history as it is
          cases hnow
          rw [heff.told] at he
          exact he
        · exact h.told j f events hbefore e he
      · rw [Scene.called_past_of_ne hji] at hread
        exact h.told j f events hread e he
    found := by
      intro e he htype
      rw [Scene.called_ledger] at he
      rcases heff.filed with ⟨-, hsame⟩ | ⟨row, -, -, -, hsame⟩ | ⟨new, -, hnew, -, hcall⟩
      · exact h.found e (hsame ▸ he) htype
      · exact h.found e (hsame ▸ he) htype
      rw [hnew] at he
      rcases List.mem_append.mp he with hold | hlast
      · exact h.found e hold htype
      obtain rfl := List.mem_singleton.mp hlast
      rcases hcall with hcall | ⟨hstarted, -⟩
      · exact hfound e hcall htype
      · rw [hstarted] at htype
        exact absurd htype (by decide)
    settled := by
      intro e he htype
      rw [Scene.called_ledger] at he ⊢
      rcases heff.flattened with hsame | ⟨new, hcall, hnew⟩
      · obtain ⟨instructions, observation, hto, hsettles⟩ := h.settled e (hsame ▸ he) htype
        exact ⟨instructions, observation, hcommitted _ _ hto, hsettles⟩
      rw [hnew] at he
      rcases List.mem_append.mp he with hold | hlast
      · obtain ⟨instructions, observation, hto, hsettles⟩ := h.settled e hold htype
        exact ⟨instructions, observation, hcommitted _ _ hto, hsettles⟩
      · obtain rfl := List.mem_singleton.mp hlast
        obtain ⟨self, observation, instructions, hresumes, hsettles⟩ := hsettled e hcall htype
        exact ⟨instructions, observation, hcommitted _ _ (h.resumed hresumes), hsettles⟩ }

end Evidenced

/-- The targets that a pass finds open. -/
def openTargets (instructions : List FlattenInstruction) (observation : BrokerStateObservation) :
    List Int :=
  (stillOpen instructions observation.positionStates).map (·.ticket)

/-- **Who found the same targets open settles a flatten alike.** -/
theorem Settles.sameContent {instructions : List FlattenInstruction}
    {observation observation' : BrokerStateObservation} {e e' : FlattenEventRecord}
    (h : Settles instructions observation e) (h' : Settles instructions observation' e')
    (hopen : openTargets instructions observation = openTargets instructions observation') :
    sameFlattenContent e e' := by
  unfold openTargets at hopen
  have hnone : stillOpen instructions observation.positionStates = []
      ↔ stillOpen instructions observation'.positionStates = [] := by
    rw [← List.map_eq_nil_iff, hopen, List.map_eq_nil_iff]
  have hfree : FloatFree e'.payload := by
    rw [h'.payload]
    rintro _ ⟨⟩
    have hints : ∀ xs : List Int, Json.listHasFloat (xs.map .int) = false :=
      Json.listHasFloat_map fun _ => rfl
    simp only [flattenOutcomePayload, Json.hasFloat, Json.fieldsHaveFloat, hints, Bool.or_self]
  have hdigest := fingerprint_of_noFloat ((eventContent_hasFloat [] none _).mpr hfree)
  unfold sameFlattenContent
  rw [h.reasonCodes, h.detail, h.payload, h'.reasonCodes, h'.detail, hopen,
    decide_eq_decide.mpr hnone, ← h'.payload]
  exact ⟨_, hdigest, hdigest⟩

/-- **In every state workers reach, what is recorded to resolve was found.** -/
theorem evidenced_reachable {G : Guard} {w : World}
    {s : Config Nat Task World Call Call.Answer PyError} (hev : w.db.executionEvents = [])
    (hflatten : w.db.flattenEvents = []) (h : ReachUnder G w s) : Evidenced (scene s.view) := by
  refine (scene_invariant (I := Evidenced) (Evidenced.init hev hflatten)
    (fun _ j hI => hI.reset j) (fun _ _ hI _ => ⟨hI.told, hI.found, hI.settled⟩)
    (fun v j o c a l hI hG _ heff _ => ?_) (onFindings_of_reach h)).1
  obtain ⟨hfound, hsettled⟩ := hG j o rfl
  exact hI.call heff (fun e hc => hfound e (congrArg some hc))
    fun e hc => hsettled e (congrArg some hc)

end Crumblr
