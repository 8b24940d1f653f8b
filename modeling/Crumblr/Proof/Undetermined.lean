import Crumblr.Proof.Payloads
import Crumblr.Proof.AtMostOnce
import Crumblr.Proof.Exposure
import Crumblr.Proof.Reconciliation

/-!
# What the platform cannot tell about its own exposure

A request whose history leaves its exposure open is to be named among the reasons
why the expectation is undetermined, so that no comparison with the broker can come
out as a match. The histories workers record can always be read, and each reason
names the request it is about, so a request is named exactly when its own history
gives a reason.
-/

namespace Crumblr

/-! ## Reading the commitment of a history -/

section

variable [Externals]

/-- What a field of the commitment holds, when every commitment is an order. -/
theorem commitmentField_order {key : String} {events : List ExecutionEventRecord} {v : Json}
    (hread : ∀ e ∈ events, WellRecorded e) (h : commitmentField key events = some v) :
    ∃ order : ApprovedOrder, order.dump.get? key = some v ∧ v ≠ .null := by
  unfold commitmentField at h
  obtain ⟨e, he, hv⟩ := List.exists_of_findSome?_eq_some h
  split at hv
  · rename_i hstarted
    obtain ⟨order, horder⟩ := (hread e he).started hstarted
    refine ⟨order, ?_⟩
    rw [horder] at hv
    simp only [Option.bind_some] at hv
    split at hv
    · cases hv
    · rename_i hne
      refine ⟨hv, ?_⟩
      rintro rfl
      exact hne hv
  · cases hv

theorem stopLossPriceOf_ok {events : List ExecutionEventRecord}
    (hread : ∀ e ∈ events, WellRecorded e) : ∃ d, stopLossPriceOf events = .ok d := by
  unfold stopLossPriceOf
  cases hv : commitmentField "stop_loss_price" events with
  | none => exact ⟨_, rfl⟩
  | some v =>
      obtain ⟨order, hget, -⟩ := commitmentField_order hread hv
      simp [ApprovedOrder.dump] at hget
      subst hget
      exact ⟨_, rfl⟩

theorem entryTypeOf_ok {events : List ExecutionEventRecord}
    (hread : ∀ e ∈ events, WellRecorded e) : ∃ t, entryTypeOf events = .ok t := by
  unfold entryTypeOf
  cases hv : commitmentField "entry_type" events with
  | none => exact ⟨_, rfl⟩
  | some v =>
      obtain ⟨order, hget, -⟩ := commitmentField_order hread hv
      simp [ApprovedOrder.dump] at hget
      subst hget
      simp [Json.asStr?]

omit [Externals] in
/-- A pass over a list raises nothing when no item does. -/
theorem mapM_ok {α β : Type} {f : α → Except PyError β} {g : α → β} {xs : List α}
    (h : ∀ x ∈ xs, f x = .ok (g x)) : xs.mapM f = .ok (xs.map g) := by
  induction xs with
  | nil => rfl
  | cons x xs ih =>
      simp only [List.mapM_cons, h x (by simp), ih fun y hy => h y (by simp [hy]), List.map_cons]
      rfl

omit [Externals] in
/-- What each item is read back from, the list is read back from. -/
theorem mapM_decode {α β : Type} {encode : α → β} {decode : β → Except PyError α}
    (h : ∀ a, decode (encode a) = .ok a) (xs : List α) : (xs.map encode).mapM decode = .ok xs := by
  induction xs with
  | nil => rfl
  | cons x xs ih =>
      rw [List.map_cons, List.mapM_cons, h x, ih]
      rfl

omit [Externals] in
/-- Integers written as a list are read back as they were. -/
theorem mapM_toInt (ts : List Int) : (ts.map Json.int).mapM Json.toInt = .ok ts := by
  have hread : ∀ t, Json.toInt (Json.int t) = .ok t := fun _ => rfl
  exact mapM_decode hread ts

/-! ## The derivation always comes to an end -/

theorem resolvedExposure_ok {orderRequestId : Uuid} {payload : Option Json}
    {events : List ExecutionEventRecord} (hread : ∀ e ∈ events, WellRecorded e)
    (h : Resolution payload) : ∃ one, resolvedExposure orderRequestId payload events = .ok one := by
  obtain ⟨stopLoss, hstop⟩ := stopLossPriceOf_ok hread
  obtain ⟨entryType, hentry⟩ := entryTypeOf_ok hread
  cases h with
  | found r ps =>
      have hints : (ExecutionOrchestrator.ambiguousPayload r ps).intsAt "matching_tickets"
          = .ok (ps.map (·.ticket)) := by
        have hget : (ExecutionOrchestrator.ambiguousPayload r ps).get? "matching_tickets"
            = some (.list ((ps.map (·.ticket)).map .int)) := by
          simp [ExecutionOrchestrator.ambiguousPayload]
        rw [Json.intsAt, hget]
        exact mapM_toInt _
      by_cases hone : ps.length = 1
      · refine ⟨⟨some (ps.map (·.ticket)), stopLoss, ?_⟩, ?_⟩
        rotate_left
        · simp only [resolvedExposure, hints, hstop, hentry]
          simp [ExecutionOrchestrator.ambiguousPayload, Json.truthy, hone]
          rfl
      · refine ⟨⟨some [], none, []⟩, ?_⟩
        simp [resolvedExposure, ExecutionOrchestrator.ambiguousPayload, Json.truthy, hone]
  | shared r ps =>
      simp [resolvedExposure, ExecutionOrchestrator.integrityPayload, Json.truthy]
  | sharedPending r os =>
      simp [resolvedExposure, ExecutionOrchestrator.integrityPendingPayload, Json.truthy]

theorem requestExposure_ok (orderRequestId : Uuid) {events : List ExecutionEventRecord}
    (hread : ∀ e ∈ events, WellRecorded e) : ∃ one, requestExposure orderRequestId events = .ok one := by
  unfold requestExposure
  split
  · exact ⟨_, rfl⟩
  · rename_i e he
    have hmem : e ∈ events := by
      unfold lastExposureRelevant at he
      simpa using List.mem_of_find?_eq_some he
    split
    · exact ⟨_, rfl⟩
    · exact ⟨_, rfl⟩
    · exact ⟨_, rfl⟩
    · rename_i ht
      exact resolvedExposure_ok hread ((hread e hmem).resolved ht)
    · exact ⟨_, rfl⟩

omit [Externals] in
/-- The payload of the last event of a kind is the payload of some event of that kind. -/
theorem lastFlattenPayload_some {eventType : FlattenEventType} {events : List FlattenEventRecord}
    {payload : Json} (h : lastFlattenPayload eventType events = some payload) :
    ∃ e ∈ events, e.eventType = eventType ∧ e.payload = some payload := by
  unfold lastFlattenPayload at h
  obtain ⟨e, he, hp⟩ := Option.bind_eq_some_iff.mp h
  refine ⟨e, by simpa using List.mem_of_find?_eq_some he, ?_, hp⟩
  simpa using List.find?_some he

omit [Externals] in
theorem flattenOccurrence_ok (flattenRequestId : Uuid) {events : List FlattenEventRecord}
    (hread : ∀ e ∈ events, WellRecordedFlatten e) :
    ∃ closed, flattenOccurrence flattenRequestId events = .ok closed := by
  unfold flattenOccurrence
  split
  · exact ⟨_, rfl⟩
  rename_i commitment hcommitment
  split
  · rename_i resolved hresolved
    obtain ⟨e, he, ht, hp⟩ := lastFlattenPayload_some hresolved
    obtain ⟨targets, stillOpen, flattened, hpayload⟩ := (hread e he).resolved ht
    obtain rfl : resolved = ExecutionOrchestrator.flattenOutcomePayload targets stillOpen flattened :=
      Option.some.inj (hp.symm.trans hpayload)
    have hget : (ExecutionOrchestrator.flattenOutcomePayload targets stillOpen flattened).get?
        "closed_tickets" = some (.list ((targets.filter fun t => t ∉ stillOpen).map .int)) := by
      simp [ExecutionOrchestrator.flattenOutcomePayload]
    rw [Json.intsAt, hget]
    simp only [mapM_toInt]
    exact ⟨_, rfl⟩
  · obtain ⟨e, he, ht, hp⟩ := lastFlattenPayload_some hcommitment
    obtain ⟨plan, hplan⟩ := (hread e he).started ht
    obtain rfl : commitment = plan.dump := Option.some.inj (hp.symm.trans hplan)
    have hinstructions : plan.dump.get? "instructions"
        = some (.list (plan.instructions.map FlattenInstruction.dump)) := by
      simp [FlattenPlan.dump]
    have hall : (plan.instructions.map FlattenInstruction.dump).mapM instructionTicket
        = .ok ((plan.instructions.map FlattenInstruction.dump).map fun j =>
          ((j.get? "ticket").bind Json.asInt?).getD 0) := by
      refine mapM_ok fun j hj => ?_
      obtain ⟨i, -, rfl⟩ := List.mem_map.mp hj
      simp [instructionTicket, FlattenInstruction.dump, Json.toInt, Json.asInt?]
    rw [instructionTickets, hinstructions]
    simp only [hall]
    exact ⟨_, rfl⟩

/-- **What workers have recorded can be turned into an expectation.** -/
theorem deriveExpectedExposure_ok {histories : List (Uuid × List ExecutionEventRecord)}
    {flattens : List (Uuid × List FlattenEventRecord)}
    (hread : ∀ h ∈ histories, ∀ e ∈ h.2, WellRecorded e)
    (hflatten : ∀ h ∈ flattens, ∀ e ∈ h.2, WellRecordedFlatten e) :
    ∃ exposure, deriveExpectedExposure histories flattens = .ok exposure := by
  exact ⟨_, deriveExpectedExposure_iff.mpr ⟨fun h hmem => requestExposure_ok h.1 (hread h hmem),
    fun h hmem => flattenOccurrence_ok h.1 (hflatten h hmem), rfl⟩⟩

/-- Histories as workers that started on an empty store can have left them, each read
at a moment of its own. -/
structure Produced (w : World) (histories : List (Uuid × List ExecutionEventRecord))
    (flattens : List (Uuid × List FlattenEventRecord)) : Prop where
  requests : ∀ h ∈ histories, ∃ s, Reachable w s ∧ h.2 = s.world.db.eventsFor h.1
  occurrences : ∀ h ∈ flattens, ∃ s, Reachable w s ∧ h.2 = s.world.db.flattenEventsFor h.1

/-- **What workers have recorded can be turned into an expectation.** -/
theorem Produced.derives {w : World} {histories : List (Uuid × List ExecutionEventRecord)}
    {flattens : List (Uuid × List FlattenEventRecord)} (hev : w.db.executionEvents = [])
    (hfl : w.db.flattenEvents = []) (h : Produced w histories flattens) :
    ∃ exposure, deriveExpectedExposure histories flattens = .ok exposure := by
  have hinit : Readable w.ledger := by
    constructor
    · simp [World.ledger, hev]
    · simp [World.ledger, hfl]
  refine deriveExpectedExposure_ok ?_ ?_
  · intro history hmem e he
    obtain ⟨s, hs, hes⟩ := h.requests history hmem
    rw [hes] at he
    exact (readable_reachable hinit hs).events e (List.mem_filter.mp he).1
  · intro history hmem e he
    obtain ⟨s, hs, hes⟩ := h.occurrences history hmem
    rw [hes] at he
    exact (readable_reachable hinit hs).flattenEvents e (List.mem_filter.mp he).1

end

/-! ## Which request a reason is about -/

/-- The reason names the request. -/
def Names (orderRequestId : Uuid) (reason : String) : Prop :=
  ∃ rest, reason = "order_request_id " ++ orderRequestId.text ++ rest

/-- A reason names one request only, their texts being of one length. -/
theorem Names.unique {r r' : Uuid} {reason : String} (h : Names r reason) (h' : Names r' reason)
    (hlen : r.text.length = r'.text.length) : r = r' := by
  obtain ⟨rest, rfl⟩ := h
  obtain ⟨rest', heq⟩ := h'
  have hlist := congrArg String.toList heq
  simp only [String.toList_append, List.append_assoc] at hlist
  have htail := List.append_cancel_left hlist
  have htext := (List.append_inj htail (by simpa only [String.length_toList] using hlen)).1
  cases r
  cases r'
  simpa using String.toList_inj.mp htext

/-- A reason an occurrence gives names no request. -/
theorem flattenOccurrence_reasons {flattenRequestId r : Uuid} {events : List FlattenEventRecord}
    {closed : List Int × List String} (h : flattenOccurrence flattenRequestId events = .ok closed)
    {reason : String} (hreason : reason ∈ closed.2) : ¬ Names r reason := by
  unfold flattenOccurrence at h
  split at h
  · cases h
    cases hreason
  rename_i commitment hcommitment
  split at h
  · rename_i resolved hresolved
    cases hclosed : resolved.intsAt "closed_tickets" with
    | error e => rw [hclosed] at h; cases h
    | ok tickets =>
        rw [hclosed] at h
        cases h
        cases hreason
  · cases htickets : instructionTickets commitment with
    | error e => rw [htickets] at h; cases h
    | ok tickets =>
        rw [htickets] at h
        cases h
        by_cases hnil : tickets = []
        · simp [hnil] at hreason
        · simp only [hnil, if_false, List.mem_singleton] at hreason
          subst hreason
          rintro ⟨rest, heq⟩
          have hhead := congrArg (fun s => s.toList.head?) heq
          simp [toString] at hhead

theorem unknown_names {r : Uuid} {rest reason : String}
    (h : reason ∈ (RequestExposure.unknown ("order_request_id " ++ r.text ++ rest)).reasons) :
    Names r reason := ⟨rest, List.mem_singleton.mp h⟩

theorem resolvedExposure_names {orderRequestId : Uuid} {payload : Option Json}
    {events : List ExecutionEventRecord} {one : RequestExposure}
    (h : resolvedExposure orderRequestId payload events = .ok one) {reason : String}
    (hreason : reason ∈ one.reasons) : Names orderRequestId reason := by
  unfold resolvedExposure at h
  split at h
  · cases h
    exact unknown_names hreason
  rename_i p
  split at h
  · cases h
    refine ⟨": " ++ (((p.get? "matching_position_count").map Json.text).getD
      "None" ++ " broker positions share its magic number -- cannot safely attribute any of "
      ++ "them to this request (integrity ambiguity, not a malformed payload)"), ?_⟩
    have hone := List.mem_singleton.mp hreason
    simpa [String.append_assoc, toString] using hone
  split at h
  · cases h
    exact unknown_names hreason
  rename_i submitted hsubmitted
  split at h
  · cases h
    cases hreason
  -- the tickets can be read: only an entry that may rest at the broker leaves a reason
  cases htickets : p.intsAt "matching_tickets" with
  | error e => rw [htickets] at h; cases h
  | ok tickets =>
  rw [htickets] at h
  cases hstop : stopLossPriceOf events with
  | error e => simp only [hstop] at h; cases h
  | ok stopLoss =>
  simp only [hstop] at h
  cases hentry : entryTypeOf events with
  | error e => simp only [hentry] at h; cases h
  | ok entryType =>
  simp only [hentry] at h
  cases h
  cases entryType with
  | none => cases hreason
  | some t =>
      refine ⟨" is a " ++ t.value ++ " entry; a resulting pending order cannot be attributed (D-049)",
        ?_⟩
      cases t with
      | market => cases hreason
      | limit => simpa [String.append_assoc, toString] using hreason
      | stop => simpa [String.append_assoc, toString] using hreason

theorem requestExposure_names {orderRequestId : Uuid} {events : List ExecutionEventRecord}
    {one : RequestExposure} (h : requestExposure orderRequestId events = .ok one) {reason : String}
    (hreason : reason ∈ one.reasons) : Names orderRequestId reason := by
  unfold requestExposure at h
  split at h
  · cases h
    cases hreason
  split at h
  · cases h
    exact unknown_names hreason
  · cases h
    exact unknown_names hreason
  · cases h
    cases hreason
  · exact resolvedExposure_names h hreason
  · cases h
    cases hreason

/--
**A request is named exactly when its own history gives a reason.** The requests'
texts have to be of one length, as those of UUIDs are.
-/
theorem named_iff {histories : List (Uuid × List ExecutionEventRecord)}
    {flattens : List (Uuid × List FlattenEventRecord)} {exposure : DerivedExposure}
    (h : deriveExpectedExposure histories flattens = .ok exposure)
    (hkeyed : (histories.map Prod.fst).Nodup)
    (hid : ∀ h ∈ histories, ∀ h' ∈ histories, h.1.text.length = h'.1.text.length)
    {history : Uuid × List ExecutionEventRecord} (hmem : history ∈ histories) :
    (∃ reason ∈ exposure.undeterminedReasons, Names history.1 reason)
      ↔ ∃ one, requestExposure history.1 history.2 = .ok one ∧ one.reasons ≠ [] := by
  obtain ⟨hread, hread', rfl⟩ := deriveExpectedExposure_iff.mp h
  constructor
  · rintro ⟨reason, hreason, hnames⟩
    rcases List.mem_append.mp hreason with hr | hr
    · obtain ⟨history', hmem', hin⟩ := List.mem_flatMap.mp hr
      obtain ⟨one, hone⟩ := hread history' hmem'
      rw [contribution_of_ok hone] at hin
      have hsame : history'.1 = history.1 :=
        (requestExposure_names hone hin).unique hnames (hid _ hmem' _ hmem)
      obtain rfl : history' = history := List.inj_on_of_nodup_map hkeyed hmem' hmem hsame
      exact ⟨one, hone, List.ne_nil_of_mem hin⟩
    · -- the reasons flattens give name no request
      obtain ⟨flatten, hmem', hin⟩ := List.mem_flatMap.mp hr
      obtain ⟨one, hone⟩ := hread' flatten hmem'
      rw [flattenContribution_of_ok hone] at hin
      exact absurd hnames (flattenOccurrence_reasons hone hin)
  · rintro ⟨one, hone, hne⟩
    obtain ⟨reason, hin⟩ := List.exists_mem_of_ne_nil _ hne
    refine ⟨reason, List.mem_append_left _ ?_, requestExposure_names hone hin⟩
    exact List.mem_flatMap.mpr ⟨history, hmem, by rw [contribution_of_ok hone]; exact hin⟩

/-! ## What is to be named -/

/-- A resolution that does not say which tickets the request has. -/
def Unattributed (events : List ExecutionEventRecord) : Option Json → Prop
  | none => True
  | some p =>
      ((p.get? "integrity_ambiguity").map Json.truthy).getD false = true
        ∨ p.get? "submitted" = none
        ∨ (((p.get? "submitted").map Json.truthy).getD false = true
            ∧ ∃ t, entryTypeOf events = .ok (some t) ∧ t ≠ .market)

/-- The last event of a history that is about exposure leaves it unknown. -/
def ExposureUnknown (events : List ExecutionEventRecord) : Prop :=
  ∃ e, lastExposureRelevant events = some e ∧
    (exposureByEvent e.eventType = .undetermined
      ∨ e.eventType = .ambiguousOutcomeResolved ∧ Unattributed events e.payload)

/-- The table's open outcomes that the derivation passes over. -/
def passedOver : List ExecutionEventType := [.filled, .brokerAck, .closed]

/-- A resolution that attributes nothing gives a reason. -/
theorem resolvedExposure_reasons {orderRequestId : Uuid} {payload : Option Json}
    {events : List ExecutionEventRecord} {one : RequestExposure}
    (h : resolvedExposure orderRequestId payload events = .ok one)
    (hun : Unattributed events payload) : one.reasons ≠ [] := by
  unfold resolvedExposure at h
  split at h
  · cases h
    simp [RequestExposure.unknown]
  rename_i p
  split at h
  · cases h
    simp [RequestExposure.unknown]
  rename_i hintegrity
  split at h
  · cases h
    simp [RequestExposure.unknown]
  rename_i submitted hsubmitted
  rcases hun with hun | hun | ⟨htruthy, t, ht, hne⟩
  · exact absurd hun hintegrity
  · rw [hsubmitted] at hun
    cases hun
  -- submitted, as an entry that may still rest at the broker
  simp only [hsubmitted, Option.map_some, Option.getD_some] at htruthy
  simp only [htruthy, Bool.not_true, Bool.false_eq_true, if_false] at h
  cases htickets : p.intsAt "matching_tickets" with
  | error e => rw [htickets] at h; cases h
  | ok tickets =>
  rw [htickets] at h
  cases hstop : stopLossPriceOf events with
  | error e => simp only [hstop] at h; cases h
  | ok stopLoss =>
  simp only [hstop, ht] at h
  cases h
  cases t with
  | market => exact absurd rfl hne
  | limit => simp
  | stop => simp

/-- **An open history gives a reason, unless its last event is passed over.** -/
theorem requestExposure_reasons {orderRequestId : Uuid} {events : List ExecutionEventRecord}
    {one : RequestExposure} (h : requestExposure orderRequestId events = .ok one)
    (hun : ExposureUnknown events) :
    one.reasons ≠ [] ↔ ∀ e, lastExposureRelevant events = some e → e.eventType ∉ passedOver := by
  obtain ⟨e, he, hopen⟩ := hun
  have hlast : (∀ e', lastExposureRelevant events = some e' → e'.eventType ∉ passedOver)
      ↔ e.eventType ∉ passedOver := by
    rw [he]
    exact ⟨fun h => h e rfl, fun h e' he' => by cases he'; exact h⟩
  rw [hlast]
  unfold requestExposure at h
  rw [he] at h
  dsimp only at h
  rcases hopen with htable | ⟨ht, hpayload⟩
  · cases ht : e.eventType <;> rw [ht] at htable h <;> first
      | (exact absurd htable (by decide))
      | (cases h; simp [RequestExposure.unknown, passedOver])
  · rw [ht] at h
    simp only at h
    rw [ht]
    exact ⟨fun _ => by decide, fun _ => resolvedExposure_reasons h hpayload⟩

/-! ## What it means for the comparison -/

section

variable [Externals]

/-- **An undetermined expectation never comes out as anything but UNKNOWN.** -/
theorem reconcile_unknown {expectation : ExpectedState} {now : UtcDatetime}
    (h : expectation.undeterminedReasons ≠ []) :
    Returns (fun result => result.status = .unknown) (reconcile expectation now) := by
  refine Returns.next fun snapshot => ?_
  split
  · rfl
  rename_i snapshot
  have hsome : snapshotUnknown snapshot expectation now ≠ none := fun hnone =>
    h (snapshotUnknown_eq_none.mp hnone).2.2.2
  split
  · rfl
  · rename_i hnone
    exact absurd hnone hsome

/-- Every request whose exposure is open is named, and no comparison against the
expectation can then come out as a match. -/
def UndeterminedReported (histories : List (Uuid × List ExecutionEventRecord))
    (exposure : DerivedExposure) : Prop :=
  ∀ history ∈ histories, ExposureUnknown history.2 →
    (∃ reason ∈ exposure.undeterminedReasons, Names history.1 reason)
      ∧ ∀ guard canonicalSymbol specVersion now,
          Returns (fun result => result.status = .unknown)
            (reconcile (.fromDurableExposure guard exposure canonicalSymbol specVersion) now)

/--
**When an open request is not counted as flat.** The histories workers record can
always be turned into an expectation. Whatever the histories, every request whose
exposure is open is named in it, and reconciliation is UNKNOWN, exactly when no open
history ends in one of the events the derivation passes over.
-/
theorem undetermined_reported_iff {histories : List (Uuid × List ExecutionEventRecord)}
    {flattens : List (Uuid × List FlattenEventRecord)} (hkeyed : (histories.map Prod.fst).Nodup)
    (hid : ∀ h ∈ histories, ∀ h' ∈ histories, h.1.text.length = h'.1.text.length) :
    (∀ w : World, w.db.executionEvents = [] → w.db.flattenEvents = [] →
        Produced w histories flattens →
        ∃ exposure, deriveExpectedExposure histories flattens = .ok exposure)
      ∧ ∀ exposure, deriveExpectedExposure histories flattens = .ok exposure →
          (UndeterminedReported histories exposure
            ↔ ∀ history ∈ histories, ∀ e, lastExposureRelevant history.2 = some e →
                e.eventType ∉ passedOver) := by
  refine ⟨fun w hev hfl h => h.derives hev hfl, fun exposure h => ?_⟩
  constructor
  · intro hreported history hmem e he hpassed
    have hun : ExposureUnknown history.2 := by
      refine ⟨e, he, .inl ?_⟩
      simp only [passedOver, List.mem_cons, List.not_mem_nil, or_false] at hpassed
      rcases hpassed with ht | ht | ht <;> rw [ht] <;> rfl
    obtain ⟨one, hone, hne⟩ := (named_iff h hkeyed hid hmem).mp (hreported history hmem hun).1
    exact (requestExposure_reasons hone hun).mp hne e he hpassed
  · intro hnone history hmem hun
    have hnamed : ∃ reason ∈ exposure.undeterminedReasons, Names history.1 reason := by
      refine (named_iff h hkeyed hid hmem).mpr ?_
      obtain ⟨one, hone⟩ := (deriveExpectedExposure_iff.mp h).1 history hmem
      exact ⟨one, hone, (requestExposure_reasons hone hun).mpr (hnone history hmem)⟩
    refine ⟨hnamed, fun _ _ _ _ => reconcile_unknown ?_⟩
    obtain ⟨reason, hreason, -⟩ := hnamed
    exact List.ne_nil_of_mem hreason

end

open Sample in
/-- The histories of a store whose one request is still waiting for its outcome. -/
theorem undetermined_reported_iff_sample :
    ∃ s, Reachable Sample.world s ∧
      let histories := [(orderRequestIdFor intent, s.world.db.eventsFor (orderRequestIdFor intent))]
      (histories.map Prod.fst).Nodup ∧ Produced Sample.world histories []
        ∧ ∃ exposure, deriveExpectedExposure histories [] = .ok exposure
          ∧ UndeterminedReported histories exposure := by
  have hrun : (workers.run Machine.unchecked (Machine.idle Sample.world) submission).any
      (fun s => decide ((lastExposureRelevant (s.world.db.eventsFor
        (orderRequestIdFor intent))).map (·.eventType) = some .submissionStarted)) = true := by
    decide +kernel
  obtain ⟨s, hs, hp⟩ := Machine.Reach.exists_of_run (G := Machine.Always) submission _
    (fun _ _ _ => trivial) hrun
  refine ⟨s, hs, ?_⟩
  intro histories
  have hkeyed : (histories.map Prod.fst).Nodup := by simp [histories]
  have hid : ∀ h ∈ histories, ∀ h' ∈ histories, h.1.text.length = h'.1.text.length := by
    simp [histories]
  have hproduced : Produced Sample.world histories [] := by
    refine ⟨?_, by simp⟩
    intro h hmem
    obtain rfl := List.mem_singleton.mp hmem
    exact ⟨s, hs, rfl⟩
  obtain ⟨hok, hiff⟩ := @undetermined_reported_iff _ _ [] hkeyed hid
  obtain ⟨exposure, hexposure⟩ := hok Sample.world rfl rfl hproduced
  refine ⟨hkeyed, hproduced, exposure, hexposure, (hiff exposure hexposure).mpr ?_⟩
  intro h hmem e he
  obtain rfl := List.mem_singleton.mp hmem
  have ht := of_decide_eq_true hp
  rw [he] at ht
  have hstarted : e.eventType = .submissionStarted := Option.some.inj ht
  rw [hstarted]
  decide

open Sample in
/--
**A fill is passed over.** A worker takes one request through to the broker's fill,
recorded as FILLED; its exposure is open by the table, and no reason is given for it.
-/
theorem fill_counted_as_flat :
    ∃ s, Reachable Sample.world s ∧
      let histories := [(orderRequestIdFor intent, s.world.db.eventsFor (orderRequestIdFor intent))]
      ∃ exposure, deriveExpectedExposure histories [] = .ok exposure
        ∧ exposure.undeterminedReasons = [] ∧ exposure.expectedPositionTickets = []
        ∧ ¬ UndeterminedReported histories exposure := by
  have hrun : (workers.run Machine.unchecked (Machine.idle Sample.world)
      (submission ++ served 0 2)).any (fun s => decide ((lastExposureRelevant
        (s.world.db.eventsFor (orderRequestIdFor intent))).map (·.eventType) = some .filled))
        = true := by
    decide +kernel
  obtain ⟨s, hs, hp⟩ := Machine.Reach.exists_of_run (G := Machine.Always) _ _
    (fun _ _ _ => trivial) hrun
  obtain ⟨e, he, ht⟩ := Option.map_eq_some_iff.mp (of_decide_eq_true hp)
  refine ⟨s, hs, ?_⟩
  intro histories
  have hone : requestExposure (orderRequestIdFor intent)
      (s.world.db.eventsFor (orderRequestIdFor intent)) = .ok ⟨none, none, []⟩ := by
    simp [requestExposure, he, ht]
  have hexposure : deriveExpectedExposure histories [] = .ok .empty := by
    simp only [deriveExpectedExposure, histories, gatherExposure, hone]
    rfl
  refine ⟨_, hexposure, rfl, rfl, fun hreported => ?_⟩
  have hopen : ExposureUnknown (s.world.db.eventsFor (orderRequestIdFor intent)) :=
    ⟨e, he, .inl (by rw [ht]; rfl)⟩
  obtain ⟨⟨reason, hreason, -⟩, -⟩ := hreported _ (List.mem_singleton.mpr rfl) hopen
  cases hreason

end Crumblr
