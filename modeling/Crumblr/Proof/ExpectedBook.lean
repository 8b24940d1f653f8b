import Crumblr.Proof.Exposure

/-!
# The book the histories add up to

The derivation folds two independent logs. Said without the fold: a request is determined
when its own history *opens* a set of tickets, which may be empty, and what is expected of it
is that set without what resolved flattens *closed*. The whole book is the union over the
determined requests. Which order the histories come in shows in one place only, the order in
which the reasons are listed, and a flatten without an outcome shows in the reasons alone.
-/

namespace Crumblr

/-! ## What the histories prove -/

/-- The request ends in a resolution that says whether it was submitted, and is safe to
attribute positions by. -/
structure Attribution (events : List ExecutionEventRecord) (payload submitted : Json) : Prop where
  last : ∃ e, lastExposureRelevant events = some e ∧ e.eventType = .ambiguousOutcomeResolved
    ∧ e.payload = some payload
  attributable : ((payload.get? "integrity_ambiguity").map Json.truthy).getD false = false
  answered : payload.get? "submitted" = some submitted

/-- The history proves which tickets its request opened. -/
inductive Opened (events : List ExecutionEventRecord) : List Int → Prop where
  | rejected (e : ExecutionEventRecord) (hlast : lastExposureRelevant events = some e)
      (htype : e.eventType = .rejected) : Opened events []
  | notSubmitted (payload submitted : Json) (h : Attribution events payload submitted)
      (hnot : submitted.truthy = false) : Opened events []
  | submitted (payload submitted : Json) (tickets : List Int)
      (h : Attribution events payload submitted) (hyes : submitted.truthy = true)
      (htickets : payload.intsAt "matching_tickets" = .ok tickets) : Opened events tickets

/-- The occurrence was committed to, and its outcome names the tickets it closed. -/
structure Resolved (events : List FlattenEventRecord) (closed : List Int) : Prop where
  committed : ∃ payload, lastFlattenPayload .flattenSubmissionStarted events = some payload
  resolved : ∃ payload, lastFlattenPayload .flattenOutcomeResolved events = some payload
    ∧ payload.intsAt "closed_tickets" = .ok closed

/-- Whatever was committed to, no outcome is on record. -/
def Unresolved (events : List FlattenEventRecord) : Prop :=
  lastFlattenPayload .flattenOutcomeResolved events = none

/-- Some resolved flatten closed the ticket. -/
def ClosedByFlatten (flattens : List (Uuid × List FlattenEventRecord)) (t : Int) : Prop :=
  ∃ flatten ∈ flattens, ∃ closed, Resolved flatten.2 closed ∧ t ∈ closed

/-- The exposure of a resolution that can be attributed, by what it says of submission. -/
theorem resolvedExposure_of_resolution {orderRequestId : Uuid}
    {events : List ExecutionEventRecord} {payload submitted : Json}
    (h : Attribution events payload submitted) {one : RequestExposure}
    (hone : resolvedExposure orderRequestId (some payload) events = .ok one) :
    if submitted.truthy then ∃ tickets, payload.intsAt "matching_tickets" = .ok tickets
      ∧ one.determined = some tickets
    else one.determined = some [] := by
  unfold resolvedExposure at hone
  simp only [h.attributable, h.answered, Bool.false_eq_true, if_false] at hone
  cases htruthy : submitted.truthy with
  | false =>
      simp only [htruthy, Bool.not_false, if_true] at hone
      cases hone
      rfl
  | true =>
      simp only [htruthy, Bool.not_true, Bool.false_eq_true, if_false] at hone
      obtain ⟨tickets, htickets, hone⟩ := bind_ok hone
      obtain ⟨stopLoss, -, hone⟩ := bind_ok hone
      obtain ⟨entryType, -, hone⟩ := bind_ok hone
      cases hone
      exact ⟨tickets, htickets, rfl⟩

/-- A request is determined by a rejection, or by a resolution that can be attributed. -/
theorem opened_of_determined {orderRequestId : Uuid} {events : List ExecutionEventRecord}
    {one : RequestExposure} (h : requestExposure orderRequestId events = .ok one)
    {tickets : List Int} (hd : one.determined = some tickets) : Opened events tickets := by
  obtain ⟨e, hlast, htype | htype⟩ := requestExposure_determined h (by rw [hd]; rfl)
  · unfold requestExposure at h
    simp only [hlast, htype] at h
    cases h
    cases hd
    exact .rejected e hlast htype
  · unfold requestExposure at h
    simp only [hlast, htype] at h
    cases hpayload : e.payload with
    | none =>
        rw [hpayload] at h
        cases h
        cases hd
    | some payload =>
    rw [hpayload] at h
    have hone := h
    unfold resolvedExposure at h
    dsimp only at h
    split at h
    · cases h
      cases hd
    rename_i hattributable
    split at h
    · cases h
      cases hd
    rename_i submitted hsubmitted
    have hresolution : Attribution events payload submitted :=
      ⟨⟨e, hlast, htype, hpayload⟩, by simpa using hattributable, hsubmitted⟩
    have hthen := resolvedExposure_of_resolution hresolution hone
    split at hthen
    case isTrue hyes =>
      obtain ⟨tickets', htickets, hd'⟩ := hthen
      obtain rfl : tickets' = tickets := Option.some.inj (hd'.symm.trans hd)
      exact .submitted payload submitted _ hresolution hyes htickets
    case isFalse hnot =>
      obtain rfl : [] = tickets := Option.some.inj (hthen.symm.trans hd)
      exact .notSubmitted payload submitted hresolution (by simpa using hnot)

/-- **What a request contributes is what its history proves.** -/
theorem requestExposure_opened {orderRequestId : Uuid} {events : List ExecutionEventRecord}
    {one : RequestExposure} (h : requestExposure orderRequestId events = .ok one)
    (tickets : List Int) : one.determined = some tickets ↔ Opened events tickets := by
  refine ⟨opened_of_determined h, fun hopened => ?_⟩
  have hresolved : ∀ {payload submitted}, Attribution events payload submitted →
      resolvedExposure orderRequestId (some payload) events = .ok one := by
    intro payload submitted hresolution
    obtain ⟨e, hlast, htype, hpayload⟩ := hresolution.last
    unfold requestExposure at h
    simpa only [hlast, htype, hpayload] using h
  cases hopened with
  | rejected e hlast htype =>
      unfold requestExposure at h
      simp only [hlast, htype] at h
      cases h
      rfl
  | notSubmitted payload submitted hresolution hnot =>
      have hthen := resolvedExposure_of_resolution hresolution (hresolved hresolution)
      rwa [hnot] at hthen
  | submitted payload submitted tickets hresolution hyes htickets =>
      have hthen := resolvedExposure_of_resolution hresolution (hresolved hresolution)
      rw [hyes, if_pos rfl] at hthen
      obtain ⟨tickets', htickets', hd⟩ := hthen
      rw [hd, Except.ok.inj (htickets'.symm.trans htickets)]

/-- **What an occurrence takes off is what its outcome names.** -/
theorem flattenOccurrence_closed {flattenRequestId : Uuid} {events : List FlattenEventRecord}
    {one : List Int × List String} (h : flattenOccurrence flattenRequestId events = .ok one)
    (t : Int) : t ∈ one.1 ↔ ∃ closed, Resolved events closed ∧ t ∈ closed := by
  unfold flattenOccurrence at h
  cases hcommitted : lastFlattenPayload .flattenSubmissionStarted events with
  | none =>
      simp only [hcommitted] at h
      cases h
      refine iff_of_false List.not_mem_nil ?_
      rintro ⟨closed, ⟨⟨payload, hpayload⟩, -⟩, -⟩
      rw [hcommitted] at hpayload
      cases hpayload
  | some commitment =>
  simp only [hcommitted] at h
  cases hresolved : lastFlattenPayload .flattenOutcomeResolved events with
  | none =>
      simp only [hresolved] at h
      obtain ⟨tickets, -, h⟩ := bind_ok h
      cases h
      refine iff_of_false List.not_mem_nil ?_
      rintro ⟨closed, ⟨-, payload, hpayload, -⟩, -⟩
      rw [hresolved] at hpayload
      cases hpayload
  | some outcome =>
      simp only [hresolved] at h
      obtain ⟨closed, hclosed, h⟩ := bind_ok h
      cases h
      constructor
      · exact fun ht => ⟨closed, ⟨⟨commitment, hcommitted⟩, outcome, hresolved, hclosed⟩, ht⟩
      · rintro ⟨closed', ⟨-, payload, hpayload, hclosed'⟩, ht⟩
        obtain rfl : outcome = payload := Option.some.inj (hresolved.symm.trans hpayload)
        rwa [Except.ok.inj (hclosed'.symm.trans hclosed)] at ht

/-- **Without an outcome nothing is taken off.** -/
theorem flattenContribution_unresolved {flatten : Uuid × List FlattenEventRecord}
    (hread : ∃ one, flattenOccurrence flatten.1 flatten.2 = .ok one)
    (h : Unresolved flatten.2) : (flattenContribution flatten).1 = [] := by
  obtain ⟨one, hone⟩ := hread
  rw [flattenContribution_of_ok hone, List.eq_nil_iff_forall_not_mem]
  intro t ht
  obtain ⟨closed, ⟨-, payload, hpayload, -⟩, -⟩ := (flattenOccurrence_closed hone t).mp ht
  rw [h] at hpayload
  cases hpayload

/-! ## Tables with one entry a key -/

section

variable {α : Type} {table table' : List (Uuid × α)}

theorem lookupLast_eq_some_iff (h : (table.map Prod.fst).Nodup) {key : Uuid} {value : α} :
    lookupLast table key = some value ↔ (key, value) ∈ table := by
  unfold lookupLast
  rw [Option.map_eq_some_iff]
  constructor
  · rintro ⟨⟨key', value'⟩, hfind, rfl⟩
    have hkey : key' = key := by simpa using List.find?_some hfind
    have hmem : (key', value') ∈ table := by simpa using List.mem_of_find?_eq_some hfind
    exact hkey ▸ hmem
  · intro hmem
    cases hfind : table.reverse.find? fun e => e.1 = key with
    | none =>
        have := List.find?_eq_none.mp hfind (key, value) (List.mem_reverse.mpr hmem)
        simp at this
    | some found =>
        have hkey : found.1 = key := by simpa using List.find?_some hfind
        have hmem' : found ∈ table := by simpa using List.mem_of_find?_eq_some hfind
        obtain rfl : found = (key, value) := List.inj_on_of_nodup_map h hmem' hmem hkey
        exact ⟨_, rfl, rfl⟩

/-- With one entry a key, the order of a table is not observable. -/
theorem lookupLast_perm (h : (table.map Prod.fst).Nodup) (hperm : table.Perm table')
    (key : Uuid) : lookupLast table key = lookupLast table' key := by
  have h' : (table'.map Prod.fst).Nodup := (hperm.map Prod.fst).nodup_iff.mp h
  refine Option.ext fun value => ?_
  rw [lookupLast_eq_some_iff h, lookupLast_eq_some_iff h', hperm.mem_iff]

end

/-! ## The derived tables -/

variable {histories histories' : List (Uuid × List ExecutionEventRecord)}
  {flattens flattens' : List (Uuid × List FlattenEventRecord)} {exposure : DerivedExposure}

theorem keys_ticketsByRequest : (derived histories flattens).ticketsByRequest.map Prod.fst
    = (derived histories flattens).determinedRequestIds := by
  simp only [derived, gathered, List.map_map, List.map_flatMap]
  refine List.flatMap_congr fun history _ => ?_
  cases (contribution history).determined <;> rfl

theorem determinedRequestIds_sublist :
    (derived histories flattens).determinedRequestIds.Sublist (histories.map Prod.fst) := by
  simp only [derived, gathered]
  induction histories with
  | nil => exact List.Sublist.slnil
  | cons history histories ih =>
      rw [List.flatMap_cons, List.map_cons]
      cases (contribution history).determined with
      | none => exact ih.cons _
      | some tickets => exact ih.cons_cons _

theorem keys_stopLosses_sublist :
    ((derived histories flattens).expectedStopLossByRequest.map Prod.fst).Sublist
      (histories.map Prod.fst) := by
  simp only [derived, gathered]
  induction histories with
  | nil => exact List.Sublist.slnil
  | cons history histories ih =>
      rw [List.flatMap_cons, List.map_append, List.map_cons]
      cases (contribution history).stopLoss with
      | none => exact ih.cons _
      | some stopLoss => exact ih.cons_cons _

theorem mem_ticketsByRequest {r : Uuid} {tickets : List Int} :
    (r, tickets) ∈ (derived histories flattens).ticketsByRequest
      ↔ ∃ events opened, (r, events) ∈ histories
        ∧ (contribution (r, events)).determined = some opened
        ∧ tickets = opened.filter (fun t => t ∉ closedByFlatten flattens) := by
  simp only [derived, gathered, List.mem_map, List.mem_flatMap, Option.mem_toList,
    Option.map_eq_some_iff]
  constructor
  · rintro ⟨-, ⟨⟨r', events⟩, hmem, opened, hopened, rfl⟩, heq⟩
    cases heq
    exact ⟨events, opened, hmem, hopened, rfl⟩
  · rintro ⟨events, opened, hmem, hopened, rfl⟩
    exact ⟨(r, opened), ⟨(r, events), hmem, opened, hopened, rfl⟩, rfl⟩

theorem mem_expectedPositionTickets {t : Int} :
    t ∈ (derived histories flattens).expectedPositionTickets
      ↔ ∃ r tickets, (r, tickets) ∈ (derived histories flattens).ticketsByRequest
        ∧ t ∈ tickets := by
  simp only [mem_ticketsByRequest]
  simp only [derived, gathered, List.mem_filter, List.mem_flatMap, decide_eq_true_eq]
  constructor
  · rintro ⟨⟨⟨r, events⟩, hmem, ht⟩, hnot⟩
    cases hopened : (contribution (r, events)).determined with
    | none => rw [hopened] at ht; cases ht
    | some opened =>
        rw [hopened] at ht
        exact ⟨r, _, ⟨events, opened, hmem, hopened, rfl⟩, by simpa using ⟨ht, hnot⟩⟩
  · rintro ⟨r, tickets, ⟨events, opened, hmem, hopened, rfl⟩, ht⟩
    have ht' : t ∈ opened ∧ t ∉ closedByFlatten flattens := by simpa using ht
    exact ⟨⟨(r, events), hmem, by rw [hopened]; exact ht'.1⟩, ht'.2⟩

theorem mem_closedByFlatten (hread : ∀ h ∈ flattens, ∃ one, flattenOccurrence h.1 h.2 = .ok one)
    {t : Int} : t ∈ closedByFlatten flattens ↔ ClosedByFlatten flattens t := by
  unfold closedByFlatten ClosedByFlatten
  rw [List.mem_flatMap]
  refine exists_congr fun flatten => and_congr_right fun hmem => ?_
  obtain ⟨one, hone⟩ := hread flatten hmem
  rw [flattenContribution_of_ok hone, flattenOccurrence_closed hone]

/-! ## The book -/

/-- What the derived exposure says, without the fold that made it. -/
structure ExpectedBook (histories : List (Uuid × List ExecutionEventRecord))
    (flattens : List (Uuid × List FlattenEventRecord)) (exposure : DerivedExposure) : Prop where
  /-- The expected tickets are the union of the requests' tickets. -/
  union : ∀ t, t ∈ exposure.expectedPositionTickets
    ↔ ∃ r tickets, lookupLast exposure.ticketsByRequest r = some tickets ∧ t ∈ tickets
  /-- A request's tickets are those it opened, less those resolved flattens closed. -/
  perRequest : ∀ r tickets, lookupLast exposure.ticketsByRequest r = some tickets →
    ∃ events opened, (r, events) ∈ histories ∧ Opened events opened
      ∧ ∀ t, t ∈ tickets ↔ t ∈ opened ∧ ¬ ClosedByFlatten flattens t
  /-- The determined requests are the keys. -/
  keys : ∀ r, r ∈ exposure.determinedRequestIds
    ↔ ∃ tickets, lookupLast exposure.ticketsByRequest r = some tickets
  /-- And they are the requests whose own history proves what was opened. -/
  determined : ∀ r, r ∈ exposure.determinedRequestIds
    ↔ ∃ events opened, (r, events) ∈ histories ∧ Opened events opened

/-- Two exposures that agree as sets and mappings on everything but their reasons. -/
structure SameBook (e e' : DerivedExposure) : Prop where
  positions : ∀ t, t ∈ e.expectedPositionTickets ↔ t ∈ e'.expectedPositionTickets
  pendingOrders : ∀ o, o ∈ e.expectedPendingOrderIds ↔ o ∈ e'.expectedPendingOrderIds
  tickets : ∀ r, lookupLast e.ticketsByRequest r = lookupLast e'.ticketsByRequest r
  determined : ∀ r, r ∈ e.determinedRequestIds ↔ r ∈ e'.determinedRequestIds
  stopLosses : ∀ r,
    lookupLast e.expectedStopLossByRequest r = lookupLast e'.expectedStopLossByRequest r

/-- With one history a request, the derived exposure is the book. -/
theorem expectedBook_of_derive (hone : (histories.map Prod.fst).Nodup)
    (h : deriveExpectedExposure histories flattens = .ok exposure) :
    ExpectedBook histories flattens exposure := by
  obtain ⟨hread, hread', rfl⟩ := deriveExpectedExposure_iff.mp h
  have hnodup : ((derived histories flattens).ticketsByRequest.map Prod.fst).Nodup := by
    rw [keys_ticketsByRequest]
    exact determinedRequestIds_sublist.nodup hone
  have hopened : ∀ {r events opened}, (r, events) ∈ histories →
      ((contribution (r, events)).determined = some opened ↔ Opened events opened) := by
    intro r events opened hmem
    obtain ⟨one, hone⟩ := hread (r, events) hmem
    rw [contribution_of_ok hone]
    exact requestExposure_opened hone opened
  have hkeys : ∀ r, r ∈ (derived histories flattens).determinedRequestIds
      ↔ ∃ tickets, lookupLast (derived histories flattens).ticketsByRequest r = some tickets := by
    intro r
    rw [← keys_ticketsByRequest, List.mem_map]
    simp only [lookupLast_eq_some_iff hnodup]
    constructor
    · rintro ⟨⟨r', tickets⟩, hmem, rfl⟩
      exact ⟨tickets, hmem⟩
    · rintro ⟨tickets, hmem⟩
      exact ⟨(r, tickets), hmem, rfl⟩
  refine ⟨fun t => ?_, fun r tickets hlookup => ?_, hkeys, fun r => ?_⟩
  · simp only [lookupLast_eq_some_iff hnodup]
    exact mem_expectedPositionTickets
  · obtain ⟨events, opened, hmem, hd, rfl⟩ :=
      mem_ticketsByRequest.mp ((lookupLast_eq_some_iff hnodup).mp hlookup)
    refine ⟨events, opened, hmem, (hopened hmem).mp hd, fun t => ?_⟩
    rw [← mem_closedByFlatten hread']
    simp
  · rw [hkeys]
    simp only [lookupLast_eq_some_iff hnodup, mem_ticketsByRequest]
    constructor
    · rintro ⟨tickets, events, opened, hmem, hd, -⟩
      exact ⟨events, opened, hmem, (hopened hmem).mp hd⟩
    · rintro ⟨events, opened, hmem, hproof⟩
      exact ⟨_, events, opened, hmem, (hopened hmem).mpr hproof, rfl⟩

/-- Flattens that close the same tickets leave the same book. -/
theorem sameBook_of_closed
    (hclosed : ∀ t, t ∈ closedByFlatten flattens ↔ t ∈ closedByFlatten flattens') :
    SameBook (derived histories flattens) (derived histories flattens') := by
  have hfilter : (fun t => decide (t ∉ closedByFlatten flattens))
      = fun t => decide (t ∉ closedByFlatten flattens') := by
    funext t
    rw [decide_eq_decide, hclosed]
  constructor
  · intro t
    simp only [derived, List.mem_filter, hfilter]
  · exact fun _ => Iff.rfl
  · intro r
    simp only [derived, hfilter]
  · exact fun _ => Iff.rfl
  · exact fun _ => rfl

/-- The order of the requests shows in no set and in no mapping. -/
theorem sameBook_of_perm (hone : (histories.map Prod.fst).Nodup)
    (hperm : histories.Perm histories') :
    SameBook (derived histories flattens) (derived histories' flattens) := by
  have hkeys : ((derived histories flattens).ticketsByRequest.map Prod.fst).Nodup := by
    rw [keys_ticketsByRequest]
    exact determinedRequestIds_sublist.nodup hone
  constructor
  · intro t
    exact ((hperm.flatMap_right _).filter _).mem_iff
  · exact fun _ => Iff.rfl
  · exact lookupLast_perm hkeys ((hperm.flatMap_right _).map _)
  · intro r
    exact (hperm.flatMap_right _).mem_iff
  · exact lookupLast_perm (keys_stopLosses_sublist.nodup hone) (hperm.flatMap_right _)

theorem SameBook.trans {e e' e'' : DerivedExposure} (h : SameBook e e') (h' : SameBook e' e'') :
    SameBook e e'' where
  positions t := (h.positions t).trans (h'.positions t)
  pendingOrders o := (h.pendingOrders o).trans (h'.pendingOrders o)
  tickets r := (h.tickets r).trans (h'.tickets r)
  determined r := (h.determined r).trans (h'.determined r)
  stopLosses r := (h.stopLosses r).trans (h'.stopLosses r)

/--
**The expected book.** From histories with one entry a request, what is derived is the union
over the requests of what each one's history opened, less what resolved flattens closed, the
determined requests being the keys. In another order the histories give the same book, and the
same reasons in another order; a flatten without an outcome leaves the book as it is without
that flatten.
-/
theorem expected_book (hone : (histories.map Prod.fst).Nodup)
    (h : deriveExpectedExposure histories flattens = .ok exposure) :
    ExpectedBook histories flattens exposure
      ∧ (∀ histories' flattens', histories.Perm histories' → flattens.Perm flattens' →
          ∃ exposure', deriveExpectedExposure histories' flattens' = .ok exposure'
            ∧ SameBook exposure exposure'
            ∧ exposure.undeterminedReasons.Perm exposure'.undeterminedReasons)
      ∧ (∀ before flatten after, flattens = before ++ flatten :: after → Unresolved flatten.2 →
          ∃ exposure', deriveExpectedExposure histories (before ++ after) = .ok exposure'
            ∧ SameBook exposure exposure') := by
  obtain ⟨hread, hread', hexposure⟩ := deriveExpectedExposure_iff.mp h
  refine ⟨expectedBook_of_derive hone h, ?_, ?_⟩
  · intro histories' flattens' hperm hperm'
    refine ⟨derived histories' flattens', deriveExpectedExposure_iff.mpr
      ⟨fun h hh => hread h (hperm.mem_iff.mpr hh), fun h hh => hread' h (hperm'.mem_iff.mpr hh),
        rfl⟩, ?_, ?_⟩
    · rw [hexposure]
      have hclosed : ∀ t, t ∈ closedByFlatten flattens ↔ t ∈ closedByFlatten flattens' :=
        fun t => (hperm'.flatMap_right _).mem_iff
      exact (sameBook_of_closed hclosed).trans (sameBook_of_perm hone hperm)
    · rw [hexposure]
      exact (hperm.flatMap_right _).append (hperm'.flatMap_right _)
  · rintro before flatten after rfl hunresolved
    have hmem : ∀ h ∈ before ++ after, h ∈ before ++ flatten :: after := by
      intro h hh
      rcases List.mem_append.mp hh with hh | hh
      · exact List.mem_append_left _ hh
      · exact List.mem_append_right _ (List.mem_cons_of_mem _ hh)
    refine ⟨derived histories (before ++ after), deriveExpectedExposure_iff.mpr
      ⟨hread, fun h hh => hread' h (hmem h hh), rfl⟩, ?_⟩
    rw [hexposure]
    refine sameBook_of_closed fun t => ?_
    have hnothing : (flattenContribution flatten).1 = [] :=
      flattenContribution_unresolved (hread' flatten (by simp)) hunresolved
    simp only [closedByFlatten, List.flatMap_append, List.flatMap_cons, hnothing, List.nil_append]

namespace Sample

/-- An event of a history, with what it records. -/
def booked (r : Uuid) (eventType : ExecutionEventType) (payload : Option Json) :
    ExecutionEventRecord :=
  ⟨r, eventType, 0, [], none, payload⟩

/-- A request that was sent and whose outcome is not known. -/
def stuck (id : String) : Uuid × List ExecutionEventRecord :=
  (⟨id⟩, [booked ⟨id⟩ .submissionStarted none])

/-- A request found at the broker under one ticket. -/
def foundUnder (id : String) (ticket : Int) : Uuid × List ExecutionEventRecord :=
  (⟨id⟩, [booked ⟨id⟩ .submissionStarted none,
    booked ⟨id⟩ .ambiguousOutcomeResolved (some (.obj [("submitted", .bool true),
      ("matching_tickets", .list [.int ticket])]))])

/-- A flatten that was committed to, and its outcome if it has one. -/
def closing (id : String) (ticket : Int) (outcome : Option (List Int)) :
    Uuid × List FlattenEventRecord :=
  (⟨id⟩, ⟨⟨id⟩, .flattenSubmissionStarted, 0, [], none,
      some (.obj [("instructions", .list [.obj [("ticket", .int ticket)]])])⟩
    :: (outcome.map fun closed => ⟨⟨id⟩, .flattenOutcomeResolved, 0, [], none,
      some (.obj [("closed_tickets", .list (closed.map .int))])⟩).toList)

/-- The reasons of what is derived. -/
def derivedReasons (e : Except PyError DerivedExposure) : Option (List String) :=
  e.toOption.map (·.undeterminedReasons)

end Sample

open Sample in
/-- Two requests that are stuck give their reasons in the order they are read in, so the result
is not the same in another order; and of a request supplied twice the union has a ticket that
no request's own set has. -/
theorem reasons_follow_the_order :
    (derivedReasons (deriveExpectedExposure [stuck "a", stuck "b"] [])
        ≠ derivedReasons (deriveExpectedExposure [stuck "b", stuck "a"] []))
      ∧ ∃ exposure,
          deriveExpectedExposure [foundUnder "a" 1, foundUnder "a" 2] [] = .ok exposure
          ∧ 1 ∈ exposure.expectedPositionTickets
          ∧ lookupLast exposure.ticketsByRequest ⟨"a"⟩ = some [2] := by
  refine ⟨by decide +kernel, _, rfl, ?_, ?_⟩ <;> decide +kernel

open Sample in
/-- A book of two requests: one flatten closed the first's ticket, another, of the second's, has
no outcome. -/
theorem expected_book_sample :
    ∃ exposure, deriveExpectedExposure [foundUnder "a" 1, foundUnder "b" 2]
        [closing "f" 1 (some [1]), closing "g" 2 none] = .ok exposure
      ∧ ExpectedBook [foundUnder "a" 1, foundUnder "b" 2]
          [closing "f" 1 (some [1]), closing "g" 2 none] exposure :=
  ⟨_, rfl, (expected_book (by decide) rfl).1⟩

end Crumblr
