import Crumblr.Proof.Commitments

/-!
# Where a recorded outcome comes from

A pass records FILLED, REJECTED or SUBMITTED on one of two grounds: the broker's answer
to the order it sent, or, of a resting order alone, a history that says SUBMITTED. The
discipline says so, and every pass keeps to it.
-/

namespace Crumblr

open ExecutionOrchestrator

/-- The pass sent the order, and the broker's answer is recorded as this event. -/
def Told (past : Past) (e : ExecutionEventRecord) : Prop :=
  ∃ order result payload, ⟨.orderSend order, .ok result⟩ ∈ past
    ∧ order.orderRequestId = e.orderRequestId
    ∧ normalizeExecutionResult result = .ok (e.eventType, payload)

/-- The event is the fill of an order the pass read to have been resting. -/
def FoundFilled (past : Past) (e : ExecutionEventRecord) : Prop :=
  e.eventType = .filled ∧ ∃ events, ⟨.eventsFor e.orderRequestId, .ok events⟩ ∈ past
    ∧ ∃ last ∈ events, last.eventType = .submitted

/-- A recorded outcome has its ground behind it. -/
def outcomeDiscipline : Discipline Call Call.Answer PyError where
  allows := fun past c => match c with
    | .append e => e.eventType ∈ brokerOutcomes → Told past e ∨ FoundFilled past e
    | _ => True
  answers := mayAnswer

variable {α β : Type} {l : List ExecutionEventType} {past : Past}

/-- The program records outcomes on their grounds. -/
abbrev Grounded (past : Past) (p : Pass α) : Prop :=
  Leads outcomeDiscipline.protocol past p fun _ _ => True

theorem outcomeDiscipline_lets {c : Call} (hl : ∀ t ∈ l, t ∉ brokerOutcomes)
    (hc : Records l c) : outcomeDiscipline.allows past c := by
  cases c with
  | append e => exact fun h => absurd h (hl e.eventType hc)
  | _ => trivial

/-- What records no outcome is free. -/
theorem grounds_nothing {p : Pass α} (hp : Only (Records l) p)
    (hl : ∀ t ∈ l, t ∉ brokerOutcomes) : Grounded past p :=
  Leads.frame hp (fun _ _ hc => outcomeDiscipline_lets hl hc) (fun _ _ _ _ _ => trivial) trivial

/-- A part that records no outcome, and then the rest. -/
theorem grounds_after {p : Pass α} {f : α → Pass β} (hp : Only (Records l) p)
    (hl : ∀ t ∈ l, t ∉ brokerOutcomes) (hf : ∀ past' a, Grounded past' (f a)) :
    Grounded past (Prog.bind p f) :=
  Leads.seq (grounds_nothing hp hl) fun past' a _ => hf past' a

theorem grounds_ask {c : Call} {f : c.Answer → Pass β} (hc : Records [] c)
    (hf : ∀ past' a, Grounded past' (f a)) : Grounded past (Prog.bind (ask c) f) :=
  grounds_after (only_ask hc) (by decide) hf

/-! ## The entry chain -/

theorem grounds_sendOrder {p : Prepared} (hid : p.order.orderRequestId = p.orderRequestId) :
    Grounded past (sendOrder p) := by
  refine Leads.seq (R := fun past' result => ∀ r, result = some r →
    ⟨.orderSend p.order, .ok r⟩ ∈ past') ?_ fun past' result htold => ?_
  · refine Leads.rescue (Conforms.bind.mpr (Conforms.perform.mpr ⟨trivial, ?_⟩))
    rintro a past' ⟨-, rfl⟩
    cases a with
    | ok result =>
        rintro r ⟨⟩
        exact List.mem_cons_self ..
    | error e =>
        show Leads _ _ (if e.kind = .mt5CallFailed then _ else _) _
        split
        · exact Leads.ret.mpr fun _ h => by cases h
        · exact Leads.raise.mpr trivial
  · cases result with
    | none => exact Leads.ret.mpr trivial
    | some result =>
        refine leads_lift fun ⟨eventType, payload⟩ hn => Leads.next trivial fun now _ => ?_
        refine Leads.seq (leads_append fun _ => .inl ?_) fun _ _ _ => Leads.ret.mpr trivial
        exact ⟨p.order, result, payload, List.mem_cons_of_mem _ (htold result rfl), hid, hn⟩

variable [Externals] {self : ExecutionOrchestrator} {now : UtcDatetime}

theorem grounds_attemptRealEntrySubmission {canary : CanaryEntrySubmissionConfig} {p : Prepared}
    (hid : p.order.orderRequestId = p.orderRequestId) :
    Grounded past (self.attemptRealEntrySubmission canary p) := by
  have hblocked : ∀ past reasons, Grounded past (refuse p.orderRequestId p.capsule
      .canaryPermitBlocked reasons p.finalNow none none) :=
    fun _ _ => grounds_nothing (records_refuse (List.mem_singleton_self _)) (by decide)
  unfold attemptRealEntrySubmission
  split
  · exact hblocked ..
  refine grounds_ask trivial fun past₁ permit => leads_lift fun mismatches _ => ?_
  split
  · exact hblocked ..
  refine leads_lift fun permit _ => Leads.next trivial fun outcome _ => ?_
  split
  · exact grounds_sendOrder hid
  · exact hblocked ..

theorem grounds_checkAndSubmit {p : Prepared} (hid : p.order.orderRequestId = p.orderRequestId) :
    Grounded past (self.checkAndSubmit p) := by
  refine grounds_ask trivial fun past₁ check => ?_
  have hchecked : ∀ accepted : Bool,
      (if accepted then ExecutionEventType.orderChecked else .orderCheckRejected)
        ∈ [ExecutionEventType.orderChecked, .orderCheckRejected] := by decide
  have hgate : ∀ isOpen : Bool,
      (if isOpen then ExecutionEventType.submissionGatePassed else .submissionGateBlocked)
        ∈ [ExecutionEventType.submissionGatePassed, .submissionGateBlocked] := by decide
  refine grounds_after (records_append (hchecked _)) (by decide) fun past₂ _ => ?_
  split
  · exact Leads.ret.mpr trivial
  refine grounds_after (l := [.submissionGatePassed, .submissionGateBlocked]) ?_ (by decide)
    fun past₃ decision => ?_
  · exact Only.bind (only_ask trivial) fun _ =>
      Only.bind (records_append (hgate _)) fun _ => trivial
  split
  · exact Leads.ret.mpr trivial
  split
  · exact grounds_nothing (l := [.submissionStarted])
      (Only.bind (records_append (by decide)) fun _ => trivial) (by decide)
  · exact grounds_attemptRealEntrySubmission hid

theorem grounds_finalRisk {q : Priced} : Grounded past (self.finalRisk q) := by
  refine grounds_ask trivial fun past₁ count => grounds_ask trivial fun past₂ killSwitch =>
    leads_lift fun finalRisk _ => ?_
  split
  · exact grounds_nothing (records_refuse (List.mem_singleton_self _)) (by decide)
  · exact leads_lift fun volume _ => leads_lift fun stop _ => leads_lift fun order horder =>
      grounds_after (records_append (List.mem_singleton_self _)) (by decide)
        fun past₃ _ => grounds_checkAndSubmit (approvedOrder_orderRequestId horder)

theorem grounds_priceAndRisk {capsule : DecisionCapsule} {chain : ApprovalChain}
    {orderRequestId : Uuid} {observation : BrokerStateObservation} {account : AccountState} :
    Grounded past (self.priceAndRisk capsule chain orderRequestId observation account now) := by
  have hblocked : ∀ past reasons now detail, Grounded past (refuse orderRequestId capsule
      .finalRiskBlocked reasons now detail none) :=
    fun _ _ _ _ => grounds_nothing (records_refuse (List.mem_singleton_self _)) (by decide)
  refine grounds_ask trivial fun past₁ spec => ?_
  split
  · exact hblocked ..
  refine grounds_ask trivial fun past₂ ticks => ?_
  split
  · exact hblocked ..
  refine leads_lift fun snapshot _ => grounds_ask trivial fun past₃ finalNow => ?_
  refine grounds_after (l := []) (Only.rescue (Only.bind
    (records_of_about (only_recoverRiskSession ..) (by decide)) fun _ => trivial)
    fun _ => trivial) (by decide) fun past₄ recovered => ?_
  split
  · exact grounds_after (l := []) (records_trip ..) (by decide) fun _ _ => hblocked ..
  split
  · exact grounds_after (l := []) (records_trip ..) (by decide) fun _ _ => hblocked ..
  · exact grounds_finalRisk

theorem grounds_processClaimed {capsule : DecisionCapsule} {chain : ApprovalChain}
    {orderRequestId : Uuid} :
    Grounded past (self.processClaimed capsule chain orderRequestId now) := by
  refine grounds_after (records_append (List.mem_singleton_self _)) (by decide) fun past₁ _ => ?_
  dsimp only
  split
  · exact grounds_nothing (records_refuse (List.mem_singleton_self _)) (by decide)
  refine grounds_ask trivial fun past₂ killSwitch => ?_
  split
  · exact grounds_nothing (records_refuse (List.mem_singleton_self _)) (by decide)
  refine grounds_after (l := []) (records_observe ..) (by decide) fun past₃ observation =>
    leads_lift fun account _ => grounds_after (l := []) (records_reconcile ..) (by decide)
      fun past₄ result => ?_
  split
  · exact grounds_nothing (records_refuse (List.mem_singleton_self _)) (by decide)
  · exact grounds_priceAndRisk

theorem grounds_process {capsule : DecisionCapsule} : Grounded past (self.process capsule now) := by
  refine leads_lift fun chain _ => ?_
  split
  · exact Leads.raise.mpr trivial
  refine grounds_ask trivial fun past₁ claimed => ?_
  split
  · exact Leads.seq grounds_processClaimed fun _ _ _ => Leads.ret.mpr trivial
  · exact grounds_nothing (records_recoverAmbiguousSubmission ..) (by decide)

/-! ## The passes -/

theorem grounds_resolvePending {positions : List PositionState}
    {pendingOrders : List PendingOrderState} {orderRequestId : Uuid} :
    Grounded past (resolvePending positions pendingOrders now orderRequestId) := by
  refine Leads.next trivial fun events _ => ?_
  split
  · exact Leads.ret.mpr trivial
  rename_i last hlast
  split
  · exact Leads.ret.mpr trivial
  rename_i hsubmitted
  refine leads_lift fun ticket _ => ?_
  split
  · exact Leads.ret.mpr trivial
  split
  · exact Leads.ret.mpr trivial
  split
  · exact Leads.ret.mpr trivial
  · refine Leads.seq (leads_append fun _ => .inr ⟨rfl, events, List.mem_cons_self .., last,
      List.mem_of_getLast? hlast, Decidable.not_not.mp hsubmitted⟩) fun _ _ _ => ?_
    exact Leads.ret.mpr trivial
  · refine grounds_after (records_append (List.mem_singleton_self _)) (by decide) fun _ _ => ?_
    exact grounds_after (l := []) (records_trip ..) (by decide) fun _ _ => Leads.ret.mpr trivial

omit [Externals] in
theorem grounds_collect {γ : Type} {f : γ → Pass (Option β)} {xs : List γ}
    (hf : ∀ past x, Grounded past (f x)) : Grounded past (Prog.collect f xs) :=
  Leads.mono (Leads.collect (I := fun _ _ _ => True) (fun x _ _ past' _ => hf past' x) xs []
    trivial) fun _ _ _ => trivial

theorem grounds_resolvePendingOnce : Grounded past self.resolvePendingOnce := by
  refine grounds_ask trivial fun past₁ ids => ?_
  split
  · exact Leads.ret.mpr trivial
  · exact grounds_ask trivial fun _ now => grounds_ask trivial fun _ positions =>
      grounds_ask trivial fun _ orders => grounds_collect fun _ _ => grounds_resolvePending

theorem grounds_runOnce : Grounded past self.runOnce :=
  grounds_after (l := []) (records_flattenOnce self) (by decide) fun _ _ =>
    grounds_ask trivial fun _ now => grounds_ask trivial fun _ capsules =>
      Leads.seq (grounds_collect fun _ _ => grounds_process) fun _ _ _ =>
        grounds_after (records_reconcileOnce self) (by decide) fun _ _ => Leads.ret.mpr trivial

/-- **Every pass records outcomes on their grounds.** -/
theorem program_grounds (q : Task) :
    Conforms outcomeDiscipline.protocol [] q.program fun _ _ => True := by
  have hgrounds : Grounded [] q.program := by
    unfold Task.program
    split
    · exact Leads.seq grounds_runOnce fun _ _ _ => Leads.ret.mpr trivial
    · exact Leads.seq grounds_resolvePendingOnce fun _ _ _ => Leads.ret.mpr trivial
    · exact grounds_after (records_reconcileOnce _) (by decide) fun _ _ => Leads.ret.mpr trivial
  exact Conforms.mono (fun _ _ _ => trivial) hgrounds

end Crumblr
