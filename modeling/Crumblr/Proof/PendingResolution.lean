import Crumblr.Proof.AtMostOnce
import Crumblr.Proof.Commitments

/-!
# Resting orders and their fills

A pass that resolves resting orders reads the broker's positions and resting orders once, and finds
a request filled when its order rests no longer and one position has its magic number. So what a
ticket is attributed to is what the readings show its magic number to be.
-/

namespace Crumblr

open ExecutionOrchestrator

variable [Externals]

/-- What a pass has read when it records a resting order's fill: the order is known by its ticket
and rests no longer, and this position, of all, has the request's magic number. -/
def FoundFilledOnce (past : Past) (e : ExecutionEventRecord) (position : PositionState) : Prop :=
  ∃ (events : List ExecutionEventRecord) (last : ExecutionEventRecord) (submittedTicket : Int)
    (positions : List PositionState) (pendingOrders : List PendingOrderState),
    ⟨.eventsFor e.orderRequestId, .ok events⟩ ∈ past
      ∧ events.getLast? = some last ∧ last.eventType = .submitted
      ∧ submittedTicketOf last.payload = .ok (some submittedTicket)
      ∧ ⟨.pendingOrders, .ok pendingOrders⟩ ∈ past
      ∧ (∀ o ∈ pendingOrders, o.orderId ≠ submittedTicket)
      ∧ ⟨.positions, .ok positions⟩ ∈ past
      ∧ positionMatches e.orderRequestId positions = [position]
      ∧ e.payload = some (resolvedFillPayload e.orderRequestId submittedTicket position)

/-- A pass that resolves resting orders records a fill on what it has read. -/
def resolutionDiscipline (task : Task) : Discipline Call Call.Answer PyError where
  allows := fun past c => match c with
    | .append e => task.kind = .resolvePendingOnce → e.eventType = .filled →
        ∃ position, FoundFilledOnce past e position
    | _ => True
  answers := fun _ _ => True

variable {task : Task} {past : Past} {now : UtcDatetime}

/-- Whatever records no fill is free to do so. -/
theorem resolves_nothing {α : Type} {l : List ExecutionEventType} {p : Pass α}
    (hp : Only (Records l) p) (hl : ExecutionEventType.filled ∉ l) {I : Past → Prop}
    (hI : ∀ past e, I past → I (e :: past)) (h : I past) :
    Leads (resolutionDiscipline task).protocol past p fun past' _ => I past' := by
  refine Leads.frame hp (fun past c hc => ?_) (fun past c a h _ => hI past ⟨c, a⟩ h) h
  cases c with
  | append e => exact fun _ hfilled => absurd (hfilled ▸ hc) hl
  | _ => trivial

/-- The readings of a pass, once made. -/
structure HaveRead (positions : List PositionState) (pendingOrders : List PendingOrderState)
    (past : Past) : Prop where
  positions : ⟨.positions, .ok positions⟩ ∈ past
  pendingOrders : ⟨.pendingOrders, .ok pendingOrders⟩ ∈ past

omit [Externals] in
theorem HaveRead.cons {positions : List PositionState} {pendingOrders : List PendingOrderState}
    {e : Entry Call Call.Answer PyError} (h : HaveRead positions pendingOrders past) :
    HaveRead positions pendingOrders (e :: past) :=
  ⟨List.mem_cons_of_mem _ h.positions, List.mem_cons_of_mem _ h.pendingOrders⟩

/-- **One resting order.** -/
theorem leads_resolvePending {positions : List PositionState}
    {pendingOrders : List PendingOrderState} {orderRequestId : Uuid}
    (h : HaveRead positions pendingOrders past) :
    Leads (resolutionDiscipline task).protocol past
      (resolvePending positions pendingOrders now orderRequestId)
      fun past' _ => HaveRead positions pendingOrders past' := by
  refine Leads.next trivial fun events _ => ?_
  have hread := h.cons (e := ⟨.eventsFor orderRequestId, .ok events⟩)
  split
  · exact Leads.ret.mpr hread
  rename_i last hlast
  split
  · exact Leads.ret.mpr hread
  rename_i hsubmitted
  refine leads_lift fun ticket hticket => ?_
  split
  · exact Leads.ret.mpr hread
  rename_i submittedTicket
  split
  · exact Leads.ret.mpr hread
  rename_i hgone
  split
  · exact Leads.ret.mpr hread
  · -- the one place where a fill is recorded
    rename_i position hmatches
    refine Leads.seq (leads_append fun _ _ => ⟨position, events, last, submittedTicket, positions,
      pendingOrders, List.mem_cons_self .., hlast, Decidable.not_not.mp hsubmitted, hticket,
      hread.pendingOrders, fun o ho heq => ?_, hread.positions, hmatches, rfl⟩) ?_
    · exact hgone (List.any_eq_true.mpr ⟨o, ho, decide_eq_true heq⟩)
    · rintro past' _ ⟨inserted, rfl⟩
      exact Leads.ret.mpr hread.cons
  · refine Leads.seq (resolves_nothing (records_append (List.mem_singleton_self _)) (by decide)
      (fun _ _ => HaveRead.cons) hread) fun past' _ hread' => ?_
    refine Leads.seq (resolves_nothing (l := []) (records_trip ..) (by decide)
      (fun _ _ => HaveRead.cons) hread') fun past'' _ hread'' => ?_
    exact Leads.ret.mpr hread''

theorem leads_resolvePendingOnce (self : ExecutionOrchestrator) :
    Leads (resolutionDiscipline task).protocol past self.resolvePendingOnce fun _ _ => True := by
  refine Leads.next trivial fun submittedIds _ => ?_
  split
  · exact Leads.ret.mpr trivial
  refine Leads.next trivial fun now _ => Leads.next trivial fun positions _ =>
    Leads.next trivial fun pendingOrders _ => ?_
  refine Leads.mono (Leads.collect (I := fun _ _ past' => HaveRead positions pendingOrders past')
    (fun _ _ _ _ => leads_resolvePending) submittedIds [] ?_) fun _ _ _ => trivial
  exact ⟨by simp, by simp⟩

/-- **Every pass keeps to it.** -/
theorem program_resolves (task : Task) :
    Conforms (resolutionDiscipline task).protocol [] task.program fun _ _ => True := by
  by_cases hkind : task.kind = .resolvePendingOnce
  · have hleads : Leads (resolutionDiscipline task).protocol [] task.program fun _ _ => True := by
      unfold Task.program
      rw [hkind]
      exact Leads.seq (leads_resolvePendingOnce _) fun _ _ _ => Leads.ret.mpr trivial
    exact Conforms.mono (fun _ _ _ => trivial) hleads
  · -- the discipline says nothing of the other passes
    refine Conforms.unbound fun past c => ?_
    cases c with
    | append e => exact fun hresolving => absurd hresolving hkind
    | _ => trivial

/-! ## Runs -/

/-- A system of workers. -/
abbrev WorkersConfig : Type := Config Nat Task World Call Call.Answer PyError

/-- A worker in a pass that resolves resting orders, after these readings, is about to record that a
request was filled. -/
def RecordingFill (s : WorkersConfig) (past : Past) (e : ExecutionEventRecord) : Prop :=
  ∃ i task k, s.threads i = some ⟨task, past, .call (.append e) k⟩
    ∧ task.kind = .resolvePendingOnce ∧ e.eventType = .filled

/-- A ticket is about to be attributed to a request. -/
def Attributes (s : WorkersConfig) (orderRequestId : Uuid) (ticket : Int) : Prop :=
  ∃ past e, RecordingFill s past e ∧ e.orderRequestId = orderRequestId
    ∧ e.payload.bind (Json.get? "ticket") = some (.int ticket)

/-- Every reading of the positions shows a ticket under the same magic number. -/
def OneMagic (magicOf : Int → Option Int) :
    Machine.Guard Nat Task Oracle World.Event World Call Call.Answer PyError :=
  fun _ m _ => match m with
    | .call _ o => ∀ p ∈ o.replies.positions, p.magic = magicOf p.ticket
    | _ => True

variable {s₀ s s' : WorkersConfig}

/-- **A fill is recorded on its readings.** -/
theorem resolved_of_filling
    {G : Machine.Guard Nat Task Oracle World.Event World Call Call.Answer PyError}
    (hidle : ∀ i, s₀.threads i = none) (h : Machine.Reach workers G s₀ s)
    {e : ExecutionEventRecord} (hf : RecordingFill s past e) : ∃ position, FoundFilledOnce past e position := by
  obtain ⟨i, task, k, hthread, hkind, hfilled⟩ := hf
  exact Machine.Reach.allowed (M := workers) (D := fun _ task => resolutionDiscipline task)
    (fun _ task => program_resolves task) (fun _ _ _ _ _ => trivial) hidle h hthread hkind hfilled

/-- What was read of the positions showed each ticket under its magic number. -/
def Shows (magicOf : Int → Option Int) (past : Past) : Prop :=
  ∀ positions, ⟨.positions, .ok positions⟩ ∈ past → ∀ p ∈ positions, p.magic = magicOf p.ticket

theorem positions_of_serve {o : Oracle} {i : Nat} {w : World}
    {positions : List PositionState} (h : (w.serve o i .positions).1 = .ok positions) :
    positions = o.replies.positions := by
  unfold World.serve at h
  cases hfault : o.fault with
  | some e =>
      rw [hfault] at h
      cases h
  | none =>
      rw [hfault] at h
      exact (Except.ok.inj h).symm

/-- **What a worker has read** showed each ticket under its magic number. -/
theorem shows_of_reach {magicOf : Int → Option Int} (hidle : ∀ i, s₀.threads i = none)
    (h : Machine.Reach workers (OneMagic magicOf) s₀ s) {i : Nat}
    {t : Thread Task Call Call.Answer PyError} (ht : s.threads i = some t) :
    Shows magicOf t.past := by
  refine Machine.Reach.threads (M := workers) (D := fun _ task => resolutionDiscipline task)
    (I := fun _ _ _ past => Shows magicOf past)
    (fun _ task => program_resolves task) (fun _ _ _ _ _ => trivial) hidle
    (fun _ _ _ _ positions hmem => absurd hmem List.not_mem_nil) ?_
    (fun _ _ _ _ _ _ _ _ hI => hI) (fun _ _ _ _ _ _ hI => hI) (fun _ _ _ _ _ hI => hI) h ht
  intro v o i q past c _ hI _ hguard positions hmem p hp
  rcases List.mem_cons.mp hmem with heq | hmem
  · obtain ⟨hc, hanswer⟩ := Sigma.mk.inj heq
    subst hc
    have hread := positions_of_serve (eq_of_heq hanswer).symm
    exact hguard p (hread ▸ hp)
  · exact hI positions hmem p hp

theorem magic_of_match {orderRequestId : Uuid} {positions : List PositionState}
    {position : PositionState} (h : positionMatches orderRequestId positions = [position]) :
    position ∈ positions ∧ position.magic = some (mt5MagicNumber orderRequestId) := by
  have hmem : position ∈ positionMatches orderRequestId positions := h ▸ List.mem_singleton_self _
  obtain ⟨hmem, hmagic⟩ := List.mem_filter.mp hmem
  exact ⟨hmem, of_decide_eq_true hmagic⟩

/-- What a ticket is attributed to has the magic number it's shown under. -/
theorem magic_of_attributes {magicOf : Int → Option Int} (hidle : ∀ i, s₀.threads i = none)
    (h : Machine.Reach workers (OneMagic magicOf) s₀ s) {orderRequestId : Uuid} {ticket : Int}
    (ha : Attributes s orderRequestId ticket) :
    magicOf ticket = some (mt5MagicNumber orderRequestId) := by
  obtain ⟨past, e, hf, rfl, hticket⟩ := ha
  obtain ⟨position, events, last, submittedTicket, positions, pendingOrders, -, -, -, -, -, -, hread,
    hmatches, hpayload⟩ := resolved_of_filling hidle h hf
  obtain ⟨hmem, hmagic⟩ := magic_of_match hmatches
  obtain ⟨i, task, k, hthread, -, -⟩ := hf
  have hshown := shows_of_reach hidle h hthread positions hread position hmem
  have hsame : position.ticket = ticket := by
    rw [hpayload] at hticket
    simpa [resolvedFillPayload, Json.get?_cons] using hticket
  rw [← hsame, ← hshown, hmagic]

/-- **Resting orders have one owner.** A pass records a fill only when the submitted ticket rests no
longer and exactly one position has the request's magic number; and while every reading shows a
ticket under one magic number, and distinct requests have distinct ones, no ticket is ever
attributed to two requests. -/
theorem pending_orders_have_one_owner (hidle : ∀ i, s₀.threads i = none) :
    (∀ s past e, Machine.Reach workers Machine.Always s₀ s → RecordingFill s past e →
        ∃ position, FoundFilledOnce past e position)
      ∧ ∀ magicOf s s', Machine.Reach workers (OneMagic magicOf) s₀ s →
        Machine.Reach workers (OneMagic magicOf) s₀ s' →
        ∀ orderRequestId orderRequestId' ticket, Attributes s orderRequestId ticket →
        Attributes s' orderRequestId' ticket →
        (mt5MagicNumber orderRequestId = mt5MagicNumber orderRequestId' →
          orderRequestId = orderRequestId') → orderRequestId = orderRequestId' := by
  refine ⟨fun s past e h hf => resolved_of_filling hidle h hf, ?_⟩
  intro magicOf s s' h h' orderRequestId orderRequestId' ticket ha ha' hdistinct
  have hmagic := magic_of_attributes hidle h ha
  have hmagic' := magic_of_attributes hidle h' ha'
  exact hdistinct (Option.some.inj (hmagic.symm.trans hmagic'))

end Crumblr

namespace Crumblr

open ExecutionOrchestrator

namespace Sample

/-- A position the broker shows under a request's magic number. -/
def shownPosition (orderRequestId : Uuid) : PositionState where
  ticket := 7
  brokerSymbol := "EURUSD"
  side := .buy
  volume := ⟨⟨1, -1⟩, by decide⟩
  openPrice := price 110000
  currentPrice := none
  stopLossPrice := none
  takeProfitPrice := none
  openedAtUtc := noon
  profit := 0
  swap := 0
  magic := some (mt5MagicNumber orderRequestId)
  observedAtUtc := noon
  directional := buy_directional

def submittedRequest (orderRequestId capsuleId : Uuid) : ExecutionRequest :=
  ⟨orderRequestId, capsuleId, ⟨"intent"⟩, "fingerprint", "w", noon⟩

def submittedEvent (orderRequestId : Uuid) (ticket : Int) : ExecutionEventRecord :=
  ⟨orderRequestId, .submitted, noon, [], none, some (.obj [("mt5_order_ticket", .int ticket)])⟩

/-- Two orders rest, as far as is on record, in two markets. -/
def restingWorld : World :=
  { world with
    db := { world.db with
      decisionCapsules :=
        [capsule, { capsule with capsuleId := ⟨"later"⟩, canonicalSymbol := "GBP/USD" }]
      executionRequests :=
        [submittedRequest ⟨"first"⟩ capsule.capsuleId, submittedRequest ⟨"second"⟩ ⟨"later"⟩]
      executionEvents := [submittedEvent ⟨"first"⟩ 5, submittedEvent ⟨"second"⟩ 6] } }

/-- Nothing rests any longer, and these positions are shown. -/
def showing (positions : List PositionState) : Oracle :=
  ⟨{ replies with positions }, none, .reached⟩

/-- A worker of the other market. -/
def otherWorker : ExecutionOrchestrator :=
  { worker with canonicalSymbol := "GBP/USD", riskConfigMerged := rfl }

section

variable {G : Machine.Guard Nat Task Oracle World.Event World Call Call.Answer PyError}

/-- A call that's about to be made is answered. -/
theorem reach_call {s : WorkersConfig} {i : Nat} {o : Oracle} {task : Task} {past : Past} {c : Call}
    {a : Except PyError c.Answer} {w : World} {p : Pass Unit}
    {k : Except PyError c.Answer → Pass Unit} (hcall : p = .call c k)
    (hanswer : s.world.serve o i c = (a, w)) (hguard : ∀ v c, G v (.call i o) c) :
    Machine.Reach workers G (Machine.set s i (some ⟨task, past, p⟩))
      (Machine.set { s with world := w } i (some ⟨task, ⟨c, a⟩ :: past, k a⟩)) := by
  refine .tail .init (hguard _ _) (m := .call i o) ?_
  subst hcall
  have hserved : workers.serve o i s.world c = (a, w) := hanswer
  simp [Machine.step, Machine.set, hserved]

/-- What follows a history that says an order was submitted: once it's gone and one position has the
request's magic number, its fill is recorded. -/
theorem resolvePending_fills {orderRequestId : Uuid} (submittedTicket : Int)
    {positions : List PositionState} {position : PositionState} {now : UtcDatetime}
    {k : Except PyError (List ExecutionEventRecord) → Pass (Option PendingResolutionOutcome)}
    (h : resolvePending positions [] now orderRequestId = .call (.eventsFor orderRequestId) k)
    (hmatches : positionMatches orderRequestId positions = [position]) :
    ∃ k', k (.ok [submittedEvent orderRequestId submittedTicket])
      = .call (.append ⟨orderRequestId, .filled, now, [], none,
          some (resolvedFillPayload orderRequestId submittedTicket position)⟩) k' := by
  obtain rfl := eq_of_heq (Prog.call.inj h).2
  have hticket : submittedTicketOf (submittedEvent orderRequestId submittedTicket).payload
      = .ok (some submittedTicket) := rfl
  have hlast : (submittedEvent orderRequestId submittedTicket).eventType = .submitted := rfl
  simp only [Prog.ofExcept, Prog.ret_bind, List.getLast?_singleton, hlast, ne_eq, not_true,
    if_false, lift, hticket, Prog.bind_eq_bind, List.any_nil, Bool.false_eq_true, hmatches]
  exact ⟨_, rfl⟩

/-- **A pass finds its first resting order filled**, when no order rests and one position has the
request's magic number. -/
theorem reach_attributes (s : WorkersConfig) (i : Nat) (self : ExecutionOrchestrator)
    (orderRequestId : Uuid) (rest : List Uuid) (submittedTicket : Int)
    {positions : List PositionState} {position : PositionState} (hidle : s.threads i = none)
    (hids : s.world.db.requestIdsWithEvent .submitted self.config.environment self.canonicalSymbol
      = orderRequestId :: rest)
    (hevents : s.world.db.eventsFor orderRequestId = [submittedEvent orderRequestId submittedTicket])
    (hmatches : positionMatches orderRequestId positions = [position])
    (hstart : ∀ v, G v (.start i ⟨self, .resolvePendingOnce⟩) none)
    (hguard : ∀ v c, G v (.call i (showing positions)) c) :
    ∃ s', Machine.Reach workers G s s' ∧ s'.world.db = s.world.db
      ∧ (∀ j, j ≠ i → s'.threads j = s.threads j) ∧ Attributes s' orderRequestId position.ticket := by
  have hbegin : Machine.Reach workers G s (Machine.set s i
      (some ⟨⟨self, .resolvePendingOnce⟩, [], Task.program ⟨self, .resolvePendingOnce⟩⟩)) := by
    refine .tail .init (hstart _) (m := .start i ⟨self, .resolvePendingOnce⟩) ?_
    simp only [Machine.step, hidle]
    rfl
  have hread : s.world.serve (showing positions) i (.requestIdsWithEvent .submitted
      self.config.environment self.canonicalSymbol) = (.ok (orderRequestId :: rest), s.world) :=
    congrArg (fun ids => (Except.ok ids, s.world)) hids
  -- reading the clock is all that changes the world
  let w : World := { s.world with now := Max.max s.world.now noon }
  have hclock : s.world.serve (showing positions) i .clock
      = (.ok (Max.max s.world.now noon), w) := rfl
  have hpositions : w.serve (showing positions) i .positions = (.ok positions, w) := rfl
  have horders : w.serve (showing positions) i .pendingOrders = (.ok [], w) := rfl
  have hhistory : w.serve (showing positions) i (.eventsFor orderRequestId)
      = (.ok [submittedEvent orderRequestId submittedTicket], w) :=
    congrArg (fun events => (Except.ok events, w)) hevents
  have h₁ := hbegin.trans (reach_call rfl hread hguard)
  have h₂ := h₁.trans (reach_call rfl hclock hguard)
  have h₃ := h₂.trans (reach_call rfl hpositions hguard)
  have h₄ := h₃.trans (reach_call rfl horders hguard)
  have h₅ := h₄.trans (reach_call rfl hhistory hguard)
  obtain ⟨k, hfills⟩ := @resolvePending_fills orderRequestId submittedTicket positions position
    (Max.max s.world.now noon) _ rfl hmatches
  -- the other orders are still to be resolved
  let others (o : Option PendingResolutionOutcome) : Pass (List PendingResolutionOutcome) :=
    Prog.bind (Prog.collect (resolvePending positions [] (Max.max s.world.now noon)) rest)
      fun os => .ret (o.toList ++ os)
  have hrest := congrArg (fun p => Prog.bind (Prog.bind p others) fun _ => .ret ()) hfills
  refine ⟨_, h₅, rfl, fun j hj => by simp [Machine.set, hj], ?_⟩
  exact ⟨_, ⟨orderRequestId, .filled, Max.max s.world.now noon, [], none,
      some (resolvedFillPayload orderRequestId submittedTicket position)⟩,
    ⟨i, ⟨self, .resolvePendingOnce⟩, _,
      (Function.update_self i _ _).trans (congrArg some (congrArg (Thread.mk _ _) hrest)), rfl, rfl⟩,
    rfl, rfl⟩

end

theorem hexValue_toList (text : String) : hexValue text = text.toList.foldl (fun acc c =>
    16 * acc + (if c.isDigit then c.toNat - '0'.toNat else c.toNat - 'a'.toNat + 10)) 0 := by
  unfold hexValue
  rw [String.foldl_eq_foldl_toList]

theorem magics_differ : mt5MagicNumber ⟨"first"⟩ ≠ mt5MagicNumber ⟨"second"⟩ := by
  unfold mt5MagicNumber
  simp only [hexValue_toList]
  decide +kernel

/-- One position is shown, under the magic number of the first request. -/
def firstMagic (_ : Int) : Option Int := some (mt5MagicNumber ⟨"first"⟩)

theorem shows_first (v : Machine.View Nat Task World Call Call.Answer PyError) (c : Option Call) :
    OneMagic firstMagic v (.call 0 (showing [shownPosition ⟨"first"⟩])) c := by
  intro p hp
  obtain rfl := List.mem_singleton.mp hp
  rfl

theorem magic_shown (orderRequestId : Uuid) :
    decide ((shownPosition orderRequestId).magic = some (mt5MagicNumber orderRequestId)) = true :=
  decide_eq_true rfl

theorem first_found (others : List PositionState)
    (h : ∀ p ∈ others, p.magic = some (mt5MagicNumber ⟨"second"⟩)) :
    positionMatches ⟨"first"⟩ (shownPosition ⟨"first"⟩ :: others) = [shownPosition ⟨"first"⟩] := by
  have hothers : others.filter (fun p => decide (p.magic = some (mt5MagicNumber ⟨"first"⟩))) = [] := by
    refine List.filter_eq_nil_iff.mpr fun p hp hmagic => ?_
    have hsame := (of_decide_eq_true hmagic).symm.trans (h p hp)
    exact magics_differ (Option.some.inj hsame)
  unfold positionMatches
  rw [List.filter_cons, magic_shown, hothers]
  rfl

theorem second_found : positionMatches ⟨"second"⟩ [shownPosition ⟨"first"⟩, shownPosition ⟨"second"⟩]
    = [shownPosition ⟨"second"⟩] := by
  unfold positionMatches
  have hfirst : decide ((shownPosition ⟨"first"⟩).magic = some (mt5MagicNumber ⟨"second"⟩)) = false :=
    decide_eq_false fun h => magics_differ (Option.some.inj h)
  rw [List.filter_cons, hfirst, List.filter_cons, magic_shown]
  rfl

end Sample

open Sample in
theorem pending_orders_have_one_owner_sample :
    ∃ s, Machine.Reach workers (OneMagic firstMagic) (Machine.idle restingWorld) s
      ∧ Attributes s ⟨"first"⟩ 7
      ∧ (∃ past e position, RecordingFill s past e ∧ FoundFilledOnce past e position)
      ∧ ∀ s', Machine.Reach workers (OneMagic firstMagic) (Machine.idle restingWorld) s' →
        ¬ Attributes s' ⟨"second"⟩ 7 := by
  obtain ⟨s, hs, -, -, ha⟩ := reach_attributes (G := OneMagic firstMagic)
    (Machine.idle restingWorld) 0 worker ⟨"first"⟩ [] 5 rfl (by decide +kernel) rfl
    (first_found [] fun _ h => absurd h List.not_mem_nil) (fun _ => trivial) shows_first
  obtain ⟨hfound, hone⟩ := @pending_orders_have_one_owner _ (Machine.idle restingWorld)
    fun _ => rfl
  obtain ⟨past, e, hf, -, -⟩ := id ha
  obtain ⟨position, hresolved⟩ := hfound s past e (hs.mono fun _ _ _ _ => trivial) hf
  refine ⟨s, hs, ha, ⟨past, e, position, hf, hresolved⟩, fun s' hs' ha' => ?_⟩
  have hsame := hone firstMagic s s' hs hs' _ _ _ ha ha' fun h => absurd h magics_differ
  exact absurd hsame (by decide)

open Sample in
/-- A reading shows ticket 7 under the magic numbers of two requests, and it's attributed to both. -/
theorem one_ticket_for_two_requests :
    ∃ s s', Machine.Reach workers Machine.Always (Machine.idle restingWorld) s
      ∧ Machine.Reach workers Machine.Always s s'
      ∧ Attributes s ⟨"first"⟩ 7 ∧ Attributes s' ⟨"second"⟩ 7
      ∧ mt5MagicNumber ⟨"first"⟩ ≠ mt5MagicNumber ⟨"second"⟩ := by
  obtain ⟨s, hs, hdb, hthreads, ha⟩ := reach_attributes (G := Machine.Always)
    (Machine.idle restingWorld) 0 worker ⟨"first"⟩ [] 5 rfl (by decide +kernel) rfl
    (first_found [shownPosition ⟨"second"⟩] fun _ h => List.mem_singleton.mp h ▸ rfl)
    (fun _ => trivial) (fun _ _ => trivial)
  obtain ⟨s', hs', -, -, ha'⟩ := reach_attributes (G := Machine.Always) s 1 otherWorker
    ⟨"second"⟩ [] 6
    ((hthreads 1 (by decide)).trans rfl) (hdb ▸ by decide +kernel) (hdb ▸ rfl) second_found
    (fun _ => trivial) (fun _ _ => trivial)
  exact ⟨s, s', hs, hs', ha, ha', magics_differ⟩

end Crumblr
