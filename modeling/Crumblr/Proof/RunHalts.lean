import Crumblr.Proof.ReplayAccounts
import Crumblr.Proof.RunMoves
import Crumblr.Proof.RunWindows

/-!
# A halt holds

Once a run has halted it sends no order for the rest of its life: none is handed in for submission
after the halt was, whatever the strategy proposes, however many ticks are still to come, and even
if the run raises. And the broker takes no order at any time that was not handed in before.
-/

namespace Crumblr

/-! ## The book of the broker -/

namespace SimulatedBroker

variable {b : SimulatedBroker} {tick : GeneratedTick}

/-- The ids of the orders behind the open positions. -/
def openIds (b : SimulatedBroker) : List Uuid := b.open_.map (·.orderRequestId)

theorem openIds_close {p : OpenPosition} {exitPrice : Decimal} {reason : String}
    {at_ : UtcDatetime} : (b.close p exitPrice reason at_).1.openIds ⊆ b.openIds :=
  List.map_subset _ (List.filter_sublist.subset)

theorem openIds_resolveExit {p : OpenPosition} {s : SimulatedBroker × List ClosedTrade}
    (hp : p.orderRequestId ∈ b.openIds) (hs : s.1.openIds ⊆ b.openIds) :
    (resolveExit tick s p).1.openIds ⊆ b.openIds := by
  obtain ⟨broker, trades⟩ := s
  have hmarkedId : (broker.marked tick p).orderRequestId = p.orderRequestId := by
    unfold marked
    dsimp only
    split <;> rfl
  have hmark : ∀ marked : OpenPosition, marked.orderRequestId = p.orderRequestId →
      ({ broker with open_ := broker.open_.map fun q =>
        if q.ticket = marked.ticket then marked else q } : SimulatedBroker).openIds
        ⊆ b.openIds := by
    intro marked hid x hx
    obtain ⟨q, hq, rfl⟩ := List.mem_map.mp hx
    obtain ⟨r, hr, rfl⟩ := List.mem_map.mp hq
    split
    · rw [hid]
      exact hp
    · exact hs (List.mem_map_of_mem hr)
  unfold resolveExit
  dsimp only
  generalize hmarkedPosition : broker.marked tick p = position
  have hbroker := hmark position (hmarkedPosition ▸ hmarkedId)
  split
  · exact hbroker
  · exact List.Subset.trans openIds_close hbroker

/-- A tick opens nothing. -/
theorem openIds_advance : (b.advance tick).1.openIds ⊆ b.openIds := by
  unfold advance
  suffices h : ∀ (positions : List OpenPosition) (s : SimulatedBroker × List ClosedTrade),
      (∀ p ∈ positions, p.orderRequestId ∈ b.openIds) → s.1.openIds ⊆ b.openIds →
      (positions.foldl (resolveExit tick) s).1.openIds ⊆ b.openIds by
    refine h b.open_ _ (fun p hp => List.mem_map_of_mem hp) ?_
    exact fun x hx => hx
  intro positions
  induction positions with
  | nil => exact fun s _ hs => hs
  | cons p positions ih =>
      intro s hmem hs
      exact ih _ (fun q hq => hmem q (List.mem_cons_of_mem _ hq))
        (openIds_resolveExit (hmem p List.mem_cons_self) hs)

theorem nextTicket_advance : (b.advance tick).1.nextTicket = b.nextTicket := by
  have hledger := congrArg ItemLedger.next (closing_advance b tick).1.ledger
  have hkept : ∀ (items : List (Int × Decimal)) (l : ItemLedger Decimal),
      (l.settleAll items).next = l.next := by
    intro items
    induction items with
    | nil => exact fun l => rfl
    | cons item items ih => exact fun l => ih _
  rw [hkept] at hledger
  exact hledger

/-- An order adds itself to the book and to what was handled, and nothing else. -/
theorem orderSend_adds [Externals] (order : ApprovedOrder) :
    (∀ id ∈ (b.orderSend order).2.openIds, id ∈ b.openIds ∨ id = order.orderRequestId)
      ∧ ∀ r ∈ (b.orderSend order).2.handledRequests,
        r ∈ b.handledRequests ∨ r.1 = order.orderRequestId := by
  have hopened : ∀ fill, ∀ id ∈ (b.opened order fill).openIds,
      id ∈ b.openIds ∨ id = order.orderRequestId := by
    intro fill id hid
    unfold openIds opened at hid
    rw [List.map_append, List.mem_append] at hid
    exact hid.imp_right fun hid => List.mem_singleton.mp hid
  have hsent := sent b order
  generalize b.orderSend order = outcome at hsent
  cases hsent with
  | handled _ => exact ⟨fun id hid => .inl hid, fun r hr => .inl hr⟩
  | refused _ => exact ⟨fun id hid => .inl hid, fun r hr => .inl hr⟩
  | unrecorded _ _ _ => exact ⟨hopened _, fun r hr => .inl hr⟩
  | filled _ _ =>
      refine ⟨hopened _, fun r hr => ?_⟩
      rcases List.mem_append.mp hr with hr | hr
      · exact .inl hr
      · rw [List.mem_singleton.mp hr]
        exact .inr rfl

end SimulatedBroker

/-! ## What a run is held to -/

/-- What a run has done since a state, having handed these calls to its recorder. -/
structure RestrainedBy (s₀ s : ReplayState) (new : List RecorderCall) : Prop where
  calls : s.calls = s₀.calls ++ new
  /-- No order is handed in behind a halt. -/
  submitted : ∀ before c after id, new = before ++ c :: after → c.Submits id →
    s₀.killSwitch.isHalted = false ∧ haltsIn (before.flatMap RecorderCall.noted) = []
  /-- What the recorder was told of a halt is so. -/
  halted : haltsIn (new.flatMap RecorderCall.noted) ≠ [] → s.killSwitch.isHalted = true
  /-- No halt is taken back. -/
  lasting : s₀.killSwitch.isHalted = true → s.killSwitch.isHalted = true
  /-- The broker has been sent what was handed in. -/
  opened : ∀ id ∈ s.broker.openIds, id ∈ s₀.broker.openIds ∨ ∃ c ∈ s.calls, c.Submits id
  handled : ∀ r ∈ s.broker.handledRequests,
    r ∈ s₀.broker.handledRequests ∨ ∃ c ∈ s.calls, c.Submits r.1
  /-- And halted from the first, it opens nothing. -/
  still : s₀.killSwitch.isHalted = true → s.broker.nextTicket = s₀.broker.nextTicket

def Restrained (s₀ s : ReplayState) : Prop := ∃ new, RestrainedBy s₀ s new

section

variable {s₀ s s' : ReplayState} {new : List RecorderCall} {c : RecorderCall}

theorem RecorderCall.Plain.not_submits (h : c.Plain) (id : Uuid) : ¬ c.Submits id := by
  cases c with
  | record payload correlationId occurredAtUtc source =>
      cases payload <;> first | exact fun hsubmits => hsubmits | exact fun _ => h
  | _ => exact fun hsubmits => hsubmits

theorem RecorderCall.Plain.no_halt (h : c.Plain) : haltsIn c.noted = [] := by
  cases c with
  | record payload correlationId occurredAtUtc source =>
      cases payload <;> first | rfl | exact h.elim
  | _ => rfl

theorem restrained_refl : RestrainedBy s s [] where
  calls := (List.append_nil _).symm
  submitted before c after id h _ := by simp at h
  halted h := absurd rfl h
  lasting h := h
  opened id hid := .inl hid
  handled r hr := .inl hr
  still _ := rfl

/-- One call more. -/
theorem RestrainedBy.call (h : RestrainedBy s₀ s new)
    (hsubmits : ∀ id, c.Submits id → s.killSwitch.isHalted = false)
    (hhalts : haltsIn c.noted ≠ [] → s'.killSwitch.isHalted = true)
    (hcalls : s'.calls = s.calls ++ [c]) (hbroker : s'.broker = s.broker)
    (hlasting : s.killSwitch.isHalted = true → s'.killSwitch.isHalted = true) :
    RestrainedBy s₀ s' (new ++ [c]) where
  calls := by rw [hcalls, h.calls, List.append_assoc]
  submitted before x after id hsplit hx := by
    rcases List.eq_nil_or_concat after with rfl | ⟨after, y, rfl⟩
    · obtain ⟨rfl, hlast⟩ := List.append_inj' hsplit rfl
      cases hlast
      have hrunning := hsubmits id hx
      constructor
      · by_contra hhalted
        have hstill := h.lasting (by simpa using hhalted)
        rw [hrunning] at hstill
        cases hstill
      · by_contra hhalted
        have hstill := h.halted hhalted
        rw [hrunning] at hstill
        cases hstill
    · rw [List.concat_eq_append] at hsplit
      have hsplit' : new ++ [c] = (before ++ x :: after) ++ [y] := by simpa using hsplit
      obtain ⟨hnew, -⟩ := List.append_inj' hsplit' rfl
      exact h.submitted before x after id hnew hx
  halted hne := by
    rw [List.flatMap_append, haltsIn_append] at hne
    by_cases hold : haltsIn (new.flatMap RecorderCall.noted) = []
    · rw [hold, List.nil_append] at hne
      exact hhalts (by simpa using hne)
    · exact hlasting (h.halted hold)
  lasting hhalted := hlasting (h.lasting hhalted)
  opened id hid := by
    rw [hbroker] at hid
    rw [hcalls]
    exact (h.opened id hid).imp_right fun ⟨x, hx, hsub⟩ => ⟨x, List.mem_append_left _ hx, hsub⟩
  handled r hr := by
    rw [hbroker] at hr
    rw [hcalls]
    exact (h.handled r hr).imp_right fun ⟨x, hx, hsub⟩ => ⟨x, List.mem_append_left _ hx, hsub⟩
  still hhalted := by rw [hbroker, h.still hhalted]

/-- The broker moves, and nothing else. -/
theorem RestrainedBy.broker (h : RestrainedBy s₀ s new) (hcalls : s'.calls = s.calls)
    (hswitch : s'.killSwitch = s.killSwitch)
    (hopened : ∀ id ∈ s'.broker.openIds, id ∈ s.broker.openIds ∨ ∃ c ∈ s.calls, c.Submits id)
    (hhandled : ∀ r ∈ s'.broker.handledRequests,
      r ∈ s.broker.handledRequests ∨ ∃ c ∈ s.calls, c.Submits r.1)
    (hstill : s₀.killSwitch.isHalted = true → s'.broker.nextTicket = s.broker.nextTicket) :
    RestrainedBy s₀ s' new where
  calls := hcalls.trans h.calls
  submitted := h.submitted
  halted hne := by rw [hswitch, h.halted hne]
  lasting hhalted := by rw [hswitch, h.lasting hhalted]
  opened id hid := by
    rw [hcalls]
    exact (hopened id hid).elim (h.opened id) .inr
  handled r hr := by
    rw [hcalls]
    exact (hhandled r hr).elim (h.handled r) .inr
  still hhalted := (hstill hhalted).trans (h.still hhalted)

variable [Externals]

/-- **A move keeps a run to it.** -/
theorem restrained_move (h : Restrained s₀ s) (hmove : Move s s') : Restrained s₀ s' := by
  obtain ⟨new, h⟩ := h
  cases hmove with
  | inside hcalls hswitch hbroker =>
      refine ⟨new, h.broker hcalls hswitch ?_ ?_ ?_⟩
      · exact fun id hid => .inl (hbroker ▸ hid)
      · exact fun r hr => .inl (hbroker ▸ hr)
      · exact fun _ => congrArg SimulatedBroker.nextTicket hbroker
  | tick tick =>
      refine ⟨new, h.broker rfl rfl ?_ ?_ fun _ => SimulatedBroker.nextTicket_advance⟩
      · exact fun id hid => .inl (SimulatedBroker.openIds_advance hid)
      · intro r hr
        have hkept := (SimulatedBroker.closing_advance s.broker tick).1.handled
        exact .inl (hkept ▸ hr)
  | call c hplain =>
      refine ⟨new ++ [c], h.call ?_ ?_ rfl rfl fun hhalted => hhalted⟩
      · exact fun id hsubmits => absurd hsubmits (hplain.not_submits id)
      · exact fun hne => absurd hplain.no_halt hne
  | halt record halt id at_ hrunning =>
      refine ⟨_, h.call (c := .record (.systemHalted halt) id at_ "risk_engine") ?_ ?_ rfl rfl ?_⟩
      · exact fun _ hsubmits => hsubmits.elim
      · exact fun _ => rfl
      · exact fun _ => rfl
  | submit order id at_ source hrunning =>
      refine ⟨_, h.call (c := .record (.orderSubmitted order) id at_ source) ?_ ?_ rfl rfl ?_⟩
      · exact fun _ _ => hrunning
      · exact fun hne => absurd rfl hne
      · exact fun hhalted => hhalted
  | send order hrunning hsubmitted =>
      obtain ⟨hopened, hhandled⟩ := SimulatedBroker.orderSend_adds (b := s.broker) order
      have hstarted : s₀.killSwitch.isHalted = false := by
        by_contra hhalted
        have hstill := h.lasting (by simpa using hhalted)
        rw [hrunning] at hstill
        cases hstill
      obtain ⟨c, hlast, hsubmits⟩ := hsubmitted
      have hin : c ∈ s.calls := List.mem_of_getLast? hlast
      refine ⟨new, h.broker rfl rfl ?_ ?_ fun hhalted => ?_⟩
      · intro id hid
        refine (hopened id hid).imp_right fun heq => ⟨c, hin, ?_⟩
        rw [heq]
        exact hsubmits
      · intro r hr
        refine (hhandled r hr).imp_right fun heq => ⟨c, hin, ?_⟩
        rw [heq]
        exact hsubmits
      · rw [hstarted] at hhalted
        cases hhalted

theorem restrained_moved (h : Moved s₀ s) : Restrained s₀ s := by
  induction h with
  | refl => exact ⟨[], restrained_refl⟩
  | tail _ hmove ih => exact restrained_move ih hmove

/--
**A halt holds.** Whatever state a run starts from or is in, whatever ticks are to come, and
whether it returns or raises: no order is handed in behind a halt, a halt is never taken back, and
the broker has opened and handled no order that was not handed in first; halted from the first, it
opens nothing.
-/
theorem run_restrained (self : ReplaySetup) (ticks : List GeneratedTick) (s : ReplayState) :
    Restrained s (self.run ticks s).2 ∧ Restrained s (Raising.each self.nextTick ticks s).2 :=
  ⟨restrained_moved (ReplaySetup.moves_run s .refl),
    restrained_moved (ReplaySetup.moves_nextTicks s .refl)⟩

end

end Crumblr
