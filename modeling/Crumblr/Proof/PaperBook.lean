import Crumblr.Application.PaperWorker
import Crumblr.Proof.PaperJournal

/-!
# What an operation does to the positions

An observation closes positions and marks the others, a flatten closes them all, and an order opens
one at most. Whatever an operation comes to, also when it raises after its append, the journal in
memory has grown by the entry it appended, and replaying that entry raises too.
-/

namespace Crumblr

/-! ## The simulated book -/

/-- A position without what it has seen of the market. -/
def OpenPosition.core (p : OpenPosition) : OpenPosition := { p with worstPrice := 0, bestPrice := 0 }

theorem OpenPosition.ticket_of_core {p p' : OpenPosition} (h : p.core = p'.core) :
    p.ticket = p'.ticket := by
  change p.core.ticket = p'.core.ticket
  rw [h]

/-- What is computed for a whole list is computed for each of it. -/
theorem mapM_ok_mem {α β : Type} {f : α → Except PyError β} {xs : List α} {ys : List β}
    (h : xs.mapM f = .ok ys) {x : α} (hx : x ∈ xs) : ∃ y, f x = .ok y := by
  induction xs generalizing ys with
  | nil => cases hx
  | cons a xs ih =>
      rw [List.mapM_cons] at h
      obtain ⟨y, hy, h⟩ := bind_ok h
      obtain ⟨rest, hrest, -⟩ := bind_ok h
      rcases List.mem_cons.mp hx with rfl | hx
      · exact ⟨y, hy⟩
      · exact ih hrest hx

namespace SimulatedBroker

variable {b : SimulatedBroker}

/-- Tickets are given once. -/
structure Ticketed (b : SimulatedBroker) : Prop where
  nodup : (b.open_.map (·.ticket)).Nodup
  below : ∀ p ∈ b.open_, p.ticket < b.nextTicket

/-- One book has come of another by marking and closing positions. -/
structure Thinned (b b' : SimulatedBroker) : Prop where
  tickets : (b'.open_.map (·.ticket)).Sublist (b.open_.map (·.ticket))
  cores : ∀ p ∈ b'.open_, ∃ p₀ ∈ b.open_, p.core = p₀.core
  nextTicket : b'.nextTicket = b.nextTicket

theorem Thinned.refl (b : SimulatedBroker) : Thinned b b :=
  ⟨List.Sublist.refl _, fun p hp => ⟨p, hp, rfl⟩, rfl⟩

theorem Thinned.trans {b' b'' : SimulatedBroker} (h : Thinned b b') (h' : Thinned b' b'') :
    Thinned b b'' := by
  refine ⟨h'.tickets.trans h.tickets, fun p hp => ?_, h'.nextTicket.trans h.nextTicket⟩
  obtain ⟨p', hp', hcore'⟩ := h'.cores p hp
  obtain ⟨p₀, hp₀, hcore⟩ := h.cores p' hp'
  exact ⟨p₀, hp₀, hcore'.trans hcore⟩

theorem Thinned.ticketed {b' : SimulatedBroker} (h : Thinned b b') (hb : Ticketed b) :
    Ticketed b' := by
  refine ⟨hb.nodup.sublist h.tickets, fun p hp => ?_⟩
  obtain ⟨p₀, hp₀, hcore⟩ := h.cores p hp
  rw [OpenPosition.ticket_of_core hcore, h.nextTicket]
  exact hb.below p₀ hp₀

theorem thinned_close {position : OpenPosition} {exitPrice : Decimal} {reason : String}
    {at_ : UtcDatetime} : Thinned b (b.close position exitPrice reason at_).1 :=
  ⟨List.filter_sublist.map _, fun p hp => ⟨p, (List.mem_filter.mp hp).1, rfl⟩, rfl⟩

theorem core_marked {tick : GeneratedTick} {position : OpenPosition} :
    (b.marked tick position).core = position.core := by
  unfold marked
  dsimp only
  split <;> rfl

/-- Putting a marked position in the place of what has its ticket is marking. -/
theorem thinned_mark {position : OpenPosition}
    (hsame : ∀ p ∈ b.open_, p.ticket = position.ticket → p.core = position.core) :
    Thinned b { b with
      open_ := b.open_.map fun p => if p.ticket = position.ticket then position else p } := by
  refine ⟨?_, fun p hp => ?_, rfl⟩
  · rw [List.map_map]
    have htickets : b.open_.map ((·.ticket) ∘ fun p => if p.ticket = position.ticket then position
        else p) = b.open_.map (·.ticket) := by
      refine List.map_congr_left fun p hp => ?_
      by_cases h : p.ticket = position.ticket <;> simp [h]
    exact htickets ▸ List.Sublist.refl _
  · obtain ⟨p₀, hp₀, rfl⟩ := List.mem_map.mp hp
    refine ⟨p₀, hp₀, ?_⟩
    split
    · rename_i hticket
      exact (hsame p₀ hp₀ hticket).symm
    · rfl

/-- **A new tick marks and closes.** -/
theorem thinned_advance {tick : GeneratedTick} (hb : Ticketed b) :
    Thinned b (b.advance tick).1 := by
  unfold advance
  -- each position still to be resolved is one of the book's
  suffices h : ∀ (positions : List OpenPosition) (s : SimulatedBroker × List ClosedTrade),
      (∀ p ∈ positions, p ∈ b.open_) → Thinned b s.1 →
      Thinned b (positions.foldl (resolveExit tick) s).1 from
    h b.open_ _ (fun _ hp => hp) ⟨List.Sublist.refl _, fun p hp => ⟨p, hp, rfl⟩, rfl⟩
  intro positions
  induction positions with
  | nil => intro s _ h; exact h
  | cons position positions ih =>
      intro s hmem h
      refine ih _ (fun p hp => hmem p (List.mem_cons_of_mem _ hp)) ?_
      obtain ⟨b', trades⟩ := s
      have hmark : Thinned b' { b' with open_ := b'.open_.map fun p =>
          if p.ticket = (b'.marked tick position).ticket then b'.marked tick position else p } := by
        refine thinned_mark fun p hp hticket => ?_
        obtain ⟨p₀, hp₀, hcore⟩ := h.cores p hp
        have htickets : p₀.ticket = position.ticket :=
          (OpenPosition.ticket_of_core hcore).symm.trans
            (hticket.trans (OpenPosition.ticket_of_core core_marked))
        obtain rfl := List.inj_on_of_nodup_map hb.nodup hp₀ (hmem _ (List.mem_cons_self ..)) htickets
        rw [hcore, core_marked]
      unfold resolveExit
      dsimp only
      split
      · exact h.trans hmark
      · exact (h.trans hmark).trans thinned_close

theorem tick_advance {tick : GeneratedTick} : (b.advance tick).1.tick = some tick := by
  unfold advance
  suffices h : ∀ (positions : List OpenPosition) (s : SimulatedBroker × List ClosedTrade),
      s.1.tick = some tick → (positions.foldl (resolveExit tick) s).1.tick = some tick from
    h b.open_ _ rfl
  intro positions
  induction positions with
  | nil => intro s h; exact h
  | cons position positions ih =>
      intro s h
      refine ih _ ?_
      unfold resolveExit
      dsimp only
      split <;> exact h

theorem tick_of_requireTick {tick : GeneratedTick} (h : b.requireTick = .ok tick) :
    b.tick = some tick := by
  unfold requireTick at h
  split at h
  · rename_i hsome
    rw [hsome, Except.ok.inj h]
  · cases h

/-- **A flatten leaves nothing open.** -/
theorem open_closeAllPositions {reason : String} {closed : List Int} {b' : SimulatedBroker}
    (h : b.closeAllPositions reason = .ok (closed, b')) :
    b'.open_ = [] ∧ b'.tick = b.tick ∧ b'.nextTicket = b.nextTicket := by
  obtain ⟨tick, -, h⟩ := bind_ok h
  suffices hfold : ∀ (positions : List OpenPosition) (s : SimulatedBroker × List Int),
      (∀ p ∈ s.1.open_, p ∈ positions) → s.1.tick = b.tick → s.1.nextTicket = b.nextTicket →
      (positions.foldl (fun (s : SimulatedBroker × List Int) position =>
        ((s.1.close position (if position.side = .buy then tick.bid else tick.ask) reason
          tick.eventTimeUtc).1, s.2 ++ [position.ticket])) s).1.open_ = []
        ∧ (positions.foldl (fun (s : SimulatedBroker × List Int) position =>
          ((s.1.close position (if position.side = .buy then tick.bid else tick.ask) reason
            tick.eventTimeUtc).1, s.2 ++ [position.ticket])) s).1.tick = b.tick
        ∧ (positions.foldl (fun (s : SimulatedBroker × List Int) position =>
          ((s.1.close position (if position.side = .buy then tick.bid else tick.ask) reason
            tick.eventTimeUtc).1, s.2 ++ [position.ticket])) s).1.nextTicket = b.nextTicket by
    have hall := hfold b.open_ (b, []) (fun _ hp => hp) rfl rfl
    cases h
    exact hall
  intro positions
  induction positions with
  | nil =>
      intro s hmem htick hnext
      refine ⟨List.eq_nil_iff_forall_not_mem.mpr fun p hp => ?_, htick, hnext⟩
      exact absurd (hmem p hp) (List.not_mem_nil)
  | cons position positions ih =>
      intro s hmem htick hnext
      refine ih _ (fun p hp => ?_) htick hnext
      obtain ⟨hp, hticket⟩ := List.mem_filter.mp hp
      rcases List.mem_cons.mp (hmem p hp) with rfl | hp
      · simp at hticket
      · exact hp

/-- The position an order opens. -/
def positionOf (b : SimulatedBroker) (order : ApprovedOrder) (fill : SimulatedFill) :
    OpenPosition where
  ticket := b.nextTicket
  orderRequestId := order.orderRequestId
  intentId := order.intentId
  side := order.side
  volume := order.volume
  entryPrice := fill.price
  stopLossPrice := order.stopLossPrice
  takeProfitPrice := order.takeProfitPrice
  openedAtUtc := fill.tick.eventTimeUtc
  entrySlippagePoints := fill.slippagePoints
  worstPrice := fill.price
  bestPrice := fill.price
  directional := order.directional

theorem opened_eq {order : ApprovedOrder} {fill : SimulatedFill} :
    b.opened order fill
      = { b with nextTicket := b.nextTicket + 1, open_ := b.open_ ++ [b.positionOf order fill] } :=
  rfl

/-- A result that cannot be built is of a price that is none. -/
theorem fillResult_error [Externals] {order : ApprovedOrder} {fill : SimulatedFill} {ticket : Int}
    {e : PyError} (h : fillResult order fill ticket = .error e) :
    ¬ (0 < fill.requested ∧ 0 < fill.price) := by
  rintro ⟨hrequested, hprice⟩
  unfold fillResult at h
  simp only [resultPrice, dif_pos hrequested, dif_pos hprice] at h
  cases h

/-- **What sending an order does to the book.** -/
theorem orderSend_cases [Externals] (order : ApprovedOrder) :
    (b.orderSend order).2 = b
      ∨ ∃ fill, b.fillOf order = .ok fill
        ∧ (b.orderSend order).2.open_ = b.open_ ++ [b.positionOf order fill]
        ∧ (b.orderSend order).2.nextTicket = b.nextTicket + 1
        ∧ (b.orderSend order).2.tick = b.tick
        ∧ ((∃ result, (b.orderSend order).1 = .ok result)
          ∨ ¬ (0 < fill.requested ∧ 0 < fill.price)) := by
  unfold orderSend
  cases b.handledRequests.lookup order.orderRequestId with
  | some result => exact .inl rfl
  | none =>
      cases hfill : b.fillOf order with
      | error e => exact .inl rfl
      | ok fill =>
          refine .inr ⟨fill, rfl, ?_⟩
          cases hresult : fillResult order fill b.nextTicket with
          | error e =>
              simp only [hresult]
              exact ⟨rfl, rfl, rfl, .inr (fillResult_error hresult)⟩
          | ok result =>
              simp only [hresult]
              exact ⟨rfl, rfl, rfl, .inl ⟨result, rfl⟩⟩

/-- An order is filled at a tick. -/
theorem fillOf_tick {order : ApprovedOrder} {fill : SimulatedFill} (h : b.fillOf order = .ok fill) :
    b.tick = some fill.tick
      ∧ fill.requested = if decide (order.side = .buy) then fill.tick.ask else fill.tick.bid := by
  obtain ⟨tick, htick, h⟩ := bind_ok h
  obtain ⟨now, -, h⟩ := bind_ok h
  dsimp only at h
  split at h
  swap
  · cases h
  obtain ⟨slip, -, h⟩ := bind_ok h
  obtain ⟨points, -, h⟩ := bind_ok h
  cases h
  exact ⟨tick_of_requireTick htick, rfl⟩

/-- Positions that can be reported were entered at a price. -/
theorem entryPrice_of_positions {positions : List PositionState}
    (h : b.positions = .ok positions) : ∀ p ∈ b.open_, 0 < p.entryPrice := by
  obtain ⟨now, -, h⟩ := bind_ok h
  intro p hp
  obtain ⟨state, hstate⟩ := mapM_ok_mem h hp
  obtain ⟨profit, -, hstate⟩ := bind_ok hstate
  obtain ⟨openPrice, hprice, -⟩ := bind_ok hstate
  unfold resultPrice at hprice
  split at hprice
  · assumption
  · cases hprice

end SimulatedBroker

/-! ## The portfolio -/

section

open SimulatedBroker

variable [Externals] {b : DurablePaperBroker}

/-- **Everything an append can do.** -/
theorem append_result {α : Type} (eventType : PaperJournalEventType) (eventKey : String)
    (payload : Json) (next : Bool → DurablePaperBroker → Except PyError α × DurablePaperBroker) :
    (∃ e, b.append eventType eventKey payload next = ⟨none, .error e, b⟩)
      ∨ (b.eventPayloadHashes.lookup eventKey = some (digestOf payload)
        ∧ b.append eventType eventKey payload next = ⟨none, (next false b).1, (next false b).2⟩)
      ∨ (b.eventPayloadHashes.lookup eventKey = none
        ∧ b.append eventType eventKey payload next
          = ⟨some (b.nextEntry eventType eventKey payload),
            (next true (b.journalled (b.nextEntry eventType eventKey payload))).1,
            (next true (b.journalled (b.nextEntry eventType eventKey payload))).2⟩) := by
  unfold DurablePaperBroker.append
  cases hlookup : b.eventPayloadHashes.lookup eventKey with
  | some existing =>
      by_cases hsame : existing = digestOf payload
      · exact .inr (.inl ⟨by rw [hsame], by simp [hsame]⟩)
      · exact .inl ⟨_, by simp [hsame]; rfl⟩
  | none => exact .inr (.inr ⟨rfl, rfl⟩)

/-- What an operation leaves in memory of the journal. -/
structure Journalled (b : DurablePaperBroker) (r : Option PaperJournalEntry)
    (s : DurablePaperBroker) : Prop where
  entries : s.entries = b.entries ++ r.toList
  chained : Chained b.entries → Chained s.entries

theorem journalled_append {α : Type} {eventType : PaperJournalEventType} {eventKey : String}
    {payload : Json} {next : Bool → DurablePaperBroker → Except PyError α × DurablePaperBroker}
    (hnext : ∀ appended b, (next appended b).2.entries = b.entries) (hpayload : IsObject payload) :
    Journalled b (b.append eventType eventKey payload next).appended
      (b.append eventType eventKey payload next).left := by
  rcases append_result (b := b) eventType eventKey payload next with ⟨e, h⟩ | ⟨-, h⟩ | ⟨-, h⟩
  · rw [h]
    exact ⟨by simp, id⟩
  · rw [h]
    exact ⟨by simp [hnext], fun hc => by rwa [hnext]⟩
  · rw [h]
    refine ⟨by simp [hnext, DurablePaperBroker.journalled], fun hc => ?_⟩
    rw [hnext]
    exact hc.nextEntry hpayload

theorem entries_applyOrder {order : ApprovedOrder} {orderFingerprint : String}
    {authorizedRiskAmount : Decimal} :
    (b.applyOrder order orderFingerprint authorizedRiskAmount).2.entries = b.entries := by
  unfold DurablePaperBroker.applyOrder
  split <;> rfl

omit [Externals] in
theorem entries_applyFlatten {flattenRequestId : Uuid} {reason : String} :
    (b.applyFlatten flattenRequestId reason).2.entries = b.entries := by
  unfold DurablePaperBroker.applyFlatten
  split <;> rfl

/-- **Whatever an operation comes to**, the journal in memory has grown by what it appended. -/
theorem journalled_run (o : PaperOperation) :
    Journalled b (o.run b).appended (o.run b).left := by
  have hnothing : ∀ {b : DurablePaperBroker}, Journalled b none b := ⟨by simp, id⟩
  cases o with
  | advance tick =>
      change Journalled b (b.advance tick).appended (b.advance tick).left
      unfold DurablePaperBroker.advance
      split
      · exact hnothing
      · dsimp only
        split
        · exact hnothing
        · exact journalled_append (fun _ _ => rfl) ⟨_, rfl⟩
  | submit order authorizedRiskAmount correlationId =>
      change Journalled b (b.submit order authorizedRiskAmount correlationId).appended
        (b.submit order authorizedRiskAmount correlationId).left
      unfold DurablePaperBroker.submit
      split
      · exact hnothing
      split
      · split
        · exact hnothing
        · split <;> exact hnothing
      · exact journalled_append (fun _ _ => entries_applyOrder) ⟨_, rfl⟩
  | flattenAll flattenRequestId reason =>
      change Journalled b (b.flattenAll flattenRequestId reason).appended
        (b.flattenAll flattenRequestId reason).left
      unfold DurablePaperBroker.flattenAll
      split
      · exact hnothing
      · exact journalled_append (fun _ _ => entries_applyFlatten) ⟨_, rfl⟩
  | recordAuditFact fact correlationId detail =>
      exact journalled_append (fun _ _ => rfl) ⟨_, rfl⟩

/-! ### What an operation leaves of the positions -/

/-- No order is filled: positions are marked and closed at most. -/
structure Settled (b s : DurablePaperBroker) : Prop where
  thinned : Thinned b.broker s.broker
  fingerprints : s.orderFingerprints = b.orderFingerprints

omit [Externals] in
theorem Settled.refl (b : DurablePaperBroker) : Settled b b := ⟨Thinned.refl _, rfl⟩

/-- An observation that counts is of the tick the simulation is shown. -/
theorem advance_left (hb : Ticketed b.broker) (tick : GeneratedTick) :
    Settled b (b.advance tick).left
      ∧ (((b.advance tick).left.broker = b.broker ∧ (b.advance tick).left.latestTick = b.latestTick)
        ∨ ∃ simulated, b.simulationTick tick = .ok simulated
          ∧ (b.advance tick).left.broker.tick = some simulated
          ∧ (b.advance tick).left.latestTick = some simulated) := by
  unfold DurablePaperBroker.advance
  split
  · exact ⟨Settled.refl b, .inl ⟨rfl, rfl⟩⟩
  rename_i simulated hsimulated
  dsimp only
  split
  · exact ⟨Settled.refl b, .inl ⟨rfl, rfl⟩⟩
  rcases append_result (b := b) _ _ _ _ with ⟨e, happend⟩ | ⟨hknown, -⟩ | ⟨-, happend⟩
  · rw [happend]
    exact ⟨Settled.refl b, .inl ⟨rfl, rfl⟩⟩
  · -- the key was looked up already
    rename_i hnew
    rw [hknown] at hnew
    exact absurd rfl hnew
  · rw [happend]
    exact ⟨⟨thinned_advance hb, rfl⟩, .inr ⟨simulated, hsimulated, tick_advance, rfl⟩⟩

/-- A flatten that takes effect leaves nothing open. -/
theorem flattenAll_left (flattenRequestId : Uuid) (reason : String) :
    (b.flattenAll flattenRequestId reason).left.orderFingerprints = b.orderFingerprints
      ∧ (b.flattenAll flattenRequestId reason).left.latestTick = b.latestTick
      ∧ ((b.flattenAll flattenRequestId reason).left.broker = b.broker
        ∨ ∃ closed, b.broker.closeAllPositions reason
          = .ok (closed, (b.flattenAll flattenRequestId reason).left.broker)) := by
  have happly : ∀ b' : DurablePaperBroker, b'.broker = b.broker →
      (b'.applyFlatten flattenRequestId reason).2.orderFingerprints = b'.orderFingerprints
        ∧ (b'.applyFlatten flattenRequestId reason).2.latestTick = b'.latestTick
        ∧ ((b'.applyFlatten flattenRequestId reason).2.broker = b.broker
          ∨ ∃ closed, b.broker.closeAllPositions reason
            = .ok (closed, (b'.applyFlatten flattenRequestId reason).2.broker)) := by
    intro b' hbroker
    unfold DurablePaperBroker.applyFlatten
    rw [hbroker]
    split
    · exact ⟨rfl, rfl, .inl hbroker⟩
    · rename_i closed broker hclose
      exact ⟨rfl, rfl, .inr ⟨closed, hclose⟩⟩
  unfold DurablePaperBroker.flattenAll
  split
  · exact ⟨rfl, rfl, .inl rfl⟩
  rcases append_result (b := b) _ _ _ fun _ b => b.applyFlatten flattenRequestId reason
    with ⟨e, happend⟩ | ⟨-, happend⟩ | ⟨-, happend⟩
  · rw [happend]
    exact ⟨rfl, rfl, .inl rfl⟩
  · rw [happend]
    exact happly b rfl
  · rw [happend]
    exact happly (b.journalled _) rfl

theorem recordAuditFact_left (fact : String) (correlationId : Uuid) (detail : Option String) :
    (b.recordAuditFact fact correlationId detail).left.orderFingerprints = b.orderFingerprints
      ∧ (b.recordAuditFact fact correlationId detail).left.latestTick = b.latestTick
      ∧ (b.recordAuditFact fact correlationId detail).left.broker = b.broker := by
  unfold DurablePaperBroker.recordAuditFact
  rcases append_result (b := b) _ _ _ fun appended b => (.ok appended, b)
    with ⟨e, happend⟩ | ⟨-, happend⟩ | ⟨-, happend⟩ <;> rw [happend] <;> exact ⟨rfl, rfl, rfl⟩

/-- An order is filled. Its position is in the book also when its result cannot be built, and
then its id is not on record, and it was entered at no price. -/
structure Filled (b s : DurablePaperBroker) (order : ApprovedOrder)
    (fill : SimulatedBroker.SimulatedFill) : Prop where
  fresh : b.orderFingerprints.lookup order.orderRequestId = none
  filled : b.broker.fillOf order = .ok fill
  open_ : s.broker.open_ = b.broker.open_ ++ [b.broker.positionOf order fill]
  nextTicket : s.broker.nextTicket = b.broker.nextTicket + 1
  tick : s.broker.tick = b.broker.tick
  recorded : (∃ fingerprint, s.orderFingerprints
        = b.orderFingerprints ++ [(order.orderRequestId, fingerprint)])
    ∨ (s.orderFingerprints = b.orderFingerprints ∧ ¬ (0 < fill.requested ∧ 0 < fill.price))

/-- **An order opens one position at most**, and none when its id is on record. -/
theorem submit_left (order : PaperOrder) (authorizedRiskAmount : Decimal)
    (correlationId : Option Uuid) :
    (b.submit order authorizedRiskAmount correlationId).left.latestTick = b.latestTick
      ∧ (((b.submit order authorizedRiskAmount correlationId).left.broker.open_ = b.broker.open_
          ∧ (b.submit order authorizedRiskAmount correlationId).left.broker.nextTicket
            = b.broker.nextTicket
          ∧ (b.submit order authorizedRiskAmount correlationId).left.broker.tick = b.broker.tick
          ∧ b.orderFingerprints <+:
            (b.submit order authorizedRiskAmount correlationId).left.orderFingerprints)
        ∨ ∃ fill, Filled b (b.submit order authorizedRiskAmount correlationId).left order.val
            fill) := by
  have hnothing : ∀ b : DurablePaperBroker, b.latestTick = b.latestTick
      ∧ ((b.broker.open_ = b.broker.open_ ∧ b.broker.nextTicket = b.broker.nextTicket
          ∧ b.broker.tick = b.broker.tick ∧ b.orderFingerprints <+: b.orderFingerprints)
        ∨ ∃ fill, Filled b b order.val fill) :=
    fun b => ⟨rfl, .inl ⟨rfl, rfl, rfl, List.prefix_refl _⟩⟩
  unfold DurablePaperBroker.submit
  split
  · exact hnothing b
  split
  · split
    · exact hnothing b
    · split <;> exact hnothing b
  rename_i hfresh
  have happly : ∀ b' : DurablePaperBroker, b'.broker = b.broker → b'.latestTick = b.latestTick →
      b'.orderFingerprints = b.orderFingerprints →
      let s := (b'.applyOrder order.val (digestOf order.val.dump) authorizedRiskAmount).2
      s.latestTick = b.latestTick
        ∧ ((s.broker.open_ = b.broker.open_ ∧ s.broker.nextTicket = b.broker.nextTicket
            ∧ s.broker.tick = b.broker.tick ∧ b.orderFingerprints <+: s.orderFingerprints)
          ∨ ∃ fill, Filled b s order.val fill) := by
    intro b' hbroker htick hfingerprints
    unfold DurablePaperBroker.applyOrder
    rw [hbroker]
    have hsend := b.broker.orderSend_cases order.val
    cases houtcome : b.broker.orderSend order.val with
    | mk outcome broker =>
        rw [houtcome] at hsend
        cases outcome with
        | error e =>
            refine ⟨htick, ?_⟩
            rcases hsend with rfl | ⟨fill, hfill, hopen, hnext, htick', hresult⟩
            · exact .inl ⟨rfl, rfl, rfl, hfingerprints ▸ List.prefix_refl _⟩
            · refine .inr ⟨fill, hfresh, hfill, hopen, hnext, htick', .inr ⟨hfingerprints, ?_⟩⟩
              rcases hresult with ⟨result, hresult⟩ | hresult
              · cases hresult
              · exact hresult
        | ok result =>
            refine ⟨htick, ?_⟩
            rcases hsend with rfl | ⟨fill, hfill, hopen, hnext, htick', -⟩
            · exact .inl ⟨rfl, rfl, rfl, hfingerprints ▸ List.prefix_append ..⟩
            · exact .inr ⟨fill, hfresh, hfill, hopen, hnext, htick',
                .inl ⟨_, by rw [← hfingerprints]⟩⟩
  rcases append_result (b := b) _ _ _ fun _ b =>
      b.applyOrder order.val (digestOf order.val.dump) authorizedRiskAmount
    with ⟨e, happend⟩ | ⟨-, happend⟩ | ⟨-, happend⟩
  · rw [happend]
    exact hnothing b
  · rw [happend]
    exact happly b rfl rfl rfl
  · rw [happend]
    exact happly (b.journalled _) rfl rfl rfl

/-- **What raises after its append raises again when it is replayed**, and what raises without
one has changed nothing. -/
theorem run_error (hb : Claimed b) {o : PaperOperation} {r : Option PaperJournalEntry} {e : PyError}
    {s : DurablePaperBroker} (h : o.run b = ⟨r, .error e, s⟩) :
    (r = none ∧ s = b) ∨ ∃ entry e', r = some entry ∧ b.applyEntry entry = .error e' := by
  cases o with
  | advance tick =>
      change b.advance tick = _ at h
      unfold DurablePaperBroker.advance at h
      split at h
      · cases h
        exact .inl ⟨rfl, rfl⟩
      · dsimp only at h
        split at h
        · cases h
        · rcases append_result (b := b) _ _ _ _ with ⟨e', happend⟩ | ⟨-, happend⟩ | ⟨-, happend⟩
          · rw [happend] at h
            cases h
            exact .inl ⟨rfl, rfl⟩
          · rw [happend] at h
            cases h
          · rw [happend] at h
            cases h
  | submit order authorizedRiskAmount correlationId =>
      change b.submit order authorizedRiskAmount correlationId = _ at h
      unfold DurablePaperBroker.submit at h
      split at h
      · cases h
        exact .inl ⟨rfl, rfl⟩
      split at h
      · split at h
        · cases h
          exact .inl ⟨rfl, rfl⟩
        · split at h
          · cases h
          · cases h
            exact .inl ⟨rfl, rfl⟩
      · rename_i hfresh
        rcases append_result (b := b) _ _ _ _ with ⟨e', happend⟩ | ⟨hknown, -⟩ | ⟨hnew, happend⟩
        · rw [happend] at h
          cases h
          exact .inl ⟨rfl, rfl⟩
        · -- a key on record is an order that was carried out
          have hdone := hb.orders order.val.orderRequestId (by rw [hknown]; rfl)
          rw [hfresh] at hdone
          cases hdone
        · rw [happend] at h
          obtain ⟨rfl, houtcome, -⟩ := Sourcing.Effect.mk.inj h
          refine .inr ⟨_, e, rfl, ?_⟩
          rw [applyEntry_of_none hnew]
          change (b.journalled _).applyAcceptedOrder _ = _
          unfold DurablePaperBroker.applyAcceptedOrder
          simp only [DurablePaperBroker.nextEntry, DurablePaperBroker.orderPayload, Json.field,
            Json.get?_cons] at houtcome ⊢
          simp [ApprovedOrder.modelValidate_dump order.property, Json.asStr?, houtcome, bind,
            Except.bind, Except.map]
  | flattenAll flattenRequestId reason =>
      change b.flattenAll flattenRequestId reason = _ at h
      unfold DurablePaperBroker.flattenAll at h
      split at h
      · cases h
      · rename_i hfresh
        rcases append_result (b := b) _ _ _ _ with ⟨e', happend⟩ | ⟨hknown, -⟩ | ⟨hnew, happend⟩
        · rw [happend] at h
          cases h
          exact .inl ⟨rfl, rfl⟩
        · have hdone := hb.flattens flattenRequestId (by rw [hknown]; rfl)
          rw [hfresh] at hdone
          cases hdone
        · rw [happend] at h
          obtain ⟨rfl, houtcome, -⟩ := Sourcing.Effect.mk.inj h
          refine .inr ⟨_, e, rfl, ?_⟩
          rw [applyEntry_of_none hnew]
          change (b.journalled _).applyRequestedFlatten _ = _
          unfold DurablePaperBroker.applyRequestedFlatten
          simp only [DurablePaperBroker.nextEntry, DurablePaperBroker.flattenPayload, Json.field,
            Json.get?_cons] at houtcome ⊢
          simp [Json.asStr?, houtcome, bind, Except.bind, Except.map]
  | recordAuditFact fact correlationId detail =>
      change b.recordAuditFact fact correlationId detail = _ at h
      unfold DurablePaperBroker.recordAuditFact at h
      rcases append_result (b := b) _ _ _ _ with ⟨e', happend⟩ | ⟨-, happend⟩ | ⟨-, happend⟩
      · rw [happend] at h
        cases h
        exact .inl ⟨rfl, rfl⟩
      · rw [happend] at h
        cases h
      · rw [happend] at h
        cases h

end

end Crumblr
