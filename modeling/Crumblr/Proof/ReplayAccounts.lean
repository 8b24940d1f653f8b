import Crumblr.Lib.DecimalValue
import Crumblr.Lib.ItemLedger
import Crumblr.Proof.PaperFills

/-!
# The accounts of the simulated broker

The book of the simulated broker is a ledger: whatever is called and in what order, the balance is
what it started with and each closed profit added in turn, and a ticket is opened once and closed
at most once. An order that was filled gets its first result again.

What a position has seen is marked from the bars, and the price it leaves at is never marked. A
trade lies between its excursions when it left at a price its position had seen: a stop whose
slippage reaches beyond the bar, or a flatten before the first bar, is outside them.
-/

namespace Crumblr

/-- A call that changes the broker. -/
inductive BrokerCall where
  | orderSend (order : ApprovedOrder)
  | advance (tick : GeneratedTick)
  | closeAllPositions (reason : String)

/-- The broker after a call, also one that raised. -/
def BrokerCall.perform [Externals] (b : SimulatedBroker) : BrokerCall → SimulatedBroker
  | .orderSend order => (b.orderSend order).2
  | .advance tick => (b.advance tick).1
  | .closeAllPositions reason =>
      match b.closeAllPositions reason with
      | .ok (_, b') => b'
      | .error _ => b

/-- To leave a side at one price is no better than to leave it at the other. -/
def Side.NoBetter (side : Side) (price price' : Decimal) : Prop :=
  if side = .buy then price ≤ price' else price' ≤ price

instance (side : Side) (price price' : Decimal) : Decidable (side.NoBetter price price') :=
  inferInstanceAs (Decidable (if side = .buy then price ≤ price' else price' ≤ price))

/-- A price between the worst and the best a position has seen. -/
def OpenPosition.Saw (p : OpenPosition) (price : Decimal) : Prop :=
  p.side.NoBetter p.worstPrice price ∧ p.side.NoBetter price p.bestPrice

instance (p : OpenPosition) (price : Decimal) : Decidable (p.Saw price) :=
  inferInstanceAs (Decidable (_ ∧ _))

/-- A trade between its excursions. -/
def ClosedTrade.Bracketed (trade : ClosedTrade) : Prop :=
  trade.maxAdverseExcursion ≤ trade.profit ∧ trade.profit ≤ trade.maxFavourableExcursion

instance (trade : ClosedTrade) : Decidable trade.Bracketed :=
  inferInstanceAs (Decidable (_ ∧ _))

namespace SimulatedBroker

/-! ## Runs -/

section

variable [Externals]

/-- The broker after some calls. -/
def after (b : SimulatedBroker) : List BrokerCall → SimulatedBroker
  | [] => b
  | call :: calls => after (call.perform b) calls

/-- The tickets the calls open, in turn. -/
def openings (b : SimulatedBroker) : List BrokerCall → List Int
  | [] => []
  | call :: calls =>
      (PaperLite.openedBy b (call.perform b)).map (·.ticket) ++ openings (call.perform b) calls

theorem after_append (b : SimulatedBroker) (calls calls' : List BrokerCall) :
    b.after (calls ++ calls') = (b.after calls).after calls' := by
  induction calls generalizing b with
  | nil => rfl
  | cons call calls ih => exact ih (call.perform b)

end

/-! ## What a bar takes out -/

/-- The stop is within the bar, on the side of the book the position leaves by. -/
def StopHit (b : SimulatedBroker) (tick : GeneratedTick) (p : OpenPosition) : Prop :=
  if p.side = .buy then (b.exitRange tick p.side).1 ≤ p.stopLossPrice.val
  else p.stopLossPrice.val ≤ (b.exitRange tick p.side).2

instance (b : SimulatedBroker) (tick : GeneratedTick) (p : OpenPosition) :
    Decidable (b.StopHit tick p) :=
  inferInstanceAs (Decidable (if p.side = .buy then
    (b.exitRange tick p.side).1 ≤ p.stopLossPrice.val
    else p.stopLossPrice.val ≤ (b.exitRange tick p.side).2))

def TargetHit (b : SimulatedBroker) (tick : GeneratedTick) (p : OpenPosition) (target : Price) :
    Prop :=
  if p.side = .buy then target.val ≤ (b.exitRange tick p.side).2
  else (b.exitRange tick p.side).1 ≤ target.val

instance (b : SimulatedBroker) (tick : GeneratedTick) (p : OpenPosition) (target : Price) :
    Decidable (b.TargetHit tick p target) :=
  inferInstanceAs (Decidable (if p.side = .buy then target.val ≤ (b.exitRange tick p.side).2
    else (b.exitRange tick p.side).1 ≤ target.val))

/-- The stop with the slippage against it. -/
def slippedStop (b : SimulatedBroker) (tick : GeneratedTick) (p : OpenPosition) : Decimal :=
  if p.side = .buy then p.stopLossPrice.val - b.halfSpread tick * slippageSpreadFraction
  else p.stopLossPrice.val + b.halfSpread tick * slippageSpreadFraction

variable {b b' b'' : SimulatedBroker} {tick : GeneratedTick} {p : OpenPosition}

theorem exitOf_eq : b.exitOf tick p
    = if b.StopHit tick p then some (b.slippedStop tick p, "stop_loss")
      else (p.takeProfitPrice.filter fun target => b.TargetHit tick p target).map
        fun target => (target.val, "take_profit") := by
  unfold exitOf StopHit TargetHit slippedStop
  by_cases hside : p.side = .buy <;> simp [hside]

/-- The trade a bar makes of a position, if it does. -/
def leaving (b : SimulatedBroker) (tick : GeneratedTick) (p : OpenPosition) : Option ClosedTrade :=
  (b.exitOf tick p).map fun exit =>
    (b.close (b.marked tick p) exit.1 exit.2 tick.eventTimeUtc).2

theorem leaving_ticket {trade : ClosedTrade} (h : b.leaving tick p = some trade) :
    trade.ticket = p.ticket := by
  obtain ⟨exit, -, rfl⟩ := Option.map_eq_some_iff.mp h
  exact OpenPosition.ticket_of_core core_marked

/-- What is made of a position depends on the broker's instrument only. -/
theorem close_trade (h : b'.spec = b.spec) (exitPrice : Decimal) (reason : String)
    (at_ : UtcDatetime) :
    (b'.close p exitPrice reason at_).2 = (b.close p exitPrice reason at_).2 := by
  unfold close profit
  rw [h]

theorem leaving_spec (h : b'.spec = b.spec) : b'.leaving tick p = b.leaving tick p := by
  have hrange : b'.exitRange tick p.side = b.exitRange tick p.side := by
    unfold exitRange halfSpread
    rw [h]
  have hexit : b'.exitOf tick p = b.exitOf tick p := by
    unfold exitOf halfSpread
    rw [hrange, h]
  have hmarked : b'.marked tick p = b.marked tick p := by
    unfold marked
    rw [hrange]
  unfold leaving
  rw [hexit, hmarked]
  exact Option.map_congr fun exit _ => close_trade h exit.1 exit.2 tick.eventTimeUtc

/-! ## The book as a ledger -/

def ledger (b : SimulatedBroker) : ItemLedger Decimal where
  balance := b.balance
  next := b.nextTicket
  standing := b.open_.map (·.ticket)
  settled := b.closed.map fun trade => (trade.ticket, trade.profit)

/-- One broker has come of another by closing positions. -/
structure Closing (b b' : SimulatedBroker) (trades : List ClosedTrade) : Prop where
  spec : b'.spec = b.spec
  handled : b'.handledRequests = b.handledRequests
  closed : b'.closed = b.closed ++ trades
  ledger : b'.ledger
    = b.ledger.settleAll (trades.map fun trade => (trade.ticket, trade.profit))

theorem Closing.trans {trades trades' : List ClosedTrade} (h : Closing b b' trades)
    (h' : Closing b' b'' trades') : Closing b b'' (trades ++ trades') where
  spec := h'.spec.trans h.spec
  handled := h'.handled.trans h.handled
  closed := by rw [h'.closed, h.closed, List.append_assoc]
  ledger := by rw [h'.ledger, h.ledger, List.map_append, ItemLedger.settleAll_append]

theorem closing_close (exitPrice : Decimal) (reason : String) (at_ : UtcDatetime) :
    Closing b (b.close p exitPrice reason at_).1 [(b.close p exitPrice reason at_).2] where
  spec := rfl
  handled := rfl
  closed := rfl
  ledger := by
    have hstanding : (b.open_.filter fun q => q.ticket ≠ p.ticket).map (·.ticket)
        = (b.open_.map (·.ticket)).filter (· ≠ p.ticket) := by
      rw [List.filter_map]
      rfl
    unfold ledger close
    simp only [List.map_append, hstanding]
    rfl

/-- Marking a position leaves the ledger as it is. -/
theorem closing_mark (b : SimulatedBroker) (tick : GeneratedTick) (p : OpenPosition) : Closing b { b with
    open_ := b.open_.map fun q => if q.ticket = (b.marked tick p).ticket then b.marked tick p
      else q } [] where
  spec := rfl
  handled := rfl
  closed := (List.append_nil _).symm
  ledger := by
    have htickets : (b.open_.map fun q => if q.ticket = (b.marked tick p).ticket
        then b.marked tick p else q).map (·.ticket) = b.open_.map (·.ticket) := by
      rw [List.map_map]
      refine List.map_congr_left fun q _ => ?_
      by_cases hq : q.ticket = (b.marked tick p).ticket <;> simp [hq]
    unfold ledger
    simp only [htickets]
    rfl

/-- What a bar does to a position does not depend on what it has seen. -/
theorem exitOf_marked (h : b'.spec = b.spec) :
    b'.exitOf tick (b.marked tick p) = b.exitOf tick p := by
  unfold exitOf marked exitRange halfSpread
  rw [h]
  dsimp only
  split <;> rfl

/-- **One position of the book at a new tick.** -/
theorem closing_resolveExit (tick : GeneratedTick) (p : OpenPosition)
    (s : SimulatedBroker × List ClosedTrade) :
    Closing s.1 (resolveExit tick s p).1 (s.1.leaving tick p).toList
      ∧ (resolveExit tick s p).2 = s.2 ++ (s.1.leaving tick p).toList := by
  obtain ⟨b, trades⟩ := s
  have hmark := closing_mark b tick p
  unfold resolveExit leaving
  dsimp only
  rw [exitOf_marked (by rfl)]
  cases b.exitOf tick p with
  | none => exact ⟨hmark, (List.append_nil _).symm⟩
  | some exit => exact ⟨hmark.trans (closing_close exit.1 exit.2 tick.eventTimeUtc), rfl⟩

/-- **A new tick closes what it takes out.** -/
theorem closing_advance (b : SimulatedBroker) (tick : GeneratedTick) : Closing b (b.advance tick).1 (b.advance tick).2
    ∧ (b.advance tick).2 = b.open_.filterMap (b.leaving tick) := by
  unfold advance
  -- the fold has closed some of the positions, and what is to come depends on the instrument only
  suffices h : ∀ (positions : List OpenPosition) (s : SimulatedBroker × List ClosedTrade),
      Closing b s.1 s.2 →
      Closing b (positions.foldl (resolveExit tick) s).1 (positions.foldl (resolveExit tick) s).2
        ∧ (positions.foldl (resolveExit tick) s).2 = s.2 ++ positions.filterMap (b.leaving tick) from
    h b.open_ _ ⟨rfl, rfl, (List.append_nil _).symm, rfl⟩
  intro positions
  induction positions with
  | nil => exact fun s h => ⟨h, (List.append_nil _).symm⟩
  | cons position positions ih =>
      intro s h
      obtain ⟨hclosing, htrades⟩ := closing_resolveExit tick position s
      rw [leaving_spec h.spec] at hclosing htrades
      obtain ⟨hall, hlist⟩ := ih (resolveExit tick s position) (htrades ▸ h.trans hclosing)
      refine ⟨hall, ?_⟩
      rw [List.foldl_cons, hlist, htrades, List.append_assoc, List.filterMap_cons]
      cases b.leaving tick position <;> rfl

/-- What a flatten makes of a position. -/
def flattened (b : SimulatedBroker) (tick : GeneratedTick) (reason : String) (p : OpenPosition) :
    ClosedTrade :=
  (b.close p (if p.side = .buy then tick.bid else tick.ask) reason tick.eventTimeUtc).2

/-- **A flatten closes everything.** -/
theorem closing_closeAllPositions {reason : String} {tickets : List Int}
    (h : b.closeAllPositions reason = .ok (tickets, b')) :
    ∃ tick, b.tick = some tick ∧ Closing b b' (b.open_.map (b.flattened tick reason)) := by
  obtain ⟨tick, htick, h⟩ := bind_ok h
  refine ⟨tick, tick_of_requireTick htick, ?_⟩
  suffices hfold : ∀ (positions : List OpenPosition) (s : SimulatedBroker × List Int)
      (trades : List ClosedTrade), Closing b s.1 trades →
      Closing b (positions.foldl (fun (s : SimulatedBroker × List Int) position =>
        ((s.1.close position (if position.side = .buy then tick.bid else tick.ask) reason
          tick.eventTimeUtc).1, s.2 ++ [position.ticket])) s).1
        (trades ++ positions.map (b.flattened tick reason)) by
    have hall := hfold b.open_ (b, []) [] ⟨rfl, rfl, (List.append_nil _).symm, rfl⟩
    cases h
    exact hall
  intro positions
  induction positions with
  | nil => exact fun s trades h => (List.append_nil trades).symm ▸ h
  | cons position positions ih =>
      intro s trades hs
      have hclosing := closing_close (b := s.1) (p := position)
        (if position.side = .buy then tick.bid else tick.ask) reason tick.eventTimeUtc
      rw [close_trade hs.spec] at hclosing
      have hrest := ih (_, s.2 ++ [position.ticket]) _ (hs.trans hclosing)
      rw [List.append_assoc] at hrest
      exact hrest

/-! ## What an order does -/

section

variable [Externals]

/-- What sending an order can come to. -/
inductive Sent (b : SimulatedBroker) (order : ApprovedOrder) :
    Except PyError SimulatedResult × SimulatedBroker → Prop
  | handled {result} (h : b.handledRequests.lookup order.orderRequestId = some result) :
      Sent b order (.ok result, b)
  | refused {e} (h : b.handledRequests.lookup order.orderRequestId = none) :
      Sent b order (.error e, b)
  /-- The position is in the book, and its result cannot be built. -/
  | unrecorded {fill e} (h : b.handledRequests.lookup order.orderRequestId = none)
      (hfill : b.fillOf order = .ok fill) (hprice : ¬ (0 < fill.requested ∧ 0 < fill.price)) :
      Sent b order (.error e, b.opened order fill)
  | filled {fill result} (h : b.handledRequests.lookup order.orderRequestId = none)
      (hfill : b.fillOf order = .ok fill) :
      Sent b order (.ok result, { b.opened order fill with
        handledRequests := b.handledRequests ++ [(order.orderRequestId, result)] })

theorem sent (b : SimulatedBroker) (order : ApprovedOrder) : Sent b order (b.orderSend order) := by
  unfold orderSend
  cases hlookup : b.handledRequests.lookup order.orderRequestId with
  | some result => exact .handled hlookup
  | none =>
      cases hfill : b.fillOf order with
      | error e => exact .refused hlookup
      | ok fill =>
          cases hresult : fillResult order fill b.nextTicket with
          | error e =>
              simp only [hresult]
              exact .unrecorded hlookup hfill (fillResult_error hresult)
          | ok result =>
              simp only [hresult]
              exact .filled hlookup hfill

omit [Externals] in
/-- An order is filled at the quote and the slippage. -/
theorem fillOf_prices {order : ApprovedOrder} {fill : SimulatedFill}
    (h : b.fillOf order = .ok fill) :
    ∃ tick, b.tick = some tick ∧ ∃ slip,
      (b.halfSpread tick * slippageSpreadFraction).quantize .down b.spec.tickSize.val.exp = some slip
        ∧ fill.requested = (if order.side = .buy then tick.ask else tick.bid)
        ∧ fill.price = if order.side = .buy then tick.ask + slip else tick.bid - slip := by
  have hquote := (fillOf_tick h).1
  obtain ⟨tick, htick, h⟩ := bind_ok h
  obtain ⟨now, -, h⟩ := bind_ok h
  dsimp only at h
  split at h
  · rename_i slip hslip
    obtain ⟨slip', hpure, h⟩ := bind_ok h
    cases hpure
    obtain ⟨points, -, h⟩ := bind_ok h
    cases h
    refine ⟨tick, hquote, slip, hslip, ?_, ?_⟩
    · by_cases hside : order.side = .buy <;> simp [hside]
    · by_cases hside : order.side = .buy <;> simp [hside]
  · cases h

/-! ## Every call keeps the ledger -/

omit [Externals] in
theorem Closing.history {trades : List ClosedTrade} {l₀ : ItemLedger Decimal} {issued : List Int}
    (h : Closing b b' trades) (hb : ItemLedger.History l₀ issued b.ledger)
    (hnodup : (trades.map (·.ticket)).Nodup)
    (hmem : ∀ trade ∈ trades, trade.ticket ∈ b.open_.map (·.ticket)) :
    ItemLedger.History l₀ (issued ++ (PaperLite.openedBy b b').map (·.ticket)) b'.ledger := by
  have hnone : PaperLite.openedBy b b' = [] := by
    refine PaperLite.openedBy_of_tickets fun p hp => ?_
    have hstanding : p.ticket ∈ b'.ledger.standing := List.mem_map_of_mem hp
    rw [h.ledger] at hstanding
    exact (b.ledger.standing_settleAll _).subset hstanding
  rw [hnone, List.map_nil, List.append_nil, h.ledger]
  refine hb.settleAll ?_ fun item hitem => ?_
  · rw [List.map_map]
    exact hnodup
  · obtain ⟨trade, htrade, rfl⟩ := List.mem_map.mp hitem
    exact hmem trade htrade

omit [Externals] in
theorem leaving_tickets (b : SimulatedBroker) (tick : GeneratedTick) (ps : List OpenPosition) :
    ((ps.filterMap (b.leaving tick)).map (·.ticket)).Sublist (ps.map (·.ticket)) := by
  induction ps with
  | nil => exact .slnil
  | cons p ps ih =>
      rw [List.filterMap_cons]
      cases htrade : b.leaving tick p with
      | none => exact ih.cons _
      | some trade =>
          rw [List.map_cons, List.map_cons, leaving_ticket htrade]
          exact ih.cons_cons _

omit [Externals] in
theorem Ticketed.of_kept {start : Decimal} {issued : List Int}
    (h : ItemLedger.Kept start issued b.ledger) : Ticketed b where
  nodup := h.standing_nodup
  below := by
    intro p hp
    have hstanding : p.ticket ∈ b.ledger.standing := List.mem_map_of_mem hp
    exact h.below _ (h.accounted.subset (List.mem_append_left _ hstanding))

/-- **A call is a step of the ledger, or several.** -/
theorem history_perform {start : Decimal} {first : Int} {issued : List Int}
    (h : ItemLedger.History (.opening start first) issued b.ledger) (call : BrokerCall) :
    ItemLedger.History (.opening start first)
      (issued ++ (PaperLite.openedBy b (call.perform b)).map (·.ticket))
      (call.perform b).ledger := by
  have hkept := ItemLedger.kept h
  have hsame : PaperLite.openedBy b b = [] := PaperLite.openedBy_same rfl
  cases call with
  | orderSend order =>
      have hticketed := Ticketed.of_kept hkept
      unfold BrokerCall.perform
      dsimp only
      have hopens : ∀ {fill : SimulatedFill} {c : SimulatedBroker},
          c.open_ = b.open_ ++ [b.positionOf order fill] → c.ledger = b.ledger.openItem →
          ItemLedger.History (.opening start first)
            (issued ++ (PaperLite.openedBy b c).map (·.ticket)) c.ledger := by
        intro fill c hopen hledger
        rw [PaperLite.openedBy_concat hticketed hopen rfl, hledger]
        exact h.openItem
      have hledger : ∀ fill : SimulatedFill, (b.opened order fill).ledger = b.ledger.openItem := by
        intro fill
        unfold ledger opened ItemLedger.openItem
        simp only [List.map_append]
        rfl
      cases hsent : b.orderSend order with
      | mk outcome after =>
          have hcases := sent b order
          rw [hsent] at hcases
          cases hcases with
          | handled _ | refused _ =>
              rw [hsame, List.map_nil, List.append_nil]
              exact h
          | unrecorded _ hfill _ => exact hopens rfl (hledger _)
          | filled _ hfill => exact hopens rfl (hledger _)
  | advance tick =>
      obtain ⟨hclosing, htrades⟩ := closing_advance b tick
      have htickets := leaving_tickets b tick b.open_
      rw [← htrades] at htickets
      exact hclosing.history h (hkept.standing_nodup.sublist htickets) fun trade htrade =>
        htickets.subset (List.mem_map_of_mem htrade)
  | closeAllPositions reason =>
      unfold BrokerCall.perform
      dsimp only
      split
      · rename_i tickets b' hclose
        obtain ⟨tick, -, hclosing⟩ := closing_closeAllPositions hclose
        have htickets : (b.open_.map (b.flattened tick reason)).map (·.ticket)
            = b.open_.map (·.ticket) := List.map_map
        refine hclosing.history h (htickets ▸ hkept.standing_nodup) fun trade htrade => ?_
        rw [← htickets]
        exact List.mem_map_of_mem htrade
      · rw [hsame, List.map_nil, List.append_nil]
        exact h

theorem history_after {start : Decimal} {first : Int} {issued : List Int}
    (h : ItemLedger.History (.opening start first) issued b.ledger) (calls : List BrokerCall) :
    ItemLedger.History (.opening start first) (issued ++ b.openings calls) (b.after calls).ledger := by
  induction calls generalizing b issued with
  | nil =>
      rw [openings, List.append_nil]
      exact h
  | cons call calls ih =>
      rw [openings, ← List.append_assoc]
      exact ih (history_perform h call)

/-! ## A request that was handled -/

theorem handled_perform (b : SimulatedBroker) (call : BrokerCall) :
    b.handledRequests <+: (call.perform b).handledRequests := by
  cases call with
  | orderSend order =>
      unfold BrokerCall.perform
      dsimp only
      cases hsent : b.orderSend order with
      | mk outcome after =>
          have hcases := sent b order
          rw [hsent] at hcases
          cases hcases with
          | handled _ | refused _ | unrecorded _ _ _ => exact List.prefix_rfl
          | filled _ _ => exact List.prefix_append _ _
  | advance tick =>
      have hhandled := (closing_advance b tick).1.handled
      exact hhandled ▸ List.prefix_rfl
  | closeAllPositions reason =>
      unfold BrokerCall.perform
      dsimp only
      split
      · rename_i tickets b' hclose
        obtain ⟨tick, -, hclosing⟩ := closing_closeAllPositions hclose
        exact hclosing.handled ▸ List.prefix_rfl
      · exact List.prefix_rfl

theorem handled_after (b : SimulatedBroker) (calls : List BrokerCall) :
    b.handledRequests <+: (b.after calls).handledRequests := by
  induction calls generalizing b with
  | nil => exact List.prefix_rfl
  | cons call calls ih => exact (handled_perform b call).trans (ih (call.perform b))

/-- What returned a result is on record. -/
theorem lookup_of_sent {order : ApprovedOrder} {result : SimulatedResult}
    (h : (b.orderSend order).1 = .ok result) :
    (b.orderSend order).2.handledRequests.lookup order.orderRequestId = some result := by
  cases hsent : b.orderSend order with
  | mk outcome after =>
      rw [hsent] at h
      have hcases := sent b order
      rw [hsent] at hcases
      cases hcases with
      | handled hlookup => exact Except.ok.inj h ▸ hlookup
      | refused _ | unrecorded _ _ _ => cases h
      | filled hlookup _ => exact Except.ok.inj h ▸ lookup_concat_of_none hlookup

theorem orderSend_handled {order : ApprovedOrder} {result : SimulatedResult}
    (h : b.handledRequests.lookup order.orderRequestId = some result) :
    b.orderSend order = (.ok result, b) := by
  unfold orderSend
  rw [h]

end

/-! ## What a position has seen -/

/-- The better the price a position leaves at, the more it brings. -/
theorem profit_mono {side : Side} {volume entry price price' : Decimal} (hvolume : 0 < volume)
    (h : side.NoBetter price price') :
    b.profit side volume entry price ≤ b.profit side volume entry price' := by
  unfold Side.NoBetter at h
  have hmove : (if side = .buy then price - entry else entry - price)
      ≤ if side = .buy then price' - entry else entry - price' := by
    by_cases hside : side = .buy
    · rw [if_pos hside] at h
      rw [if_pos hside, if_pos hside]
      exact Decimal.sub_mono h (le_refl entry)
    · rw [if_neg hside] at h
      rw [if_neg hside, if_neg hside]
      exact Decimal.sub_mono (le_refl entry) h
  have hsize := Decimal.div_mono_left b.spec.tickSize.property hmove
  have hvalue := Decimal.mul_mono_left b.spec.tickValue.property hsize
  exact Decimal.mul_mono_left hvolume hvalue

/-- **What leaves at a price it has seen is between its excursions.** -/
theorem bracketed_close {price : Decimal} (h : p.Saw price) (reason : String)
    (at_ : UtcDatetime) : (b.close p price reason at_).2.Bracketed :=
  ⟨profit_mono p.volume.property h.1, profit_mono p.volume.property h.2⟩

/-- Every price a bar takes a position out at is one it has seen, the bar included: the stop with
its slippage, or the target. -/
def ExitsSeen (b : SimulatedBroker) (tick : GeneratedTick) : Prop :=
  ∀ p ∈ b.open_,
    (b.StopHit tick p → (b.marked tick p).Saw (b.slippedStop tick p))
      ∧ (¬ b.StopHit tick p → ∀ target ∈ p.takeProfitPrice, b.TargetHit tick p target →
          (b.marked tick p).Saw target.val)

/-- The quote is one every open position has seen. -/
def QuoteSeen (b : SimulatedBroker) : Prop :=
  ∀ tick ∈ b.tick, ∀ p ∈ b.open_, p.Saw (if p.side = .buy then tick.bid else tick.ask)

/-- An order that is new is quoted and filled at prices. -/
def SendPriced (b : SimulatedBroker) (order : ApprovedOrder) : Prop :=
  b.handledRequests.lookup order.orderRequestId = none → ∀ tick ∈ b.tick,
    ∀ slip ∈ (b.halfSpread tick * slippageSpreadFraction).quantize .down b.spec.tickSize.val.exp,
      if order.side = .buy then 0 < tick.ask ∧ 0 < tick.ask + slip
      else 0 < tick.bid ∧ 0 < tick.bid - slip

/-- What a call must find for the accounts to be kept. -/
def Meets (b : SimulatedBroker) : BrokerCall → Prop
  | .orderSend order => b.SendPriced order
  | .advance tick => b.ExitsSeen tick
  | .closeAllPositions _ => b.QuoteSeen

instance (b : SimulatedBroker) : (call : BrokerCall) → Decidable (b.Meets call)
  | .orderSend order => by unfold Meets SendPriced; infer_instance
  | .advance tick => by unfold Meets ExitsSeen; infer_instance
  | .closeAllPositions _ => by unfold Meets QuoteSeen; infer_instance

theorem bracketed_leaving (hseen : b.ExitsSeen tick) (hp : p ∈ b.open_) {trade : ClosedTrade}
    (h : b.leaving tick p = some trade) : trade.Bracketed := by
  obtain ⟨exit, hexit, rfl⟩ := Option.map_eq_some_iff.mp h
  refine bracketed_close ?_ exit.2 tick.eventTimeUtc
  obtain ⟨hstop, htarget⟩ := hseen p hp
  rw [exitOf_eq] at hexit
  split at hexit
  · rename_i hhit
    obtain rfl := Option.some.inj hexit
    exact hstop hhit
  · rename_i hhit
    obtain ⟨target, hfilter, rfl⟩ := Option.map_eq_some_iff.mp hexit
    obtain ⟨hsome, hreached⟩ := Option.filter_eq_some_iff.mp hfilter
    exact htarget hhit target hsome (of_decide_eq_true hreached)

variable [Externals]

theorem bracketed_perform {call : BrokerCall} (hmeets : b.Meets call)
    (h : ∀ trade ∈ b.closed, trade.Bracketed) :
    ∀ trade ∈ (call.perform b).closed, trade.Bracketed := by
  cases call with
  | orderSend order =>
      unfold BrokerCall.perform
      dsimp only
      cases hsent : b.orderSend order with
      | mk outcome after =>
          have hcases := sent b order
          rw [hsent] at hcases
          cases hcases <;> exact h
  | advance tick =>
      obtain ⟨hclosing, htrades⟩ := closing_advance b tick
      change ∀ trade ∈ (b.advance tick).1.closed, trade.Bracketed
      rw [hclosing.closed, htrades]
      intro trade htrade
      rcases List.mem_append.mp htrade with hold | hnew
      · exact h trade hold
      · obtain ⟨p, hp, hleaving⟩ := List.mem_filterMap.mp hnew
        exact bracketed_leaving hmeets hp hleaving
  | closeAllPositions reason =>
      unfold BrokerCall.perform
      dsimp only
      split
      · rename_i tickets b' hclose
        obtain ⟨tick, htick, hclosing⟩ := closing_closeAllPositions hclose
        rw [hclosing.closed]
        intro trade htrade
        rcases List.mem_append.mp htrade with hold | hnew
        · exact h trade hold
        · obtain ⟨p, hp, rfl⟩ := List.mem_map.mp hnew
          exact bracketed_close (hmeets tick htick p hp) reason tick.eventTimeUtc
      · exact h

/-- An order that is priced and opens a position returns its result. -/
theorem ok_of_opened {order : ApprovedOrder} (hpriced : b.SendPriced order)
    (hopened : PaperLite.openedBy b (b.orderSend order).2 ≠ []) :
    ∃ result, (b.orderSend order).1 = .ok result := by
  cases hsent : b.orderSend order with
  | mk outcome after =>
      rw [hsent] at hopened
      have hcases := sent b order
      rw [hsent] at hcases
      cases hcases with
      | @handled result _ | @filled _ result _ _ => exact ⟨result, rfl⟩
      | refused _ => exact absurd (PaperLite.openedBy_same rfl) hopened
      | unrecorded hlookup hfill hprice =>
          obtain ⟨tick, htick, slip, hslip, hrequested, hfilled⟩ := fillOf_prices hfill
          have hprices := hpriced hlookup tick htick slip hslip
          refine absurd ?_ hprice
          rw [hrequested, hfilled]
          by_cases hside : order.side = .buy
          · rw [if_pos hside] at hprices
            rw [if_pos hside, if_pos hside]
            exact hprices
          · rw [if_neg hside] at hprices
            rw [if_neg hside, if_neg hside]
            exact hprices

/-- Every call of the run finds what it must. -/
def RunMeets (b : SimulatedBroker) : List BrokerCall → Prop
  | [] => True
  | call :: calls => b.Meets call ∧ RunMeets (call.perform b) calls

instance RunMeets.decidable (b : SimulatedBroker) : (calls : List BrokerCall) →
    Decidable (b.RunMeets calls)
  | [] => .isTrue trivial
  | call :: calls => @instDecidableAnd _ _ _ (RunMeets.decidable (call.perform b) calls)

theorem bracketed_after {calls : List BrokerCall} (hmeets : b.RunMeets calls)
    (h : ∀ trade ∈ b.closed, trade.Bracketed) : ∀ trade ∈ (b.after calls).closed, trade.Bracketed := by
  induction calls generalizing b with
  | nil => exact h
  | cons call calls ih => exact ih hmeets.2 (bracketed_perform hmeets.1 h)

theorem RunMeets.append {calls calls' : List BrokerCall} (h : b.RunMeets (calls ++ calls')) :
    (b.after calls).RunMeets calls' := by
  induction calls generalizing b with
  | nil => exact h
  | cons call calls ih => exact ih h.2

/-! ## The accounts -/

/-- The balance and the tickets of a broker that was created and then called. -/
structure Balanced (b : SimulatedBroker) (calls : List BrokerCall) : Prop where
  /-- What it started with, and each closed profit added in turn. -/
  balance : (b.after calls).balance
    = (b.after calls).closed.foldl (fun balance trade => balance + trade.profit) b.balance
  openedOnce : (b.openings calls).Nodup
  closedOnce : ((b.after calls).closed.map (·.ticket)).Nodup
  closedOpened : ∀ trade ∈ (b.after calls).closed, trade.ticket ∈ b.openings calls

/-- Its accounts in full. -/
structure Accounted (b : SimulatedBroker) (calls : List BrokerCall) : Prop
    extends Balanced b calls where
  /-- An order that returned a result or opened a position is answered the same again, and nothing
  changes. -/
  repeated : ∀ before order between, calls = before ++ .orderSend order :: between →
    ((∃ result, ((b.after before).orderSend order).1 = .ok result)
      ∨ PaperLite.openedBy (b.after before) ((b.after before).orderSend order).2 ≠ []) →
    ∀ again, again.orderRequestId = order.orderRequestId →
      (b.after calls).orderSend again = (((b.after before).orderSend order).1, b.after calls)
  excursions : ∀ trade ∈ (b.after calls).closed, trade.Bracketed

section

variable (spec : InstrumentSpec) (startingBalance : Decimal) (accountCurrency server : String)
  (login : Int) (leverage : Nat) (calls : List BrokerCall)

theorem kept_after : ItemLedger.Kept startingBalance
    ((create spec startingBalance accountCurrency server login leverage).openings calls)
    ((create spec startingBalance accountCurrency server login leverage).after calls).ledger := by
  generalize hb : create spec startingBalance accountCurrency server login leverage = b
  have hstart : ItemLedger.History (.opening startingBalance 500000) [] b.ledger := by
    rw [← hb]
    exact .start
  have hhistory := history_after hstart calls
  rw [List.nil_append] at hhistory
  exact ItemLedger.kept hhistory

theorem ticketed_after :
    ((create spec startingBalance accountCurrency server login leverage).after calls).Ticketed :=
  .of_kept (kept_after spec startingBalance accountCurrency server login leverage calls)

/-- **The balance and the tickets are right in every run.** -/
theorem balanced :
    (create spec startingBalance accountCurrency server login leverage).Balanced calls := by
  have hkept := kept_after spec startingBalance accountCurrency server login leverage calls
  generalize hb : create spec startingBalance accountCurrency server login leverage = b at *
  have hsettled : (b.after calls).ledger.settled.map Prod.fst
      = (b.after calls).closed.map (·.ticket) := List.map_map
  refine ⟨?_, hkept.nodup, ?_, ?_⟩
  · have hbalance := hkept.balance
    change _ = ((b.after calls).closed.map _).foldl _ _ at hbalance
    rw [List.foldl_map] at hbalance
    rw [← hb] at hbalance ⊢
    exact hbalance
  · exact hsettled ▸ hkept.settled_nodup
  · intro trade htrade
    refine hkept.accounted.subset (List.mem_append_right _ ?_)
    rw [hsettled]
    exact List.mem_map_of_mem htrade

/--
**The accounts of the simulated broker.** They are kept in every run whose new orders are quoted
and filled at prices, and whose positions leave at prices they have seen.
-/
theorem accounts_kept
    (h : (create spec startingBalance accountCurrency server login leverage).RunMeets calls) :
    (create spec startingBalance accountCurrency server login leverage).Accounted calls := by
  refine ⟨balanced spec startingBalance accountCurrency server login leverage calls, ?_, ?_⟩
  · intro before order between hcalls hfirst again hid
    subst hcalls
    obtain ⟨result, hok⟩ := hfirst.elim id (ok_of_opened h.append.1)
    rw [after_append, hok]
    refine orderSend_handled (hid ▸ ?_)
    exact lookup_mono (handled_after _ between) (lookup_of_sent hok)
  · exact bracketed_after h fun trade htrade => absurd htrade List.not_mem_nil

end

end SimulatedBroker

end Crumblr

namespace Crumblr

namespace Sample

def startedBroker : SimulatedBroker := .create spec ⟨10000, 0⟩ "EUR" "Demo" 1 30

/-- A position that sees a bar before it is flattened. -/
def flattenedLater : List BrokerCall :=
  [.advance (quoted 0), .orderSend paperOrder.val, .advance (quoted 1), .orderSend paperOrder.val,
   .closeAllPositions "operator"]

/-- A position that is flattened at the quote it was opened at. -/
def flattenedAtOnce : List BrokerCall :=
  [.advance (quoted 0), .orderSend paperOrder.val, .closeAllPositions "operator"]

end Sample

open Sample SimulatedBroker in
theorem accounts_kept_sample : startedBroker.Accounted flattenedLater :=
  accounts_kept spec ⟨10000, 0⟩ "EUR" "Demo" 1 30 flattenedLater (by decide +kernel)

open Sample SimulatedBroker in
/-- The trade lost the spread, and its greatest loss is on record as none. -/
theorem flattened_at_once_lost_more : ¬ ∀ (spec : InstrumentSpec) (startingBalance : Decimal)
    (accountCurrency server : String) (login : Int) (leverage : Nat) (calls : List BrokerCall),
    (create spec startingBalance accountCurrency server login leverage).Accounted calls := by
  intro h
  have hbracketed := (h spec ⟨10000, 0⟩ "EUR" "Demo" 1 30 flattenedAtOnce).excursions
  exact absurd hbracketed (by decide +kernel)

end Crumblr
