import Crumblr.Proof.PaperFills
import Crumblr.Proof.ReplayAccounts

/-!
# The terms of a paper fill

An order says up to which price, until when and at which slippage it's to be filled. The simulation
fills at the current quote and looks at none of the three, so a fill keeps to the order's terms as
long as the quote, the clock and the spread do.
-/

namespace Crumblr

/-! ## The terms and the quote -/

/-- A position that was opened on its order's terms: a limit order at its price or better, before
the order expired, with no more slippage than it admits. -/
structure Honours (order : ApprovedOrder) (now : Option UtcDatetime) (x : OpenPosition) : Prop where
  limit : order.entryType = .limit → ∀ price, order.price = some price →
    if order.side = .buy then x.entryPrice ≤ price.val else price.val ≤ x.entryPrice
  unexpired : ∀ t, now = some t → t < order.expiresAtUtc
  slippage : x.entrySlippagePoints ≤ order.maxSlippagePoints

instance (order : ApprovedOrder) (now : Option UtcDatetime) (x : OpenPosition) :
    Decidable (Honours order now x) :=
  decidable_of_iff
    ((order.entryType = .limit → ∀ price ∈ order.price,
        if order.side = .buy then x.entryPrice ≤ price.val else price.val ≤ x.entryPrice)
      ∧ (∀ t ∈ now, t < order.expiresAtUtc)
      ∧ x.entrySlippagePoints ≤ order.maxSlippagePoints)
    ⟨fun h => ⟨h.1, h.2.1, h.2.2⟩, fun h => ⟨h.limit, h.unexpired, h.slippage⟩⟩

/-- A result that says of a fill what the position does. -/
structure RecordsFill (now : Option UtcDatetime) (x : OpenPosition) (result : SimulatedResult) : Prop where
  executedPrice : result.executedPrice.map (·.val) = some x.entryPrice
  slippagePoints : result.slippagePoints = some x.entrySlippagePoints
  completedAtUtc : result.completedAtUtc = now

namespace SimulatedBroker

variable (b : SimulatedBroker)

/-- What an entry slips at a quote: a quarter of half the spread, in whole steps. -/
def entrySlip (tick : GeneratedTick) : Option Decimal :=
  (b.halfSpread tick * slippageSpreadFraction).quantize .down b.spec.tickSize.val.exp

/-- The far side of the book, slipped. -/
def slippedQuote (tick : GeneratedTick) (side : Side) (slip : Decimal) : Decimal :=
  if side = .buy then tick.ask + slip else tick.bid - slip

/-- How far that is from the quote, in points. -/
def slippedPoints (tick : GeneratedTick) (side : Side) (slip : Decimal) : Decimal :=
  (if side = .buy then tick.ask + slip - tick.ask else tick.bid - (tick.bid - slip))
    / b.spec.point.val

/-- The market is within an order's terms. -/
structure QuotesWithin (order : ApprovedOrder) : Prop where
  limit : order.entryType = .limit → ∀ price, order.price = some price →
    ∀ tick slip, b.tick = some tick → b.entrySlip tick = some slip →
      if order.side = .buy then tick.ask + slip ≤ price.val else price.val ≤ tick.bid - slip
  unexpired : ∀ t, b.now = some t → t < order.expiresAtUtc
  slippage : ∀ tick slip, b.tick = some tick → b.entrySlip tick = some slip →
    (b.slippedPoints tick order.side slip).value < order.maxSlippagePoints + 1 / 2

variable {b} {order : ApprovedOrder} {fill : SimulatedFill}

/-- A distance in points is the quotient, rounded half away from zero. -/
theorem priceToPoints_ok {distance point : Decimal} {points : Int}
    (h : priceToPoints distance point = .ok points) :
    ∃ q, (distance / point).quantize .halfUp 0 = some q ∧ points = q.toInt := by
  unfold priceToPoints at h
  split at h
  · cases h
  · cases hq : (distance / point).quantize .halfUp 0 with
    | none =>
        rw [hq] at h
        cases h
    | some q =>
        rw [hq] at h
        cases h
        exact ⟨q, rfl, rfl⟩

/-- **What an order is filled at** is the quote of the moment, slipped. -/
theorem fillOf_terms (h : b.fillOf order = .ok fill) : ∃ tick slip, b.tick = some tick
    ∧ b.entrySlip tick = some slip ∧ b.now = some fill.now
    ∧ fill.price = slippedQuote tick order.side slip
    ∧ ∃ q, (b.slippedPoints tick order.side slip).quantize .halfUp 0 = some q
      ∧ fill.slippagePoints = q.toInt := by
  obtain ⟨tick, htick, h⟩ := bind_ok h
  obtain ⟨now, hnow, h⟩ := bind_ok h
  dsimp only at h
  split at h
  swap
  · cases h
  rename_i slip hslip
  obtain ⟨slip', hpure, h⟩ := bind_ok h
  cases hpure
  obtain ⟨points, hpoints, h⟩ := bind_ok h
  cases h
  have hclock : b.now = some now := by
    unfold requireNow at hnow
    split at hnow
    · cases hnow
      assumption
    · cases hnow
  obtain ⟨q, hq, rfl⟩ := priceToPoints_ok hpoints
  refine ⟨tick, slip, tick_of_requireTick htick, hslip, hclock, ?_, q, ?_, rfl⟩
  · by_cases hside : order.side = .buy <;> simp [slippedQuote, hside]
  · by_cases hside : order.side = .buy
    · simpa [slippedPoints, hside] using hq
    · simpa [slippedPoints, hside] using hq

/-- A position honours its order just when the market was within the order's terms. -/
theorem honours_positionOf (h : b.fillOf order = .ok fill) :
    Honours order b.now (b.positionOf order fill) ↔ b.QuotesWithin order := by
  obtain ⟨tick, slip, htick, hslip, hnow, hprice, q, hq, hpoints⟩ := fillOf_terms h
  have hrounded : fill.slippagePoints ≤ order.maxSlippagePoints
      ↔ (b.slippedPoints tick order.side slip).value < order.maxSlippagePoints + 1 / 2 := by
    rw [hpoints]
    exact Decimal.toInt_quantize_halfUp_le hq
  constructor
  · intro hh
    refine ⟨fun hentry price hlimit tick' slip' htick' hslip' => ?_, hh.unexpired,
      fun tick' slip' htick' hslip' => ?_⟩
    all_goals
      obtain rfl := Option.some.inj (htick.symm.trans htick')
      obtain rfl := Option.some.inj (hslip.symm.trans hslip')
    · have hkept := hh.limit hentry price hlimit
      change (if order.side = .buy then fill.price ≤ price.val else price.val ≤ fill.price) at hkept
      rw [hprice] at hkept
      unfold slippedQuote at hkept
      by_cases hside : order.side = .buy <;> simpa [hside] using hkept
    · exact hrounded.mp hh.slippage
  · intro hw
    refine ⟨fun hentry price hlimit => ?_, hw.unexpired, hrounded.mpr (hw.slippage tick slip htick hslip)⟩
    have hkept := hw.limit hentry price hlimit tick slip htick hslip
    change (if order.side = .buy then fill.price ≤ price.val else price.val ≤ fill.price)
    rw [hprice]
    unfold slippedQuote
    by_cases hside : order.side = .buy <;> simpa [hside] using hkept

end SimulatedBroker

section

variable [Externals] {b : SimulatedBroker} {order : ApprovedOrder}

omit [Externals] in
theorem openedBy_opened {fill : SimulatedBroker.SimulatedFill} {b' : SimulatedBroker}
    (hopen : b'.open_ = (b.opened order fill).open_) {x : OpenPosition}
    (hx : x ∈ PaperLite.openedBy b b') : x = b.positionOf order fill := by
  obtain ⟨hmem, hnew⟩ := List.mem_filter.mp hx
  rw [hopen, SimulatedBroker.opened_eq] at hmem
  rcases List.mem_append.mp hmem with hold | hx
  · exact absurd (List.mem_map_of_mem hold) (of_decide_eq_true hnew)
  · exact List.mem_singleton.mp hx

/-- A result records the fill it was built from. -/
theorem records_fillResult {fill : SimulatedBroker.SimulatedFill} {ticket : Int}
    {result : SimulatedResult} (hnow : b.now = some fill.now)
    (h : SimulatedBroker.fillResult order fill ticket = .ok result) :
    RecordsFill b.now (b.positionOf order fill) result := by
  obtain ⟨requestedPrice, -, h⟩ := bind_ok h
  obtain ⟨executedPrice, hexecuted, h⟩ := bind_ok h
  have hprice : executedPrice.val = fill.price := by
    unfold SimulatedBroker.resultPrice at hexecuted
    split at hexecuted
    · cases hexecuted
      rfl
    · cases hexecuted
  cases h
  exact ⟨congrArg some hprice, rfl, hnow.symm⟩

/-- **What sending an order opens** is the fill of the moment, and the result records it. -/
theorem opened_orderSend {x : OpenPosition}
    (hx : x ∈ PaperLite.openedBy b (b.orderSend order).2) :
    ∃ fill, b.fillOf order = .ok fill ∧ x = b.positionOf order fill
      ∧ ∀ result, (b.orderSend order).1 = .ok result → RecordsFill b.now x result := by
  unfold SimulatedBroker.orderSend at hx ⊢
  cases hlookup : b.handledRequests.lookup order.orderRequestId with
  | some result =>
      simp only [hlookup] at hx
      rw [PaperLite.openedBy_same rfl] at hx
      cases hx
  | none =>
      simp only [hlookup] at hx ⊢
      cases hfill : b.fillOf order with
      | error e =>
          simp only [hfill] at hx
          rw [PaperLite.openedBy_same rfl] at hx
          cases hx
      | ok fill =>
          simp only [hfill] at hx ⊢
          have hnow := (SimulatedBroker.fillOf_terms hfill).choose_spec.choose_spec.2.2.1
          cases hresult : SimulatedBroker.fillResult order fill b.nextTicket with
          | error e =>
              simp only [hresult] at hx ⊢
              refine ⟨fill, rfl, openedBy_opened rfl hx, fun result hok => ?_⟩
              cases hok
          | ok result =>
              simp only [hresult] at hx ⊢
              have hposition : x = b.positionOf order fill := by
                refine openedBy_opened ?_ hx
                rfl
              refine ⟨fill, rfl, hposition, fun result' hok => ?_⟩
              obtain rfl := Except.ok.inj hok
              exact hposition ▸ records_fillResult hnow hresult

end

/-! ## What the portfolio fills -/

section

variable [Externals] {b : DurablePaperBroker} {order : PaperOrder} {authorizedRiskAmount : Decimal}
  {correlationId : Option Uuid} {x : OpenPosition}

/-- An order is sent to the simulation, and its answer given. -/
theorem applyOrder_sends (b : DurablePaperBroker) (order : ApprovedOrder) (orderFingerprint : String)
    (authorizedRiskAmount : Decimal) :
    (b.applyOrder order orderFingerprint authorizedRiskAmount).1 = (b.broker.orderSend order).1
      ∧ (b.applyOrder order orderFingerprint authorizedRiskAmount).2.broker
        = (b.broker.orderSend order).2 := by
  unfold DurablePaperBroker.applyOrder
  cases b.broker.orderSend order with
  | mk outcome broker => cases outcome <;> exact ⟨rfl, rfl⟩

/-- A submission opens what sending its order opens. -/
theorem opened_submit
    (hx : x ∈ PaperLite.openedBy b.broker
      (b.submit order authorizedRiskAmount correlationId).left.broker) :
    ∃ fill, b.broker.fillOf order.val = .ok fill ∧ x = b.broker.positionOf order.val fill
      ∧ ∀ result, (b.submit order authorizedRiskAmount correlationId).outcome = .ok result →
        RecordsFill b.broker.now x result := by
  have happly : ∀ b' : DurablePaperBroker, b'.broker = b.broker →
      let applied := b'.applyOrder order.val (digestOf order.val.dump) authorizedRiskAmount
      x ∈ PaperLite.openedBy b.broker applied.2.broker →
      ∃ fill, b.broker.fillOf order.val = .ok fill ∧ x = b.broker.positionOf order.val fill
        ∧ ∀ result, applied.1 = .ok result → RecordsFill b.broker.now x result := by
    intro b' hbroker
    dsimp only
    rw [(applyOrder_sends b' _ _ _).1, (applyOrder_sends b' _ _ _).2, hbroker]
    exact opened_orderSend
  have hnothing : ∀ b' : DurablePaperBroker, b'.broker = b.broker →
      x ∉ PaperLite.openedBy b.broker b'.broker := fun b' hbroker hmem => by
    rw [PaperLite.openedBy_same (congrArg _ hbroker)] at hmem
    cases hmem
  unfold DurablePaperBroker.submit at hx ⊢
  split at hx
  · exact absurd hx (hnothing b rfl)
  rename_i hrisk
  rw [if_neg hrisk]
  cases hlookup : b.orderFingerprints.lookup order.val.orderRequestId with
  | some existing =>
      rw [hlookup] at hx
      dsimp only at hx
      split at hx
      · exact absurd hx (hnothing b rfl)
      · split at hx <;> exact absurd hx (hnothing b rfl)
  | none =>
      rw [hlookup] at hx
      dsimp only at hx ⊢
      rcases append_result (b := b) .paperOrderAccepted
          (DurablePaperBroker.orderKey order.val.orderRequestId)
          (DurablePaperBroker.orderPayload order.val authorizedRiskAmount correlationId) fun _ b =>
          b.applyOrder order.val (digestOf order.val.dump) authorizedRiskAmount
        with ⟨e, happend⟩ | ⟨-, happend⟩ | ⟨-, happend⟩
      all_goals rw [happend] at hx ⊢
      · exact absurd hx (hnothing b rfl)
      · exact happly b rfl hx
      · exact happly (b.journalled _) rfl hx

/-- **A paper fill honours its order** just when the market was within the order's terms: nothing
refuses an order that cannot be filled on them. -/
theorem paper_fill_honours_iff
    (hx : x ∈ PaperLite.openedBy b.broker
      (b.submit order authorizedRiskAmount correlationId).left.broker) :
    (Honours order.val b.broker.now x ↔ b.broker.QuotesWithin order.val)
      ∧ ∀ result, (b.submit order authorizedRiskAmount correlationId).outcome = .ok result →
        RecordsFill b.broker.now x result := by
  obtain ⟨fill, hfill, rfl, hrecords⟩ := opened_submit hx
  exact ⟨SimulatedBroker.honours_positionOf hfill, hrecords⟩

end

end Crumblr

namespace Crumblr

open PaperLite

namespace Sample

/-- A proposal to buy at 1.10000 while the market asks 1.10002. -/
def limitProposal (id : String) : TradeProposal :=
  { paperProposal id with entryType := .limit }

/-- A whole call up to the moment it submits the order of its proposal. -/
def paperSubmitting (proposal : TradeProposal) : List (Move Unit PaperTask PaperOracle PaperWorld.Event) :=
  [.start () (observingPaper 0)]
    ++ List.replicate 34 (.call () (deciding "c0" (.proposal proposal)))

/-- The order a process is about to submit opens a position that does not honour it. -/
def submitsUnhonoured (s : PaperConfig) : Bool :=
  match s.threads (), s.world.process with
  | some ⟨_, _, .call (.inr (.operate (.submit order riskAmount correlationId))) _⟩, .ok m =>
      (openedBy m.book.broker (m.book.submit order riskAmount correlationId).left.broker).any
        fun x => decide (¬ Honours order.val m.book.broker.now x)
  | _, _ => false

/-- What the check says of a state. -/
theorem of_submitsUnhonoured {s : PaperConfig} (h : submitsUnhonoured s = true) :
    ∃ task past order riskAmount correlationId k m x,
      s.threads ()
          = some ⟨task, past, .call (.inr (.operate (.submit order riskAmount correlationId))) k⟩
        ∧ s.world.process = .ok m
        ∧ x ∈ openedBy m.book.broker (m.book.submit order riskAmount correlationId).left.broker
        ∧ ¬ Honours order.val m.book.broker.now x := by
  unfold submitsUnhonoured at h
  split at h
  · rename_i task past order riskAmount correlationId k m hthread hprocess
    obtain ⟨x, hx, hunhonoured⟩ := List.any_eq_true.mp h
    exact ⟨task, past, order, riskAmount, correlationId, k, m, x, hthread, hprocess, hx,
      of_decide_eq_true hunhonoured⟩
  · cases h

end Sample

open Sample in
/-- An order at the market is filled within its terms. -/
theorem paper_fill_honours_sample :
    let b := (portfolio.created.advance (Sample.quoted 0)).left
    ∃ x ∈ openedBy b.broker (b.submit paperOrder 10 none).left.broker,
      Honours paperOrder.val b.broker.now x ∧ b.broker.QuotesWithin paperOrder.val := by
  intro b
  have hopened : (openedBy b.broker (b.submit paperOrder 10 none).left.broker).any
      (fun x => decide (Honours paperOrder.val b.broker.now x)) = true := by decide +kernel
  obtain ⟨x, hx, hhonours⟩ := List.any_eq_true.mp hopened
  have hhonours : Honours paperOrder.val b.broker.now x := of_decide_eq_true hhonours
  exact ⟨x, hx, hhonours, (paper_fill_honours_iff hx).1.mp hhonours⟩

open Sample in
/-- A process submits an order to buy at 1.10000 or better, and it is filled at 1.10002. -/
theorem limit_order_filled_above_its_price : ∃ o, clearedRun market assignment = .ok o
    ∧ ∃ s : PaperConfig, Machine.Reach (paperWorker o portfolio) Machine.Always
        (Machine.idle paperWorld) s
      ∧ ∃ task past order riskAmount correlationId k m x,
        s.threads ()
            = some ⟨task, past, .call (.inr (.operate (.submit order riskAmount correlationId))) k⟩
          ∧ s.world.process = .ok m
          ∧ x ∈ openedBy m.book.broker (m.book.submit order riskAmount correlationId).left.broker
          ∧ ¬ Honours order.val m.book.broker.now x := by
  have hchecked : (clearedRun market assignment).toOption.any (fun o =>
      ((paperWorker o portfolio).run Machine.unchecked (Machine.idle paperWorld)
        (paperSubmitting (limitProposal "limit"))).any submitsUnhonoured) = true := by
    decide +kernel
  cases h : clearedRun market assignment with
  | error e => rw [h] at hchecked; cases hchecked
  | ok o =>
      rw [h] at hchecked
      obtain ⟨s, hs, hunhonoured⟩ := Machine.Reach.exists_of_run (M := paperWorker o portfolio)
        (G := Machine.Always) _ _ (fun _ _ _ => trivial) hchecked
      exact ⟨o, rfl, s, hs, of_submitsUnhonoured hunhonoured⟩

end Crumblr
