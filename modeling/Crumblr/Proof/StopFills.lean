import Crumblr.Proof.ReplayAccounts

/-!
# Stops and gaps

A stop fills at its price with the slippage against it, wherever the bar was. As long as the bar
came back to that price the fill is pessimistic. A bar that gapped through the stop never traded
there, and the fill is better than every price it had.
-/

namespace Crumblr

/-- The best price a position on a side could have had within a range. -/
def Side.best (side : Side) (range : Decimal × Decimal) : Decimal :=
  if side = .buy then range.2 else range.1

/-- An exit no better than some price within a range; a range that's all beyond the stop does not
give the stop. -/
def Pessimistic (side : Side) (stop exitPrice : Decimal) (range : Decimal × Decimal) : Prop :=
  (∃ traded, range.1 ≤ traded ∧ traded ≤ range.2 ∧ side.NoBetter exitPrice traded)
    ∧ ((if side = .buy then range.2 < stop else stop < range.1) →
        ¬ (exitPrice ≤ stop ∧ stop ≤ exitPrice))

theorem pessimistic_iff {side : Side} {stop exitPrice : Decimal} {range : Decimal × Decimal}
    (hrange : range.1 ≤ range.2) :
    Pessimistic side stop exitPrice range ↔ side.NoBetter exitPrice (side.best range) := by
  unfold Pessimistic Side.NoBetter Side.best
  by_cases hside : side = .buy
  · simp only [if_pos hside]
    constructor
    · rintro ⟨⟨traded, -, htraded, hexit⟩, -⟩
      exact le_trans hexit htraded
    · intro hexit
      refine ⟨⟨range.2, hrange, le_refl _, hexit⟩, fun hgap hstop => ?_⟩
      -- the bar is all below the stop, and so is the exit
      have := lt_of_le_of_lt (le_trans hstop.2 hexit) hgap
      exact lt_irrefl _ this
  · simp only [if_neg hside]
    constructor
    · rintro ⟨⟨traded, htraded, -, hexit⟩, -⟩
      exact le_trans htraded hexit
    · intro hexit
      refine ⟨⟨range.1, le_refl _, hrange, hexit⟩, fun hgap hstop => ?_⟩
      have := lt_of_lt_of_le hgap (le_trans hexit hstop.1)
      exact lt_irrefl _ this

namespace SimulatedBroker

variable {b : SimulatedBroker} {tick : GeneratedTick} {p : OpenPosition}

/-! ## What a bar traded at -/

/-- The prices of a bar, on neither side of the book. -/
def barRange (tick : GeneratedTick) (_ : Side) : Decimal × Decimal :=
  (tick.bar.low.val, tick.bar.high.val)

theorem barRange_le (tick : GeneratedTick) (side : Side) :
    (barRange tick side).1 ≤ (barRange tick side).2 := by
  have hohlc := tick.bar.ohlc.1
  rw [Decimal.lt_iff_value] at hohlc
  exact Decimal.le_iff_value.mpr (not_lt.mp hohlc)

theorem exitRange_le (b : SimulatedBroker) (tick : GeneratedTick) (side : Side) :
    (b.exitRange tick side).1 ≤ (b.exitRange tick side).2 := by
  have hbar := barRange_le tick side
  unfold exitRange
  split
  · exact Decimal.sub_mono hbar (le_refl _)
  · exact Decimal.add_mono hbar (le_refl _)

/-! ## Stops -/

/-- **What a bar stops out leaves at its stop, slipped.** -/
theorem stop_trades (hb : Ticketed b) (hp : p ∈ b.open_) {P : Decimal → Prop} :
    (∀ trade ∈ (b.advance tick).2, trade.ticket = p.ticket → trade.exitReason = "stop_loss" →
        P trade.exitPrice)
      ↔ (b.StopHit tick p → P (b.slippedStop tick p)) := by
  have htrades := (closing_advance b tick).2
  constructor
  · intro h hhit
    have hexit : b.exitOf tick p = some (b.slippedStop tick p, "stop_loss") := by
      rw [exitOf_eq, if_pos hhit]
    have hleaving : b.leaving tick p = some (b.close (b.marked tick p) (b.slippedStop tick p)
        "stop_loss" tick.eventTimeUtc).2 := by
      unfold leaving
      rw [hexit]
      rfl
    have hmem := htrades ▸ List.mem_filterMap.mpr ⟨p, hp, hleaving⟩
    exact h _ hmem (leaving_ticket hleaving) rfl
  · intro h trade htrade hticket hreason
    rw [htrades] at htrade
    obtain ⟨q, hq, hleaving⟩ := List.mem_filterMap.mp htrade
    obtain rfl := List.inj_on_of_nodup_map hb.nodup hq hp ((leaving_ticket hleaving).symm.trans hticket)
    obtain ⟨exit, hexit, rfl⟩ := Option.map_eq_some_iff.mp hleaving
    rw [exitOf_eq] at hexit
    split at hexit
    · rename_i hhit
      obtain rfl := Option.some.inj hexit
      exact h hhit
    · obtain ⟨target, -, rfl⟩ := Option.map_eq_some_iff.mp hexit
      have hother : ("take_profit" : String) = "stop_loss" := hreason
      exact absurd hother (by decide)

/-- Every position a bar stops out has left pessimistically. -/
def StopsPessimistic (b : SimulatedBroker) (tick : GeneratedTick)
    (range : Side → Decimal × Decimal) : Prop :=
  ∀ p ∈ b.open_, ∀ trade ∈ (b.advance tick).2, trade.ticket = p.ticket →
    trade.exitReason = "stop_loss" →
    Pessimistic p.side p.stopLossPrice.val trade.exitPrice (range p.side)

/-- No stop a bar hits is beyond the whole of it by more than the slippage. -/
def StopsWithin (b : SimulatedBroker) (tick : GeneratedTick)
    (range : Side → Decimal × Decimal) : Prop :=
  ∀ p ∈ b.open_, b.StopHit tick p →
    let slip := b.halfSpread tick * slippageSpreadFraction
    if p.side = .buy then p.stopLossPrice.val - slip ≤ (range p.side).2
    else (range p.side).1 ≤ p.stopLossPrice.val + slip

instance (b : SimulatedBroker) (tick : GeneratedTick) (range : Side → Decimal × Decimal) :
    Decidable (b.StopsWithin tick range) := by
  unfold StopsWithin
  infer_instance

theorem slippedStop_noBetter {range : Decimal × Decimal} :
    p.side.NoBetter (b.slippedStop tick p) (p.side.best range)
      ↔ if p.side = .buy then
          p.stopLossPrice.val - b.halfSpread tick * slippageSpreadFraction ≤ range.2
        else range.1 ≤ p.stopLossPrice.val + b.halfSpread tick * slippageSpreadFraction := by
  unfold Side.NoBetter slippedStop Side.best
  by_cases hside : p.side = .buy
  · simp only [if_pos hside]
  · simp only [if_neg hside]

theorem stopsPessimistic_iff (hb : Ticketed b) {range : Side → Decimal × Decimal}
    (hrange : ∀ side, (range side).1 ≤ (range side).2) :
    b.StopsPessimistic tick range ↔ b.StopsWithin tick range := by
  refine forall₂_congr fun p hp => ?_
  rw [stop_trades (P := fun price => Pessimistic p.side p.stopLossPrice.val price (range p.side))
    hb hp, pessimistic_iff (hrange p.side), slippedStop_noBetter]

variable [Externals]

/--
**Stops are filled pessimistically, but for gaps.** Whatever was called before, the positions that
a bar stops out leave no better than at a price the bar traded at exactly when no stop it hits
is beyond the whole of it by more than its slippage; so it is for the bar's prices, and for its
prices on the side of the book a position leaves by.
-/
theorem stops_pessimistic_iff (spec : InstrumentSpec) (startingBalance : Decimal)
    (accountCurrency server : String) (login : Int) (leverage : Nat) (calls : List BrokerCall)
    (tick : GeneratedTick) :
    let b := (create spec startingBalance accountCurrency server login leverage).after calls
    (b.StopsPessimistic tick (barRange tick) ↔ b.StopsWithin tick (barRange tick))
      ∧ (b.StopsPessimistic tick (b.exitRange tick) ↔ b.StopsWithin tick (b.exitRange tick)) := by
  have hticketed := ticketed_after spec startingBalance accountCurrency server login leverage calls
  exact ⟨stopsPessimistic_iff hticketed (barRange_le tick),
    stopsPessimistic_iff hticketed (exitRange_le _ tick)⟩

end SimulatedBroker

end Crumblr

namespace Crumblr

namespace Sample

/-- A broker that has bought. -/
def boughtBroker : SimulatedBroker :=
  startedBroker.after [.advance (quoted 0), .orderSend paperOrder.val]

/-- A bar that is all below the stop of the order. -/
def gapped : GeneratedTick where
  bar := {
    openTimeUtc := noon
    openPrice := price 109840
    high := price 109850
    low := price 109800
    close := price 109810
    tickVolume := 1
    realVolume := none
    spreadPoints := none
    ohlc := by decide }
  bid := ⟨109809, -5⟩
  ask := ⟨109811, -5⟩
  spreadPoints := 2
  eventTimeUtc := noon + minutes 5
  receivedTimeUtc := noon + minutes 5
  dataQuality := .good
  injectedFault := none

end Sample

open Sample SimulatedBroker in
/-- The stop at 1.09950 is filled there less a quarter of a point, and the bar's high is 1.09850. -/
theorem gapped_stop_fills_above_the_bar :
    ¬ boughtBroker.StopsPessimistic gapped (barRange gapped)
      ∧ ¬ boughtBroker.StopsPessimistic gapped (boughtBroker.exitRange gapped) := by
  have hticketed : boughtBroker.Ticketed := ticketed_after spec ⟨10000, 0⟩ "EUR" "Demo" 1 30 _
  rw [stopsPessimistic_iff hticketed (barRange_le gapped),
    stopsPessimistic_iff hticketed (exitRange_le boughtBroker gapped)]
  decide +kernel

end Crumblr
