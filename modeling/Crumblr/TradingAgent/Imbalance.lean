import Crumblr.TradingAgent.Base

/-!
# Imbalances

A fair value gap is a range that three bars left between them, displacement a claim on how large the
middle one was, and an order block the last opposing candle before the move.
-/

namespace Crumblr

/-- A three-bar imbalance that is still open. -/
structure FairValueGap where
  direction : Side
  lower : Decimal
  upper : Decimal
  createdIndex : Nat
  createdAtUtc : UtcDatetime
  /-- The middle bar's range over the average one. -/
  displacementRatio : Decimal
  deriving DecidableEq, Repr

namespace FairValueGap

variable (gap : FairValueGap)

def contains (price : Decimal) : Bool := decide (gap.lower ≤ price ∧ price ≤ gap.upper)

/-- Later bars have traded fully through the gap. -/
def isMitigatedBy (bars : List Bar) : Bool :=
  bars.any fun bar =>
    (gap.direction == .buy && decide (bar.low.val ≤ gap.lower))
      || (gap.direction == .sell && decide (gap.upper ≤ bar.high.val))

end FairValueGap

/-- The last opposing candle before a displacement. -/
structure OrderBlock where
  direction : Side
  low : Decimal
  high : Decimal
  index : Nat
  timeUtc : UtcDatetime
  deriving DecidableEq, Repr

/-! ## Displacement -/

/-- How far a bar ranged, the close before it included. -/
def trueRange (previous current : Bar) : Decimal :=
  ((current.high.val - current.low.val).max (current.high.val - previous.close.val).abs).max
    (current.low.val - previous.close.val).abs

/-- The mean true range of the last bars, or zero with too few of them. -/
def averageTrueRange (bars : List Bar) (period : Nat) : Decimal :=
  if bars.length < period + 1 then 0
  else
    let recent := bars.drop (bars.length - (period + 1))
    let ranges := List.zipWith trueRange recent recent.tail
    ranges.foldl (· + ·) 0 / ⟨ranges.length, 0⟩

/-- The number of bars the average is over, where none is given. -/
def atrPeriod : Nat := 14

/-! ## Gaps -/

/-- The gap the bar at an index completes, if the middle bar was large enough. -/
def gapAt (bars : List Bar) (atr minDisplacementRatio : Decimal) (i : Nat) : Option FairValueGap :=
  bars[i - 2]?.bind fun first => bars[i - 1]?.bind fun middle => bars[i]?.bind fun third =>
    let ratio := (middle.high.val - middle.low.val) / atr
    if ratio < minDisplacementRatio then none
    else if first.high.val < third.low.val then
      some ⟨.buy, first.high.val, third.low.val, i, third.openTimeUtc, ratio⟩
    else if third.high.val < first.low.val then
      some ⟨.sell, third.high.val, first.low.val, i, third.openTimeUtc, ratio⟩
    else none

/-- The gaps in the last bars, newest last, the mitigated ones only if they are wanted. -/
def findFairValueGaps (bars : List Bar) (minDisplacementRatio : Decimal) (atrPeriod : Nat)
    (maxAgeBars : Int) (includeMitigated : Bool) : List FairValueGap :=
  let atr := averageTrueRange bars atrPeriod
  if atr ≤ 0 ∨ bars.length < 3 then []
  else
    let start := max 2 ((bars.length : Int) - maxAgeBars).toNat
    ((List.range' start (bars.length - start)).filterMap
      (gapAt bars atr minDisplacementRatio)).filter fun gap =>
        includeMitigated || !gap.isMitigatedBy (bars.drop (gap.createdIndex + 1))

/-! ## Order blocks -/

/-- Whether a bar closed against a direction. -/
def Bar.opposes (bar : Bar) (direction : Side) : Bool :=
  (direction == .buy && decide (bar.close.val < bar.openPrice.val))
    || (direction == .sell && decide (bar.openPrice.val < bar.close.val))

/-- The last opposing candle before a displacement, not too far before it. -/
def findOrderBlock (bars : List Bar) (displacementIndex : Nat) (direction : Side)
    (maxLookback : Nat) : Option OrderBlock :=
  if displacementIndex < bars.length then
    let earliest := displacementIndex - maxLookback
    (List.range' earliest (displacementIndex - earliest)).reverse.findSome? fun i =>
      bars[i]?.bind fun bar =>
        if bar.opposes direction then some ⟨direction, bar.low.val, bar.high.val, i, bar.openTimeUtc⟩
        else none
  else none

/-- How far before a displacement an order block may be, where nothing is given. -/
def orderBlockLookback : Nat := 10

end Crumblr
