import Crumblr.TradingAgent.Structure
import Mathlib.Data.List.Sort
import Mathlib.Data.List.SplitBy

/-!
# Liquidity

Stops are presumed to rest beyond turning points. A level is swept by a bar that trades through it
and closes back on the side it came from, and it is spent once any bar has traded through it.
-/

namespace Crumblr

/-- A level with stops presumed to rest beyond it: above old highs on the buy side, below old lows on
the other. -/
structure LiquidityPool where
  price : Decimal
  timeUtc : UtcDatetime
  isBuySide : Bool
  /-- How many swings share the level. -/
  touchCount : Nat
  deriving DecidableEq, Repr

/-- A level taken out and rejected within one bar. -/
structure LiquiditySweep where
  /-- The direction of the trade it argues for. -/
  direction : Side
  sweptLevel : Decimal
  /-- How far beyond the level price reached. -/
  extreme : Decimal
  barIndex : Nat
  timeUtc : UtcDatetime
  closedBackInside : Bool
  deriving DecidableEq, Repr

def LiquiditySweep.penetration (sweep : LiquiditySweep) : Decimal :=
  (sweep.extreme - sweep.sweptLevel).abs

/-! ## Pools -/

/-- The level of a cluster is its extreme, and its time the latest of its swings. -/
def poolFrom (isBuySide : Bool) : List SwingPoint → Option LiquidityPool
  | [] => none
  | swing :: swings =>
      let prices := swings.map (·.price)
      some {
        price := if isBuySide then prices.foldl .max swing.price else prices.foldl .min swing.price
        timeUtc := (swings.map (·.timeUtc)).foldl max swing.timeUtc
        isBuySide
        touchCount := swings.length + 1 }

/-- A swing is in the cluster of the one before it, if it's within the tolerance of that. -/
def levelsEqual (equalityTolerance : Decimal) (swing next : SwingPoint) : Bool :=
  decide ((next.price - swing.price).abs ≤ equalityTolerance)

/-- The swings by price, in clusters. -/
def buckets (swings : List SwingPoint) (equalityTolerance : Decimal) : List (List SwingPoint) :=
  (swings.insertionSort fun a b => a.price ≤ b.price).splitBy (levelsEqual equalityTolerance)

/-- Group swings into pools, oldest first. -/
def findLiquidityPools (swings : List SwingPoint) (isBuySide : Bool) (equalityTolerance : Decimal) :
    List LiquidityPool :=
  ((buckets swings equalityTolerance).filterMap (poolFrom isBuySide)).insertionSort
    fun a b => a.timeUtc ≤ b.timeUtc

/-- The tolerance, where none is given. -/
def equalityTolerance : Decimal := ⟨2, -4⟩

/-! ## Sweeps -/

/-- Whether a bar traded through a pool's level. -/
def LiquidityPool.tradedThroughBy (pool : LiquidityPool) (bar : Bar) : Bool :=
  if pool.isBuySide then decide (pool.price < bar.high.val) else decide (bar.low.val < pool.price)

/-- The first bar after the pool formed that traded through it; the number of bars if none did. -/
def firstTouchIndex (bars : List Bar) (pool : LiquidityPool) : Nat :=
  bars.findIdx fun bar => decide (pool.timeUtc < bar.openTimeUtc) && pool.tradedThroughBy bar

/-- The sweep of a pool by a bar, if it is one. -/
def sweepBy (minPenetration : Decimal) (requireCloseBackInside : Bool) (bars : List Bar) (index : Nat)
    (bar : Bar) (pool : LiquidityPool) : Option LiquiditySweep :=
  if bar.openTimeUtc ≤ pool.timeUtc then none
  else if firstTouchIndex bars pool < index then none
  else if !pool.tradedThroughBy bar then none
  else
    let candidate : LiquiditySweep :=
      if pool.isBuySide then
        { direction := .sell, sweptLevel := pool.price, extreme := bar.high.val, barIndex := index,
          timeUtc := bar.openTimeUtc, closedBackInside := decide (bar.close.val < pool.price) }
      else
        { direction := .buy, sweptLevel := pool.price, extreme := bar.low.val, barIndex := index,
          timeUtc := bar.openTimeUtc, closedBackInside := decide (pool.price < bar.close.val) }
    if requireCloseBackInside && !candidate.closedBackInside then none
    else if candidate.penetration < minPenetration then none
    else some candidate

/-- The sweeps there are in the last bars, in the order they are looked at. -/
def candidateSweeps (bars : List Bar) (pools : List LiquidityPool) (lookback : Int)
    (minPenetration : Decimal) (requireCloseBackInside : Bool) : List LiquiditySweep :=
  let windowStart := ((bars.length : Int) - lookback).toNat
  (List.range' windowStart (bars.length - windowStart)).flatMap fun index =>
    (bars[index]?.map fun bar =>
      pools.filterMap (sweepBy minPenetration requireCloseBackInside bars index bar)).getD []

/-- The candidate takes the place of one it reached deeper than. -/
def deeper (best : Option LiquiditySweep) (candidate : LiquiditySweep) : Option LiquiditySweep :=
  match best with
  | none => some candidate
  | some held => if held.penetration < candidate.penetration then some candidate else some held

/-- The sweep that reached deepest; the first of these. -/
def detectSweep (bars : List Bar) (pools : List LiquidityPool) (lookback : Int)
    (minPenetration : Decimal) (requireCloseBackInside : Bool) : Option LiquiditySweep :=
  (candidateSweeps bars pools lookback minPenetration requireCloseBackInside).foldl deeper none

/-! ## Targets -/

/-- The closest level beyond a price. -/
def nearestTarget (pools : List LiquidityPool) (fromPrice : Decimal) (direction : Side) :
    Option Decimal :=
  if direction = .buy then
    match (pools.map (·.price)).filter fun price => fromPrice < price with
    | [] => none
    | price :: prices => some (prices.foldl .min price)
  else
    match (pools.map (·.price)).filter fun price => price < fromPrice with
    | [] => none
    | price :: prices => some (prices.foldl .max price)

end Crumblr
