import Crumblr.TradingAgent.Base

/-!
# Market structure

The turning points of a series of closed bars, and what later closes make of them. A turning point
is known once `strength` bars have followed it, and a bar is read against the ones known before it.
-/

namespace Crumblr

/-- How the recent swings read. -/
inductive StructureState where
  | bullish
  | bearish
  | unclear
  deriving DecidableEq, Repr

/-- The value the enumeration carries. -/
def StructureState.value : StructureState → String
  | .bullish => "BULLISH"
  | .bearish => "BEARISH"
  | .unclear => "UNCLEAR"

/-- Where a price is in a range. -/
inductive RangePosition where
  | premium
  | discount
  | equilibrium
  deriving DecidableEq, Repr

/-- The value the enumeration carries. -/
def RangePosition.value : RangePosition → String
  | .premium => "PREMIUM"
  | .discount => "DISCOUNT"
  | .equilibrium => "EQUILIBRIUM"

/-- A turning point, and where in the series it is. -/
structure SwingPoint where
  index : Nat
  timeUtc : UtcDatetime
  price : Decimal
  isHigh : Bool
  deriving DecidableEq, Repr

/-! ## Ranges -/

/-- The span that premium and discount are measured against. -/
structure DealingRange where
  low : Decimal
  high : Decimal
  lowTimeUtc : UtcDatetime
  highTimeUtc : UtcDatetime

namespace DealingRange

variable (range : DealingRange)

def equilibrium : Decimal := (range.low + range.high) / 2

def size : Decimal := range.high - range.low

/-- Classify a price; `tolerance` is the fraction of the size that counts as the middle. -/
def positionOf (price tolerance : Decimal) : RangePosition :=
  if range.size ≤ 0 then .equilibrium
  else
    let band := range.size * tolerance
    if range.equilibrium + band < price then .premium
    else if price < range.equilibrium - band then .discount
    else .equilibrium

/-- How far a price is from the high back toward the low. -/
def retracementOf (price : Decimal) : Decimal :=
  if range.size ≤ 0 then 0 else (range.high - price) / range.size

end DealingRange

/-! ## Swings -/

/-- The bar at an index as a turning point, if its extreme is beyond those of the `strength` bars on
each side. -/
def swingAt (bars : List Bar) (strength : Nat) (isHigh : Bool) (i : Nat) : Option SwingPoint :=
  bars[i]?.bind fun centre =>
    let window := (bars.drop (i - strength)).take (2 * strength + 1)
    let others := window.eraseIdx strength
    if isHigh then
      if others.all fun bar => decide (bar.high.val < centre.high.val) then
        some ⟨i, centre.openTimeUtc, centre.high.val, true⟩
      else none
    else
      if others.all fun bar => decide (centre.low.val < bar.low.val) then
        some ⟨i, centre.openTimeUtc, centre.low.val, false⟩
      else none

/-- The swing highs and the swing lows, each oldest first. -/
def findSwings (bars : List Bar) (strength : Int) :
    Except PyError (List SwingPoint × List SwingPoint) :=
  if strength < 1 then .error ⟨.value, s!"swing strength must be at least 1, got {strength}"⟩
  else
    let strength := strength.toNat
    if bars.length < 2 * strength + 1 then .ok ([], [])
    else
      let indices := List.range' strength (bars.length - 2 * strength)
      .ok (indices.filterMap (swingAt bars strength true),
        indices.filterMap (swingAt bars strength false))

/-- Bullish needs a higher high and a higher low; bearish the mirror. -/
def classifyState (highs lows : List SwingPoint) : StructureState :=
  match highs.reverse, lows.reverse with
  | high :: priorHigh :: _, low :: priorLow :: _ =>
      if priorHigh.price < high.price ∧ priorLow.price < low.price then .bullish
      else if high.price < priorHigh.price ∧ low.price < priorLow.price then .bearish
      else .unclear
  | _, _ => .unclear

/-! ## Breaks -/

/-- The swings that were known before the bar at an index. -/
def confirmedBefore (swings : List SwingPoint) (strength index : Nat) : List SwingPoint :=
  swings.filter fun swing => swing.index + strength < index

/-- Whether the bar at an index closed beyond the swing that was current then. -/
def closesBeyond (bars : List Bar) (swings : List SwingPoint) (strength : Nat) (upward : Bool)
    (index : Nat) : Bool :=
  match (confirmedBefore swings strength index).getLast?, bars[index]? with
  | some swing, some bar =>
      if upward then decide (swing.price < bar.close.val) else decide (bar.close.val < swing.price)
  | _, _ => false

/-- The most recent bar that closed beyond the swing that was current then. -/
def findBreak (bars : List Bar) (swings : List SwingPoint) (lookback : Int) (strength : Nat)
    (upward : Bool) : Option Nat :=
  if lookback ≤ 0 ∨ swings = [] then none
  else
    let windowStart := ((bars.length : Int) - lookback).toNat
    (List.range' windowStart (bars.length - windowStart)).reverse.find?
      (closesBeyond bars swings strength upward)

/-- Structure as it read just before the bar at an index. -/
def stateBefore (highs lows : List SwingPoint) (index : Option Nat) (strength : Nat) :
    StructureState :=
  match index with
  | none => .unclear
  | some index =>
      classifyState (confirmedBefore highs strength index) (confirmedBefore lows strength index)

/-! ## The whole picture -/

structure StructureRead where
  state : StructureState
  swingHighs : List SwingPoint
  swingLows : List SwingPoint
  dealingRange : Option DealingRange
  lastSwingHigh : Option SwingPoint
  lastSwingLow : Option SwingPoint
  brokeStructureUp : Bool
  brokeStructureDown : Bool
  shiftedUp : Bool
  shiftedDown : Bool

/-- A close beyond the last swing is a break where structure ran that way before, else a shift. -/
def readStructure (bars : List Bar) (strength shiftLookback : Int) :
    Except PyError StructureRead := do
  let (highs, lows) ← findSwings bars strength
  let strength := strength.toNat
  let breakUp := findBreak bars highs shiftLookback strength true
  let breakDown := findBreak bars lows shiftLookback strength false
  let upPrior := stateBefore highs lows breakUp strength
  let downPrior := stateBefore highs lows breakDown strength
  let dealingRange := highs.getLast?.bind fun high => lows.getLast?.bind fun low =>
    if low.price < high.price then some ⟨low.price, high.price, low.timeUtc, high.timeUtc⟩ else none
  pure {
    state := classifyState highs lows
    swingHighs := highs
    swingLows := lows
    dealingRange
    lastSwingHigh := highs.getLast?
    lastSwingLow := lows.getLast?
    brokeStructureUp := breakUp.isSome && upPrior == .bullish
    brokeStructureDown := breakDown.isSome && downPrior == .bearish
    shiftedUp := breakUp.isSome && upPrior != .bullish
    shiftedDown := breakDown.isSome && downPrior != .bearish }

end Crumblr
