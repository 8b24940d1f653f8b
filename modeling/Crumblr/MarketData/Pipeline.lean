import Crumblr.Domain.JsonText
import Crumblr.Lib.Grouping
import Crumblr.TradingAgent.Base

/-!
# Ticks into bars

A stream of ticks is screened, put into intervals of the clock, and each interval that has a
tick becomes a bar. Nothing is filled in and nothing late is thrown away; what the stream did
that it should not have is kept as an observation.
-/

namespace Crumblr

/-- Which side of the book a bar's prices are taken from. -/
inductive PriceBasis where
  | bid
  | ask
  | mid
  deriving DecidableEq, Repr

def PriceBasis.value : PriceBasis → String
  | .bid => "bid"
  | .ask => "ask"
  | .mid => "mid"

/-- Where a bar comes from. -/
inductive BarOrigin where
  | broker
  | aggregatedFromTicks
  | synthetic
  deriving DecidableEq, Repr

/-- A tick with the volume it was delivered with. -/
structure VolumeTick extends MarketTick where
  volume : Option Nat

/-- A stored bar together with the account of where it came from. -/
structure MarketBar where
  barId : Uuid
  source : String
  canonicalSymbol : String
  brokerSymbol : String
  timeframe : String
  bar : Bar
  origin : BarOrigin
  pipelineVersion : Option String
  tickCount : Option Nat
  receivedTimeUtc : UtcDatetime
  dataQuality : DataQuality
  anomalies : List StreamAnomaly

/-- Something the stream did that is worth keeping. -/
structure StreamObservation where
  anomaly : StreamAnomaly
  atUtc : UtcDatetime
  detail : String
  deriving DecidableEq

structure BarBuildResult where
  bars : List MarketBar
  observations : List StreamObservation
  ticksSeen : Nat
  ticksUsed : Nat

namespace Pipeline

/-- The transformation identity stored on every derived bar. -/
def pipelineVersion (basis : PriceBasis) : String := "bars-v1/" ++ basis.value

def timeframes : List (String × Timedelta) :=
  [("M1", minutes 1), ("M5", minutes 5), ("M15", minutes 15), ("M30", minutes 30),
    ("H1", hours 1), ("H4", hours 4), ("D1", days 1)]

def intervalFor (timeframe : String) : Except PyError Timedelta :=
  match timeframes.find? (fun known => known.1 = timeframe) with
  | some known => .ok known.2
  | none => .error ⟨.other,
      s!"unknown timeframe '{timeframe}'; known: D1, H1, H4, M1, M15, M30, M5"⟩

/-- The opening instant of the interval a moment falls in, counted from the UNIX epoch. -/
def bucketStart (interval : Timedelta) (moment : UtcDatetime) : UtcDatetime :=
  moment / interval * interval

/-! ## Screening -/

/-- What has been kept of a stream, and what has been noticed. -/
structure Screening where
  kept : List VolumeTick
  observations : List StreamObservation
  seenIds : List String
  /-- The latest time so far. -/
  previous : Option UtcDatetime

/-- A tick that arrived before its time had passed. -/
def arrivedLate (previous : Option UtcDatetime) (tick : VolumeTick) : Option UtcDatetime :=
  previous.filter fun p => tick.eventTimeUtc < p

def screenTick (s : Screening) (tick : VolumeTick) : Screening :=
  let identity := tick.tickId.text
  if identity ∈ s.seenIds then
    { s with observations := s.observations ++ [⟨.duplicate, tick.eventTimeUtc,
        s!"tick {identity} repeated at {isoTime tick.eventTimeUtc}"⟩] }
  else if tick.ask.val < tick.bid.val then
    { s with
      seenIds := identity :: s.seenIds
      observations := s.observations ++ [⟨.crossedQuote, tick.eventTimeUtc,
        s!"ask {tick.ask.val.text} below bid {tick.bid.val.text}; refused as a price source"⟩] }
  else
    match arrivedLate s.previous tick with
    | some previous =>
        { s with
          seenIds := identity :: s.seenIds
          observations := s.observations ++ [⟨.outOfOrder, tick.eventTimeUtc,
            s!"tick at {isoTime tick.eventTimeUtc} arrived after {isoTime previous}; "
              ++ "placed in its own interval"⟩]
          kept := s.kept ++ [tick] }
    | none =>
        { s with
          seenIds := identity :: s.seenIds
          previous := some tick.eventTimeUtc
          kept := s.kept ++ [tick] }

def screen (ticks : List VolumeTick) : Screening := ticks.foldl screenTick ⟨[], [], [], none⟩

/-! ## One bar -/

/-- How many whole intervals produced nothing between two bars. -/
def missingIntervals (previousOpen openTime : UtcDatetime) (interval : Timedelta) : Int :=
  max 0 ((openTime - previousOpen) / interval - 1)

def price (basis : PriceBasis) (tick : VolumeTick) : Decimal :=
  match basis with
  | .bid => tick.bid.val
  | .ask => tick.ask.val
  | .mid => (tick.bid.val + tick.ask.val) / 2

/-- The order of a bar's ticks: by time, and by id where times are the same. -/
def Before (tick later : VolumeTick) : Prop :=
  tick.eventTimeUtc < later.eventTimeUtc
    ∨ tick.eventTimeUtc = later.eventTimeUtc ∧ tick.tickId.text ≤ later.tickId.text

instance : DecidableRel Before := fun _ _ => inferInstanceAs (Decidable (_ ∨ _))

/-- Some tick arrived next after one of a later time. -/
def outOfOrder (ticks : List VolumeTick) : Bool :=
  (ticks.zip ticks.tail).any fun pair => pair.2.eventTimeUtc < pair.1.eventTimeUtc

/-- A bar of the given prices, if they are prices and make a bar. -/
def createBar (openTimeUtc : UtcDatetime) (openPrice high low close : Decimal) (tickVolume : Nat)
    (realVolume : Option Nat) (spreadPoints : Int) : Except PyError Bar :=
  if positive : 0 < openPrice ∧ 0 < high ∧ 0 < low ∧ 0 < close then
    if spreadPoints < 0 then
      .error ⟨.validation, "spread_points: Input should be greater than or equal to 0"⟩
    else if belowLow : high < low then
      .error ⟨.validation, s!"high {high.text} is below low {low.text}"⟩
    else if belowRange : high < openPrice.max close then
      .error ⟨.validation, "high is below the open/close range"⟩
    else if aboveRange : openPrice.min close < low then
      .error ⟨.validation, "low is above the open/close range"⟩
    else .ok {
      openTimeUtc
      openPrice := ⟨openPrice, positive.1⟩
      high := ⟨high, positive.2.1⟩
      low := ⟨low, positive.2.2.1⟩
      close := ⟨close, positive.2.2.2⟩
      tickVolume
      realVolume
      spreadPoints := some spreadPoints.toNat
      ohlc := ⟨belowLow, belowRange, aboveRange⟩ }
  else .error ⟨.validation, "Input should be greater than 0"⟩

/-- Identity for a bar: one per source, symbol, timeframe and interval. -/
def barIdentity [Externals] (source canonicalSymbol timeframe : String)
    (openTimeUtc : UtcDatetime) : Uuid :=
  Externals.uuid5 (String.ofList (((Json.obj [
    ("kind", .str "crumblr:bar"),
    ("source", .str source),
    ("symbol", .str canonicalSymbol),
    ("timeframe", .str timeframe),
    ("open_time", .time openTimeUtc)]).sortKeys).dumps false))

/-- What all the bars of a run have in common. -/
structure Target where
  timeframe : String
  spec : InstrumentSpec
  source : String
  basis : PriceBasis

/-- The spread of a bar's last tick, in points. -/
def closingSpread (target : Target) (last : VolumeTick) : Except PyError Int :=
  let spread := last.ask.val - last.bid.val
  if 0 < spread then priceToPoints spread target.spec.point.val else .ok 0

/-- One bar from the ticks that fell inside its interval, in the order they arrived. -/
def buildBar [Externals] (target : Target) (ticks : List VolumeTick) (openTime : UtcDatetime)
    (gapped : Bool) : Except PyError MarketBar := do
  match ticks.insertionSort Before with
  | [] => .error ⟨.other, "list index out of range"⟩
  | first :: rest =>
      let ordered := first :: rest
      let last := ordered.getLastD first
      let firstPrice := price target.basis first
      let prices := rest.map (price target.basis)
      let late := outOfOrder ticks
      let volume := (ordered.filterMap (·.volume)).sum
      let spreadPoints ← closingSpread target last
      let bar ← createBar openTime firstPrice (prices.foldl Decimal.max firstPrice)
        (prices.foldl Decimal.min firstPrice) (price target.basis last) ordered.length
        (if volume = 0 then none else some volume) spreadPoints
      .ok {
        barId := barIdentity target.source target.spec.canonicalSymbol target.timeframe openTime
        source := target.source
        canonicalSymbol := target.spec.canonicalSymbol
        brokerSymbol := target.spec.brokerSymbol
        timeframe := target.timeframe
        bar
        origin := .aggregatedFromTicks
        pipelineVersion := some (pipelineVersion target.basis)
        tickCount := some ordered.length
        receivedTimeUtc := (rest.map (·.receivedTimeUtc)).foldl max first.receivedTimeUtc
        dataQuality :=
          if ordered.any (fun tick => tick.dataQuality = .suspect) then .suspect
          else if late then .outOfOrder
          else if gapped then .gapped
          else .good
        anomalies := (if gapped then [.gap] else []) ++ (if late then [.outOfOrder] else []) }

/-! ## The bars of a stream -/

/-- How many intervals are missing before a bar; none before the first. -/
def missingBefore (interval : Timedelta) (previousOpen : Option UtcDatetime)
    (openTime : UtcDatetime) : Int :=
  match previousOpen with
  | none => 0
  | some previousOpen => missingIntervals previousOpen openTime interval

/-- So many intervals had no ticks. -/
def gap (missing : Int) (timeframe : String) (previousOpen openTime : UtcDatetime) :
    StreamObservation :=
  ⟨.gap, openTime, s!"{missing} {timeframe} interval(s) produced no ticks between "
    ++ s!"{isoTime previousOpen} and {isoTime openTime}"⟩

/-- What is observed of the intervals missing before a bar. -/
def gapBefore (interval : Timedelta) (timeframe : String) (previousOpen : Option UtcDatetime)
    (openTime : UtcDatetime) : List StreamObservation :=
  match previousOpen with
  | none => []
  | some previousOpen =>
      let missing := missingIntervals previousOpen openTime interval
      if missing = 0 then [] else [gap missing timeframe previousOpen openTime]

/-- The loop over the opening times, in order. -/
def buildBars [Externals] (target : Target) (interval : Timedelta)
    (buckets : List (UtcDatetime × List VolumeTick)) :
    Option UtcDatetime → List UtcDatetime → List MarketBar → List StreamObservation →
      Except PyError (List MarketBar × List StreamObservation)
  | _, [], bars, observations => .ok (bars, observations)
  | previousOpen, openTime :: rest, bars, observations => do
      let observations :=
        observations ++ gapBefore interval target.timeframe previousOpen openTime
      let bar ← buildBar target (Grouping.members buckets openTime) openTime
        (decide (missingBefore interval previousOpen openTime ≠ 0))
      buildBars target interval buckets (some openTime) rest (bars ++ [bar]) observations

/-- Aggregate a tick stream into normalised bars. -/
def barsFromTicks [Externals] (target : Target) (ticks : List VolumeTick) :
    Except PyError BarBuildResult := do
  let interval ← intervalFor target.timeframe
  let screened := screen ticks
  if screened.kept.isEmpty then .ok ⟨[], screened.observations, ticks.length, 0⟩
  else
    let buckets :=
      Grouping.groups (fun tick => bucketStart interval tick.eventTimeUtc) screened.kept
    let built ← buildBars target interval buckets none
      ((buckets.map Prod.fst).insertionSort (· ≤ ·)) [] screened.observations
    .ok ⟨built.1, built.2, ticks.length, screened.kept.length⟩

end Pipeline

end Crumblr
