import Crumblr.Lib.Binary64
import Crumblr.Lib.Raising
import Crumblr.Persistence.PaperLite
import Crumblr.TradingAgent.Ict

/-!
# A synthetic market

A seeded random walk, bar by bar, with stretches of calm and of trend, with sessions, and with
faults where they are asked for. A quote at a bar's close goes with each bar. The same seed makes
the same market, so whatever is drawn is drawn in one order.
-/

namespace Crumblr

/-! ## Configuration -/

/-- Faults, each into one bar in so many; none where that is zero. -/
structure FaultInjection where
  spreadSpikeEvery : Int := 0
  staleTickEvery : Int := 0
  suspectQualityEvery : Int := 0
  spreadSpikeMultiplier : Int := 12
  staleTickAge : Timedelta := seconds 45

structure SyntheticMarketConfig where
  seed : Int := 20260817
  barCount : Int := 600
  startPrice : Decimal := ⟨108500, -5⟩
  barInterval : Timedelta := minutes 5
  baseSpreadPoints : Int := 8
  calmVolatilityPoints : Int := 12
  activeVolatilityPoints : Int := 45
  regimeLengthBars : Int := 90
  trendStrengthPoints : Int := 4
  sessionProfile : Bool := true
  asianMultiplier : Decimal := ⟨5, -1⟩
  londonMultiplier : Decimal := ⟨17, -1⟩
  newYorkMultiplier : Decimal := ⟨15, -1⟩
  skipWeekend : Bool := true
  faults : FaultInjection := {}

/-! ## Drawing -/

/-- Python's `random.Random`, as far as the generator draws on it. -/
structure RandomSource (ρ : Type) where
  seeded : Int → ρ
  /-- A double about a mean, with a deviation. -/
  gauss : Int → ℚ → ρ → Binary64.Value × ρ
  randint : Int → Int → ρ → Int × ρ
  /-- Both ends are included. -/
  randint_mem : ∀ a b r, a ≤ b → a ≤ (randint a b r).1 ∧ (randint a b r).1 ≤ b

namespace RandomSource

variable {ρ : Type} (source : RandomSource ρ)

def drawGauss (mean : Int) (deviation : ℚ) : Raising ρ PyError Binary64.Value := fun r =>
  (.ok (source.gauss mean deviation r).1, (source.gauss mean deviation r).2)

def drawInt (a b : Int) : Raising ρ PyError Int := fun r =>
  (.ok (source.randint a b r).1, (source.randint a b r).2)

end RandomSource

/-- `round(x)`: a half goes to the even integer. -/
def roundFloat : Binary64.Value → Except PyError Int
  | .finite negative q =>
      .ok (if negative then -SigDigits.halfEven q else SigDigits.halfEven q)
  | .infinite _ => .error ⟨.overflow, "cannot convert float infinity to integer"⟩
  | .nan => .error ⟨.value, "cannot convert float NaN to integer"⟩

/-- `int(abs(x))` -/
def truncMagnitude : Binary64.Value → Except PyError Int
  | .finite _ q => .ok ⌊|q|⌋
  | .infinite _ => .error ⟨.overflow, "cannot convert float infinity to integer"⟩
  | .nan => .error ⟨.value, "cannot convert float NaN to integer"⟩

/-- The double nearest to a quotient that is not negative. -/
def trueDivide (n d : Nat) : Except PyError ℚ :=
  match Binary64.nearest? (n / d) with
  | some q => .ok q
  | none => .error ⟨.overflow, "integer division result too large for a float"⟩

/-- `moment.astimezone(NEW_YORK)`, whose wall time is of a year that there is. -/
def astimezoneNewYork [Externals] (moment : UtcDatetime) : Except PyError Int :=
  PyDatetime.shift moment (Externals.newYorkOffset moment)

/-! ## The shape of the market -/

namespace SyntheticMarketConfig

variable (config : SyntheticMarketConfig)

/-- The volatility and the drift of a bar. Four stretches take turns: calm, calm with a trend,
volatile, volatile with a trend; every other trend falls. -/
def regimeAt (index : Nat) : Except PyError (Int × Int) :=
  if config.regimeLengthBars = 0 then .error ⟨.other, "integer division or modulo by zero"⟩
  else
    let stretch := Int.fdiv index config.regimeLengthBars
    let trending : Bool := stretch % 4 % 2 = 1
    let volatility :=
      if 2 ≤ stretch % 4 then config.activeVolatilityPoints else config.calmVolatilityPoints
    let drift := if trending then config.trendStrengthPoints else 0
    .ok (volatility, if trending && decide (4 ≤ stretch % 8) then -drift else drift)

/-- How volatility scales with the time of day in New York. -/
def sessionMultiplier [Externals] (moment : UtcDatetime) : Except PyError Decimal :=
  if !config.sessionProfile then .ok 1
  else do
    let wall ← astimezoneNewYork moment
    let hour := hourOf wall
    pure (if 2 ≤ hour ∧ hour < 5 then config.londonMultiplier
      else if 7 ≤ hour ∧ hour < 11 then config.newYorkMultiplier
      else if 11 ≤ hour ∧ hour < 16 then ⟨8, -1⟩
      else config.asianMultiplier)

/-- `max(1, int(Decimal(volatility_points) * session_scale))` -/
def scaledVolatility (volatilityPoints : Int) (sessionScale : Decimal) : Nat :=
  let scaled : Decimal := ⟨volatilityPoints, 0⟩ * sessionScale
  max 1 (scaled.toIntegralValue .down).toInt.toNat

end SyntheticMarketConfig

inductive Fault where
  | spreadSpike
  | staleTick
  | suspectQuality
  deriving DecidableEq, Repr

def Fault.value : Fault → String
  | .spreadSpike => "spread_spike"
  | .staleTick => "stale_tick"
  | .suspectQuality => "suspect_quality"

namespace FaultInjection

variable (faults : FaultInjection)

/-- `every and index % every == 0 and index` -/
def strikes (every : Int) (index : Nat) : Bool :=
  decide (every ≠ 0) && decide ((index : Int) % every = 0) && decide (index ≠ 0)

/-- A bar has one fault at most. -/
def faultAt (index : Nat) : Option Fault :=
  if strikes faults.spreadSpikeEvery index then some .spreadSpike
  else if strikes faults.staleTickEvery index then some .staleTick
  else if strikes faults.suspectQualityEvery index then some .suspectQuality
  else none

end FaultInjection

/-! ## Prices -/

structure BarPrices where
  openPrice : Decimal
  high : Decimal
  low : Decimal
  close : Decimal

namespace BarPrices

/-- The prices that the moves lead through. None falls below a thousand points. -/
def path (point : Decimal) : Decimal → List Decimal → List Decimal
  | _, [] => []
  | price, move :: moves =>
      let next := (price + move).max (point * 1000)
      next :: path point next moves

/-- The prices of a bar that opens at a price and moves on from there. -/
def create (spec : InstrumentSpec) (price : Decimal) (moves : List Decimal) :
    Except PyError BarPrices := do
  let path := path spec.point price moves
  let openPrice ← Ict.quantizePrice price spec.digits .halfEven
  let close ← Ict.quantizePrice (path.getLastD price) spec.digits .halfEven
  let high ← Ict.quantizePrice (path.foldl .max price) spec.digits .halfEven
  let low ← Ict.quantizePrice (path.foldl .min price) spec.digits .halfEven
  pure {
    openPrice
    high := (high.max openPrice).max close
    low := (low.min openPrice).min close
    close }

end BarPrices

/-- `Bar(...)`, of values that are yet to be checked. -/
def Bar.construct (openTimeUtc : UtcDatetime) (prices : BarPrices) (tickVolume spreadPoints : Int) :
    Except PyError Bar :=
  if h : (0 < prices.openPrice ∧ 0 < prices.high ∧ 0 < prices.low ∧ 0 < prices.close)
      ∧ 0 ≤ tickVolume ∧ 0 ≤ spreadPoints then
    Bar.create openTimeUtc ⟨prices.openPrice, h.1.1⟩ ⟨prices.high, h.1.2.1⟩ ⟨prices.low, h.1.2.2.1⟩
      ⟨prices.close, h.1.2.2.2⟩ tickVolume.toNat none (some spreadPoints.toNat)
  else .error ⟨.validation, "validation error for Bar"⟩

/-! ## Generating -/

def milliseconds (n : Int) : Timedelta := 1000 * n

structure Generator (ρ : Type) where
  config : SyntheticMarketConfig
  spec : InstrumentSpec
  source : RandomSource ρ

/-- Where a generator stands between two bars. -/
structure GeneratorState (ρ : Type) where
  random : ρ
  price : Decimal
  clock : UtcDatetime
  index : Nat

/-- How it ended, if it did. -/
inductive Generation where
  | running
  | finished
  | raised (error : PyError)

namespace Generator

variable {ρ : Type} (self : Generator ρ)

def begin (startTime : UtcDatetime) : GeneratorState ρ where
  random := self.source.seeded self.config.seed
  price := self.config.startPrice
  clock := startTime
  index := 0

/-- `Decimal(round(rng.gauss(drift, volatility))) * point`, so many times. -/
def drawMoves (drift : Int) (volatility : Nat) : Nat → Raising ρ PyError (List Decimal)
  | 0 => pure []
  | n + 1 => do
      let drawn ← self.source.drawGauss drift volatility
      let points ← Raising.lift (roundFloat drawn)
      let moves ← drawMoves drift volatility n
      pure (⟨points, 0⟩ * self.spec.point.val :: moves)

/-- The spread before any fault. -/
def drawSpread (volatility : Nat) : Raising ρ PyError Int := do
  let deviation ← Raising.lift (trueDivide volatility 6)
  let drawn ← self.source.drawGauss 0 deviation
  let extra ← Raising.lift (truncMagnitude drawn)
  pure (self.config.baseSpreadPoints + extra)

/-- The quote at a close: half the spread to each side. -/
def quote (close : Decimal) (spreadPoints : Int) : Except PyError (Decimal × Decimal) := do
  let halfSpread := (⟨spreadPoints, 0⟩ * self.spec.point.val) / 2
  let bid ← Ict.quantizePrice (close - halfSpread) self.spec.digits .halfEven
  let ask ← Ict.quantizePrice (close + halfSpread) self.spec.digits .halfEven
  pure (bid, ask)

/-- The bar of an index, and the quote at its close. -/
def generateTick [Externals] (index : Nat) (clock : UtcDatetime) (price : Decimal) :
    Raising ρ PyError GeneratedTick := do
  let regime ← Raising.lift (self.config.regimeAt index)
  let sessionScale ← Raising.lift (self.config.sessionMultiplier clock)
  let volatility := SyntheticMarketConfig.scaledVolatility regime.1 sessionScale
  let moves ← self.drawMoves regime.2 volatility 4
  let prices ← Raising.lift (BarPrices.create self.spec price moves)
  let drawnSpread ← self.drawSpread volatility
  let latency ← self.source.drawInt 3 40
  let receivedTimeUtc ← Raising.lift (PyDatetime.shift clock (milliseconds latency))
  let faults := self.config.faults
  let fault := faults.faultAt index
  let eventTimeUtc ← Raising.lift (
    if fault = some .staleTick then PyDatetime.shift clock (-faults.staleTickAge) else .ok clock)
  let spreadPoints :=
    if fault = some .spreadSpike then drawnSpread * faults.spreadSpikeMultiplier else drawnSpread
  let quote ← Raising.lift (self.quote prices.close spreadPoints)
  let tickVolume ← self.source.drawInt 40 400
  let bar ← Raising.lift (Bar.construct clock prices tickVolume spreadPoints)
  let quoted ← Raising.lift (priceToPoints (quote.2 - quote.1) self.spec.point)
  pure {
    bar
    bid := quote.1
    ask := quote.2
    spreadPoints := quoted
    eventTimeUtc
    receivedTimeUtc
    dataQuality := if fault = some .suspectQuality then .suspect else .good
    injectedFault := fault.map Fault.value }

/-- The market is shut, and the generator keeps to its hours. -/
def skips [Externals] (clock : UtcDatetime) : Except PyError Bool :=
  if self.config.skipWeekend then do
    let _ ← astimezoneNewYork clock
    pure (!Sessions.isMarketOpen clock)
  else .ok false

/-- The clock advances to the next slot, in which this is drawn from. -/
def nextSlot (s : GeneratorState ρ) : Except PyError (GeneratorState ρ) := do
  let clock ← PyDatetime.shift s.clock self.config.barInterval
  pure { s with clock }

/-- One turn of the loop: what it yields, and where it stands then, or what it raises instead of
going on. While the market is shut the clock advances and no bar is emitted. -/
def advance [Externals] (s : GeneratorState ρ) :
    Option GeneratedTick × Except PyError (GeneratorState ρ) :=
  match self.skips s.clock with
  | .error error => (none, .error error)
  | .ok true => (none, self.nextSlot s)
  | .ok false =>
      match self.generateTick s.index s.clock s.price s.random with
      | (.error error, _) => (none, .error error)
      | (.ok tick, random) =>
          (some tick, self.nextSlot ⟨random, tick.bar.close, s.clock, s.index + 1⟩)

/-- So many turns of the loop, unless it ends before. -/
def generateTicks [Externals] : Nat → GeneratorState ρ → List GeneratedTick × Generation
  | turns, s =>
      if (s.index : Int) < self.config.barCount then
        match turns with
        | 0 => ([], .running)
        | turns + 1 =>
            let (tick, next) := self.advance s
            match next with
            | .error error => (tick.toList, .raised error)
            | .ok s' =>
                let (ticks, generation) := generateTicks turns s'
                (tick.toList ++ ticks, generation)
      else ([], .finished)

end Generator

end Crumblr
