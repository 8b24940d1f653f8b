import Mathlib.Data.Rat.Floor
import Crumblr.Domain.JsonText
import Crumblr.Domain.Models
import Crumblr.Lib.Rounding
import Crumblr.Lib.SignedDecimal

/-!
# Reading ticks

The terminal keeps its ticks by the server's own clock. A read asks for them from an instant of
UTC on, shifted to that clock, and shifts the times of the rows back. What `copy_ticks_from`
answers with is outside the repository: the oldest `count` rows at or after the instant, in the
order of time.
-/

namespace Crumblr

/-- A row of the terminal's ticks, in the server's clock: seconds, and milliseconds if known. -/
structure RawTick where
  time : Nat
  timeMsc : Nat
  bid : Price
  ask : Price
  deriving DecidableEq

namespace RawTick

/-- When the server says it happened. -/
def serverTime (row : RawTick) : UtcDatetime :=
  if row.timeMsc ≠ 0 then row.timeMsc * 1000 else seconds row.time

/-- What of a row is its quote. -/
def quote (row : RawTick) : UtcDatetime × Price × Price := (row.serverTime, row.bid, row.ask)

end RawTick

/-- A read the terminal answers: the ticks it has by then, and when each row is received. -/
structure TickReading where
  history : List RawTick
  received : Nat → UtcDatetime
  ordered : history.Pairwise fun row later => row.serverTime ≤ later.serverTime

/-- The terminal's own read. -/
def copyTicksFrom (history : List RawTick) (dateFrom : UtcDatetime) (count : Nat) : List RawTick :=
  (history.filter fun row => decide (dateFrom ≤ row.serverTime)).take count

structure ReadOnlyMt5Gateway where
  canonicalSymbol : String
  brokerSymbol : String
  /-- What the server's clock is ahead of UTC. -/
  clockOffset : Timedelta

/-- A price as canonical JSON writes it; a double's is far from the greatest exponent. -/
def canonicalPrice (p : Price) : String :=
  String.ofList (SignedDecimal.stripped ⟨false, p.val.coeff.natAbs, p.val.exp⟩).format

/-- What a tick's identity is the UUID of. -/
def tickIdentityName (source canonicalSymbol : String) (eventTimeUtc : UtcDatetime)
    (bid ask : Price) (last : Option Price) : String :=
  String.ofList (((Json.obj [
    ("kind", .str "crumblr:tick"),
    ("source", .str source),
    ("symbol", .str canonicalSymbol),
    ("event_time", .str (isoTime eventTimeUtc)),
    ("bid", .str (canonicalPrice bid)),
    ("ask", .str (canonicalPrice ask)),
    ("last", .opt (fun p => .str (canonicalPrice p)) last)]).sortKeys).dumps false)

def tickIdentity [Externals] (source canonicalSymbol : String) (eventTimeUtc : UtcDatetime)
    (bid ask : Price) (last : Option Price := none) : Uuid :=
  Externals.uuid5 (tickIdentityName source canonicalSymbol eventTimeUtc bid ask last)

namespace ReadOnlyMt5Gateway

variable [Externals] (self : ReadOnlyMt5Gateway)

def tickFromRaw (row : RawTick) (source : String) (receivedAt : UtcDatetime) : MarketTick :=
  let eventTime := row.serverTime - self.clockOffset
  { tickId := tickIdentity source self.canonicalSymbol eventTime row.bid row.ask
    source
    canonicalSymbol := self.canonicalSymbol
    brokerSymbol := self.brokerSymbol
    eventTimeUtc := eventTime
    receivedTimeUtc := receivedAt
    bid := row.bid
    ask := row.ask
    dataQuality := .good
    anomalies := [] }

def ticks (reading : TickReading) (since : UtcDatetime) (count : Nat) (source : String) :
    List MarketTick :=
  (copyTicksFrom reading.history (since + self.clockOffset) count).mapIdx fun i row =>
    self.tickFromRaw row source (reading.received i)

omit [Externals] in
/-- All the ticks of the broker a read looks back at. -/
def window (reading : TickReading) (since : UtcDatetime) : List RawTick :=
  reading.history.filter fun row => decide (since + self.clockOffset ≤ row.serverTime)

/-- The tick is the last one the broker has. -/
def Newest (reading : TickReading) (source : String) (tick : MarketTick) : Prop :=
  ∃ row receivedAt, reading.history.getLast? = some row
    ∧ tick = self.tickFromRaw row source receivedAt

omit [Externals] in
/-- The read does not stop short: the count has room for the window, or the row it stops at
quotes what the last one quotes. -/
def Complete (reading : TickReading) (since : UtcDatetime) (count : Nat) : Prop :=
  (self.window reading since).length ≤ count
    ∨ ((self.window reading since)[count - 1]?).map RawTick.quote
      = reading.history.getLast?.map RawTick.quote

end ReadOnlyMt5Gateway

/-! ## The server's clock -/

/-- How far a measured offset may sit from a clean half-hour multiple. -/
def clockOffsetTolerance : Timedelta := minutes 3

/-- No real offset from UTC exceeds this. -/
def maxPlausibleClockOffset : Timedelta := hours 15

/-- The quotient of two spans, a double. -/
def spanQuotient (span unit : Timedelta) : ℚ := SigDigits.roundSig 2 53 ((span : ℚ) / unit)

/-- What a tick's time, in whole seconds of the server's clock, says of that clock now. -/
def measureClockOffset (tickTime : Int) (now : UtcDatetime) : Except PyError Timedelta :=
  let brokerNow : UtcDatetime := seconds tickTime
  let rawOffset := brokerNow - now
  let halfHours := SigDigits.halfEven (spanQuotient rawOffset (minutes 30))
  let candidate := minutes (30 * halfHours)
  let residual := rawOffset - candidate
  if clockOffsetTolerance < |residual| ∨ maxPlausibleClockOffset < |candidate| then
    .error ⟨.other, "reference tick does not support a stable broker-clock offset "
      ++ s!"(raw={timedeltaText rawOffset}, nearest clean offset={timedeltaText candidate}, "
      ++ s!"residual={timedeltaText residual}) — the tick may be stale"⟩
  else .ok candidate

/-- The offset a gateway works with: measured once, by the tick the terminal has then. -/
def clockOffset (cached : Option Timedelta) (brokerSymbol : Except PyError String)
    (tickTime : Except PyError Int) (now : UtcDatetime) : Except PyError Timedelta :=
  match cached with
  | some offset => .ok offset
  | none => do
      let _ ← brokerSymbol
      let tickTime ← tickTime
      measureClockOffset tickTime now

end Crumblr
