import Crumblr.Risk.TradingWindow

/-!
# Killzones

The windows of New York's day a strategy trades in.
-/

namespace Crumblr

/-- The windows this methodology treats as worth trading. -/
inductive Killzone where
  | asianRange
  | londonOpen
  | newYorkAm
  | londonClose
  | none
  deriving DecidableEq, Repr

/-- The value the enumeration carries. -/
def Killzone.value : Killzone → String
  | .asianRange => "ASIAN_RANGE"
  | .londonOpen => "LONDON_OPEN"
  | .newYorkAm => "NEW_YORK_AM"
  | .londonClose => "LONDON_CLOSE"
  | .none => "NONE"

/-- A window, in New York's local time. -/
structure KillzoneWindow where
  zone : Killzone
  start : Timedelta
  stop : Timedelta

/-- Windows do not wrap midnight; the Asian range is split instead. -/
def KillzoneWindow.contains (window : KillzoneWindow) (localTime : Timedelta) : Bool :=
  decide (window.start ≤ localTime ∧ localTime < window.stop)

def defaultWindows : List KillzoneWindow := [
  ⟨.asianRange, hours 20, hours 23 + minutes 59 + seconds 59⟩,
  ⟨.asianRange, hours 0, hours 2⟩,
  ⟨.londonOpen, hours 2, hours 5⟩,
  ⟨.newYorkAm, hours 7, hours 10⟩,
  ⟨.londonClose, hours 10, hours 12⟩]

/-- The windows a strategy trades in by default. -/
def tradingKillzones : List Killzone := [.londonOpen, .newYorkAm]

/-- Which killzone a moment is in, by New York's clocks. -/
def killzoneAt [Externals] (moment : UtcDatetime) : Killzone :=
  let localTime := newYorkWall moment % days 1
  match defaultWindows.find? fun window => window.contains localTime with
  | some window => window.zone
  | Option.none => .none

end Crumblr
