import Crumblr.Config

/-!
# Calendars and the weekly trading window

Where a moment falls in the trading week, per calendar, and what the owner's
session policy says about it: entries stop a while before the weekly close, and
the book must be flat a while before it too.
-/

namespace Crumblr

/-! ## Trading sessions, by New York's clocks -/

/-- The wall time New York's clocks show. -/
def newYorkWall [Externals] (moment : UtcDatetime) : Int :=
  moment + Externals.newYorkOffset moment

/-- The date of a wall time. -/
def dateOf (wall : Int) : Date := wall / days 1

def hourOf (wall : Int) : Int := wall % days 1 / hours 1

/-- The day of the week, Monday being 0. -/
def weekday (d : Date) : Int := (d + 3) % 7

def weekCloseHourEt : Int := 17

def weekOpenHourEt : Int := 17

namespace Sessions

variable [Externals]

def isMarketOpen (moment : UtcDatetime) : Bool :=
  let wall := newYorkWall moment
  let day := weekday (dateOf wall)
  let saturday := day = 5
  let afterFridayClose := day = 4 ∧ weekCloseHourEt ≤ hourOf wall
  let beforeSundayOpen := day = 6 ∧ hourOf wall < weekOpenHourEt
  !(saturday ∨ afterFridayClose ∨ beforeSundayOpen)

/-- The trading day a moment belongs to; a closed market's is the next Monday. -/
def tradingDay (moment : UtcDatetime) : Date :=
  let wall := newYorkWall moment
  if !isMarketOpen moment then dateOf (wall + days ((7 - weekday (dateOf wall)) % 7))
  else if weekCloseHourEt ≤ hourOf wall then dateOf (wall + days 1)
  else dateOf wall

/-- Friday 17:00 New York of the week a moment's trading day belongs to. -/
def weeklyClose (moment : UtcDatetime) : UtcDatetime :=
  let day := tradingDay moment
  let monday := day - weekday day
  let friday := monday + 4
  Externals.newYorkToUtc (days friday + hours weekCloseHourEt)

end Sessions

/-! ## Calendars -/

/-- When a market trades. -/
structure TradingCalendar where
  isMarketOpen : UtcDatetime → Bool
  tradingDay : UtcDatetime → Date
  weeklyClose : UtcDatetime → Option UtcDatetime
  sessionPolicyApproved : Bool

def fxWeekdayCalendar [Externals] : TradingCalendar where
  isMarketOpen := Sessions.isMarketOpen
  tradingDay := Sessions.tradingDay
  weeklyClose := fun moment => some (Sessions.weeklyClose moment)
  sessionPolicyApproved := true

/-- A market that never closes, and so has no weekly close to be flat at. -/
def alwaysOpenCalendar (sessionPolicyApproved : Bool) : TradingCalendar where
  isMarketOpen := fun _ => true
  tradingDay := fun moment => dateOf moment
  weeklyClose := fun _ => none
  sessionPolicyApproved := sessionPolicyApproved

def calendarFor [Externals] (assetClass : AssetClass) (sessionPolicyApproved : Bool) :
    TradingCalendar :=
  match assetClass with
  | .fx | .metal => fxWeekdayCalendar
  | .crypto => alwaysOpenCalendar sessionPolicyApproved

/-! ## The session policy -/

inductive SessionPhase where
  | open
  | noNewEntries
  | flattenRequired
  | closed
  deriving DecidableEq, Repr

/-- The value the enumeration carries. -/
def SessionPhase.value : SessionPhase → String
  | .open => "OPEN"
  | .noNewEntries => "NO_NEW_ENTRIES"
  | .flattenRequired => "FLATTEN_REQUIRED"
  | .closed => "CLOSED"

def SessionPhase.permitsNewEntries (p : SessionPhase) : Bool := p = .open

/-- How long before the weekly close entries stop and the book must be flat. -/
structure IntradayPolicy where
  enabled : Bool
  lastEntryOffset : Timedelta
  flattenOffset : Timedelta
  ordering : flattenOffset ≤ lastEntryOffset
  nonneg : 0 ≤ flattenOffset ∧ 0 ≤ lastEntryOffset

def policyFromConfig (config : IntradayConfig) : IntradayPolicy where
  enabled := config.enabled
  lastEntryOffset := minutes config.lastEntryMinutesBeforeClose
  flattenOffset := minutes config.flattenMinutesBeforeClose
  ordering := by
    have h := config.deadlineOrdering
    simp only [minutes, seconds, Timedelta]
    omega
  nonneg := by
    simp only [minutes, seconds, Timedelta]
    omega

def phaseAt (moment : UtcDatetime) (policy : IntradayPolicy) (calendar : TradingCalendar) :
    SessionPhase :=
  if !calendar.isMarketOpen moment then .closed
  else
    match calendar.weeklyClose moment with
    | none => if calendar.sessionPolicyApproved then .open else .closed
    | some close =>
        if !policy.enabled then .open
        else if close - policy.flattenOffset ≤ moment then .flattenRequired
        else if close - policy.lastEntryOffset ≤ moment then .noNewEntries
        else .open

def permitsNewEntry (moment : UtcDatetime) (policy : IntradayPolicy)
    (calendar : TradingCalendar) : Bool :=
  (phaseAt moment policy calendar).permitsNewEntries

def requiresFlat (moment : UtcDatetime) (policy : IntradayPolicy) (calendar : TradingCalendar) :
    Bool :=
  policy.enabled && (phaseAt moment policy calendar = .flattenRequired
    || phaseAt moment policy calendar = .closed)

/-- Whether a weekly close lies between the opening of a position and now. -/
def hasCrossedWeeklyClose (openedAtUtc moment : UtcDatetime) (calendar : TradingCalendar) :
    Bool :=
  calendar.weeklyClose openedAtUtc ≠ calendar.weeklyClose moment

end Crumblr
