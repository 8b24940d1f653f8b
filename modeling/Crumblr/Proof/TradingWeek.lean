import Mathlib.Data.Int.ConditionallyCompleteOrder
import Mathlib.Order.ConditionallyCompleteLattice.Basic
import Mathlib.Order.Bounds.Basic
import Mathlib.Order.Monotone.Basic
import Crumblr.Risk.Policies
import Crumblr.Proof.FlattenEvidence

/-!
# The trading week

New York's clocks go back once a year, and then wall times repeat. They are changed on a
Sunday morning only, when the market is closed, so the day the week is in, which begins at
17:00 the evening before, never goes back. The weekly close, the trading day and the phases
are all read off that day.
-/

namespace Crumblr

variable [Externals]

/-- What is relied on of New York's clocks. -/
structure NewYorkClock : Prop where
  /-- They are changed at two o'clock on Sundays only. -/
  changes : ∀ t, Externals.newYorkOffset t ≠ Externals.newYorkOffset (t - 1) →
    weekday (dateOf (t + Externals.newYorkOffset (t - 1))) = 6
      ∧ (t + Externals.newYorkOffset (t - 1)) % days 1 = hours 2
  /-- They are put forward or back by no more than an hour. -/
  shift : ∀ t, Externals.newYorkOffset (t - 1) - hours 1 ≤ Externals.newYorkOffset t
    ∧ Externals.newYorkOffset t ≤ Externals.newYorkOffset (t - 1) + hours 1
  /-- On any other day a wall time is read as the instant that shows it. -/
  shows : ∀ wall, weekday (dateOf wall) ≠ 6 → newYorkWall (Externals.newYorkToUtc wall) = wall

/-- Friday, 17:00, by New York's clocks. -/
def IsFridayClose (moment : UtcDatetime) : Prop :=
  weekday (dateOf (newYorkWall moment)) = 4
    ∧ newYorkWall moment % days 1 = hours weekCloseHourEt

/-! ## The rolled day -/

/-- The day of the week's calendar, which begins at 17:00 the evening before. -/
def rolledDay (moment : UtcDatetime) : Date := dateOf (newYorkWall moment + hours 7)

/-- The day itself, or the Monday after a weekend. -/
def nextWeekday (d : Date) : Date := if 5 ≤ weekday d then d + (7 - weekday d) else d

section

omit [Externals]

theorem days_one : days 1 = 86400000000 := rfl

theorem hours_eq (n : Int) : hours n = 3600000000 * n := by
  simp only [hours, minutes, seconds, Timedelta]
  omega

theorem days_eq (n : Int) : days n = 86400000000 * n := by
  simp only [days, hours_eq, Timedelta]
  omega

theorem nextWeekday_mono : Monotone nextWeekday := by
  intro d d' h
  unfold nextWeekday
  split <;> split <;> simp only [weekday, Date] at * <;> omega

theorem le_nextWeekday (d : Date) : d ≤ nextWeekday d := by
  unfold nextWeekday
  split <;> simp only [weekday, Date] at * <;> omega

theorem nextWeekday_of_weekday {d : Date} (h : weekday d < 5) : nextWeekday d = d :=
  if_neg (not_le.mpr h)

theorem weekday_nextWeekday (d : Date) : weekday (nextWeekday d) < 5 := by
  unfold nextWeekday
  split <;> simp only [weekday, Date] at * <;> omega

end

theorem isMarketOpen_iff (moment : UtcDatetime) :
    Sessions.isMarketOpen moment = true ↔ weekday (rolledDay moment) < 5 := by
  simp only [Sessions.isMarketOpen, rolledDay, weekday, dateOf, hourOf, days_one,
    hours_eq, weekCloseHourEt, weekOpenHourEt, Bool.not_eq_true', decide_eq_false_iff_not, Date]
  omega

theorem tradingDay_eq (moment : UtcDatetime) :
    Sessions.tradingDay moment = nextWeekday (rolledDay moment) := by
  have hopen := isMarketOpen_iff moment
  cases h : Sessions.isMarketOpen moment with
  | false =>
      have hclosed : 5 ≤ weekday (rolledDay moment) := by
        rw [h] at hopen
        simpa using hopen
      have hwall := hclosed
      simp only [Sessions.tradingDay, h, nextWeekday, if_pos hclosed, Bool.not_false, if_true]
      simp only [rolledDay, weekday, dateOf, days_one, hours_eq, Date] at hwall ⊢
      rw [days_eq]
      omega
  | true =>
      have hday : ¬ 5 ≤ weekday (rolledDay moment) := not_le.mpr (hopen.mp h)
      simp only [Sessions.tradingDay, h, nextWeekday, if_neg hday, Bool.not_true,
        Bool.false_eq_true, if_false]
      by_cases hhour : weekCloseHourEt ≤ hourOf (newYorkWall moment)
      · rw [if_pos hhour]
        simp only [rolledDay, dateOf, hourOf, days_one, hours_eq, weekCloseHourEt,
          Date] at hhour ⊢
        omega
      · rw [if_neg hhour]
        simp only [rolledDay, dateOf, hourOf, days_one, hours_eq, weekCloseHourEt,
          Date] at hhour ⊢
        omega

namespace NewYorkClock

variable (clock : NewYorkClock)

include clock

/-- **The week's calendar never goes back.** -/
theorem rolledDay_mono : Monotone rolledDay := by
  refine monotone_int_of_le_succ fun t => ?_
  have hshift := clock.shift (t + 1)
  have hchange := clock.changes (t + 1)
  rw [add_sub_cancel_right] at hshift hchange
  unfold rolledDay newYorkWall
  by_cases hsame : Externals.newYorkOffset (t + 1) = Externals.newYorkOffset t
  · rw [hsame]
    simp only [dateOf, days_one, hours_eq, Date]
    omega
  · -- both sides of the change are on that Sunday
    obtain ⟨hday, htime⟩ := hchange hsame
    simp only [weekday, dateOf, days_one, hours_eq, Date, UtcDatetime, Timedelta] at *
    omega

/-- A Friday close ends the Friday of the week's calendar. -/
theorem rolledDay_close {c : UtcDatetime} (h : IsFridayClose c) :
    weekday (rolledDay c) = 5 ∧ rolledDay (c - 1) = rolledDay c - 1 := by
  obtain ⟨hday, htime⟩ := h
  have hshift := clock.shift c
  have hsame : Externals.newYorkOffset c = Externals.newYorkOffset (c - 1) := by
    -- the clocks are not changed on a Friday
    by_contra hne
    obtain ⟨hsunday, htwo⟩ := clock.changes c hne
    simp only [newYorkWall, weekday, dateOf, days_one, hours_eq, weekCloseHourEt, Date,
      UtcDatetime, Timedelta] at *
    omega
  simp only [rolledDay, newYorkWall, ← hsame]
  simp only [newYorkWall, weekday, dateOf, days_one, hours_eq, weekCloseHourEt, Date,
    UtcDatetime, Timedelta] at *
  omega

/-- The Friday of a moment's week, at 17:00. -/
theorem weeklyClose_wall (moment : UtcDatetime) :
    newYorkWall (Sessions.weeklyClose moment)
      = days (Sessions.tradingDay moment - weekday (Sessions.tradingDay moment) + 4)
        + hours weekCloseHourEt := by
  refine clock.shows _ ?_
  simp only [weekday, dateOf, days_eq, hours_eq, weekCloseHourEt, Date]
  omega

theorem isFridayClose_weeklyClose (moment : UtcDatetime) :
    IsFridayClose (Sessions.weeklyClose moment) := by
  unfold IsFridayClose
  rw [clock.weeklyClose_wall]
  simp only [weekday, dateOf, days_eq, hours_eq, weekCloseHourEt, Date, Timedelta]
  omega

/-- A weekly close begins the Saturday after the moment's trading day. -/
theorem rolledDay_weeklyClose (moment : UtcDatetime) :
    rolledDay (Sessions.weeklyClose moment)
      = Sessions.tradingDay moment - weekday (Sessions.tradingDay moment) + 5 := by
  unfold rolledDay
  rw [clock.weeklyClose_wall]
  simp only [weekday, dateOf, days_eq, hours_eq, weekCloseHourEt, Date]
  omega

/-- **The weekly close is the first Friday close to come.** -/
theorem weeklyClose_isLeast (moment : UtcDatetime) :
    IsLeast {c | IsFridayClose c ∧ moment < c} (Sessions.weeklyClose moment) := by
  have hclose := clock.isFridayClose_weeklyClose moment
  have hday := clock.rolledDay_weeklyClose moment
  obtain ⟨hfriday, hbefore⟩ := clock.rolledDay_close hclose
  have hweekday := weekday_nextWeekday (rolledDay moment)
  have hle := le_nextWeekday (rolledDay moment)
  rw [tradingDay_eq] at hday
  constructor
  · refine ⟨hclose, clock.rolledDay_mono.reflect_lt ?_⟩
    simp only [weekday, Date] at *
    omega
  · rintro c ⟨hc, hlt⟩
    by_contra hnot
    obtain ⟨hcfriday, hcbefore⟩ := clock.rolledDay_close hc
    -- the moment's trading day is no later than that Friday, which is a week before its own
    have hfirst : nextWeekday (rolledDay moment) ≤ nextWeekday (rolledDay (c - 1)) :=
      nextWeekday_mono (clock.rolledDay_mono (Int.le_sub_one_of_lt hlt))
    have hsecond : rolledDay c ≤ rolledDay (Sessions.weeklyClose moment - 1) :=
      clock.rolledDay_mono (Int.le_sub_one_of_lt (not_le.mp hnot))
    rw [hcbefore] at hfirst
    have hthat : weekday (rolledDay c - 1) < 5 := by
      simp only [weekday, Date] at *
      omega
    rw [nextWeekday_of_weekday hthat] at hfirst
    simp only [weekday, Date] at *
    omega

theorem lt_weeklyClose (moment : UtcDatetime) : moment < Sessions.weeklyClose moment :=
  (clock.weeklyClose_isLeast moment).1.2

theorem weeklyClose_le {moment c : UtcDatetime} (hc : IsFridayClose c) (h : moment < c) :
    Sessions.weeklyClose moment ≤ c :=
  (clock.weeklyClose_isLeast moment).2 ⟨hc, h⟩

/-- Until its weekly close a moment shares it. -/
theorem weeklyClose_eq {opened moment : UtcDatetime} (h : opened ≤ moment)
    (hbefore : moment < Sessions.weeklyClose opened) :
    Sessions.weeklyClose moment = Sessions.weeklyClose opened := by
  have hle := clock.weeklyClose_le (clock.isFridayClose_weeklyClose opened) hbefore
  have hge := clock.weeklyClose_le (clock.isFridayClose_weeklyClose moment)
    (lt_of_le_of_lt h (clock.lt_weeklyClose moment))
  exact le_antisymm hle hge

/-- **A weekly close is crossed when a Friday close was.** -/
theorem hasCrossedWeeklyClose_iff {opened moment : UtcDatetime} (h : opened ≤ moment) :
    hasCrossedWeeklyClose opened moment fxWeekdayCalendar = true
      ↔ ∃ c, IsFridayClose c ∧ opened < c ∧ c ≤ moment := by
  have hiff : hasCrossedWeeklyClose opened moment fxWeekdayCalendar = true
      ↔ Sessions.weeklyClose opened ≠ Sessions.weeklyClose moment := by
    simp [hasCrossedWeeklyClose, fxWeekdayCalendar]
  rw [hiff]
  constructor
  · intro hne
    refine ⟨_, clock.isFridayClose_weeklyClose opened, clock.lt_weeklyClose opened, ?_⟩
    by_contra hnot
    exact hne (clock.weeklyClose_eq h (not_le.mp hnot)).symm
  · rintro ⟨c, hc, hopened, hmoment⟩ heq
    have hle := clock.weeklyClose_le hc hopened
    have hlt := clock.lt_weeklyClose moment
    rw [← heq] at hlt
    exact absurd (lt_of_lt_of_le hlt (hle.trans hmoment)) (lt_irrefl _)

end NewYorkClock

/--
**The weekly close and the trading day.** Of every moment the weekly close is the first Friday
17:00 after it; the trading day is from Monday to Friday and never goes back; and a weekly
close counts as crossed exactly when a Friday 17:00 was.
-/
theorem weekly_close_and_trading_day (clock : NewYorkClock) :
    (∀ m, IsLeast {c | IsFridayClose c ∧ m < c} (Sessions.weeklyClose m))
      ∧ (∀ m, weekday (Sessions.tradingDay m) ∈ Set.Icc 0 4)
      ∧ Monotone Sessions.tradingDay
      ∧ ∀ o m, o ≤ m → (hasCrossedWeeklyClose o m fxWeekdayCalendar = true
          ↔ ∃ c, IsFridayClose c ∧ c ∈ Set.Ioc o m) := by
  refine ⟨clock.weeklyClose_isLeast, fun m => ?_, fun m m' h => ?_, fun o m h => ?_⟩
  · have hlt := weekday_nextWeekday (rolledDay m)
    rw [tradingDay_eq]
    simp only [weekday, Date, Set.mem_Icc] at *
    omega
  · rw [tradingDay_eq, tradingDay_eq]
    exact nextWeekday_mono (clock.rolledDay_mono h)
  · exact clock.hasCrossedWeeklyClose_iff h

/-! ## The phases of a week -/

/-- The trading week a moment is in: from Sunday 17:00 to the next. -/
def tradingWeek (moment : UtcDatetime) : Int := (rolledDay moment + 3) / 7

/-- The order of the phases within a week. -/
def SessionPhase.rank : SessionPhase → Nat
  | .open => 0
  | .noNewEntries => 1
  | .flattenRequired => 2
  | .closed => 3

section

variable {moment later : UtcDatetime} {policy : IntradayPolicy}

/-- Where an open market is in its week is told by its weekly close. -/
theorem phaseAt_fx (hopen : Sessions.isMarketOpen moment = true)
    (henabled : policy.enabled = true) :
    phaseAt moment policy fxWeekdayCalendar
      = if Sessions.weeklyClose moment - policy.flattenOffset ≤ moment then .flattenRequired
        else if Sessions.weeklyClose moment - policy.lastEntryOffset ≤ moment then .noNewEntries
        else .open := by
  simp [phaseAt, fxWeekdayCalendar, hopen, henabled]

theorem phaseAt_fx_closed (hclosed : Sessions.isMarketOpen moment = false) :
    phaseAt moment policy fxWeekdayCalendar = .closed := by
  simp [phaseAt, fxWeekdayCalendar, hclosed]

omit [Externals] in
theorem phaseAt_alwaysOpen (approved : Bool) :
    phaseAt moment policy (alwaysOpenCalendar approved) = if approved then .open else .closed := by
  cases approved <;> rfl

namespace NewYorkClock

variable (clock : NewYorkClock)

include clock

/-- Open moments of one week share their weekly close. -/
theorem weeklyClose_eq_of_week (hopen : Sessions.isMarketOpen moment = true)
    (hlater : Sessions.isMarketOpen later = true) (h : moment ≤ later)
    (hweek : tradingWeek moment = tradingWeek later) :
    Sessions.weeklyClose later = Sessions.weeklyClose moment := by
  refine clock.weeklyClose_eq h ?_
  have hday := clock.rolledDay_weeklyClose moment
  have hnow := (isMarketOpen_iff moment).mp hopen
  have hthen := (isMarketOpen_iff later).mp hlater
  rw [tradingDay_eq, nextWeekday_of_weekday hnow] at hday
  refine clock.rolledDay_mono.reflect_lt ?_
  simp only [tradingWeek, weekday, Date] at *
  omega

/-- A market that has closed stays closed for the rest of its week. -/
theorem stays_closed (hclosed : Sessions.isMarketOpen moment = false) (h : moment ≤ later)
    (hweek : tradingWeek moment = tradingWeek later) : Sessions.isMarketOpen later = false := by
  have hnow : ¬ weekday (rolledDay moment) < 5 := by
    rw [← isMarketOpen_iff, hclosed]
    exact Bool.false_ne_true
  have hmono := clock.rolledDay_mono h
  by_contra hlater
  have hthen := (isMarketOpen_iff later).mp (Bool.not_eq_false _ ▸ hlater)
  simp only [tradingWeek, weekday, Date] at *
  omega

/-- **Within a week the phases only advance.** -/
theorem rank_mono (henabled : policy.enabled = true) (h : moment ≤ later)
    (hweek : tradingWeek moment = tradingWeek later) :
    (phaseAt moment policy fxWeekdayCalendar).rank
      ≤ (phaseAt later policy fxWeekdayCalendar).rank := by
  cases hthen : Sessions.isMarketOpen later with
  | false =>
      rw [phaseAt_fx_closed hthen]
      cases phaseAt moment policy fxWeekdayCalendar <;> decide
  | true =>
      cases hnow : Sessions.isMarketOpen moment with
      | false =>
          rw [clock.stays_closed hnow h hweek] at hthen
          cases hthen
      | true =>
          -- the same close stands before both
          rw [phaseAt_fx hnow henabled, phaseAt_fx hthen henabled,
            clock.weeklyClose_eq_of_week hnow hthen h hweek]
          have hordering := policy.ordering
          split
          · rename_i hflat
            rw [if_pos (hflat.trans h)]
          · split
            · rename_i hentry
              rw [if_pos (hentry.trans h)]
              split <;> decide
            · exact Nat.zero_le _

/-- From its week's deadline on a position is not where the book must be. -/
theorem requiresFlat_or_crossed {opened close : UtcDatetime} (henabled : policy.enabled = true)
    (hclose : IsFridayClose close) (hbefore : opened < close) (hopened : opened ≤ moment)
    (hdeadline : close - policy.flattenOffset ≤ moment) :
    requiresFlat moment policy fxWeekdayCalendar = true
      ∨ hasCrossedWeeklyClose opened moment fxWeekdayCalendar = true := by
  rw [clock.hasCrossedWeeklyClose_iff hopened]
  by_cases hlate : Sessions.weeklyClose opened ≤ moment
  · exact .inr ⟨_, clock.isFridayClose_weeklyClose opened, clock.lt_weeklyClose opened, hlate⟩
  · left
    cases hnow : Sessions.isMarketOpen moment with
    | false => simp [requiresFlat, henabled, phaseAt_fx_closed hnow]
    | true =>
        have hsame := clock.weeklyClose_eq hopened (not_le.mp hlate)
        have hflat : Sessions.weeklyClose moment - policy.flattenOffset ≤ moment := by
          have hfirst := clock.weeklyClose_le hclose hbefore
          rw [hsame]
          exact (Int.sub_le_sub_right hfirst _).trans hdeadline
        simp [requiresFlat, henabled, phaseAt_fx hnow henabled, hflat]

end NewYorkClock

end

end Crumblr

namespace Crumblr

open Sample in
/-- Clocks on summer time, as they are in September. -/
theorem Sample.newYorkClock : NewYorkClock where
  changes := fun _ hne => absurd rfl hne
  shift := fun t => by
    have hsame : Externals.newYorkOffset t = Externals.newYorkOffset (t - 1) := rfl
    simp only [hsame, hours_eq, Timedelta]
    omega
  shows := fun wall _ => by
    change wall + hours 4 + hours (-4) = wall
    simp only [hours_eq, Timedelta]
    omega

open Sample in
theorem weekly_close_and_trading_day_sample :
    IsLeast {c | IsFridayClose c ∧ noon < c} (noon + days 3 + hours 9)
      ∧ weekday (Sessions.tradingDay noon) ∈ Set.Icc 0 4
      ∧ Sessions.tradingDay noon ≤ Sessions.tradingDay (noon + days 4)
      ∧ ∃ c, IsFridayClose c ∧ c ∈ Set.Ioc noon (noon + days 4) := by
  have hclose : Sessions.weeklyClose noon = noon + days 3 + hours 9 := by decide +kernel
  have hcrossed : hasCrossedWeeklyClose noon (noon + days 4) fxWeekdayCalendar = true := by
    decide +kernel
  have hle : noon ≤ noon + days 4 := by decide +kernel
  obtain ⟨hleast, hday, hmono, hiff⟩ := weekly_close_and_trading_day newYorkClock
  exact ⟨hclose ▸ hleast noon, hday noon, hmono hle, (hiff _ _ hle).mp hcrossed⟩

end Crumblr
