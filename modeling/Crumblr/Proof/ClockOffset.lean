import Crumblr.Mt5Gateway.ReadOnly

/-!
# The broker's clock

The server's clock is a multiple of half an hour ahead of UTC. The gateway reads off a tick how
far, and what it sees is the offset less the tick's age. It takes the nearest half hour, if that
is near enough; so a tick that is about half an hour old is taken for a fresh one of a clock
half an hour behind.
-/

namespace Crumblr

/-- The half hours a clock is ahead. -/
def halfHour (n : Int) : Timedelta := minutes (30 * n)

theorem halfHour_eq (n : Int) : halfHour n = 1800000000 * n := by
  simp only [halfHour, minutes, seconds, Timedelta]
  omega

theorem clockOffsetTolerance_eq : clockOffsetTolerance = 180000000 := rfl

theorem maxPlausibleClockOffset_eq : maxPlausibleClockOffset = 54000000000 := rfl

/-- A plausible multiple a measurement is near to is the one it is rounded to. -/
theorem halfHours_of_near {raw : Timedelta} {m : Int}
    (hnear : |raw - halfHour m| ≤ clockOffsetTolerance)
    (hbounded : |halfHour m| ≤ maxPlausibleClockOffset) :
    SigDigits.halfEven (spanQuotient raw (minutes 30)) = m := by
  rw [halfHour_eq, clockOffsetTolerance_eq] at hnear
  rw [halfHour_eq, maxPlausibleClockOffset_eq] at hbounded
  have hm : |m| ≤ 30 := by
    simp only [abs_le, Timedelta] at hbounded ⊢
    omega
  refine SigDigits.halfEven_roundSig (by norm_num) (by norm_num; omega) ?_
  have hunit : ((minutes 30 : Timedelta) : ℚ) = 1800000000 := by norm_num [minutes, seconds]
  have hraw : |(raw : ℚ) - 1800000000 * m| ≤ 180000000 := by exact_mod_cast hnear
  rw [hunit]
  rw [abs_le] at hraw ⊢
  constructor
  · rw [le_sub_iff_add_le, le_div_iff₀ (by norm_num)]
    linarith
  · rw [sub_le_iff_le_add, div_le_iff₀ (by norm_num)]
    linarith

/-- **What is accepted.** A measurement is taken for a plausible multiple of half an hour when
it is within the tolerance of it. -/
theorem measureClockOffset_ok_iff {tickTime : Int} {now : UtcDatetime} {offset : Timedelta} :
    measureClockOffset tickTime now = .ok offset
      ↔ ∃ m, offset = halfHour m ∧ |seconds tickTime - now - halfHour m| ≤ clockOffsetTolerance
          ∧ |halfHour m| ≤ maxPlausibleClockOffset := by
  unfold measureClockOffset
  constructor
  · intro h
    simp only at h
    split at h
    · cases h
    · rename_i hok
      rw [not_or, not_lt, not_lt] at hok
      cases h
      exact ⟨_, rfl, hok⟩
  · rintro ⟨m, rfl, hnear, hbounded⟩
    simp only
    rw [halfHours_of_near hnear hbounded, if_neg]
    · rfl
    · rw [not_or, not_lt, not_lt]
      exact ⟨hnear, hbounded⟩

/-- The server's time of a tick of a given age, cut to whole seconds. -/
def probeTime (trueOffset age : Timedelta) (now : UtcDatetime) : Int :=
  (now - age + trueOffset) / seconds 1

/-- How old the tick looks: its age, and the part of a second that was cut off. -/
def apparentAge (trueOffset age : Timedelta) (now : UtcDatetime) : Timedelta :=
  age + (now - age + trueOffset) % seconds 1

theorem probeTime_eq (trueOffset age : Timedelta) (now : UtcDatetime) :
    seconds (probeTime trueOffset age now) - now
      = trueOffset - apparentAge trueOffset age now := by
  simp only [probeTime, apparentAge, seconds, Timedelta]
  omega

/-- The tick looks as old as some half hours by which the offset could be off. -/
def LooksShifted (trueOffset age : Timedelta) (now : UtcDatetime) : Prop :=
  ∃ k ≠ 0, |apparentAge trueOffset age now - halfHour k| ≤ clockOffsetTolerance
    ∧ |trueOffset - halfHour k| ≤ maxPlausibleClockOffset

/--
**The offset that is accepted is the true one unless the tick is some half hours old.** For a
clock any number of half hours ahead and a probe tick of any age: what the gateway accepts is
the true offset, and a tick that looks older than the tolerance is refused, if and only if the
tick does not look as old, within the tolerance, as some half hours less than which the
offset would be plausible too.
-/
theorem clock_offset_true_iff (h : Int) (age : Timedelta) (now : UtcDatetime)
    (brokerSymbol : String) :
    ((∀ offset, clockOffset none (.ok brokerSymbol) (.ok (probeTime (halfHour h) age now)) now
          = .ok offset → offset = halfHour h)
      ∧ (clockOffsetTolerance < apparentAge (halfHour h) age now →
          ∃ err, clockOffset none (.ok brokerSymbol) (.ok (probeTime (halfHour h) age now)) now
            = .error err))
      ↔ ¬ LooksShifted (halfHour h) age now := by
  have haccepts : ∀ offset,
      clockOffset none (.ok brokerSymbol) (.ok (probeTime (halfHour h) age now)) now = .ok offset
        ↔ ∃ k, offset = halfHour h - halfHour k
          ∧ |apparentAge (halfHour h) age now - halfHour k| ≤ clockOffsetTolerance
          ∧ |halfHour h - halfHour k| ≤ maxPlausibleClockOffset := by
    intro offset
    have hmeasure : clockOffset none (.ok brokerSymbol) (.ok (probeTime (halfHour h) age now)) now
        = measureClockOffset (probeTime (halfHour h) age now) now := rfl
    rw [hmeasure, measureClockOffset_ok_iff, probeTime_eq]
    have hshift : ∀ m, halfHour h - halfHour (h - m) = halfHour m := by
      intro m
      simp only [halfHour_eq, Timedelta]
      omega
    have hnear : ∀ m, halfHour h - apparentAge (halfHour h) age now - halfHour m
        = halfHour (h - m) - apparentAge (halfHour h) age now := by
      intro m
      rw [← hshift (h - m), sub_sub_cancel]
      ring
    constructor
    · rintro ⟨m, rfl, hclose, hbounded⟩
      refine ⟨h - m, (hshift m).symm, ?_, ?_⟩
      · rw [abs_sub_comm, ← hnear]
        exact hclose
      · rw [hshift]
        exact hbounded
    · rintro ⟨k, rfl, hclose, hbounded⟩
      have hk : halfHour h - halfHour k = halfHour (h - k) := by
        rw [← hshift (h - k), sub_sub_cancel]
      refine ⟨h - k, hk, ?_, hk ▸ hbounded⟩
      rw [hnear, sub_sub_cancel, abs_sub_comm]
      exact hclose
  constructor
  · rintro ⟨htrue, -⟩ ⟨k, hk, hclose, hbounded⟩
    have hsame := htrue _ ((haccepts _).mpr ⟨k, rfl, hclose, hbounded⟩)
    refine hk ?_
    simp only [halfHour_eq, Timedelta] at hsame
    omega
  · intro hfresh
    have honly : ∀ offset, clockOffset none (.ok brokerSymbol)
        (.ok (probeTime (halfHour h) age now)) now = .ok offset → offset = halfHour h
          ∧ |apparentAge (halfHour h) age now| ≤ clockOffsetTolerance := by
      intro offset hok
      obtain ⟨k, rfl, hclose, hbounded⟩ := (haccepts offset).mp hok
      -- a nonzero shift is what the condition excludes
      have hk : k = 0 := by
        by_contra hne
        exact hfresh ⟨k, hne, hclose, hbounded⟩
      subst hk
      have hzero : halfHour 0 = 0 := rfl
      rw [hzero, sub_zero] at hclose ⊢
      exact ⟨rfl, hclose⟩
    refine ⟨fun offset hok => (honly offset hok).1, fun hold => ?_⟩
    cases hread : clockOffset none (.ok brokerSymbol) (.ok (probeTime (halfHour h) age now)) now with
    | error err => exact ⟨err, rfl⟩
    | ok offset =>
        have hage := (honly offset hread).2
        exact absurd (lt_of_lt_of_le hold ((le_abs_self _).trans hage)) (lt_irrefl _)

/-- By a tick that is half an hour old, a clock three hours ahead is taken for one two and a
half hours ahead. -/
theorem clock_offset_guessed :
    clockOffset none (.ok "EURUSD") (.ok (probeTime (hours 3) (minutes 30) (days 20704)))
        (days 20704) = .ok (halfHour 5)
      ∧ halfHour 5 ≠ hours 3 := by
  refine ⟨measureClockOffset_ok_iff.mpr ⟨5, rfl, ?_, ?_⟩, ?_⟩
  · rw [probeTime_eq]
    decide
  · decide
  · decide

end Crumblr
