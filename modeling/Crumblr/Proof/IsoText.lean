import Crumblr.Domain.TimeUtils
import Crumblr.Lib.NumberText
import Mathlib.Tactic.IntervalCases

/-!
# The text of an instant

The ISO text of an instant of the years a text has four digits for determines the instant: the
date is read back from its year, month and day, and every part of the text but the fraction has
one width.
-/

namespace Crumblr

open NumberText

/-! ## Padded numbers -/

theorem toList_pad (width : Nat) {n : Int} (hn : 0 ≤ n) : (pad width n).toList
    = List.replicate (width - (Nat.toDigits 10 n.toNat).length) '0' ++ Nat.toDigits 10 n.toNat := by
  have htext : (toString n).toList = Nat.toDigits 10 n.toNat := by
    rw [toList_toString, if_pos hn]
  have hjoin : ∀ k : Nat, (String.join (List.replicate k "0")).toList = List.replicate k '0' := by
    intro k
    induction k with
    | zero => rfl
    | succ k ih => simp [List.replicate_succ, String.join_cons, ih]
  unfold pad
  rw [String.toList_append, hjoin, htext, ← String.length_toList, htext]

/-- A padded number has its width. -/
theorem length_pad {width : Nat} {n : Int} (hn : 0 ≤ n) (hwidth : 0 < width)
    (hlt : n < 10 ^ width) : (pad width n).toList.length = width := by
  have hdigits : (Nat.toDigits 10 n.toNat).length ≤ width := by
    refine (Nat.length_toDigits_le_iff (by decide) hwidth).mpr ?_
    have hcast : (n.toNat : Int) < (10 ^ width : Nat) := by
      rw [Int.toNat_of_nonneg hn]
      exact_mod_cast hlt
    exact_mod_cast hcast
  rw [toList_pad width hn, List.length_append, List.length_replicate]
  omega

theorem pad_inj {width : Nat} {m n : Int} (hm : 0 ≤ m) (hn : 0 ≤ n)
    (h : (pad width m).toList = (pad width n).toList) : m = n := by
  have hvalue := congrArg ofDigits h
  rw [toList_pad width hm, toList_pad width hn, ofDigits_zeros_append, ofDigits_zeros_append,
    ofDigits_toDigits, ofDigits_toDigits] at hvalue
  omega

/-- A padded number is read off the front of a text. -/
theorem pad_append_inj {width : Nat} (hwidth : 0 < width) {m n : Int} (hm : 0 ≤ m)
    (hm' : m < 10 ^ width) (hn : 0 ≤ n) (hn' : n < 10 ^ width) {r r' : List Char}
    (h : (pad width m).toList ++ r = (pad width n).toList ++ r') : m = n ∧ r = r' := by
  obtain ⟨hpad, hrest⟩ := List.append_inj h (by
    rw [length_pad hm hwidth hm', length_pad hn hwidth hn'])
  exact ⟨pad_inj hm hn hpad, hrest⟩

/-! ## Dates -/

namespace IsoDate

def era (d : Date) : Int := (d + 719468) / 146097

def dayOfEra (d : Date) : Int := d + 719468 - era d * 146097

def yearOfEra (doe : Int) : Int := (doe - doe / 1460 + doe / 36524 - doe / 146096) / 365

def dayOfYear (doe : Int) : Int :=
  doe - (365 * yearOfEra doe + yearOfEra doe / 4 - yearOfEra doe / 100)

/-- The month, counted from March. -/
def monthIndex (doy : Int) : Int := (5 * doy + 2) / 153

def month (doy : Int) : Int :=
  if monthIndex doy < 10 then monthIndex doy + 3 else monthIndex doy - 9

def day (doy : Int) : Int := doy - (153 * monthIndex doy + 2) / 5 + 1

def year (d : Date) : Int :=
  yearOfEra (dayOfEra d) + era d * 400 + (if month (dayOfYear (dayOfEra d)) ≤ 2 then 1 else 0)

/-- Four centuries are three of 36524 days and one of a day more; a century is 4-year cycles of
1461 days. -/
theorem yearOfEra_eq {doe k q s : Int} (hk0 : 0 ≤ k) (hk : k ≤ 3) (hq0 : 0 ≤ q) (hq : q ≤ 24)
    (hs0 : 0 ≤ s) (hs : s ≤ 1460) (hcentury : 1461 * q + s < 36524)
    (hdoe : doe = 36524 * k + 1461 * q + s) :
    yearOfEra doe = 100 * k + 4 * q + min (s / 365) 3 := by
  have hcenturies : doe / 36524 = k := by omega
  have hlast : doe / 146096 = 0 := by omega
  have hfours : doe / 1460 = 25 * k + q + (24 * k + q + s) / 1460 := by omega
  unfold yearOfEra
  rw [hcenturies, hlast, hfours]
  omega

/-- A day of an era is within one of its years. -/
theorem dayOfYear_bounds {doe : Int} (h0 : 0 ≤ doe) (h : doe < 146097) :
    0 ≤ yearOfEra doe ∧ yearOfEra doe ≤ 399 ∧ 0 ≤ dayOfYear doe ∧ dayOfYear doe ≤ 365 := by
  rcases (show doe < 146096 ∨ doe = 146096 by omega) with hlt | rfl
  · have hyear : yearOfEra doe = 100 * (doe / 36524) + 4 * (doe % 36524 / 1461)
        + min (doe % 36524 % 1461 / 365) 3 :=
      yearOfEra_eq (by omega) (by omega) (by omega) (by omega) (by omega) (by omega)
        (by omega) (by omega)
    have hfours : yearOfEra doe / 4 = 25 * (doe / 36524) + doe % 36524 / 1461 := by omega
    have hcenturies : yearOfEra doe / 100 = doe / 36524 := by omega
    unfold dayOfYear
    rw [hfours, hcenturies, hyear]
    omega
  · decide

theorem dayOfEra_bounds (d : Date) : 0 ≤ dayOfEra d ∧ dayOfEra d < 146097 := by
  unfold dayOfEra era
  simp only [Date] at *
  omega

/-- **Year, month and day determine a date.** -/
theorem date_inj {d d' : Date} (hyear : year d = year d')
    (hmonth : month (dayOfYear (dayOfEra d)) = month (dayOfYear (dayOfEra d')))
    (hday : day (dayOfYear (dayOfEra d)) = day (dayOfYear (dayOfEra d'))) : d = d' := by
  obtain ⟨hy0, hy, hd0, hd⟩ := dayOfYear_bounds (dayOfEra_bounds d).1 (dayOfEra_bounds d).2
  obtain ⟨hy0', hy', hd0', hd'⟩ := dayOfYear_bounds (dayOfEra_bounds d').1 (dayOfEra_bounds d').2
  -- the day of the year, from the month and the day
  have hindex : monthIndex (dayOfYear (dayOfEra d)) = monthIndex (dayOfYear (dayOfEra d')) := by
    unfold month monthIndex at *
    split at hmonth <;> split at hmonth <;> omega
  have hdayOfYear : dayOfYear (dayOfEra d) = dayOfYear (dayOfEra d') := by
    unfold day at hday
    rw [hindex] at hday
    omega
  -- the era and the year in it, from the year
  have hyears : yearOfEra (dayOfEra d) = yearOfEra (dayOfEra d') ∧ era d = era d' := by
    unfold year at hyear
    rw [hmonth] at hyear
    omega
  have hdayOfEra : dayOfEra d = dayOfEra d' := by
    unfold dayOfYear at hdayOfYear
    rw [hyears.1] at hdayOfYear
    omega
  unfold dayOfEra at hdayOfEra
  rw [hyears.2] at hdayOfEra
  simp only [Date] at *
  omega

theorem month_bounds {doy : Int} (h0 : 0 ≤ doy) (h : doy ≤ 365) :
    1 ≤ month doy ∧ month doy ≤ 12 := by
  unfold month monthIndex
  split <;> omega

theorem day_bounds (doy : Int) : 1 ≤ day doy ∧ day doy ≤ 31 := by
  unfold day monthIndex
  omega

/-- From the first day of year 1 to the last of year 9999, a year has four digits. -/
theorem year_bounds {d : Date} (hlo : -719162 ≤ d) (hhi : d ≤ 2932896) :
    0 ≤ year d ∧ year d < 10000 := by
  obtain ⟨hdoe0, hdoe⟩ := dayOfEra_bounds d
  obtain ⟨hy0, hy, hd0, hd⟩ := dayOfYear_bounds hdoe0 hdoe
  have hera : 0 ≤ era d ∧ era d ≤ 24 := by
    unfold era
    simp only [Date] at *
    omega
  refine ⟨?_, ?_⟩
  · unfold year
    split <;> omega
  · -- the last days of the last era would be of the year after
    unfold year
    split
    · rename_i hearly
      have hlate : 306 ≤ dayOfYear (dayOfEra d) := by
        unfold month monthIndex at hearly
        split at hearly <;> omega
      by_contra hge
      have hlastYear : yearOfEra (dayOfEra d) = 399 := by omega
      have hlastEra : era d = 24 := by omega
      unfold dayOfYear at hlate
      rw [hlastYear] at hlate
      unfold dayOfEra at hlate
      rw [hlastEra] at hlate
      simp only [Date] at *
      omega
    · omega

end IsoDate

/-! ## Instants -/

/-- The parts of an instant's text, one behind the other. -/
theorem toList_isoTime (t : UtcDatetime) : (isoTime t).toList
    = (pad 4 (IsoDate.year (t / days 1))).toList
      ++ '-' :: ((pad 2 (IsoDate.month (IsoDate.dayOfYear (IsoDate.dayOfEra (t / days 1))))).toList
      ++ '-' :: ((pad 2 (IsoDate.day (IsoDate.dayOfYear (IsoDate.dayOfEra (t / days 1))))).toList
      ++ 'T' :: ((pad 2 (t % days 1 / hours 1)).toList
      ++ ':' :: ((pad 2 (t % days 1 / minutes 1 % 60)).toList
      ++ ':' :: ((pad 2 (t % days 1 / seconds 1 % 60)).toList
      ++ ((if t % days 1 % seconds 1 = 0 then [] else '.' :: (pad 6 (t % days 1 % seconds 1)).toList)
      ++ "+00:00".toList)))))) := by
  have hdate : isoDate (t / days 1) = pad 4 (IsoDate.year (t / days 1)) ++ "-"
      ++ pad 2 (IsoDate.month (IsoDate.dayOfYear (IsoDate.dayOfEra (t / days 1)))) ++ "-"
      ++ pad 2 (IsoDate.day (IsoDate.dayOfYear (IsoDate.dayOfEra (t / days 1)))) := rfl
  unfold isoTime
  rw [hdate]
  dsimp only
  split <;> simp [String.toList_append]

theorem representable_date {t : UtcDatetime} (ht : PyDatetime.Representable t) :
    -719162 ≤ t / days 1 ∧ t / days 1 ≤ 2932896 := by
  have hday : days 1 = 86400000000 := rfl
  have hfirst : days (-719162) = -719162 * 86400000000 := rfl
  have hlast : days 2932897 = 2932897 * 86400000000 := rfl
  obtain ⟨hlo, hhi⟩ := ht
  rw [hfirst] at hlo
  rw [hlast] at hhi
  rw [hday]
  simp only [UtcDatetime, Timedelta] at *
  omega

/-- The fraction of a second ends where the offset begins. -/
theorem fraction_inj {f f' : Int} (hf : 0 ≤ f) (hg : 0 ≤ f')
    (h : (if f = 0 then [] else '.' :: (pad 6 f).toList) ++ "+00:00".toList
      = (if f' = 0 then [] else '.' :: (pad 6 f').toList) ++ "+00:00".toList) : f = f' := by
  have hfraction := List.append_cancel_right h
  split at hfraction
  · split at hfraction
    · omega
    · cases hfraction
  · split at hfraction
    · cases hfraction
    · exact pad_inj hf hg (List.cons.inj hfraction).2

/-- **The text of an instant determines it.** -/
theorem isoTime_inj {t t' : UtcDatetime} (ht : PyDatetime.Representable t)
    (ht' : PyDatetime.Representable t') (h : (isoTime t).toList = (isoTime t').toList) : t = t' := by
  obtain ⟨hlo, hhi⟩ := representable_date ht
  obtain ⟨hlo', hhi'⟩ := representable_date ht'
  obtain ⟨hy, hy'⟩ := IsoDate.year_bounds hlo hhi
  obtain ⟨hz, hz'⟩ := IsoDate.year_bounds hlo' hhi'
  have hmonths : ∀ d : Date, 0 ≤ IsoDate.month (IsoDate.dayOfYear (IsoDate.dayOfEra d))
      ∧ IsoDate.month (IsoDate.dayOfYear (IsoDate.dayOfEra d)) < 10 ^ 2 := by
    intro d
    obtain ⟨hdoe0, hdoe⟩ := IsoDate.dayOfEra_bounds d
    obtain ⟨-, -, hd0, hd⟩ := IsoDate.dayOfYear_bounds hdoe0 hdoe
    have := IsoDate.month_bounds hd0 hd
    omega
  have hdays : ∀ doy : Int, 0 ≤ IsoDate.day doy ∧ IsoDate.day doy < 10 ^ 2 := by
    intro doy
    have := IsoDate.day_bounds doy
    omega
  have hday : days 1 = 86400000000 := rfl
  have hhour : hours 1 = 3600000000 := rfl
  have hminute : minutes 1 = 60000000 := rfl
  have hsecond : seconds 1 = 1000000 := rfl
  have hin := Int.emod_nonneg t (show (86400000000 : Int) ≠ 0 by decide)
  have hin' := Int.emod_lt_of_pos t (show (0 : Int) < 86400000000 by decide)
  have hjn := Int.emod_nonneg t' (show (86400000000 : Int) ≠ 0 by decide)
  have hjn' := Int.emod_lt_of_pos t' (show (0 : Int) < 86400000000 by decide)
  rw [toList_isoTime, toList_isoTime] at h
  obtain ⟨hyear, h⟩ := pad_append_inj (by decide) hy (by omega) hz (by omega) h
  obtain ⟨hmonth, h⟩ := pad_append_inj (by decide) (hmonths _).1 (hmonths _).2 (hmonths _).1
    (hmonths _).2 (List.cons.inj h).2
  obtain ⟨hdate, h⟩ := pad_append_inj (by decide) (hdays _).1 (hdays _).2 (hdays _).1 (hdays _).2
    (List.cons.inj h).2
  have hsame := IsoDate.date_inj hyear hmonth hdate
  rw [hday, hhour, hminute, hsecond] at h
  rw [hday] at hsame
  obtain ⟨hhours, h⟩ := pad_append_inj (by decide) (by omega) (by omega) (by omega) (by omega)
    (List.cons.inj h).2
  obtain ⟨hminutes, h⟩ := pad_append_inj (by decide) (by omega) (by omega) (by omega) (by omega)
    (List.cons.inj h).2
  obtain ⟨hseconds, h⟩ := pad_append_inj (by decide) (by omega) (by omega) (by omega) (by omega)
    (List.cons.inj h).2
  have hfraction := fraction_inj (by omega) (by omega) h
  simp only [UtcDatetime, Date] at *
  omega

end Crumblr
