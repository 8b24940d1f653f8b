import Mathlib.Data.List.Induction
import Crumblr.Lib.DecimalValue
import Crumblr.MarketData.Pipeline
import Crumblr.Proof.AtMostOnce

/-!
# Bars lose and invent nothing

The usable ticks of a stream are the first of each id, less the crossed ones. The screening
keeps them; the grouping puts each into the interval it happened in; and the bar of an interval
is made of the ticks there. Between bars that are not next to each other the missing intervals
are counted.
-/

namespace Crumblr.Pipeline

/-- Not crossed, and the first of its id. -/
def usableTicks (ticks : List VolumeTick) : List VolumeTick :=
  (Grouping.firstOccurrences (fun tick => tick.tickId.text) ticks).filter
    fun tick => ¬ tick.ask.val < tick.bid.val

theorem usableTicks_append (ticks : List VolumeTick) (tick : VolumeTick) :
    usableTicks (ticks ++ [tick]) = usableTicks ticks
      ++ if tick.tickId.text ∈ ticks.map (·.tickId.text) ∨ tick.ask.val < tick.bid.val then []
        else [tick] := by
  unfold usableTicks
  rw [Grouping.firstOccurrences_append, List.filter_append]
  congr 1
  by_cases hseen : tick.tickId.text ∈ ticks.map (·.tickId.text)
  · simp only [hseen, if_true, true_or, List.filter_nil]
  · by_cases hcrossed : tick.ask.val < tick.bid.val <;>
      simp [hseen, hcrossed, -Subtype.coe_lt_coe]

/-! ## Screening -/

/-- What a screening is after some ticks. -/
structure Screened (ticks : List VolumeTick) (s : Screening) : Prop where
  kept : s.kept = usableTicks ticks
  seen : ∀ id, id ∈ s.seenIds ↔ id ∈ ticks.map (·.tickId.text)
  /-- The latest time is that of a tick that was kept, and none is later. -/
  latest : ∀ p, s.previous = some p → ∃ t ∈ s.kept, t.eventTimeUtc = p
  bound : ∀ t ∈ s.kept, ∃ p, s.previous = some p ∧ t.eventTimeUtc ≤ p
  /-- No interval is missed while ticks are screened. -/
  noGap : ∀ o ∈ s.observations, o.anomaly ≠ .gap

variable {ticks : List VolumeTick} {s : Screening} {tick : VolumeTick}

theorem arrivedLate_eq_some {previous : Option UtcDatetime} {p : UtcDatetime} :
    arrivedLate previous tick = some p ↔ previous = some p ∧ tick.eventTimeUtc < p := by
  simp [arrivedLate, Option.filter_eq_some_iff]

/-- **Each tick is screened as the stream before it asks.** -/
theorem Screened.step (h : Screened ticks s) (tick : VolumeTick) :
    Screened (ticks ++ [tick]) (screenTick s tick) := by
  have hids : ∀ id, id ∈ tick.tickId.text :: s.seenIds
      ↔ id ∈ (ticks ++ [tick]).map (·.tickId.text) := by
    intro id
    rw [List.mem_cons, h.seen, List.map_append, List.mem_append, List.map_singleton,
      List.mem_singleton, or_comm]
  have hnoGap : ∀ (anomaly : StreamAnomaly) (detail : String), anomaly ≠ .gap →
      ∀ o ∈ s.observations ++ [⟨anomaly, tick.eventTimeUtc, detail⟩], o.anomaly ≠ .gap := by
    intro anomaly detail hne o ho
    rcases List.mem_append.mp ho with hold | hnew
    · exact h.noGap o hold
    · rw [List.mem_singleton.mp hnew]
      exact hne
  unfold screenTick
  dsimp only
  by_cases hseen : tick.tickId.text ∈ s.seenIds
  · rw [if_pos hseen]
    have hagain := (h.seen _).mp hseen
    refine ⟨?_, fun id => ?_, h.latest, h.bound, hnoGap _ _ nofun⟩
    · rw [h.kept, usableTicks_append, if_pos (.inl hagain), List.append_nil]
    · rw [← hids, List.mem_cons]
      refine ⟨.inr, fun hid => ?_⟩
      rcases hid with rfl | hid
      · exact hseen
      · exact hid
  · have hfirst : tick.tickId.text ∉ ticks.map (·.tickId.text) := fun hmem =>
      hseen ((h.seen _).mpr hmem)
    rw [if_neg hseen]
    by_cases hcrossed : tick.ask.val < tick.bid.val
    · rw [if_pos hcrossed]
      refine ⟨?_, hids, h.latest, h.bound, hnoGap _ _ nofun⟩
      rw [h.kept, usableTicks_append, if_pos (.inr hcrossed), List.append_nil]
    · have hkept : s.kept ++ [tick] = usableTicks (ticks ++ [tick]) := by
        rw [h.kept, usableTicks_append, if_neg (not_or.mpr ⟨hfirst, hcrossed⟩)]
      rw [if_neg hcrossed]
      split
      · rename_i p hlate
        obtain ⟨hprevious, hbefore⟩ := arrivedLate_eq_some.mp hlate
        refine ⟨hkept, hids, fun q hq => ?_, fun t ht => ?_, hnoGap _ _ nofun⟩
        · obtain ⟨t, ht, htime⟩ := h.latest q hq
          exact ⟨t, List.mem_append_left _ ht, htime⟩
        · rcases List.mem_append.mp ht with hold | hnew
          · exact h.bound t hold
          · rw [List.mem_singleton.mp hnew]
            exact ⟨p, hprevious, hbefore.le⟩
      · rename_i hontime
        refine ⟨hkept, hids, fun q hq => ?_, fun t ht => ?_, h.noGap⟩
        · cases hq
          exact ⟨tick, List.mem_append_right _ (List.mem_singleton.mpr rfl), rfl⟩
        · refine ⟨_, rfl, ?_⟩
          rcases List.mem_append.mp ht with hold | hnew
          · -- what was kept before is no later than the latest, and this tick is not before it
            obtain ⟨p, hprevious, hle⟩ := h.bound t hold
            have hnot : ¬ tick.eventTimeUtc < p := fun hlt => by
              rw [arrivedLate_eq_some.mpr ⟨hprevious, hlt⟩] at hontime
              cases hontime
            exact hle.trans (not_lt.mp hnot)
          · rw [List.mem_singleton.mp hnew]

/-- **The screening keeps the usable ticks.** -/
theorem screened (ticks : List VolumeTick) : Screened ticks (screen ticks) := by
  induction ticks using List.reverseRecOn with
  | nil => exact ⟨rfl, by simp [screen], by simp [screen], by simp [screen], by simp [screen]⟩
  | append_singleton ticks tick ih =>
      have hstep := ih.step tick
      rwa [show screenTick (screen ticks) tick = screen (ticks ++ [tick]) by
        simp [screen]] at hstep

/-! ## One bar -/

theorem price_pos (basis : PriceBasis) (tick : VolumeTick) : 0 < price basis tick := by
  cases basis with
  | bid => exact tick.bid.property
  | ask => exact tick.ask.property
  | mid => exact Decimal.div_pos (Decimal.add_pos tick.bid.property tick.ask.property) (by decide)

theorem createBar_ok {openTimeUtc : UtcDatetime} {openPrice high low close : Decimal}
    {tickVolume : Nat} {realVolume : Option Nat} {spreadPoints : Int} {b : Bar}
    (h : createBar openTimeUtc openPrice high low close tickVolume realVolume spreadPoints
      = .ok b) :
    b.openTimeUtc = openTimeUtc ∧ b.openPrice.val = openPrice ∧ b.high.val = high
      ∧ b.low.val = low ∧ b.close.val = close := by
  unfold createBar at h
  split at h
  · split at h
    · cases h
    · split at h
      · cases h
      · split at h
        · cases h
        · split at h
          · cases h
          · cases h
            exact ⟨rfl, rfl, rfl, rfl, rfl⟩
  · cases h

/-- Positive prices in their order make a bar. -/
theorem createBar_exists (openTimeUtc : UtcDatetime) {openPrice high low close : Decimal}
    (tickVolume : Nat) (realVolume : Option Nat) {spreadPoints : Int} (hspread : 0 ≤ spreadPoints)
    (hopen : 0 < openPrice) (hlow : 0 < low) (hclose : 0 < close) (hol : low ≤ openPrice)
    (hcl : low ≤ close) (hoh : openPrice ≤ high) (hch : close ≤ high) :
    ∃ b, createBar openTimeUtc openPrice high low close tickVolume realVolume spreadPoints
      = .ok b := by
  unfold createBar
  rw [dif_pos ⟨hopen, lt_of_lt_of_le hopen hoh, hlow, hclose⟩, if_neg (by omega),
    dif_neg (Decimal.not_lt.mpr (le_trans hol hoh)),
    dif_neg (Decimal.not_lt.mpr (Decimal.max_le hoh hch)),
    dif_neg (Decimal.not_lt.mpr (Decimal.le_min' hol hcl))]
  exact ⟨_, rfl⟩

theorem priceToPoints_nonneg {distance point : Decimal} {n : Int} (hdistance : 0 ≤ distance)
    (h : priceToPoints distance point = .ok n) : 0 ≤ n := by
  unfold priceToPoints at h
  split at h
  · cases h
  · rename_i hpoint
    split at h
    · rename_i q hq
      cases h
      have hquotient := Decimal.div_nonneg hdistance (Decimal.not_le.mp hpoint)
      have hcoeff := Decimal.coeff_quantize_nonneg (Decimal.nonneg_iff_coeff.mp hquotient) hq
      unfold Decimal.toInt
      positivity
    · cases h

instance : IsTrans VolumeTick Before where
  trans := by
    rintro a b c (hab | ⟨hab, htext⟩) (hbc | ⟨hbc, htext'⟩)
    · exact .inl (hab.trans hbc)
    · exact .inl (hbc ▸ hab)
    · exact .inl (hab ▸ hbc)
    · exact .inr ⟨hab.trans hbc, String.le_trans htext htext'⟩

instance : Std.Total (α := VolumeTick) Before where
  total := by
    intro a b
    rcases lt_trichotomy a.eventTimeUtc b.eventTimeUtc with hlt | heq | hgt
    · exact .inl (.inl hlt)
    · rcases String.le_total a.tickId.text b.tickId.text with hle | hle
      · exact .inl (.inr ⟨heq, hle⟩)
      · exact .inr (.inr ⟨heq.symm, hle⟩)
    · exact .inr (.inl hgt)

theorem Before.time {a b : VolumeTick} (h : Before a b) : a.eventTimeUtc ≤ b.eventTimeUtc := by
  rcases h with h | ⟨h, -⟩
  · exact h.le
  · exact h.le

/-- The spread a bar closes with can be told in points. -/
def SpreadFits (target : Target) (ticks : List VolumeTick) : Prop :=
  ∀ last ∈ (ticks.insertionSort Before).getLast?, ∃ n, closingSpread target last = .ok n

variable [Externals] {target : Target} {openTime : UtcDatetime} {gapped : Bool}

/-- What a bar says of the ticks of its interval. -/
structure BuiltFrom (target : Target) (ticks : List VolumeTick) (openTime : UtcDatetime)
    (b : MarketBar) : Prop where
  id : b.barId = barIdentity target.source target.spec.canonicalSymbol target.timeframe openTime
  opens : b.bar.openTimeUtc = openTime
  count : b.tickCount = some ticks.length
  /-- It opens at the price of its earliest tick and closes at that of its latest. -/
  first : ∃ t ∈ ticks, (∀ t' ∈ ticks, t.eventTimeUtc ≤ t'.eventTimeUtc)
    ∧ b.bar.openPrice.val = price target.basis t
  last : ∃ t ∈ ticks, (∀ t' ∈ ticks, t'.eventTimeUtc ≤ t.eventTimeUtc)
    ∧ b.bar.close.val = price target.basis t
  /-- Its range is that of its ticks. -/
  high : (∃ t ∈ ticks, b.bar.high.val = price target.basis t)
    ∧ ∀ t ∈ ticks, price target.basis t ≤ b.bar.high.val
  low : (∃ t ∈ ticks, b.bar.low.val = price target.basis t)
    ∧ ∀ t ∈ ticks, b.bar.low.val ≤ price target.basis t
  /-- It is marked when its ticks did not arrive in order. -/
  marked : .outOfOrder ∈ b.anomalies ↔ outOfOrder ticks = true
  quality : outOfOrder ticks = true → b.dataQuality ≠ .good

omit [Externals] in
/-- The last of a sorted list is the latest. -/
theorem latest_of_sorted {first : VolumeTick} {rest : List VolumeTick}
    (h : (first :: rest).Pairwise Before) :
    (first :: rest).getLastD first ∈ first :: rest
      ∧ ∀ t ∈ first :: rest, t.eventTimeUtc ≤ ((first :: rest).getLastD first).eventTimeUtc := by
  have hlast : (first :: rest).getLastD first = (first :: rest).getLast (List.cons_ne_nil _ _) := rfl
  rw [hlast]
  refine ⟨List.getLast_mem _, fun t ht => ?_⟩
  rcases List.mem_iff_getElem.mp ht with ⟨i, hi, rfl⟩
  rw [List.getLast_eq_getElem]
  rcases Nat.lt_or_ge i ((first :: rest).length - 1) with hlt | hge
  · exact (List.pairwise_iff_getElem.mp h i _ hi (by omega) hlt).time
  · have heq : i = (first :: rest).length - 1 := by omega
    subst heq
    exact le_refl _

/-- **A bar is made of the ticks it was built from.** -/
theorem buildBar_ok {b : MarketBar} (h : buildBar target ticks openTime gapped = .ok b) :
    BuiltFrom target ticks openTime b := by
  have hperm := List.perm_insertionSort Before ticks
  have hsorted := List.pairwise_insertionSort Before ticks
  unfold buildBar at h
  cases hcases : ticks.insertionSort Before with
  | nil =>
      rw [hcases] at h
      cases h
  | cons first rest =>
      rw [hcases] at h hperm hsorted
      obtain ⟨spreadPoints, -, h⟩ := bind_ok h
      obtain ⟨bar, hbar, h⟩ := bind_ok h
      cases h
      obtain ⟨hopens, hfirst, hhigh, hlow, hclose⟩ := createBar_ok hbar
      obtain ⟨hlastMem, hlastTime⟩ := latest_of_sorted hsorted
      have hprices : ∀ x, x ∈ price target.basis first :: rest.map (price target.basis)
          ↔ ∃ t ∈ ticks, x = price target.basis t := by
        intro x
        rw [← List.map_cons, List.mem_map]
        constructor
        · rintro ⟨t, ht, rfl⟩
          exact ⟨t, hperm.mem_iff.mp ht, rfl⟩
        · rintro ⟨t, ht, rfl⟩
          exact ⟨t, hperm.mem_iff.mpr ht, rfl⟩
      obtain ⟨hmaxMem, hmaxLe⟩ := Decimal.foldl_max (price target.basis first)
        (rest.map (price target.basis))
      obtain ⟨hminMem, hminLe⟩ := Decimal.foldl_min (price target.basis first)
        (rest.map (price target.basis))
      exact {
        id := rfl
        opens := hopens
        count := congrArg some hperm.length_eq
        first := by
          refine ⟨first, hperm.mem_iff.mp List.mem_cons_self, fun t ht => ?_, hfirst⟩
          rcases List.mem_cons.mp (hperm.mem_iff.mpr ht) with rfl | hin
          · exact le_refl _
          · exact (List.rel_of_pairwise_cons hsorted hin).time
        last := ⟨_, hperm.mem_iff.mp hlastMem,
          fun t ht => hlastTime t (hperm.mem_iff.mpr ht), hclose⟩
        high := by
          rw [hhigh]
          exact ⟨(hprices _).mp hmaxMem, fun t ht => hmaxLe _ ((hprices _).mpr ⟨t, ht, rfl⟩)⟩
        low := by
          rw [hlow]
          exact ⟨(hprices _).mp hminMem, fun t ht => hminLe _ ((hprices _).mpr ⟨t, ht, rfl⟩)⟩
        marked := by
          cases gapped <;> cases outOfOrder ticks <;> simp
        quality := by
          intro hlate
          simp only [hlate, if_true]
          split <;> nofun }

omit [Externals] in
theorem closingSpread_nonneg {last : VolumeTick} {n : Int} (h : closingSpread target last = .ok n) :
    0 ≤ n := by
  unfold closingSpread at h
  dsimp only at h
  split at h
  · rename_i hpos
    exact priceToPoints_nonneg (le_of_lt hpos) h
  · cases h
    exact le_refl _

/-- **Ticks make a bar exactly when the spread it closes with can be told.** -/
theorem buildBar_exists_iff (hne : ticks ≠ []) :
    (∃ b, buildBar target ticks openTime gapped = .ok b) ↔ SpreadFits target ticks := by
  have hperm := List.perm_insertionSort Before ticks
  have hsorted := List.pairwise_insertionSort Before ticks
  unfold buildBar SpreadFits
  cases hcases : ticks.insertionSort Before with
  | nil =>
      rw [hcases] at hperm
      exact absurd hperm.symm.eq_nil hne
  | cons first rest =>
      rw [hcases] at hsorted
      obtain ⟨hlastMem, -⟩ := latest_of_sorted hsorted
      have hlast : (first :: rest).getLast? = some ((first :: rest).getLastD first) := rfl
      rw [hlast]
      constructor
      · rintro ⟨b, hb⟩ last hmem
        cases hmem
        obtain ⟨n, hn, -⟩ := bind_ok hb
        exact ⟨n, hn⟩
      · intro hfits
        obtain ⟨n, hn⟩ := hfits _ rfl
        obtain ⟨-, hmax⟩ := Decimal.foldl_max (price target.basis first)
          (rest.map (price target.basis))
        obtain ⟨hminMem, hmin⟩ := Decimal.foldl_min (price target.basis first)
          (rest.map (price target.basis))
        have hclose : price target.basis ((first :: rest).getLastD first)
            ∈ price target.basis first :: rest.map (price target.basis) := by
          rw [← List.map_cons]
          exact List.mem_map_of_mem hlastMem
        have hlow : 0 < (rest.map (price target.basis)).foldl Decimal.min
            (price target.basis first) := by
          rw [← List.map_cons] at hminMem
          obtain ⟨t, -, ht⟩ := List.mem_map.mp hminMem
          rw [← ht]
          exact price_pos _ t
        obtain ⟨bar, hbar⟩ := createBar_exists openTime (first :: rest).length
          (if ((first :: rest).filterMap (·.volume)).sum = 0 then none
            else some ((first :: rest).filterMap (·.volume)).sum)
          (closingSpread_nonneg hn) (price_pos _ first) hlow (price_pos _ _)
          (hmin _ List.mem_cons_self) (hmin _ hclose) (hmax _ List.mem_cons_self)
          (hmax _ hclose)
        simp only [hn, hbar, bind, Except.bind]
        exact ⟨_, rfl⟩

/-! ## The bars of a stream -/

/-- The reports of the intervals missing between opening times. -/
def gapsBetween (interval : Timedelta) (timeframe : String) :
    Option UtcDatetime → List UtcDatetime → List StreamObservation
  | _, [] => []
  | previousOpen, openTime :: rest =>
      gapBefore interval timeframe previousOpen openTime
        ++ gapsBetween interval timeframe (some openTime) rest

variable {interval : Timedelta} {buckets : List (UtcDatetime × List VolumeTick)}

omit [Externals] in
theorem gapsBetween_anomaly {timeframe : String} {previousOpen : Option UtcDatetime}
    {opens : List UtcDatetime} {o : StreamObservation}
    (h : o ∈ gapsBetween interval timeframe previousOpen opens) : o.anomaly = .gap := by
  induction opens generalizing previousOpen with
  | nil => cases h
  | cons openTime rest ih =>
      rcases List.mem_append.mp h with hhere | hrest
      · unfold gapBefore at hhere
        split at hhere
        · cases hhere
        · dsimp only at hhere
          split at hhere
          · cases hhere
          · rw [List.mem_singleton.mp hhere]
            rfl
      · exact ih hrest

/-- **The loop builds a bar for each opening time, and reports what is missing between them.** -/
theorem buildBars_ok {previousOpen : Option UtcDatetime} {opens : List UtcDatetime}
    {bars : List MarketBar} {observations : List StreamObservation}
    {built : List MarketBar × List StreamObservation}
    (h : buildBars target interval buckets previousOpen opens bars observations = .ok built) :
    ∃ new, built.1 = bars ++ new ∧ new.map (·.bar.openTimeUtc) = opens
      ∧ built.2 = observations ++ gapsBetween interval target.timeframe previousOpen opens
      ∧ ∀ b ∈ new, BuiltFrom target (Grouping.members buckets b.bar.openTimeUtc)
          b.bar.openTimeUtc b := by
  induction opens generalizing previousOpen bars observations with
  | nil =>
      cases h
      exact ⟨[], by simp, rfl, by simp [gapsBetween],
        fun b hb => absurd hb List.not_mem_nil⟩
  | cons openTime rest ih =>
      unfold buildBars at h
      obtain ⟨b, hb, h⟩ := bind_ok h
      obtain ⟨new, hbars, hopens, hobservations, hall⟩ := ih h
      have hbuilt : BuiltFrom target (Grouping.members buckets openTime) openTime b :=
        buildBar_ok hb
      refine ⟨b :: new, ?_, ?_, ?_, fun b' hb' => ?_⟩
      · rw [hbars, List.append_assoc]
        rfl
      · rw [List.map_cons, hopens, hbuilt.opens]
      · rw [hobservations, List.append_assoc]
        rfl
      · rcases List.mem_cons.mp hb' with rfl | hnew
        · rw [hbuilt.opens]
          exact hbuilt
        · exact hall b' hnew

theorem buildBars_exists_iff {previousOpen : Option UtcDatetime} {opens : List UtcDatetime}
    {bars : List MarketBar} {observations : List StreamObservation}
    (hne : ∀ openTime ∈ opens, Grouping.members buckets openTime ≠ []) :
    (∃ built, buildBars target interval buckets previousOpen opens bars observations = .ok built)
      ↔ ∀ openTime ∈ opens, SpreadFits target (Grouping.members buckets openTime) := by
  induction opens generalizing previousOpen bars observations with
  | nil => exact ⟨fun _ => nofun, fun _ => ⟨_, rfl⟩⟩
  | cons openTime rest ih =>
      obtain ⟨hhead, htail⟩ := List.forall_mem_cons.mp hne
      unfold buildBars
      rw [List.forall_mem_cons]
      constructor
      · rintro ⟨built, hbuilt⟩
        obtain ⟨b, hb, hrest⟩ := bind_ok hbuilt
        exact ⟨(buildBar_exists_iff hhead).mp ⟨b, hb⟩, (ih htail).mp ⟨built, hrest⟩⟩
      · rintro ⟨hfits, hrest⟩
        have hexists : ∃ b, buildBar target (Grouping.members buckets openTime) openTime
            (decide (missingBefore interval previousOpen openTime ≠ 0)) = .ok b :=
          (buildBar_exists_iff hhead).mpr hfits
        obtain ⟨b, hb⟩ := hexists
        simp only [hb, bind, Except.bind]
        exact (ih htail).mpr hrest

/-! ## The intervals of the clock -/

omit [Externals] in
theorem intervalFor_pos {timeframe : String} (h : intervalFor timeframe = .ok interval) :
    0 < interval := by
  unfold intervalFor at h
  split at h
  · rename_i known hknown
    cases h
    have hmem := List.mem_of_find?_eq_some hknown
    simp only [timeframes, List.mem_cons, List.not_mem_nil, or_false] at hmem
    rcases hmem with rfl | rfl | rfl | rfl | rfl | rfl | rfl <;> decide
  · cases h

/-- The moment is within the interval that opens then. -/
def InInterval (interval : Timedelta) (openTime moment : UtcDatetime) : Prop :=
  openTime ≤ moment ∧ moment < openTime + interval

omit [Externals] in
theorem bucketStart_aligned (moment : UtcDatetime) : interval ∣ bucketStart interval moment :=
  Int.dvd_mul_left ..

omit [Externals] in
/-- **A moment is within one interval of the clock.** -/
theorem inInterval_iff (hpos : 0 < interval) {openTime moment : UtcDatetime}
    (haligned : interval ∣ openTime) :
    InInterval interval openTime moment ↔ bucketStart interval moment = openTime := by
  obtain ⟨k, rfl⟩ := haligned
  have hne : interval ≠ 0 := hpos.ne'
  have hfloor : moment / interval * interval + moment % interval = moment :=
    Int.ediv_mul_add_emod moment interval
  have hlo := Int.emod_nonneg moment hne
  have hhi := Int.emod_lt_of_pos moment hpos
  unfold InInterval bucketStart
  rw [Int.mul_comm interval k]
  constructor
  · rintro ⟨hle, hlt⟩
    have hk : moment / interval = k := by
      refine le_antisymm ?_ ?_
      · refine Int.lt_add_one_iff.mp (Int.ediv_lt_of_lt_mul hpos ?_)
        rw [Int.add_mul, Int.one_mul]
        exact hlt
      · exact Int.le_ediv_of_mul_le hpos hle
    rw [hk]
  · intro heq
    rw [← heq]
    constructor
    · calc moment / interval * interval
          ≤ moment / interval * interval + moment % interval := Int.le_add_of_nonneg_right hlo
        _ = moment := hfloor
    · calc moment = moment / interval * interval + moment % interval := hfloor.symm
        _ < moment / interval * interval + interval := Int.add_lt_add_left hhi _

/-! ## What is missing between bars -/

/--
Opening times and the reports of what is missing between them: two that follow each other are
next to each other, or so many intervals apart as is reported.
-/
inductive GapsReported (interval : Timedelta) (timeframe : String) :
    List UtcDatetime → List StreamObservation → Prop
  | nil : GapsReported interval timeframe [] []
  | single (openTime : UtcDatetime) : GapsReported interval timeframe [openTime] []
  | next {openTime : UtcDatetime} {rest : List UtcDatetime}
      {observations : List StreamObservation} :
      GapsReported interval timeframe ((openTime + interval) :: rest) observations →
      GapsReported interval timeframe (openTime :: (openTime + interval) :: rest) observations
  | gap {openTime : UtcDatetime} {rest : List UtcDatetime}
      {observations : List StreamObservation} (missing : Nat) : 0 < missing →
      GapsReported interval timeframe ((openTime + (missing + 1) * interval) :: rest)
        observations →
      GapsReported interval timeframe
        (openTime :: (openTime + (missing + 1) * interval) :: rest)
        (Pipeline.gap missing timeframe openTime (openTime + (missing + 1) * interval)
          :: observations)

omit [Externals] in
/-- **The gaps that are reported are the intervals that are missing.** -/
theorem gapsReported (hpos : 0 < interval) (timeframe : String) {opens : List UtcDatetime}
    (haligned : ∀ openTime ∈ opens, interval ∣ openTime) (hincreasing : opens.Pairwise (· < ·)) :
    GapsReported interval timeframe opens (gapsBetween interval timeframe none opens) := by
  induction opens with
  | nil => exact .nil
  | cons openTime rest ih =>
      have hrest := ih (fun t ht => haligned t (List.mem_cons_of_mem _ ht))
        (List.Pairwise.of_cons hincreasing)
      cases rest with
      | nil => exact .single openTime
      | cons next rest =>
          -- the two are a whole number of intervals apart
          have hlt : openTime < next := List.rel_of_pairwise_cons hincreasing List.mem_cons_self
          have happart : interval ∣ next - openTime :=
            Int.dvd_sub (haligned next (List.mem_cons_of_mem _ List.mem_cons_self))
              (haligned openTime List.mem_cons_self)
          obtain ⟨k, hk⟩ := happart
          have hkpos : 0 < k := by
            refine Int.pos_of_mul_pos_right (a := interval) ?_ hpos
            rw [← hk]
            exact Int.sub_pos_of_lt hlt
          obtain ⟨missing, rfl⟩ : ∃ missing : Nat, k = missing + 1 := ⟨(k - 1).toNat, by omega⟩
          have hcount : missingIntervals openTime next interval = missing := by
            unfold missingIntervals
            rw [hk, Int.mul_ediv_cancel_left _ hpos.ne']
            omega
          have hnext : next = openTime + (missing + 1) * interval := by
            rw [Int.mul_comm, ← hk, Int.add_comm]
            exact (Int.sub_add_cancel next openTime).symm
          have hgaps : gapsBetween interval timeframe none (openTime :: next :: rest)
              = gapBefore interval timeframe (some openTime) next
                ++ gapsBetween interval timeframe none (next :: rest) := rfl
          rw [hgaps]
          unfold gapBefore
          dsimp only
          rw [hcount]
          cases missing with
          | zero =>
              have hadjacent : next = openTime + interval := by
                rw [hnext]
                simp
              subst hadjacent
              exact .next hrest
          | succ missing =>
              rw [if_neg (by omega)]
              subst hnext
              exact .gap (missing + 1) (Nat.succ_pos _) hrest

/-! ## Aggregation -/

instance (interval : Timedelta) (openTime moment : UtcDatetime) :
    Decidable (InInterval interval openTime moment) :=
  inferInstanceAs (Decidable (_ ∧ _))

/-- The usable ticks of an interval, as they arrived. -/
def ticksWithin (interval : Timedelta) (ticks : List VolumeTick) (openTime : UtcDatetime) :
    List VolumeTick :=
  (usableTicks ticks).filter fun tick => InInterval interval openTime tick.eventTimeUtc

/-- The result accounts for every tick, and for nothing else. -/
structure Aggregated (target : Target) (interval : Timedelta) (ticks : List VolumeTick)
    (r : BarBuildResult) : Prop where
  seen : r.ticksSeen = ticks.length
  used : r.ticksUsed = (usableTicks ticks).length
  counted : (r.bars.map fun b => b.tickCount.getD 0).sum = r.ticksUsed
  /-- Every usable tick has its bar, and each bar is built from the ticks that have it. -/
  placed : ∀ tick ∈ usableTicks ticks,
    ∃! b, b ∈ r.bars ∧ InInterval interval b.bar.openTimeUtc tick.eventTimeUtc
  built : ∀ b ∈ r.bars,
    BuiltFrom target (ticksWithin interval ticks b.bar.openTimeUtc) b.bar.openTimeUtc b
  increasing : (r.bars.map (·.bar.openTimeUtc)).Pairwise (· < ·)
  aligned : ∀ b ∈ r.bars, interval ∣ b.bar.openTimeUtc
  bracketed : ∀ b ∈ r.bars,
    b.bar.low.val ≤ b.bar.openPrice.val ∧ b.bar.openPrice.val ≤ b.bar.high.val
      ∧ b.bar.low.val ≤ b.bar.close.val ∧ b.bar.close.val ≤ b.bar.high.val
  gaps : GapsReported interval target.timeframe (r.bars.map (·.bar.openTimeUtc))
    (r.observations.filter fun o => o.anomaly = .gap)

/-- The opening times of a stream's bars, in order. -/
def opensOf (interval : Timedelta) (ticks : List VolumeTick) : List UtcDatetime :=
  ((Grouping.groups (fun tick => bucketStart interval tick.eventTimeUtc)
    (usableTicks ticks)).map Prod.fst).insertionSort (· ≤ ·)

section

omit [Externals]

theorem mem_opensOf : openTime ∈ opensOf interval ticks
    ↔ ∃ tick ∈ usableTicks ticks, bucketStart interval tick.eventTimeUtc = openTime := by
  rw [opensOf, List.mem_insertionSort, Grouping.mem_keys]

theorem opensOf_increasing (interval : Timedelta) (ticks : List VolumeTick) :
    (opensOf interval ticks).Pairwise (· < ·) := by
  have hsorted := List.pairwise_insertionSort (fun a b : UtcDatetime => a ≤ b)
    ((Grouping.groups (fun tick => bucketStart interval tick.eventTimeUtc)
      (usableTicks ticks)).map Prod.fst)
  have hnodup : (opensOf interval ticks).Nodup :=
    (List.perm_insertionSort _ _).nodup_iff.mpr (Grouping.nodup_keys _)
  exact hsorted.imp₂ (fun a b hle hne => lt_of_le_of_ne hle hne) hnodup

theorem opensOf_aligned (h : openTime ∈ opensOf interval ticks) : interval ∣ openTime := by
  obtain ⟨tick, -, rfl⟩ := mem_opensOf.mp h
  exact bucketStart_aligned tick.eventTimeUtc

/-- The ticks of a group are those of its interval. -/
theorem members_eq (hpos : 0 < interval) (haligned : interval ∣ openTime) :
    Grouping.members (Grouping.groups (fun tick => bucketStart interval tick.eventTimeUtc)
      (usableTicks ticks)) openTime = ticksWithin interval ticks openTime := by
  rw [Grouping.members_groups, ticksWithin]
  refine List.filter_congr fun tick _ => ?_
  rw [decide_eq_decide]
  exact (inInterval_iff hpos haligned).symm

end

/-- The loop over the opening times is all there is to a run. -/
theorem barsFromTicks_eq (h : intervalFor target.timeframe = .ok interval)
    (ticks : List VolumeTick) :
    barsFromTicks target ticks = (do
      let built ← buildBars target interval
        (Grouping.groups (fun tick => bucketStart interval tick.eventTimeUtc) (usableTicks ticks))
        none (opensOf interval ticks) [] (screen ticks).observations
      .ok ⟨built.1, built.2, ticks.length, (usableTicks ticks).length⟩) := by
  have hkept := (screened ticks).kept
  unfold barsFromTicks opensOf
  rw [h]
  dsimp only [bind, Except.bind]
  rw [hkept]
  split
  · rename_i hempty
    rw [List.isEmpty_iff.mp hempty]
    rfl
  · rfl

/-- A run returns exactly when every bar's closing spread can be told in points. -/
theorem barsFromTicks_exists_iff (h : intervalFor target.timeframe = .ok interval) :
    (∃ r, barsFromTicks target ticks = .ok r)
      ↔ ∀ openTime ∈ opensOf interval ticks,
          SpreadFits target (ticksWithin interval ticks openTime) := by
  have hpos := intervalFor_pos h
  have hmembers : ∀ openTime ∈ opensOf interval ticks, Grouping.members
      (Grouping.groups (fun tick => bucketStart interval tick.eventTimeUtc) (usableTicks ticks))
      openTime = ticksWithin interval ticks openTime :=
    fun openTime hopen => members_eq hpos (opensOf_aligned hopen)
  have hne : ∀ openTime ∈ opensOf interval ticks, Grouping.members
      (Grouping.groups (fun tick => bucketStart interval tick.eventTimeUtc) (usableTicks ticks))
      openTime ≠ [] := by
    intro openTime hopen hnil
    obtain ⟨tick, hmem, hstart⟩ := mem_opensOf.mp hopen
    rw [Grouping.members_groups, List.filter_eq_nil_iff] at hnil
    exact hnil tick hmem (decide_eq_true hstart)
  have hloop : (∃ r, barsFromTicks target ticks = .ok r) ↔ ∃ built, buildBars target interval
      (Grouping.groups (fun tick => bucketStart interval tick.eventTimeUtc) (usableTicks ticks))
      none (opensOf interval ticks) [] (screen ticks).observations = .ok built := by
    rw [barsFromTicks_eq h]
    constructor
    · rintro ⟨r, hr⟩
      obtain ⟨built, hbuilt, -⟩ := bind_ok hr
      exact ⟨built, hbuilt⟩
    · rintro ⟨built, hbuilt⟩
      rw [hbuilt]
      exact ⟨_, rfl⟩
  rw [hloop, buildBars_exists_iff hne]
  exact forall₂_congr fun openTime hopen => by rw [hmembers openTime hopen]

omit [Externals] in
/-- An earliest and a latest price are within the range. -/
theorem BuiltFrom.bracketed [Externals] {b : MarketBar}
    (h : BuiltFrom target ticks openTime b) :
    b.bar.low.val ≤ b.bar.openPrice.val ∧ b.bar.openPrice.val ≤ b.bar.high.val
      ∧ b.bar.low.val ≤ b.bar.close.val ∧ b.bar.close.val ≤ b.bar.high.val := by
  obtain ⟨first, hfirst, -, hopen⟩ := h.first
  obtain ⟨last, hlast, -, hclose⟩ := h.last
  rw [hopen, hclose]
  exact ⟨h.low.2 first hfirst, h.high.2 first hfirst, h.low.2 last hlast, h.high.2 last hlast⟩

/-- **A run that returns accounts for its ticks.** -/
theorem barsFromTicks_aggregated {r : BarBuildResult}
    (h : intervalFor target.timeframe = .ok interval) (hr : barsFromTicks target ticks = .ok r) :
    Aggregated target interval ticks r := by
  have hpos := intervalFor_pos h
  rw [barsFromTicks_eq h] at hr
  obtain ⟨built, hbuilt, hr⟩ := bind_ok hr
  cases hr
  obtain ⟨bars, hbars, hopens, hobservations, hall⟩ := buildBars_ok hbuilt
  rw [List.nil_append] at hbars
  subst hbars
  have hmem : ∀ b ∈ built.1, b.bar.openTimeUtc ∈ opensOf interval ticks := by
    intro b hb
    rw [← hopens]
    exact List.mem_map_of_mem hb
  have hincreasing := opensOf_increasing interval ticks
  exact {
    seen := rfl
    used := rfl
    counted := by
      have hcount : ∀ b ∈ built.1, b.tickCount.getD 0
          = ((usableTicks ticks).filter fun tick =>
              bucketStart interval tick.eventTimeUtc = b.bar.openTimeUtc).length := by
        intro b hb
        rw [(hall b hb).count, Grouping.members_groups]
        rfl
      dsimp only
      rw [List.map_congr_left hcount]
      have hcover : ∀ tick ∈ usableTicks ticks,
          bucketStart interval tick.eventTimeUtc ∈ opensOf interval ticks :=
        fun tick htick => mem_opensOf.mpr ⟨tick, htick, rfl⟩
      rw [← Grouping.sum_length (hincreasing.imp fun h => h.ne) hcover, ← hopens, List.map_map]
      rfl
    placed := by
      intro tick htick
      have hopen : bucketStart interval tick.eventTimeUtc ∈ opensOf interval ticks :=
        mem_opensOf.mpr ⟨tick, htick, rfl⟩
      rw [← hopens] at hopen
      obtain ⟨b, hb, hstart⟩ := List.mem_map.mp hopen
      refine ⟨b, ⟨hb, ?_⟩, ?_⟩
      · exact (inInterval_iff hpos (opensOf_aligned (hmem b hb))).mpr hstart.symm
      · rintro b' ⟨hb', hwithin⟩
        have hstart' := (inInterval_iff hpos (opensOf_aligned (hmem b' hb'))).mp hwithin
        rw [← hopens] at hincreasing
        have hnodup : (built.1.map (·.bar.openTimeUtc)).Nodup := hincreasing.imp fun h => h.ne
        exact List.inj_on_of_nodup_map hnodup hb' hb (hstart'.symm.trans hstart.symm)
    built := by
      intro b hb
      have hbuilt := hall b hb
      rwa [members_eq hpos (opensOf_aligned (hmem b hb))] at hbuilt
    increasing := by
      dsimp only
      rw [hopens]
      exact hincreasing
    aligned := fun b hb => opensOf_aligned (hmem b hb)
    bracketed := fun b hb => (hall b hb).bracketed
    gaps := by
      have hscreen : (screen ticks).observations.filter (fun o => o.anomaly = .gap) = [] :=
        List.filter_eq_nil_iff.mpr fun o ho hgap =>
          (screened ticks).noGap o ho (of_decide_eq_true hgap)
      have hbetween : (gapsBetween interval target.timeframe none (opensOf interval ticks)).filter
          (fun o => o.anomaly = .gap)
          = gapsBetween interval target.timeframe none (opensOf interval ticks) :=
        List.filter_eq_self.mpr fun o ho => decide_eq_true (gapsBetween_anomaly ho)
      dsimp only
      rw [hopens, hobservations, List.filter_append, hscreen, hbetween, List.nil_append]
      exact gapsReported hpos target.timeframe (fun t ht => opensOf_aligned ht) hincreasing }

/-! ## Any order of arrival -/

/-- A bar's identity and prices. -/
def identityAndPrices (b : MarketBar) : Uuid × Bar := (b.barId, b.bar)

/-- The identity and prices are those of the ticks in the order of their times. -/
theorem buildBar_identityAndPrices {ticks' : List VolumeTick} {gapped' : Bool}
    (h : ticks.insertionSort Before = ticks'.insertionSort Before) :
    (buildBar target ticks openTime gapped).map identityAndPrices
      = (buildBar target ticks' openTime gapped').map identityAndPrices := by
  unfold buildBar
  rw [← h]
  cases ticks.insertionSort Before with
  | nil => rfl
  | cons first rest =>
      dsimp only [bind, Except.bind]
      cases closingSpread target ((first :: rest).getLastD first) with
      | error e => rfl
      | ok spreadPoints =>
          dsimp only
          split
          · rfl
          · rfl

theorem buildBars_identityAndPrices {buckets' : List (UtcDatetime × List VolumeTick)}
    {previousOpen : Option UtcDatetime} {opens : List UtcDatetime} {bars bars' : List MarketBar}
    {observations observations' : List StreamObservation}
    (h : ∀ openTime ∈ opens, (Grouping.members buckets openTime).insertionSort Before
      = (Grouping.members buckets' openTime).insertionSort Before)
    (hbars : bars.map identityAndPrices = bars'.map identityAndPrices) :
    (buildBars target interval buckets previousOpen opens bars observations).map
        (fun built => built.1.map identityAndPrices)
      = (buildBars target interval buckets' previousOpen opens bars' observations').map
        fun built => built.1.map identityAndPrices := by
  induction opens generalizing previousOpen bars bars' observations observations' with
  | nil => exact congrArg Except.ok hbars
  | cons openTime rest ih =>
      obtain ⟨hhead, htail⟩ := List.forall_mem_cons.mp h
      have hbar : (buildBar target (Grouping.members buckets openTime) openTime
            (decide (missingBefore interval previousOpen openTime ≠ 0))).map identityAndPrices
          = (buildBar target (Grouping.members buckets' openTime) openTime
            (decide (missingBefore interval previousOpen openTime ≠ 0))).map identityAndPrices :=
        buildBar_identityAndPrices hhead
      unfold buildBars
      dsimp only [bind, Except.bind]
      cases hb : buildBar target (Grouping.members buckets openTime) openTime
          (decide (missingBefore interval previousOpen openTime ≠ 0)) with
      | error e =>
          cases hb' : buildBar target (Grouping.members buckets' openTime) openTime
              (decide (missingBefore interval previousOpen openTime ≠ 0)) with
          | error e' =>
              rw [hb, hb'] at hbar
              exact congrArg Except.error (Except.error.inj hbar)
          | ok b' =>
              rw [hb, hb'] at hbar
              cases hbar
      | ok b =>
          cases hb' : buildBar target (Grouping.members buckets' openTime) openTime
              (decide (missingBefore interval previousOpen openTime ≠ 0)) with
          | error e' =>
              rw [hb, hb'] at hbar
              cases hbar
          | ok b' =>
              rw [hb, hb'] at hbar
              refine ih htail ?_
              rw [List.map_append, List.map_append, hbars, List.map_singleton,
                List.map_singleton, Except.ok.inj hbar]

/-- Ids and times by which the ticks of a stream can be told apart. -/
def Distinct (ticks : List VolumeTick) : Prop :=
  (ticks.map (·.tickId.text)).Nodup ∧ (ticks.map (·.eventTimeUtc)).Nodup

section

omit [Externals]

variable {ticks' : List VolumeTick}

theorem usableTicks_perm (h : Distinct ticks) (hperm : ticks.Perm ticks') :
    (usableTicks ticks).Perm (usableTicks ticks') := by
  have hnodup' : (ticks'.map (·.tickId.text)).Nodup := (hperm.map _).nodup_iff.mp h.1
  unfold usableTicks
  rw [Grouping.firstOccurrences_of_nodup h.1, Grouping.firstOccurrences_of_nodup hnodup']
  exact hperm.filter _

theorem mem_of_mem_usableTicks (h : tick ∈ usableTicks ticks) : tick ∈ ticks := by
  induction ticks using List.reverseRecOn with
  | nil => cases h
  | append_singleton ticks last ih =>
      rw [usableTicks_append] at h
      rcases List.mem_append.mp h with hold | hnew
      · exact List.mem_append_left _ (ih hold)
      · split at hnew
        · cases hnew
        · exact List.mem_append_right _ hnew

theorem opensOf_perm (h : Distinct ticks) (hperm : ticks.Perm ticks') :
    opensOf interval ticks = opensOf interval ticks' := by
  have husable := usableTicks_perm h hperm
  refine Grouping.insertionSort_perm ?_ fun a _ b _ hab hba => le_antisymm hab hba
  refine (List.perm_ext_iff_of_nodup (Grouping.nodup_keys _) (Grouping.nodup_keys _)).mpr ?_
  intro openTime
  rw [Grouping.mem_keys, Grouping.mem_keys]
  exact exists_congr fun tick => and_congr_left' husable.mem_iff

/-- The ticks of an interval are the same in the order of their times. -/
theorem members_perm (h : Distinct ticks) (hperm : ticks.Perm ticks') (openTime : UtcDatetime) :
    (Grouping.members (Grouping.groups (fun tick => bucketStart interval tick.eventTimeUtc)
        (usableTicks ticks)) openTime).insertionSort Before
      = (Grouping.members (Grouping.groups (fun tick => bucketStart interval tick.eventTimeUtc)
        (usableTicks ticks')) openTime).insertionSort Before := by
  rw [Grouping.members_groups, Grouping.members_groups]
  refine Grouping.insertionSort_perm ((usableTicks_perm h hperm).filter _) ?_
  intro a ha b hb hab hba
  have htime : a.eventTimeUtc = b.eventTimeUtc := le_antisymm hab.time hba.time
  exact List.inj_on_of_nodup_map h.2 (mem_of_mem_usableTicks (List.mem_of_mem_filter ha))
    (mem_of_mem_usableTicks (List.mem_of_mem_filter hb)) htime

end

/-- The identities and prices of a run's bars. -/
def pricesOf (run : Except PyError BarBuildResult) : Except PyError (List (Uuid × Bar)) :=
  run.map fun r => r.bars.map identityAndPrices

theorem pricesOf_eq (h : intervalFor target.timeframe = .ok interval)
    (ticks : List VolumeTick) :
    pricesOf (barsFromTicks target ticks) = (buildBars target interval
      (Grouping.groups (fun tick => bucketStart interval tick.eventTimeUtc) (usableTicks ticks))
      none (opensOf interval ticks) [] (screen ticks).observations).map
        fun built => built.1.map identityAndPrices := by
  rw [barsFromTicks_eq h]
  cases buildBars target interval
      (Grouping.groups (fun tick => bucketStart interval tick.eventTimeUtc) (usableTicks ticks))
      none (opensOf interval ticks) [] (screen ticks).observations with
  | error e => rfl
  | ok built => rfl

/-- **The order of arrival does not change a price.** -/
theorem barsFromTicks_perm {ticks' : List VolumeTick}
    (hinterval : intervalFor target.timeframe = .ok interval) (h : Distinct ticks)
    (hperm : ticks.Perm ticks') :
    pricesOf (barsFromTicks target ticks) = pricesOf (barsFromTicks target ticks') := by
  rw [pricesOf_eq hinterval, pricesOf_eq hinterval, ← opensOf_perm h hperm]
  exact buildBars_identityAndPrices (fun openTime _ => members_perm h hperm openTime) rfl

/--
**Bars lose and invent nothing.** A run returns exactly when each bar's closing spread can be told
in points; its result accounts for every tick and nothing else; and the identities and prices
are the same for every order of arrival of ticks that can be told apart.
-/
theorem bars_lose_and_invent_nothing
    (hinterval : intervalFor target.timeframe = .ok interval) (ticks : List VolumeTick) :
    ((∃ r, barsFromTicks target ticks = .ok r)
        ↔ ∀ openTime, interval ∣ openTime →
            SpreadFits target (ticksWithin interval ticks openTime))
      ∧ (∀ r, barsFromTicks target ticks = .ok r → Aggregated target interval ticks r)
      ∧ (Distinct ticks → ∀ ticks' : List VolumeTick, ticks.Perm ticks' →
          pricesOf (barsFromTicks target ticks) = pricesOf (barsFromTicks target ticks')) := by
  refine ⟨?_, fun r hr => barsFromTicks_aggregated hinterval hr,
    fun hdistinct ticks' hperm => barsFromTicks_perm hinterval hdistinct hperm⟩
  rw [barsFromTicks_exists_iff hinterval]
  constructor
  · intro h openTime haligned
    by_cases hopen : openTime ∈ opensOf interval ticks
    · exact h openTime hopen
    · -- an interval without a tick has no spread to tell
      have hnil : ticksWithin interval ticks openTime = [] := by
        rw [← members_eq (intervalFor_pos hinterval) haligned, Grouping.members_groups,
          List.filter_eq_nil_iff]
        intro tick htick hstart
        exact hopen (mem_opensOf.mpr ⟨tick, htick, of_decide_eq_true hstart⟩)
      rw [hnil]
      intro last hlast
      rw [List.insertionSort_nil] at hlast
      cases hlast
  · exact fun h openTime hopen => h openTime (opensOf_aligned hopen)

end Crumblr.Pipeline

namespace Crumblr

open Pipeline

namespace Sample

/-- Five-minute bars of the bid. -/
def fiveMinutes : Target := ⟨"M5", spec, "pepperstone", .bid⟩

/-- A tick so many minutes after noon. -/
def tickAt (id : String) (minute : Int) (ask : Price) : VolumeTick :=
  { tick with
    tickId := ⟨id⟩
    eventTimeUtc := noon + minutes minute
    receivedTimeUtc := noon + minutes minute
    ask
    volume := none }

/-- A late tick, and one after a gap of an interval. -/
def stream : List VolumeTick :=
  [tickAt "first" 1 (price 110002), tickAt "second" 0 (price 110004),
    tickAt "third" 11 (price 110002)]

end Sample

open Sample in
theorem bars_lose_and_invent_nothing_sample :
    ∃ r, barsFromTicks fiveMinutes stream = .ok r
      ∧ Aggregated fiveMinutes (minutes 5) stream r
      ∧ pricesOf (barsFromTicks fiveMinutes stream)
        = pricesOf (barsFromTicks fiveMinutes stream.reverse) := by
  have hinterval : intervalFor fiveMinutes.timeframe = .ok (minutes 5) := by decide
  obtain ⟨-, haggregated, hperm⟩ := bars_lose_and_invent_nothing hinterval stream
  have hreturns : (barsFromTicks fiveMinutes stream).toOption.isSome = true := by decide +kernel
  cases hr : barsFromTicks fiveMinutes stream with
  | error e =>
      rw [hr] at hreturns
      cases hreturns
  | ok r =>
      rw [← hr]
      exact ⟨r, hr, haggregated r hr,
        hperm ⟨by decide, by decide⟩ _ (List.reverse_perm _).symm⟩

open Sample in
/-- A tick whose spread has too many points is usable, and no bar is built with it. -/
theorem enormous_spread_builds_no_bar :
    tickAt "enormous" 0 (amount 1 30) ∈ usableTicks [tickAt "enormous" 0 (amount 1 30)]
      ∧ ∀ r, barsFromTicks fiveMinutes [tickAt "enormous" 0 (amount 1 30)] ≠ .ok r := by
  constructor
  · exact List.mem_filter.mpr ⟨List.mem_cons_self, by decide +kernel⟩
  · intro r hr
    have hraises : (barsFromTicks fiveMinutes
        [tickAt "enormous" 0 (amount 1 30)]).toOption.isSome = false := by decide +kernel
    rw [hr] at hraises
    cases hraises

end Crumblr
