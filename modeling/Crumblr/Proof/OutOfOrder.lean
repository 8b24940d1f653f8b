import Crumblr.Proof.BarPipeline

/-!
# Late ticks and the bars they go into

Order is looked at twice. The screening compares a tick with the latest before it in the whole
stream, and reports it; a bar compares its own ticks with each other, and is marked. A tick that
is late only for those of other intervals is reported, and its bar is not marked.
-/

namespace Crumblr.Pipeline

variable {ticks before : List VolumeTick} {tick : VolumeTick} {s : Screening}

/-- The tick is reported as it is screened. -/
def Reported (ticks : List VolumeTick) (tick : VolumeTick) : Prop :=
  ∃ before after, ticks = before ++ tick :: after
    ∧ ∃ detail, (screenTick (screen before) tick).observations
      = (screen before).observations ++ [⟨.outOfOrder, tick.eventTimeUtc, detail⟩]

/-- A usable tick that arrived after a usable one of a later time. -/
def Late (ticks : List VolumeTick) (tick : VolumeTick) : Prop :=
  ∃ earlier rest, usableTicks ticks = earlier ++ tick :: rest
    ∧ ∃ later ∈ earlier, tick.eventTimeUtc < later.eventTimeUtc

/-! ## What is reported -/

/-- A tick is reported when it is usable and one before it was later. -/
theorem Screened.reports_iff (h : Screened before s) (tick : VolumeTick) :
    (∃ detail, (screenTick s tick).observations
        = s.observations ++ [⟨.outOfOrder, tick.eventTimeUtc, detail⟩])
      ↔ usableTicks (before ++ [tick]) = usableTicks before ++ [tick]
        ∧ ∃ later ∈ usableTicks before, tick.eventTimeUtc < later.eventTimeUtc := by
  rw [usableTicks_append, ← h.kept]
  unfold screenTick
  dsimp only
  by_cases hseen : tick.tickId.text ∈ s.seenIds
  · have hagain := (h.seen _).mp hseen
    simp [hseen, hagain]
  · have hfirst : tick.tickId.text ∉ before.map (·.tickId.text) := fun hmem =>
      hseen ((h.seen _).mpr hmem)
    by_cases hcrossed : tick.ask.val < tick.bid.val
    · simp [hseen, hcrossed, -Subtype.coe_lt_coe]
    · rw [if_neg hseen, if_neg hcrossed, if_neg (not_or.mpr ⟨hfirst, hcrossed⟩)]
      split
      · rename_i p hlate
        obtain ⟨hprevious, hbefore⟩ := arrivedLate_eq_some.mp hlate
        obtain ⟨later, hlater, htime⟩ := h.latest p hprevious
        exact ⟨fun _ => ⟨rfl, later, hlater, htime ▸ hbefore⟩, fun _ => ⟨_, rfl⟩⟩
      · rename_i hontime
        constructor
        · rintro ⟨detail, hreport⟩
          exact absurd hreport (by simp)
        · rintro ⟨-, later, hlater, hbefore⟩
          -- the latest time is at least that tick's
          obtain ⟨p, hprevious, hle⟩ := h.bound later hlater
          rw [arrivedLate_eq_some.mpr ⟨hprevious, lt_of_lt_of_le hbefore hle⟩] at hontime
          cases hontime

/-- What has been kept stays. -/
theorem usableTicks_append_exists (before after : List VolumeTick) :
    ∃ more, usableTicks (before ++ after) = usableTicks before ++ more := by
  induction after using List.reverseRecOn with
  | nil => exact ⟨[], by simp⟩
  | append_singleton after tick ih =>
      obtain ⟨more, hmore⟩ := ih
      rw [← List.append_assoc, usableTicks_append, hmore, List.append_assoc]
      exact ⟨_, rfl⟩

/-- A usable tick arrived when the usable ticks before it had. -/
theorem usableTicks_split {earlier rest : List VolumeTick}
    (h : usableTicks ticks = earlier ++ tick :: rest) :
    ∃ before after, ticks = before ++ tick :: after ∧ usableTicks before = earlier
      ∧ usableTicks (before ++ [tick]) = earlier ++ [tick] := by
  induction ticks using List.reverseRecOn generalizing rest with
  | nil => exact absurd h.symm (by simp [usableTicks, Grouping.firstOccurrences])
  | append_singleton ticks last ih =>
      have hstep := usableTicks_append ticks last
      split at hstep
      · rw [hstep, List.append_nil] at h
        obtain ⟨before, after, rfl, hbefore, htick⟩ := ih h
        exact ⟨before, after ++ [last], by simp, hbefore, htick⟩
      · rw [hstep] at h
        rcases List.eq_nil_or_concat rest with rfl | ⟨rest, final, rfl⟩
        · obtain ⟨hearlier, hlast⟩ := List.append_inj' h rfl
          obtain rfl : last = tick := List.singleton_inj.mp hlast
          exact ⟨ticks, [], rfl, hearlier, by rw [hstep, hearlier]⟩
        · rw [List.concat_eq_append, ← List.cons_append, ← List.append_assoc] at h
          obtain ⟨before, after, rfl, hbefore, htick⟩ := ih (List.append_inj' h rfl).1
          exact ⟨before, after ++ [last], by simp, hbefore, htick⟩

/-- **The ticks that are reported are the late ones.** -/
theorem reported_iff_late : Reported ticks tick ↔ Late ticks tick := by
  constructor
  · rintro ⟨before, after, rfl, hreport⟩
    obtain ⟨husable, later, hlater, hbefore⟩ := ((screened before).reports_iff tick).mp hreport
    obtain ⟨more, hmore⟩ := usableTicks_append_exists (before ++ [tick]) after
    rw [husable, List.append_assoc, List.append_assoc] at hmore
    exact ⟨usableTicks before, more, hmore, later, hlater, hbefore⟩
  · rintro ⟨earlier, rest, hsplit, later, hlater, hbefore⟩
    obtain ⟨before, after, rfl, rfl, htick⟩ := usableTicks_split hsplit
    exact ⟨before, after, rfl, ((screened before).reports_iff tick).mpr
      ⟨htick, later, hlater, hbefore⟩⟩

/-! ## What is marked -/

/-- The ticks are in the order of their times. -/
def InTimeOrder (ticks : List VolumeTick) : Prop :=
  ticks.Pairwise fun tick later => tick.eventTimeUtc ≤ later.eventTimeUtc

/-- Looking at neighbours is enough. -/
theorem outOfOrder_eq_false_iff : outOfOrder ticks = false ↔ InTimeOrder ticks := by
  unfold InTimeOrder
  induction ticks with
  | nil => simp [outOfOrder]
  | cons first rest ih =>
      cases rest with
      | nil => simp [outOfOrder]
      | cons second rest =>
          have hneighbours : outOfOrder (first :: second :: rest)
              = (decide (second.eventTimeUtc < first.eventTimeUtc)
                || outOfOrder (second :: rest)) := rfl
          rw [hneighbours, Bool.or_eq_false_iff, ih, decide_eq_false_iff_not, not_lt,
            List.pairwise_cons (a := first)]
          refine and_congr_left fun hrest => ⟨fun hle later hlater => ?_, fun h => ?_⟩
          · rcases List.mem_cons.mp hlater with rfl | hmem
            · exact hle
            · exact hle.trans (List.rel_of_pairwise_cons hrest hmem)
          · exact h second List.mem_cons_self

theorem outOfOrder_eq_true_iff : outOfOrder ticks = true ↔ ¬ InTimeOrder ticks := by
  rw [← outOfOrder_eq_false_iff, Bool.not_eq_false]

variable {interval : Timedelta} {openTime : UtcDatetime}

/-- Ticks of an interval that are not in order have a late one among them. -/
theorem late_of_not_inTimeOrder (h : ¬ InTimeOrder (ticksWithin interval ticks openTime)) :
    ∃ tick, Late ticks tick ∧ InInterval interval openTime tick.eventTimeUtc := by
  by_contra hnone
  refine h ?_
  unfold InTimeOrder ticksWithin
  rw [List.pairwise_filter, List.pairwise_iff_getElem]
  intro i j hi hj hij hwithin hwithin'
  by_contra hlater
  -- the tick at `j` is late: that at `i` is before it and later
  have hsplit : usableTicks ticks = (usableTicks ticks).take j
      ++ (usableTicks ticks)[j] :: (usableTicks ticks).drop (j + 1) := by
    rw [← List.drop_eq_getElem_cons hj, List.take_append_drop]
  have hbefore : (usableTicks ticks)[i] ∈ (usableTicks ticks).take j :=
    List.mem_take_iff_getElem.mpr ⟨i, by omega, rfl⟩
  exact hnone ⟨(usableTicks ticks)[j], ⟨_, _, hsplit, _, hbefore, not_le.mp hlater⟩,
    of_decide_eq_true hwithin'⟩

variable [Externals] {target : Target} {r : BarBuildResult}

/--
Late arrival marks the bar: the bar of a tick that is reported is marked and not good, a good bar
has no tick that arrived after a later one, and a bar is marked for a tick that was reported.
-/
structure LateTicksMark (interval : Timedelta) (ticks : List VolumeTick) (r : BarBuildResult) :
    Prop where
  marks : ∀ tick, Reported ticks tick → ∀ b ∈ r.bars,
    InInterval interval b.bar.openTimeUtc tick.eventTimeUtc →
      .outOfOrder ∈ b.anomalies ∧ b.dataQuality ≠ .good
  good : ∀ b ∈ r.bars, b.dataQuality = .good →
    ∀ tick ∈ ticksWithin interval ticks b.bar.openTimeUtc, ¬ Late ticks tick
  reported : ∀ b ∈ r.bars, .outOfOrder ∈ b.anomalies →
    ∃ tick, Reported ticks tick ∧ InInterval interval b.bar.openTimeUtc tick.eventTimeUtc

/--
**Late arrival marks the bar exactly when the late tick's own interval is out of order.** The
ticks of an interval are compared with each other only, and the stream's with all.
-/
theorem late_ticks_mark_iff (hinterval : intervalFor target.timeframe = .ok interval)
    (hr : barsFromTicks target ticks = .ok r) :
    LateTicksMark interval ticks r ↔ ∀ tick, Late ticks tick →
      ¬ InTimeOrder (ticksWithin interval ticks (bucketStart interval tick.eventTimeUtc)) := by
  have hpos := intervalFor_pos hinterval
  have haggregated := barsFromTicks_aggregated hinterval hr
  have hmarked : ∀ b ∈ r.bars, .outOfOrder ∈ b.anomalies
      ↔ ¬ InTimeOrder (ticksWithin interval ticks b.bar.openTimeUtc) := fun b hb => by
    rw [(haggregated.built b hb).marked, outOfOrder_eq_true_iff]
  have hstart : ∀ b ∈ r.bars, ∀ tick : VolumeTick,
      InInterval interval b.bar.openTimeUtc tick.eventTimeUtc
        ↔ bucketStart interval tick.eventTimeUtc = b.bar.openTimeUtc :=
    fun b hb tick => inInterval_iff hpos (haggregated.aligned b hb)
  constructor
  · intro h tick hlate
    obtain ⟨earlier, rest, hsplit, -⟩ := id hlate
    have husable : tick ∈ usableTicks ticks := by
      rw [hsplit]
      exact List.mem_append_right _ List.mem_cons_self
    obtain ⟨b, ⟨hb, hwithin⟩, -⟩ := haggregated.placed tick husable
    have hmark := (h.marks tick (reported_iff_late.mpr hlate) b hb hwithin).1
    rw [(hstart b hb tick).mp hwithin]
    exact (hmarked b hb).mp hmark
  · intro h
    have hbad : ∀ tick, Late ticks tick → ∀ b ∈ r.bars,
        InInterval interval b.bar.openTimeUtc tick.eventTimeUtc →
          ¬ InTimeOrder (ticksWithin interval ticks b.bar.openTimeUtc) := by
      intro tick hlate b hb hwithin
      rw [← (hstart b hb tick).mp hwithin]
      exact h tick hlate
    have hquality : ∀ b ∈ r.bars,
        ¬ InTimeOrder (ticksWithin interval ticks b.bar.openTimeUtc) → b.dataQuality ≠ .good :=
      fun b hb hdisorder =>
        (haggregated.built b hb).quality (outOfOrder_eq_true_iff.mpr hdisorder)
    exact {
      marks := fun tick hreported b hb hwithin => by
        have hdisorder := hbad tick (reported_iff_late.mp hreported) b hb hwithin
        exact ⟨(hmarked b hb).mpr hdisorder, hquality b hb hdisorder⟩
      good := fun b hb hgood tick htick hlate => by
        have hwithin := of_decide_eq_true (List.mem_filter.mp htick).2
        exact hquality b hb (hbad tick hlate b hb hwithin) hgood
      reported := fun b hb hmark => by
        obtain ⟨tick, hlate, hwithin⟩ := late_of_not_inTimeOrder ((hmarked b hb).mp hmark)
        exact ⟨tick, reported_iff_late.mpr hlate, hwithin⟩ }

end Crumblr.Pipeline

namespace Crumblr

open Pipeline

open Sample in
theorem late_ticks_mark_iff_sample :
    ∃ r, barsFromTicks fiveMinutes stream = .ok r ∧ LateTicksMark (minutes 5) stream r := by
  have hinterval : intervalFor fiveMinutes.timeframe = .ok (minutes 5) := by decide
  have hreturns : (barsFromTicks fiveMinutes stream).toOption.isSome = true := by decide +kernel
  cases hr : barsFromTicks fiveMinutes stream with
  | error e =>
      rw [hr] at hreturns
      cases hreturns
  | ok r =>
      refine ⟨r, rfl, (late_ticks_mark_iff hinterval hr).mpr fun tick hlate => ?_⟩
      obtain ⟨earlier, rest, hsplit, later, hlater, hbefore⟩ := hlate
      have husable : usableTicks stream = stream := rfl
      rw [husable] at hsplit
      -- of the three only the second is late
      rcases earlier with _ | ⟨a, _ | ⟨b, _ | ⟨c, earlier⟩⟩⟩
      · cases hlater
      · cases hsplit
        exact outOfOrder_eq_true_iff.mp (by decide +kernel)
      · cases hsplit
        simp only [List.mem_cons, List.not_mem_nil, or_false] at hlater
        rcases hlater with rfl | rfl
        · exact absurd hbefore (by decide)
        · exact absurd hbefore (by decide)
      · exact absurd (congrArg List.length hsplit) (by simp [stream])

namespace Sample

/-- The last tick is late for that of the next interval, and in order in its own. -/
def lateAcross : List VolumeTick :=
  [tickAt "first" 0 (price 110002), tickAt "second" 6 (price 110002),
    tickAt "third" 1 (price 110002)]

end Sample

open Sample in
theorem late_tick_unmarked : ∃ r, barsFromTicks fiveMinutes lateAcross = .ok r
    ∧ Reported lateAcross (tickAt "third" 1 (price 110002))
    ∧ ∃ b ∈ r.bars, InInterval (minutes 5) b.bar.openTimeUtc (noon + minutes 1)
      ∧ .outOfOrder ∉ b.anomalies ∧ b.dataQuality = .good := by
  have hunmarked : ((barsFromTicks fiveMinutes lateAcross).toOption.map fun r =>
      r.bars.any fun b => InInterval (minutes 5) b.bar.openTimeUtc (noon + minutes 1)
        ∧ .outOfOrder ∉ b.anomalies ∧ b.dataQuality = .good) = some true := by decide +kernel
  cases hr : barsFromTicks fiveMinutes lateAcross with
  | error e =>
      rw [hr] at hunmarked
      cases hunmarked
  | ok r =>
      rw [hr] at hunmarked
      obtain ⟨b, hb, hgood⟩ := List.any_eq_true.mp (Option.some.inj hunmarked)
      have hlate : Late lateAcross (tickAt "third" 1 (price 110002)) :=
        ⟨[tickAt "first" 0 (price 110002), tickAt "second" 6 (price 110002)], [], rfl,
          tickAt "second" 6 (price 110002), List.mem_cons_of_mem _ List.mem_cons_self, by decide⟩
      exact ⟨r, rfl, reported_iff_late.mpr hlate, b, hb, of_decide_eq_true hgood⟩

end Crumblr
