import Crumblr.MarketData.Generator
import Crumblr.Proof.AtMostOnce
import Crumblr.Proof.IntentShape
import Crumblr.Proof.TradingWeek

/-!
# What the generator feeds

A replay takes its market as it is generated. Each bar has to open where the one before it closed,
at the next slot the market is open in; and the windows of a replay are told apart by the times of
their quotes, so no two quotes may have one time, even where some of them are made stale.
-/

namespace Crumblr

namespace PyDatetime

variable {wall : Int} {span : Timedelta}

theorem shift_ok {t : Int} (h : shift wall span = .ok t) : t = wall + span := by
  unfold shift at h
  split at h
  · cases h
    rfl
  · cases h

theorem shift_error {error : PyError} (h : shift wall span = .error error) :
    error.kind = .overflow := by
  unfold shift at h
  split at h
  · cases h
  · cases h
    rfl

end PyDatetime

/-! ## Prices -/

namespace BarPrices

variable {spec : InstrumentSpec} {price : Decimal} {moves : List Decimal} {prices : BarPrices}

/-- One step of the precision a symbol is quoted to. -/
def step (spec : InstrumentSpec) : Decimal := ⟨1, -spec.digits⟩

/-- What the prices of a bar are to each other. -/
structure Formed (spec : InstrumentSpec) (price : Decimal) (prices : BarPrices) : Prop where
  opened : Ict.quantizePrice price spec.digits .halfEven = .ok prices.openPrice
  settled : Ict.quantizePrice prices.close spec.digits .halfEven = .ok prices.close
  range : ¬ prices.high < prices.low ∧ ¬ prices.high < prices.openPrice.max prices.close
    ∧ ¬ prices.openPrice.min prices.close < prices.low

/-- High and low are stretched over the open and the close, which are rounded on their own. -/
theorem create_formed (h : create spec price moves = .ok prices) : Formed spec price prices := by
  unfold create at h
  obtain ⟨openPrice, hopen, h⟩ := bind_ok h
  obtain ⟨close, hclose, h⟩ := bind_ok h
  obtain ⟨high, -, h⟩ := bind_ok h
  obtain ⟨low, -, h⟩ := bind_ok h
  cases h
  have hhigh : openPrice ≤ (high.max openPrice).max close :=
    le_trans Decimal.le_max_right Decimal.le_max_left
  have hlow : (low.min openPrice).min close ≤ openPrice :=
    le_trans Decimal.min_le_left' Decimal.min_le_right'
  refine ⟨hopen, Ict.quantizePrice_settled hclose, ?_, ?_, ?_⟩
  · exact Decimal.not_lt.mpr (le_trans hlow hhigh)
  · exact Decimal.not_lt.mpr (Decimal.max_le hhigh Decimal.le_max_right)
  · exact Decimal.not_lt.mpr (Decimal.le_min' hlow Decimal.min_le_right')

/-- The floor keeps the path away from zero. -/
theorem le_of_mem_path {bound : Decimal} (hbound : bound ≤ spec.point.val * 1000) :
    ∀ p ∈ path spec.point.val price moves, bound ≤ p := by
  induction moves generalizing price with
  | nil =>
      intro p hp
      cases hp
  | cons move moves ih =>
      intro p hp
      rcases List.mem_cons.mp hp with rfl | hp
      · exact le_trans hbound Decimal.le_max_right
      · exact ih p hp

/-- A bar that opens no lower than a step has positive prices. -/
theorem create_pos (hprice : step spec ≤ price) (hfloor : step spec ≤ spec.point.val * 1000)
    (h : create spec price moves = .ok prices) :
    0 < prices.openPrice ∧ 0 < prices.high ∧ 0 < prices.low ∧ 0 < prices.close := by
  unfold create at h
  obtain ⟨openPrice, hopen, h⟩ := bind_ok h
  obtain ⟨close, hclose, h⟩ := bind_ok h
  obtain ⟨high, -, h⟩ := bind_ok h
  obtain ⟨low, hlow, h⟩ := bind_ok h
  cases h
  have hpath : ∀ p ∈ price :: path spec.point.val price moves, step spec ≤ p := by
    intro p hp
    rcases List.mem_cons.mp hp with rfl | hp
    · exact hprice
    · exact le_of_mem_path hfloor p hp
  have hpos : ∀ {p q : Decimal}, p ∈ price :: path spec.point.val price moves →
      Ict.quantizePrice p spec.digits .halfEven = .ok q → 0 < q := by
    intro p q hp hq
    exact Decimal.quantize_pos (hpath p hp) (Ict.quantizePrice_ok hq)
  have hopen := hpos List.mem_cons_self hopen
  have hclose := hpos List.getLastD_mem_cons hclose
  have hlow := hpos (Decimal.foldl_min price _).1 hlow
  refine ⟨hopen, ?_, ?_, hclose⟩
  · exact lt_of_lt_of_le hopen (le_trans Decimal.le_max_right Decimal.le_max_left)
  · have hmin : ∀ {x y : Decimal}, 0 < x → 0 < y → 0 < x.min y := by
      intro x y hx hy
      unfold Decimal.min
      split
      · exact hy
      · exact hx
    exact hmin (hmin hlow hopen) hclose

end BarPrices

/-! ## Bars -/

namespace Bar

variable {openTimeUtc : UtcDatetime} {prices : BarPrices} {tickVolume spreadPoints : Int} {bar : Bar}

theorem construct_ok (h : construct openTimeUtc prices tickVolume spreadPoints = .ok bar) :
    bar.openTimeUtc = openTimeUtc ∧ bar.openPrice.val = prices.openPrice
      ∧ bar.close.val = prices.close := by
  unfold construct at h
  split at h
  · unfold create at h
    split at h
    · cases h
      exact ⟨rfl, rfl, rfl⟩
    · cases h
  · cases h

/-- A bar of formed prices is accepted. -/
theorem construct_of_formed {spec : InstrumentSpec} {price : Decimal}
    (hformed : prices.Formed spec price)
    (hpos : 0 < prices.openPrice ∧ 0 < prices.high ∧ 0 < prices.low ∧ 0 < prices.close)
    (hvolume : 0 ≤ tickVolume) (hspread : 0 ≤ spreadPoints) :
    ∃ bar, construct openTimeUtc prices tickVolume spreadPoints = .ok bar := by
  unfold construct create
  rw [dif_pos ⟨hpos, hvolume, hspread⟩, dif_pos hformed.range]
  exact ⟨_, rfl⟩

end Bar

/-! ## One tick -/

namespace Generator

variable {ρ : Type} (generator : Generator ρ) [Externals]

/-- The market is shut, and the generator keeps to its hours. -/
def Shut (moment : UtcDatetime) : Prop :=
  generator.config.skipWeekend = true ∧ Sessions.isMarketOpen moment = false

/-- A tick of an index, and what its fault has done to it. -/
structure Made (index : Nat) (tick : GeneratedTick) : Prop where
  inSession : ¬ generator.Shut tick.bar.openTimeUtc
  fault : tick.injectedFault = (generator.config.faults.faultAt index).map Fault.value
  stamped : tick.eventTimeUtc =
    if generator.config.faults.faultAt index = some .staleTick then
      tick.bar.openTimeUtc - generator.config.faults.staleTickAge
    else tick.bar.openTimeUtc
  judged : tick.dataQuality =
    if generator.config.faults.faultAt index = some .suspectQuality then .suspect else .good
  arrives : tick.bar.openTimeUtc + milliseconds 3 ≤ tick.receivedTimeUtc
    ∧ tick.receivedTimeUtc ≤ tick.bar.openTimeUtc + milliseconds 40

/-- A tick as it's made at a clock and a price. -/
structure MadeAt (index : Nat) (clock : UtcDatetime) (price : Decimal) (tick : GeneratedTick) :
    Prop where
  opensAt : tick.bar.openTimeUtc = clock
  opened : Ict.quantizePrice price generator.spec.digits .halfEven = .ok tick.bar.openPrice.val
  settled : Ict.quantizePrice tick.bar.close.val generator.spec.digits .halfEven
    = .ok tick.bar.close.val
  made : ¬ generator.Shut clock → generator.Made index tick

variable {index : Nat} {clock : UtcDatetime} {price : Decimal}

omit [Externals] in
theorem drawInt_yields {E : PyError → Prop} {a b : Int} (h : a ≤ b) :
    Raising.Yields E (fun n => a ≤ n ∧ n ≤ b) (generator.source.drawInt a b) := by
  intro r
  refine ⟨fun n hn => ?_, fun e he => ?_⟩
  · cases hn
    exact generator.source.randint_mem a b r h
  · cases he

theorem generateTick_made :
    Raising.Yields (fun _ => True) (generator.MadeAt index clock price)
      (generator.generateTick index clock price) := by
  unfold generateTick
  refine Raising.Yields.any.bind fun regime _ => ?_
  refine Raising.Yields.any.bind fun sessionScale _ => ?_
  refine Raising.Yields.any.bind fun moves _ => ?_
  refine Raising.Yields.bind (A := BarPrices.Formed generator.spec price)
    (Raising.Yields.lift (fun _ => BarPrices.create_formed) fun _ _ => trivial) fun prices hprices => ?_
  refine Raising.Yields.any.bind fun spread _ => ?_
  refine (generator.drawInt_yields (by decide)).bind fun latency hlatency => ?_
  refine Raising.Yields.bind (A := fun received => received = clock + milliseconds latency)
    (Raising.Yields.lift (fun _ => PyDatetime.shift_ok) fun _ _ => trivial) fun received hreceived => ?_
  refine Raising.Yields.bind
    (A := fun event => event = if generator.config.faults.faultAt index = some .staleTick then
      clock - generator.config.faults.staleTickAge else clock)
    (Raising.Yields.lift ?_ fun _ _ => trivial) fun event hevent => ?_
  · intro event h
    split at h
    · rename_i hstale
      rw [if_pos hstale]
      exact PyDatetime.shift_ok h
    · rename_i hfresh
      rw [if_neg hfresh]
      cases h
      rfl
  refine Raising.Yields.any.bind fun quote _ => ?_
  refine Raising.Yields.any.bind fun volume _ => ?_
  refine Raising.Yields.bind
    (A := fun bar => bar.openTimeUtc = clock ∧ bar.openPrice.val = prices.openPrice
      ∧ bar.close.val = prices.close)
    (Raising.Yields.lift (fun _ => Bar.construct_ok) fun _ _ => trivial) fun bar hbar => ?_
  refine Raising.Yields.any.bind fun quoted _ => ?_
  obtain ⟨hclock, hopen, hclose⟩ := hbar
  refine Raising.Yields.pure ⟨hclock, ?_, ?_, fun hopens => ⟨?_, rfl, ?_, rfl, ?_⟩⟩
  · rw [hopen]
    exact hprices.opened
  · rw [hclose]
    exact hprices.settled
  · rw [hclock]
    exact hopens
  · rw [hclock]
    exact hevent
  · rw [hclock, hreceived]
    unfold milliseconds
    exact ⟨Int.add_le_add_left (by omega) clock, Int.add_le_add_left (by omega) clock⟩

/-! ## One turn -/

/-- What a turn of the loop does, where it doesn't raise. -/
inductive Turn (s : GeneratorState ρ) : Option GeneratedTick → GeneratorState ρ → Prop where
  | skipped (hshut : generator.Shut s.clock) :
      Turn s none { s with clock := s.clock + generator.config.barInterval }
  | emitted {tick : GeneratedTick} {random : ρ} (hopen : ¬ generator.Shut s.clock)
      (hmade : generator.MadeAt s.index s.clock s.price tick) :
      Turn s (some tick) ⟨random, tick.bar.close, s.clock + generator.config.barInterval, s.index + 1⟩

theorem skips_ok {moment : UtcDatetime} {skip : Bool} (h : generator.skips moment = .ok skip) :
    skip = true ↔ generator.Shut moment := by
  unfold skips at h
  unfold Shut
  split at h
  · rename_i hkeeps
    obtain ⟨-, -, h⟩ := bind_ok h
    cases h
    rw [Bool.not_eq_true', and_iff_right hkeeps]
  · rename_i hnever
    cases h
    exact iff_of_false Bool.false_ne_true fun hshut => hnever hshut.1

omit [Externals] in
theorem nextSlot_cases (s : GeneratorState ρ) :
    generator.nextSlot s = .ok { s with clock := s.clock + generator.config.barInterval }
      ∨ ∃ error, generator.nextSlot s = .error error ∧ error.kind = .overflow := by
  unfold nextSlot
  cases hclock : PyDatetime.shift s.clock generator.config.barInterval with
  | ok clock =>
      obtain rfl := PyDatetime.shift_ok hclock
      exact .inl rfl
  | error error => exact .inr ⟨error, rfl, PyDatetime.shift_error hclock⟩

/-- A turn yields nothing and raises; or it yields what it does, and goes on unless the next slot
is past the calendar. -/
theorem advance_cases (s : GeneratorState ρ) :
    (∃ error, generator.advance s = (none, .error error))
      ∨ ∃ tick s', generator.Turn s tick s' ∧ (generator.advance s = (tick, .ok s')
        ∨ ∃ error, generator.advance s = (tick, .error error) ∧ error.kind = .overflow) := by
  unfold advance
  cases hskips : generator.skips s.clock with
  | error error => exact .inl ⟨error, rfl⟩
  | ok skip =>
      have hshut := generator.skips_ok hskips
      cases skip with
      | true =>
          refine .inr ⟨none, _, .skipped (hshut.mp rfl), ?_⟩
          rcases generator.nextSlot_cases s with hnext | ⟨error, hnext, hkind⟩
          · exact .inl (by rw [hnext])
          · exact .inr ⟨error, by rw [hnext], hkind⟩
      | false =>
          dsimp only
          cases htick : generator.generateTick s.index s.clock s.price s.random with
          | mk outcome random =>
              cases outcome with
              | error error => exact .inl ⟨error, rfl⟩
              | ok tick =>
                  have hopen : ¬ generator.Shut s.clock := fun h => by cases hshut.mpr h
                  have hmade := (generator.generateTick_made s.random).1 tick (by rw [htick])
                  refine .inr ⟨some tick, ⟨random, _, _, _⟩, .emitted hopen hmade, ?_⟩
                  dsimp only
                  rcases generator.nextSlot_cases ⟨random, tick.bar.close, s.clock, s.index + 1⟩
                    with hnext | ⟨error, hnext, hkind⟩
                  · exact .inl (by rw [hnext])
                  · exact .inr ⟨error, by rw [hnext], hkind⟩

/-! ## Its turns -/

theorem generateTicks_done {turns : Nat} {s : GeneratorState ρ}
    (h : ¬ (s.index : Int) < generator.config.barCount) :
    generator.generateTicks turns s = ([], .finished) := by
  unfold generateTicks
  rw [if_neg h]

theorem generateTicks_zero {s : GeneratorState ρ} (h : (s.index : Int) < generator.config.barCount) :
    generator.generateTicks 0 s = ([], .running) := by
  unfold generateTicks
  rw [if_pos h]

theorem generateTicks_raised {turns : Nat} {s : GeneratorState ρ} {tick : Option GeneratedTick}
    {error : PyError} (h : (s.index : Int) < generator.config.barCount)
    (hadvance : generator.advance s = (tick, .error error)) :
    generator.generateTicks (turns + 1) s = (tick.toList, .raised error) := by
  unfold generateTicks
  rw [if_pos h, hadvance]

theorem generateTicks_turn {turns : Nat} {s s' : GeneratorState ρ} {tick : Option GeneratedTick}
    (h : (s.index : Int) < generator.config.barCount)
    (hadvance : generator.advance s = (tick, .ok s')) :
    generator.generateTicks (turns + 1) s
      = (tick.toList ++ (generator.generateTicks turns s').1, (generator.generateTicks turns s').2) := by
  rw [generateTicks, if_pos h, hadvance]

/-! ## A run -/

/-- The next tick comes at the next slot the market is open in, and opens at the last close. -/
structure Follows (tick next : GeneratedTick) : Prop where
  continuous : next.bar.openPrice.val = tick.bar.close.val
  later : ∃ k : Nat, next.bar.openTimeUtc = tick.bar.openTimeUtc + (k + 1) * generator.config.barInterval
    ∧ ∀ j < k, generator.Shut (tick.bar.openTimeUtc + (j + 1) * generator.config.barInterval)

/-- The first tick of those to come. -/
structure Resumes (s : GeneratorState ρ) (tick : GeneratedTick) : Prop where
  opened : Ict.quantizePrice s.price generator.spec.digits .halfEven = .ok tick.bar.openPrice.val
  later : ∃ k : Nat, tick.bar.openTimeUtc = s.clock + k * generator.config.barInterval
    ∧ ∀ j < k, generator.Shut (s.clock + j * generator.config.barInterval)

/-- The ticks of a run from a state on. -/
structure Feed (s : GeneratorState ρ) (ticks : List GeneratedTick) : Prop where
  made : ∀ i (hi : i < ticks.length), generator.Made (s.index + i) ticks[i]
  first : ∀ tick ∈ ticks.head?, generator.Resumes s tick
  chain : ticks.IsChain generator.Follows

variable {generator}

theorem Follows.of_resumes {s : GeneratorState ρ} {tick next : GeneratedTick}
    (hmade : generator.MadeAt s.index s.clock s.price tick) {random : ρ} {i : Nat}
    (h : generator.Resumes ⟨random, tick.bar.close, s.clock + generator.config.barInterval, i⟩ next) :
    generator.Follows tick next := by
  obtain ⟨hopened, k, hlater, hshut⟩ := h
  have hprice := hopened.symm.trans hmade.settled
  refine ⟨by injection hprice, k, ?_, fun j hj => ?_⟩
  · rw [hlater, hmade.opensAt]
    ring
  · have hslot := hshut j hj
    rw [hmade.opensAt]
    convert hslot using 1
    ring

theorem Feed.nil (s : GeneratorState ρ) : generator.Feed s [] where
  made i hi := absurd hi (Nat.not_lt_zero i)
  first tick htick := by cases htick
  chain := .nil

/-- What a turn adds to the ticks of the turns after it. -/
theorem Feed.turn {s s' : GeneratorState ρ} {tick : Option GeneratedTick}
    {ticks : List GeneratedTick} (hturn : generator.Turn s tick s') (h : generator.Feed s' ticks) :
    generator.Feed s (tick.toList ++ ticks) := by
  cases hturn with
  | skipped hshut =>
      refine ⟨h.made, fun tick htick => ?_, h.chain⟩
      obtain ⟨hopened, k, hlater, hslots⟩ := h.first tick htick
      refine ⟨hopened, k + 1, ?_, fun j hj => ?_⟩
      · rw [hlater]
        push_cast
        ring
      · cases j with
        | zero => simpa using hshut
        | succ j =>
            have hslot := hslots j (by omega)
            convert hslot using 1
            push_cast
            ring
  | @emitted tick random hopen hmade =>
      refine ⟨fun i hi => ?_, fun first hfirst => ?_, ?_⟩
      · cases i with
        | zero => exact hmade.made hopen
        | succ i =>
            have hrest := h.made i (by simpa using hi)
            simpa [Nat.add_assoc, Nat.add_comm 1 i] using hrest
      · cases hfirst
        exact ⟨hmade.opened, 0, by rw [hmade.opensAt]; simp, fun j hj => by omega⟩
      · refine h.chain.cons ?_
        intro next hnext
        exact Follows.of_resumes hmade (h.first next hnext)

variable (generator)

/-- **A run feeds ticks in order.** -/
theorem generateTicks_feed (turns : Nat) (s : GeneratorState ρ) :
    generator.Feed s (generator.generateTicks turns s).1 := by
  induction turns generalizing s with
  | zero =>
      by_cases hmore : (s.index : Int) < generator.config.barCount
      · rw [generator.generateTicks_zero hmore]
        exact Feed.nil s
      · rw [generator.generateTicks_done hmore]
        exact Feed.nil s
  | succ turns ih =>
      by_cases hmore : (s.index : Int) < generator.config.barCount
      · rcases generator.advance_cases s with ⟨error, hraised⟩
          | ⟨tick, s', hturn, hadvance | ⟨error, hraised, -⟩⟩
        · rw [generator.generateTicks_raised hmore hraised]
          exact Feed.nil s
        · rw [generator.generateTicks_turn hmore hadvance]
          exact Feed.turn hturn (ih s')
        · -- the bar of the last slot of the calendar is fed all the same
          rw [generator.generateTicks_raised hmore hraised]
          have hfeed := Feed.turn hturn (Feed.nil s')
          rwa [List.append_nil] at hfeed
      · rw [generator.generateTicks_done hmore]
        exact Feed.nil s

/-! ## Times -/

variable {generator}

omit [Externals] in
theorem age_of_stale {i : Nat} (h : generator.config.faults.faultAt i = some .staleTick) :
    generator.config.faults.staleTickEvery ≠ 0 := by
  intro hzero
  have hnever : FaultInjection.strikes generator.config.faults.staleTickEvery i = false := by
    rw [hzero]
    rfl
  unfold FaultInjection.faultAt at h
  rw [hnever] at h
  split at h
  · cases h
  · rw [if_neg Bool.false_ne_true] at h
    split at h <;> cases h

/-- A bar opens an interval after the one before it, at least. -/
theorem Feed.spaced {s : GeneratorState ρ} {ticks : List GeneratedTick}
    (h : generator.Feed s ticks) (hpos : 0 < generator.config.barInterval) :
    ticks.Pairwise fun tick next =>
      tick.bar.openTimeUtc + generator.config.barInterval ≤ next.bar.openTimeUtc := by
  have htrans : Trans (fun tick next : GeneratedTick =>
      tick.bar.openTimeUtc + generator.config.barInterval ≤ next.bar.openTimeUtc)
      (fun tick next : GeneratedTick =>
        tick.bar.openTimeUtc + generator.config.barInterval ≤ next.bar.openTimeUtc)
      (fun tick next : GeneratedTick =>
        tick.bar.openTimeUtc + generator.config.barInterval ≤ next.bar.openTimeUtc) := by
    refine ⟨fun {a b c} hab hbc => ?_⟩
    have hb : b.bar.openTimeUtc ≤ b.bar.openTimeUtc + generator.config.barInterval :=
      Int.le_add_of_nonneg_right (Int.le_of_lt hpos)
    exact Int.le_trans hab (Int.le_trans hb hbc)
  refine List.isChain_iff_pairwise.mp (h.chain.imp fun tick next hfollows => ?_)
  obtain ⟨k, hlater, -⟩ := hfollows.later
  rw [hlater]
  refine Int.add_le_add_left ?_ _
  have hone : (1 : Int) ≤ k + 1 := by omega
  calc generator.config.barInterval = 1 * generator.config.barInterval := (one_mul _).symm
    _ ≤ (k + 1) * generator.config.barInterval := mul_le_mul_of_nonneg_right hone hpos.le

/-- The time of a quote is its bar's, or an age before it. -/
theorem Made.stamp {i : Nat} {tick : GeneratedTick} (h : generator.Made i tick) :
    tick.eventTimeUtc = tick.bar.openTimeUtc
      ∨ generator.config.faults.staleTickEvery ≠ 0
        ∧ tick.eventTimeUtc = tick.bar.openTimeUtc - generator.config.faults.staleTickAge := by
  have hstamp := h.stamped
  split at hstamp
  · rename_i hstale
    exact .inr ⟨age_of_stale hstale, hstamp⟩
  · exact .inl hstamp

/-- Even where some are stale, the quotes come in the order of their times. -/
theorem Feed.ordered {s : GeneratorState ρ} {ticks : List GeneratedTick}
    (h : generator.Feed s ticks) (hpos : 0 < generator.config.barInterval)
    (hage : generator.config.faults.staleTickEvery = 0
      ∨ |generator.config.faults.staleTickAge| < generator.config.barInterval) :
    ticks.Pairwise fun tick next => tick.eventTimeUtc < next.eventTimeUtc := by
  have hmade : ∀ tick ∈ ticks, ∃ i, generator.Made i tick := by
    intro tick htick
    obtain ⟨i, hi, rfl⟩ := List.mem_iff_getElem.mp htick
    exact ⟨s.index + i, h.made i hi⟩
  refine (h.spaced hpos).imp_of_mem fun {tick next} htick hnext hspaced => ?_
  obtain ⟨i, hi⟩ := hmade tick htick
  obtain ⟨j, hj⟩ := hmade next hnext
  have hbound : generator.config.faults.staleTickEvery ≠ 0 →
      -generator.config.barInterval < generator.config.faults.staleTickAge
        ∧ generator.config.faults.staleTickAge < generator.config.barInterval := by
    intro hevery
    rcases hage with hnone | hage
    · exact absurd hnone hevery
    · exact abs_lt.mp hage
  rcases hi.stamp with htime | ⟨hevery, htime⟩
  · rcases hj.stamp with htime' | ⟨hevery', htime'⟩
    · rw [htime, htime']
      linarith
    · rw [htime, htime']
      linarith [(hbound hevery').2]
  · rcases hj.stamp with htime' | ⟨-, htime'⟩
    · rw [htime, htime']
      linarith [(hbound hevery).1]
    · rw [htime, htime']
      linarith

/-! ## How many -/

variable (generator)

theorem generateTicks_count (turns : Nat) (s : GeneratorState ρ) :
    (s.index : Int) + (generator.generateTicks turns s).1.length
        ≤ max (s.index : Int) generator.config.barCount
      ∧ ((generator.generateTicks turns s).2 = .finished →
        generator.config.barCount ≤ s.index + (generator.generateTicks turns s).1.length) := by
  induction turns generalizing s with
  | zero =>
      by_cases hmore : (s.index : Int) < generator.config.barCount
      · rw [generator.generateTicks_zero hmore]
        refine ⟨by simp, fun h => by cases h⟩
      · rw [generator.generateTicks_done hmore]
        simp
        omega
  | succ turns ih =>
      by_cases hmore : (s.index : Int) < generator.config.barCount
      · rcases generator.advance_cases s with ⟨error, hraised⟩
          | ⟨tick, s', hturn, hadvance | ⟨error, hraised, -⟩⟩
        · rw [generator.generateTicks_raised hmore hraised]
          refine ⟨by simp, fun h => by cases h⟩
        · rw [generator.generateTicks_turn hmore hadvance]
          obtain ⟨hle, hall⟩ := ih s'
          cases hturn with
          | skipped hshut => exact ⟨hle, hall⟩
          | emitted hopen hmade =>
              dsimp only [Option.toList_some, List.cons_append, List.nil_append,
                List.length_cons] at hle hall ⊢
              push_cast at hle hall ⊢
              refine ⟨by omega, fun hfinished => ?_⟩
              have hrest := hall hfinished
              omega
        · rw [generator.generateTicks_raised hmore hraised]
          refine ⟨?_, fun h => by cases h⟩
          have hone : tick.toList.length ≤ 1 := by cases tick <;> simp
          dsimp only
          omega
      · rw [generator.generateTicks_done hmore]
        simp
        omega

/-! ## Ending -/

/-- New York is four or five hours behind UTC. -/
def EasternTime : Prop :=
  ∀ t, hours (-5) ≤ Externals.newYorkOffset t ∧ Externals.newYorkOffset t ≤ hours (-4)

/-- From Sunday, 22:00 UTC, to Friday, 21:00, the market is open whatever New York's clocks say. -/
theorem isMarketOpen_of_week (hclock : EasternTime) {moment : UtcDatetime}
    (h : (moment + hours 2 - days 4) % days 7 < hours 119) :
    Sessions.isMarketOpen moment = true := by
  obtain ⟨hlo, hhi⟩ := hclock moment
  rw [isMarketOpen_iff]
  unfold rolledDay newYorkWall weekday dateOf
  simp only [hours_eq, days_eq, UtcDatetime, Timedelta, Date] at h hlo hhi ⊢
  omega

/-- The market opens again, and no slot of the generator's is longer than it stays open. -/
theorem reopens (hclock : EasternTime) {interval : Timedelta} (hpos : 0 < interval)
    (hshort : interval ≤ hours 119) (clock : UtcDatetime) :
    ∃ k : Nat, Sessions.isMarketOpen (clock + k * interval) = true := by
  -- the time to the next Sunday, 22:00 UTC, and the first slot from then on
  let wait := (-(clock + hours 2 - days 4)) % days 7
  have hwait : 0 ≤ wait := Int.emod_nonneg _ (by decide)
  let k := (wait + interval - 1) / interval
  have hk : 0 ≤ k := Int.ediv_nonneg (by linarith [Int.add_one_le_of_lt hpos]) hpos.le
  have hlower : wait ≤ k * interval := by
    have hdiv := Int.lt_ediv_add_one_mul_self (wait + interval - 1) hpos
    have hexpand : (k + 1) * interval = k * interval + interval := by ring
    change wait + interval - 1 < (k + 1) * interval at hdiv
    rw [hexpand] at hdiv
    linarith [Int.add_one_le_of_lt hdiv]
  have hupper : k * interval < wait + interval := by
    have hdiv := Int.ediv_mul_le (wait + interval - 1) hpos.ne'
    change k * interval ≤ wait + interval - 1 at hdiv
    linarith
  refine ⟨k.toNat, isMarketOpen_of_week hclock ?_⟩
  rw [Int.toNat_of_nonneg hk]
  have hslot : (clock + k * interval + hours 2 - days 4) % days 7 = k * interval - wait := by
    have hweek : (clock + hours 2 - days 4 + wait) % days 7 = 0 := by
      simp only [wait, hours_eq, days_eq, UtcDatetime, Timedelta]
      omega
    have hsplit : clock + k * interval + hours 2 - days 4
        = (clock + hours 2 - days 4 + wait) + (k * interval - wait) := by ring
    rw [hsplit, Int.add_emod, hweek, zero_add, Int.emod_emod_of_dvd _ (dvd_refl _)]
    refine Int.emod_eq_of_lt (by linarith) ?_
    have hweeklong : hours 119 < days 7 := by decide
    linarith
  rw [hslot]
  linarith

/-- So many turns are enough. -/
def Ends (s : GeneratorState ρ) : Prop :=
  ∃ turns, (generator.generateTicks turns s).2 ≠ .running

/-- More turns than enough change nothing. -/
theorem generateTicks_stable {turns : Nat} {s : GeneratorState ρ}
    (h : (generator.generateTicks turns s).2 ≠ .running) (more : Nat) :
    generator.generateTicks (turns + more) s = generator.generateTicks turns s := by
  by_cases hmore : (s.index : Int) < generator.config.barCount
  swap
  · rw [generator.generateTicks_done hmore, generator.generateTicks_done hmore]
  induction turns generalizing s with
  | zero =>
      rw [generator.generateTicks_zero hmore] at h
      exact absurd rfl h
  | succ turns ih =>
      rw [Nat.succ_add]
      rcases hadvance : generator.advance s with ⟨tick, error | s'⟩
      · rw [generator.generateTicks_raised hmore hadvance,
          generator.generateTicks_raised hmore hadvance]
      · rw [generator.generateTicks_turn hmore hadvance] at h
        rw [generator.generateTicks_turn hmore hadvance, generator.generateTicks_turn hmore hadvance]
        by_cases hmore' : (s'.index : Int) < generator.config.barCount
        · rw [ih h hmore']
        · rw [generator.generateTicks_done hmore', generator.generateTicks_done hmore']

variable {generator}

theorem Ends.of_done {s : GeneratorState ρ} (h : ¬ (s.index : Int) < generator.config.barCount) :
    generator.Ends s := by
  refine ⟨0, ?_⟩
  rw [generator.generateTicks_done h]
  exact fun hrunning => by cases hrunning

theorem Ends.turn {s s' : GeneratorState ρ} {tick : Option GeneratedTick}
    (hadvance : generator.advance s = (tick, .ok s')) (h : generator.Ends s') :
    generator.Ends s := by
  by_cases hmore : (s.index : Int) < generator.config.barCount
  · obtain ⟨turns, hends⟩ := h
    refine ⟨turns + 1, ?_⟩
    rw [generator.generateTicks_turn hmore hadvance]
    exact hends
  · exact Ends.of_done hmore

theorem Ends.of_error {s : GeneratorState ρ} {tick : Option GeneratedTick} {error : PyError}
    (hadvance : generator.advance s = (tick, .error error)) : generator.Ends s := by
  by_cases hmore : (s.index : Int) < generator.config.barCount
  · refine ⟨1, ?_⟩
    rw [generator.generateTicks_raised hmore hadvance]
    exact fun hrunning => by cases hrunning
  · exact Ends.of_done hmore

/-- Where every turn that goes on comes to an end, so does this. -/
theorem Ends.of_turns {s : GeneratorState ρ}
    (h : ∀ tick s', generator.Turn s tick s' → generator.Ends s') : generator.Ends s := by
  rcases generator.advance_cases s with ⟨error, hraised⟩
    | ⟨tick, s', hturn, hadvance | ⟨error, hraised, -⟩⟩
  · exact Ends.of_error hraised
  · exact Ends.turn hadvance (h tick s' hturn)
  · exact Ends.of_error hraised

/-- Where the market opens again from every clock, the bars are all made in the end, or something
has been raised. The outer induction is on the bars that are left, the inner one on the slots to
skip. -/
theorem ends (hreopens : ∀ clock, ∃ k : Nat,
    ¬ generator.Shut (clock + k * generator.config.barInterval)) (s : GeneratorState ρ) :
    generator.Ends s := by
  induction hleft : (generator.config.barCount - s.index).toNat generalizing s with
  | zero => exact Ends.of_done (by omega)
  | succ left ih =>
      obtain ⟨k, hopen⟩ := hreopens s.clock
      induction k generalizing s with
      | zero =>
          refine Ends.of_turns fun tick s' hturn => ?_
          cases hturn with
          | skipped hshut => exact absurd hshut (by simpa using hopen)
          | emitted _ hmade => exact ih _ (by dsimp only; push_cast; omega)
      | succ k ihk =>
          refine Ends.of_turns fun tick s' hturn => ?_
          cases hturn with
          | skipped hshut =>
              refine ihk _ hleft ?_
              convert hopen using 2
              push_cast
              ring
          | emitted _ hmade => exact ih _ (by dsimp only; push_cast; omega)

theorem reopens_config (hclock : EasternTime) (hpos : 0 < generator.config.barInterval)
    (hshort : generator.config.skipWeekend = true → generator.config.barInterval ≤ hours 119)
    (clock : UtcDatetime) :
    ∃ k : Nat, ¬ generator.Shut (clock + k * generator.config.barInterval) := by
  by_cases hskip : generator.config.skipWeekend = true
  · obtain ⟨k, hopen⟩ := reopens hclock hpos (hshort hskip) clock
    refine ⟨k, fun hshut => ?_⟩
    rw [hshut.2] at hopen
    cases hopen
  · exact ⟨0, fun hshut => hskip hshut.1⟩

/-! ## Raising -/

/-- A configuration that a spec can quote. -/
structure WellConfigured (generator : Generator ρ) : Prop where
  start : BarPrices.step generator.spec ≤ generator.config.startPrice
  floor : BarPrices.step generator.spec ≤ generator.spec.point.val * 1000
  spread : 0 ≤ generator.config.baseSpreadPoints
  spike : 0 ≤ generator.config.faults.spreadSpikeMultiplier
  regime : generator.config.regimeLengthBars ≠ 0

/-- A number that doubles or decimals have no room for, or a time the calendar has none for. -/
def OutOfRange (error : PyError) : Prop :=
  error.kind = .invalidOperation ∨ error.kind = .overflow ∨ error.kind = .value

omit [Externals] in
theorem quantizePrice_error {price : Decimal} {digits : Nat} {rounding : Rounding} {error : PyError}
    (h : Ict.quantizePrice price digits rounding = .error error) : OutOfRange error := by
  unfold Ict.quantizePrice at h
  split at h
  · cases h
  · cases h
    exact .inl rfl

omit [Externals] in
theorem roundFloat_error {x : Binary64.Value} {error : PyError} (h : roundFloat x = .error error) :
    OutOfRange error := by
  cases x with
  | finite negative q => cases h
  | infinite negative =>
      cases h
      exact .inr (.inl rfl)
  | nan =>
      cases h
      exact .inr (.inr rfl)

omit [Externals] in
theorem truncMagnitude_error {x : Binary64.Value} {error : PyError}
    (h : truncMagnitude x = .error error) : OutOfRange error := by
  cases x with
  | finite negative q => cases h
  | infinite negative =>
      cases h
      exact .inr (.inl rfl)
  | nan =>
      cases h
      exact .inr (.inr rfl)

omit [Externals] in
theorem truncMagnitude_nonneg {x : Binary64.Value} {n : Int} (h : truncMagnitude x = .ok n) :
    0 ≤ n := by
  cases x with
  | finite negative q =>
      cases h
      exact Int.floor_nonneg.mpr (abs_nonneg q)
  | infinite negative => cases h
  | nan => cases h

omit [Externals] in
theorem create_error {spec : InstrumentSpec} {price : Decimal} {moves : List Decimal}
    {error : PyError} (h : BarPrices.create spec price moves = .error error) : OutOfRange error := by
  unfold BarPrices.create at h
  rcases bind_error h with h | ⟨_, -, h⟩
  · exact quantizePrice_error h
  · rcases bind_error h with h | ⟨_, -, h⟩
    · exact quantizePrice_error h
    · rcases bind_error h with h | ⟨_, -, h⟩
      · exact quantizePrice_error h
      · rcases bind_error h with h | ⟨_, -, h⟩
        · exact quantizePrice_error h
        · cases h

omit [Externals] in
theorem quote_error {close : Decimal} {spreadPoints : Int} {error : PyError}
    (h : generator.quote close spreadPoints = .error error) : OutOfRange error := by
  unfold quote at h
  rcases bind_error h with h | ⟨_, -, h⟩
  · exact quantizePrice_error h
  · rcases bind_error h with h | ⟨_, -, h⟩
    · exact quantizePrice_error h
    · cases h

omit [Externals] in
theorem priceToPoints_error {distance point : Decimal} {error : PyError}
    (h : priceToPoints distance point = .error error) : OutOfRange error := by
  unfold priceToPoints at h
  split at h
  · cases h
    exact .inr (.inr rfl)
  · split at h
    · cases h
    · cases h
      exact .inl rfl

omit [Externals] in
theorem shift_outOfRange {wall : Int} {span : Timedelta} {error : PyError}
    (h : PyDatetime.shift wall span = .error error) : OutOfRange error :=
  .inr (.inl (PyDatetime.shift_error h))

theorem sessionMultiplier_error {config : SyntheticMarketConfig} {moment : UtcDatetime}
    {error : PyError} (h : config.sessionMultiplier moment = .error error) : OutOfRange error := by
  unfold SyntheticMarketConfig.sessionMultiplier at h
  split at h
  · cases h
  · rcases bind_error h with h | ⟨_, -, h⟩
    · exact shift_outOfRange h
    · cases h

variable (generator)

omit [Externals] in
theorem drawMoves_yields (drift : Int) (volatility n : Nat) :
    Raising.Yields OutOfRange (fun _ => True) (generator.drawMoves drift volatility n) := by
  induction n with
  | zero => exact Raising.Yields.pure trivial
  | succ n ih =>
      unfold drawMoves
      refine Raising.Yields.bind (A := fun _ => True) ?_ fun drawn _ => ?_
      · exact fun r => ⟨fun _ _ => trivial, fun e he => by cases he⟩
      · refine Raising.Yields.bind (A := fun _ => True)
          (Raising.Yields.lift (fun _ _ => trivial) fun _ => roundFloat_error) fun points _ => ?_
        exact ih.bind fun moves _ => Raising.Yields.pure trivial

omit [Externals] in
theorem drawSpread_yields (hspread : 0 ≤ generator.config.baseSpreadPoints) (volatility : Nat) :
    Raising.Yields OutOfRange (fun spread => 0 ≤ spread) (generator.drawSpread volatility) := by
  unfold drawSpread
  refine Raising.Yields.bind (A := fun _ => True)
    (Raising.Yields.lift (fun _ _ => trivial) ?_) fun deviation _ => ?_
  · intro error h
    unfold trueDivide at h
    split at h
    · cases h
    · cases h
      exact .inr (.inl rfl)
  · refine Raising.Yields.bind (A := fun _ => True) ?_ fun drawn _ => ?_
    · exact fun r => ⟨fun _ _ => trivial, fun e he => by cases he⟩
    · refine Raising.Yields.bind (A := fun extra => 0 ≤ extra)
        (Raising.Yields.lift (fun _ => truncMagnitude_nonneg) fun _ => truncMagnitude_error)
        fun extra hextra => ?_
      exact Raising.Yields.pure (Int.add_nonneg hspread hextra)

/-- **The contracts never refuse what is generated.** -/
theorem generateTick_error (hwell : generator.WellConfigured) {index : Nat} {clock : UtcDatetime}
    {price : Decimal} (hprice : BarPrices.step generator.spec ≤ price) :
    Raising.Yields OutOfRange (fun _ => True) (generator.generateTick index clock price) := by
  unfold generateTick
  refine Raising.Yields.bind (A := fun _ => True)
    (Raising.Yields.lift (fun _ _ => trivial) ?_) fun regime _ => ?_
  · intro error h
    unfold SyntheticMarketConfig.regimeAt at h
    rw [if_neg hwell.regime] at h
    cases h
  refine Raising.Yields.bind (A := fun _ => True)
    (Raising.Yields.lift (fun _ _ => trivial) fun _ => sessionMultiplier_error) fun sessionScale _ => ?_
  refine (generator.drawMoves_yields _ _ _).bind fun moves _ => ?_
  refine Raising.Yields.bind
    (A := fun prices => BarPrices.Formed generator.spec price prices
      ∧ (0 < prices.openPrice ∧ 0 < prices.high ∧ 0 < prices.low ∧ 0 < prices.close))
    (Raising.Yields.lift
      (fun _ h => ⟨BarPrices.create_formed h, BarPrices.create_pos hprice hwell.floor h⟩)
      fun _ => create_error) fun prices hprices => ?_
  refine (generator.drawSpread_yields hwell.spread _).bind fun spread hspread => ?_
  refine (generator.drawInt_yields (by decide)).bind fun latency _ => ?_
  refine Raising.Yields.bind (A := fun _ => True)
    (Raising.Yields.lift (fun _ _ => trivial) fun _ => shift_outOfRange) fun received _ => ?_
  refine Raising.Yields.bind (A := fun _ => True) (Raising.Yields.lift (fun _ _ => trivial) ?_)
    fun event _ => ?_
  · intro error h
    split at h
    · exact shift_outOfRange h
    · cases h
  refine Raising.Yields.bind (A := fun _ => True)
    (Raising.Yields.lift (fun _ _ => trivial) fun _ => quote_error) fun quote _ => ?_
  refine (generator.drawInt_yields (by decide)).bind fun volume hvolume => ?_
  refine Raising.Yields.bind (A := fun _ => True) (Raising.Yields.lift (fun _ _ => trivial) ?_)
    fun bar _ => ?_
  · intro error h
    have hspreadPoints : 0 ≤ (if generator.config.faults.faultAt index = some .spreadSpike then
        spread * generator.config.faults.spreadSpikeMultiplier else spread) := by
      split
      · exact Int.mul_nonneg hspread hwell.spike
      · exact hspread
    have haccepted : ∃ bar, Bar.construct clock prices volume _ = .ok bar :=
      Bar.construct_of_formed hprices.1 hprices.2 (by omega) hspreadPoints
    obtain ⟨bar, hbar⟩ := haccepted
    rw [hbar] at h
    cases h
  exact Raising.Yields.bind (A := fun _ => True)
    (Raising.Yields.lift (fun _ _ => trivial) fun _ => priceToPoints_error)
    fun quoted _ => Raising.Yields.pure trivial

variable {generator}

omit [Externals] in
/-- A price as it is quoted is no lower than a step, being positive. -/
theorem step_le_of_settled {price : Price}
    (h : Ict.quantizePrice price.val generator.spec.digits .halfEven = .ok price.val) :
    BarPrices.step generator.spec ≤ price.val := by
  have hexp := Decimal.exp_quantize (Ict.quantizePrice_ok h)
  have hpositive := price.property
  rw [Decimal.pos_iff_value] at hpositive
  have hpow : (0 : ℚ) < 10 ^ price.val.exp := by positivity
  have hcoeff : 0 < price.val.coeff := by
    unfold Decimal.value at hpositive
    exact_mod_cast pos_of_mul_pos_left hpositive hpow.le
  rw [Decimal.le_iff_value]
  unfold Decimal.value BarPrices.step
  dsimp only
  rw [hexp, Int.cast_one]
  have hone : (1 : ℚ) ≤ price.val.coeff := by exact_mod_cast hcoeff
  exact mul_le_mul_of_nonneg_right hone (by positivity)

theorem advance_error (hwell : generator.WellConfigured) {s : GeneratorState ρ}
    (hprice : BarPrices.step generator.spec ≤ s.price) {tick : Option GeneratedTick}
    {error : PyError} (h : generator.advance s = (tick, .error error)) : OutOfRange error := by
  have hslot : ∀ {t : GeneratorState ρ}, generator.nextSlot t = .error error → OutOfRange error := by
    intro t hnext
    rcases generator.nextSlot_cases t with hok | ⟨raised, hraised, hkind⟩
    · cases hok.symm.trans hnext
    · cases hraised.symm.trans hnext
      exact .inr (.inl hkind)
  unfold advance at h
  cases hskips : generator.skips s.clock with
  | error raised =>
      rw [hskips] at h
      obtain ⟨-, hsame⟩ := Prod.mk.inj h
      cases hsame
      unfold skips at hskips
      split at hskips
      · rcases bind_error hskips with hskips | ⟨_, -, hskips⟩
        · exact shift_outOfRange hskips
        · cases hskips
      · cases hskips
  | ok skip =>
      rw [hskips] at h
      cases skip with
      | true => exact hslot (Prod.mk.inj h).2
      | false =>
          dsimp only at h
          cases htick : generator.generateTick s.index s.clock s.price s.random with
          | mk outcome random =>
              rw [htick] at h
              cases outcome with
              | error raised =>
                  obtain ⟨-, hsame⟩ := Prod.mk.inj h
                  cases hsame
                  exact (generator.generateTick_error hwell hprice s.random).2 _ (by rw [htick])
              | ok made => exact hslot (Prod.mk.inj h).2

/-- **A run raises only what is out of range.** -/
theorem generateTicks_error (hwell : generator.WellConfigured) {turns : Nat}
    {s : GeneratorState ρ} (hprice : BarPrices.step generator.spec ≤ s.price) {error : PyError}
    (h : (generator.generateTicks turns s).2 = .raised error) : OutOfRange error := by
  by_cases hmore : (s.index : Int) < generator.config.barCount
  swap
  · rw [generator.generateTicks_done hmore] at h
    cases h
  induction turns generalizing s with
  | zero =>
      rw [generator.generateTicks_zero hmore] at h
      cases h
  | succ turns ih =>
      rcases hadvance : generator.advance s with ⟨tick, raised | s'⟩
      · rw [generator.generateTicks_raised hmore hadvance] at h
        cases h
        exact advance_error hwell hprice hadvance
      · rw [generator.generateTicks_turn hmore hadvance] at h
        by_cases hmore' : (s'.index : Int) < generator.config.barCount
        swap
        · rw [generator.generateTicks_done hmore'] at h
          cases h
        refine ih ?_ h hmore'
        rcases generator.advance_cases s with ⟨raised, hraised⟩
          | ⟨tick, t, hturn, hsame | ⟨raised, hraised, -⟩⟩
        · cases hadvance.symm.trans hraised
        · cases hadvance.symm.trans hsame
          cases hturn with
          | skipped hshut => exact hprice
          | emitted hopen hmade => exact step_le_of_settled hmade.settled
        · cases hadvance.symm.trans hraised

end Generator

/-! ## The feed of a replay -/

namespace Sample

/-- Dice that always fall the same way. -/
def dice : RandomSource Unit where
  seeded _ := ()
  gauss mean _ r := (.finite (decide (mean < 0)) |(mean : ℚ)|, r)
  randint a _ r := (a, r)
  randint_mem a _ _ h := ⟨Int.le_refl a, h⟩

/-- Three bars, of which the last is quoted late. -/
def walk : Generator Unit where
  config := { barCount := 3, faults := { staleTickEvery := 2 } }
  spec := spec
  source := dice

theorem easternTime : Generator.EasternTime := by
  intro t
  show hours (-5) ≤ hours (-4) ∧ hours (-4) ≤ hours (-4)
  decide

theorem walk_well : walk.WellConfigured where
  start := by decide
  floor := by decide
  spread := by decide
  spike := by decide
  regime := by decide

end Sample

section

variable {ρ : Type} [Externals] (generator : Generator ρ) (startTime : UtcDatetime)

end

section

variable {ρ : Type} [Externals] (generator : Generator ρ) (startTime : UtcDatetime)

/-- **The generator comes to an end**, with every bar made, unless a number or a time grew out of
range. -/
theorem synthetic_feed_ends (hclock : Generator.EasternTime)
    (hwell : generator.WellConfigured) (hpos : 0 < generator.config.barInterval)
    (hshort : generator.config.skipWeekend = true → generator.config.barInterval ≤ hours 119) :
    ∃ turns, ∀ more,
      let run := generator.generateTicks (turns + more) (generator.begin startTime)
      run.2 = .finished ∧ run.1.length = generator.config.barCount.toNat
        ∨ ∃ error, run.2 = .raised error ∧ Generator.OutOfRange error := by
  obtain ⟨turns, hends⟩ :=
    Generator.ends (Generator.reopens_config hclock hpos hshort) (generator.begin startTime)
  refine ⟨turns, fun more => ?_⟩
  rw [generator.generateTicks_stable hends more]
  obtain ⟨hmost, hall⟩ := generator.generateTicks_count turns (generator.begin startTime)
  have hindex : (generator.begin startTime).index = 0 := rfl
  rw [hindex] at hmost hall
  cases hgeneration : (generator.generateTicks turns (generator.begin startTime)).2 with
  | running => exact absurd hgeneration hends
  | finished =>
      have hcount := hall hgeneration
      exact .inl ⟨hgeneration, by omega⟩
  | raised error =>
      have hprice : BarPrices.step generator.spec ≤ (generator.begin startTime).price := hwell.start
      exact .inr ⟨error, hgeneration, Generator.generateTicks_error hwell hprice hgeneration⟩

end

open Sample in
theorem synthetic_feed_ends_walk : ∃ turns, ∀ more,
    let run := walk.generateTicks (turns + more) (walk.begin noon)
    run.2 = .finished ∧ run.1.length = 3
      ∨ ∃ error, run.2 = .raised error ∧ Generator.OutOfRange error :=
  synthetic_feed_ends walk noon easternTime walk_well (by decide) fun _ => by decide

end Crumblr
