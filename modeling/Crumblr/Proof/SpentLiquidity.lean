import Crumblr.Lib.Raising
import Crumblr.Proof.IctSetups
import Crumblr.Proof.PoolPartition
import Crumblr.Proof.Relaxation

/-!
# When the liquidity an intent names is unspent

A level is spent once a bar that opened after its swing has traded through it. A sweep looks for such
a bar only after the latest swing merged into the level's pool, and a target looks for none at all.
What they miss is exactly what makes the levels of an intent spent ones.
-/

namespace Crumblr

/-! ## Trading through a level -/

/-- Whether a bar traded through a level that has its stops above it, or below. -/
def tradesThrough (isBuySide : Bool) (level : Decimal) (bar : Bar) : Bool :=
  if isBuySide then decide (level < bar.high.val) else decide (bar.low.val < level)

theorem LiquidityPool.tradedThroughBy_eq (pool : LiquidityPool) (bar : Bar) :
    pool.tradedThroughBy bar = tradesThrough pool.isBuySide pool.price bar := rfl

/-- Only the value of a level matters. -/
theorem tradesThrough_congr {isBuySide : Bool} {level level' : Decimal}
    (h : level.value = level'.value) (bar : Bar) :
    tradesThrough isBuySide level bar = tradesThrough isBuySide level' bar := by
  unfold tradesThrough
  simp only [Decimal.lt_iff_value, h]

/-- No bar up to an index that opened after a moment traded through the level. -/
def UntradedSince (bars : List Bar) (isBuySide : Bool) (level : Decimal) (since : UtcDatetime)
    (index : Nat) : Prop :=
  ∀ bar ∈ bars.take index, since < bar.openTimeUtc → tradesThrough isBuySide level bar = false

/-- A swing set the level, and no bar up to the index has traded through it since. -/
def Unspent (bars : List Bar) (swings : List SwingPoint) (isBuySide : Bool) (level : Decimal)
    (index : Nat) : Prop :=
  ∃ swing ∈ swings, swing.price.value = level.value
    ∧ UntradedSince bars isBuySide level swing.timeUtc index

/-- A swing set the pool's level, and no bar up to the index traded through it until the latest swing
of the pool. -/
def MergedUntraded (bars : List Bar) (swings : List SwingPoint) (pool : LiquidityPool)
    (index : Nat) : Prop :=
  ∃ swing ∈ swings, swing.price.value = pool.price.value
    ∧ ∀ bar ∈ bars.take index, swing.timeUtc < bar.openTimeUtc → bar.openTimeUtc ≤ pool.timeUtc →
      pool.tradedThroughBy bar = false

variable {bars : List Bar} {swings : List SwingPoint} {pool : LiquidityPool} {isBuySide : Bool}
  {level : Decimal} {index : Nat}

/-- What the first touch of a pool is the first of. -/
theorem le_firstTouchIndex_iff (hindex : index ≤ bars.length) :
    index ≤ firstTouchIndex bars pool
      ↔ UntradedSince bars pool.isBuySide pool.price pool.timeUtc index := by
  unfold firstTouchIndex UntradedSince
  constructor
  · intro h bar hbar hafter
    obtain ⟨i, hi, rfl⟩ := List.mem_iff_getElem.mp hbar
    rw [List.length_take] at hi
    rw [List.getElem_take] at hafter ⊢
    have hno := List.not_of_lt_findIdx (show i < _ from lt_of_lt_of_le (by omega) h)
    rw [decide_eq_true hafter, Bool.true_and] at hno
    rw [← LiquidityPool.tradedThroughBy_eq]
    simpa using hno
  · intro h
    by_contra hlt
    rw [not_le] at hlt
    have htouch := List.findIdx_getElem (w := lt_of_lt_of_le hlt hindex)
    rw [Bool.and_eq_true, decide_eq_true_eq] at htouch
    have hno := h _ (List.mem_take_iff_getElem.mpr
      ⟨_, lt_min hlt (lt_of_lt_of_le hlt hindex), rfl⟩) htouch.1
    rw [← LiquidityPool.tradedThroughBy_eq, htouch.2] at hno
    cases hno

/-- **A pool that has not been touched since it formed is unspent just when its level was not traded
through while it was forming.** -/
theorem unspent_iff_merged (swings : List SwingPoint) (hlevel : pool.price.value = level.value)
    (hside : pool.isBuySide = isBuySide)
    (htouch : UntradedSince bars pool.isBuySide pool.price pool.timeUtc index) :
    Unspent bars swings isBuySide level index ↔ MergedUntraded bars swings pool index := by
  subst hside
  constructor
  · rintro ⟨swing, hswing, hprice, huntraded⟩
    refine ⟨swing, hswing, hprice.trans hlevel.symm, fun bar hbar hafter _ => ?_⟩
    rw [LiquidityPool.tradedThroughBy_eq, tradesThrough_congr hlevel]
    exact huntraded bar hbar hafter
  · rintro ⟨swing, hswing, hprice, hforming⟩
    refine ⟨swing, hswing, hprice.trans hlevel, fun bar hbar hafter => ?_⟩
    rw [← tradesThrough_congr hlevel]
    rcases le_or_gt bar.openTimeUtc pool.timeUtc with hbefore | hsince
    · exact hforming bar hbar hafter hbefore
    · exact htouch bar hbar hsince

/-! ## The pool of a level -/

theorem mem_findLiquidityPools {tolerance : Decimal}
    (h : pool ∈ findLiquidityPools swings isBuySide tolerance) :
    ∃ c ∈ buckets swings tolerance, Pooled isBuySide c pool := by
  rw [(findLiquidityPools_perm swings isBuySide tolerance).mem_iff] at h
  exact Traverse.exists_left (forall₂_bucketPools swings isBuySide tolerance) h

/-- A swing at a pool's level is one of the pool's. -/
theorem time_le_of_level {tolerance : Decimal} (htolerance : 0 ≤ tolerance.value)
    (h : pool ∈ findLiquidityPools swings isBuySide tolerance) {swing : SwingPoint}
    (hswing : swing ∈ swings) (hlevel : swing.price.value = pool.price.value) :
    swing.timeUtc ≤ pool.timeUtc := by
  obtain ⟨c, hc, hpool⟩ := mem_findLiquidityPools h
  obtain ⟨setting, hsetting, hprice⟩ := hpool.level
  rw [← (flatten_buckets_perm swings tolerance).mem_iff] at hswing
  obtain ⟨d, hd, hswing⟩ := List.mem_flatten.mp hswing
  have hsame : swing.price.value = setting.price.value := by rw [hprice, hlevel]
  -- levels of one value are near each other, so their clusters are one
  have hfar := Clusters.far_of_splitBy (nearLevels tolerance)
    (fun hab hbc hcd => nearLevels_mono hab hbc hcd) (byPrice_pairwise swings)
  rw [← buckets_eq] at hfar
  have hnear : ∀ v, nearLevels tolerance v v = true := nearLevels_self htolerance
  obtain ⟨i, hi, rfl⟩ := List.mem_iff_getElem.mp hc
  obtain ⟨j, hj, rfl⟩ := List.mem_iff_getElem.mp hd
  rcases lt_trichotomy i j with hij | rfl | hji
  · have hcut := (List.pairwise_iff_getElem.mp hfar i j hi hj hij setting hsetting swing hswing).2
    rw [hsame, hnear] at hcut
    cases hcut
  · exact hpool.latest swing hswing
  · have hcut := (List.pairwise_iff_getElem.mp hfar j i hj hi hji swing hswing setting hsetting).2
    rw [hsame, hnear] at hcut
    cases hcut

/-! ## The sweep and its pool -/

theorem mem_of_foldl_deeper {sweep : LiquiditySweep} (candidates : List LiquiditySweep)
    (best : Option LiquiditySweep) (h : candidates.foldl deeper best = some sweep) :
    sweep ∈ candidates ∨ best = some sweep := by
  induction candidates generalizing best with
  | nil => exact .inr h
  | cons candidate candidates ih =>
      rcases ih _ h with hin | hbest
      · exact .inl (List.mem_cons_of_mem _ hin)
      · cases best with
        | none =>
            cases hbest
            exact .inl List.mem_cons_self
        | some held =>
            unfold deeper at hbest
            dsimp only at hbest
            split at hbest
            · cases hbest
              exact .inl List.mem_cons_self
            · exact .inr hbest

/-- The pool that a sweep is of. -/
structure SweptPool (bars : List Bar) (pool : LiquidityPool) (sweep : LiquiditySweep) : Prop where
  level : pool.price = sweep.sweptLevel
  direction : sweep.direction = if pool.isBuySide then .sell else .buy
  index : sweep.barIndex ≤ bars.length
  untouched : sweep.barIndex ≤ firstTouchIndex bars pool
  positive : 0 < sweep.extreme

theorem sweptPool_of_sweepBy {minPenetration : Decimal} {requireCloseBackInside : Bool} {bar : Bar}
    {sweep : LiquiditySweep} (hindex : index ≤ bars.length)
    (h : sweepBy minPenetration requireCloseBackInside bars index bar pool = some sweep) :
    SweptPool bars pool sweep := by
  unfold sweepBy at h
  split at h
  · cases h
  split at h
  · cases h
  rename_i htouch
  split at h
  · cases h
  extract_lets candidate at h
  split at h
  · cases h
  split at h
  · cases h
  obtain rfl := Option.some.inj h
  rw [Nat.not_lt] at htouch
  cases hside : pool.isBuySide with
  | true =>
      have hcandidate : candidate.sweptLevel = pool.price ∧ candidate.direction = .sell
          ∧ candidate.barIndex = index ∧ candidate.extreme = bar.high.val := by
        simp [candidate, hside]
      obtain ⟨hlevel, hdirection, hbar, hextreme⟩ := hcandidate
      refine ⟨hlevel.symm, ?_, hbar ▸ hindex, hbar ▸ htouch, hextreme ▸ bar.high.property⟩
      rw [hdirection, if_pos hside]
  | false =>
      have hcandidate : candidate.sweptLevel = pool.price ∧ candidate.direction = .buy
          ∧ candidate.barIndex = index ∧ candidate.extreme = bar.low.val := by
        simp [candidate, hside]
      obtain ⟨hlevel, hdirection, hbar, hextreme⟩ := hcandidate
      refine ⟨hlevel.symm, ?_, hbar ▸ hindex, hbar ▸ htouch, hextreme ▸ bar.low.property⟩
      rw [hdirection, hside, if_neg Bool.false_ne_true]

theorem sweptPool_of_detectSweep {pools : List LiquidityPool} {lookback : Int}
    {minPenetration : Decimal} {requireCloseBackInside : Bool} {sweep : LiquiditySweep}
    (h : detectSweep bars pools lookback minPenetration requireCloseBackInside = some sweep) :
    ∃ pool ∈ pools, SweptPool bars pool sweep := by
  rcases mem_of_foldl_deeper _ _ h with hmem | hnone
  · unfold candidateSweeps at hmem
    obtain ⟨i, -, hi⟩ := List.mem_flatMap.mp hmem
    cases hbar : bars[i]? with
    | none =>
        rw [hbar] at hi
        cases hi
    | some bar =>
        rw [hbar] at hi
        obtain ⟨pool, hpool, hsweep⟩ := List.mem_filterMap.mp hi
        obtain ⟨hlength, -⟩ := List.getElem?_eq_some_iff.mp hbar
        exact ⟨pool, hpool, sweptPool_of_sweepBy hlength.le hsweep⟩
  · cases hnone

/-! ## The target and its pool -/

theorem nearestTarget_mem {pools : List LiquidityPool} {fromPrice : Decimal} {direction : Side}
    (h : nearestTarget pools fromPrice direction = some level) :
    ∃ pool ∈ pools, pool.price = level := by
  have hmem : level ∈ pools.map (·.price) := by
    unfold nearestTarget at h
    split at h
    · split at h
      · cases h
      · rename_i price prices hfilter
        cases h
        have hfound := (Decimal.foldl_min price prices).1
        rw [← hfilter] at hfound
        exact List.mem_of_mem_filter hfound
    · split at h
      · cases h
      · rename_i price prices hfilter
        cases h
        have hfound := (Decimal.foldl_max price prices).1
        rw [← hfilter] at hfound
        exact List.mem_of_mem_filter hfound
  exact List.mem_map.mp hmem

namespace Ict

/-- The swings that the levels of a side come from. -/
def swingsOn (read : StructureRead) (isBuySide : Bool) : List SwingPoint :=
  if isBuySide then read.swingHighs else read.swingLows

/-- The side of the level a sweep took out. -/
def sweptSide (sweep : LiquiditySweep) : Bool := sweep.direction == .sell

/-- The side a trade in the sweep's direction has its target on. -/
def targetSide (sweep : LiquiditySweep) : Bool := sweep.direction == .buy

/-- The levels an intent names are unspent: the swept one up to the sweep's bar, a target up to the
last bar. -/
def LevelsUnspent (bars : List Bar) (read : StructureRead) (sweep : LiquiditySweep)
    (target : Option Decimal) : Prop :=
  Unspent bars (swingsOn read (sweptSide sweep)) (sweptSide sweep) sweep.sweptLevel sweep.barIndex
    ∧ ∀ level ∈ target, Unspent bars (swingsOn read (targetSide sweep)) (targetSide sweep) level
      bars.length

/-- The swept pool was not traded through while it was forming; the target's pool was not either,
and has not been touched since. -/
def PoolsUntouched (bars : List Bar) (read : StructureRead) (sweep : LiquiditySweep)
    (target : Option Decimal) : Prop :=
  (∀ pool ∈ poolsOf read (sweptSide sweep), pool.price.value = sweep.sweptLevel.value →
      MergedUntraded bars (swingsOn read (sweptSide sweep)) pool sweep.barIndex)
    ∧ ∀ level ∈ target, ∀ pool ∈ poolsOf read (targetSide sweep), pool.price.value = level.value →
      firstTouchIndex bars pool = bars.length
        ∧ MergedUntraded bars (swingsOn read (targetSide sweep)) pool bars.length

variable {read : StructureRead} {config : IctConfig} {sweep : LiquiditySweep}

theorem equalityTolerance_nonneg : 0 ≤ equalityTolerance.value := by
  unfold equalityTolerance Decimal.value
  norm_num

theorem isBuySide_of_mem_poolsOf (h : pool ∈ poolsOf read isBuySide) :
    pool.isBuySide = isBuySide := by
  obtain ⟨c, -, hpool⟩ := mem_findLiquidityPools h
  exact hpool.side

/-- The swept level is a pool's that was untouched since it formed. -/
theorem sweepOf_pool (h : sweepOf bars config read = some sweep) :
    ∃ pool ∈ poolsOf read (sweptSide sweep), SweptPool bars pool sweep := by
  obtain ⟨pool, hpool, hswept⟩ := sweptPool_of_detectSweep h
  refine ⟨pool, ?_, hswept⟩
  have hdirection := hswept.direction
  unfold sweptSide
  rcases List.mem_append.mp hpool with hbuy | hsell
  · rw [isBuySide_of_mem_poolsOf hbuy] at hdirection
    rw [hdirection]
    exact hbuy
  · rw [isBuySide_of_mem_poolsOf hsell] at hdirection
    rw [hdirection]
    exact hsell

/-- **The swept level is unspent just when its pool was not traded through while it formed.** -/
theorem sweptLevel_unspent_iff (h : sweepOf bars config read = some sweep) :
    Unspent bars (swingsOn read (sweptSide sweep)) (sweptSide sweep) sweep.sweptLevel sweep.barIndex
      ↔ ∀ pool ∈ poolsOf read (sweptSide sweep), pool.price.value = sweep.sweptLevel.value →
        MergedUntraded bars (swingsOn read (sweptSide sweep)) pool sweep.barIndex := by
  obtain ⟨found, hfound, hswept⟩ := sweepOf_pool h
  have htouch := (le_firstTouchIndex_iff hswept.index).mp hswept.untouched
  have hiff := unspent_iff_merged (swingsOn read (sweptSide sweep))
    (congrArg Decimal.value hswept.level) (isBuySide_of_mem_poolsOf hfound) htouch
  constructor
  · rintro ⟨swing, hswing, hprice, huntraded⟩ pool hpool hlevel
    refine ⟨swing, hswing, hprice.trans hlevel.symm, fun bar hbar hafter _ => ?_⟩
    rw [LiquidityPool.tradedThroughBy_eq, tradesThrough_congr hlevel, isBuySide_of_mem_poolsOf hpool]
    exact huntraded bar hbar hafter
  · intro hmerged
    exact hiff.mpr (hmerged found hfound (congrArg Decimal.value hswept.level))

/-- **A target is unspent just when its pool is untouched**, since it formed and while it did. -/
theorem target_unspent_iff (h : ∃ pool ∈ poolsOf read isBuySide, pool.price = level) :
    Unspent bars (swingsOn read isBuySide) isBuySide level bars.length
      ↔ ∀ pool ∈ poolsOf read isBuySide, pool.price.value = level.value →
        firstTouchIndex bars pool = bars.length
          ∧ MergedUntraded bars (swingsOn read isBuySide) pool bars.length := by
  have htouch : ∀ pool, firstTouchIndex bars pool = bars.length
      ↔ UntradedSince bars pool.isBuySide pool.price pool.timeUtc bars.length := by
    intro pool
    rw [← le_firstTouchIndex_iff (le_refl _)]
    have hle : firstTouchIndex bars pool ≤ bars.length := List.findIdx_le_length
    omega
  constructor
  · rintro ⟨swing, hswing, hprice, huntraded⟩ pool hpool hlevel
    have hside := isBuySide_of_mem_poolsOf hpool
    have hformed : swing.timeUtc ≤ pool.timeUtc :=
      time_le_of_level equalityTolerance_nonneg hpool hswing (hprice.trans hlevel.symm)
    have huntouched : UntradedSince bars pool.isBuySide pool.price pool.timeUtc bars.length := by
      intro bar hbar hafter
      rw [tradesThrough_congr hlevel, hside]
      exact huntraded bar hbar (lt_of_le_of_lt hformed hafter)
    refine ⟨(htouch pool).mpr huntouched, ?_⟩
    exact (unspent_iff_merged _ hlevel hside huntouched).mp ⟨swing, hswing, hprice, huntraded⟩
  · intro hall
    obtain ⟨pool, hpool, rfl⟩ := h
    obtain ⟨huntouched, hmerged⟩ := hall pool hpool rfl
    exact (unspent_iff_merged _ rfl (isBuySide_of_mem_poolsOf hpool) ((htouch pool).mp huntouched)).mpr
      hmerged

/-! ## What an intent names -/

section

variable [Externals] {snapshot : MarketSnapshot} {spec : InstrumentSpec} {context : AgentContext}
  {decision : StrategyDecision} {features : Option IctFeatureSnapshot} {intent : TradeIntent}

/-- What an intent and its evidence name: the sweep, and the level of the target where it's put at
one. -/
structure Names (bars : List Bar) (spec : InstrumentSpec) (config : IctConfig)
    (intent : TradeIntent) (shown : IctFeatureSnapshot) (read : StructureRead)
    (sweep : LiquiditySweep) (target : Option Decimal) : Prop where
  structureRead :
    readStructure bars config.swingStrength config.structureLookbackBars = .ok read
  detected : sweepOf bars config read = some sweep
  sweptLevel : shown.sweptLevel = some sweep.sweptLevel
  direction : intent.side = sweep.direction
  liquidityTarget : "liquidity_target" ∈ shown.conditionsMet ↔ target.isSome = true
  nearest : ∀ level ∈ target, nearestTarget (poolsOf read (targetSide sweep))
    intent.referencePrice.val intent.side = some level
  placed : ∀ level ∈ target, ∃ price, intent.takeProfitPrice = some price
    ∧ quantizeAhead intent.side level spec.digits = .ok price.val

/-- Every intent names a sweep, and its target is at a level just when its evidence says so. -/
theorem names_of_intent (h : evaluate snapshot bars spec context config = .ok (decision, features))
    (hintent : decision.intent = some intent) :
    ∃ shown read sweep target, features = some shown
      ∧ Names bars spec config intent shown read sweep target := by
  obtain ⟨read, shown, hread, hrun, rfl⟩ := evaluate_intent h hintent
  rw [runConditions_eq] at hrun
  obtain ⟨⟨evaluation, sweep, range⟩, hsetup, htrade⟩ := goes_on hrun
  obtain ⟨-, hsweep, -, hmet⟩ := setupOf_ok hsetup
  unfold tradeOf at htrade
  obtain ⟨stop, -, htrade⟩ := goes_on htrade
  obtain ⟨⟨evaluation', placed, price⟩, htarget, htrade⟩ := goes_on htrade
  obtain ⟨-, rfl, hquantized, -⟩ := checkTarget_ok htarget
  obtain ⟨hside, hreference, -, hprofit, hlevel, -, hconditions⟩ :=
    propose_ok (attempt_ok htrade)
  generalize htargetLevel : targetLevelOf config read sweep.direction _ _ = target at hconditions
  refine ⟨shown, read, sweep, target, rfl, hread, hsweep, hlevel, hside, ?_, ?_, ?_⟩
  · rw [hconditions, Evaluation.mem_check]
    simp [hmet]
  · rintro level hin
    rw [Option.mem_def.mp hin] at htargetLevel
    rw [hside, hreference]
    exact (Option.filter_eq_some_iff.mp htargetLevel).1
  · rintro level hin
    rw [Option.mem_def.mp hin] at htargetLevel
    refine ⟨price, hprofit, ?_⟩
    unfold levelOf at hquantized
    dsimp only at hquantized
    rw [htargetLevel] at hquantized
    rw [hside]
    exact hquantized

/--
**The levels an intent names are unspent just when their pools are untouched**: the pool of the
swept level while it was forming, and the pool of a target while it was forming and ever since.
-/
theorem levels_unspent_iff
    (h : evaluate snapshot bars spec context config = .ok (decision, features))
    (hintent : decision.intent = some intent) :
    ∃ shown read sweep target, features = some shown
      ∧ Names bars spec config intent shown read sweep target
      ∧ (LevelsUnspent bars read sweep target ↔ PoolsUntouched bars read sweep target) := by
  obtain ⟨shown, read, sweep, target, hfeatures, hnames⟩ := names_of_intent h hintent
  refine ⟨shown, read, sweep, target, hfeatures, hnames, ?_⟩
  refine and_congr (sweptLevel_unspent_iff hnames.detected) (forall₂_congr fun level hin => ?_)
  exact target_unspent_iff (nearestTarget_mem (hnames.nearest level hin))

end

end Ict

/-! ## Spent levels -/

theorem value_eq_iff {x y : Decimal} : x.value = y.value ↔ x ≤ y ∧ y ≤ x := by
  rw [Decimal.le_iff_value, Decimal.le_iff_value]
  exact le_antisymm_iff

instance (bars : List Bar) (swings : List SwingPoint) (isBuySide : Bool) (level : Decimal)
    (index : Nat) : Decidable (Unspent bars swings isBuySide level index) :=
  decidable_of_iff (∃ swing ∈ swings, (swing.price ≤ level ∧ level ≤ swing.price)
      ∧ ∀ bar ∈ bars.take index, swing.timeUtc < bar.openTimeUtc →
        tradesThrough isBuySide level bar = false) (by
    unfold Unspent UntradedSince
    simp only [value_eq_iff])

namespace Sample

/-- Two lows of one pool, with lower ones between them; and an old high that the displacement trades
through. -/
def spent : List Candle :=
  List.replicate 90 still ++ [⟨110000, 110330, 109970, 110010⟩] ++ List.replicate 4 still
    ++ [⟨109990, 109990, 109800, 109900⟩] ++ List.replicate 4 still
    ++ [⟨109990, 109990, 109790, 109900⟩, ⟨109990, 109990, 109790, 109900⟩]
    ++ List.replicate 4 still ++ [⟨109990, 109990, 109815, 109900⟩] ++ List.replicate 7 still
    ++ [⟨110000, 110010, 109700, 109850⟩, ⟨109850, 109880, 109820, 109860⟩,
      ⟨109860, 110250, 109850, 110230⟩, ⟨110230, 110420, 109950, 110400⟩,
      ⟨110400, 110410, 110050, 110100⟩, ⟨110100, 110110, 109900, 109910⟩]

/-- A quiet bar under the range. -/
def lower : Candle := ⟨109840, 109870, 109810, 109850⟩

/-- An old high that stands, and under the range a low and a high; the low is swept and the high
broken. -/
def standing : List Candle :=
  List.replicate 99 still ++ [⟨110000, 110600, 109970, 110010⟩] ++ List.replicate 4 still
    ++ [⟨109990, 109990, 109800, 109850⟩] ++ List.replicate 4 lower
    ++ [⟨109850, 109885, 109830, 109850⟩] ++ List.replicate 4 lower
    ++ [⟨109850, 109860, 109700, 109830⟩, ⟨109830, 109850, 109820, 109845⟩,
      ⟨109845, 110250, 109840, 110230⟩, ⟨110230, 110420, 109950, 110400⟩,
      ⟨110400, 110410, 110050, 110100⟩, ⟨110100, 110110, 109900, 109910⟩]

/-- An evaluation with the defaults. -/
def evaluated (candles : List Candle) :
    Except PyError (StrategyDecision × Option Ict.IctFeatureSnapshot) :=
  Ict.evaluate (quoteFrom 109906 uncrossed_retraced) (series candles) spec idle {}

/-- What an evaluation proposes, with its evidence. -/
def proposed (candles : List Candle) : Option (TradeIntent × Ict.IctFeatureSnapshot) :=
  (evaluated candles).toOption.bind fun outcome =>
    outcome.1.intent.bind fun intent => outcome.2.map fun shown => (intent, shown)

theorem evaluated_of_proposed {candles : List Candle} {intent : TradeIntent}
    {shown : Ict.IctFeatureSnapshot} (h : proposed candles = some (intent, shown)) :
    ∃ decision, evaluated candles = .ok (decision, some shown) ∧ decision.intent = some intent := by
  obtain ⟨⟨decision, features⟩, houtcome, hsome⟩ := Option.bind_eq_some_iff.mp h
  obtain ⟨intent', hintent, hsome⟩ := Option.bind_eq_some_iff.mp hsome
  obtain ⟨shown', hshown, hpair⟩ := Option.map_eq_some_iff.mp hsome
  cases hpair
  refine ⟨decision, ?_, hintent⟩
  cases hrun : evaluated candles with
  | error e =>
      rw [hrun] at houtcome
      cases houtcome
  | ok outcome =>
      rw [hrun] at houtcome
      cases houtcome
      rw [← hshown]

end Sample

namespace Sample

/-- Whether what is proposed names a level on either side, both unspent or both spent. -/
def namesLevels (unspent : Bool) (candles : List Candle) : Bool :=
  (proposed candles).any fun (intent, shown) =>
    decide ("liquidity_target" ∈ shown.conditionsMet)
      && (readStructure (series candles) 2 24).toOption.any fun read =>
        (Ict.sweepOf (series candles) {} read).any fun sweep =>
          decide (Unspent (series candles) (Ict.swingsOn read (Ict.sweptSide sweep))
              (Ict.sweptSide sweep) sweep.sweptLevel sweep.barIndex) == unspent
            && (nearestTarget (Ict.poolsOf read (Ict.targetSide sweep)) intent.referencePrice.val
                intent.side).any fun level =>
              decide (Unspent (series candles) (Ict.swingsOn read (Ict.targetSide sweep))
                (Ict.targetSide sweep) level (series candles).length) == unspent

theorem namesLevels_standing : namesLevels true standing = true := by decide +kernel

theorem namesLevels_spent : namesLevels false spent = true := by decide +kernel

end Sample

open Sample in
/-- An intent that names two unspent levels, so that their pools are untouched. -/
theorem levels_unspent_iff_sample : ∃ decision intent shown read sweep level,
    evaluated standing = .ok (decision, some shown) ∧ decision.intent = some intent
      ∧ Ict.Names (series standing) spec {} intent shown read sweep (some level)
      ∧ Ict.LevelsUnspent (series standing) read sweep (some level)
      ∧ Ict.PoolsUntouched (series standing) read sweep (some level) := by
  have hunspent := namesLevels_standing
  unfold namesLevels at hunspent
  obtain ⟨⟨intent, shown⟩, hproposed, hunspent⟩ := (Option.any_eq_true _ _).mp hunspent
  obtain ⟨decision, hrun, hintent⟩ := evaluated_of_proposed hproposed
  obtain ⟨shown', read, sweep, target, hfeatures, hnames, hiff⟩ :=
    Ict.levels_unspent_iff hrun hintent
  cases hfeatures
  have hread : readStructure (series standing) 2 24 = .ok read := hnames.structureRead
  rw [Bool.and_eq_true, decide_eq_true_eq, hread] at hunspent
  obtain ⟨hmet, hunspent⟩ := hunspent
  obtain ⟨level, rfl⟩ := Option.isSome_iff_exists.mp (hnames.liquidityTarget.mp hmet)
  simp only [Except.toOption, Option.any_some, hnames.detected, hnames.nearest level rfl,
    Bool.and_eq_true, beq_iff_eq, decide_eq_true_eq] at hunspent
  have hlevels : Ict.LevelsUnspent (series standing) read sweep (some level) :=
    ⟨hunspent.1, fun _ hin => Option.some.inj hin ▸ hunspent.2⟩
  exact ⟨decision, intent, shown, read, sweep, level, hrun, hintent, hnames, hlevels,
    hiff.mp hlevels⟩

open Sample in
/-- An intent that names a spent level on either side. -/
theorem names_spent_levels : ∃ decision intent shown read sweep level,
    evaluated spent = .ok (decision, some shown) ∧ decision.intent = some intent
      ∧ Ict.Names (series spent) spec {} intent shown read sweep (some level)
      ∧ ¬ Unspent (series spent) (Ict.swingsOn read (Ict.sweptSide sweep)) (Ict.sweptSide sweep)
        sweep.sweptLevel sweep.barIndex
      ∧ ¬ Unspent (series spent) (Ict.swingsOn read (Ict.targetSide sweep)) (Ict.targetSide sweep)
        level (series spent).length := by
  have hspent := namesLevels_spent
  unfold namesLevels at hspent
  obtain ⟨⟨intent, shown⟩, hproposed, hspent⟩ := (Option.any_eq_true _ _).mp hspent
  obtain ⟨decision, hrun, hintent⟩ := evaluated_of_proposed hproposed
  obtain ⟨shown', read, sweep, target, hfeatures, hnames⟩ := Ict.names_of_intent hrun hintent
  cases hfeatures
  have hread : readStructure (series spent) 2 24 = .ok read := hnames.structureRead
  rw [Bool.and_eq_true, decide_eq_true_eq, hread] at hspent
  obtain ⟨hmet, hspent⟩ := hspent
  obtain ⟨level, rfl⟩ := Option.isSome_iff_exists.mp (hnames.liquidityTarget.mp hmet)
  simp only [Except.toOption, Option.any_some, hnames.detected, hnames.nearest level rfl,
    Bool.and_eq_true, beq_iff_eq, decide_eq_false_iff_not] at hspent
  exact ⟨decision, intent, shown, read, sweep, level, hrun, hintent, hnames, hspent.1, hspent.2⟩

end Crumblr
