import Crumblr.Lib.Clusters
import Crumblr.Lib.DecimalValue
import Crumblr.TradingAgent.Liquidity

/-!
# Liquidity pools partition the swings

Every swing is in one pool, pools are more than the tolerance apart, and neighbours in a pool are not.
Distances add up along a pool, so its ends may be farther apart than the tolerance.
-/

namespace Crumblr

/-! ## Levels -/

/-- Whether prices of these values count as one level after another. -/
def nearLevels (tolerance : Decimal) (v w : ℚ) : Bool :=
  decide (Decimal.rounded |Decimal.rounded (w - v)| ≤ tolerance.value)

variable {tolerance : Decimal} {swings swings' : List SwingPoint} {isBuySide : Bool}

theorem levelsEqual_eq (a b : SwingPoint) :
    levelsEqual tolerance a b = nearLevels tolerance a.price.value b.price.value := by
  unfold levelsEqual nearLevels
  refine decide_eq_decide.mpr ?_
  rw [Decimal.le_iff_value, Decimal.value_abs, Decimal.value_sub]

theorem nearLevels_self (htolerance : 0 ≤ tolerance.value) (v : ℚ) :
    nearLevels tolerance v v = true := by
  unfold nearLevels
  rw [sub_self, Decimal.rounded_zero, abs_zero, Decimal.rounded_zero]
  exact decide_eq_true htolerance

/-- What is farther apart than two levels is farther apart in the rounded difference too. -/
theorem nearLevels_mono {a b c d : ℚ} (hab : a ≤ b) (hbc : b ≤ c) (hcd : c ≤ d)
    (h : nearLevels tolerance b c = false) : nearLevels tolerance a d = false := by
  refine decide_eq_false fun hle => of_decide_eq_false h (le_trans ?_ hle)
  refine Decimal.rounded_mono (abs_le_abs_of_nonneg ?_ ?_)
  · rw [← Decimal.rounded_zero]
    exact Decimal.rounded_mono (sub_nonneg.mpr hbc)
  · exact Decimal.rounded_mono (by linarith)

theorem nearLevels_of_neg (htolerance : tolerance.value < 0) (v w : ℚ) :
    nearLevels tolerance v w = false := by
  refine decide_eq_false fun hle => absurd (lt_of_le_of_lt hle htolerance) (not_lt.mpr ?_)
  rw [← Decimal.rounded_zero]
  exact Decimal.rounded_mono (abs_nonneg _)

/-- The swings by price. -/
def byPrice (swings : List SwingPoint) : List SwingPoint :=
  swings.insertionSort fun a b => a.price ≤ b.price

theorem byPrice_perm (swings : List SwingPoint) : (byPrice swings).Perm swings :=
  List.perm_insertionSort _ _

theorem byPrice_pairwise (swings : List SwingPoint) :
    (byPrice swings).Pairwise fun a b => a.price.value ≤ b.price.value := by
  have htotal : Std.Total fun a b : SwingPoint => a.price ≤ b.price :=
    ⟨fun a b => by
      rw [Decimal.le_iff_value, Decimal.le_iff_value]
      exact le_total _ _⟩
  have htrans : IsTrans SwingPoint fun a b => a.price ≤ b.price :=
    ⟨fun a b c => le_trans⟩
  exact (List.pairwise_insertionSort (fun a b : SwingPoint => a.price ≤ b.price) swings).imp
    Decimal.le_iff_value.mp

theorem buckets_eq (swings : List SwingPoint) (tolerance : Decimal) :
    buckets swings tolerance
      = (byPrice swings).splitBy fun a b => nearLevels tolerance a.price.value b.price.value := by
  unfold buckets byPrice
  congr 1
  funext a b
  exact levelsEqual_eq a b

theorem flatten_buckets_perm (swings : List SwingPoint) (tolerance : Decimal) :
    (buckets swings tolerance).flatten.Perm swings := by
  rw [buckets_eq, List.flatten_splitBy]
  exact byPrice_perm swings

/-- A cluster is in the order of the prices. -/
theorem pairwise_of_mem_buckets {c : List SwingPoint} (h : c ∈ buckets swings tolerance) :
    c.Pairwise fun a b => a.price ≤ b.price := by
  have hsorted : (buckets swings tolerance).flatten.Pairwise
      fun a b => a.price.value ≤ b.price.value := by
    rw [buckets_eq, List.flatten_splitBy]
    exact byPrice_pairwise swings
  exact ((List.pairwise_flatten.mp hsorted).1 c h).imp Decimal.le_iff_value.mpr

/-- Neighbours in a cluster are within the tolerance. -/
theorem isChain_of_mem_buckets {c : List SwingPoint} (h : c ∈ buckets swings tolerance) :
    c.IsChain fun a b => (b.price - a.price).abs ≤ tolerance :=
  (List.isChain_of_mem_splitBy h).imp fun _ _ => of_decide_eq_true

/-! ## A pool and its swings -/

theorem foldl_max_time (t : UtcDatetime) (ts : List UtcDatetime) :
    ts.foldl max t ∈ t :: ts ∧ ∀ u ∈ t :: ts, u ≤ ts.foldl max t := by
  induction ts generalizing t with
  | nil => simp
  | cons u ts ih =>
      obtain ⟨hmem, hle⟩ := ih (max t u)
      have hhead : max t u ≤ ts.foldl max (max t u) := hle _ List.mem_cons_self
      refine ⟨?_, fun v hv => ?_⟩
      · rw [List.foldl_cons]
        rcases List.mem_cons.mp hmem with heq | hin
        · rw [heq]
          rcases max_choice t u with h | h <;> simp [h]
        · exact List.mem_cons_of_mem _ (List.mem_cons_of_mem _ hin)
      · rcases List.mem_cons.mp hv with rfl | hv
        · exact le_trans (le_max_left _ _) hhead
        · rcases List.mem_cons.mp hv with rfl | hv
          · exact le_trans (le_max_right _ _) hhead
          · exact hle v (List.mem_cons_of_mem _ hv)

/-- What a pool says of the swings it's made of. -/
structure Pooled (isBuySide : Bool) (c : List SwingPoint) (pool : LiquidityPool) : Prop where
  side : pool.isBuySide = isBuySide
  touches : pool.touchCount = c.length
  level : ∃ s ∈ c, s.price = pool.price
  extreme : ∀ s ∈ c, if isBuySide then s.price ≤ pool.price else pool.price ≤ s.price
  formed : ∃ s ∈ c, s.timeUtc = pool.timeUtc
  latest : ∀ s ∈ c, s.timeUtc ≤ pool.timeUtc

theorem pooled_of_poolFrom {c : List SwingPoint} {pool : LiquidityPool}
    (h : poolFrom isBuySide c = some pool) : Pooled isBuySide c pool := by
  cases c with
  | nil => cases h
  | cons swing rest =>
      obtain rfl := (Option.some.inj h).symm
      obtain ⟨htime, hlatest⟩ := foldl_max_time swing.timeUtc (rest.map (·.timeUtc))
      rw [← List.map_cons (f := fun s : SwingPoint => s.timeUtc)] at htime hlatest
      refine ⟨rfl, rfl, ?_, ?_, List.mem_map.mp htime, ?_⟩
      · cases isBuySide with
        | true =>
            have hmem := (Decimal.foldl_max swing.price (rest.map (·.price))).1
            rw [← List.map_cons (f := fun s : SwingPoint => s.price)] at hmem
            exact List.mem_map.mp hmem
        | false =>
            have hmem := (Decimal.foldl_min swing.price (rest.map (·.price))).1
            rw [← List.map_cons (f := fun s : SwingPoint => s.price)] at hmem
            exact List.mem_map.mp hmem
      · intro s hs
        have hprice : s.price ∈ swing.price :: rest.map (·.price) :=
          List.mem_map_of_mem (f := fun s : SwingPoint => s.price) hs
        cases isBuySide with
        | true =>
            have hle := (Decimal.foldl_max swing.price (rest.map (·.price))).2 _ hprice
            rw [if_pos rfl]
            exact hle
        | false =>
            have hle := (Decimal.foldl_min swing.price (rest.map (·.price))).2 _ hprice
            rw [if_neg Bool.false_ne_true]
            exact hle
      · intro s hs
        exact hlatest _ (List.mem_map_of_mem (f := fun s : SwingPoint => s.timeUtc) hs)

/-- A pool, whichever way its price is written. -/
def LiquidityPool.shown (pool : LiquidityPool) : ℚ × UtcDatetime × Bool × Nat :=
  (pool.price.value, pool.timeUtc, pool.isBuySide, pool.touchCount)

/-- The pool of a cluster does not depend on the cluster's order. -/
theorem Pooled.shown_eq {c c' : List SwingPoint} {pool pool' : LiquidityPool}
    (h : Pooled isBuySide c pool) (h' : Pooled isBuySide c' pool') (hperm : c.Perm c') :
    pool.shown = pool'.shown := by
  obtain ⟨s, hs, hlevel⟩ := h.level
  obtain ⟨s', hs', hlevel'⟩ := h'.level
  obtain ⟨t, ht, hformed⟩ := h.formed
  obtain ⟨t', ht', hformed'⟩ := h'.formed
  have hprice : pool.price.value = pool'.price.value := by
    have hle := h'.extreme s (hperm.mem_iff.mp hs)
    have hge := h.extreme s' (hperm.mem_iff.mpr hs')
    rw [hlevel] at hle
    rw [hlevel'] at hge
    cases isBuySide with
    | true => exact le_antisymm (Decimal.le_iff_value.mp hle) (Decimal.le_iff_value.mp hge)
    | false => exact le_antisymm (Decimal.le_iff_value.mp hge) (Decimal.le_iff_value.mp hle)
  have htime : pool.timeUtc = pool'.timeUtc := by
    have hle := h'.latest t (hperm.mem_iff.mp ht)
    have hge := h.latest t' (hperm.mem_iff.mpr ht')
    rw [hformed] at hle
    rw [hformed'] at hge
    exact le_antisymm hle hge
  unfold LiquidityPool.shown
  rw [hprice, htime, h.side, h'.side, h.touches, h'.touches, hperm.length_eq]

/-- Every cluster has a pool. -/
theorem poolFrom_isSome {c : List SwingPoint} (h : c ≠ []) :
    ∃ pool, poolFrom isBuySide c = some pool := by
  cases c with
  | nil => exact absurd rfl h
  | cons swing rest => exact ⟨_, rfl⟩

/-- The pools in the order of their prices. -/
def bucketPools (swings : List SwingPoint) (isBuySide : Bool) (tolerance : Decimal) :
    List LiquidityPool :=
  (buckets swings tolerance).filterMap (poolFrom isBuySide)

theorem findLiquidityPools_perm (swings : List SwingPoint) (isBuySide : Bool) (tolerance : Decimal) :
    (findLiquidityPools swings isBuySide tolerance).Perm (bucketPools swings isBuySide tolerance) :=
  List.perm_insertionSort _ _

/-- One pool for each cluster. -/
theorem forall₂_bucketPools (swings : List SwingPoint) (isBuySide : Bool) (tolerance : Decimal) :
    List.Forall₂ (Pooled isBuySide) (buckets swings tolerance)
      (bucketPools swings isBuySide tolerance) := by
  have hnil : [] ∉ buckets swings tolerance := List.nil_notMem_splitBy _ _
  unfold bucketPools
  generalize buckets swings tolerance = cs at hnil ⊢
  induction cs with
  | nil => exact .nil
  | cons c cs ih =>
      obtain ⟨pool, hpool⟩ : ∃ pool, poolFrom isBuySide c = some pool :=
        poolFrom_isSome fun hc => hnil (hc ▸ List.mem_cons_self)
      rw [List.filterMap_cons_some hpool]
      exact .cons (pooled_of_poolFrom hpool) (ih fun h => hnil (List.mem_cons_of_mem _ h))

/-! ## Distances between pools -/

theorem far_iff {p q : Decimal} :
    tolerance < (q - p).abs ↔ nearLevels tolerance p.value q.value = false := by
  unfold nearLevels
  rw [Decimal.lt_iff_value, Decimal.value_abs, Decimal.value_sub, decide_eq_false_iff_not, not_le]

theorem far_comm {p q : Decimal} : tolerance < (q - p).abs ↔ tolerance < (p - q).abs := by
  rw [Decimal.lt_iff_value, Decimal.lt_iff_value, Decimal.value_abs, Decimal.value_abs,
    Decimal.value_sub, Decimal.value_sub, ← neg_sub p.value q.value, Decimal.rounded_neg, abs_neg]

theorem pairwise_bucketPools (swings : List SwingPoint) (isBuySide : Bool) (tolerance : Decimal) :
    (bucketPools swings isBuySide tolerance).Pairwise fun p q =>
      tolerance < (p.price - q.price).abs := by
  have hfar := Clusters.far_of_splitBy (nearLevels tolerance)
    (fun hab hbc hcd => nearLevels_mono hab hbc hcd) (byPrice_pairwise swings)
  rw [← buckets_eq] at hfar
  refine Clusters.pairwise_of_forall₂ (forall₂_bucketPools swings isBuySide tolerance) hfar ?_
  intro c p d q hp hq hcd
  obtain ⟨s, hs, hlevel⟩ := hp.level
  obtain ⟨t, ht, hlevel'⟩ := hq.level
  rw [far_comm, far_iff, ← hlevel, ← hlevel']
  exact (hcd s hs t ht).2

/-! ## The order of the swings -/

theorem map_shown_eq {cs ds : List (List SwingPoint)} {ps qs : List LiquidityPool}
    (hp : List.Forall₂ (Pooled isBuySide) cs ps) (hq : List.Forall₂ (Pooled isBuySide) ds qs)
    (hperm : List.Forall₂ List.Perm cs ds) :
    ps.map (·.shown) = qs.map (·.shown) := by
  induction hperm generalizing ps qs with
  | nil =>
      cases hp
      cases hq
      rfl
  | cons hcd _ ih =>
      cases hp with
      | cons hp hps =>
          cases hq with
          | cons hq hqs => rw [List.map_cons, List.map_cons, hp.shown_eq hq hcd, ih hps hqs]

/-- A pool of one swing. -/
theorem map_shown_of_alone {cs : List (List SwingPoint)} {ps : List LiquidityPool}
    (hp : List.Forall₂ (Pooled isBuySide) cs ps) (halone : ∀ c ∈ cs, c.length = 1) :
    ps.map (·.shown) = cs.flatten.map fun s => (s.price.value, s.timeUtc, isBuySide, 1) := by
  induction hp with
  | nil => rfl
  | @cons c p cs ps hp _ ih =>
      have hlength := halone c List.mem_cons_self
      obtain ⟨s, rfl⟩ := List.length_eq_one_iff.mp hlength
      obtain ⟨s', hs', hlevel⟩ := hp.level
      obtain ⟨t, ht, hformed⟩ := hp.formed
      obtain rfl := List.mem_singleton.mp hs'
      obtain rfl := List.mem_singleton.mp ht
      have hshown : p.shown = (t.price.value, t.timeUtc, isBuySide, 1) := by
        unfold LiquidityPool.shown
        rw [← hlevel, ← hformed, hp.side, hp.touches]
        rfl
      rw [List.map_cons, hshown, ih fun d hd => halone d (List.mem_cons_of_mem _ hd)]
      rfl

/-- **The pools do not depend on the order of the swings.** -/
theorem shown_perm (isBuySide : Bool) (tolerance : Decimal) (hperm : swings.Perm swings') :
    ((bucketPools swings isBuySide tolerance).map (·.shown)).Perm
      ((bucketPools swings' isBuySide tolerance).map (·.shown)) := by
  have hsorted : (byPrice swings).Perm (byPrice swings') :=
    (byPrice_perm swings).trans (hperm.trans (byPrice_perm swings').symm)
  have hp := forall₂_bucketPools swings isBuySide tolerance
  have hq := forall₂_bucketPools swings' isBuySide tolerance
  rcases le_or_gt 0 tolerance.value with htolerance | htolerance
  · have hclusters := Clusters.perm_splitBy (nearLevels tolerance)
      (nearLevels_self htolerance) (fun hab hbc hcd => nearLevels_mono hab hbc hcd)
      (byPrice_pairwise swings) (byPrice_pairwise swings') hsorted
    rw [← buckets_eq, ← buckets_eq] at hclusters
    rw [map_shown_eq hp hq hclusters]
  · have halone : ∀ (swings : List SwingPoint), ∀ c ∈ buckets swings tolerance, c.length = 1 := by
      intro swings c hc
      rw [buckets_eq] at hc
      exact Clusters.length_of_mem_splitBy (fun a b => nearLevels_of_neg htolerance _ _) hc
    rw [map_shown_of_alone hp (halone swings), map_shown_of_alone hq (halone swings')]
    refine List.Perm.map _ ?_
    exact (flatten_buckets_perm swings tolerance).trans
      (hperm.trans (flatten_buckets_perm swings' tolerance).symm)

/-! ## The partition -/

/-- **What the pools of swings are.** Every swing is in exactly one cluster, and every cluster has one
pool, whose level is its extreme. The swings of a cluster are a chain, each within the tolerance of
the next, and pools are more than the tolerance apart. -/
structure PoolPartition (swings : List SwingPoint) (isBuySide : Bool) (tolerance : Decimal) :
    Prop where
  swings_perm : (buckets swings tolerance).flatten.Perm swings
  pools : ∃ ps, List.Forall₂ (Pooled isBuySide) (buckets swings tolerance) ps
    ∧ (findLiquidityPools swings isBuySide tolerance).Perm ps
  touches : ((findLiquidityPools swings isBuySide tolerance).map (·.touchCount)).sum = swings.length
  oldest_first : (findLiquidityPools swings isBuySide tolerance).Pairwise
    fun p q => p.timeUtc ≤ q.timeUtc
  /-- The swings may come in any order, which makes no difference but among equal times. -/
  order : ∀ swings', swings.Perm swings' →
    ((findLiquidityPools swings isBuySide tolerance).map (·.shown)).Perm
      ((findLiquidityPools swings' isBuySide tolerance).map (·.shown))
  apart : (findLiquidityPools swings isBuySide tolerance).Pairwise
    fun p q => tolerance < (p.price - q.price).abs
  sorted : ∀ c ∈ buckets swings tolerance, c.Pairwise fun a b => a.price ≤ b.price
  chained : ∀ c ∈ buckets swings tolerance, c.IsChain fun a b => (b.price - a.price).abs ≤ tolerance

/-- **Liquidity pools partition the swings** into chains. -/
theorem liquidity_pools_partition (swings : List SwingPoint) (isBuySide : Bool)
    (tolerance : Decimal) : PoolPartition swings isBuySide tolerance where
  swings_perm := flatten_buckets_perm swings tolerance
  pools := ⟨_, forall₂_bucketPools swings isBuySide tolerance,
    findLiquidityPools_perm swings isBuySide tolerance⟩
  touches := by
    have hpools := forall₂_bucketPools swings isBuySide tolerance
    rw [((findLiquidityPools_perm swings isBuySide tolerance).map _).sum_eq,
      ← (flatten_buckets_perm swings tolerance).length_eq]
    generalize bucketPools swings isBuySide tolerance = ps at hpools ⊢
    generalize buckets swings tolerance = cs at hpools ⊢
    induction hpools with
    | nil => rfl
    | cons hp _ ih =>
        rw [List.map_cons, List.sum_cons, ih, hp.touches, List.flatten_cons, List.length_append]
  oldest_first := by
    have htotal : Std.Total fun p q : LiquidityPool => p.timeUtc ≤ q.timeUtc :=
      ⟨fun p q => le_total _ _⟩
    have htrans : IsTrans LiquidityPool fun p q => p.timeUtc ≤ q.timeUtc :=
      ⟨fun _ _ _ => le_trans⟩
    exact List.pairwise_insertionSort (fun p q : LiquidityPool => p.timeUtc ≤ q.timeUtc) _
  order := fun swings' hperm =>
    ((findLiquidityPools_perm swings isBuySide tolerance).map _).trans
      ((shown_perm isBuySide tolerance hperm).trans
        ((findLiquidityPools_perm swings' isBuySide tolerance).map _).symm)
  apart :=
    ((findLiquidityPools_perm swings isBuySide tolerance).pairwise_iff
      fun {p q} => far_comm.mp).mpr (pairwise_bucketPools swings isBuySide tolerance)
  sorted := fun _ hc => pairwise_of_mem_buckets hc
  chained := fun _ hc => isChain_of_mem_buckets hc

namespace Sample

/-- A swing high on a day, at a price in tenths of a pip. -/
def highAt (day price : Nat) : SwingPoint := ⟨day, days day, ⟨price, -5⟩, true⟩

end Sample

open Sample in
/-- A pool may be wider than the tolerance. -/
theorem pool_wider :
    ¬ ∀ (swings : List SwingPoint) (isBuySide : Bool) (tolerance : Decimal),
      ∀ c ∈ buckets swings tolerance, ∀ pool, poolFrom isBuySide c = some pool →
        ∀ s ∈ c, (s.price - pool.price).abs ≤ tolerance := by
  intro h
  have hc : [highAt 0 110000, highAt 1 110020, highAt 2 110040]
      ∈ buckets [highAt 0 110000, highAt 1 110020, highAt 2 110040] equalityTolerance := by
    decide +kernel
  obtain ⟨pool, hpool⟩ : ∃ pool,
      poolFrom true [highAt 0 110000, highAt 1 110020, highAt 2 110040] = some pool := ⟨_, rfl⟩
  have hwide := h _ true equalityTolerance _ hc pool hpool (highAt 0 110000) List.mem_cons_self
  obtain rfl := (Option.some.inj hpool).symm
  revert hwide
  decide +kernel

end Crumblr
