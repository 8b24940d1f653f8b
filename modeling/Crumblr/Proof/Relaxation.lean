import Crumblr.Proof.AtMostOnce
import Crumblr.TradingAgent.Ict

/-!
# Relaxing a condition only adds trades

A condition that is not required is recorded and passed over. Nothing that is computed depends on
what is required, so an evaluation that gets to its end gets there with less required too, and with
the same trade.
-/

namespace Crumblr

namespace Ict

/-- What the one requires is among what the other does. -/
structure IctConditions.Relaxes (relaxed strict : IctConditions) : Prop where
  marketOpen : relaxed.requireMarketOpen = true → strict.requireMarketOpen = true
  killzone : relaxed.requireKillzone = true → strict.requireKillzone = true
  liquiditySweep : relaxed.requireLiquiditySweep = true → strict.requireLiquiditySweep = true
  structureShift : relaxed.requireStructureShift = true → strict.requireStructureShift = true
  fairValueGap : relaxed.requireFairValueGap = true → strict.requireFairValueGap = true
  priceInZone : relaxed.requirePriceInZone = true → strict.requirePriceInZone = true
  orderBlock : relaxed.requireOrderBlock = true → strict.requireOrderBlock = true
  discountPremium : relaxed.requireDiscountPremium = true → strict.requireDiscountPremium = true
  optimalTradeEntry : relaxed.requireOptimalTradeEntry = true →
    strict.requireOptimalTradeEntry = true
  liquidityTarget : relaxed.requireLiquidityTarget = true → strict.requireLiquidityTarget = true

/-- Where the one evaluation goes on, the other goes on with the same. -/
def Follows {α : Type} (strict relaxed : Except Ending α) : Prop :=
  ∀ a, strict = .ok a → relaxed = .ok a

namespace Follows

variable {α β : Type}

theorem refl (x : Except Ending α) : Follows x x := fun _ h => h

theorem bind {x y : Except Ending α} {f g : α → Except Ending β} (hxy : Follows x y)
    (hfg : ∀ a, Follows (f a) (g a)) : Follows (x >>= f) (y >>= g) := by
  intro b h
  cases x with
  | error ending => cases h
  | ok a =>
      rw [hxy a rfl]
      exact hfg a b h

end Follows

theorem Evaluation.follows_require (evaluation : Evaluation) (name : String) (passed : Bool)
    {required required' : Bool} (refusal : Refusal) (h : required' = true → required = true) :
    Follows (evaluation.require name passed required refusal)
      (evaluation.require name passed required' refusal) := by
  intro a hstrict
  unfold Evaluation.require at hstrict ⊢
  dsimp only at hstrict ⊢
  split at hstrict
  · rename_i hgoes
    have hgoes' : (passed || !required') = true := by
      cases required' with
      | false => simp
      | true =>
          rw [h rfl] at hgoes
          exact hgoes
    rw [if_pos hgoes']
    exact hstrict
  · cases hstrict

variable [Externals] {snapshot : MarketSnapshot} {bars : List Bar} {spec : InstrumentSpec}
  {context : AgentContext} {config : IctConfig} {strict relaxed : IctConditions}

/-- **With less required, an evaluation that ends in a trade ends in the same one.** -/
theorem follows_runConditions (h : relaxed.Relaxes strict) (read : StructureRead) :
    Follows (runConditions snapshot bars spec context { config with conditions := strict } read)
      (runConditions snapshot bars spec context { config with conditions := relaxed } read) := by
  have hsession : Follows (checkSession snapshot bars { config with conditions := strict })
      (checkSession snapshot bars { config with conditions := relaxed }) :=
    .bind (Evaluation.follows_require _ _ _ _ h.marketOpen) fun evaluation =>
      .bind (evaluation.follows_require _ _ _ h.killzone) fun _ => .refl _
  have hsweep : ∀ evaluation,
      Follows (checkSweep bars context { config with conditions := strict } read evaluation)
        (checkSweep bars context { config with conditions := relaxed } read evaluation) :=
    fun evaluation =>
      .bind (evaluation.follows_require _ _ _ h.liquiditySweep) fun evaluation =>
        .bind (.refl _) fun sweep => .bind (.refl _) fun _ =>
          .bind (evaluation.follows_require _ _ _ h.structureShift) fun _ => .refl _
  have hentry : ∀ direction evaluation,
      Follows (checkEntry snapshot bars { config with conditions := strict } direction evaluation)
        (checkEntry snapshot bars { config with conditions := relaxed } direction evaluation) :=
    fun direction evaluation =>
      .bind (evaluation.follows_require _ _ _ h.fairValueGap) fun evaluation =>
        .bind (evaluation.follows_require _ _ _ h.priceInZone) fun evaluation =>
          evaluation.follows_require _ _ _ h.orderBlock
  have hlocation : ∀ sweep evaluation,
      Follows (checkLocation snapshot bars { config with conditions := strict } sweep evaluation)
        (checkLocation snapshot bars { config with conditions := relaxed } sweep evaluation) :=
    fun sweep evaluation =>
      .bind (.refl _) fun range =>
        .bind (evaluation.follows_require _ _ _ h.discountPremium) fun evaluation =>
          .bind (evaluation.follows_require _ _ _ h.optimalTradeEntry) fun _ => .refl _
  have htarget : ∀ direction stop evaluation,
      Follows
        (checkTarget snapshot spec { config with conditions := strict } read direction stop evaluation)
        (checkTarget snapshot spec { config with conditions := relaxed } read direction stop
          evaluation) :=
    fun direction stop evaluation =>
      .bind (.refl _) fun _ =>
        .bind (evaluation.follows_require _ _ _ h.liquidityTarget) fun _ => .refl _
  refine .bind hsession fun evaluation => .bind (hsweep evaluation) fun ⟨evaluation, sweep⟩ =>
    .bind (hentry sweep.direction evaluation) fun evaluation =>
      .bind (hlocation sweep evaluation) fun ⟨evaluation, range⟩ => .bind (.refl _) fun stop =>
        .bind (htarget sweep.direction stop evaluation) fun ⟨evaluation, stop, target⟩ => .refl _

/-- **Relaxing a condition only adds trades.** -/
theorem relaxing_only_adds (hrelaxes : relaxed.Relaxes strict)
    {decision : StrategyDecision} {features : Option IctFeatureSnapshot}
    (h : evaluate snapshot bars spec context { config with conditions := strict }
      = .ok (decision, features))
    (htrade : decision.intent.isSome = true) :
    evaluate snapshot bars spec context { config with conditions := relaxed }
      = .ok (decision, features) := by
  unfold evaluate at h ⊢
  split at h
  · cases h
    cases htrade
  rename_i hbars
  rw [if_neg hbars]
  obtain ⟨read, hread, h⟩ := bind_ok h
  obtain ⟨⟨decision', features'⟩, hdecide, h⟩ := bind_ok h
  cases h
  change readStructure bars config.swingStrength config.structureLookbackBars >>= _ = _
  rw [show readStructure bars config.swingStrength config.structureLookbackBars = .ok read from hread]
  change decide? _ _ _ _ _ _ >>= _ = _
  have hrelaxed : decide? snapshot bars spec context { config with conditions := relaxed } read
      = .ok (decision, features') := by
    unfold decide? at hdecide ⊢
    cases hrun : runConditions snapshot bars spec context { config with conditions := strict } read with
    | ok trade =>
        rw [follows_runConditions hrelaxes read trade hrun]
        rw [hrun] at hdecide
        exact hdecide
    | error ending =>
        rw [hrun] at hdecide
        cases ending with
        | noTrade refusal evaluation =>
            cases hdecide
            cases htrade
        | raised error => cases hdecide
  rw [hrelaxed]
  rfl

end Ict

/-! ## A complete setup -/

namespace Sample

/-- The prices of a bar, in points. -/
structure Candle where
  openPrice : Nat
  high : Nat
  low : Nat
  close : Nat

theorem point_ohlc : ¬ (price 1).val < (price 1).val
    ∧ ¬ (price 1).val < (price 1).val.max (price 1).val
    ∧ ¬ (price 1).val.min (price 1).val < (price 1).val := by decide +kernel

def candleAt (openTimeUtc : UtcDatetime) (candle : Candle) : Bar :=
  if ohlc : ¬ (price candle.high).val < (price candle.low).val
      ∧ ¬ (price candle.high).val < (price candle.openPrice).val.max (price candle.close).val
      ∧ ¬ (price candle.openPrice).val.min (price candle.close).val < (price candle.low).val then
    { openTimeUtc, openPrice := price candle.openPrice, high := price candle.high,
      low := price candle.low, close := price candle.close, tickVolume := 200, realVolume := none,
      spreadPoints := none, ohlc }
  else
    { openTimeUtc, openPrice := price 1, high := price 1, low := price 1, close := price 1,
      tickVolume := 0, realVolume := none, spreadPoints := none, ohlc := point_ohlc }

/-- Bars of five minutes, the last of them at noon. -/
def series (candles : List Candle) : List Bar :=
  candles.zipIdx.map fun (candle, i) =>
    candleAt (noon - minutes (5 * ((candles.length : Int) - 1 - i))) candle

def still : Candle := ⟨110000, 110030, 109970, 110000⟩

/-- An old high and an old low, the sweep of the low, the displacement up, and a retracement. -/
def complete : List Candle :=
  List.replicate 100 still ++ [⟨110000, 110050, 109970, 110010⟩] ++ List.replicate 4 still
    ++ [⟨109990, 109990, 109800, 109900⟩] ++ List.replicate 8 still
    ++ [⟨110000, 110010, 109700, 109850⟩, ⟨109850, 109880, 109820, 109860⟩,
      ⟨109860, 110250, 109850, 110230⟩, ⟨110230, 110420, 109950, 110400⟩,
      ⟨110400, 110410, 110050, 110100⟩, ⟨110100, 110110, 109900, 109910⟩]

theorem eight_nonneg : (0 : Int) ≤ 8 := by decide

/-- A quote at noon, of eight points. -/
def quoteFrom (bid : Nat) (uncrossed : ¬ (price (bid + 8)).val < (price bid).val) :
    MarketSnapshot where
  snapshotId := ⟨"snapshot"⟩
  symbol := "EUR/USD"
  eventTimeUtc := noon
  receivedTimeUtc := noon
  bid := price bid
  ask := price (bid + 8)
  spreadPoints := 8
  timeframe := "M5"
  sessionState := .open
  symbolSpecVersion := "spec"
  dataQuality := .good
  spreadNonneg := eight_nonneg
  uncrossed

/-- Nothing is open. -/
def idle : AgentContext := ⟨[], fraction 5 (-3), 50⟩

/-- Nothing is required. -/
def unconditional : Ict.IctConditions :=
  ⟨false, false, false, false, false, false, false, false, false, false⟩

theorem uncrossed_retraced : ¬ (price (109906 + 8)).val < (price 109906).val := by decide +kernel

end Sample

open Sample in
theorem relaxing_only_adds_sample : ∃ decision features,
    decision.intent.isSome = true
      ∧ Ict.evaluate (quoteFrom 109906 uncrossed_retraced) (series complete) spec idle {}
        = .ok (decision, features)
      ∧ Ict.evaluate (quoteFrom 109906 uncrossed_retraced) (series complete) spec idle
          { conditions := unconditional } = .ok (decision, features) := by
  have htrade : ((Ict.evaluate (quoteFrom 109906 uncrossed_retraced) (series complete) spec idle
      {}).toOption.any fun outcome => outcome.1.intent.isSome) = true := by decide +kernel
  have hrelaxes : unconditional.Relaxes {} := by
    constructor
    all_goals
      intro h
      cases h
  cases hrun : Ict.evaluate (quoteFrom 109906 uncrossed_retraced) (series complete) spec idle {} with
  | error e =>
      rw [hrun] at htrade
      cases htrade
  | ok outcome =>
      obtain ⟨decision, features⟩ := outcome
      rw [hrun] at htrade
      exact ⟨decision, features, htrade, rfl,
        @Ict.relaxing_only_adds _ _ _ _ _ {} {} unconditional hrelaxes _ _ hrun htrade⟩

end Crumblr
