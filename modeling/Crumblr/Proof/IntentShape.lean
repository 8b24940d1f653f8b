import Crumblr.Lib.StepGrid
import Crumblr.Proof.IctSetups
import Crumblr.Proof.SpentLiquidity

/-!
# When an evaluation answers, and with an intent of the right shape

A setup that is not refused has its stop and its target computed from distances, and a distance has
no side. What is needed of a setup, so that its stop and its target are where an intent has them, is
said of the swept extreme, the entry and the policy.

A stop is the first price on the symbol's grid that is no nearer the entry than where it was to be put.
So it's behind the entry just when no price on the grid lies from the entry on to the swept extreme
with its buffer, and the same goes for the extreme itself. The optimal trade entry keeps the entry on
its side of that extreme, whatever else is required; no other clause does. A stop that is widened to
policy is on its side whatever the entry, and where no level is worth the risk the target is as many
stop distances away as the parameters have it. Both up to what the working precision loses of them.
-/

namespace Crumblr

namespace Ict

/-! ## Endings that are fine -/

/-- Nothing is raised, and what there is in the end is good. -/
def Fine {α : Type} (good : α → Prop) : Except Ending α → Prop
  | .ok a => good a
  | .error (.noTrade _ _) => True
  | .error (.raised _) => False

namespace Fine

variable {α β : Type} {good : β → Prop} {f : α → Except Ending β}

theorem attempt_bind {x : Except PyError α} :
    Fine good (attempt x >>= f) ↔ ∃ a, x = .ok a ∧ Fine good (f a) := by
  cases x with
  | error e =>
      refine iff_of_false id ?_
      rintro ⟨a, ha, -⟩
      cases ha
  | ok a =>
      constructor
      · intro h
        exact ⟨a, rfl, h⟩
      · rintro ⟨b, hb, h⟩
        cases hb
        exact h

theorem attempt_iff {x : Except PyError β} :
    Fine good (attempt x) ↔ ∃ b, x = .ok b ∧ good b := by
  cases x with
  | error e =>
      refine iff_of_false id ?_
      rintro ⟨b, hb, -⟩
      cases hb
  | ok b =>
      constructor
      · intro h
        exact ⟨b, rfl, h⟩
      · rintro ⟨c, hc, h⟩
        cases hc
        exact h

theorem refuse_bind {evaluation : Evaluation} {degenerate : Bool} {refusal : Refusal}
    {f : Unit → Except Ending β} :
    Fine good (evaluation.refuse degenerate refusal >>= f)
      ↔ (degenerate = false → Fine good (f ())) := by
  cases degenerate with
  | true => exact iff_of_true trivial fun h => absurd h Bool.noConfusion
  | false => exact ⟨fun h _ => h, fun h => h rfl⟩

theorem require_bind {evaluation : Evaluation} {name : String} {passed required : Bool}
    {refusal : Refusal} {f : Evaluation → Except Ending β} :
    Fine good (evaluation.require name passed required refusal >>= f)
      ↔ ((required = true → passed = true) → Fine good (f (evaluation.check name passed))) := by
  unfold Evaluation.require
  dsimp only
  split
  · rename_i hgoes
    refine ⟨fun h _ => h, fun h => h fun hrequired => ?_⟩
    rw [hrequired, Bool.not_true, Bool.or_false] at hgoes
    exact hgoes
  · rename_i hstops
    refine iff_of_true trivial fun h => absurd ?_ hstops
    cases required with
    | false => simp
    | true => rw [h rfl, Bool.true_or]

theorem need_bind {evaluation : Evaluation} {value : Option α} {refusal : Refusal} :
    Fine good (evaluation.need value refusal >>= f) ↔ ∀ a, value = some a → Fine good (f a) := by
  cases value with
  | none => exact iff_of_true trivial fun a ha => by cases ha
  | some a =>
      refine ⟨fun h b hb => ?_, fun h => h a rfl⟩
      cases hb
      exact h

/-- What never raises is fine whatever it ends with. -/
theorem quiet_bind {x : Except Ending α} (hquiet : Fine (fun _ => True) x) :
    Fine good (x >>= f) ↔ ∀ a, x = .ok a → Fine good (f a) := by
  cases x with
  | error ending =>
      cases ending with
      | noTrade refusal evaluation => exact iff_of_true trivial fun a ha => by cases ha
      | raised error => exact hquiet.elim
  | ok a =>
      refine ⟨fun h b hb => ?_, fun h => h a rfl⟩
      cases hb
      exact h

end Fine

/-! ## Toward profit -/

/-- From the one price to the other is toward profit. -/
def Toward (direction : Side) (a b : Decimal) : Prop := if direction = .buy then a < b else b < a

instance (direction : Side) (a b : Decimal) : Decidable (Toward direction a b) :=
  inferInstanceAs (Decidable (if direction = .buy then a < b else b < a))

theorem stopDirectionError_iff {direction : Side} {entry stop target : Decimal}
    (hflat : direction ≠ .flat) :
    stopDirectionError direction entry stop target = none
      ↔ Toward direction stop entry ∧ Toward direction entry target := by
  constructor
  · intro h
    cases direction with
    | flat => exact absurd rfl hflat
    | buy => exact stopDirection_buy h rfl
    | sell => exact stopDirection_sell h rfl
  · rintro ⟨hstop, htarget⟩
    cases direction with
    | flat => exact absurd rfl hflat
    | buy =>
        unfold stopDirectionError
        dsimp only
        rw [if_neg (Decimal.not_le.mpr hstop), if_neg (Decimal.not_le.mpr htarget)]
    | sell =>
        unfold stopDirectionError
        dsimp only
        rw [if_neg (Decimal.not_le.mpr hstop), if_neg (Decimal.not_le.mpr htarget)]

theorem quantizePrice_ok {price q : Decimal} {digits : Nat} {rounding : Rounding}
    (h : quantizePrice price digits rounding = .ok q) : price.quantize rounding (-digits) = some q := by
  unfold quantizePrice at h
  split at h
  · rename_i hq
    cases h
    exact hq
  · cases h

theorem quantizePrice_of_quantize {price q : Decimal} {digits : Nat} {rounding : Rounding}
    (h : price.quantize rounding (-digits) = some q) : quantizePrice price digits rounding = .ok q := by
  unfold quantizePrice
  rw [h]

/-- A price that was rounded stays as it is. -/
theorem quantizePrice_settled {price q : Decimal} {digits : Nat} {r r' : Rounding}
    (h : quantizePrice price digits r = .ok q) : quantizePrice q digits r' = .ok q := by
  have hagain : q.quantize r' (-digits) = some q := Decimal.quantize_quantize (quantizePrice_ok h)
  unfold quantizePrice
  rw [hagain]

/-- The sign of what is toward profit. -/
def signOf (direction : Side) : ℚ := if direction = .buy then 1 else -1

theorem signOf_cases (direction : Side) : signOf direction = 1 ∨ signOf direction = -1 := by
  unfold signOf
  split <;> simp

theorem signOf_mul_self (direction : Side) : signOf direction * signOf direction = 1 := by
  rcases signOf_cases direction with hbuy | hsell
  · rw [hbuy, one_mul]
  · rw [hsell, neg_one_mul, neg_neg]

theorem toward_iff_value {direction : Side} {a b : Decimal} :
    Toward direction a b ↔ signOf direction * a.value < signOf direction * b.value := by
  unfold Toward signOf
  split
  · rw [one_mul, one_mul]
    exact Decimal.lt_iff_value
  · rw [neg_one_mul, neg_one_mul, neg_lt_neg_iff]
    exact Decimal.lt_iff_value

/-! ### On the symbol's grid -/

/-- Some price with the symbol's digits lies from the one price on to the other. -/
def GridBetween (digits : Nat) (direction : Side) (a b : Decimal) : Prop :=
  ∃ v : ℚ, StepGrid.OnGrid (10 ^ (-(digits : Int))) v
    ∧ signOf direction * a.value ≤ signOf direction * v
    ∧ signOf direction * v ≤ signOf direction * b.value

/-- A price that is rounded to one that is positive is positive. -/
theorem pos_of_quantizePrice {price q : Decimal} {digits : Nat} {rounding : Rounding} (hq : 0 < q)
    (h : quantizePrice price digits rounding = .ok q) : 0 < price := by
  rw [← Decimal.not_le]
  intro hnonpos
  exact absurd (Decimal.quantize_nonpos hnonpos (quantizePrice_ok h)) (not_le_of_gt hq)

/-- A stop is put at the first price on the grid that is no nearer the entry. -/
theorem quantizeBehind_first {direction : Side} {price stop : Decimal} {digits : Nat}
    (hstop : 0 < stop) (h : quantizeBehind direction price digits = .ok stop) :
    StepGrid.OnGrid (10 ^ (-(digits : Int))) stop.value
      ∧ signOf direction * stop.value ≤ signOf direction * price.value
      ∧ ∀ v : ℚ, StepGrid.OnGrid (10 ^ (-(digits : Int))) v →
        signOf direction * v ≤ signOf direction * price.value →
        signOf direction * v ≤ signOf direction * stop.value := by
  have hquantized := quantizePrice_ok h
  have hprice := le_of_lt (pos_of_quantizePrice hstop h)
  refine ⟨Decimal.onGrid_quantize hquantized, ?_⟩
  unfold signOf
  split
  · rename_i hbuy
    rw [if_pos hbuy] at hquantized
    simp only [one_mul]
    exact ⟨Decimal.le_iff_value.mp (Decimal.quantize_down_le hprice hquantized),
      fun v hv => Decimal.le_quantize_down hprice hquantized hv⟩
  · rename_i hsell
    rw [if_neg hsell] at hquantized
    simp only [neg_one_mul, neg_le_neg_iff]
    exact ⟨Decimal.le_iff_value.mp (Decimal.le_quantize_up hprice hquantized),
      fun v hv => Decimal.quantize_up_le hprice hquantized hv⟩

/-- A target is put at the first that is no nearer. -/
theorem quantizeAhead_first {direction : Side} {price target : Decimal} {digits : Nat}
    (htarget : 0 < target) (h : quantizeAhead direction price digits = .ok target) :
    StepGrid.OnGrid (10 ^ (-(digits : Int))) target.value
      ∧ signOf direction * price.value ≤ signOf direction * target.value
      ∧ ∀ v : ℚ, StepGrid.OnGrid (10 ^ (-(digits : Int))) v →
        signOf direction * price.value ≤ signOf direction * v →
        signOf direction * target.value ≤ signOf direction * v := by
  have hquantized := quantizePrice_ok h
  have hprice := le_of_lt (pos_of_quantizePrice htarget h)
  refine ⟨Decimal.onGrid_quantize hquantized, ?_⟩
  unfold signOf
  split
  · rename_i hbuy
    rw [if_pos hbuy] at hquantized
    simp only [one_mul]
    exact ⟨Decimal.le_iff_value.mp (Decimal.le_quantize_up hprice hquantized),
      fun v hv => Decimal.quantize_up_le hprice hquantized hv⟩
  · rename_i hsell
    rw [if_neg hsell] at hquantized
    simp only [neg_one_mul, neg_le_neg_iff]
    exact ⟨Decimal.le_iff_value.mp (Decimal.quantize_down_le hprice hquantized),
      fun v hv => Decimal.le_quantize_down hprice hquantized hv⟩

/-- A stop that is rounded away from the entry is no nearer it. -/
theorem quantizeBehind_le {direction : Side} {price stop : Decimal} {digits : Nat}
    (hstop : 0 < stop) (h : quantizeBehind direction price digits = .ok stop) :
    signOf direction * stop.value ≤ signOf direction * price.value :=
  (quantizeBehind_first hstop h).2.1

/-- A stop is behind a price just when none on the grid lies from that price on to where it was to
be put. -/
theorem toward_stop_iff {direction : Side} {price stop other : Decimal} {digits : Nat}
    (hstop : 0 < stop) (h : quantizeBehind direction price digits = .ok stop) :
    Toward direction stop other ↔ ¬ GridBetween digits direction other price := by
  obtain ⟨hgrid, hbehind, hfirst⟩ := quantizeBehind_first hstop h
  rw [toward_iff_value, ← not_le, not_iff_not]
  constructor
  · intro hle
    exact ⟨_, hgrid, hle, hbehind⟩
  · rintro ⟨v, hv, hother, hprice⟩
    exact le_trans hother (hfirst v hv hprice)

/-- So is a target ahead of one. -/
theorem toward_target_iff {direction : Side} {price target other : Decimal} {digits : Nat}
    (htarget : 0 < target) (h : quantizeAhead direction price digits = .ok target) :
    Toward direction other target ↔ ¬ GridBetween digits direction price other := by
  obtain ⟨hgrid, hahead, hfirst⟩ := quantizeAhead_first htarget h
  rw [toward_iff_value, ← not_le, not_iff_not]
  constructor
  · intro hle
    exact ⟨_, hgrid, hahead, hle⟩
  · rintro ⟨v, hv, hprice, hother⟩
    exact le_trans (hfirst v hv hprice) hother

/-- From a price on the grid, some price there lies on to another just when that isn't behind it. -/
theorem gridBetween_iff {digits : Nat} {direction : Side} {a b : Decimal}
    (ha : StepGrid.OnGrid (10 ^ (-(digits : Int))) a.value) :
    GridBetween digits direction a b ↔ ¬ Toward direction b a := by
  rw [toward_iff_value, not_lt]
  constructor
  · rintro ⟨v, -, hfrom, hto⟩
    exact le_trans hfrom hto
  · intro hle
    exact ⟨_, ha, le_refl _, hle⟩

/-- Rounding a target that is positive takes it no nearer the entry. -/
theorem toward_quantizeAhead {direction : Side} {entry level target : Decimal} {digits : Nat}
    (htarget : 0 < target) (hlevel : Toward direction entry level)
    (h : quantizeAhead direction level digits = .ok target) : Toward direction entry target := by
  rw [toward_iff_value] at hlevel ⊢
  exact lt_of_lt_of_le hlevel (quantizeAhead_first htarget h).2.1

theorem nearestTarget_toward {pools : List LiquidityPool} {entry level : Decimal} {direction : Side}
    (h : nearestTarget pools entry direction = some level) : Toward direction entry level := by
  unfold nearestTarget at h
  unfold Toward
  split at h
  · rename_i hbuy
    rw [if_pos hbuy]
    split at h
    · cases h
    · rename_i price prices hfilter
      cases h
      have hfound := (Decimal.foldl_min price prices).1
      rw [← hfilter] at hfound
      exact of_decide_eq_true (List.mem_filter.mp hfound).2
  · rename_i hsell
    rw [if_neg hsell]
    split at h
    · cases h
    · rename_i price prices hfilter
      cases h
      have hfound := (Decimal.foldl_max price prices).1
      rw [← hfilter] at hfound
      exact of_decide_eq_true (List.mem_filter.mp hfound).2

variable [Externals] {snapshot : MarketSnapshot} {bars : List Bar} {spec : InstrumentSpec}
  {context : AgentContext} {config : IctConfig} {read : StructureRead} {sweep : LiquiditySweep}
  {evaluation : Evaluation} {range : DealingRange}

/-- The conditions before the stop never raise. -/
theorem fine_setupOf : Fine (fun _ => True) (setupOf snapshot bars context config read) := by
  unfold setupOf checkSession checkSweep checkEntry checkLocation
  simp only [bind_assoc, Fine.require_bind, Fine.refuse_bind, Fine.need_bind, pure_bind]
  intros
  trivial

/-! ## What's asked of an intent -/

/-- Parameters that are positive. -/
structure IctConfig.Positive (config : IctConfig) : Prop where
  swingStrength : 0 < config.swingStrength
  sweepLookbackBars : 0 < config.sweepLookbackBars
  structureLookbackBars : 0 < config.structureLookbackBars
  minDisplacementRatio : 0 < config.minDisplacementRatio
  fvgMaxAgeBars : 0 < config.fvgMaxAgeBars
  oteLow : 0 < config.oteLow
  oteHigh : 0 < config.oteHigh
  equilibriumTolerance : 0 < config.equilibriumTolerance
  stopBufferAtr : 0 < config.stopBufferAtr
  fallbackRewardMultiple : 0 < config.fallbackRewardMultiple
  minRewardMultiple : 0 < config.minRewardMultiple
  intentLifetimeSeconds : 0 < config.intentLifetimeSeconds

/-- What a target is worth, in stop distances. -/
def rewardOf (entry stop level : Decimal) : Decimal := (level - entry).abs / (entry - stop).abs

/-- An intent of the right shape, with the sweep it's of and its prices. -/
structure Shape (snapshot : MarketSnapshot) (bars : List Bar) (spec : InstrumentSpec)
    (context : AgentContext) (config : IctConfig) (read : StructureRead) (sweep : LiquiditySweep)
    (intent : TradeIntent) (stopLoss takeProfit : Price) : Prop where
  structureRead :
    readStructure bars config.swingStrength config.structureLookbackBars = .ok read
  detected : sweepOf bars config read = some sweep
  direction : intent.side = sweep.direction
  entry : intent.referencePrice = entryOf snapshot sweep.direction
  stop : intent.stopLossPrice = some stopLoss
  target : intent.takeProfitPrice = some takeProfit
  beyond : Toward sweep.direction stopLoss.val sweep.extreme
  protective : Toward sweep.direction stopLoss.val intent.referencePrice.val
  profitable : Toward sweep.direction intent.referencePrice.val takeProfit.val
  distance : policyFloor spec context ≤ (intent.referencePrice.val - stopLoss.val).abs
  /-- The target is a level rounded, and the level is worth it. -/
  placed : quantizeAhead sweep.direction (levelOf snapshot config read sweep.direction stopLoss.val)
    spec.digits = .ok takeProfit.val
  reward : config.minRewardMultiple ≤ rewardOf intent.referencePrice.val stopLoss.val
    (levelOf snapshot config read sweep.direction stopLoss.val)

/-- An evaluation returns, and any intent it returns is of the right shape. -/
def Answers (snapshot : MarketSnapshot) (bars : List Bar) (spec : InstrumentSpec)
    (context : AgentContext) (config : IctConfig) : Prop :=
  ∃ decision features, evaluate snapshot bars spec context config = .ok (decision, features)
    ∧ ∀ intent, decision.intent = some intent →
      ∃ read sweep stop target, Shape snapshot bars spec context config read sweep intent stop target

/-! ## What's asked of a setup -/

section

variable (snapshot bars spec context config read sweep)

/-- The swept extreme, with the buffer beyond it. -/
def bufferedExtreme : Decimal :=
  behind sweep.direction sweep.extreme (averageTrueRange bars atrPeriod * config.stopBufferAtr)

/-- The entry, with the least distance a stop may have behind it. -/
def policyStop : Decimal :=
  behind sweep.direction (entryOf snapshot sweep.direction).val (policyFloor spec context)

/-- A stop is nearer the entry than policy allows. -/
def TooNear (stop : Decimal) : Prop :=
  ((entryOf snapshot sweep.direction).val - stop).abs < policyFloor spec context

/-- The level there is a target at. -/
def foundLevel (stop : Decimal) : Option Decimal :=
  targetLevelOf config read sweep.direction (entryOf snapshot sweep.direction).val
    ((entryOf snapshot sweep.direction).val - stop).abs

/-- The multiple of the risk there's a target at, where no level is worth it. -/
def fallbackLevel (stop : Decimal) : Decimal :=
  ahead sweep.direction (entryOf snapshot sweep.direction).val
    (((entryOf snapshot sweep.direction).val - stop).abs * config.fallbackRewardMultiple)

/-- A stop isn't at the entry, and there's a level where one is required. -/
structure Offered (stop : Decimal) : Prop where
  apart : 0 < ((entryOf snapshot sweep.direction).val - stop).abs
  levelled : config.conditions.requireLiquidityTarget = true →
    (foundLevel snapshot config read sweep stop).isSome = true

/-- The swept extreme, its buffer taken, is where a stop may be. -/
structure Clear : Prop where
  /-- The entry is ahead of it. -/
  entry : ¬ GridBetween spec.digits sweep.direction (entryOf snapshot sweep.direction).val
    (bufferedExtreme bars config sweep)
  /-- The buffer isn't lost. -/
  buffer : ¬ GridBetween spec.digits sweep.direction sweep.extreme
    (bufferedExtreme bars config sweep)

/-- The policy's distance isn't lost: what is on the grid and that far behind the entry is so once
the distance is written. -/
def FloorKept : Prop :=
  ∀ v : ℚ, StepGrid.OnGrid (10 ^ (-(spec.digits : Int))) v →
    signOf sweep.direction * v
      ≤ signOf sweep.direction * (policyStop snapshot spec context sweep).value →
    (policyFloor spec context).value ≤ signOf sweep.direction
      * Decimal.rounded ((entryOf snapshot sweep.direction).val.value - v)

/-- What a multiple of a distance is still, once it's been put ahead of a price. -/
def multipleKept (direction : Side) (price distance multiple : Decimal) : Decimal :=
  (ahead direction price (distance * multiple) - price).abs / distance

/-- The multiple of the risk is far enough, as it's written. -/
structure FallbackKept (stop : Decimal) : Prop where
  ahead : ¬ GridBetween spec.digits sweep.direction (fallbackLevel snapshot config sweep stop)
    (entryOf snapshot sweep.direction).val
  multiple : config.minRewardMultiple
    ≤ multipleKept sweep.direction (entryOf snapshot sweep.direction).val
        ((entryOf snapshot sweep.direction).val - stop).abs config.fallbackRewardMultiple

/-- What an intent needs besides prices that are positive. -/
structure Complete (range : DealingRange) (placed : Prop) (stop : Decimal) : Prop where
  shown : ∃ q, quantizePrice (range.retracementOf (entryOf snapshot sweep.direction).val) 2 .halfEven
    = .ok q
  expires : PyDatetime.Representable
    (snapshot.eventTimeUtc + seconds config.intentLifetimeSeconds)
  placed : placed
  fallback : foundLevel snapshot config read sweep stop = none →
    FallbackKept snapshot spec config sweep stop

/-- A stop that's offered has a target, and what an intent needs. -/
def Held (range : DealingRange) (placed : Prop) (stop : Decimal) : Prop :=
  Offered snapshot config read sweep stop →
    ∃ target, quantizeAhead sweep.direction (levelOf snapshot config read sweep.direction stop)
        spec.digits = .ok target
      ∧ (0 < target → 0 < stop →
        Complete snapshot spec config read sweep range placed stop)

/-- The stop goes to the buffered extreme, or to where policy has it. -/
def Tradable (range : DealingRange) : Prop :=
  ∃ buffered, quantizeBehind sweep.direction (bufferedExtreme bars config sweep) spec.digits
      = .ok buffered
    ∧ (TooNear snapshot spec context sweep buffered →
      ∃ widened, quantizeBehind sweep.direction (policyStop snapshot spec context sweep) spec.digits
          = .ok widened
        ∧ Held snapshot spec config read sweep range
          (FloorKept snapshot spec context sweep) widened)
    ∧ (¬ TooNear snapshot spec context sweep buffered →
      Held snapshot spec config read sweep range (Clear snapshot bars spec config sweep) buffered)

end

/-! ## The stop -/

omit [Externals] in
theorem stopOf_iff {P : Decimal → Prop} :
    (∃ stop, stopOf snapshot bars spec context config sweep = .ok stop ∧ P stop)
      ↔ ∃ buffered, quantizeBehind sweep.direction (bufferedExtreme bars config sweep) spec.digits
          = .ok buffered
        ∧ (TooNear snapshot spec context sweep buffered →
          ∃ widened, quantizeBehind sweep.direction (policyStop snapshot spec context sweep)
            spec.digits = .ok widened ∧ P widened)
        ∧ (¬ TooNear snapshot spec context sweep buffered → P buffered) := by
  unfold stopOf TooNear policyStop bufferedExtreme
  dsimp only
  cases hbuffered : quantizeBehind sweep.direction (behind sweep.direction sweep.extreme
      (averageTrueRange bars atrPeriod * config.stopBufferAtr)) spec.digits with
  | error e =>
      constructor
      · rintro ⟨stop, hstop, -⟩
        cases hstop
      · rintro ⟨buffered, hbuffered, -⟩
        cases hbuffered
  | ok buffered =>
      simp only [bind, Except.bind, Except.ok.injEq, exists_eq_left']
      by_cases hnear : ((entryOf snapshot sweep.direction).val - buffered).abs
          < policyFloor spec context
      · rw [if_pos hnear]
        exact ⟨fun h => ⟨fun _ => h, fun hfar => absurd hnear hfar⟩, fun h => h.1 hnear⟩
      · rw [if_neg hnear]
        simp only [hnear, false_implies, not_false_iff, true_implies, true_and]
        constructor
        · rintro ⟨stop, hstop, hP⟩
          cases hstop
          exact hP
        · intro hP
          exact ⟨buffered, rfl, hP⟩

omit [Externals] in
theorem sweep_extreme (h : sweepOf bars config read = some sweep) : 0 < sweep.extreme := by
  obtain ⟨pool, -, hswept⟩ := sweepOf_pool h
  exact hswept.positive

/-! ### Where it's put -/

/-- A stop is where an intent has it. -/
structure Behind (snapshot : MarketSnapshot) (spec : InstrumentSpec) (context : AgentContext)
    (sweep : LiquiditySweep) (stop : Decimal) : Prop where
  protective : Toward sweep.direction stop (entryOf snapshot sweep.direction).val
  beyond : Toward sweep.direction stop sweep.extreme
  distance : policyFloor spec context ≤ ((entryOf snapshot sweep.direction).val - stop).abs

omit [Externals] in
theorem signOf_mul_rounded (direction : Side) (t : ℚ) :
    signOf direction * Decimal.rounded t = Decimal.rounded (signOf direction * t) := by
  rcases signOf_cases direction with hbuy | hsell
  · rw [hbuy, one_mul, one_mul]
  · rw [hsell, neg_one_mul, neg_one_mul, Decimal.rounded_neg]

omit [Externals] in
theorem abs_sub_value (a b : Decimal) :
    (a - b).abs.value = |Decimal.rounded (a.value - b.value)| := by
  have hwritten : Decimal.rounded (a - b).value = (a - b).value :=
    Decimal.rounded_value_of_digits (Decimal.digits_fix _)
  rw [Decimal.value_abs, ← Decimal.value_sub]
  rcases abs_choice (a - b).value with hpos | hneg
  · rw [hpos, hwritten]
  · rw [hneg, Decimal.rounded_neg, hwritten]

omit [Externals] in
theorem signOf_mul_le_abs (direction : Side) (t : ℚ) : signOf direction * t ≤ |t| := by
  rcases signOf_cases direction with hbuy | hsell
  · rw [hbuy, one_mul]
    exact le_abs_self t
  · rw [hsell, neg_one_mul]
    exact neg_le_abs t

omit [Externals] in
/-- A stop that's behind the entry is as far from it as the difference says. -/
theorem abs_sub_of_toward {direction : Side} {stop entry : Decimal}
    (h : Toward direction stop entry) :
    (entry - stop).abs.value
      = signOf direction * Decimal.rounded (entry.value - stop.value) := by
  have hbehind := toward_iff_value.mp h
  have hnonneg : 0 ≤ signOf direction * Decimal.rounded (entry.value - stop.value) := by
    rw [signOf_mul_rounded, ← Decimal.rounded_zero]
    refine Decimal.rounded_mono ?_
    rw [mul_sub]
    linarith
  rw [abs_sub_value]
  rcases signOf_cases direction with hbuy | hsell
  · rw [hbuy, one_mul] at hnonneg ⊢
    exact abs_of_nonneg hnonneg
  · rw [hsell, neg_one_mul] at hnonneg ⊢
    exact abs_of_nonpos (by linarith)

omit [Externals] in
/-- The buffered extreme that isn't too near is where an intent has its stop just when it's clear. -/
theorem behind_buffered_iff {stop : Decimal} (hstop : 0 < stop)
    (h : quantizeBehind sweep.direction (bufferedExtreme bars config sweep) spec.digits = .ok stop)
    (hfar : ¬ TooNear snapshot spec context sweep stop) :
    Behind snapshot spec context sweep stop ↔ Clear snapshot bars spec config sweep := by
  constructor
  · rintro ⟨hprotective, hbeyond, -⟩
    exact ⟨(toward_stop_iff hstop h).mp hprotective, (toward_stop_iff hstop h).mp hbeyond⟩
  · rintro ⟨hentry, hbuffer⟩
    exact ⟨(toward_stop_iff hstop h).mpr hentry, (toward_stop_iff hstop h).mpr hbuffer,
      Decimal.not_lt.mp hfar⟩

omit [Externals] in
/-- With its buffer, the swept extreme is no nearer the entry than it's written as. -/
theorem bufferedExtreme_le (hbuffer : 0 ≤ (averageTrueRange bars atrPeriod * config.stopBufferAtr).value) :
    signOf sweep.direction * (bufferedExtreme bars config sweep).value
      ≤ Decimal.rounded (signOf sweep.direction * sweep.extreme.value) := by
  unfold bufferedExtreme behind
  split
  · rename_i hbuy
    unfold signOf
    rw [if_pos hbuy, one_mul, one_mul, Decimal.value_sub]
    exact Decimal.rounded_mono (by linarith)
  · rename_i hsell
    unfold signOf
    rw [if_neg hsell, neg_one_mul, neg_one_mul, Decimal.value_add, ← Decimal.rounded_neg]
    exact Decimal.rounded_mono (by linarith)

omit [Externals] in
/-- **A stop that is widened to policy is where an intent has it, just when the policy's distance
isn't lost.** That it's beyond the swept extreme needs nothing more: the extreme, with its buffer, is
nearer the entry than that. -/
theorem behind_widened_iff
    (hbuffer : 0 ≤ (averageTrueRange bars atrPeriod * config.stopBufferAtr).value)
    (hextreme : 0 < sweep.extreme) {buffered widened : Decimal}
    (hbuffered : quantizeBehind sweep.direction (bufferedExtreme bars config sweep) spec.digits
      = .ok buffered)
    (hnear : TooNear snapshot spec context sweep buffered) (hwidened : 0 < widened)
    (h : quantizeBehind sweep.direction (policyStop snapshot spec context sweep) spec.digits
      = .ok widened) :
    Behind snapshot spec context sweep widened ↔ FloorKept snapshot spec context sweep := by
  obtain ⟨hgrid, hbehind, hfirst⟩ := quantizeBehind_first hwidened h
  have hnear' := Decimal.lt_iff_value.mp hnear
  rw [abs_sub_value] at hnear'
  have hfloor : 0 < (policyFloor spec context).value := lt_of_le_of_lt (abs_nonneg _) hnear'
  constructor
  · rintro ⟨hprotective, -, hdistance⟩ v hv hle
    have hdistance := Decimal.le_iff_value.mp hdistance
    rw [abs_sub_of_toward hprotective] at hdistance
    refine le_trans hdistance ?_
    rw [signOf_mul_rounded, signOf_mul_rounded]
    refine Decimal.rounded_mono ?_
    have hless := hfirst v hv hle
    rw [mul_sub, mul_sub]
    linarith
  · intro hkept
    have hdistance := hkept _ hgrid hbehind
    have hprotective : Toward sweep.direction widened (entryOf snapshot sweep.direction).val := by
      rw [toward_iff_value]
      by_contra hwrong
      have hnonpos : signOf sweep.direction
          * ((entryOf snapshot sweep.direction).val.value - widened.value) ≤ 0 := by
        rw [mul_sub]
        linarith
      have hrounded := Decimal.rounded_mono hnonpos
      rw [Decimal.rounded_zero, ← signOf_mul_rounded] at hrounded
      linarith
    -- the buffered stop is nearer the entry than the widened one
    have hnearer : signOf sweep.direction * widened.value
        < signOf sweep.direction * buffered.value := by
      by_contra hfarther
      have hmore : signOf sweep.direction
            * ((entryOf snapshot sweep.direction).val.value - widened.value)
          ≤ signOf sweep.direction
            * ((entryOf snapshot sweep.direction).val.value - buffered.value) := by
        rw [mul_sub, mul_sub]
        linarith
      have hrounded := Decimal.rounded_mono hmore
      rw [← signOf_mul_rounded, ← signOf_mul_rounded] at hrounded
      have habs := signOf_mul_le_abs sweep.direction
        (Decimal.rounded ((entryOf snapshot sweep.direction).val.value - buffered.value))
      linarith
    have hbufferedPos : 0 < buffered := by
      rcases signOf_cases sweep.direction with hbuy | hsell
      · rw [hbuy, one_mul, one_mul] at hnearer
        exact lt_trans hwidened (Decimal.lt_iff_value.mpr hnearer)
      · have hextremeValue := Decimal.pos_iff_value.mp hextreme
        have hsell' : sweep.direction ≠ .buy := by
          intro hbuy
          rw [hbuy, signOf, if_pos rfl] at hsell
          norm_num at hsell
        have hpos : 0 < bufferedExtreme bars config sweep := by
          unfold bufferedExtreme behind
          rw [if_neg hsell', Decimal.pos_iff_value, Decimal.value_add]
          exact Decimal.rounded_pos (add_pos_of_pos_of_nonneg hextremeValue hbuffer)
        have hquantized := quantizePrice_ok hbuffered
        rw [if_neg hsell'] at hquantized
        exact lt_of_lt_of_le hpos (Decimal.le_quantize_up (le_of_lt hpos) hquantized)
    refine ⟨hprotective, ?_, ?_⟩
    · rw [toward_iff_value]
      by_contra hwrong
      have hwritten : Decimal.rounded (signOf sweep.direction * widened.value)
          = signOf sweep.direction * widened.value := by
        rw [← signOf_mul_rounded, Decimal.rounded_value_of_digits
          (Decimal.digits_quantize (quantizePrice_ok h))]
      have hrounded := Decimal.rounded_mono (not_lt.mp hwrong)
      rw [hwritten] at hrounded
      have hless := (quantizeBehind_first hbufferedPos hbuffered).2.1
      have hbound : signOf sweep.direction * (bufferedExtreme bars config sweep).value
          ≤ Decimal.rounded (signOf sweep.direction * sweep.extreme.value) :=
        bufferedExtreme_le hbuffer
      linarith
    · rw [Decimal.le_iff_value, abs_sub_of_toward hprotective]
      exact hdistance

/-! ## The intent -/

/-- An intent is made where its expiry is a date and its prices are on their sides. -/
theorem intentOf_iff {direction : Side} {reasonCode : String} {reasonCodes : List String}
    {stop target : Price} (hlifetime : 0 < config.intentLifetimeSeconds) :
    (∃ intent, intentOf snapshot bars context config evaluation direction reasonCode reasonCodes stop
        target = .ok intent)
      ↔ PyDatetime.Representable (snapshot.eventTimeUtc + seconds config.intentLifetimeSeconds)
        ∧ stopDirectionError direction (entryOf snapshot direction).val stop.val target.val
          = none := by
  have hseconds : 0 < seconds config.intentLifetimeSeconds := Int.mul_pos hlifetime (by decide)
  have hlater : snapshot.eventTimeUtc
      < snapshot.eventTimeUtc + seconds config.intentLifetimeSeconds :=
    Int.lt_add_of_pos_right _ hseconds
  by_cases hdate : PyDatetime.Representable
      (snapshot.eventTimeUtc + seconds config.intentLifetimeSeconds)
  · have hexpiry : expiryOf snapshot.eventTimeUtc config.intentLifetimeSeconds
        = .ok (snapshot.eventTimeUtc + seconds config.intentLifetimeSeconds) := if_pos hdate
    unfold intentOf
    simp only [hexpiry, bind, Except.bind, dif_pos hlater]
    split
    · rename_i message hmessage
      rw [hmessage]
      refine iff_of_false ?_ fun h => by cases h.2
      rintro ⟨intent, hintent⟩
      cases hintent
    · rename_i hnone
      exact iff_of_true ⟨_, rfl⟩ ⟨hdate, hnone⟩
  · have hexpiry : expiryOf snapshot.eventTimeUtc config.intentLifetimeSeconds
        = .error ⟨.overflow, "date value out of range"⟩ := if_neg hdate
    unfold intentOf
    simp only [hexpiry, bind, Except.bind]
    refine iff_of_false ?_ fun h => hdate h.1
    rintro ⟨intent, hintent⟩
    cases hintent

omit [Externals] in
/-- A sweep is never flat. -/
theorem sweep_direction (h : sweepOf bars config read = some sweep) : sweep.direction ≠ .flat := by
  obtain ⟨pool, -, hswept⟩ := sweepOf_pool h
  rw [hswept.direction]
  cases pool.isBuySide <;> simp

/-! ## The target -/

omit [Externals] in
/-- A level that is found is ahead of the entry, and worth the risk. -/
theorem foundLevel_some {stop level : Decimal}
    (h : foundLevel snapshot config read sweep stop = some level) :
    levelOf snapshot config read sweep.direction stop = level
      ∧ Toward sweep.direction (entryOf snapshot sweep.direction).val level
      ∧ config.minRewardMultiple ≤ rewardOf (entryOf snapshot sweep.direction).val stop level := by
  have hlevel : levelOf snapshot config read sweep.direction stop = level := by
    unfold levelOf
    dsimp only
    rw [show targetLevelOf config read sweep.direction (entryOf snapshot sweep.direction).val
      ((entryOf snapshot sweep.direction).val - stop).abs = some level from h]
    rfl
  obtain ⟨hnearest, hworth⟩ := Option.filter_eq_some_iff.mp h
  refine ⟨hlevel, nearestTarget_toward hnearest, ?_⟩
  unfold rewardOf
  simpa [Decimal.not_lt] using hworth

omit [Externals] in
theorem levelOf_of_none {stop : Decimal}
    (hnone : foundLevel snapshot config read sweep stop = none) :
    levelOf snapshot config read sweep.direction stop
      = fallbackLevel snapshot config sweep stop := by
  unfold levelOf
  dsimp only
  rw [show targetLevelOf config read sweep.direction (entryOf snapshot sweep.direction).val
    ((entryOf snapshot sweep.direction).val - stop).abs = none from hnone]
  rfl

omit [Externals] in
/-- Where no level is found, the target is the multiple of the risk, and it's one an intent may have
just when it's far enough as it's written. -/
theorem fallbackKept_iff {stop target : Decimal}
    (hnone : foundLevel snapshot config read sweep stop = none) (htarget : 0 < target)
    (h : quantizeAhead sweep.direction (levelOf snapshot config read sweep.direction stop) spec.digits
      = .ok target) :
    FallbackKept snapshot spec config sweep stop
      ↔ Toward sweep.direction (entryOf snapshot sweep.direction).val target
        ∧ config.minRewardMultiple ≤ rewardOf (entryOf snapshot sweep.direction).val stop
          (levelOf snapshot config read sweep.direction stop) := by
  rw [levelOf_of_none hnone] at h ⊢
  constructor
  · rintro ⟨hahead, hmultiple⟩
    exact ⟨(toward_target_iff htarget h).mpr hahead, hmultiple⟩
  · rintro ⟨hahead, hmultiple⟩
    exact ⟨(toward_target_iff htarget h).mp hahead, hmultiple⟩

/-! ## From a setup to its intent -/

/-- An intent is all that a proposal is made of. -/
theorem exists_propose {stop target : Price}
    (hshown : ∃ shown, quantizePrice (range.retracementOf (entryOf snapshot sweep.direction).val) 2
      .halfEven = .ok shown)
    (hintent : ∀ reasonCode reasonCodes, ∃ intent, intentOf snapshot bars context config evaluation
      sweep.direction reasonCode reasonCodes stop target = .ok intent) :
    ∃ trade, propose snapshot bars context config read evaluation sweep range stop target
      = .ok trade := by
  have hmade : ∀ {α β : Type} {x : Except PyError α} (f : α → β), (∃ a, x = .ok a) →
      ∃ b, (x >>= fun a => pure (f a)) = .ok b := by
    rintro α β x f ⟨a, rfl⟩
    exact ⟨f a, rfl⟩
  obtain ⟨shown, hshown⟩ := hshown
  unfold propose
  dsimp only
  rw [hshown]
  exact hmade _ (hintent _ _)

/-- A trade of the right shape. -/
def Shaped (snapshot : MarketSnapshot) (bars : List Bar) (spec : InstrumentSpec)
    (context : AgentContext) (config : IctConfig) (trade : TradeIntent × IctFeatureSnapshot) : Prop :=
  ∃ read sweep stop target,
    Shape snapshot bars spec context config read sweep trade.1 stop target

section

variable (hread : readStructure bars config.swingStrength config.structureLookbackBars = .ok read)
  (hsweep : sweepOf bars config read = some sweep) (hpositive : config.Positive)

include hread hsweep hpositive

/-- **With a stop and a target that are positive, the intent is of the right shape just when nothing
more is needed.** -/
theorem fine_propose_iff (stop target : Price) {placed : Prop}
    (hplaced : Behind snapshot spec context sweep stop.val ↔ placed)
    (htarget : quantizeAhead sweep.direction
      (levelOf snapshot config read sweep.direction stop.val) spec.digits = .ok target.val) :
    Fine (Shaped snapshot bars spec context config)
        (attempt (propose snapshot bars context config read evaluation sweep range stop target))
      ↔ Complete snapshot spec config read sweep range placed stop.val := by
  rw [Fine.attempt_iff]
  constructor
  · rintro ⟨⟨intent, features⟩, hpropose, read', sweep', stop', target', hshape⟩
    obtain ⟨-, hreference, hstop, hprofit, -, -, -⟩ := propose_ok hpropose
    obtain rfl := Except.ok.inj (hread.symm.trans hshape.structureRead)
    obtain rfl := Option.some.inj (hsweep.symm.trans hshape.detected)
    obtain rfl := Option.some.inj (hstop.symm.trans hshape.stop)
    obtain rfl := Option.some.inj (hprofit.symm.trans hshape.target)
    have hprotective := hshape.protective
    have hprofitable := hshape.profitable
    have hdistance := hshape.distance
    have hreward := hshape.reward
    rw [hreference] at hprotective hprofitable hdistance hreward
    unfold propose at hpropose
    obtain ⟨shown, hshown, hpropose⟩ := bind_ok hpropose
    obtain ⟨made, hintent, -⟩ := bind_ok hpropose
    have hdate := ((intentOf_iff hpositive.intentLifetimeSeconds).mp ⟨made, hintent⟩).1
    exact ⟨⟨shown, hshown⟩, hdate, hplaced.mp ⟨hprotective, hshape.beyond, hdistance⟩,
      fun hnone => (fallbackKept_iff hnone target.property htarget).mpr ⟨hprofitable, hreward⟩⟩
  · rintro ⟨⟨shown, hshown⟩, hdate, hclear, hfallback⟩
    obtain ⟨hprotective, hbeyond, hdistance⟩ := hplaced.mpr hclear
    have hahead : Toward sweep.direction (entryOf snapshot sweep.direction).val target.val
        ∧ config.minRewardMultiple ≤ rewardOf (entryOf snapshot sweep.direction).val stop.val
          (levelOf snapshot config read sweep.direction stop.val) := by
      cases hfound : foundLevel snapshot config read sweep stop.val with
      | none => exact (fallbackKept_iff hfound target.property htarget).mp (hfallback hfound)
      | some level =>
          obtain ⟨hlevel, htoward, hworth⟩ := foundLevel_some hfound
          rw [hlevel] at htarget ⊢
          exact ⟨toward_quantizeAhead target.property htoward htarget, hworth⟩
    have hsides := (stopDirectionError_iff (sweep_direction hsweep)).mpr ⟨hprotective, hahead.1⟩
    have hproposed : ∃ trade, propose snapshot bars context config read evaluation sweep range stop
        target = .ok trade :=
      exists_propose ⟨shown, hshown⟩ fun _ _ =>
        (intentOf_iff hpositive.intentLifetimeSeconds).mpr ⟨hdate, hsides⟩
    obtain ⟨⟨intent, features⟩, hpropose⟩ := hproposed
    obtain ⟨hside, hreference, hstop, hprofit, -, -, -⟩ := propose_ok hpropose
    refine ⟨_, hpropose, read, sweep, stop, target, hread, hsweep, hside, hreference, hstop, hprofit,
      hbeyond, ?_, ?_, ?_, htarget, ?_⟩
    · rw [hreference]
      exact hprotective
    · rw [hreference]
      exact hahead.1
    · rw [hreference]
      exact hdistance
    · rw [hreference]
      exact hahead.2

/-- A stop that is placed is held just when the trade is fine from there. -/
theorem fine_target_iff {stop : Decimal} {placed : Prop}
    (hplaced : 0 < stop → (Behind snapshot spec context sweep stop ↔ placed)) :
    Fine (Shaped snapshot bars spec context config)
        (checkTarget snapshot spec config read sweep.direction stop evaluation >>= fun placed =>
          attempt (propose snapshot bars context config read placed.1 sweep range placed.2.1
            placed.2.2))
      ↔ Held snapshot spec config read sweep range placed stop := by
  unfold checkTarget
  simp only [bind_assoc, Fine.refuse_bind, Fine.require_bind, Fine.attempt_bind, Fine.need_bind,
    pure_bind, decide_eq_false_iff_not, Decimal.not_le]
  have hbody : ∀ {evaluation' : Evaluation} {target : Decimal},
      quantizeAhead sweep.direction (levelOf snapshot config read sweep.direction stop) spec.digits
        = .ok target →
      ((∀ takeProfit, price? target = some takeProfit → ∀ stopLoss, price? stop = some stopLoss →
        Fine (Shaped snapshot bars spec context config)
          (attempt (propose snapshot bars context config read evaluation' sweep range stopLoss
            takeProfit)))
      ↔ (0 < target → 0 < stop →
        Complete snapshot spec config read sweep range placed stop)) := by
    intro evaluation' target htarget
    constructor
    · intro h hpositiveTarget hpositiveStop
      exact (fine_propose_iff hread hsweep hpositive ⟨stop, hpositiveStop⟩
        ⟨target, hpositiveTarget⟩ (hplaced hpositiveStop) htarget).mp
          (h _ (dif_pos hpositiveTarget) _ (dif_pos hpositiveStop))
    · intro h takeProfit htakeProfit stopLoss hstopLoss
      obtain rfl := price?_eq_some htakeProfit
      obtain rfl := price?_eq_some hstopLoss
      exact (fine_propose_iff hread hsweep hpositive stopLoss takeProfit (hplaced stopLoss.property)
        htarget).mpr (h takeProfit.property stopLoss.property)
  constructor
  · rintro h ⟨hapart, hlevelled⟩
    obtain ⟨target, htarget, hrest⟩ := h hapart hlevelled
    exact ⟨target, htarget, (hbody htarget).mp hrest⟩
  · intro h hapart hlevelled
    obtain ⟨target, htarget, hrest⟩ := h ⟨hapart, hlevelled⟩
    exact ⟨target, htarget, (hbody htarget).mpr hrest⟩

/-- **A setup's trade is fine just when the setup is tradable.** -/
theorem fine_tradeOf_iff (hatr : 0 < averageTrueRange bars atrPeriod) :
    Fine (Shaped snapshot bars spec context config)
        (tradeOf snapshot bars spec context config read (evaluation, sweep, range))
      ↔ Tradable snapshot bars spec context config read sweep range := by
  have hbuffer : 0 ≤ (averageTrueRange bars atrPeriod * config.stopBufferAtr).value := by
    rw [Decimal.value_mul]
    exact le_of_lt (Decimal.rounded_pos (mul_pos (Decimal.pos_iff_value.mp hatr)
      (Decimal.pos_iff_value.mp hpositive.stopBufferAtr)))
  unfold tradeOf Tradable
  dsimp only
  rw [Fine.attempt_bind, stopOf_iff]
  refine exists_congr fun buffered => and_congr_right fun hbuffered => and_congr ?_ ?_
  · refine forall_congr' fun hnear => exists_congr fun widened => and_congr_right fun hwidened => ?_
    exact fine_target_iff hread hsweep hpositive fun hstop =>
      behind_widened_iff hbuffer (sweep_extreme hsweep) hbuffered hnear hstop hwidened
  · refine forall_congr' fun hfar => ?_
    exact fine_target_iff hread hsweep hpositive fun hstop =>
      behind_buffered_iff hstop hbuffered hfar

end

/-! ## The whole evaluation -/

omit [Externals] in
theorem readStructure_returns (bars : List Bar) {strength : Int} (shiftLookback : Int)
    (h : 0 < strength) :
    ∃ read, readStructure bars strength shiftLookback = .ok read := by
  have hswings : ∃ swings, findSwings bars strength = .ok swings := by
    unfold findSwings
    rw [if_neg (by omega)]
    dsimp only
    split
    · exact ⟨_, rfl⟩
    · exact ⟨_, rfl⟩
  obtain ⟨⟨highs, lows⟩, hswings⟩ := hswings
  unfold readStructure
  rw [hswings]
  exact ⟨_, rfl⟩

/-- An evaluation answers just when its conditions end well. -/
theorem answers_iff_fine
    (hread : readStructure bars config.swingStrength config.structureLookbackBars = .ok read)
    (hbars : minimumBars ≤ bars.length) :
    Answers snapshot bars spec context config
      ↔ Fine (Shaped snapshot bars spec context config)
        (runConditions snapshot bars spec context config read) := by
  have hevaluate : evaluate snapshot bars spec context config
      = decide? snapshot bars spec context config read >>= fun decided =>
        pure (decided.1, some decided.2) := by
    unfold evaluate
    rw [if_neg (Nat.not_lt.mpr hbars), hread]
    rfl
  unfold Answers
  rw [hevaluate]
  unfold decide?
  cases runConditions snapshot bars spec context config read with
  | ok trade =>
      constructor
      · rintro ⟨decision, features, hdecided, hintents⟩
        cases hdecided
        exact hintents _ rfl
      · intro hshaped
        refine ⟨_, _, rfl, fun intent hintent => ?_⟩
        cases hintent
        exact hshaped
  | error ending =>
      cases ending with
      | noTrade refusal evaluation =>
          refine iff_of_true ⟨_, _, rfl, fun intent hintent => ?_⟩ trivial
          cases hintent
      | raised error =>
          refine iff_of_false ?_ id
          rintro ⟨decision, features, hdecided, -⟩
          cases hdecided

/-! ## The optimal trade entry -/

/-- A setup for which the optimal trade entry is required has an entry in the band. -/
theorem setupOf_band (hrequired : config.conditions.requireOptimalTradeEntry = true)
    (h : setupOf snapshot bars context config read = .ok (evaluation, sweep, range)) :
    impulseLeg bars sweep sweep.direction = some range
      ∧ inOptimalTradeEntry config sweep.direction
        (range.retracementOf (entryOf snapshot sweep.direction).val) = true := by
  refine ⟨(setupOf_ok h).2.2.1, ?_⟩
  unfold setupOf at h
  obtain ⟨session, -, h⟩ := goes_on h
  obtain ⟨⟨swept, found⟩, -, h⟩ := goes_on h
  obtain ⟨entered, -, h⟩ := goes_on h
  obtain ⟨⟨located, leg⟩, hlocation, h⟩ := goes_on h
  cases h
  unfold checkLocation at hlocation
  obtain ⟨leg, -, hlocation⟩ := goes_on hlocation
  obtain ⟨half, -, hlocation⟩ := goes_on hlocation
  obtain ⟨banded, hband, hlocation⟩ := goes_on hlocation
  cases hlocation
  exact (Evaluation.require_ok hband).2 hrequired

omit [Externals] in
/-- The swept extreme is an end of the leg that a retracement is measured against. -/
theorem impulseLeg_ends {direction : Side} (h : impulseLeg bars sweep direction = some range) :
    range.low < range.high
      ∧ sweep.extreme = if direction = .buy then range.low else range.high := by
  unfold impulseLeg at h
  split at h
  · cases h
  · extract_lets lastTime leg at h
    split at h
    · cases h
    · rename_i hspan
      obtain rfl := Option.some.inj h
      refine ⟨Decimal.not_le.mp hspan, ?_⟩
      by_cases hbuy : direction = .buy
      · simp only [leg, if_pos hbuy]
      · simp only [leg, if_neg hbuy]

omit [Externals] in
/-- How far a price is from the high, as a part of a range that spans something. -/
theorem value_retracementOf (hspan : range.low < range.high) (price : Decimal) :
    0 < (range.high - range.low).value
      ∧ (range.retracementOf price).value
        = Decimal.rounded ((range.high - price).value / (range.high - range.low).value) := by
  have hsize : 0 < (range.high - range.low).value := by
    rw [Decimal.value_sub]
    exact Decimal.rounded_pos (sub_pos.mpr (Decimal.lt_iff_value.mp hspan))
  have hspans : 0 < range.size := Decimal.pos_iff_value.mpr hsize
  refine ⟨hsize, ?_⟩
  unfold DealingRange.retracementOf
  rw [if_neg (not_le_of_gt hspans)]
  exact Decimal.value_div _ (Decimal.coeff_ne_zero_of_pos hspans)

/--
**The optimal trade entry keeps the entry on its side of the sweep.** A price that is back beyond the
swept extreme has gone back all of the leg at least, and that is more than a band below one allows.
-/
theorem entry_not_behind (hrequired : config.conditions.requireOptimalTradeEntry = true)
    (hhigh : config.oteHigh < 1)
    (h : setupOf snapshot bars context config read = .ok (evaluation, sweep, range)) :
    ¬ Toward sweep.direction (entryOf snapshot sweep.direction).val sweep.extreme := by
  obtain ⟨hleg, hband⟩ := setupOf_band hrequired h
  obtain ⟨hspan, hextreme⟩ := impulseLeg_ends hleg
  obtain ⟨hsize, hretracement⟩ :=
    value_retracementOf hspan (entryOf snapshot sweep.direction).val
  unfold inOptimalTradeEntry at hband
  obtain ⟨-, hdeep⟩ := of_decide_eq_true hband
  -- a depth of one or more is out of the band
  have hshallow : ∀ depth : Decimal, depth ≤ config.oteHigh → depth.value < 1 := by
    intro depth hdepth
    have hone := Decimal.lt_iff_value.mp (lt_of_le_of_lt hdepth hhigh)
    rwa [Decimal.value_one] at hone
  have hdepth := hshallow _ hdeep
  intro hbehind
  unfold Toward at hbehind
  rw [hextreme] at hbehind
  by_cases hbuy : sweep.direction = .buy
  · rw [if_pos hbuy, if_pos hbuy] at hbehind
    rw [hbuy, if_neg (by decide), ← hbuy, hretracement] at hdepth
    refine absurd hdepth (not_lt.mpr ?_)
    rw [← Decimal.rounded_one]
    refine Decimal.rounded_mono ((one_le_div hsize).mpr ?_)
    exact Decimal.le_iff_value.mp (Decimal.sub_mono (le_refl _) (le_of_lt hbehind))
  · have hsell : sweep.direction = .sell := by
      have hflat := sweep_direction (setupOf_ok h).2.1
      cases hside : sweep.direction with
      | buy => exact absurd hside hbuy
      | sell => rfl
      | flat => exact absurd hside hflat
    rw [if_neg hbuy, if_neg hbuy] at hbehind
    rw [hsell, if_pos rfl, ← hsell, Decimal.value_sub, hretracement,
      Decimal.value_one] at hdepth
    refine absurd hdepth (not_lt.mpr ?_)
    have hnonpos : (range.high - (entryOf snapshot sweep.direction).val).value ≤ 0 := by
      rw [Decimal.value_sub, ← Decimal.rounded_zero]
      exact Decimal.rounded_mono (by linarith [Decimal.lt_iff_value.mp hbehind])
    have hback := Decimal.rounded_mono (div_nonpos_of_nonpos_of_nonneg hnonpos (le_of_lt hsize))
    rw [Decimal.rounded_zero] at hback
    calc (1 : ℚ) = Decimal.rounded 1 := Decimal.rounded_one.symm
      _ ≤ _ := Decimal.rounded_mono (by linarith)

omit [Externals] in
/-- With an entry that isn't behind the swept extreme, it's only the buffer that is needed. -/
theorem clear_iff_buffer
    (hentry : ¬ Toward sweep.direction (entryOf snapshot sweep.direction).val sweep.extreme) :
    Clear snapshot bars spec config sweep
      ↔ ¬ GridBetween spec.digits sweep.direction sweep.extreme
          (bufferedExtreme bars config sweep) := by
  constructor
  · intro hclear
    exact hclear.buffer
  · intro hbuffer
    refine ⟨?_, hbuffer⟩
    rintro ⟨v, hv, hfrom, hto⟩
    rw [toward_iff_value, not_lt] at hentry
    exact hbuffer ⟨v, hv, le_trans hentry hfrom, hto⟩

/-! ## The whole evaluation, by its setups -/

/--
**When an evaluation answers**, with any intent of the right shape: just when each of the setups that
come as far as a stop is tradable. Where the optimal trade entry is required, with a band below one,
none of them has its entry behind the swept extreme, so that a stop there needs the buffer alone.
-/
theorem answers_iff (hpositive : config.Positive) (hbars : minimumBars ≤ bars.length) :
    (Answers snapshot bars spec context config
      ↔ ∀ read evaluation sweep range,
        readStructure bars config.swingStrength config.structureLookbackBars = .ok read →
        setupOf snapshot bars context config read = .ok (evaluation, sweep, range) →
        Tradable snapshot bars spec context config read sweep range)
      ∧ (config.conditions.requireOptimalTradeEntry = true → config.oteHigh < 1 →
        ∀ read evaluation sweep range,
          setupOf snapshot bars context config read = .ok (evaluation, sweep, range) →
          (Clear snapshot bars spec config sweep
            ↔ ¬ GridBetween spec.digits sweep.direction sweep.extreme
                (bufferedExtreme bars config sweep))) := by
  refine ⟨?_, fun hrequired hhigh read evaluation sweep range hsetup =>
    clear_iff_buffer (entry_not_behind hrequired hhigh hsetup)⟩
  obtain ⟨read, hread⟩ :=
    readStructure_returns bars config.structureLookbackBars hpositive.swingStrength
  rw [answers_iff_fine hread hbars, runConditions_eq, Fine.quiet_bind fine_setupOf]
  constructor
  · intro h read' evaluation sweep range hread' hsetup
    obtain rfl := Except.ok.inj (hread.symm.trans hread')
    obtain ⟨hatr, hsweep, -, -⟩ := setupOf_ok hsetup
    exact (fine_tradeOf_iff hread hsweep hpositive hatr).mp (h _ hsetup)
  · rintro h ⟨evaluation, sweep, range⟩ hsetup
    obtain ⟨hatr, hsweep, -, -⟩ := setupOf_ok hsetup
    exact (fine_tradeOf_iff hread hsweep hpositive hatr).mpr (h _ _ _ _ hread hsetup)

/-! ## Where no digits are lost -/

omit [Externals] in
theorem rounded_policyFloor :
    Decimal.rounded (policyFloor spec context).value = (policyFloor spec context).value :=
  Decimal.rounded_value_of_digits (Decimal.digits_fix _)

omit [Externals] in
/-- A distance that is the policy's at least is so after rounding. -/
theorem policyFloor_le_rounded {t : ℚ} (h : (policyFloor spec context).value ≤ t) :
    (policyFloor spec context).value ≤ Decimal.rounded t := by
  have hmono := Decimal.rounded_mono h
  rwa [rounded_policyFloor] at hmono

omit [Externals] in
theorem policyFloor_le_abs (direction : Side) {entry stop : Decimal}
    (h : (policyFloor spec context).value ≤ signOf direction * (entry.value - stop.value)) :
    policyFloor spec context ≤ (entry - stop).abs := by
  rw [Decimal.le_iff_value, abs_sub_value]
  refine le_trans (policyFloor_le_rounded h) ?_
  rw [← signOf_mul_rounded]
  exact signOf_mul_le_abs direction _

/-- What a setup's distances come to is written in full. -/
structure DigitsKept (snapshot : MarketSnapshot) (bars : List Bar) (spec : InstrumentSpec)
    (context : AgentContext) (config : IctConfig) (sweep : LiquiditySweep) : Prop where
  /-- The entry has the symbol's digits. -/
  entry : StepGrid.OnGrid (10 ^ (-(spec.digits : Int))) (entryOf snapshot sweep.direction).val.value
  /-- The buffer changes the extreme. -/
  buffer : Toward sweep.direction (bufferedExtreme bars config sweep) sweep.extreme
  policy : (policyStop snapshot spec context sweep).value
    = (entryOf snapshot sweep.direction).val.value
      - signOf sweep.direction * (policyFloor spec context).value

omit [Externals] in
/-- **In full, a stop needs the entry ahead of the buffered extreme, and one that is widened nothing.** -/
theorem DigitsKept.placed (hkept : DigitsKept snapshot bars spec context config sweep) :
    (Clear snapshot bars spec config sweep
        ↔ Toward sweep.direction (bufferedExtreme bars config sweep)
          (entryOf snapshot sweep.direction).val)
      ∧ FloorKept snapshot spec context sweep := by
  refine ⟨?_, ?_⟩
  · constructor
    · intro hclear
      have hentry := hclear.entry
      rwa [gridBetween_iff hkept.entry, not_not] at hentry
    · intro hahead
      refine ⟨?_, ?_⟩
      · rwa [gridBetween_iff hkept.entry, not_not]
      · rintro ⟨v, -, hfrom, hto⟩
        have hbuffer := toward_iff_value.mp hkept.buffer
        linarith
  · intro v _ hle
    rw [signOf_mul_rounded]
    refine policyFloor_le_rounded ?_
    rw [hkept.policy, mul_sub, ← mul_assoc, signOf_mul_self, one_mul] at hle
    rw [mul_sub]
    linarith

omit [Externals] in
/-- **In full, the multiple of the risk is far enough just when it's the least there may be or more.** -/
theorem fallbackKept_iff_of_kept {stop : Decimal} (hpositive : config.Positive)
    (hdigits : Decimal.digits config.fallbackRewardMultiple.coeff.natAbs ≤ Decimal.prec)
    (hapart : 0 < ((entryOf snapshot sweep.direction).val - stop).abs)
    (hdistance : (((entryOf snapshot sweep.direction).val - stop).abs
        * config.fallbackRewardMultiple).value
      = ((entryOf snapshot sweep.direction).val - stop).abs.value
        * config.fallbackRewardMultiple.value)
    (hlevel : (fallbackLevel snapshot config sweep stop).value
      = (entryOf snapshot sweep.direction).val.value + signOf sweep.direction
        * (((entryOf snapshot sweep.direction).val - stop).abs
          * config.fallbackRewardMultiple).value) :
    FallbackKept snapshot spec config sweep stop
      ↔ config.minRewardMultiple ≤ config.fallbackRewardMultiple := by
  have hrisk := Decimal.pos_iff_value.mp hapart
  have hmultiple := Decimal.pos_iff_value.mp hpositive.fallbackRewardMultiple
  have hfar : 0 < (((entryOf snapshot sweep.direction).val - stop).abs
      * config.fallbackRewardMultiple).value := by
    rw [hdistance]
    exact mul_pos hrisk hmultiple
  have hreward : (multipleKept sweep.direction (entryOf snapshot sweep.direction).val
      ((entryOf snapshot sweep.direction).val - stop).abs config.fallbackRewardMultiple).value
      = config.fallbackRewardMultiple.value := by
    change (rewardOf (entryOf snapshot sweep.direction).val stop
      (fallbackLevel snapshot config sweep stop)).value = _
    have hwritten : Decimal.rounded (((entryOf snapshot sweep.direction).val - stop).abs
        * config.fallbackRewardMultiple).value = (((entryOf snapshot sweep.direction).val - stop).abs
          * config.fallbackRewardMultiple).value :=
      Decimal.rounded_value_of_digits (Decimal.digits_fix _)
    unfold rewardOf
    rw [Decimal.value_div _ (Decimal.coeff_ne_zero_of_pos hapart), abs_sub_value, hlevel,
      add_sub_cancel_left, ← signOf_mul_rounded, hwritten, abs_mul, abs_of_pos hfar, hdistance]
    have hsign : |signOf sweep.direction| = 1 := by
      rcases signOf_cases sweep.direction with hbuy | hsell
      · rw [hbuy, abs_one]
      · rw [hsell, abs_neg, abs_one]
    rw [hsign, one_mul, mul_div_cancel_left₀ _ (ne_of_gt hrisk),
      Decimal.rounded_value_of_digits hdigits]
  constructor
  · intro hkept
    rw [Decimal.le_iff_value, ← hreward]
    exact Decimal.le_iff_value.mp hkept.multiple
  · intro hle
    refine ⟨?_, ?_⟩
    · rintro ⟨v, -, hfrom, hto⟩
      rw [hlevel, mul_add, ← mul_assoc, signOf_mul_self, one_mul] at hfrom
      linarith
    · rw [Decimal.le_iff_value, hreward]
      exact Decimal.le_iff_value.mp hle

end Ict

/-! ## An entry beyond the sweep -/

namespace Sample

theorem positive_unconditional : ({ conditions := unconditional } : Ict.IctConfig).Positive := by
  constructor <;> decide

theorem uncrossed_fallen : ¬ (price (109000 + 8)).val < (price 109000).val := by decide +kernel

theorem length_complete : Ict.minimumBars ≤ (series complete).length := by decide +kernel

theorem positive_default : ({} : Ict.IctConfig).Positive := by constructor <;> decide

/-- What is raised, if anything is. -/
def raisedBy {α : Type} : Except PyError α → Option PyError
  | .ok _ => none
  | .error error => some error

theorem eq_error_of_raisedBy {α : Type} {x : Except PyError α} {error : PyError}
    (h : raisedBy x = some error) : x = .error error := by
  cases x with
  | ok a => cases h
  | error e =>
      cases h
      rfl

theorem raisedBy_fallen : raisedBy (Ict.evaluate (quoteFrom 109000 uncrossed_fallen)
      (series complete) spec idle { conditions := unconditional })
    = some ⟨.validation, "BUY stop_loss_price must be below reference_price"⟩ := by decide +kernel

theorem not_answers_fallen : ¬ Ict.Answers (quoteFrom 109000 uncrossed_fallen) (series complete) spec
    idle { conditions := unconditional } := by
  rintro ⟨decision, features, hanswer, -⟩
  rw [eq_error_of_raisedBy raisedBy_fallen] at hanswer
  cases hanswer

/-- What is so of every setup of a retracement, checked on the one there is. -/
theorem retraced_setups {P : StructureRead → LiquiditySweep → DealingRange → Prop}
    [∀ read sweep range, Decidable (P read sweep range)]
    (h : ((readStructure (series complete) 2 24).toOption.all fun read =>
      (Ict.setupOf (quoteFrom 109906 uncrossed_retraced) (series complete) idle {} read).toOption.all
        fun setup => decide (P read setup.2.1 setup.2.2)) = true)
    {read : StructureRead} {evaluation : Ict.Evaluation} {sweep : LiquiditySweep}
    {range : DealingRange} (hread : readStructure (series complete) 2 24 = .ok read)
    (hsetup : Ict.setupOf (quoteFrom 109906 uncrossed_retraced) (series complete) idle {} read
      = .ok (evaluation, sweep, range)) : P read sweep range := by
  rw [hread] at h
  simp only [Except.toOption, Option.all_some, hsetup] at h
  exact of_decide_eq_true h

/-- The stop of the retracement, and the multiple of the risk ahead of its entry. -/
def retracedStop : Decimal := (price 109657).val

/-- A low at 1.09700 is swept; the stop goes 43 points beyond it, and there's no level worth it. -/
structure Retraced (read : StructureRead) (sweep : LiquiditySweep) (range : DealingRange) : Prop where
  direction : sweep.direction = .buy
  extreme : sweep.extreme = (price 109700).val
  shown : ((range.retracementOf (price 109914).val).quantize .halfEven (-2)).isSome
  unfound : Ict.foundLevel (quoteFrom 109906 uncrossed_retraced) {} read sweep retracedStop = none

instance (read : StructureRead) (sweep : LiquiditySweep) (range : DealingRange) :
    Decidable (Retraced read sweep range) :=
  decidable_of_iff (sweep.direction = .buy ∧ sweep.extreme = (price 109700).val
      ∧ ((range.retracementOf (price 109914).val).quantize .halfEven (-2)).isSome
      ∧ Ict.foundLevel (quoteFrom 109906 uncrossed_retraced) {} read sweep retracedStop = none)
    ⟨fun ⟨direction, extreme, shown, unfound⟩ => ⟨direction, extreme, shown, unfound⟩,
      fun ⟨direction, extreme, shown, unfound⟩ => ⟨direction, extreme, shown, unfound⟩⟩

theorem retraced : ((readStructure (series complete) 2 24).toOption.all fun read =>
      (Ict.setupOf (quoteFrom 109906 uncrossed_retraced) (series complete) idle {} read).toOption.all
        fun setup => decide (Retraced read setup.2.1 setup.2.2)) = true := by decide +kernel

/-- The stop of the retracement is placed with its digits kept, and so is its target. -/
theorem tradable_of_retraced {read : StructureRead} {sweep : LiquiditySweep} {range : DealingRange}
    (h : Retraced read sweep range) :
    Ict.Tradable (quoteFrom 109906 uncrossed_retraced) (series complete) spec idle {} read sweep
      range := by
  have hbuffered : Ict.bufferedExtreme (series complete) {} sweep
      = Ict.behind .buy (price 109700).val (averageTrueRange (series complete) atrPeriod * ⟨25, -2⟩) := by
    unfold Ict.bufferedExtreme
    rw [h.direction, h.extreme]
  have hkept : Ict.DigitsKept (quoteFrom 109906 uncrossed_retraced) (series complete) spec idle {}
      sweep := by
    refine ⟨?_, ?_, ?_⟩
    · rw [h.direction]
      exact ⟨109914, rfl⟩
    · rw [h.direction, h.extreme, hbuffered]
      decide +kernel
    · unfold Ict.policyStop
      rw [h.direction]
      decide +kernel
  have hclear : Ict.Clear (quoteFrom 109906 uncrossed_retraced) (series complete) spec {} sweep := by
    refine hkept.placed.1.mpr ?_
    rw [h.direction, hbuffered]
    decide +kernel
  have hfallback : Ict.FallbackKept (quoteFrom 109906 uncrossed_retraced) spec {} sweep
      retracedStop := by
    refine (Ict.fallbackKept_iff_of_kept positive_default (by decide) ?_ ?_ ?_).mpr (by decide)
    · rw [h.direction]
      decide +kernel
    · rw [h.direction]
      decide +kernel
    · unfold Ict.fallbackLevel
      rw [h.direction]
      decide +kernel
  have hlevel : Ict.levelOf (quoteFrom 109906 uncrossed_retraced) {} read sweep.direction retracedStop
      = Ict.fallbackLevel (quoteFrom 109906 uncrossed_retraced) {} sweep retracedStop :=
    Ict.levelOf_of_none h.unfound
  refine ⟨retracedStop, ?_, fun hnear => ?_, fun _ _ => ⟨(price 110428).val, ?_, fun _ _ => ?_⟩⟩
  · rw [h.direction, hbuffered]
    exact Ict.quantizePrice_of_quantize (by decide +kernel)
  · refine absurd hnear ?_
    unfold Ict.TooNear
    rw [h.direction]
    decide +kernel
  · rw [hlevel, h.direction]
    unfold Ict.fallbackLevel
    rw [h.direction]
    exact Ict.quantizePrice_of_quantize (by decide +kernel)
  · obtain ⟨q, hq⟩ := Option.isSome_iff_exists.mp h.shown
    refine ⟨⟨q, ?_⟩, by decide, hclear, fun _ => hfallback⟩
    rw [h.direction]
    exact Ict.quantizePrice_of_quantize hq

end Sample

open Sample in
/-- Where the price is back between the low that was swept and the extreme reached since, an evaluation
answers; far below that low it doesn't, and so not every setup there is tradable. -/
theorem answers_iff_sample :
    Ict.Answers (quoteFrom 109906 uncrossed_retraced) (series complete) spec idle {}
      ∧ ¬ ∀ read evaluation sweep range, readStructure (series complete) 2 24 = .ok read →
        Ict.setupOf (quoteFrom 109000 uncrossed_fallen) (series complete) idle
          { conditions := unconditional } read = .ok (evaluation, sweep, range) →
        Ict.Tradable (quoteFrom 109000 uncrossed_fallen) (series complete) spec idle
          { conditions := unconditional } read sweep range := by
  refine ⟨(Ict.answers_iff positive_default length_complete).1.mpr ?_, fun htradable =>
    not_answers_fallen
      ((Ict.answers_iff positive_unconditional length_complete).1.mpr htradable)⟩
  intro read evaluation sweep range hread hsetup
  exact tradable_of_retraced (retraced_setups retraced hread hsetup)

open Sample in
/-- With no clause required and the price far below the low that was swept, the evaluation raises. -/
theorem raises_below_sweep :
    ({ conditions := unconditional } : Ict.IctConfig).Positive
      ∧ Ict.minimumBars ≤ (series complete).length
      ∧ Ict.evaluate (quoteFrom 109000 uncrossed_fallen) (series complete) spec idle
          { conditions := unconditional }
        = .error ⟨.validation, "BUY stop_loss_price must be below reference_price"⟩
      ∧ ¬ Ict.Answers (quoteFrom 109000 uncrossed_fallen) (series complete) spec idle
          { conditions := unconditional } :=
  ⟨positive_unconditional, length_complete, eq_error_of_raisedBy raisedBy_fallen,
    not_answers_fallen⟩

end Crumblr
