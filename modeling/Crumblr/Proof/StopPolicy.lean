import Crumblr.Proof.IntentShape
import Crumblr.Proof.Reconstruction
import Crumblr.Proof.SyntheticFeed
import Crumblr.TradingAgent.Baseline

/-!
# Stops within policy

A strategy is told the least distance a stop may have, so that it proposes nothing that risk then
refuses for its stop. The two count differently: the strategy adds a distance to a price and rounds
to the symbol's digits, risk takes the distance back off and rounds it to points. Between them
nothing may be lost.

Three roundings lie between them. The sum of a price and a distance is a decimal of so many digits,
and rounded where it needs more. The stop is rounded to the symbol's digits, away from the entry.
And risk divides by a point and rounds the quotient to a whole number. Where a point is worth the
last digit, prices and the policy's distance are whole numbers of one unit. Then the first rounding
loses nothing as long as a stop is left at all, the second only adds to the distance, and the third
reaches every whole number that the exact quotient reaches.

What holds of one decision holds of a replay: a window's capsule carries risk's answer to the one
intent that the strategy made of the same tick, and the generator quotes to the last digit.
-/

namespace Crumblr

open Ict (entryOf behind quantizeBehind policyFloor signOf)

/-- The points a stop has to have. -/
def policyPoints (spec : InstrumentSpec) (context : AgentContext) : Nat :=
  max context.minStopDistancePoints spec.stopsLevel

/-- A price to the last digit of its symbol. -/
def OnDigits (spec : InstrumentSpec) (price : Decimal) : Prop :=
  Ict.quantizePrice price spec.digits .halfEven = .ok price

/-- A quote to the last digit of its symbol, where that digit is worth a point. -/
structure InPoints (spec : InstrumentSpec) (snapshot : MarketSnapshot) : Prop where
  point : spec.point.val = BarPrices.step spec
  bid : OnDigits spec snapshot.bid.val
  ask : OnDigits spec snapshot.ask.val

/-- An intent with a stop that keeps the policy's distance. -/
structure Protected (spec : InstrumentSpec) (context : AgentContext) (intent : TradeIntent) :
    Prop where
  directional : intent.side ≠ .flat
  distance : ∀ stop, intent.stopLossPrice = some stop →
    policyFloor spec context ≤ stopDistanceFrom intent.referencePrice.val stop

section

variable {snapshot : MarketSnapshot} {spec : InstrumentSpec} {context : AgentContext}
  {intent : TradeIntent}

/-! ## Counting in points -/

/-- What a decimal of a symbol's digits stays below. -/
def limitOf (spec : InstrumentSpec) : ℚ := 10 ^ Decimal.prec * 10 ^ (-(spec.digits : Int))

theorem step_value : (BarPrices.step spec).value = 10 ^ (-(spec.digits : Int)) := by
  unfold BarPrices.step Decimal.value
  dsimp only
  rw [Int.cast_one, one_mul]

theorem rounded_limit : Decimal.rounded (limitOf spec) = limitOf spec := by
  have hunits := Decimal.rounded_units (n := 10 ^ Decimal.prec) le_rfl (-(spec.digits : Int))
  push_cast at hunits
  exact hunits

/-- A price on digits is a number of units that a decimal has digits for. -/
theorem OnDigits.units {price : Decimal} (h : OnDigits spec price) :
    price.value = price.coeff * 10 ^ (-(spec.digits : Int))
      ∧ price.coeff.natAbs < 10 ^ Decimal.prec := by
  have hquantized := Ict.quantizePrice_ok h
  refine ⟨?_, (Decimal.digits_le_iff (by decide)).mp (Decimal.digits_quantize hquantized)⟩
  unfold Decimal.value
  rw [Decimal.exp_quantize hquantized]

theorem OnDigits.value_lt {price : Decimal} (h : OnDigits spec price) :
    price.value < limitOf spec := by
  obtain ⟨hvalue, hfits⟩ := h.units
  have hcoeff : (price.coeff : ℚ) < 10 ^ Decimal.prec := by
    have hlt : price.coeff < ((10 ^ Decimal.prec : Nat) : Int) := by omega
    exact_mod_cast hlt
  rw [hvalue]
  exact mul_lt_mul_of_pos_right hcoeff (by positivity)

theorem OnDigits.coeff_pos {price : Decimal} (h : OnDigits spec price) (hpos : 0 < price) :
    0 < price.coeff := by
  obtain ⟨hvalue, -⟩ := h.units
  rw [Decimal.pos_iff_value, hvalue] at hpos
  exact_mod_cast pos_of_mul_pos_left hpos (by positivity)

section

variable (hpoint : spec.point.val = BarPrices.step spec)
include hpoint

theorem value_policyFloor : (policyFloor spec context).value
    = Decimal.rounded (policyPoints spec context * 10 ^ (-(spec.digits : Int))) := by
  unfold policyFloor
  rw [hpoint, Decimal.value_mul, step_value, mul_comm, Decimal.value_natCast]
  rfl

/-- The policy's distance is so many points, unless a decimal has no digits for them. -/
theorem policyFloor_cases (context : AgentContext) :
    (policyPoints spec context < 10 ^ Decimal.prec
        ∧ (policyFloor spec context).value
          = policyPoints spec context * 10 ^ (-(spec.digits : Int)))
      ∨ limitOf spec ≤ (policyFloor spec context).value := by
  rw [value_policyFloor hpoint]
  rcases Nat.lt_or_ge (policyPoints spec context) (10 ^ Decimal.prec) with hlt | hge
  · exact .inl ⟨hlt, Decimal.rounded_units hlt.le _⟩
  · right
    have hmany : (10 : ℚ) ^ Decimal.prec ≤ policyPoints spec context := by exact_mod_cast hge
    rw [← rounded_limit]
    exact Decimal.rounded_mono (mul_le_mul_of_nonneg_right hmany (by positivity))

/-- It's no less than any number of points that policy asks for. -/
theorem units_le_policyFloor {n : Nat} (hn : n ≤ policyPoints spec context)
    (hfits : n ≤ 10 ^ Decimal.prec) :
    n * 10 ^ (-(spec.digits : Int)) ≤ (policyFloor spec context).value := by
  have hfew : (n : ℚ) ≤ policyPoints spec context := by exact_mod_cast hn
  rw [value_policyFloor hpoint, ← Decimal.rounded_units hfits]
  exact Decimal.rounded_mono (mul_le_mul_of_nonneg_right hfew (by positivity))

end

/-! ## From the policy to a stop -/

theorem behind_mono (direction : Side) (entry : Decimal) {floor distance : Decimal}
    (h : floor ≤ distance) :
    signOf direction * (behind direction entry distance).value
      ≤ signOf direction * (behind direction entry floor).value := by
  unfold signOf behind
  split
  · rw [one_mul, one_mul, ← Decimal.le_iff_value]
    exact Decimal.sub_mono (le_refl entry) h
  · rw [neg_one_mul, neg_one_mul, neg_le_neg_iff, ← Decimal.le_iff_value]
    exact Decimal.add_mono (le_refl entry) h

section

variable {entry stop : Decimal}

/-- Taking the policy's distance off an entry loses no digits, where a stop is left. -/
theorem floor_below (hpoint : spec.point.val = BarPrices.step spec) (hentry : OnDigits spec entry)
    (hpos : 0 < entry) (hstop : 0 < stop)
    (h : stop.value ≤ (entry - policyFloor spec context).value) :
    (policyFloor spec context).value ≤ entry.value - stop.value := by
  have hstop := Decimal.pos_iff_value.mp hstop
  have hbelow := hentry.value_lt
  rw [Decimal.value_sub] at h
  -- a distance that a decimal has no digits for leaves no stop above zero
  rcases policyFloor_cases hpoint context with ⟨hfew, hfloor⟩ | hmany
  · obtain ⟨hvalue, hfits⟩ := hentry.units
    have hcoeff := hentry.coeff_pos hpos
    -- a difference of units that leaves a stop has no more digits than the two it's made of
    have hexact := Decimal.rounded_of_digits (n := entry.coeff - policyPoints spec context)
      ((Decimal.digits_le_iff (by decide)).mpr (by omega)) (-(spec.digits : Int))
    push_cast at hexact
    rw [sub_mul, ← hvalue, ← hfloor] at hexact
    linarith
  · have hnone := Decimal.rounded_mono
      (sub_nonpos.mpr (hbelow.le.trans hmany))
    rw [Decimal.rounded_zero] at hnone
    linarith

/-- Nor does adding it, where the stop is still on digits. -/
theorem floor_above (hpoint : spec.point.val = BarPrices.step spec) (hentry : OnDigits spec entry)
    (hpos : 0 < entry) (hstop : OnDigits spec stop)
    (h : (entry + policyFloor spec context).value ≤ stop.value) :
    (policyFloor spec context).value ≤ stop.value - entry.value := by
  have hcoeff := hentry.coeff_pos hpos
  have hpos := Decimal.pos_iff_value.mp hpos
  rw [Decimal.value_add] at h
  -- a sum past the limit rounds to the limit at least, and no stop is that far
  have hbelow : entry.value + (policyFloor spec context).value < limitOf spec := by
    by_contra hover
    have hlimit := Decimal.rounded_mono (not_lt.mp hover)
    rw [rounded_limit] at hlimit
    exact absurd hstop.value_lt (not_lt.mpr (hlimit.trans h))
  rcases policyFloor_cases hpoint context with ⟨hfew, hfloor⟩ | hmany
  · obtain ⟨hvalue, -⟩ := hentry.units
    have hsum : entry.value + (policyFloor spec context).value
        = ((entry.coeff + policyPoints spec context : Int) : ℚ) * 10 ^ (-(spec.digits : Int)) := by
      rw [hfloor, hvalue, ← add_mul]
      push_cast
      rfl
    -- below the limit the sum has digits enough, and is exact
    have hfits : entry.coeff + policyPoints spec context < ((10 ^ Decimal.prec : Nat) : Int) := by
      rw [hsum] at hbelow
      exact_mod_cast lt_of_mul_lt_mul_right hbelow (by positivity)
    have hexact := Decimal.rounded_of_digits (n := entry.coeff + policyPoints spec context)
      ((Decimal.digits_le_iff (by decide)).mpr (by omega)) (-(spec.digits : Int))
    rw [← hsum] at hexact
    linarith
  · linarith

end

/-- A stop put behind the entry by the policy's distance or more keeps that distance. -/
theorem floor_le_of_behind (hquote : InPoints spec snapshot) {direction : Side}
    {distance stop : Decimal} (hdistance : policyFloor spec context ≤ distance) (hstop : 0 < stop)
    (h : quantizeBehind direction (behind direction (entryOf snapshot direction).val distance)
      spec.digits = .ok stop) :
    policyFloor spec context ≤ ((entryOf snapshot direction).val - stop).abs := by
  refine Ict.policyFloor_le_abs direction ?_
  -- the stop is rounded away from the entry, so it is no nearer than the sum
  have hfarther := le_trans (Ict.quantizeBehind_le hstop h)
    (behind_mono direction (entryOf snapshot direction).val hdistance)
  have hentry : OnDigits spec (entryOf snapshot direction).val := by
    unfold entryOf
    split
    · exact hquote.ask
    · exact hquote.bid
  have hpos := (entryOf snapshot direction).property
  unfold signOf behind at hfarther
  unfold signOf
  split at hfarther
  · rename_i hbuy
    rw [one_mul, one_mul] at hfarther
    rw [if_pos hbuy, one_mul]
    exact floor_below hquote.point hentry hpos hstop hfarther
  · rename_i hsell
    rw [neg_one_mul, neg_one_mul, neg_le_neg_iff] at hfarther
    rw [if_neg hsell, neg_one_mul, neg_sub]
    exact floor_above hquote.point hentry hpos (Ict.quantizePrice_settled h) hfarther

/-! ## From a stop to risk -/

/-- A distance of the policy's at least has as many points as policy asks for, divided out. -/
theorem units_le_quotient (hpoint : spec.point.val = BarPrices.step spec) {distance : Decimal}
    (h : policyFloor spec context ≤ distance) {n : Nat} (hn : n ≤ policyPoints spec context)
    (hfits : n ≤ 10 ^ Decimal.prec) : (n : ℚ) ≤ (distance / spec.point.val).value := by
  have hunit : 0 < spec.point.val.value := Decimal.pos_iff_value.mp spec.point.property
  have hunits := units_le_policyFloor hpoint hn hfits
  have hexact := Decimal.rounded_units hfits 0
  rw [zpow_zero, mul_one] at hexact
  rw [Decimal.value_div distance (Decimal.coeff_ne_zero_of_pos spec.point.property), ← hexact]
  -- rounding is monotone, and leaves a whole number of so few digits as it is
  refine Decimal.rounded_mono ?_
  rw [le_div_iff₀ hunit, hpoint, step_value]
  exact hunits.trans (Decimal.le_iff_value.mp h)

/-- The policy's distance comes to its points. -/
theorem points_of_floor (hpoint : spec.point.val = BarPrices.step spec) {distance : Decimal}
    (h : policyFloor spec context ≤ distance) {points : Int}
    (hpoints : priceToPoints distance spec.point.val = .ok points) :
    (policyPoints spec context : Int) ≤ points := by
  unfold priceToPoints at hpoints
  split at hpoints
  · cases hpoints
  · split at hpoints
    · rename_i q hq
      cases hpoints
      have hcoeff : 0 ≤ (distance / spec.point.val).coeff := by
        rw [← Decimal.nonneg_iff_coeff, Decimal.le_iff_value, Decimal.value_zero]
        exact_mod_cast units_le_quotient hpoint h (Nat.zero_le _) (Nat.zero_le _)
      have hnonneg := Decimal.coeff_quantize_nonneg hcoeff hq
      have hint : q.toInt = q.coeff := by
        unfold Decimal.toInt
        rw [Decimal.exp_quantize hq, Int.toNat_zero, pow_zero, mul_one]
      have hfits := (Decimal.digits_le_iff (by decide)).mp (Decimal.digits_quantize hq)
      rw [hint]
      by_contra hless
      obtain ⟨n, hn⟩ := Int.eq_ofNat_of_zero_le hnonneg
      -- a point less would be half a point away
      have hbelow := (Decimal.toInt_quantize_halfUp_le (n := n) hq).mp (by omega)
      have habove := units_le_quotient hpoint h (n := n + 1) (by omega) (by omega)
      push_cast at habove
      linarith
    · cases hpoints

/-- A stop lies apart from its price. -/
theorem stopDistance_pos (hside : intent.side ≠ .flat) {stop : Price}
    (hstop : intent.stopLossPrice = some stop) :
    0 < stopDistanceFrom intent.referencePrice.val stop := by
  have hapart : stop.val.value ≠ intent.referencePrice.val.value := by
    cases hdirection : intent.side with
    | flat => exact absurd hdirection hside
    | buy => exact ne_of_lt (Decimal.lt_iff_value.mp ((intent.buyStops hdirection).1 stop hstop))
    | sell => exact ne_of_gt (Decimal.lt_iff_value.mp ((intent.sellStops hdirection).1 stop hstop))
  -- a difference may need rounding, but no positive number rounds to zero
  have hdifference : Decimal.rounded (intent.referencePrice.val.value - stop.val.value) ≠ 0 := by
    rcases lt_or_gt_of_ne hapart with hbelow | habove
    · exact (Decimal.rounded_pos (sub_pos.mpr hbelow)).ne'
    · have hneg := Decimal.rounded_pos (sub_pos.mpr habove)
      rw [← neg_sub, Decimal.rounded_neg] at hneg
      exact (neg_pos.mp hneg).ne
  rw [Decimal.pos_iff_value]
  unfold stopDistanceFrom
  rw [Decimal.value_abs, Decimal.value_sub]
  exact Decimal.rounded_pos (abs_pos.mpr hdifference)

theorem mem_failing {legs : List (Bool × ReasonCode)} {reason : ReasonCode} :
    reason ∈ failing legs ↔ (true, reason) ∈ legs := by
  induction legs with
  | nil => simp [failing]
  | cons leg legs ih =>
      obtain ⟨fails, other⟩ := leg
      cases fails <;> simp [failing, ih]

/-- What a stop is refused for. -/
def AboutStop (reason : ReasonCode) : Prop := reason = .invalidStop ∨ reason = .stopDistanceViolation

variable [Externals]

theorem entryLegs_about {quote : MarketSnapshot} {portfolio : PortfolioState}
    {riskContext : RiskContext} {killSwitch : KillSwitch} {now : UtcDatetime} {reason : ReasonCode}
    (hside : intent.side ≠ .flat)
    (h : (true, reason) ∈ entryLegs intent quote portfolio riskContext killSwitch now) :
    ¬ AboutStop reason := by
  unfold entryLegs at h
  rintro (rfl | rfl) <;> simp [hside] at h

omit [Externals] in
theorem exposureLegs_about {quote : MarketSnapshot} {portfolio : PortfolioState}
    {riskContext : RiskContext} {requested : RiskFraction} {reason : ReasonCode}
    (hrequested : intent.requestedRiskFraction = some requested)
    (h : (true, reason) ∈ exposureLegs intent quote portfolio riskContext) :
    ¬ AboutStop reason := by
  unfold exposureLegs at h
  rw [hrequested] at h
  cases hcarried : portfolio.openRiskFraction with
  | none => rintro (rfl | rfl) <;> simp [hcarried] at h
  | some openRisk => rintro (rfl | rfl) <;> simp [hcarried] at h

/-- The reasons of a refusal are those it was given. -/
theorem refuseRisk_about {riskContext : RiskContext} {now : UtcDatetime} {stage : String}
    {reasons : List ReasonCode} {decision : RiskDecision} (hsome : reasons ≠ [])
    (hreasons : ∀ reason ∈ reasons, ¬ AboutStop reason)
    (h : refuseRisk intent reasons riskContext now stage = .ok decision) :
    ∀ reason ∈ decision.reasonCodes, ¬ AboutStop reason := by
  obtain ⟨d, hd, hdecides⟩ := refuseRisk_decides intent riskContext now hsome stage
  rw [hd] at h
  cases h
  intro reason hreason
  rw [hdecides.reasons, List.mem_eraseDups] at hreason
  exact hreasons reason hreason

omit [Externals] in
/-- A stop that has the policy's points fails no leg. -/
theorem stopLegs_pass {distance : Decimal} {points : Int} {risk : RiskConfig} {reason : ReasonCode}
    (hapart : 0 < distance) (hleast : (risk.minStopDistancePoints : Int) ≤ points)
    (hbroker : (spec.stopsLevel : Int) ≤ points) :
    (true, reason) ∉ stopLegs distance points risk spec := by
  intro hleg
  unfold stopLegs at hleg
  simp only [List.mem_cons, Prod.mk.injEq, List.not_mem_nil, or_false] at hleg
  rcases hleg with ⟨hclose, -⟩ | ⟨hclose, -⟩
  · rcases of_decide_eq_true hclose.symm with hzero | hfew
    · exact absurd hapart (Decimal.not_lt.mpr hzero)
    · omega
  · have hfew := of_decide_eq_true ((Bool.and_eq_true _ _).mp hclose.symm).2
    omega

/-- What fails of an intent whose stop passes isn't about it. -/
theorem failing_about {quote : MarketSnapshot} {portfolio : PortfolioState}
    {riskContext : RiskContext} {killSwitch : KillSwitch} {now : UtcDatetime} {distance : Decimal}
    {points : Int} {requested : RiskFraction} (hside : intent.side ≠ .flat)
    (hrequested : intent.requestedRiskFraction = some requested)
    (hpass : ∀ reason, (true, reason) ∉ stopLegs distance points riskContext.risk spec) :
    ∀ reason ∈ failing (entryLegs intent quote portfolio riskContext killSwitch now
      ++ stopLegs distance points riskContext.risk spec
      ++ exposureLegs intent quote portfolio riskContext), ¬ AboutStop reason := by
  intro reason hreason
  rcases List.mem_append.mp (mem_failing.mp hreason) with hleg | hleg
  · rcases List.mem_append.mp hleg with hleg | hleg
    · exact entryLegs_about hside hleg
    · exact absurd hleg (hpass reason)
  · exact exposureLegs_about hrequested hleg

/-- **Risk has nothing to say about the stop of a protected intent.** -/
theorem evaluate_protected (hpoint : spec.point.val = BarPrices.step spec)
    (hprotected : Protected spec context intent) {quote : MarketSnapshot}
    {portfolio : PortfolioState} {riskContext : RiskContext} {killSwitch : KillSwitch}
    {now : UtcDatetime} {decision : RiskDecision}
    (hpolicy : riskContext.risk.minStopDistancePoints = context.minStopDistancePoints)
    (h : evaluate intent quote spec portfolio riskContext killSwitch now = .ok decision) :
    ∀ reason ∈ decision.reasonCodes, ¬ AboutStop reason := by
  obtain ⟨hsome, hrequested, -⟩ := intent.directional hprotected.directional
  obtain ⟨stop, hstop⟩ := Option.isSome_iff_exists.mp hsome
  obtain ⟨requested, hrequested⟩ := Option.isSome_iff_exists.mp hrequested
  unfold evaluate at h
  obtain ⟨stop', hstop', h⟩ := bind_ok h
  rw [hstop] at hstop'
  cases hstop'
  obtain ⟨points, hpoints, h⟩ := bind_ok h
  have hcounted := points_of_floor hpoint (hprotected.distance stop hstop) hpoints
  unfold policyPoints at hcounted
  have hpass : ∀ reason, (true, reason) ∉ stopLegs
      (stopDistanceFrom intent.referencePrice.val stop) points riskContext.risk spec := by
    intro reason
    refine stopLegs_pass (stopDistance_pos hprotected.directional hstop) ?_ (by omega)
    rw [hpolicy]
    omega
  dsimp only at h
  -- refused for what failed, or for what the sizing came to, or passed
  split at h
  · rename_i hsome
    exact refuseRisk_about hsome (failing_about hprotected.directional hrequested hpass) h
  · obtain ⟨_, -, h⟩ := bind_ok h
    obtain ⟨sizing, -, h⟩ := bind_ok h
    have hother : ∀ {code : ReasonCode}, ¬ AboutStop code →
        ∀ reason ∈ [code], ¬ AboutStop reason := by
      intro code hcode reason hreason
      obtain rfl := List.mem_singleton.mp hreason
      exact hcode
    split at h
    · refine refuseRisk_about (List.cons_ne_nil _ _) (hother ?_) h
      rintro (hcode | hcode) <;> cases hcode
    · obtain ⟨carried, -, h⟩ := bind_ok h
      split at h
      · refine refuseRisk_about (List.cons_ne_nil _ _) (hother ?_) h
        rintro (hcode | hcode) <;> cases hcode
      · unfold RiskDecision.createPass at h
        split at h
        · cases h
          intro reason hreason
          cases hreason
        · cases h

end

/-! ## The strategies -/

/-- A strategy whose intents are all protected, where quotes are in points. -/
def StrategyEntry.Protects (entry : StrategyEntry) : Prop :=
  ∀ {snapshot : MarketSnapshot} {bars : List Bar} {spec : InstrumentSpec} {context : AgentContext}
    {outcome : StrategyOutcome} {intent : TradeIntent}, InPoints spec snapshot →
    entry.evaluate snapshot bars spec context = .ok outcome →
    outcome.decision.intent = some intent → Protected spec context intent

section

variable [Externals] {snapshot : MarketSnapshot} {bars : List Bar} {spec : InstrumentSpec}
  {context : AgentContext} {intent : TradeIntent}

namespace Baseline

variable {features : FeatureSnapshot} {config : StrategyConfig}

omit [Externals] in
theorem direction_ne_flat : direction features ≠ .flat := by
  unfold direction
  split <;> simp

theorem intentOf_ok {stop target : Price}
    (h : intentOf snapshot features context config stop target = .ok intent) :
    intent.side = direction features
      ∧ intent.referencePrice = entryOf snapshot (direction features)
      ∧ intent.stopLossPrice = some stop := by
  unfold intentOf at h
  obtain ⟨shown, -, h⟩ := bind_ok h
  obtain ⟨expiry, -, h⟩ := bind_ok h
  split at h
  · split at h
    · cases h
    · cases h
      exact ⟨rfl, rfl, rfl⟩
  · cases h

/-- The intent of a decision, and the stop it's given. -/
theorem decide_intent {decision : StrategyDecision}
    (h : decide snapshot features spec context config = .ok decision)
    (hintent : decision.intent = some intent) :
    ∃ stop target : Price, stopOf snapshot features spec context config = .ok stop.val
      ∧ intentOf snapshot features context config stop target = .ok intent := by
  unfold decide at h
  -- four grounds to hold come before a stop is put
  split at h
  · cases h
    cases hintent
  split at h
  · cases h
    cases hintent
  split at h
  · cases h
    cases hintent
  split at h
  · cases h
    cases hintent
  obtain ⟨stop, hstop, h⟩ := bind_ok h
  obtain ⟨target, htarget, h⟩ := bind_ok h
  split at h
  · rename_i placed aimed hplaced haimed
    obtain ⟨made, hmade, h⟩ := bind_ok h
    cases h
    cases hintent
    rw [← Ict.price?_eq_some hplaced] at hstop
    exact ⟨placed, aimed, hstop, hmade⟩
  · cases h
    cases hintent

/-- The wider of two distances is the policy's at least. -/
theorem decide_protected (hquote : InPoints spec snapshot) {decision : StrategyDecision}
    (h : decide snapshot features spec context config = .ok decision)
    (hintent : decision.intent = some intent) : Protected spec context intent := by
  obtain ⟨stop, target, hstop, hmade⟩ := decide_intent h hintent
  obtain ⟨hside, hentry, hplaced⟩ := intentOf_ok hmade
  refine ⟨by rw [hside]; exact direction_ne_flat, fun stop' hstop' => ?_⟩
  rw [hplaced] at hstop'
  cases hstop'
  unfold stopDistanceFrom
  rw [hentry]
  exact floor_le_of_behind hquote Decimal.le_max_right stop.property hstop

theorem protects : strategy.Protects := by
  intro snapshot bars spec context outcome intent hquote h hintent
  change (evaluate snapshot spec context {} bars).map _ = .ok outcome at h
  cases hevaluate : evaluate snapshot spec context {} bars with
  | error e =>
      rw [hevaluate] at h
      cases h
  | ok evaluated =>
      obtain ⟨decision, features⟩ := evaluated
      rw [hevaluate] at h
      cases h
      unfold evaluate at hevaluate
      split at hevaluate
      · cases hevaluate
        cases hintent
      · split at hevaluate
        · cases hevaluate
          cases hintent
        · obtain ⟨decided, hdecided, hevaluate⟩ := bind_ok hevaluate
          cases hevaluate
          exact decide_protected hquote hdecided hintent

end Baseline

namespace Ict

variable {config : IctConfig} {read : StructureRead}

/-- The stop of a trade is the one it was put at. -/
theorem tradeOf_stop {evaluation : Evaluation} {sweep : LiquiditySweep} {range : DealingRange}
    {features : IctFeatureSnapshot}
    (h : tradeOf snapshot bars spec context config read (evaluation, sweep, range)
      = .ok (intent, features)) :
    ∃ stop : Price, stopOf snapshot bars spec context config sweep = .ok stop.val
      ∧ intent.side = sweep.direction
      ∧ intent.referencePrice = entryOf snapshot sweep.direction
      ∧ intent.stopLossPrice = some stop := by
  unfold tradeOf at h
  obtain ⟨stop, hstop, h⟩ := goes_on h
  obtain ⟨⟨checked, placed, target⟩, htarget, h⟩ := goes_on h
  obtain ⟨-, -, -, hplaced⟩ := checkTarget_ok htarget
  obtain ⟨hside, hentry, hstopped, -⟩ := propose_ok (attempt_ok h)
  rw [← hplaced] at hstop
  exact ⟨placed, attempt_ok hstop, hside, hentry, hstopped⟩

omit [Externals] in
/-- A stop that is too near is put where policy wants it. -/
theorem stopOf_protected (hquote : InPoints spec snapshot) {sweep : LiquiditySweep}
    {stop : Price} (h : stopOf snapshot bars spec context config sweep = .ok stop.val) :
    policyFloor spec context ≤ ((entryOf snapshot sweep.direction).val - stop.val).abs := by
  unfold stopOf at h
  obtain ⟨buffered, -, h⟩ := bind_ok h
  split at h
  · exact floor_le_of_behind hquote (le_refl _) stop.property h
  · rename_i hfar
    cases h
    exact Decimal.not_lt.mp hfar

theorem protects : strategy.Protects := by
  intro snapshot bars spec context outcome intent hquote h hintent
  change (evaluate snapshot bars spec context {}).map _ = .ok outcome at h
  cases hevaluate : evaluate snapshot bars spec context {} with
  | error e =>
      rw [hevaluate] at h
      cases h
  | ok evaluated =>
      obtain ⟨decision, features⟩ := evaluated
      rw [hevaluate] at h
      cases h
      obtain ⟨read, shown, -, hrun, -⟩ := evaluate_intent hevaluate hintent
      rw [runConditions_eq] at hrun
      obtain ⟨⟨evaluation, sweep, range⟩, hsetup, htrade⟩ := goes_on hrun
      obtain ⟨-, hfound, -, -⟩ := setupOf_ok hsetup
      obtain ⟨stop, hstop, hside, hentry, hplaced⟩ := tradeOf_stop htrade
      refine ⟨by rw [hside]; exact sweep_direction hfound, fun stop' hstop' => ?_⟩
      rw [hplaced] at hstop'
      cases hstop'
      unfold stopDistanceFrom
      rw [hentry]
      exact stopOf_protected hquote hstop

end Ict

/-- **Every registered strategy protects its intents.** -/
theorem strategies_protect : ∀ entry ∈ strategies, entry.Protects := by
  intro entry hentry
  simp only [strategies, List.mem_cons, List.not_mem_nil, or_false] at hentry
  rcases hentry with rfl | rfl
  · exact Baseline.protects
  · exact Ict.protects

end

/-! ## A replay -/

/-- Risk's verdict in a capsule says nothing of a stop. -/
def RunCapsule.SparesStop (capsule : RunCapsule) : Prop :=
  ∀ decision, capsule.riskDecision = some decision →
    ∀ reason ∈ decision.reasonCodes, ¬ AboutStop reason

namespace ReplaySetup

open Raising ReplayState

variable [Externals] {self : ReplaySetup} {tick : GeneratedTick} {ticks : List GeneratedTick}
  {s s' : ReplayState} {capsule : RunCapsule}

/-- What a strategy is told in a replay, whatever is open. -/
def agentContext (self : ReplaySetup) (sides : List Side) : AgentContext where
  openPositionSides := sides
  requestedRiskFraction := self.riskConfig.maxRiskPerTrade
  minStopDistancePoints := self.riskConfig.minStopDistancePoints

/-- A tick quoted to the last digit of the symbol. -/
def Quotable (self : ReplaySetup) (tick : GeneratedTick) : Prop :=
  OnDigits self.spec tick.bid ∧ OnDigits self.spec tick.ask

theorem Quotable.inPoints {snapshot : MarketSnapshot} (hquotable : self.Quotable tick)
    (hpoint : self.spec.point.val = BarPrices.step self.spec)
    (h : tick.buildSnapshot self.spec timeframe = .ok snapshot) : InPoints self.spec snapshot := by
  have hprice : ∀ {name : String} {price : Decimal} {checked : Price},
      GeneratedTick.contractPrice name price = .ok checked → checked.val = price := by
    intro name price checked h
    unfold GeneratedTick.contractPrice at h
    split at h
    · cases h
      rfl
    · cases h
  unfold GeneratedTick.buildSnapshot at h
  obtain ⟨bid, hbid, h⟩ := bind_ok h
  obtain ⟨ask, hask, h⟩ := bind_ok h
  obtain ⟨hbidDigits, haskDigits⟩ := hquotable
  rw [← hprice hbid] at hbidDigits
  rw [← hprice hask] at haskDigits
  unfold MarketSnapshot.create at h
  split at h
  · split at h
    · cases h
      exact ⟨hpoint, hbidDigits, haskDigits⟩
    · cases h
  · cases h

/-- The capsule of an intent carries what risk said of it. -/
theorem judgeIntent_spares {w : Window} {intent : TradeIntent} {sides : List Side}
    (hpoint : self.spec.point.val = BarPrices.step self.spec)
    (hprotected : Protected self.spec (self.agentContext sides) intent)
    (h : self.judgeIntent w intent s = (.ok capsule, s')) : capsule.SparesStop := by
  -- of all the steps of judging, the one that asks risk decides what the capsule carries
  unfold judgeIntent at h
  obtain ⟨_, s₁, -, h⟩ := Raising.bind_ok h
  obtain ⟨_, s₂, -, h⟩ := Raising.bind_ok h
  obtain ⟨_, s₃, -, h⟩ := Raising.bind_ok h
  obtain ⟨t, s₄, -, h⟩ := Raising.bind_ok h
  obtain ⟨portfolio, s₅, -, h⟩ := Raising.bind_ok h
  obtain ⟨risk, s₆, hrisk, h⟩ := Raising.bind_ok h
  obtain ⟨hrisk, -⟩ := lift_ok hrisk
  obtain ⟨_, s₇, -, h⟩ := Raising.bind_ok h
  obtain ⟨_, s₈, -, h⟩ := Raising.bind_ok h
  have hcarried : capsule.riskDecision = some risk := by
    split at h
    · exact (sealWindow_ok h).1.risk_eq
    · obtain ⟨_, _, _, -, -, hsays, -⟩ := supervise_ok h
      exact hsays.risk_eq
  intro decision hdecision
  rw [hcarried] at hdecision
  cases hdecision
  exact evaluate_protected hpoint hprotected rfl hrisk

/-- And so of a window, where the strategy is a registered one. -/
theorem processWindow_spares (hstrategy : self.strategy ∈ strategies)
    (hpoint : self.spec.point.val = BarPrices.step self.spec) (hquotable : self.Quotable tick)
    (h : self.processWindow tick s = (.ok (some capsule), s')) : capsule.SparesStop := by
  have hunavailable : ∀ {t t' : ReplayState}, unavailable t ≠ (.ok (some capsule), t') := by
    intro t t' h
    unfold unavailable at h
    obtain ⟨_, s₁, -, h⟩ := Raising.bind_ok h
    obtain ⟨hnone, -⟩ := pure_ok h
    cases hnone
  unfold processWindow at h
  obtain ⟨t, s₁, hread, h⟩ := Raising.bind_ok h
  split at h
  · exact absurd h hunavailable
  obtain ⟨snapshot, s₂, hbuild, h⟩ := Raising.bind_ok h
  obtain ⟨hsnapshot, -⟩ := lift_ok hbuild
  obtain ⟨positions, s₃, -, h⟩ := Raising.bind_ok h
  obtain ⟨outcome, s₄, houtcome, h⟩ := Raising.bind_ok h
  obtain ⟨houtcome, -⟩ := lift_ok houtcome
  -- the strategy and risk are given the same policy, whatever positions are open
  have hquote := hquotable.inPoints hpoint hsnapshot
  cases hfeatures : outcome.features with
  | none =>
      rw [hfeatures] at h
      exact absurd h hunavailable
  | some features =>
      rw [hfeatures] at h
      obtain ⟨judged, s₅, hjudge, h⟩ := Raising.bind_ok h
      obtain ⟨hjudged, -⟩ := pure_ok h
      cases hjudged
      unfold judge at hjudge
      obtain ⟨_, s₆, -, hjudge⟩ := Raising.bind_ok hjudge
      obtain ⟨_, s₇, -, hjudge⟩ := Raising.bind_ok hjudge
      cases hintent : outcome.decision.intent with
      | none =>
          rw [hintent] at hjudge
          obtain ⟨_, s₈, -, hjudge⟩ := Raising.bind_ok hjudge
          intro decision hdecision
          rw [(sealWindow_ok hjudge).1.risk_eq] at hdecision
          cases hdecision
      | some intent =>
          rw [hintent] at hjudge
          exact judgeIntent_spares hpoint
            (strategies_protect _ hstrategy hquote houtcome hintent) hjudge

/-- The capsules of a state spare every stop. -/
def Spared (s : ReplayState) : Prop := ∀ capsule ∈ s.capsules, capsule.SparesStop

theorem takeTick_spares {u : Unit} (hstrategy : self.strategy ∈ strategies)
    (hpoint : self.spec.point.val = BarPrices.step self.spec)
    (hquotable : self.Quotable tick) (hs : Spared s) (h : self.takeTick tick s = (.ok u, s')) :
    Spared s' := by
  unfold takeTick at h
  obtain ⟨_, s₁, hroll, h⟩ := Raising.bind_ok h
  obtain ⟨_, s₂, hmark, h⟩ := Raising.bind_ok h
  have hquiet := (onSession_quiet hroll).trans (markEquity_quiet hmark)
  obtain ⟨_, s₃, hobserve, h⟩ := Raising.bind_ok h
  obtain ⟨hsilent, -⟩ := observeTick_ok hobserve
  have hbefore : Spared s₃ := by
    unfold Spared
    rw [(hquiet.1.trans hsilent).capsules]
    exact hs
  -- of what a tick does, only its window adds a capsule
  unfold settleTick at h
  obtain ⟨decided, s₄, hprocess, h⟩ := Raising.bind_ok h
  have hmiddle : s₄.capsules = s₃.capsules := by
    rcases processWindow_ok hprocess with ⟨-, hadds, -⟩ | ⟨_, _, _, _, -, -, -, hdecided⟩
    · exact hadds.capsules
    · exact hdecided.adds.capsules
  obtain ⟨_, s₅, hcapsules, h⟩ := Raising.bind_ok h
  obtain ⟨_, s₆, hgates, h⟩ := Raising.bind_ok h
  obtain ⟨_, -, hadds, -⟩ := checkLossGates_ok hgates
  obtain ⟨_, s₇, hboundary, h⟩ := Raising.bind_ok h
  obtain ⟨_, -, hadds', -⟩ := checkSessionBoundary_ok hboundary
  have hafter : s'.capsules = s₃.capsules ++ decided.toList := by
    rw [(hadds.trans (hadds'.trans (persistSession_quiet h).1)).capsules, change_ok hcapsules,
      ← hmiddle]
  intro capsule hcapsule
  rw [hafter] at hcapsule
  rcases List.mem_append.mp hcapsule with hold | hnew
  · exact hbefore capsule hold
  · rw [Option.mem_toList] at hnew
    cases hnew
    exact processWindow_spares hstrategy hpoint hquotable hprocess

theorem takeTicks_spares {u : Unit} (hstrategy : self.strategy ∈ strategies)
    (hpoint : self.spec.point.val = BarPrices.step self.spec)
    (hquotable : ∀ tick ∈ ticks, self.Quotable tick) (hs : Spared s)
    (h : self.takeTicks ticks s = (.ok u, s')) : Spared s' := by
  have hadvance : ∀ {tick : GeneratedTick} {t t' : ReplayState}, Spared t →
      advance tick t = (.ok (), t') → Spared t' := by
    intro tick t t' ht hadvance
    unfold Spared
    rw [(advance_quiet hadvance).1.capsules]
    exact ht
  cases ticks with
  | nil =>
      obtain ⟨-, rfl⟩ := pure_ok h
      exact hs
  | cons first ticks =>
      unfold takeTicks at h
      obtain ⟨_, s₁, hfirst, hrest⟩ := Raising.bind_ok h
      unfold firstTick at hfirst
      obtain ⟨_, s₂, hadvanced, hfirst⟩ := Raising.bind_ok hfirst
      obtain ⟨_, s₃, hrecover, hfirst⟩ := Raising.bind_ok hfirst
      -- the session is recovered before the first tick is taken, which seals nothing
      obtain ⟨_, -, hadds, -⟩ := recoverSession_ok hrecover
      obtain ⟨_, s₄, hstart, hfirst⟩ := Raising.bind_ok hfirst
      have hbegun : Spared s₄ := by
        obtain rfl := change_ok hstart
        change ∀ capsule ∈ s₃.capsules, capsule.SparesStop
        rw [hadds.capsules]
        exact hadvance hs hadvanced
      have hfirstTick :=
        takeTick_spares hstrategy hpoint (hquotable first List.mem_cons_self) hbegun hfirst
      -- the other ticks, by induction on those seen: each is taken like the first
      refine each_induct (motive := fun _ t => Spared t) hfirstTick ?_ hrest
      intro seen tick t t' hseen ht hturn
      unfold nextTick at hturn
      obtain ⟨_, t₁, hadvanced, hturn⟩ := Raising.bind_ok hturn
      have hmem : tick ∈ ticks := hseen.subset (by simp)
      exact takeTick_spares hstrategy hpoint (hquotable tick (List.mem_cons_of_mem _ hmem))
        (hadvance ht hadvanced) hturn

end ReplaySetup

/-! ## What the generator quotes -/

namespace Generator

variable [Externals] {ρ : Type} (generator : Generator ρ)

theorem generateTick_onDigits {index : Nat} {clock : UtcDatetime} {price : Decimal} :
    Raising.Yields (fun _ => True)
      (fun tick => OnDigits generator.spec tick.bid ∧ OnDigits generator.spec tick.ask)
      (generator.generateTick index clock price) := by
  unfold generateTick
  -- whatever the dice say before the quote is made, it is quantized to the digits
  refine Raising.Yields.any.bind fun regime _ => ?_
  refine Raising.Yields.any.bind fun sessionScale _ => ?_
  refine Raising.Yields.any.bind fun moves _ => ?_
  refine Raising.Yields.any.bind fun prices _ => ?_
  refine Raising.Yields.any.bind fun spread _ => ?_
  refine Raising.Yields.any.bind fun latency _ => ?_
  refine Raising.Yields.any.bind fun received _ => ?_
  refine Raising.Yields.any.bind fun event _ => ?_
  refine Raising.Yields.bind
    (A := fun quote => OnDigits generator.spec quote.1 ∧ OnDigits generator.spec quote.2)
    (Raising.Yields.lift ?_ fun _ _ => trivial) fun quote hquote => ?_
  · intro quote h
    unfold Generator.quote at h
    obtain ⟨bid, hbid, h⟩ := bind_ok h
    obtain ⟨ask, hask, h⟩ := bind_ok h
    cases h
    exact ⟨Ict.quantizePrice_settled hbid, Ict.quantizePrice_settled hask⟩
  refine Raising.Yields.any.bind fun volume _ => ?_
  refine Raising.Yields.any.bind fun bar _ => ?_
  refine Raising.Yields.any.bind fun quoted _ => ?_
  exact Raising.Yields.pure hquote

/-- What holds of every tick that's made holds of a run's. -/
theorem forall_generateTicks {Q : GeneratedTick → Prop}
    (hmade : ∀ index clock price,
      Raising.Yields (fun _ => True) Q (generator.generateTick index clock price))
    (turns : Nat) (s : GeneratorState ρ) : ∀ tick ∈ (generator.generateTicks turns s).1, Q tick := by
  have hturn : ∀ {s : GeneratorState ρ} {tick : Option GeneratedTick}
      {next : Except PyError (GeneratorState ρ)}, generator.advance s = (tick, next) →
      ∀ t ∈ tick.toList, Q t := by
    intro s tick next h t ht
    unfold advance at h
    split at h
    · cases h
      cases ht
    · cases h
      cases ht
    · split at h
      · cases h
        cases ht
      · rename_i made random hrandom
        cases h
        obtain rfl := List.mem_singleton.mp ht
        exact (hmade _ _ _ s.random).1 _ (by rw [hrandom])
  induction turns generalizing s with
  | zero =>
      unfold generateTicks
      split <;> exact fun _ htick => by cases htick
  | succ turns ih =>
      unfold generateTicks
      split
      · rcases hadvance : generator.advance s with ⟨tick, error | s'⟩
        · exact hturn hadvance
        · intro t ht
          rcases List.mem_append.mp ht with hnow | hlater
          · exact hturn hadvance t hnow
          · exact ih s' t hlater
      · exact fun _ htick => by cases htick

end Generator

/--
**No proposal of a replay is refused for its stop.** A registered strategy is told the policy that
risk holds it to, and keeps to it in every window of every run over what the generator feeds, where
the last digit of a quote is worth a point.
-/
theorem run_spares_stops [Externals] {ρ : Type} {generator : Generator ρ} {setup : ReplaySetup}
    {broker : SimulatedBroker} {equity : Decimal} {killSwitch : KillSwitch}
    {sessions : RiskSessionStates} {startTime : UtcDatetime} {turns : Nat}
    {start final : ReplayState} {result : RunResult} (hstrategy : setup.strategy ∈ strategies)
    (hspec : generator.spec = setup.spec) (hpoint : setup.spec.point.val = ⟨1, -setup.spec.digits⟩)
    (hcreate : setup.create broker equity killSwitch sessions = .ok start)
    (hrun : setup.run (generator.generateTicks turns (generator.begin startTime)).1 start
      = (.ok result, final)) :
    ∀ capsule ∈ result.capsules, ∀ decision, capsule.riskDecision = some decision →
      .invalidStop ∉ decision.reasonCodes ∧ .stopDistanceViolation ∉ decision.reasonCodes := by
  have hquotable : ∀ tick ∈ (generator.generateTicks turns (generator.begin startTime)).1,
      setup.Quotable tick := by
    unfold ReplaySetup.Quotable
    rw [← hspec]
    exact generator.forall_generateTicks (fun _ _ _ => generator.generateTick_onDigits) turns _
  obtain ⟨-, hnone, -, -⟩ := create_start hcreate
  have hstart : ReplaySetup.Spared start := by
    unfold ReplaySetup.Spared
    rw [hnone]
    intro capsule hcapsule
    cases hcapsule
  obtain ⟨-, -, -, hcapsules, -⟩ := ReplaySetup.run_ok hrun
  unfold ReplaySetup.run at hrun
  obtain ⟨_, s₁, hticks, hrun⟩ := Raising.bind_ok hrun
  obtain ⟨_, s₂, hmark, hrun⟩ := Raising.bind_ok hrun
  obtain ⟨_, s₃, hflush, hrun⟩ := Raising.bind_ok hrun
  obtain ⟨t, s₄, hread, hrun⟩ := Raising.bind_ok hrun
  obtain ⟨rfl, rfl⟩ := Raising.read_ok hread
  obtain ⟨-, rfl⟩ := Raising.lift_ok hrun
  have hspared := ReplaySetup.takeTicks_spares hstrategy hpoint hquotable hstart hticks
  -- closing the run marks equity and tells, and seals nothing
  have hfinal : s₃.capsules = s₁.capsules := by
    unfold ReplaySetup.call at hflush
    rw [Raising.change_ok hflush]
    exact (ReplaySetup.markEquity_quiet hmark).1.capsules
  rw [hcapsules, hfinal]
  intro capsule hcapsule decision hdecision
  have habout := hspared capsule hcapsule decision hdecision
  exact ⟨fun hstop => habout _ hstop (.inl rfl), fun hstop => habout _ hstop (.inr rfl)⟩

namespace Sample

/-- Dice that fall high and low in turns, and high on the whole. -/
def tide : RandomSource Nat where
  seeded _ := 0
  gauss _ _ r :=
    let falls : List Binary64.Value :=
      [.finite false 10, .finite true 8, .finite false 6, .finite true 4, .finite false 0]
    (falls.getD (r % 5) .nan, r + 1)
  randint a _ r := (a, r)
  randint_mem a _ _ h := ⟨Int.le_refl a, h⟩

/-- Bars enough for two windows with history. -/
def rising : Generator Nat where
  config := { barCount := 66, skipWeekend := false }
  spec := spec
  source := tide

def baselineSetup : ReplaySetup where
  config := { config with tradingAgent := { config.tradingAgent with strategyId := "baseline_v1" } }
  supervisor := ⟨true, true, none, uncapped⟩
  spec := spec
  strategy := Baseline.strategy
  riskConfig := risk
  riskConfigMerged := worker.riskConfigMerged
  resolved := rfl

/-- A replay of what a generator feeds, from a balance of ten thousand. -/
def fedReplay (setup : ReplaySetup) (ticks : List GeneratedTick) :
    Except PyError (ReplayState × RunResult × ReplayState) := do
  let start ← setup.create (.create spec ⟨10000, 0⟩ "EUR" "Demo" 1 30) ⟨10000, 0⟩ ⟨.running, []⟩ []
  let (result, final) := setup.run ticks start
  let result ← result
  pure (start, result, final)

theorem fedReplay_ok {setup : ReplaySetup} {ticks : List GeneratedTick} {start final : ReplayState}
    {result : RunResult} (h : fedReplay setup ticks = .ok (start, result, final)) :
    setup.create (.create spec ⟨10000, 0⟩ "EUR" "Demo" 1 30) ⟨10000, 0⟩ ⟨.running, []⟩ [] = .ok start
      ∧ setup.run ticks start = (.ok result, final) := by
  unfold fedReplay at h
  obtain ⟨start', hcreate, h⟩ := bind_ok h
  obtain ⟨result', hresult, h⟩ := bind_ok h
  cases h
  exact ⟨hcreate, Prod.ext hresult rfl⟩

/-- The strategy proposes to trade, and risk lets it. -/
theorem risingReplay_counts :
    (fedReplay baselineSetup (rising.generateTicks 66 (rising.begin noon)).1).toOption.map
      (fun r => r.2.1.tally.riskPassed) = some 2 := by
  decide +kernel

end Sample

open Sample in
/-- The stops of two trades that risk let pass. -/
theorem run_spares_stops_rising : ∃ result : RunResult, result.tally.riskPassed = 2
    ∧ ∀ capsule ∈ result.capsules, ∀ decision, capsule.riskDecision = some decision →
      .invalidStop ∉ decision.reasonCodes ∧ .stopDistanceViolation ∉ decision.reasonCodes := by
  obtain ⟨⟨start, result, final⟩, hreplay, hpassed⟩ := Option.map_eq_some_iff.mp risingReplay_counts
  obtain ⟨hcreate, hrun⟩ := fedReplay_ok (ok_of_toOption hreplay)
  have hstrategy : baselineSetup.strategy ∈ strategies := List.mem_cons_self
  have hspec : rising.spec = baselineSetup.spec := rfl
  have hpoint : baselineSetup.spec.point.val = ⟨1, -baselineSetup.spec.digits⟩ := rfl
  exact ⟨result, hpassed, run_spares_stops hstrategy hspec hpoint hcreate hrun⟩

end Crumblr
