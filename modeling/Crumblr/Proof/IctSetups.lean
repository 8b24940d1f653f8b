import Crumblr.TradingAgent.Ict

/-!
# What an evaluation that ends in a trade has been through

Inversion of the conditions, one by one. A setup is what the conditions come to before a stop is
placed; a trade is what its stop and its target make of it.
-/

namespace Crumblr.Ict

/-- What goes on to the end has gone on at every step. -/
theorem goes_on {α β : Type} {x : Except Ending α} {f : α → Except Ending β} {b : β}
    (h : x >>= f = .ok b) : ∃ a, x = .ok a ∧ f a = .ok b := by
  cases x with
  | error ending => cases h
  | ok a => exact ⟨a, rfl, h⟩

theorem attempt_ok {α : Type} {x : Except PyError α} {a : α} (h : attempt x = .ok a) :
    x = .ok a := by
  cases x with
  | error e => cases h
  | ok b =>
      cases h
      rfl

namespace Evaluation

variable {evaluation evaluation' : Evaluation} {name : String} {refusal : Refusal}

theorem require_ok {passed required : Bool}
    (h : evaluation.require name passed required refusal = .ok evaluation') :
    evaluation' = evaluation.check name passed ∧ (required = true → passed = true) := by
  unfold require at h
  dsimp only at h
  split at h
  · rename_i hgoes
    cases h
    refine ⟨rfl, fun hrequired => ?_⟩
    rw [hrequired, Bool.not_true, Bool.or_false] at hgoes
    exact hgoes
  · cases h

theorem refuse_ok {degenerate : Bool} {u : Unit}
    (h : evaluation.refuse degenerate refusal = .ok u) : degenerate = false := by
  unfold refuse at h
  cases degenerate with
  | true => cases h
  | false => rfl

theorem need_ok {α : Type} {value : Option α} {a : α}
    (h : evaluation.need value refusal = .ok a) : value = some a := by
  cases value with
  | none => cases h
  | some b =>
      cases h
      rfl

/-- A condition that passes is among those met, and no other is added. -/
theorem mem_check {other : String} {passed : Bool} :
    other ∈ (evaluation.check name passed).met
      ↔ other ∈ evaluation.met ∨ (passed = true ∧ other = name) := by
  unfold check
  cases passed with
  | true => simp
  | false => simp

end Evaluation

section

variable [Externals] {snapshot : MarketSnapshot} {bars : List Bar} {spec : InstrumentSpec}
  {context : AgentContext} {config : IctConfig} {read : StructureRead} {sweep : LiquiditySweep}
  {direction : Side} {evaluation evaluation' : Evaluation} {range : DealingRange}

/-! ## Before the stop -/

theorem checkSession_ok (h : checkSession snapshot bars config = .ok evaluation) :
    0 < averageTrueRange bars atrPeriod
      ∧ ∃ isOpen inKillzone,
        evaluation = (Evaluation.check {} "market_open" isOpen).check "killzone" inKillzone := by
  unfold checkSession at h
  obtain ⟨first, hopen, h⟩ := goes_on h
  obtain ⟨second, hkillzone, h⟩ := goes_on h
  obtain ⟨_, hatr, h⟩ := goes_on h
  cases h
  obtain ⟨rfl, -⟩ := Evaluation.require_ok hopen
  obtain ⟨rfl, -⟩ := Evaluation.require_ok hkillzone
  refine ⟨?_, _, _, rfl⟩
  exact Decimal.not_le.mp (of_decide_eq_false (Evaluation.refuse_ok hatr))

omit [Externals] in
theorem checkSweep_ok
    (h : checkSweep bars context config read evaluation = .ok (evaluation', sweep)) :
    sweepOf bars config read = some sweep
      ∧ ∃ shifted, evaluation'
        = (evaluation.check "liquidity_sweep" true).check "structure_shift" shifted := by
  unfold checkSweep at h
  obtain ⟨first, hrequired, h⟩ := goes_on h
  obtain ⟨found, hneeded, h⟩ := goes_on h
  obtain ⟨_, -, h⟩ := goes_on h
  obtain ⟨second, hshift, h⟩ := goes_on h
  cases h
  have hsweep := Evaluation.need_ok hneeded
  obtain ⟨rfl, -⟩ := Evaluation.require_ok hrequired
  obtain ⟨rfl, -⟩ := Evaluation.require_ok hshift
  rw [hsweep]
  exact ⟨rfl, _, rfl⟩

omit [Externals] in
theorem checkEntry_ok
    (h : checkEntry snapshot bars config direction evaluation = .ok evaluation') :
    ∃ hasGap inZone hasBlock, evaluation' = ((evaluation.check "fair_value_gap" hasGap).check
      "price_in_zone" inZone).check "order_block" hasBlock := by
  unfold checkEntry at h
  obtain ⟨first, hgap, h⟩ := goes_on h
  obtain ⟨second, hzone, h⟩ := goes_on h
  obtain ⟨rfl, -⟩ := Evaluation.require_ok hgap
  obtain ⟨rfl, -⟩ := Evaluation.require_ok hzone
  obtain ⟨rfl, -⟩ := Evaluation.require_ok h
  exact ⟨_, _, _, rfl⟩

omit [Externals] in
theorem checkLocation_ok
    (h : checkLocation snapshot bars config sweep evaluation = .ok (evaluation', range)) :
    impulseLeg bars sweep sweep.direction = some range
      ∧ ∃ inHalf inBand, evaluation'
        = (evaluation.check "discount_premium" inHalf).check "optimal_trade_entry" inBand := by
  unfold checkLocation at h
  obtain ⟨leg, hneeded, h⟩ := goes_on h
  obtain ⟨first, hhalf, h⟩ := goes_on h
  obtain ⟨second, hband, h⟩ := goes_on h
  cases h
  obtain ⟨rfl, -⟩ := Evaluation.require_ok hhalf
  obtain ⟨rfl, -⟩ := Evaluation.require_ok hband
  exact ⟨Evaluation.need_ok hneeded, _, _, rfl⟩

/-! ## The two halves -/

section

variable (snapshot bars spec context config read)

/-- The conditions before the stop. -/
def setupOf : Except Ending (Evaluation × LiquiditySweep × DealingRange) := do
  let evaluation ← checkSession snapshot bars config
  let (evaluation, sweep) ← checkSweep bars context config read evaluation
  let evaluation ← checkEntry snapshot bars config sweep.direction evaluation
  let (evaluation, range) ← checkLocation snapshot bars config sweep evaluation
  pure (evaluation, sweep, range)

/-- The stop, the target and the intent of a setup. -/
def tradeOf (setup : Evaluation × LiquiditySweep × DealingRange) :
    Except Ending (TradeIntent × IctFeatureSnapshot) := do
  let (evaluation, sweep, range) := setup
  let stop ← attempt (stopOf snapshot bars spec context config sweep)
  let (evaluation, stop, target) ←
    checkTarget snapshot spec config read sweep.direction stop evaluation
  attempt (propose snapshot bars context config read evaluation sweep range stop target)

theorem runConditions_eq : runConditions snapshot bars spec context config read
    = setupOf snapshot bars context config read
      >>= tradeOf snapshot bars spec context config read := by
  unfold runConditions setupOf
  cases checkSession snapshot bars config with
  | error ending => rfl
  | ok evaluation =>
      cases hsweep : checkSweep bars context config read evaluation with
      | error ending =>
          simp only [bind, Except.bind, hsweep]
      | ok found =>
          obtain ⟨evaluation, sweep⟩ := found
          simp only [bind, Except.bind, hsweep]
          cases checkEntry snapshot bars config sweep.direction evaluation with
          | error ending => rfl
          | ok evaluation =>
              dsimp only
              cases checkLocation snapshot bars config sweep evaluation with
              | error ending => rfl
              | ok located => rfl

end

/-- What a setup has been through. -/
theorem setupOf_ok (h : setupOf snapshot bars context config read
      = .ok (evaluation, sweep, range)) :
    0 < averageTrueRange bars atrPeriod ∧ sweepOf bars config read = some sweep
      ∧ impulseLeg bars sweep sweep.direction = some range
      ∧ "liquidity_target" ∉ evaluation.met := by
  unfold setupOf at h
  obtain ⟨session, hsession, h⟩ := goes_on h
  obtain ⟨⟨swept, found⟩, hsweep, h⟩ := goes_on h
  obtain ⟨entered, hentry, h⟩ := goes_on h
  obtain ⟨⟨located, leg⟩, hlocation, h⟩ := goes_on h
  cases h
  obtain ⟨hatr, _, _, rfl⟩ := checkSession_ok hsession
  obtain ⟨hfound, _, rfl⟩ := checkSweep_ok hsweep
  obtain ⟨_, _, _, rfl⟩ := checkEntry_ok hentry
  obtain ⟨hleg, _, _, rfl⟩ := checkLocation_ok hlocation
  refine ⟨hatr, hfound, hleg, ?_⟩
  simp [Evaluation.mem_check]

/-! ## The stop and the target -/

/-- The level a target is put at. -/
def levelOf (snapshot : MarketSnapshot) (config : IctConfig) (read : StructureRead)
    (direction : Side) (stop : Decimal) : Decimal :=
  let entry := (entryOf snapshot direction).val
  let stopDistance := (entry - stop).abs
  (targetLevelOf config read direction entry stopDistance).getD
    (ahead direction entry (stopDistance * config.fallbackRewardMultiple))

omit [Externals] in
theorem price?_eq_some {d : Decimal} {p : Price} (h : price? d = some p) : p.val = d := by
  unfold price? at h
  split at h
  · cases h
    rfl
  · cases h

omit [Externals] in
theorem checkTarget_ok {stop : Decimal} {placed target : Price}
    (h : checkTarget snapshot spec config read direction stop evaluation
      = .ok (evaluation', placed, target)) :
    0 < ((entryOf snapshot direction).val - stop).abs
      ∧ evaluation' = evaluation.check "liquidity_target" (targetLevelOf config read direction
          (entryOf snapshot direction).val ((entryOf snapshot direction).val - stop).abs).isSome
      ∧ quantizeAhead direction (levelOf snapshot config read direction stop) spec.digits
          = .ok target.val
      ∧ placed.val = stop := by
  unfold checkTarget at h
  obtain ⟨_, hdistance, h⟩ := goes_on h
  obtain ⟨checked, hlevel, h⟩ := goes_on h
  obtain ⟨quantized, hquantized, h⟩ := goes_on h
  obtain ⟨t, ht, h⟩ := goes_on h
  obtain ⟨s, hs, h⟩ := goes_on h
  cases h
  obtain ⟨rfl, -⟩ := Evaluation.require_ok hlevel
  refine ⟨Decimal.not_le.mp (of_decide_eq_false (Evaluation.refuse_ok hdistance)), rfl, ?_, ?_⟩
  · rw [price?_eq_some (Evaluation.need_ok ht)]
    exact attempt_ok hquantized
  · exact price?_eq_some (Evaluation.need_ok hs)

/-! ## The intent -/

/-- What an intent says of the setup it's of. -/
theorem intentOf_ok {reasonCode : String} {reasonCodes : List String} {stop target : Price}
    {intent : TradeIntent} (h : intentOf snapshot bars context config evaluation direction
      reasonCode reasonCodes stop target = .ok intent) :
    intent.side = direction ∧ intent.referencePrice = entryOf snapshot direction
      ∧ intent.stopLossPrice = some stop ∧ intent.takeProfitPrice = some target := by
  unfold intentOf at h
  obtain ⟨expiry, -, h⟩ := bind_ok h
  split at h
  · split at h
    · cases h
    · cases h
      exact ⟨rfl, rfl, rfl, rfl⟩
  · cases h

theorem propose_ok {stop target : Price} {intent : TradeIntent} {features : IctFeatureSnapshot}
    (h : propose snapshot bars context config read evaluation sweep range stop target
      = .ok (intent, features)) :
    intent.side = sweep.direction ∧ intent.referencePrice = entryOf snapshot sweep.direction
      ∧ intent.stopLossPrice = some stop ∧ intent.takeProfitPrice = some target
      ∧ features.sweptLevel = some sweep.sweptLevel
      ∧ features.sweepDirection = some sweep.direction
      ∧ features.conditionsMet = evaluation.met := by
  unfold propose at h
  obtain ⟨shown, -, h⟩ := bind_ok h
  obtain ⟨made, hintent, h⟩ := bind_ok h
  cases h
  obtain ⟨hside, hreference, hstop, htarget⟩ := intentOf_ok hintent
  exact ⟨hside, hreference, hstop, htarget, rfl, rfl, rfl⟩

/-! ## The whole evaluation -/

/-- The trade that an evaluation has ended in. -/
theorem evaluate_intent {decision : StrategyDecision} {features : Option IctFeatureSnapshot}
    {intent : TradeIntent}
    (h : evaluate snapshot bars spec context config = .ok (decision, features))
    (hintent : decision.intent = some intent) :
    ∃ read shown, readStructure bars config.swingStrength config.structureLookbackBars = .ok read
      ∧ runConditions snapshot bars spec context config read = .ok (intent, shown)
      ∧ features = some shown := by
  unfold evaluate at h
  split at h
  · cases h
    cases hintent
  obtain ⟨read, hread, h⟩ := bind_ok h
  obtain ⟨⟨decided, shown⟩, hdecide, h⟩ := bind_ok h
  cases h
  unfold decide? at hdecide
  cases hrun : runConditions snapshot bars spec context config read with
  | ok trade =>
      rw [hrun] at hdecide
      cases hdecide
      cases hintent
      exact ⟨read, _, hread, hrun, rfl⟩
  | error ending =>
      rw [hrun] at hdecide
      cases ending with
      | noTrade refusal evaluation =>
          cases hdecide
          cases hintent
      | raised error => cases hdecide

end

end Crumblr.Ict
