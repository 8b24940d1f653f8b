import Crumblr.Proof.RiskPaths

/-!
# The verdict and the checks

An evaluation passes what no check fails, and halts on a failure that halts. It does not
reach a verdict on every intent, though: the checklist says what to do with a FLAT one and
is never reached by it, a distance may have too many points for an integer of the working
precision, and one that rounds to no points at all may pass every check and is then
refused by the verdict's own contract.
-/

namespace Crumblr

/-! ## Sizing -/

section

variable {equity requested distance : Decimal} {spec : InstrumentSpec}

/-- What one lot loses over a distance. -/
def lossOver (distance : Decimal) (spec : InstrumentSpec) : Decimal :=
  distance / spec.tickSize.val * spec.tickValue.val

theorem lossPerLot_eq (h : 0 < distance) : lossPerLot distance spec = .ok (lossOver distance spec) :=
  if_neg (Decimal.not_le.mpr h)

theorem realisedRisk_eq (h : 0 < distance) (volume : Decimal) :
    realisedRisk volume distance spec = .ok (volume * lossOver distance spec) := by
  unfold realisedRisk
  rw [lossPerLot_eq h]
  rfl

/-- The volume a budget comes to, before it is checked. -/
def fundedVolume (equity requested distance : Decimal) (spec : InstrumentSpec) : Decimal :=
  normaliseVolume (equity * requested / lossOver distance spec) spec

/-- The sizing comes to a volume. -/
structure Sized (equity requested distance : Decimal) (spec : InstrumentSpec)
    (sizing : SizingResult) (volume : Decimal) : Prop where
  funds : 0 < equity
  perLot : 0 < lossOver distance spec
  funded : volume = fundedVolume equity requested distance spec
  minimum : spec.volumeMin.val ≤ volume
  positive : 0 < volume
  budget : sizing.riskAmount = equity * requested

variable (equity requested spec) in
/-- **What a sizing over a positive distance comes to**: a volume that the checks let
through, or none because one does not. -/
theorem sizePosition_cases (h : 0 < distance) :
    ∃ sizing, sizePosition equity requested distance spec = .ok sizing
      ∧ ((∃ volume, sizing.volume = some volume ∧ Sized equity requested distance spec sizing volume)
        ∨ sizing.volume = none ∧ (equity ≤ 0 ∨ lossOver distance spec ≤ 0
          ∨ fundedVolume equity requested distance spec < spec.volumeMin.val
          ∨ fundedVolume equity requested distance spec ≤ 0)) := by
  unfold sizePosition
  split
  · rename_i hequity
    exact ⟨_, rfl, .inr ⟨rfl, .inl hequity⟩⟩
  rename_i hequity
  rw [lossPerLot_eq h]
  simp only [bind, Except.bind]
  split
  · rename_i hperLot
    exact ⟨_, rfl, .inr ⟨rfl, .inr (.inl hperLot)⟩⟩
  rename_i hperLot
  split
  · rename_i hmin
    exact ⟨_, rfl, .inr ⟨rfl, .inr (.inr (.inl hmin))⟩⟩
  rename_i hmin
  split
  · rename_i hzero
    exact ⟨_, rfl, .inr ⟨rfl, .inr (.inr (.inr hzero))⟩⟩
  rename_i hzero
  exact ⟨_, rfl, .inl ⟨_, rfl, Decimal.not_le.mp hequity, Decimal.not_le.mp hperLot, rfl,
    Decimal.not_lt.mp hmin, Decimal.not_le.mp hzero, rfl⟩⟩

end

/-! ## The failures of an evaluation -/

section

variable [Externals] (intent : TradeIntent) (snapshot : MarketSnapshot) (spec : InstrumentSpec)
  (portfolio : PortfolioState) (context : RiskContext) (killSwitch : KillSwitch)
  (now : UtcDatetime)

omit [Externals] in
/-- How far the intent's stop is from its reference price, in points. -/
def stopPoints : Except PyError Int := do
  let stop ← assertSome intent.stopLossPrice
  priceToPoints (stopDistanceFrom intent.referencePrice.val stop) spec.point.val

/-- The reasons of the checklist. -/
def checklist (stopDistance : Decimal) (points : Int) : List ReasonCode :=
  failing (entryLegs intent snapshot portfolio context killSwitch now
    ++ stopLegs stopDistance points context.risk spec
    ++ exposureLegs intent snapshot portfolio context)

omit [Externals] in
/-- The reasons of the sizing: no legal volume, or one that carries more than its budget. -/
def sizingReasons (equity requested stopDistance : Decimal) : List ReasonCode :=
  match sizePosition equity requested stopDistance spec with
  | .error _ => []
  | .ok sizing =>
      match sizing.volume with
      | none => [.volumeOutOfRange]
      | some volume =>
          match realisedRisk volume stopDistance spec with
          | .error _ => []
          | .ok carried => if sizing.riskAmount < carried then [.openRiskLimit] else []

/-- Every check an intent fails: those of the list, or else those of the sizing. -/
def riskFailures : List ReasonCode :=
  match intent.stopLossPrice, stopPoints intent spec with
  | some stop, .ok points =>
      let stopDistance := stopDistanceFrom intent.referencePrice.val stop
      match checklist intent snapshot spec portfolio context killSwitch now stopDistance points,
        intent.requestedRiskFraction with
      | [], some requested =>
          sizingReasons spec portfolio.account.equity requested.val stopDistance
      | reasons, _ => reasons
  | _, _ => [.invalidStop]

/-- The verdict is the one these failures ask for. -/
structure Decides (d : RiskDecision) (failures : List ReasonCode) : Prop where
  reasons : d.reasonCodes = failures.eraseDups
  pass : d.verdict = .pass ↔ failures = []
  halt : d.verdict = .halt ↔ ∃ reason ∈ failures, reason ∈ haltReasons
  block : d.verdict = .block ↔ failures ≠ [] ∧ ∀ reason ∈ failures, reason ∉ haltReasons
  positive : d.verdict = .pass →
    (∃ volume, d.approvedVolume = some volume ∧ 0 < volume.val)
      ∧ ∃ points, d.stopDistancePoints = some points ∧ 0 < points

variable {intent snapshot spec portfolio context killSwitch now}

variable (intent context now) in
/-- **A refusal decides as its reasons ask for.** -/
theorem refuseRisk_decides {reasons : List ReasonCode} (h : reasons ≠ []) (stage : String) :
    ∃ d, refuseRisk intent reasons context now stage = .ok d ∧ Decides d reasons := by
  have hunique : reasons.eraseDups ≠ [] := by
    obtain ⟨reason, rest, rfl⟩ := List.exists_cons_of_ne_nil h
    rw [List.eraseDups_cons]
    exact List.cons_ne_nil _ _
  have hany : reasons.eraseDups.any (fun r => decide (r ∈ haltReasons)) = true
      ↔ ∃ reason ∈ reasons, reason ∈ haltReasons := by
    simp only [List.any_eq_true, decide_eq_true_eq, List.mem_eraseDups]
  unfold refuseRisk RiskDecision.createRefusal refusalVerdict
  dsimp only
  by_cases hhalts : ∃ reason ∈ reasons, reason ∈ haltReasons
  · rw [if_pos (hany.mpr hhalts), dif_pos ⟨by simp, hunique⟩]
    refine ⟨_, rfl, rfl, ?_, ?_, ?_, ?_⟩
    · simp [h]
    · simp only [true_iff]
      exact hhalts
    · simp only [reduceCtorEq, false_iff, not_and]
      intro _ hnone
      obtain ⟨reason, hmem, hhalt⟩ := hhalts
      exact hnone reason hmem hhalt
    · simp
  · rw [if_neg (fun hx => hhalts (hany.mp hx)), dif_pos ⟨by simp, hunique⟩]
    refine ⟨_, rfl, rfl, ?_, ?_, ?_, ?_⟩
    · simp [h]
    · simp only [reduceCtorEq, false_iff]
      exact hhalts
    · simp only [true_iff]
      exact ⟨h, fun reason hmem hhalt => hhalts ⟨reason, hmem, hhalt⟩⟩
    · simp

/-- What passes the checklist has its stop at a distance, and asks for a fraction. -/
theorem checklist_nil {stopDistance : Decimal} {points : Int}
    (h : checklist intent snapshot spec portfolio context killSwitch now stopDistance points = []) :
    0 < stopDistance ∧ ∃ requested, intent.requestedRiskFraction = some requested := by
  have hlegs := failing_eq_nil.mp h
  constructor
  · have hclose := hlegs (decide (stopDistance ≤ 0 ∨ points < context.risk.minStopDistancePoints),
      .invalidStop) (by simp [stopLegs])
    simp only [decide_eq_false_iff_not, not_or] at hclose
    exact Decimal.not_le.mp hclose.1
  · cases hrequested : intent.requestedRiskFraction with
    | some requested => exact ⟨requested, rfl⟩
    | none =>
        have hinvalid := hlegs (true, .invalidStop) (by simp [exposureLegs, hrequested])
        cases hinvalid

omit [Externals] in
/-- The contract of a PASS: the volume and the points are positive, or it raises. -/
theorem createPass_decides {decisionId intentId : Uuid} {version : String}
    {volume equity carried : Decimal} {points : Int} (hvolume : 0 < volume) :
    (0 < points ∧ ∃ d, RiskDecision.createPass decisionId intentId now version volume equity points
        carried = .ok d ∧ Decides d [])
      ∨ (points ≤ 0 ∧ ∃ e, RiskDecision.createPass decisionId intentId now version volume equity
        points carried = .error e) := by
  unfold RiskDecision.createPass
  by_cases hpoints : 0 < points
  · rw [dif_pos ⟨hvolume, hpoints⟩]
    exact .inl ⟨hpoints, _, rfl, rfl, by simp, by simp, by simp,
      fun _ => ⟨⟨_, rfl, hvolume⟩, points, rfl, hpoints⟩⟩
  · rw [dif_neg fun h => hpoints h.2]
    exact .inr ⟨by omega, _, rfl⟩

section

variable {stop : Price} {points : Int} (hstop : intent.stopLossPrice = some stop)
  (hpoints : stopPoints intent spec = .ok points)
include hstop hpoints

omit [Externals] in
theorem priceToPoints_stopPoints :
    priceToPoints (stopDistanceFrom intent.referencePrice.val stop) spec.point.val
      = .ok points := by
  unfold stopPoints at hpoints
  rw [hstop] at hpoints
  exact hpoints

/-- An intent that fails the checklist is refused for what it fails. -/
theorem evaluate_of_checklist
    (h : checklist intent snapshot spec portfolio context killSwitch now
      (stopDistanceFrom intent.referencePrice.val stop) points ≠ []) :
    evaluate intent snapshot spec portfolio context killSwitch now
      = refuseRisk intent (checklist intent snapshot spec portfolio context killSwitch now
          (stopDistanceFrom intent.referencePrice.val stop) points) context now "" := by
  unfold evaluate
  rw [hstop]
  simp only [assertSome, priceToPoints_stopPoints hstop hpoints, bind, Except.bind]
  exact if_pos h

/-- An intent that passes the checklist is sized. -/
theorem evaluate_of_sizing {requested : RiskFraction} {sizing : SizingResult}
    (h : checklist intent snapshot spec portfolio context killSwitch now
      (stopDistanceFrom intent.referencePrice.val stop) points = [])
    (hrequested : intent.requestedRiskFraction = some requested)
    (hsizing : sizePosition portfolio.account.equity requested.val
      (stopDistanceFrom intent.referencePrice.val stop) spec = .ok sizing) :
    evaluate intent snapshot spec portfolio context killSwitch now
      = match sizing.volume with
        | none => refuseRisk intent [.volumeOutOfRange] context now ""
        | some volume =>
            let carried := volume * lossOver (stopDistanceFrom intent.referencePrice.val stop) spec
            if sizing.riskAmount < carried then refuseRisk intent [.openRiskLimit] context now ""
            else
              RiskDecision.createPass (riskDecisionId intent "pass") intent.intentId now
                context.riskConfigVersion volume portfolio.account.equity points carried := by
  unfold evaluate
  rw [hstop]
  simp only [assertSome, priceToPoints_stopPoints hstop hpoints, bind, Except.bind]
  refine (if_neg (not_not.mpr h)).trans ?_
  cases hvolume : sizing.volume with
  | none => simp only [hrequested, hsizing, hvolume]
  | some volume => simp only [hrequested, hsizing, hvolume, realisedRisk_eq (checklist_nil h).1]

variable (snapshot portfolio context killSwitch now) in
/-- **What an evaluation comes to** once its stop's distance has been counted: the verdict its
failures ask for, or, if there is none and the points do not count, an error. -/
theorem evaluate_cases :
    (∃ d, evaluate intent snapshot spec portfolio context killSwitch now = .ok d
        ∧ Decides d (riskFailures intent snapshot spec portfolio context killSwitch now)
        ∧ (0 < points ∨ riskFailures intent snapshot spec portfolio context killSwitch now ≠ []))
      ∨ (riskFailures intent snapshot spec portfolio context killSwitch now = [] ∧ points ≤ 0
        ∧ ∃ e, evaluate intent snapshot spec portfolio context killSwitch now = .error e) := by
  cases hlist : checklist intent snapshot spec portfolio context killSwitch now
    (stopDistanceFrom intent.referencePrice.val stop) points with
  | cons reason rest =>
      have hne : reason :: rest ≠ [] := List.cons_ne_nil _ _
      have hfailures : riskFailures intent snapshot spec portfolio context killSwitch now
          = reason :: rest := by
        unfold riskFailures
        rw [hstop, hpoints]
        simp only [hlist]
      rw [hfailures, evaluate_of_checklist hstop hpoints (hlist ▸ hne), hlist]
      obtain ⟨d, hd, hdecides⟩ := refuseRisk_decides intent context now hne ""
      exact .inl ⟨d, hd, hdecides, .inr hne⟩
  | nil =>
      obtain ⟨hpos, requested, hrequested⟩ := checklist_nil hlist
      obtain ⟨sizing, hsizing, hcases⟩ := sizePosition_cases portfolio.account.equity requested.val
        spec hpos
      have hfailures : riskFailures intent snapshot spec portfolio context killSwitch now
          = sizingReasons spec portfolio.account.equity requested.val
            (stopDistanceFrom intent.referencePrice.val stop) := by
        unfold riskFailures
        rw [hstop, hpoints]
        simp only [hlist, hrequested]
      rw [hfailures, evaluate_of_sizing hstop hpoints hlist hrequested hsizing]
      unfold sizingReasons
      rw [hsizing]
      dsimp only
      rcases hcases with ⟨volume, hvolume, hsized⟩ | ⟨hnone, -⟩
      · rw [hvolume]
        simp only [realisedRisk_eq hpos]
        split
        · obtain ⟨d, hd, hdecides⟩ := refuseRisk_decides intent context now
            (List.cons_ne_nil ReasonCode.openRiskLimit []) ""
          exact .inl ⟨d, hd, hdecides, .inr (by simp)⟩
        · rcases createPass_decides hsized.positive with ⟨hp, d, hd, hdec⟩ | ⟨hp, e, he⟩
          · exact .inl ⟨d, hd, hdec, .inl hp⟩
          · exact .inr ⟨rfl, hp, e, he⟩
      · rw [hnone]
        obtain ⟨d, hd, hdecides⟩ := refuseRisk_decides intent context now
          (List.cons_ne_nil ReasonCode.volumeOutOfRange []) ""
        exact .inl ⟨d, hd, hdecides, .inr (by simp)⟩

end

/-! ## Whether it decides -/

/-- What is asked for a stop that no price stands for raises. -/
theorem evaluate_flat (h : intent.side = .flat) :
    evaluate intent snapshot spec portfolio context killSwitch now = .error ⟨.assertion, ""⟩ := by
  unfold evaluate
  rw [(intent.flat h).1]
  rfl

/-- A distance with too many points raises. -/
theorem evaluate_of_stopPoints_error {stop : Price} {e : PyError}
    (hstop : intent.stopLossPrice = some stop) (h : stopPoints intent spec = .error e) :
    evaluate intent snapshot spec portfolio context killSwitch now = .error e := by
  unfold stopPoints at h
  unfold evaluate
  rw [hstop] at h
  have hcount : priceToPoints (stopDistanceFrom intent.referencePrice.val stop) spec.point.val
      = .error e := h
  rw [hstop]
  simp only [assertSome, hcount, bind, Except.bind]

/-- **An evaluation decides exactly on a directional intent whose stop's distance can be
counted in points**, and counts at least one unless some check fails. -/
theorem evaluate_decides_iff (intent : TradeIntent) (snapshot : MarketSnapshot)
    (spec : InstrumentSpec) (portfolio : PortfolioState) (context : RiskContext)
    (killSwitch : KillSwitch) (now : UtcDatetime) :
    (∃ d, evaluate intent snapshot spec portfolio context killSwitch now = .ok d
        ∧ Decides d (riskFailures intent snapshot spec portfolio context killSwitch now))
      ↔ intent.side ≠ .flat ∧ ∃ points, stopPoints intent spec = .ok points
        ∧ (0 < points ∨ riskFailures intent snapshot spec portfolio context killSwitch now ≠ []) := by
  by_cases hflat : intent.side = .flat
  · rw [evaluate_flat hflat]
    simp [hflat]
  obtain ⟨stop, hstop⟩ := Option.isSome_iff_exists.mp (intent.directional hflat).1
  cases hpoints : stopPoints intent spec with
  | error e =>
      rw [evaluate_of_stopPoints_error hstop hpoints]
      simp
  | ok points =>
      rcases evaluate_cases snapshot portfolio context killSwitch now hstop hpoints with
        ⟨d, hd, hdecides, h⟩ | ⟨hnil, hp, e, he⟩
      · exact ⟨fun _ => ⟨hflat, points, rfl, h⟩, fun _ => ⟨d, hd, hdecides⟩⟩
      · constructor
        · rintro ⟨d, hd, -⟩
          rw [he] at hd
          cases hd
        · rintro ⟨-, points', heq, h⟩
          cases heq
          rcases h with hpos | hne
          · exact absurd hpos (by omega)
          · exact absurd hnil hne

end

/-! ## A FLAT intent -/

namespace Sample

/-- Nothing to do, as a strategy proposes it. -/
def flatIntent : TradeIntent :=
  { intent with
    side := .flat
    stopLossPrice := none
    requestedRiskFraction := none
    directional := by decide
    flat := by decide
    buyStops := by decide
    sellStops := by decide }

/-- A running market with nothing open. -/
def flatPortfolio : PortfolioState where
  account := account
  openPositions := []
  ledger := ⟨⟨10000, 0⟩, ⟨10000, 0⟩, ⟨10000, 0⟩, ⟨10000, 0⟩, 0, 0⟩
  ordersInLastHour := 0
  seenDecisionHashes := []
  openRiskFraction := some 0

/-- A stop four tenths of a point away. -/
def closeIntent : TradeIntent :=
  { intent with
    stopLossPrice := some ⟨⟨1099996, -6⟩, by decide⟩
    directional := by decide
    flat := by decide
    buyStops := by
      intro _
      refine ⟨?_, ?_⟩
      · intro s hs; cases hs; decide
      · intro t ht; cases ht
    sellStops := by decide }

end Sample

end Crumblr

namespace Crumblr

open Sample in
/-- The checklist has a reason for a FLAT intent, and the evaluation raises before it. -/
theorem evaluate_flat_raises :
    evaluate flatIntent quote spec flatPortfolio worker.riskContext ⟨.running, []⟩ noon
        = .error ⟨.assertion, ""⟩
      ∧ ¬ ∃ d, evaluate flatIntent quote spec flatPortfolio worker.riskContext ⟨.running, []⟩ noon
          = .ok d
        ∧ Decides d (riskFailures flatIntent quote spec flatPortfolio worker.riskContext
          ⟨.running, []⟩ noon) := by
  refine ⟨rfl, ?_⟩
  rintro ⟨d, hd, -⟩
  cases hd

open Sample in
/-- Where no distance is too small, one of less than half a point passes every check, and the
verdict refuses to be built. -/
example :
    (evaluate closeIntent quote spec flatPortfolio
      { worker.riskContext with risk := { risk with minStopDistancePoints := 0 } }
      ⟨.running, []⟩ noon).isOk = false := by
  decide +kernel

end Crumblr
