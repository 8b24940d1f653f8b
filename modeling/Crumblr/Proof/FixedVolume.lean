import Crumblr.Lib.DecimalValue
import Crumblr.Proof.Commitments
import Crumblr.Proof.Verdicts

/-!
# The volume approved before

At execution time the whole evaluation runs again, the stop is measured from the price that
would be paid, and the volume approved before carries the loss to it out of today's budget.
Two things about a pass are taken on trust: that the volume is one the specification of now
admits, and that the price has not run through the stop, which a distance does not tell.
-/

namespace Crumblr

/-- A whole number of the volume steps of a specification. -/
def OnStep (volume : Decimal) (spec : InstrumentSpec) : Prop :=
  ∃ n : ℕ, volume.value = n * spec.volumeStep.val.value

/-- A volume the broker takes under a specification. -/
structure BrokerLegal (volume : Decimal) (spec : InstrumentSpec) : Prop where
  minimum : spec.volumeMin.val ≤ volume
  maximum : volume ≤ spec.volumeMax.val
  step : OnStep volume spec

/-- The stop of an entry at this price limits a loss: it is on the side the price would have
to fall, or rise, to. -/
structure Protects (intent : TradeIntent) (price : Decimal) : Prop where
  long : intent.side = .buy → ∀ stop ∈ intent.stopLossPrice, stop.val < price
  short : intent.side = .sell → ∀ stop ∈ intent.stopLossPrice, price < stop.val

section

variable [Externals] {intent : TradeIntent} {priorDecision : RiskDecision}
  {freshSnapshot : MarketSnapshot} {spec : InstrumentSpec} {freshPortfolio : PortfolioState}
  {context : RiskContext} {killSwitch : KillSwitch} {now : UtcDatetime} {d : RiskDecision}

/-- The checks a pass of the revalidation has behind it. -/
structure FreshlyChecked (intent : TradeIntent) (priorDecision : RiskDecision)
    (freshSnapshot : MarketSnapshot) (spec : InstrumentSpec) (freshPortfolio : PortfolioState)
    (context : RiskContext) (killSwitch : KillSwitch) (now : UtcDatetime) (d : RiskDecision) :
    Prop where
  unchanged : d.approvedVolume = priorDecision.approvedVolume
  checks : riskFailures intent freshSnapshot spec freshPortfolio context killSwitch now = []
  budget : ∃ volume stop requested, priorDecision.approvedVolume = some volume
    ∧ intent.stopLossPrice = some stop ∧ intent.requestedRiskFraction = some requested
    ∧ ∃ loss, realisedRisk volume.val
        (stopDistanceFrom (executablePrice intent freshSnapshot) stop) spec = .ok loss
      ∧ loss ≤ freshPortfolio.account.equity * requested.val

/-- An evaluation that passes has no failures. -/
theorem riskFailures_of_pass
    (h : evaluate intent freshSnapshot spec freshPortfolio context killSwitch now = .ok d)
    (hpass : d.verdict = .pass) :
    riskFailures intent freshSnapshot spec freshPortfolio context killSwitch now = [] := by
  obtain ⟨stop, hstop, hrest⟩ := bind_ok h
  obtain ⟨points, hcount, -⟩ := bind_ok hrest
  have hpoints : stopPoints intent spec = .ok points := by
    unfold stopPoints
    rw [hstop]
    exact hcount
  rcases evaluate_cases freshSnapshot freshPortfolio context killSwitch now (assertSome_ok hstop)
    hpoints with
    ⟨d', hd', hdecides, -⟩ | ⟨hnil, -⟩
  · rw [h] at hd'
    cases hd'
    exact hdecides.pass.mp hpass
  · exact hnil

/-- **Every pass of the revalidation is freshly checked**: it keeps the volume, fails no check of
the evaluation, and can lose no more than the budget on the way from the price to the stop. -/
theorem revalidate_checked
    (h : revalidateFixedVolumeAtExecutionTime intent priorDecision freshSnapshot spec freshPortfolio
      context killSwitch now = .ok d)
    (hpass : d.verdict = .pass) :
    FreshlyChecked intent priorDecision freshSnapshot spec freshPortfolio context killSwitch now
      d := by
  obtain ⟨volume, hvolume, h⟩ := bind_ok h
  obtain ⟨stop, hstop, h⟩ := bind_ok h
  obtain ⟨fresh, hfresh, h⟩ := bind_ok h
  obtain ⟨points, -, h⟩ := bind_ok h
  dsimp only at h
  split at h
  · exact absurd hpass (refuseRisk_verdict h)
  rename_i hclear
  simp only [not_or, ne_eq, Decidable.not_not] at hclear
  obtain ⟨requested, hrequested, h⟩ := bind_ok h
  obtain ⟨carried, hcarried, h⟩ := bind_ok h
  split at h
  · exact absurd hpass (refuseRisk_verdict h)
  rename_i hbudget
  refine ⟨?_, riskFailures_of_pass hfresh hclear.1, volume, stop, requested, assertSome_ok hvolume,
    assertSome_ok hstop, assertSome_ok hrequested, carried, hcarried, Decimal.not_lt.mp hbudget⟩
  unfold RiskDecision.createPass at h
  split at h
  · cases h
    exact (assertSome_ok hvolume).symm
  · cases h

/-- What a pass of the revalidation is to mean. -/
structure SoundPass (intent : TradeIntent) (priorDecision : RiskDecision)
    (freshSnapshot : MarketSnapshot) (spec : InstrumentSpec) (freshPortfolio : PortfolioState)
    (context : RiskContext) (killSwitch : KillSwitch) (now : UtcDatetime) (d : RiskDecision) :
    Prop extends
      FreshlyChecked intent priorDecision freshSnapshot spec freshPortfolio context killSwitch now
        d where
  legal : ∀ volume ∈ d.approvedVolume, BrokerLegal volume.val spec
  protects : Protects intent (executablePrice intent freshSnapshot)

omit [Externals] in
/-- A resting order is filled at its own price, which its contract keeps on the right side of the
stop; one at the market is filled at the side of the quote it takes. -/
theorem protects_iff :
    Protects intent (executablePrice intent freshSnapshot)
      ↔ (intent.entryType = .market →
        (intent.side = .buy → ∀ stop ∈ intent.stopLossPrice, stop.val < freshSnapshot.ask.val)
          ∧ (intent.side = .sell →
            ∀ stop ∈ intent.stopLossPrice, freshSnapshot.bid.val < stop.val)) := by
  unfold executablePrice
  constructor
  · intro h hmarket
    rw [if_pos hmarket] at h
    refine ⟨fun hbuy => ?_, fun hsell => ?_⟩
    · rw [if_pos hbuy] at h
      exact h.long hbuy
    · rw [if_neg (by simp [hsell])] at h
      exact h.short hsell
  · intro h
    split
    · rename_i hmarket
      refine ⟨fun hbuy => ?_, fun hsell => ?_⟩
      · rw [if_pos hbuy]
        exact (h hmarket).1 hbuy
      · rw [if_neg (by simp [hsell])]
        exact (h hmarket).2 hsell
    · exact ⟨fun hbuy => (intent.buyStops hbuy).1, fun hsell => (intent.sellStops hsell).1⟩

/-- **A pass of the revalidation is freshly checked, and is sound exactly when** the volume
approved before is legal under the specification and a quote that would be taken has not
reached the stop. -/
theorem revalidate_sound_iff
    (h : revalidateFixedVolumeAtExecutionTime intent priorDecision freshSnapshot spec freshPortfolio
      context killSwitch now = .ok d)
    (hpass : d.verdict = .pass) :
    FreshlyChecked intent priorDecision freshSnapshot spec freshPortfolio context killSwitch now d
      ∧ (SoundPass intent priorDecision freshSnapshot spec freshPortfolio context killSwitch now d
        ↔ (∀ volume ∈ priorDecision.approvedVolume, BrokerLegal volume.val spec)
          ∧ (intent.entryType = .market →
            (intent.side = .buy → ∀ stop ∈ intent.stopLossPrice, stop.val < freshSnapshot.ask.val)
              ∧ (intent.side = .sell →
                ∀ stop ∈ intent.stopLossPrice, freshSnapshot.bid.val < stop.val))) := by
  have hchecked := revalidate_checked h hpass
  refine ⟨hchecked, fun hsound => ⟨?_, protects_iff.mp hsound.protects⟩, fun ⟨hlegal, hside⟩ => ?_⟩
  · rw [← hchecked.unchanged]
    exact hsound.legal
  · refine ⟨hchecked, ?_, protects_iff.mpr hside⟩
    rw [hchecked.unchanged]
    exact hlegal

end

/-! ## A price behind the stop -/

namespace Sample

/-- The market a hundred and two points below the stop of the sample's intent. -/
def fallenQuote : MarketSnapshot :=
  { quote with
    bid := ⟨⟨109795, -5⟩, by decide⟩
    ask := ⟨⟨109798, -5⟩, by decide⟩
    spreadPoints := 3
    spreadNonneg := by decide
    uncrossed := by decide }

end Sample

end Crumblr

namespace Crumblr

/-- What was checked of a result is true of what it returns. -/
theorem exists_ok_of_any {α : Type} {x : Except PyError α} {p : α → Bool}
    (h : x.toOption.any p = true) : ∃ a, x = .ok a ∧ p a = true := by
  cases x with
  | error e => cases h
  | ok a => exact ⟨a, rfl, h⟩

open Sample in
theorem revalidate_sound_iff_sample :
    ∃ d, revalidateFixedVolumeAtExecutionTime intent riskDecision quote spec flatPortfolio
        worker.riskContext ⟨.running, []⟩ noon = .ok d
      ∧ d.verdict = .pass
      ∧ SoundPass intent riskDecision quote spec flatPortfolio worker.riskContext ⟨.running, []⟩ noon
        d := by
  have hrun : (revalidateFixedVolumeAtExecutionTime intent riskDecision quote spec flatPortfolio
      worker.riskContext ⟨.running, []⟩ noon).toOption.any (fun d => d.verdict = .pass) = true := by
    decide +kernel
  obtain ⟨d, hd, hpass⟩ := exists_ok_of_any hrun
  have hpass : d.verdict = .pass := of_decide_eq_true hpass
  refine ⟨d, hd, hpass, (revalidate_sound_iff hd hpass).2.mpr ⟨?_, fun _ => ⟨fun _ => ?_, ?_⟩⟩⟩
  · intro volume hvolume
    cases hvolume
    exact ⟨by decide, by decide, 10, by simp [Decimal.value, spec]⟩
  · intro stop hstop
    cases hstop
    decide
  · intro hsell
    cases hsell

open Sample in
/-- The market has fallen through the stop of a BUY, the ask is as far below it as the reference
price was above, and the revalidation passes. -/
theorem revalidate_behind_stop :
    ∃ d, revalidateFixedVolumeAtExecutionTime intent riskDecision fallenQuote spec flatPortfolio
        worker.riskContext ⟨.running, []⟩ noon = .ok d
      ∧ d.verdict = .pass
      ∧ ¬ SoundPass intent riskDecision fallenQuote spec flatPortfolio worker.riskContext
        ⟨.running, []⟩ noon d := by
  have hrun : (revalidateFixedVolumeAtExecutionTime intent riskDecision fallenQuote spec
      flatPortfolio worker.riskContext ⟨.running, []⟩ noon).toOption.any
        (fun d => d.verdict = .pass) = true := by
    decide +kernel
  obtain ⟨d, hd, hpass⟩ := exists_ok_of_any hrun
  refine ⟨d, hd, of_decide_eq_true hpass, fun hsound => ?_⟩
  exact absurd (hsound.protects.long rfl _ rfl) (by decide)

end Crumblr
