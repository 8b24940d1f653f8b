import Crumblr.Proof.ExactSizing
import Mathlib.Algebra.Order.BigOperators.Group.List
import Mathlib.Logic.Relation

/-!
# The open-risk budget over a run

A pass adds what it asks for to what the book already risks, and asks for no less than its
volume can lose, so a book of filled passes never risks more than the budget. The book is
measured another way than it was built: position by position, from the entry prices and the
stops. The two agree because a fill carries the intent's own prices, which stand on the sides
that make the distance an adverse one.
-/

namespace Crumblr.Exact

variable {spec : InstrumentSpec} {equity : ℚ}

/-! ## The risk of a book -/

/-- A position whose risk can be told. -/
def Valued (spec : InstrumentSpec) (p : PositionState) : Prop :=
  p.brokerSymbol = spec.brokerSymbol ∧ p.stopLossPrice.isSome = true

/-- What a position loses if its stop is hit; nothing if the stop is past its entry. -/
def positionRisk (spec : InstrumentSpec) (p : PositionState) : ℚ :=
  match p.stopLossPrice with
  | none => 0
  | some stop =>
      if 0 < adverseDistance p stop then
        p.volume.val.value * lossOver (adverseDistance p stop) spec
      else 0

def bookRisk (spec : InstrumentSpec) (book : List PositionState) : ℚ :=
  (book.map (positionRisk spec)).sum

theorem positionRisk_nonneg (p : PositionState) : 0 ≤ positionRisk spec p := by
  unfold positionRisk
  split
  · exact le_refl 0
  · split
    · rename_i h
      exact (mul_pos (Decimal.pos_iff_value.mp p.volume.property) (lossOver_pos h)).le
    · exact le_refl 0

/-- **A total over positions that can be valued is the sum of their risks.** -/
theorem openRiskTotal_eq {book : List PositionState} (h : ∀ p ∈ book, Valued spec p) :
    ∀ total, openRiskTotal spec book total true = .ok (total + bookRisk spec book, true) := by
  induction book with
  | nil =>
      intro total
      simp [openRiskTotal, bookRisk]
  | cons p rest ih =>
      intro total
      obtain ⟨hsymbol, hstop⟩ := h p List.mem_cons_self
      obtain ⟨stop, hstop⟩ := Option.isSome_iff_exists.mp hstop
      have hrest := ih fun q hq => h q (List.mem_cons_of_mem _ hq)
      have hsum : bookRisk spec (p :: rest) = positionRisk spec p + bookRisk spec rest := rfl
      rw [openRiskTotal, if_neg (not_not.mpr hsymbol), hsum]
      simp only [hstop]
      have hrisk : positionRisk spec p = if 0 < adverseDistance p stop then
          p.volume.val.value * lossOver (adverseDistance p stop) spec else 0 := by
        unfold positionRisk
        rw [hstop]
      split
      · rename_i hadverse
        rw [if_pos hadverse] at hrisk
        rw [realisedRisk_eq hadverse, hrisk, ← add_assoc]
        exact hrest _
      · rename_i hadverse
        rw [if_neg hadverse] at hrisk
        rw [hrisk, zero_add]
        exact hrest _

/-- What the assessment of a book that can be valued comes to. -/
theorem assessOpenRisk_eq {book : List PositionState} (h : ∀ p ∈ book, Valued spec p)
    (hsolvent : book = [] ∨ 0 < equity) :
    assessOpenRisk book spec equity
      = .ok ⟨some (bookRisk spec book / equity), some (bookRisk spec book)⟩ := by
  unfold assessOpenRisk
  split
  · rename_i hnil
    simp [hnil, bookRisk]
  · rename_i hne
    have hpos := hsolvent.resolve_left hne
    rw [if_neg (not_le.mpr hpos), openRiskTotal_eq h]
    simp [bind, Except.bind, pure, Except.pure]

/-! ## A pass and its fill -/

section

variable [Externals] {intent : TradeIntent} {snapshot : MarketSnapshot}
  {portfolio : PortfolioState} {openRisk : Option ℚ} {context : RiskContext}
  {killSwitch : KillSwitch} {now : UtcDatetime} {d : RiskDecision}

omit [Externals] in
theorem refuse_verdict (reasons : List ReasonCode) : (refuse reasons).verdict ≠ .pass := by
  unfold refuse refusalVerdict
  dsimp only
  split
  · simp
  · simp

/-- What a pass has behind it. -/
structure Passed (intent : TradeIntent) (spec : InstrumentSpec) (equity : ℚ) (openRisk : Option ℚ)
    (risk : RiskConfig) (d : RiskDecision) (stop : Price) (requested : RiskFraction)
    (carrying : ℚ) (volume : Volume) : Prop where
  placed : intent.stopLossPrice = some stop
  known : openRisk = some carrying
  perTrade : requested.val.value ≤ risk.maxRiskPerTrade.val.value
  projected : carrying + requested.val.value ≤ risk.maxOpenRisk.val.value
  approved : d.approvedVolume = some volume
  solvent : 0 < equity
  budget : volume.val.value
      * lossOver (stopDistanceFrom intent.referencePrice.val.value stop) spec
    ≤ equity * requested.val.value

omit [Externals] in
/-- A leg that must not fail does not. -/
theorem leg_holds {legs : List (Bool × ReasonCode)} (h : failing legs = []) {p : Prop} [Decidable p]
    (reason : ReasonCode) (hmem : (decide p, reason) ∈ legs) : ¬ p :=
  of_decide_eq_false (failing_eq_nil.mp h _ hmem)

/-- **A pass is within its budgets.** -/
theorem passed_of_evaluate
    (h : evaluate intent snapshot spec portfolio openRisk context killSwitch now = .ok d)
    (hpass : d.verdict = .pass) :
    ∃ stop requested carrying volume, Passed intent spec portfolio.account.equity.value openRisk
      context.risk d stop requested carrying volume := by
  obtain ⟨stop, hstop, h⟩ := bind_ok h
  obtain ⟨points, -, h⟩ := bind_ok h
  dsimp only at h
  split at h
  · cases h
    exact absurd hpass (refuse_verdict _)
  rename_i hnone
  have hclear := Decidable.not_not.mp hnone
  obtain ⟨requested, hrequested, h⟩ := bind_ok h
  have hrequested := assertSome_ok hrequested
  have hdistance : 0 < stopDistanceFrom intent.referencePrice.val.value stop := by
    have hclose := leg_holds hclear
      (p := stopDistanceFrom intent.referencePrice.val.value stop ≤ 0
        ∨ points < context.risk.minStopDistancePoints) .invalidStop (by simp [stopLegs])
    exact not_le.mp fun hle => hclose (.inl hle)
  have hperTrade := leg_holds hclear
    (p := context.risk.maxRiskPerTrade.val.value < requested.val.value)
    .riskPerTradeLimit (by simp [exposureLegs, hrequested])
  obtain ⟨carrying, hcarrying⟩ : ∃ carrying, openRisk = some carrying := by
    cases openRisk with
    | some carrying => exact ⟨carrying, rfl⟩
    | none =>
        have hknown := failing_eq_nil.mp hclear (true, .openRiskUnknown)
          (by simp [exposureLegs, hrequested])
        cases hknown
  have hprojected := leg_holds hclear
    (p := context.risk.maxOpenRisk.val.value < carrying + requested.val.value)
    .openRiskLimit (by simp [exposureLegs, hrequested, hcarrying])
  obtain ⟨sizing, hsizing, h⟩ := bind_ok h
  have hfraction := Decimal.pos_iff_value.mp requested.property.1
  by_cases hequity : portfolio.account.equity.value ≤ 0
  · rw [sizePosition, if_pos hequity] at hsizing
    cases hsizing
    cases h
    exact absurd hpass (refuse_verdict _)
  obtain ⟨sizing', hsizing', hamount, -⟩ := sizePosition_volume spec
    (not_le.mp hequity) hfraction hdistance
  rw [hsizing] at hsizing'
  cases hsizing'
  split at h
  · cases h
    exact absurd hpass (refuse_verdict _)
  rename_i volume _
  rw [realisedRisk_eq hdistance] at h
  simp only [bind, Except.bind] at h
  split at h
  · cases h
    exact absurd hpass (refuse_verdict _)
  rename_i hbudget
  unfold pass at h
  split at h
  · rename_i hvolume
    split at h
    · cases h
      refine ⟨stop, requested, carrying, ⟨volume, hvolume⟩, assertSome_ok hstop, hcarrying,
        not_lt.mp hperTrade, not_lt.mp hprojected, rfl, not_le.mp hequity, ?_⟩
      rw [← hamount]
      exact not_lt.mp hbudget
    · cases h
  · cases h

omit [Externals] in
/-- The position that filling an approved intent at its own prices opens. -/
structure Filled (intent : TradeIntent) (spec : InstrumentSpec) (d : RiskDecision)
    (p : PositionState) : Prop where
  symbol : p.brokerSymbol = spec.brokerSymbol
  side : p.side = intent.side
  price : p.openPrice = intent.referencePrice
  stop : p.stopLossPrice = intent.stopLossPrice
  volume : d.approvedVolume = some p.volume

omit [Externals] in
/-- The stop of a filled position is on its adverse side, as far as the intent's. -/
theorem Filled.adverse {p : PositionState} (h : Filled intent spec d p) {stop : Price}
    (hstop : intent.stopLossPrice = some stop) :
    0 < adverseDistance p stop
      ∧ adverseDistance p stop = stopDistanceFrom intent.referencePrice.val.value stop := by
  unfold adverseDistance stopDistanceFrom
  rw [h.price]
  cases hside : intent.side with
  | flat => exact absurd (h.side.trans hside) p.directional
  | buy =>
      have hlt := Decimal.lt_iff_value.mp ((intent.buyStops hside).1 stop hstop)
      rw [if_pos (h.side.trans hside), abs_of_pos (sub_pos.mpr hlt)]
      exact ⟨sub_pos.mpr hlt, rfl⟩
  | sell =>
      have hlt := Decimal.lt_iff_value.mp ((intent.sellStops hside).1 stop hstop)
      rw [if_neg (by rw [h.side, hside]; simp), abs_sub_comm, abs_of_pos (sub_pos.mpr hlt)]
      exact ⟨sub_pos.mpr hlt, rfl⟩

omit [Externals] in
/-- **A filled position risks no more than was asked for.** -/
theorem Filled.risk {p : PositionState} {stop : Price} {requested : RiskFraction} {carrying : ℚ}
    {volume : Volume} {risk : RiskConfig} (h : Filled intent spec d p)
    (hpassed : Passed intent spec equity openRisk risk d stop requested carrying volume) :
    positionRisk spec p / equity ≤ requested.val.value := by
  obtain ⟨hpos, hdistance⟩ := h.adverse hpassed.placed
  obtain rfl : volume = p.volume := Option.some.inj (hpassed.approved.symm.trans h.volume)
  rw [div_le_iff₀ hpassed.solvent, mul_comm]
  unfold positionRisk
  rw [h.stop, hpassed.placed]
  dsimp only
  rw [if_pos hpos, hdistance]
  exact hpassed.budget

end

/-! ## Runs -/

/-- What may happen to a book under one specification, equity and risk configuration: an intent
passes on the book as it is measured and is filled, or positions close. -/
inductive BookStep [Externals] (spec : InstrumentSpec) (equity : Decimal) (risk : RiskConfig) :
    List PositionState → List PositionState → Prop
  | filled {book book' : List PositionState} {intent : TradeIntent} {snapshot : MarketSnapshot}
      {portfolio : PortfolioState} {assessment : OpenRiskAssessment} {context : RiskContext}
      {killSwitch : KillSwitch} {now : UtcDatetime} {d : RiskDecision} {p : PositionState} :
      portfolio.openPositions = book → portfolio.account.equity = equity → context.risk = risk →
      assessOpenRisk book spec equity.value = .ok assessment →
      evaluate intent snapshot spec portfolio assessment.fraction context killSwitch now = .ok d →
      d.verdict = .pass → Filled intent spec d p → List.Perm book' (p :: book) →
      BookStep spec equity risk book book'
  | closed {book book' : List PositionState} : List.Subperm book' book →
      BookStep spec equity risk book book'

/-- The invariant of a book: it can be valued, and is within both budgets. -/
structure WithinBudget (spec : InstrumentSpec) (equity : ℚ) (risk : RiskConfig)
    (book : List PositionState) : Prop where
  valued : ∀ p ∈ book, Valued spec p
  each : ∀ p ∈ book, positionRisk spec p / equity ≤ risk.maxRiskPerTrade.val.value
  total : bookRisk spec book / equity ≤ risk.maxOpenRisk.val.value
  solvent : book = [] ∨ 0 < equity

theorem bookRisk_perm {book book' : List PositionState} (h : book'.Perm book) :
    bookRisk spec book' = bookRisk spec book := (h.map _).sum_eq

theorem bookRisk_subperm {book book' : List PositionState} (h : book'.Subperm book) :
    bookRisk spec book' ≤ bookRisk spec book := by
  obtain ⟨kept, hperm, hsub⟩ := h
  rw [← bookRisk_perm hperm]
  refine (hsub.map (positionRisk spec)).sum_le_sum fun r hr => ?_
  obtain ⟨p, -, rfl⟩ := List.mem_map.mp hr
  exact positionRisk_nonneg p

section

variable [Externals] {risk : RiskConfig} {book book' : List PositionState} {equity : Decimal}

/-- **A step leaves a book within its budgets.** -/
theorem WithinBudget.step (h : WithinBudget spec equity.value risk book)
    (hstep : BookStep spec equity risk book book') : WithinBudget spec equity.value risk book' := by
  cases hstep with
  | closed hsub =>
      rcases h.solvent with rfl | hpos
      · rw [List.subperm_nil.mp hsub]
        exact h
      · exact ⟨fun p hp => h.valued p (hsub.subset hp), fun p hp => h.each p (hsub.subset hp),
          le_trans (div_le_div_of_nonneg_right (bookRisk_subperm hsub) hpos.le) h.total, .inr hpos⟩
  | @filled intent snapshot portfolio assessment context killSwitch now d p hbook hequity hrisk
      hassess hevaluate hpass hfilled hperm =>
      obtain ⟨stop, requested, carrying, volume, hpassed⟩ := passed_of_evaluate hevaluate hpass
      rw [hequity, hrisk] at hpassed
      rw [assessOpenRisk_eq h.valued h.solvent] at hassess
      cases hassess
      have hcarrying : bookRisk spec book / equity.value = carrying :=
        Option.some.inj hpassed.known
      have hnew := hfilled.risk hpassed
      have hvalued : Valued spec p := by
        refine ⟨hfilled.symbol, ?_⟩
        rw [hfilled.stop, hpassed.placed]
        rfl
      refine ⟨fun q hq => ?_, fun q hq => ?_, ?_, .inr hpassed.solvent⟩
      · rcases List.mem_cons.mp (hperm.subset hq) with rfl | hq
        · exact hvalued
        · exact h.valued q hq
      · rcases List.mem_cons.mp (hperm.subset hq) with rfl | hq
        · exact le_trans hnew hpassed.perTrade
        · exact h.each q hq
      · calc bookRisk spec book' / equity.value
            = (positionRisk spec p + bookRisk spec book) / equity.value := by
              rw [bookRisk_perm hperm]
              rfl
          _ = positionRisk spec p / equity.value + carrying := by rw [add_div, hcarrying]
          _ ≤ requested.val.value + carrying := add_le_add hnew (le_refl _)
          _ = carrying + requested.val.value := add_comm _ _
          _ ≤ risk.maxOpenRisk.val.value := hpassed.projected

/-- So does a run. -/
theorem WithinBudget.run (h : WithinBudget spec equity.value risk book)
    (hrun : Relation.ReflTransGen (BookStep spec equity risk) book book') :
    WithinBudget spec equity.value risk book' := by
  induction hrun with
  | refl => exact h
  | tail _ hstep ih => exact ih.step hstep

omit [Externals] in
theorem withinBudget_nil (equity : ℚ) (risk : RiskConfig) : WithinBudget spec equity risk [] where
  valued := fun _ hp => absurd hp List.not_mem_nil
  each := fun _ hp => absurd hp List.not_mem_nil
  total := by
    rw [bookRisk, List.map_nil, List.sum_nil, zero_div]
    exact (Decimal.pos_iff_value.mp risk.maxOpenRisk.property.1).le
  solvent := .inl rfl

/-- **The open risk never exceeds its budget**: of the book that any run of filled passes and
closes leaves, the assessment tells a fraction within the budget of the book, and of each
position alone one within the budget of a trade. -/
theorem open_risk_within_budget (spec : InstrumentSpec) (equity : Decimal) (risk : RiskConfig)
    {book : List PositionState} (hrun : Relation.ReflTransGen (BookStep spec equity risk) [] book) :
    (∃ assessment fraction, assessOpenRisk book spec equity.value = .ok assessment
        ∧ assessment.fraction = some fraction ∧ fraction ≤ risk.maxOpenRisk.val.value)
      ∧ ∀ p ∈ book, ∃ assessment fraction, assessOpenRisk [p] spec equity.value = .ok assessment
        ∧ assessment.fraction = some fraction ∧ fraction ≤ risk.maxRiskPerTrade.val.value := by
  have hbook := (withinBudget_nil equity.value risk).run hrun
  refine ⟨⟨_, _, assessOpenRisk_eq hbook.valued hbook.solvent, rfl, hbook.total⟩, fun p hp => ?_⟩
  have hsolvent : 0 < equity.value := by
    rcases hbook.solvent with hnil | hpos
    · rw [hnil] at hp
      exact absurd hp List.not_mem_nil
    · exact hpos
  have hvalued : ∀ q ∈ [p], Valued spec q := by
    intro q hq
    rw [List.mem_singleton.mp hq]
    exact hbook.valued p hp
  refine ⟨_, _, assessOpenRisk_eq hvalued (.inr hsolvent), rfl, ?_⟩
  have halone : bookRisk spec [p] = positionRisk spec p := by simp [bookRisk]
  rw [halone]
  exact hbook.each p hp

end

end Crumblr.Exact

namespace Crumblr

namespace Sample

/-- The sample's intent, filled at its own prices. -/
def filledPosition (volume : Volume) : PositionState where
  ticket := 1
  brokerSymbol := "EURUSD"
  side := .buy
  volume := volume
  openPrice := price 110000
  currentPrice := none
  stopLossPrice := some (price 109900)
  takeProfitPrice := none
  openedAtUtc := noon
  profit := 0
  swap := 0
  magic := none
  observedAtUtc := noon
  directional := buy_directional

end Sample

open Sample in
/-- The sample's intent passes on a book of this risk and is filled. -/
theorem filled_again {book : List PositionState} {assessment : Exact.OpenRiskAssessment}
    {fraction : ℚ} (ticket : Int) (volume : Volume)
    (hassess : Exact.assessOpenRisk book spec (⟨10000, 0⟩ : Decimal).value = .ok assessment)
    (hfraction : assessment.fraction = some fraction)
    (hrun : (Exact.evaluate intent quote spec { flatPortfolio with openPositions := book }
      (some fraction) worker.riskContext ⟨.running, []⟩ noon).toOption.any
        (fun d => decide (d.verdict = .pass ∧ d.approvedVolume = some volume)) = true) :
    Exact.BookStep spec ⟨10000, 0⟩ worker.riskContext.risk book
      ({ filledPosition volume with ticket := ticket } :: book) := by
  obtain ⟨d, hd, hpassed⟩ := exists_ok_of_any hrun
  obtain ⟨hpass, hvolume⟩ := of_decide_eq_true hpassed
  rw [← hfraction] at hd
  have hfilled : Exact.Filled intent spec d { filledPosition volume with ticket := ticket } :=
    ⟨rfl, rfl, rfl, rfl, hvolume⟩
  exact .filled rfl rfl rfl hassess hd hpass hfilled (List.Perm.refl _)

open Sample in
/-- The intent is filled twice, each time with half a per cent of the equity at risk. -/
theorem open_risk_within_budget_sample :
    ∃ first second : PositionState,
      Relation.ReflTransGen (Exact.BookStep spec ⟨10000, 0⟩ worker.riskContext.risk) []
        [second, first]
      ∧ ∃ assessment fraction,
        Exact.assessOpenRisk [second, first] spec (⟨10000, 0⟩ : Decimal).value = .ok assessment
          ∧ assessment.fraction = some fraction
          ∧ fraction ≤ worker.riskContext.risk.maxOpenRisk.val.value := by
  have hnone : Exact.assessOpenRisk [] spec (⟨10000, 0⟩ : Decimal).value = .ok ⟨some 0, some 0⟩ := rfl
  have hfirst := filled_again 1 (amount 50 (-2)) hnone rfl (by decide +kernel)
  have hcarried : (Exact.assessOpenRisk [{ filledPosition (amount 50 (-2)) with ticket := 1 }] spec
      (⟨10000, 0⟩ : Decimal).value).toOption.any
        (fun assessment => assessment.fraction = some (1 / 200)) = true := by decide +kernel
  obtain ⟨assessment, hassess, hfraction⟩ := exists_ok_of_any hcarried
  have hsecond := filled_again 2 (amount 50 (-2)) hassess (of_decide_eq_true hfraction)
    (by decide +kernel)
  have hrun := (Relation.ReflTransGen.single hfirst).tail hsecond
  exact ⟨_, _, hrun,
    (Exact.open_risk_within_budget spec ⟨10000, 0⟩ worker.riskContext.risk hrun).1⟩

end Crumblr
