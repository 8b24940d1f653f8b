import Crumblr.Application.Reconciliation

/-!
# What a verdict says

`reconcile` collects findings of three severities in one pass. Its verdict is nonetheless
simple to say. *Evidence* is what a comparison needs at all: a snapshot young enough, with
both sets complete, an expectation that is whole, a pinned specification and an observed one.
*Agreement* is what the comparison then asks. The verdict is UNKNOWN exactly when evidence is
lacking, whatever else is wrong, and MATCHED exactly when evidence is there and everything
agrees.
-/

namespace Crumblr

/-- The stored broker state, as reconciliation reads it. -/
structure BrokerStateSource where
  latestAccountSnapshot : Option BrokerAccountSnapshot
  positionsFor : Uuid → List BrokerPositionSnapshot
  pendingOrdersFor : Uuid → List BrokerPendingOrderSnapshot

/-- The stored specifications, as reconciliation reads them. -/
structure InstrumentSpecSource where
  latest : String → Option InstrumentSpec

/-- How the two sources answer. Reconciliation asks nothing else. -/
def sourceAnswer (source : BrokerStateSource) (instrumentSpecs : InstrumentSpecSource) :
    (c : Call) → Except PyError c.Answer
  | .latestAccountSnapshot => .ok source.latestAccountSnapshot
  | .positionsFor snapshotId => .ok (source.positionsFor snapshotId)
  | .pendingOrdersFor snapshotId => .ok (source.pendingOrdersFor snapshotId)
  | .latestSpec canonicalSymbol => .ok (instrumentSpecs.latest canonicalSymbol)
  | _ => .error ⟨.other, "not a read of reconciliation"⟩

/-! ## Evidence and agreement -/

/-- Evidence is missing, stale, incomplete or undetermined. -/
inductive Lacking (source : BrokerStateSource) (instrumentSpecs : InstrumentSpecSource)
    (expectation : ExpectedState) (now : UtcDatetime) (maxSnapshotAge : Timedelta) : Prop where
  | neverCaptured (h : source.latestAccountSnapshot = none)
  | stale (snapshot : BrokerAccountSnapshot) (h : source.latestAccountSnapshot = some snapshot)
      (hold : maxSnapshotAge < now - snapshot.observedAtUtc)
  | positionsIncomplete (snapshot : BrokerAccountSnapshot)
      (h : source.latestAccountSnapshot = some snapshot)
      (hstate : snapshot.positionSetState ≠ .complete)
  | ordersIncomplete (snapshot : BrokerAccountSnapshot)
      (h : source.latestAccountSnapshot = some snapshot)
      (hstate : snapshot.pendingOrderSetState ≠ .complete)
  | undetermined (h : expectation.undeterminedReasons ≠ [])
  | notPinned (h : expectation.expectedSpecVersion = none)
  | notObserved (h : instrumentSpecs.latest expectation.canonicalSymbol = none)

/-- All the evidence a comparison needs, and what it is. -/
structure Evident (source : BrokerStateSource) (instrumentSpecs : InstrumentSpecSource)
    (expectation : ExpectedState) (now : UtcDatetime) (maxSnapshotAge : Timedelta)
    (snapshot : BrokerAccountSnapshot) (pinned : String) (current : InstrumentSpec) : Prop where
  captured : source.latestAccountSnapshot = some snapshot
  fresh : now - snapshot.observedAtUtc ≤ maxSnapshotAge
  positions : snapshot.positionSetState = .complete
  orders : snapshot.pendingOrderSetState = .complete
  determined : expectation.undeterminedReasons = []
  pinned : expectation.expectedSpecVersion = some pinned
  observed : instrumentSpecs.latest expectation.canonicalSymbol = some current

/-- What is expected of the account, as far as anything is. -/
structure AccountAgrees (snapshot : BrokerAccountSnapshot) (expectation : ExpectedState) :
    Prop where
  server : snapshot.server = expectation.expectedServer
  accountRef : ∀ r, expectation.expectedAccountRef = some r → snapshot.accountRef = r
  currency : ∀ c, expectation.expectedCurrency = some c → snapshot.currency = c
  leverage : ∀ l, expectation.expectedLeverage = some l → snapshot.leverage = l

/-- The observed identifiers are the expected ones, as sets. -/
def SameMembers (observed expected : List Int) : Prop := ∀ t, t ∈ observed ↔ t ∈ expected

/-- The observed broker state is the expected one. -/
structure Agrees [Externals] (snapshot : BrokerAccountSnapshot)
    (positions : List BrokerPositionSnapshot) (orders : List BrokerPendingOrderSnapshot)
    (expectation : ExpectedState) (pinned : String) (current : InstrumentSpec) : Prop where
  account : AccountAgrees snapshot expectation
  tickets : SameMembers (positions.map (·.ticket)) expectation.expectedPositionTickets
  positionSymbols : ∀ p ∈ positions, p.canonicalSymbol = expectation.canonicalSymbol
  orderIds : SameMembers (orders.map (·.orderId)) expectation.expectedPendingOrderIds
  orderSymbols : ∀ o ∈ orders, o.canonicalSymbol = expectation.canonicalSymbol
  spec : pinned = current.specVersion

/-- Evidence that is there does not lack. -/
theorem Evident.not_lacking {source : BrokerStateSource} {instrumentSpecs : InstrumentSpecSource}
    {expectation : ExpectedState} {now : UtcDatetime} {maxSnapshotAge : Timedelta}
    {snapshot : BrokerAccountSnapshot} {pinned : String} {current : InstrumentSpec}
    (h : Evident source instrumentSpecs expectation now maxSnapshotAge snapshot pinned current) :
    ¬ Lacking source instrumentSpecs expectation now maxSnapshotAge := by
  have hthe : ∀ other, source.latestAccountSnapshot = some other → other = snapshot := by
    intro other hother
    rw [h.captured] at hother
    exact (Option.some.inj hother).symm
  intro hlacking
  cases hlacking with
  | neverCaptured hnone => rw [h.captured] at hnone; cases hnone
  | stale other hother hold =>
      rw [hthe other hother] at hold
      exact absurd h.fresh (not_le.mpr hold)
  | positionsIncomplete other hother hstate => exact hstate (hthe other hother ▸ h.positions)
  | ordersIncomplete other hother hstate => exact hstate (hthe other hother ▸ h.orders)
  | undetermined hreasons => exact hreasons h.determined
  | notPinned hnone => rw [h.pinned] at hnone; cases hnone
  | notObserved hnone => rw [h.observed] at hnone; cases hnone

/-- A snapshot that can be judged is fresh and whole, against an expectation that is. -/
theorem snapshotUnknown_eq_none {snapshot : BrokerAccountSnapshot} {expectation : ExpectedState}
    {now : UtcDatetime} {maxSnapshotAge : Timedelta} :
    snapshotUnknown snapshot expectation now maxSnapshotAge = none
      ↔ now - snapshot.observedAtUtc ≤ maxSnapshotAge
        ∧ snapshot.positionSetState = .complete
        ∧ snapshot.pendingOrderSetState = .complete
        ∧ expectation.undeterminedReasons = [] := by
  unfold snapshotUnknown
  split
  case isTrue hold => simp [not_le.mpr hold]
  case isFalse hfresh =>
  split
  case isTrue hpositions => simp [hpositions]
  case isFalse hpositions =>
  split
  case isTrue horders => simp [horders]
  case isFalse horders =>
  split
  case isTrue hreasons => simp [hreasons]
  case isFalse hreasons =>
  exact iff_of_true rfl ⟨not_lt.mp hfresh, Decidable.not_not.mp hpositions,
    Decidable.not_not.mp horders, Decidable.not_not.mp hreasons⟩

/-- What a snapshot cannot be judged for is a lack of evidence. -/
theorem Lacking.of_snapshotUnknown {source : BrokerStateSource}
    {instrumentSpecs : InstrumentSpecSource} {expectation : ExpectedState} {now : UtcDatetime}
    {maxSnapshotAge : Timedelta} {snapshot : BrokerAccountSnapshot}
    (hsnapshot : source.latestAccountSnapshot = some snapshot)
    (h : snapshotUnknown snapshot expectation now maxSnapshotAge ≠ none) :
    Lacking source instrumentSpecs expectation now maxSnapshotAge := by
  rw [ne_eq, snapshotUnknown_eq_none] at h
  rcases lt_or_ge maxSnapshotAge (now - snapshot.observedAtUtc) with hold | hfresh
  · exact .stale snapshot hsnapshot hold
  by_cases hpositions : snapshot.positionSetState = .complete
  case neg => exact .positionsIncomplete snapshot hsnapshot hpositions
  by_cases horders : snapshot.pendingOrderSetState = .complete
  case neg => exact .ordersIncomplete snapshot hsnapshot horders
  exact .undetermined fun hreasons => h ⟨hfresh, hpositions, horders, hreasons⟩

/-! ## No finding, no disagreement -/

theorem mismatchIf_eq_nil {condition : Bool} {message : String} :
    mismatchIf condition message = [] ↔ condition = false := by
  cases condition <;> simp [mismatchIf]

theorem sortedSet_eq_nil {xs : List Int} : sortedSet xs = [] ↔ xs = [] := by
  cases xs with
  | nil => simp [sortedSet]
  | cons x xs =>
      have hmem : x ∈ sortedSet (x :: xs) := by
        rw [sortedSet, List.mem_insertionSort, List.eraseDups_cons]
        exact List.mem_cons_self
      constructor
      · intro h
        rw [h] at hmem
        cases hmem
      · intro h
        cases h

theorem setMismatches_eq_nil {observed expected : List Int} {unexpected missing : String} :
    setMismatches observed expected unexpected missing = [] ↔ SameMembers observed expected := by
  unfold setMismatches SameMembers
  rw [List.append_eq_nil_iff, List.map_eq_nil_iff, List.map_eq_nil_iff, sortedSet_eq_nil,
    sortedSet_eq_nil, List.filter_eq_nil_iff, List.filter_eq_nil_iff]
  constructor
  · rintro ⟨hunexpected, hmissing⟩ t
    exact ⟨fun ht => by simpa using hunexpected t ht, fun ht => by simpa using hmissing t ht⟩
  · intro h
    exact ⟨fun t ht => by simpa using (h t).mp ht, fun t ht => by simpa using (h t).mpr ht⟩

theorem accountMismatches_eq_nil {snapshot : BrokerAccountSnapshot}
    {expectation : ExpectedState} :
    accountMismatches snapshot expectation = [] ↔ AccountAgrees snapshot expectation := by
  unfold accountMismatches
  simp only [List.append_eq_nil_iff, mismatchIf_eq_nil, Option.any_eq_false, and_assoc]
  constructor
  · rintro ⟨hserver, href, hcurrency, hleverage⟩
    exact ⟨by simpa using hserver, fun r hr => by simpa using href r hr,
      fun c hc => by simpa using hcurrency c hc, fun l hl => by simpa using hleverage l hl⟩
  · intro h
    exact ⟨by simpa using h.server, fun r hr => by simpa using h.accountRef r hr,
      fun c hc => by simpa using h.currency c hc, fun l hl => by simpa using h.leverage l hl⟩

theorem positionMismatches_eq_nil {positions : List BrokerPositionSnapshot}
    {expectation : ExpectedState} :
    positionMismatches positions expectation = []
      ↔ SameMembers (positions.map (·.ticket)) expectation.expectedPositionTickets
        ∧ ∀ p ∈ positions, p.canonicalSymbol = expectation.canonicalSymbol := by
  unfold positionMismatches
  rw [List.append_eq_nil_iff, setMismatches_eq_nil, List.map_eq_nil_iff, List.filter_eq_nil_iff]
  simp only [ne_eq, decide_not, Bool.not_eq_true', decide_eq_false_iff_not, not_not]

theorem pendingOrderMismatches_eq_nil {orders : List BrokerPendingOrderSnapshot}
    {expectation : ExpectedState} :
    pendingOrderMismatches orders expectation = []
      ↔ SameMembers (orders.map (·.orderId)) expectation.expectedPendingOrderIds
        ∧ ∀ o ∈ orders, o.canonicalSymbol = expectation.canonicalSymbol := by
  unfold pendingOrderMismatches
  rw [List.append_eq_nil_iff, setMismatches_eq_nil, List.map_eq_nil_iff, List.filter_eq_nil_iff]
  simp only [ne_eq, decide_not, Bool.not_eq_true', decide_eq_false_iff_not, not_not]

section

variable [Externals]

/-- **The comparison finds nothing exactly when everything agrees.** -/
theorem mismatches_eq_nil {snapshot : BrokerAccountSnapshot}
    {positions : List BrokerPositionSnapshot} {orders : List BrokerPendingOrderSnapshot}
    {expectation : ExpectedState} {pinned : String} {current : InstrumentSpec} :
    mismatches snapshot positions orders expectation pinned current = []
      ↔ Agrees snapshot positions orders expectation pinned current := by
  have hspec : instrumentSpecMismatches pinned current = [] ↔ pinned = current.specVersion := by
    unfold instrumentSpecMismatches
    rw [mismatchIf_eq_nil]
    simp
  unfold mismatches
  rw [List.append_eq_nil_iff, List.append_eq_nil_iff, List.append_eq_nil_iff,
    accountMismatches_eq_nil, positionMismatches_eq_nil, pendingOrderMismatches_eq_nil, hspec]
  constructor
  · rintro ⟨⟨⟨haccount, htickets, hsymbols⟩, hids, hsymbols'⟩, hpinned⟩
    exact ⟨haccount, htickets, hsymbols, hids, hsymbols', hpinned⟩
  · intro h
    exact ⟨⟨⟨h.account, h.tickets, h.positionSymbols⟩, h.orderIds, h.orderSymbols⟩, h.spec⟩

/-! ## The verdict -/

variable (source : BrokerStateSource) (instrumentSpecs : InstrumentSpecSource)
  (expectation : ExpectedState) (now : UtcDatetime) (maxSnapshotAge : Timedelta)

/-- What reconciliation comes to over the two sources. -/
abbrev verdict : Except PyError ReconciliationResult :=
  (reconcile expectation now maxSnapshotAge).given (sourceAnswer source instrumentSpecs)

/-- Reconciliation stops at the first lack of evidence, or compares everything. -/
theorem verdict_cases :
    (Lacking source instrumentSpecs expectation now maxSnapshotAge
      ∧ ∃ result, verdict source instrumentSpecs expectation now maxSnapshotAge = .ok result
        ∧ result.status = .unknown)
    ∨ ∃ snapshot pinned current,
        Evident source instrumentSpecs expectation now maxSnapshotAge snapshot pinned current
          ∧ ∃ result, verdict source instrumentSpecs expectation now maxSnapshotAge = .ok result
            ∧ ((result.status = .matched
                  ∧ Agrees snapshot (source.positionsFor snapshot.snapshotId)
                      (source.pendingOrdersFor snapshot.snapshotId) expectation pinned current)
                ∨ (result.status = .mismatched
                  ∧ ¬ Agrees snapshot (source.positionsFor snapshot.snapshotId)
                      (source.pendingOrdersFor snapshot.snapshotId) expectation pinned current)) := by
  unfold verdict reconcile
  simp only [ask, Prog.bind_eq_bind, Prog.given_bind, Prog.given_perform, sourceAnswer, Except.bind]
  cases hsnapshot : source.latestAccountSnapshot with
  | none => exact .inl ⟨.neverCaptured hsnapshot, _, rfl, rfl⟩
  | some snapshot =>
  dsimp only
  cases hunknown : snapshotUnknown snapshot expectation now maxSnapshotAge with
  | some reason =>
      have hreason : snapshotUnknown snapshot expectation now maxSnapshotAge ≠ none := by
        rw [hunknown]
        exact Option.some_ne_none reason
      exact .inl ⟨.of_snapshotUnknown hsnapshot hreason, _, rfl, rfl⟩
  | none =>
  dsimp only
  cases hpinned : expectation.expectedSpecVersion with
  | none => exact .inl ⟨.notPinned hpinned, _, rfl, rfl⟩
  | some pinned =>
  simp only [Prog.given_bind, Prog.given_perform, sourceAnswer, Except.bind]
  cases hcurrent : instrumentSpecs.latest expectation.canonicalSymbol with
  | none => exact .inl ⟨.notObserved hcurrent, _, rfl, rfl⟩
  | some current =>
  dsimp only
  obtain ⟨hfresh, hpositions, horders, hdetermined⟩ := snapshotUnknown_eq_none.mp hunknown
  refine .inr ⟨snapshot, pinned, current,
    ⟨hsnapshot, hfresh, hpositions, horders, hdetermined, hpinned, hcurrent⟩, _, rfl, ?_⟩
  simp only [← mismatches_eq_nil]
  split
  case isTrue hnothing => exact .inl ⟨rfl, hnothing⟩
  case isFalse hfound => exact .inr ⟨rfl, hfound⟩

/-- **The verdict, characterised.** Reconciliation always comes to one. It is MATCHED exactly
when there is evidence and everything agrees, UNKNOWN exactly when evidence lacks (so that
nothing a later check finds, or fails to find, changes it), and MISMATCHED otherwise. -/
theorem reconcile_verdict :
    ∃ result, (reconcile expectation now maxSnapshotAge).given (sourceAnswer source instrumentSpecs)
        = .ok result
      ∧ (result.status = .matched ↔ ∃ snapshot pinned current,
          Evident source instrumentSpecs expectation now maxSnapshotAge snapshot pinned current
            ∧ Agrees snapshot (source.positionsFor snapshot.snapshotId)
                (source.pendingOrdersFor snapshot.snapshotId) expectation pinned current)
      ∧ (result.status = .unknown
          ↔ Lacking source instrumentSpecs expectation now maxSnapshotAge)
      ∧ (result.status = .mismatched ↔ ∃ snapshot pinned current,
          Evident source instrumentSpecs expectation now maxSnapshotAge snapshot pinned current
            ∧ ¬ Agrees snapshot (source.positionsFor snapshot.snapshotId)
                (source.pendingOrdersFor snapshot.snapshotId) expectation pinned current) := by
  rcases verdict_cases source instrumentSpecs expectation now maxSnapshotAge with
    ⟨hlacking, result, hresult, hstatus⟩
      | ⟨snapshot, pinned, current, hevident, result, hresult, hstatus⟩
  · have hnone : ∀ snapshot pinned current, ¬ Evident source instrumentSpecs expectation now
        maxSnapshotAge snapshot pinned current := fun _ _ _ h => h.not_lacking hlacking
    refine ⟨result, hresult, ?_, iff_of_true hstatus hlacking, ?_⟩
    · refine iff_of_false (by rw [hstatus]; decide) ?_
      rintro ⟨snapshot, pinned, current, hevident, -⟩
      exact hnone snapshot pinned current hevident
    · refine iff_of_false (by rw [hstatus]; decide) ?_
      rintro ⟨snapshot, pinned, current, hevident, -⟩
      exact hnone snapshot pinned current hevident
  · -- the evidence is the same whoever finds it
    have hthe : ∀ snapshot' pinned' current', Evident source instrumentSpecs expectation now
        maxSnapshotAge snapshot' pinned' current' →
        snapshot' = snapshot ∧ pinned' = pinned ∧ current' = current := by
      intro snapshot' pinned' current' h
      exact ⟨Option.some.inj (h.captured.symm.trans hevident.captured),
        Option.some.inj (h.pinned.symm.trans hevident.pinned),
        Option.some.inj (h.observed.symm.trans hevident.observed)⟩
    have hsame : ∀ {P : BrokerAccountSnapshot → String → InstrumentSpec → Prop},
        (∃ snapshot' pinned' current', Evident source instrumentSpecs expectation now
          maxSnapshotAge snapshot' pinned' current' ∧ P snapshot' pinned' current')
        ↔ P snapshot pinned current := by
      intro P
      constructor
      · rintro ⟨snapshot', pinned', current', hevident', hP⟩
        obtain ⟨rfl, rfl, rfl⟩ := hthe _ _ _ hevident'
        exact hP
      · exact fun hP => ⟨snapshot, pinned, current, hevident, hP⟩
    refine ⟨result, hresult, ?_⟩
    rw [hsame, hsame]
    rcases hstatus with ⟨hmatched, hagrees⟩ | ⟨hmismatched, hdisagrees⟩
    · rw [hmatched]
      exact ⟨iff_of_true rfl hagrees, iff_of_false (by decide) hevident.not_lacking,
        iff_of_false (by decide) (not_not.mpr hagrees)⟩
    · rw [hmismatched]
      exact ⟨iff_of_false (by decide) hdisagrees, iff_of_false (by decide) hevident.not_lacking,
        iff_of_true rfl hdisagrees⟩

end

end Crumblr
