import Crumblr.Application.Recording
import Crumblr.Lib.Resume
import Crumblr.Proof.IdenticalTicks

/-!
# A run that is started again

What a recorder writes is fixed by what it was given: a sequence of transactions, each of which
only adds rows that were not there. A run that is stopped and started again carries out the same
sequence from its first transaction, and those that went through before find their rows in place.
-/

namespace Crumblr

open Resume

/-! ## The stores only grow -/

/-- A store with more rows, after those it had. -/
structure RunStore.Within (s s' : RunStore) : Prop where
  events : s.events <+: s'.events
  capsules : s.capsules <+: s'.capsules
  ticks : s.ticks <+: s'.ticks
  bars : s.bars <+: s'.bars
  features : s.features <+: s'.features

instance : Preorder RunStore where
  le := RunStore.Within
  le_refl s := ⟨List.prefix_rfl, List.prefix_rfl, List.prefix_rfl, List.prefix_rfl,
    List.prefix_rfl⟩
  le_trans _ _ _ h h' := ⟨h.events.trans h'.events, h.capsules.trans h'.capsules,
    h.ticks.trans h'.ticks, h.bars.trans h'.bars, h.features.trans h'.features⟩

abbrev RunTransaction : Type := Transaction RunStore PyError

/-- Statements as a transaction, without what they return. -/
def transactionOf {α : Type} (statements : RunStore → Except PyError (RunStore × α)) :
    RunTransaction := fun s => (statements s).map (·.1)

def sealing (batch : List Event) (capsule : RunCapsule) : RunTransaction :=
  transactionOf fun s => .ok (RunStore.seal batch capsule s, ())

def appending (batch : List Event) : RunTransaction :=
  transactionOf fun s => .ok (RunStore.append batch s, ())

def observations (ticks : List StoredTick) (bars : List MarketBar) : RunTransaction :=
  transactionOf (RunStore.recordMarketData ticks bars)

def evidence (features : FeatureEvidence) : RunTransaction :=
  transactionOf fun s => (RunStore.recordFeatures features s).map fun s' => (s', ())

section

variable {batch : List Event} {capsule : RunCapsule} {s s' v : RunStore}

theorem absorbing_sealing : Absorbing (sealing batch capsule) where
  grows := by
    rintro s s' ⟨⟩
    exact ⟨Table.prefix_foldl_insertNew, Table.prefix_foldl_insertNew (l := [capsule]),
      List.prefix_rfl, List.prefix_rfl, List.prefix_rfl⟩
  settled := by
    rintro s s' v ⟨⟩ hv
    have hevents := Table.foldl_insertNew_settled hv.events
    have hcapsules := Table.foldl_insertNew_settled (l := [capsule]) hv.capsules
    change Except.ok (RunStore.seal batch capsule v) = Except.ok v
    simp only [RunStore.seal, CapsuleStore.seal]
    change batch.foldl EventJournal.append v.events = v.events at hevents
    change Table.insertNew (·.capsuleId) v.capsules capsule = v.capsules at hcapsules
    rw [hevents, hcapsules]

theorem absorbing_appending : Absorbing (appending batch) where
  grows := by
    rintro s s' ⟨⟩
    exact ⟨Table.prefix_foldl_insertNew, List.prefix_rfl, List.prefix_rfl, List.prefix_rfl,
      List.prefix_rfl⟩
  settled := by
    rintro s s' v ⟨⟩ hv
    have hevents := Table.foldl_insertNew_settled hv.events
    change Except.ok (RunStore.append batch v) = Except.ok v
    change batch.foldl EventJournal.append v.events = v.events at hevents
    simp only [RunStore.append, hevents]

end

section

variable {table table' v : List MarketBar} {bar : MarketBar} {bars : List MarketBar}

open MarketDataStore

/-- A bar is in the table, as it is. -/
def HoldsBar (table : List MarketBar) (bar : MarketBar) : Prop :=
  ∃ existing, Table.lookup (·.barId) table bar.barId = some existing
    ∧ sameBar existing.bar bar.bar = true

theorem compare_self (d : Decimal) : d.compare d = .eq := by
  exact Decimal.compare_eq.mpr ⟨le_rfl, le_rfl⟩

theorem sameBar_self (bar : Bar) : sameBar bar bar = true := by
  simp [sameBar, compare_self]

theorem HoldsBar.mono (h : HoldsBar table bar) (hv : table <+: v) : HoldsBar v bar := by
  obtain ⟨existing, hlookup, hsame⟩ := h
  obtain ⟨rest, rfl⟩ := hv
  refine ⟨existing, ?_, hsame⟩
  unfold Table.lookup at hlookup ⊢
  rw [List.find?_append, hlookup]
  rfl

theorem recordBar_holds (h : HoldsBar table bar) : recordBar table bar = .ok table := by
  obtain ⟨existing, hlookup, hsame⟩ := h
  simp only [recordBar, hlookup, assertUnchanged, hsame, if_true]
  rfl

theorem recordBar_ok (h : recordBar table bar = .ok table') :
    table <+: table' ∧ HoldsBar table' bar := by
  unfold recordBar at h
  cases hlookup : Table.lookup (·.barId) table bar.barId with
  | none =>
      simp only [hlookup] at h
      cases h
      exact ⟨List.prefix_append _ _, bar, Table.lookup_append_self hlookup, sameBar_self _⟩
  | some existing =>
      simp only [hlookup] at h
      obtain ⟨_, hsame, h⟩ := bind_ok h
      cases h
      unfold assertUnchanged at hsame
      split at hsame
      · rename_i hbar
        exact ⟨List.prefix_rfl, existing, hlookup, hbar⟩
      · cases hsame

theorem recordEach_ok (h : bars.foldlM recordBar table = .ok table') :
    table <+: table' ∧ ∀ bar ∈ bars, HoldsBar table' bar := by
  induction bars generalizing table with
  | nil =>
      cases h
      exact ⟨List.prefix_rfl, fun bar hbar => by cases hbar⟩
  | cons bar bars ih =>
      rw [List.foldlM_cons] at h
      obtain ⟨table₁, hbar, hrest⟩ := bind_ok h
      obtain ⟨hgrown, hholds⟩ := recordBar_ok hbar
      obtain ⟨hgrown', hall⟩ := ih hrest
      refine ⟨hgrown.trans hgrown', fun b hb => ?_⟩
      rcases List.mem_cons.mp hb with rfl | hb
      · exact hholds.mono hgrown'
      · exact hall b hb

theorem recordEach_holds (h : ∀ bar ∈ bars, HoldsBar table bar) :
    bars.foldlM recordBar table = .ok table := by
  induction bars with
  | nil => rfl
  | cons bar bars ih =>
      rw [List.foldlM_cons, recordBar_holds (h bar List.mem_cons_self)]
      exact ih fun b hb => h b (List.mem_cons_of_mem _ hb)

end

section

variable {ticks : List StoredTick} {bars : List MarketBar} {features : FeatureEvidence}
  {s s' v : RunStore}

/-- Ticks are inserted whole: none of their statements is refused. -/
theorem recordTicks_ok (table rows : List StoredTick) :
    ∃ n, MarketDataStore.recordWithin table ⟨rows, fun _ => none⟩
      = .ok (MarketDataStore.insertTicks table rows, n) := by
  have heq := recordWithin_eq table ⟨rows, fun _ => none⟩
  cases hrun : MarketDataStore.recordWithin table ⟨rows, fun _ => none⟩ with
  | ok out =>
      obtain ⟨table', n⟩ := out
      rw [hrun] at heq
      exact ⟨n, by rw [heq.2]⟩
  | error e =>
      rw [hrun] at heq
      simp [Batch.accepted] at heq

theorem observations_ok (h : observations ticks bars s = .ok s') :
    ∃ bars', bars.foldlM MarketDataStore.recordBar s.bars = .ok bars'
      ∧ s' = { s with ticks := MarketDataStore.insertTicks s.ticks ticks, bars := bars' } := by
  unfold observations transactionOf RunStore.recordMarketData at h
  obtain ⟨n, hticks⟩ := recordTicks_ok s.ticks ticks
  rw [hticks] at h
  unfold MarketDataStore.recordBars at h
  cases hbars : bars.foldlM MarketDataStore.recordBar s.bars with
  | error e =>
      rw [hbars] at h
      cases h
  | ok bars' =>
      rw [hbars] at h
      cases h
      exact ⟨bars', rfl, rfl⟩

theorem observations_of {bars' : List MarketBar}
    (h : bars.foldlM MarketDataStore.recordBar s.bars = .ok bars') :
    observations ticks bars s
      = .ok { s with ticks := MarketDataStore.insertTicks s.ticks ticks, bars := bars' } := by
  unfold observations transactionOf RunStore.recordMarketData
  obtain ⟨n, hticks⟩ := recordTicks_ok s.ticks ticks
  rw [hticks]
  unfold MarketDataStore.recordBars
  rw [h]
  rfl

theorem absorbing_observations : Absorbing (observations ticks bars) where
  grows := by
    intro s s' h
    obtain ⟨bars', hbars, rfl⟩ := observations_ok h
    exact ⟨List.prefix_rfl, List.prefix_rfl, Table.prefix_foldl_insertNew,
      (recordEach_ok hbars).1, List.prefix_rfl⟩
  settled := by
    intro s s' v h hv
    obtain ⟨bars', hbars, rfl⟩ := observations_ok h
    have hheld : ∀ bar ∈ bars, HoldsBar v.bars bar := fun bar hbar =>
      ((recordEach_ok hbars).2 bar hbar).mono hv.bars
    have hticks : MarketDataStore.insertTicks v.ticks ticks = v.ticks :=
      Table.foldl_insertNew_settled hv.ticks
    rw [observations_of (recordEach_holds hheld), hticks]

theorem absorbing_evidence : Absorbing (evidence features) where
  grows := by
    intro s s' h
    unfold evidence transactionOf RunStore.recordFeatures at h
    split at h
    · cases h
      exact ⟨List.prefix_rfl, List.prefix_rfl, List.prefix_rfl, List.prefix_rfl,
        Table.prefix_foldl_insertNew (l := [features])⟩
    · cases h
  settled := by
    intro s s' v h hv
    unfold evidence transactionOf RunStore.recordFeatures at h ⊢
    split at h
    · rename_i hcomputed
      cases h
      have hfeatures := Table.foldl_insertNew_settled (l := [features]) hv.features
      change Table.insertNew (·.featureSnapshotId) v.features features = v.features at hfeatures
      simp only [hcomputed, if_true, hfeatures]
      rfl
    · cases h

end

/-! ## What a recorder writes -/

/-- A piece of a run: the transactions it carries out, and how it ends. -/
structure CarriesOut {α : Type} (ts : List RunTransaction) (w : RunWorld) (x : Except PyError α)
    (w' : RunWorld) : Prop where
  cut : ∃ n, w'.store = (commit (ts.take n) w.store).1
  whole : ∀ a, x = .ok a → commit ts w.store = (w'.store, none)
  undisturbed : w.ends = [] → w'.ends = [] ∧ w'.store = (commit ts w.store).1
  refused : w.ends = [] → ∀ e, x = .error e → ∃ e', (commit ts w.store).2 = some e'

section

variable {α β : Type} {ts ts' : List RunTransaction} {w w₁ w₂ : RunWorld} {x : Except PyError α}
  {y : Except PyError β}

theorem take_add_append (n : Nat) : (ts ++ ts').take (ts.length + n) = ts ++ ts'.take n := by
  rw [List.take_append, List.take_of_length_le (Nat.le_add_right ..), Nat.add_sub_cancel_left]

theorem take_min_append (n : Nat) : (ts ++ ts').take (min n ts.length) = ts.take n := by
  rw [List.take_append_of_le_length (Nat.min_le_right ..)]
  exact List.take_eq_take_min.symm

theorem CarriesOut.nothing (a : α) : CarriesOut [] w (.ok a) w where
  cut := ⟨0, rfl⟩
  whole := fun _ _ => rfl
  undisturbed := fun h => ⟨h, rfl⟩
  refused := fun _ e h => by cases h

theorem CarriesOut.returning (h : CarriesOut ts w x w₁) {a : α} (hx : x = .ok a) (b : β) :
    CarriesOut ts w (.ok b : Except PyError β) w₁ where
  cut := h.cut
  whole := fun _ _ => h.whole a hx
  undisturbed := h.undisturbed
  refused := fun _ e he => by cases he

theorem CarriesOut.raising (h : CarriesOut ts w x w₁) {e : PyError} (hx : x = .error e) :
    CarriesOut ts w (.error e : Except PyError β) w₁ where
  cut := h.cut
  whole := fun _ hb => by cases hb
  undisturbed := h.undisturbed
  refused := fun hw _ _ => h.refused hw e hx

/-- One transaction. -/
theorem carries_transact (statements : RunStore → Except PyError (RunStore × α)) :
    CarriesOut [transactionOf statements] w (w.transact statements).1 (w.transact statements).2 := by
  unfold RunWorld.transact
  cases hrun : statements w.store with
  | error e =>
      have hcommit : commit [transactionOf statements] w.store = (w.store, some e) := by
        simp [commit, transactionOf, hrun, Except.map]
      refine ⟨⟨0, rfl⟩, fun a ha => ?_, fun hw => ⟨?_, ?_⟩, fun _ e' _ => ⟨e, ?_⟩⟩
      · cases ha
      · simp [hw]
      · rw [hcommit]
      · rw [hcommit]
  | ok out =>
      obtain ⟨store', a⟩ := out
      have hcommit : commit [transactionOf statements] w.store = (store', none) := by
        simp [commit, transactionOf, hrun, Except.map]
      cases hends : w.ends with
      | nil =>
          refine ⟨⟨1, ?_⟩, fun _ _ => hcommit, fun _ => ⟨rfl, ?_⟩, fun _ e he => by cases he⟩
          · change store' = _
            rw [List.take_of_length_le (by simp), hcommit]
          · rw [hcommit]
      | cons outcome rest =>
          have hdisturbed : ¬ outcome :: rest = [] := by simp
          cases outcome with
          | commits =>
              refine ⟨⟨1, ?_⟩, fun _ _ => hcommit, fun hw => absurd (hends ▸ hw) hdisturbed,
                fun _ e he => by cases he⟩
              change store' = _
              rw [List.take_of_length_le (by simp), hcommit]
          | fails e =>
              exact ⟨⟨0, rfl⟩, fun _ ha => (by cases ha),
                fun hw => absurd (hends ▸ hw) hdisturbed,
                fun hw => absurd (hends ▸ hw) hdisturbed⟩
          | unconfirmed e =>
              refine ⟨⟨1, ?_⟩, fun _ ha => (by cases ha),
                fun hw => absurd (hends ▸ hw) hdisturbed,
                fun hw => absurd (hends ▸ hw) hdisturbed⟩
              change store' = _
              rw [List.take_of_length_le (by simp), hcommit]

/-- One piece after the other. -/
theorem CarriesOut.andThen (h : CarriesOut ts w x w₁) {a : α} (hx : x = .ok a)
    (h' : CarriesOut ts' w₁ y w₂) : CarriesOut (ts ++ ts') w y w₂ where
  cut := by
    obtain ⟨n, hn⟩ := h'.cut
    refine ⟨ts.length + n, ?_⟩
    rw [hn, take_add_append, commit_append_none (h.whole a hx)]
  whole := fun b hb => by
    rw [commit_append_none (h.whole a hx)]
    exact h'.whole b hb
  undisturbed := fun hw => by
    obtain ⟨hw₁, -⟩ := h.undisturbed hw
    rw [commit_append_none (h.whole a hx)]
    exact h'.undisturbed hw₁
  refused := fun hw e he => by
    obtain ⟨hw₁, -⟩ := h.undisturbed hw
    rw [commit_append_none (h.whole a hx)]
    exact h'.refused hw₁ e he

/-- Where a piece raises, nothing that would have followed it happens. -/
theorem CarriesOut.cutOff (h : CarriesOut ts w x w₁) {e : PyError} (hx : x = .error e) :
    CarriesOut (ts ++ ts') w x w₁ where
  cut := by
    obtain ⟨n, hn⟩ := h.cut
    refine ⟨min n ts.length, ?_⟩
    rw [hn, take_min_append]
  whole := fun a ha => by
    rw [hx] at ha
    cases ha
  undisturbed := fun hw => by
    obtain ⟨e', he'⟩ := h.refused hw e hx
    have hcommit : commit ts w.store = ((commit ts w.store).1, some e') := by rw [← he']
    obtain ⟨hends, hstore⟩ := h.undisturbed hw
    rw [commit_append_some hcommit]
    exact ⟨hends, hstore⟩
  refused := fun hw e he => by
    obtain ⟨e', he'⟩ := h.refused hw e he
    have hcommit : commit ts w.store = ((commit ts w.store).1, some e') := by rw [← he']
    exact ⟨e', by rw [commit_append_some hcommit]⟩

end

section

variable [Externals] [ModelDump]

namespace RecorderBuffer

variable (b : RecorderBuffer)

/-- The observations held back, as a transaction if there are any. -/
def marketTransactions : List RunTransaction :=
  if b.pendingTicks = [] ∧ b.pendingBars = [] then []
  else [observations b.pendingTicks b.pendingBars]

def observed (tick : StoredTick) (bar : Option MarketBar) : RecorderBuffer :=
  { b with pendingTicks := b.pendingTicks ++ [tick], pendingBars := b.pendingBars ++ bar.toList }

def withoutMarketData : RecorderBuffer := { b with pendingTicks := [], pendingBars := [] }

def withoutEvents : RecorderBuffer := { b with pending := [] }

/-- The transactions of a call, and what is held back after it; nothing after one that raises
before it writes. -/
def plan (b : RecorderBuffer) : RecorderCall → List RunTransaction × Option RecorderBuffer
  | .observe tick bar =>
      if marketDataBatch ≤ (b.observed tick bar).pendingTicks.length then
        ((b.observed tick bar).marketTransactions, some (b.observed tick bar).withoutMarketData)
      else ([], some (b.observed tick bar))
  | .recordFeatures features => ([evidence features], some b)
  | .record payload correlationId occurredAtUtc source =>
      ([], (b.record payload correlationId occurredAtUtc source).toOption)
  | .seal capsule =>
      match b.record (.decisionCapsule capsule) capsule.correlationId capsule.occurredAtUtc
          "orchestration" with
      | .error _ => ([], none)
      | .ok noted => ([sealing noted.pending capsule], some noted.withoutEvents)
  | .flush =>
      (b.marketTransactions ++ if b.pending = [] then [] else [appending b.pending],
        some b.withoutMarketData.withoutEvents)

/-- The transactions of a run. -/
def planAll : RecorderBuffer → List RecorderCall → List RunTransaction
  | _, [] => []
  | b, c :: calls => (b.plan c).1 ++ ((b.plan c).2.map fun b' => planAll b' calls).getD []

end RecorderBuffer

/-- A recorder's method does what is planned. -/
structure Performs (plan : List RunTransaction × Option RecorderBuffer) (w : RunWorld)
    (step : RecorderStep) : Prop where
  carries : (∃ e, step.1 = .error e ∧ plan = ([], none) ∧ step.2 = w)
    ∨ CarriesOut plan.1 w step.1 step.2
  after : ∀ r, step.1 = .ok r → plan.2 = some r.toRecorderBuffer

variable {r : JournalRecorder} {w : RunWorld}

omit [Externals] [ModelDump] in
theorem carries_flushMarketData : CarriesOut r.marketTransactions w (r.flushMarketData w).1
    (r.flushMarketData w).2 ∧ ∀ r', (r.flushMarketData w).1 = .ok r' →
      r'.toRecorderBuffer = r.withoutMarketData := by
  unfold JournalRecorder.flushMarketData RecorderBuffer.marketTransactions
  split
  · rename_i hempty
    refine ⟨.nothing r, fun r' hr' => ?_⟩
    cases hr'
    obtain ⟨⟨⟩⟩ := r
    obtain ⟨rfl, rfl⟩ := hempty
    rfl
  · have hcarries := carries_transact (w := w)
      (RunStore.recordMarketData r.pendingTicks r.pendingBars)
    rcases htransact : w.transact (RunStore.recordMarketData r.pendingTicks r.pendingBars) with
      ⟨e | ⟨ticksInserted, barsInserted⟩, w'⟩
    · rw [htransact] at hcarries
      exact ⟨hcarries.raising rfl, fun r' hr' => by cases hr'⟩
    · rw [htransact] at hcarries
      refine ⟨hcarries.returning rfl _, fun r' hr' => ?_⟩
      cases hr'
      rfl

theorem performs_observe {tick : StoredTick} {bar : Option MarketBar} :
    Performs (r.plan (.observe tick bar)) w (r.observe tick bar w) := by
  unfold JournalRecorder.observe RecorderBuffer.plan
  let noted : JournalRecorder := { r with toRecorderBuffer := r.observed tick bar }
  change Performs (if marketDataBatch ≤ noted.pendingTicks.length then
      (noted.marketTransactions, some noted.withoutMarketData) else ([], some (r.observed tick bar)))
    w (if marketDataBatch ≤ noted.pendingTicks.length then noted.flushMarketData w
      else (.ok noted, w))
  split
  · obtain ⟨hcarries, hafter⟩ := carries_flushMarketData (r := noted) (w := w)
    exact ⟨.inr hcarries, fun r' hr' => by rw [hafter r' hr']⟩
  · refine ⟨.inr (.nothing noted), fun r' hr' => ?_⟩
    cases hr'
    rfl

theorem performs_recordFeatures {features : FeatureEvidence} :
    Performs (r.plan (.recordFeatures features)) w (r.recordFeatures features w) := by
  unfold JournalRecorder.recordFeatures RecorderBuffer.plan
  have hcarries := carries_transact (w := w)
    fun s => (RunStore.recordFeatures features s).map fun s' => (s', ())
  rcases htransact : w.transact
    (fun s => (RunStore.recordFeatures features s).map fun s' => (s', ())) with ⟨e | ⟨⟩, w'⟩
  · rw [htransact] at hcarries
    exact ⟨.inr (hcarries.raising rfl), fun r' hr' => by cases hr'⟩
  · rw [htransact] at hcarries
    refine ⟨.inr (hcarries.returning rfl r), fun r' hr' => ?_⟩
    cases hr'
    rfl

theorem performs_record {payload : RunPayload} {correlationId : Uuid}
    {occurredAtUtc : UtcDatetime} {source : String} :
    Performs (r.plan (.record payload correlationId occurredAtUtc source)) w
      (r.record payload correlationId occurredAtUtc source, w) := by
  have hplan : r.plan (.record payload correlationId occurredAtUtc source)
      = ([], (r.toRecorderBuffer.record payload correlationId occurredAtUtc source).toOption) := rfl
  unfold JournalRecorder.record
  rw [hplan]
  cases hrecord : r.toRecorderBuffer.record payload correlationId occurredAtUtc source with
  | error e => exact ⟨.inl ⟨e, rfl, rfl, rfl⟩, fun r' hr' => by cases hr'⟩
  | ok noted =>
      refine ⟨.inr (.nothing _), fun r' hr' => ?_⟩
      cases hr'
      rfl

theorem performs_seal {capsule : RunCapsule} :
    Performs (r.plan (.seal capsule)) w (r.seal capsule w) := by
  unfold JournalRecorder.seal RecorderBuffer.plan JournalRecorder.record
  cases hrecord : r.toRecorderBuffer.record (.decisionCapsule capsule) capsule.correlationId
    capsule.occurredAtUtc "orchestration" with
  | error e =>
      exact ⟨.inl ⟨e, rfl, by simp only [hrecord], rfl⟩, fun r' hr' => by cases hr'⟩
  | ok noted =>
      have hcarries := carries_transact (w := w)
        fun s => .ok (RunStore.seal noted.pending capsule s, ())
      simp only [hrecord, bind, Except.bind, pure, Except.pure]
      rcases htransact : w.transact (fun s => .ok (RunStore.seal noted.pending capsule s, ()))
        with ⟨e | ⟨⟩, w'⟩
      · rw [htransact] at hcarries
        exact ⟨.inr (hcarries.raising rfl), fun r' hr' => by cases hr'⟩
      · rw [htransact] at hcarries
        refine ⟨.inr (hcarries.returning rfl _), fun r' hr' => ?_⟩
        cases hr'
        rfl

theorem performs_flush : Performs (r.plan .flush) w (r.flush w) := by
  unfold JournalRecorder.flush RecorderBuffer.plan
  obtain ⟨hmarket, hafter⟩ := carries_flushMarketData (r := r) (w := w)
  rcases hflush : r.flushMarketData w with ⟨e | flushed, w'⟩
  · rw [hflush] at hmarket
    exact ⟨.inr (hmarket.cutOff rfl), fun r' hr' => by cases hr'⟩
  · rw [hflush] at hmarket hafter
    have hbuffer := hafter flushed rfl
    have hpending : flushed.pending = r.pending := by
      rw [hbuffer]
      rfl
    simp only
    rw [← hpending]
    split
    · rename_i hnone
      refine ⟨.inr (hmarket.andThen rfl (.nothing flushed)), fun r' hr' => ?_⟩
      cases hr'
      rw [hbuffer]
      rw [hpending] at hnone
      simp only [RecorderBuffer.withoutEvents, RecorderBuffer.withoutMarketData, hnone]
    · have hcarries := carries_transact (w := w')
        fun s => .ok (RunStore.append flushed.pending s, ())
      rcases htransact : w'.transact (fun s => .ok (RunStore.append flushed.pending s, ()))
        with ⟨e | ⟨⟩, w''⟩
      · rw [htransact] at hcarries
        exact ⟨.inr (hmarket.andThen rfl (hcarries.raising rfl)), fun r' hr' => by cases hr'⟩
      · rw [htransact] at hcarries
        refine ⟨.inr (hmarket.andThen rfl (hcarries.returning rfl _)), fun r' hr' => ?_⟩
        cases hr'
        rw [← hbuffer]
        rfl

/-- **Every call carries out its plan.** -/
theorem performs (c : RecorderCall) : Performs (r.plan c) w (r.perform w c) := by
  cases c with
  | observe tick bar => exact performs_observe
  | recordFeatures features => exact performs_recordFeatures
  | record payload correlationId occurredAtUtc source => exact performs_record
  | «seal» capsule => exact performs_seal
  | flush => exact performs_flush

/-! ## The run as a whole -/

theorem planAll_cons {b : RecorderBuffer} {c : RecorderCall} {calls : List RecorderCall} :
    b.planAll (c :: calls)
      = (b.plan c).1 ++ ((b.plan c).2.map fun b' => b'.planAll calls).getD [] := rfl

/-- A run carries out a first part of what is planned; undisturbed, all of it. -/
theorem performAll_carries (calls : List RecorderCall) :
    (∃ n, (r.performAll w calls).2.store = (commit ((r.planAll calls).take n) w.store).1)
      ∧ (w.ends = [] →
        (r.performAll w calls).2.store = (commit (r.planAll calls) w.store).1) := by
  induction calls generalizing r w with
  | nil => exact ⟨⟨0, rfl⟩, fun _ => rfl⟩
  | cons c calls ih =>
      obtain ⟨hcarries, hafter⟩ := performs (r := r) (w := w) c
      rcases hstep : r.perform w c with ⟨e | r', w'⟩
      · simp only [JournalRecorder.performAll, hstep]
        rw [hstep] at hcarries
        rcases hcarries with ⟨e', -, hplan, hw⟩ | hcarries
        · -- it raised before it wrote anything
          have hnone : r.planAll (c :: calls) = [] := by
            rw [planAll_cons, hplan]
            rfl
          rw [hnone]
          exact ⟨⟨0, congrArg RunWorld.store hw⟩, fun _ => congrArg RunWorld.store hw⟩
        · rw [planAll_cons]
          generalize ((r.plan c).2.map fun b' => b'.planAll calls).getD [] = rest
          have hcut : CarriesOut ((r.plan c).1 ++ rest) w _ w' := hcarries.cutOff rfl
          exact ⟨hcut.cut, fun hw => (hcut.undisturbed hw).2⟩
      · simp only [JournalRecorder.performAll, hstep]
        rw [hstep] at hcarries hafter
        rcases hcarries with ⟨e', he', -⟩ | hcarries
        · cases he'
        have hplan : r.planAll (c :: calls) = (r.plan c).1 ++ r'.planAll calls := by
          rw [planAll_cons, hafter r' rfl]
          rfl
        obtain ⟨⟨n, hn⟩, hrest⟩ := ih (r := r') (w := w')
        have hwhole := hcarries.whole r' rfl
        rw [hplan]
        refine ⟨⟨(r.plan c).1.length + n, ?_⟩, fun hw => ?_⟩
        · rw [take_add_append, commit_append_none hwhole]
          exact hn
        · rw [commit_append_none hwhole]
          exact hrest (hcarries.undisturbed hw).1

/-- What is planned for the first calls of a run is planned for the run. -/
theorem planAll_take (b : RecorderBuffer) (calls : List RecorderCall) (k : Nat) :
    b.planAll (calls.take k) <+: b.planAll calls := by
  induction calls generalizing b k with
  | nil =>
      rw [List.take_nil]
  | cons c calls ih =>
      cases k with
      | zero => exact List.nil_prefix
      | succ k =>
          rw [List.take_succ_cons, planAll_cons, planAll_cons]
          refine (List.prefix_append_right_inj _).mpr ?_
          cases (b.plan c).2 with
          | none => exact List.prefix_rfl
          | some b' => exact ih b' k

omit [Externals] [ModelDump] in
theorem absorbing_marketTransactions {b : RecorderBuffer} {t : RunTransaction}
    (h : t ∈ b.marketTransactions) : Absorbing t := by
  unfold RecorderBuffer.marketTransactions at h
  split at h
  · cases h
  · obtain rfl := List.mem_singleton.mp h
    exact absorbing_observations

theorem absorbing_plan {b : RecorderBuffer} {c : RecorderCall} {t : RunTransaction}
    (h : t ∈ (b.plan c).1) : Absorbing t := by
  unfold RecorderBuffer.plan at h
  cases c with
  | observe tick bar =>
      dsimp only at h
      split at h
      · exact absorbing_marketTransactions h
      · cases h
  | recordFeatures features =>
      obtain rfl := List.mem_singleton.mp h
      exact absorbing_evidence
  | record payload correlationId occurredAtUtc source => cases h
  | «seal» capsule =>
      dsimp only at h
      split at h
      · cases h
      · obtain rfl := List.mem_singleton.mp h
        exact absorbing_sealing
  | flush =>
      rcases List.mem_append.mp h with h | h
      · exact absorbing_marketTransactions h
      · split at h
        · cases h
        · obtain rfl := List.mem_singleton.mp h
          exact absorbing_appending

theorem absorbing_planAll {b : RecorderBuffer} {calls : List RecorderCall} :
    ∀ t ∈ b.planAll calls, Absorbing t := by
  induction calls generalizing b with
  | nil => intro t h; cases h
  | cons c calls ih =>
      intro t h
      rw [planAll_cons] at h
      rcases List.mem_append.mp h with h | h
      · exact absorbing_plan h
      · cases hafter : (b.plan c).2 with
        | none =>
            rw [hafter] at h
            cases h
        | some b' =>
            rw [hafter] at h
            exact ih t h

/-- An attempt commits a first part of what is planned. -/
theorem leaves_eq (environment : Environment) (calls : List RecorderCall) (store : RunStore)
    (a : Attempt) : ∃ n, a.leaves environment calls store
      = (commit (((JournalRecorder.create environment).planAll calls).take n) store).1 := by
  unfold Attempt.leaves
  obtain ⟨⟨n, hn⟩, -⟩ := performAll_carries (r := JournalRecorder.create environment)
    (w := ⟨store, a.ends⟩) (calls.take a.calls)
  obtain ⟨rest, hrest⟩ :=
    planAll_take (JournalRecorder.create environment).toRecorderBuffer calls a.calls
  refine ⟨min n ((JournalRecorder.create environment).planAll (calls.take a.calls)).length, ?_⟩
  rw [hn, ← hrest, take_min_append]

/-- Every call is made, and every transaction commits. -/
def Attempt.undisturbed (calls : List RecorderCall) : Attempt := ⟨calls.length, []⟩

/-- Nothing stops an undisturbed attempt but what is planned. -/
theorem undisturbed_leaves (environment : Environment) (calls : List RecorderCall)
    (store : RunStore) : (Attempt.undisturbed calls).leaves environment calls store
      = (commit ((JournalRecorder.create environment).planAll calls) store).1 := by
  have hrun := (performAll_carries (r := JournalRecorder.create environment)
    (w := ⟨store, []⟩) (calls.take calls.length)).2 rfl
  rw [List.take_length] at hrun
  unfold Attempt.leaves Attempt.undisturbed
  rw [List.take_length]
  exact hrun

/-- Attempts one after the other each commit some first part of what is planned. -/
theorem attempts_commit (environment : Environment) (calls : List RecorderCall)
    (attempts : List Attempt) (store : RunStore) :
    ∃ ns : List Nat, attempts.foldl (fun s a => a.leaves environment calls s) store
      = ns.foldl (fun s n =>
          (commit (((JournalRecorder.create environment).planAll calls).take n) s).1) store := by
  induction attempts generalizing store with
  | nil => exact ⟨[], rfl⟩
  | cons a attempts ih =>
      obtain ⟨n, hn⟩ := leaves_eq environment calls store a
      obtain ⟨ns, hns⟩ := ih (a.leaves environment calls store)
      exact ⟨n :: ns, by rw [List.foldl_cons, List.foldl_cons, hns, hn]⟩

/-- **A run that was started again leaves what an undisturbed run leaves.** However often it was
started before, how far it got and what became of its transactions, once it gets to its end the
stores hold the same rows in the same order; and to run it once more changes nothing. -/
theorem replay_resumed (environment : Environment) (calls : List RecorderCall)
    (store : RunStore) (attempts : List Attempt) :
    (Attempt.undisturbed calls).leaves environment calls
        (attempts.foldl (fun s a => a.leaves environment calls s) store)
      = (Attempt.undisturbed calls).leaves environment calls store := by
  obtain ⟨ns, hns⟩ := attempts_commit environment calls attempts store
  rw [undisturbed_leaves, undisturbed_leaves, hns, commit_resumed absorbing_planAll]

end

end Crumblr
