import Crumblr.Persistence.InstrumentSpecs
import Crumblr.Proof.AtMostOnce

/-!
# Which specification is in force

A query should return what sizing would read off the observation made last. It does
as long as each observation is stored, or already is what the newest row says: one
that brings back an older version, or a new tick value under a version on record,
leaves no trace, and the queries go on naming a specification that was replaced.
-/

namespace Crumblr

/-- Two specifications are one for sizing: equal, as values, in all it reads. -/
structure InstrumentSpec.SizesAs (s s' : InstrumentSpec) : Prop where
  brokerSymbol : s.brokerSymbol = s'.brokerSymbol
  point : s.point.val.compare s'.point.val = .eq
  tickSize : s.tickSize.val.compare s'.tickSize.val = .eq
  tickValue : s.tickValue.val.compare s'.tickValue.val = .eq
  volumeMin : s.volumeMin.val.compare s'.volumeMin.val = .eq
  volumeMax : s.volumeMax.val.compare s'.volumeMax.val = .eq
  volumeStep : s.volumeStep.val.compare s'.volumeStep.val = .eq
  stopsLevel : s.stopsLevel = s'.stopsLevel

theorem InstrumentSpec.SizesAs.refl (s : InstrumentSpec) : s.SizesAs s := by
  constructor <;> simp [Decimal.compare_eq]

namespace InstrumentSpecs

open InstrumentSpec (SizesAs)

variable {rows : InstrumentSpecs} {xs : List InstrumentSpec} {spec row : InstrumentSpec}
  {symbol : String} {bound : Option UtcDatetime}

/-- The last observation of a symbol, among those captured by a time if one is given. -/
def lastObserved (xs : List InstrumentSpec) (canonicalSymbol : String)
    (bound : Option UtcDatetime) : Option InstrumentSpec :=
  (observed xs canonicalSymbol bound).getLast?

/-- The queries tell what was observed last, in whichever order the database returns
rows captured at one time. -/
def InForce [Externals] (xs : List InstrumentSpec) : Prop :=
  ∀ (order : NewestFirst) (canonicalSymbol : String),
    Option.Rel SizesAs (latest order (recordAll xs) canonicalSymbol)
      (lastObserved xs canonicalSymbol none)
    ∧ ∀ t, Option.Rel SizesAs (atOrBefore order (recordAll xs) canonicalSymbol t)
      (lastObserved xs canonicalSymbol (some t))

/-- Recording `spec` leaves its symbol's newest rows sizing as it does: they already do, when
its version is on record; when it is not, its own row is the newest, or one of several that
size alike. -/
def Accounts [Externals] (rows : InstrumentSpecs) (spec : InstrumentSpec) : Prop :=
  if ∃ row ∈ rows, row.specVersion = spec.specVersion then
    rows.observed spec.canonicalSymbol none ≠ []
      ∧ ∀ row, Newest (rows.observed spec.canonicalSymbol none) row → SizesAs row spec
  else
    ∀ row ∈ rows.observed spec.canonicalSymbol none,
      spec.capturedAtUtc ≤ row.capturedAtUtc → SizesAs row spec

/-! ## Queries -/

/-- A database that returns the row inserted last, of several captured at one time. -/
def NewestFirst.lastInserted : NewestFirst where
  first := Table.latest (·.capturedAtUtc)
  empty _ := Table.latest_eq_none
  newest _ _ h := ⟨(Table.latest_eq_some.mp h).mem, fun _ hx => (Table.latest_eq_some.mp h).le hx⟩

/-- What a worker asks of its database is one of these queries. -/
theorem latestSpec_eq {db : Database} :
    db.latestSpec symbol = latest .lastInserted db.instrumentSpecs symbol := by
  unfold Database.latestSpec latest observed
  simp only [NewestFirst.lastInserted, Table.latest, Option.mem_def, reduceCtorEq,
    false_implies, implies_true, and_true]
  congr 1
  funext best s
  cases best <;> rfl

/-- There is a newest row whenever there is a row. -/
theorem exists_newest (h : rows ≠ []) : ∃ row, Newest rows row := by
  cases hl : NewestFirst.lastInserted.first rows with
  | none => exact absurd ((NewestFirst.lastInserted.empty rows).mp hl) h
  | some row => exact ⟨row, NewestFirst.lastInserted.newest rows row hl⟩

open Classical in
/-- A database that returns a given row first where it may. -/
noncomputable def NewestFirst.preferring (row : InstrumentSpec) : NewestFirst where
  first rows := if Newest rows row then some row else NewestFirst.lastInserted.first rows
  empty rows := by
    split
    · rename_i h
      constructor
      · intro hnone
        cases hnone
      · rintro rfl
        cases h.1
    · exact NewestFirst.lastInserted.empty rows
  newest rows row' h := by
    split at h
    · rename_i hrow
      cases h
      exact hrow
    · exact NewestFirst.lastInserted.newest rows row' h

theorem NewestFirst.preferring_first (h : Newest rows row) :
    (preferring row).first rows = some row := by
  simp [preferring, h]

/-- **What a query owes, whatever order the database keeps**: a row when there was an
observation, and every row it may return sizes as the last one. -/
def Tells (rows : InstrumentSpecs) : Option InstrumentSpec → Prop
  | none => rows = []
  | some spec => rows ≠ [] ∧ ∀ row, Newest rows row → SizesAs row spec

theorem tells_iff {last : Option InstrumentSpec} :
    Tells rows last ↔ ∀ order : NewestFirst, Option.Rel SizesAs (order.first rows) last := by
  constructor
  · intro h order
    cases last with
    | none =>
        rw [(order.empty rows).mpr h]
        exact .none
    | some spec =>
        obtain ⟨hne, hall⟩ := h
        cases hf : order.first rows with
        | none => exact absurd ((order.empty rows).mp hf) hne
        | some row => exact .some (hall row (order.newest rows row hf))
  · intro h
    cases last with
    | none =>
        by_contra hne
        obtain ⟨row, hrow⟩ := exists_newest hne
        have hrel := h (.preferring row)
        rw [NewestFirst.preferring_first hrow] at hrel
        cases hrel
    | some spec =>
        refine ⟨?_, fun row hrow => ?_⟩
        · rintro rfl
          obtain ⟨order⟩ : Nonempty NewestFirst := ⟨.preferring spec⟩
          have hrel := h order
          rw [(order.empty []).mpr rfl] at hrel
          cases hrel
        · have hrel := h (.preferring row)
          rw [NewestFirst.preferring_first hrow] at hrel
          cases hrel
          assumption

/-- The queries are in force when each of them tells the last observation in its range. -/
theorem inForce_iff [Externals] :
    InForce xs ↔ ∀ symbol bound,
      Tells ((recordAll xs).observed symbol bound) (lastObserved xs symbol bound) := by
  unfold InForce latest atOrBefore
  constructor
  · intro h symbol bound
    refine tells_iff.mpr fun order => ?_
    cases bound with
    | none => exact (h order symbol).1
    | some t => exact (h order symbol).2 t
  · exact fun h order symbol => ⟨tells_iff.mp (h symbol none) order,
      fun t => tells_iff.mp (h symbol (some t)) order⟩

/-! ## One observation -/

theorem observed_concat : observed (rows ++ [spec]) symbol bound
    = if spec.canonicalSymbol = symbol ∧ ∀ t ∈ bound, spec.capturedAtUtc ≤ t
        then observed rows symbol bound ++ [spec] else observed rows symbol bound := by
  unfold observed
  rw [List.filter_append, List.filter_cons, List.filter_nil]
  simp only [decide_eq_true_eq]
  split
  · rfl
  · rw [List.append_nil]

/-- Of rows captured by the time of an observation, every one is in a range it is in. -/
theorem observed_of_captured (hrows : ∀ r ∈ rows, r.capturedAtUtc ≤ spec.capturedAtUtc)
    (hspec : ∀ t ∈ bound, spec.capturedAtUtc ≤ t) :
    observed rows symbol bound = observed rows symbol none := by
  unfold observed
  refine List.filter_congr fun r hr => ?_
  have hbound : ∀ t ∈ bound, r.capturedAtUtc ≤ t := fun t ht => (hrows r hr).trans (hspec t ht)
  simp only [decide_eq_decide]
  exact and_congr_right fun _ => ⟨fun _ => by simp, fun _ => hbound⟩

/-- **One observation.** After one that was captured no earlier than any before it, every
query tells the last observation exactly when the observation is accounted for. -/
theorem tells_concat [Externals] (hmono : ∀ y ∈ xs, y.capturedAtUtc ≤ spec.capturedAtUtc)
    (hxs : InForce xs) : InForce (xs ++ [spec]) ↔ Accounts (recordAll xs) spec := by
  have hrows : ∀ r ∈ recordAll xs, r.capturedAtUtc ≤ spec.capturedAtUtc :=
    fun r hr => hmono r (mem_recordAll hr)
  rw [inForce_iff] at hxs ⊢
  have hlast : ∀ {symbol bound}, spec.canonicalSymbol = symbol →
      (∀ t ∈ bound, spec.capturedAtUtc ≤ t) →
      lastObserved (xs ++ [spec]) symbol bound = some spec := by
    intro symbol bound hsymbol hbound
    unfold lastObserved
    rw [observed_concat, if_pos ⟨hsymbol, hbound⟩]
    simp
  unfold Accounts
  constructor
  · intro h
    have htells := h spec.canonicalSymbol none
    rw [hlast rfl (by simp), recordAll_concat] at htells
    obtain ⟨hne, hall⟩ := htells
    rcases record_cases (recordAll xs) spec with ⟨hnew, he⟩ | ⟨hold, he⟩
    · rw [if_neg (by simpa using hnew)]
      intro row hrow hle
      rw [he, observed_concat, if_pos ⟨rfl, by simp⟩] at hall
      refine hall row ⟨List.mem_append_left _ hrow, fun y hy => ?_⟩
      rcases List.mem_append.mp hy with hy | hy
      · exact (hrows y (mem_observed.mp hy).1).trans hle
      · rw [List.mem_singleton.mp hy]
        exact hle
    · rw [if_pos hold]
      rw [he] at hne hall
      exact ⟨hne, hall⟩
  · intro h symbol bound
    by_cases hin : spec.canonicalSymbol = symbol ∧ ∀ t ∈ bound, spec.capturedAtUtc ≤ t
    · obtain ⟨rfl, hbound⟩ := hin
      rw [hlast rfl hbound, recordAll_concat]
      rcases record_cases (recordAll xs) spec with ⟨hnew, he⟩ | ⟨hold, he⟩
      · rw [if_neg (by simpa using hnew)] at h
        rw [he, observed_concat, if_pos ⟨rfl, hbound⟩, observed_of_captured hrows hbound]
        refine ⟨by simp, fun row hrow => ?_⟩
        have hle : spec.capturedAtUtc ≤ row.capturedAtUtc := hrow.2 spec (by simp)
        rcases List.mem_append.mp hrow.1 with hmem | hmem
        · exact h row hmem hle
        · rw [List.mem_singleton.mp hmem]
          exact .refl spec
      · rw [if_pos hold] at h
        rw [he, observed_of_captured hrows hbound]
        exact h
    · -- out of the query's range, the observation is neither stored there nor asked for
      have hkeep : lastObserved (xs ++ [spec]) symbol bound = lastObserved xs symbol bound := by
        unfold lastObserved
        rw [observed_concat, if_neg hin]
      rw [hkeep, recordAll_concat]
      rcases record_cases (recordAll xs) spec with ⟨-, he⟩ | ⟨-, he⟩
      · rw [he, observed_concat, if_neg hin]
        exact hxs symbol bound
      · rw [he]
        exact hxs symbol bound

theorem inForce_nil [Externals] : InForce [] := by
  rw [inForce_iff]
  intro symbol bound
  simp [recordAll, lastObserved, observed, Tells]

end InstrumentSpecs

/-- **The specification in force.** In every run of observations captured one after another,
the queries tell the last one after each of them exactly when each is accounted for. -/
theorem specification_in_force [Externals] {xs : List InstrumentSpec}
    (hmono : xs.Pairwise fun s s' => s.capturedAtUtc ≤ s'.capturedAtUtc) :
    (∀ ys, ys <+: xs → InstrumentSpecs.InForce ys)
      ↔ ∀ ys spec, ys ++ [spec] <+: xs →
          InstrumentSpecs.Accounts (InstrumentSpecs.recordAll ys) spec := by
  have hlater : ∀ {ys spec}, ys ++ [spec] <+: xs →
      ∀ y ∈ ys, y.capturedAtUtc ≤ spec.capturedAtUtc := by
    intro ys spec hys y hy
    have hpair := hmono.sublist hys.sublist
    exact (List.pairwise_append.mp hpair).2.2 y hy spec (by simp)
  constructor
  · intro h ys spec hys
    have hprefix : ys <+: xs := (List.prefix_append ys [spec]).trans hys
    exact (InstrumentSpecs.tells_concat (hlater hys) (h ys hprefix)).mp (h _ hys)
  · intro h ys
    induction ys using List.reverseRecOn with
    | nil => exact fun _ => InstrumentSpecs.inForce_nil
    | append_singleton ys spec ih =>
        intro hys
        have hprefix : ys <+: xs := (List.prefix_append ys [spec]).trans hys
        exact (InstrumentSpecs.tells_concat (hlater hys) (ih hprefix)).mpr (h ys spec hys)

/-! ## A broker that changes its mind -/

namespace Sample

/-- Half the volume steps, from noon on. -/
def finer : InstrumentSpec :=
  { spec with volumeStep := ⟨⟨5, -3⟩, by decide⟩, capturedAtUtc := noon, volumeBounds := by decide }

/-- The old specification again, an hour later. -/
def restored : InstrumentSpec := { spec with capturedAtUtc := noon + hours 1 }

theorem recordAll_spec : InstrumentSpecs.recordAll [spec] = [spec] := by
  simp [InstrumentSpecs.recordAll, InstrumentSpecs.record, Table.insert?, Table.lookup]

theorem recordAll_restored : InstrumentSpecs.recordAll [spec, finer, restored] = [spec, finer] := by
  have hfiner : InstrumentSpecs.record [spec] finer = [spec, finer] := by
    rcases InstrumentSpecs.record_cases [spec] finer with ⟨-, he⟩ | ⟨⟨row, hrow, hv⟩, -⟩
    · exact he
    · rw [List.mem_singleton.mp hrow] at hv
      exact absurd hv (by decide +kernel)
  have hall : InstrumentSpecs.recordAll [spec, finer, restored]
      = InstrumentSpecs.record (InstrumentSpecs.record (InstrumentSpecs.record [] spec) finer)
          restored := by
    simp only [InstrumentSpecs.recordAll, List.foldl_cons, List.foldl_nil]
  have hfirst : InstrumentSpecs.record [] spec = [spec] := recordAll_spec
  rw [hall, hfirst, hfiner]
  rcases InstrumentSpecs.record_cases [spec, finer] restored with ⟨hnew, -⟩ | ⟨-, he⟩
  · exact absurd rfl (hnew spec (List.mem_cons_self ..))
  · exact he

end Sample

open Sample in
/-- The queries do not always tell the last observation: a broker goes back to its old
volume steps, and the finer ones stay in force. -/
theorem restored_never_in_force : ¬ ∀ xs : List InstrumentSpec,
    xs.Pairwise (fun s s' => s.capturedAtUtc ≤ s'.capturedAtUtc) → InstrumentSpecs.InForce xs := by
  intro h
  have hin := InstrumentSpecs.inForce_iff.mp (h [spec, finer, restored]
    (by decide)) "EUR/USD" none
  rw [recordAll_restored] at hin
  have hsizes : finer.SizesAs restored :=
    hin.2 finer ⟨by simp [InstrumentSpecs.observed, finer, spec], by decide⟩
  exact absurd hsizes.volumeStep (by decide)

open Sample in
/-- The finer steps are in force from noon on, also for a worker that asks its database. -/
theorem specification_in_force_sample :
    (∀ ys, ys <+: [spec, finer] → InstrumentSpecs.InForce ys)
      ∧ ∀ db : Database, db.instrumentSpecs = InstrumentSpecs.recordAll [spec, finer] →
        Option.Rel InstrumentSpec.SizesAs (db.latestSpec "EUR/USD") (some finer) := by
  have hin : ∀ ys, ys <+: [spec, finer] → InstrumentSpecs.InForce ys := by
    refine (specification_in_force (by decide)).mpr fun ys s hys => ?_
    rcases List.prefix_cons_iff.mp hys with hnil | ⟨rest, hrest, hprefix⟩
    · exact absurd hnil (by simp)
    cases ys with
    | nil =>
        obtain ⟨rfl, -⟩ := List.cons.inj hrest
        simp [InstrumentSpecs.Accounts, InstrumentSpecs.recordAll, InstrumentSpecs.observed]
    | cons y ys =>
        obtain ⟨rfl, rfl⟩ := List.cons.inj hrest
        obtain ⟨rfl, rfl⟩ : ys = [] ∧ s = finer := by
          have hlength := hprefix.length_le
          cases ys with
          | nil => simpa using hprefix
          | cons y ys => simp at hlength
        have hnew : ¬ ∃ row ∈ InstrumentSpecs.recordAll [spec],
            row.specVersion = finer.specVersion := by
          rw [recordAll_spec]
          rintro ⟨row, hrow, hversion⟩
          rw [List.mem_singleton.mp hrow] at hversion
          exact absurd hversion (by decide +kernel)
        rw [InstrumentSpecs.Accounts, if_neg hnew, recordAll_spec]
        intro row hrow hlater
        rw [List.mem_singleton.mp (List.mem_of_mem_filter hrow)] at hlater
        exact absurd hlater (by decide)
  refine ⟨hin, fun db hdb => ?_⟩
  rw [InstrumentSpecs.latestSpec_eq, hdb]
  exact (hin [spec, finer] List.prefix_rfl .lastInserted "EUR/USD").1

end Crumblr
