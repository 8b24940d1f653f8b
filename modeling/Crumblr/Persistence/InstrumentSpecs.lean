import Crumblr.Lib.Table
import Crumblr.Domain.Models

/-!
# The instrument specifications on record

Rows are keyed by a digest of the fields a broker's policy fixes. An observation
whose digest is on record already is not stored, whatever else of it has changed
and however many other specifications were observed in between. A query returns
the row captured last, by the time its own observation was taken.
-/

namespace Crumblr

/-- The table, in the order of insertion. -/
abbrev InstrumentSpecs := List InstrumentSpec

namespace InstrumentSpecs

/-- No row was captured later. -/
def Newest (rows : InstrumentSpecs) (row : InstrumentSpec) : Prop :=
  row ∈ rows ∧ ∀ x ∈ rows, x.capturedAtUtc ≤ row.capturedAtUtc

/-- `ORDER BY captured_at_utc DESC LIMIT 1`. Which of several rows captured at the same
time comes first is up to the database. -/
structure NewestFirst where
  first : InstrumentSpecs → Option InstrumentSpec
  empty : ∀ rows, first rows = none ↔ rows = []
  newest : ∀ rows row, first rows = some row → Newest rows row

/-- Store an observation, unless its version is on record. -/
def record [Externals] (rows : InstrumentSpecs) (spec : InstrumentSpec) : InstrumentSpecs :=
  (Table.insert? InstrumentSpec.specVersion rows spec).getD rows

/-- The rows of a symbol, captured by a time if one is given. -/
def observed (rows : InstrumentSpecs) (canonicalSymbol : String) (bound : Option UtcDatetime) :
    InstrumentSpecs :=
  rows.filter fun s => s.canonicalSymbol = canonicalSymbol ∧ ∀ t ∈ bound, s.capturedAtUtc ≤ t

def latest (order : NewestFirst) (rows : InstrumentSpecs) (canonicalSymbol : String) :
    Option InstrumentSpec :=
  order.first (rows.observed canonicalSymbol none)

def atOrBefore (order : NewestFirst) (rows : InstrumentSpecs) (canonicalSymbol : String)
    (at_ : UtcDatetime) : Option InstrumentSpec :=
  order.first (rows.observed canonicalSymbol (some at_))

/-- What a run of observations leaves on record. -/
def recordAll [Externals] (observations : List InstrumentSpec) : InstrumentSpecs :=
  observations.foldl record []

variable {rows : InstrumentSpecs} {spec row : InstrumentSpec} {symbol : String}
  {bound : Option UtcDatetime}

@[simp] theorem recordAll_concat [Externals] (observations : List InstrumentSpec) :
    recordAll (observations ++ [spec]) = record (recordAll observations) spec := by
  simp [recordAll, List.foldl_append]

theorem mem_observed : row ∈ rows.observed symbol bound
    ↔ row ∈ rows ∧ row.canonicalSymbol = symbol ∧ ∀ t ∈ bound, row.capturedAtUtc ≤ t := by
  simp [observed, List.mem_filter]

/-- Storing a new version appends its row; a version on record changes nothing. -/
theorem record_cases [Externals] (rows : InstrumentSpecs) (spec : InstrumentSpec) :
    (∀ row ∈ rows, row.specVersion ≠ spec.specVersion) ∧ record rows spec = rows ++ [spec]
      ∨ (∃ row ∈ rows, row.specVersion = spec.specVersion) ∧ record rows spec = rows := by
  unfold record Table.insert?
  split
  · rename_i hnone
    exact .inl ⟨Table.lookup_eq_none.mp hnone, rfl⟩
  · rename_i hsome
    obtain ⟨row, hrow⟩ := Option.ne_none_iff_exists'.mp hsome
    exact .inr ⟨⟨row, Table.lookup_eq_some hrow⟩, rfl⟩

theorem mem_record [Externals] (h : row ∈ record rows spec) : row ∈ rows ∨ row = spec := by
  rcases record_cases rows spec with ⟨-, he⟩ | ⟨-, he⟩
  · rw [he] at h
    simpa using h
  · rw [he] at h
    exact .inl h

/-- Nothing is on record that was not observed. -/
theorem mem_recordAll [Externals] {observations : List InstrumentSpec}
    (h : row ∈ recordAll observations) : row ∈ observations := by
  induction observations using List.reverseRecOn with
  | nil => cases h
  | append_singleton xs x ih =>
      rw [recordAll_concat] at h
      rcases mem_record h with h | rfl
      · exact List.mem_append_left _ (ih h)
      · simp

end InstrumentSpecs

end Crumblr
