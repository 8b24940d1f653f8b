import Crumblr.Domain.TimeUtils
import Crumblr.Lib.Table
import Crumblr.MarketData.Pipeline
import Crumblr.Mt5Gateway.ReadOnly

/-!
# What the market showed

The store keeps the ticks as they came. A tick's key is derived from its content, and a tick whose
key is stored already is left out without a word. A batch is sent in chunks over one connection, in
a transaction of its own or in its caller's, so that it is stored whole or not at all.
-/

namespace Crumblr

/-! ## Whole ticks -/

/-- A tick with everything that is stored of it. -/
structure StoredTick extends MarketTick where
  last : Option Price
  volume : Option Nat
  flags : Option Nat

/-- A decimal as the shortest text of a double gives it. -/
def IsDouble (d : Decimal) : Prop := Decimal.digits d.coeff.natAbs ≤ 17 ∧ -324 ≤ d.exp

instance (d : Decimal) : Decidable (IsDouble d) := inferInstanceAs (Decidable (_ ∧ _))

/-- A row of the terminal's ticks, whole. -/
structure TickRow extends RawTick where
  /-- The last trade; zero if the feed has none. -/
  last : Decimal
  volume : Nat
  flags : Nat
  bidDouble : IsDouble bid.val
  askDouble : IsDouble ask.val
  lastNonneg : 0 ≤ last

def ReadOnlyMt5Gateway.tickFromRow [Externals] (self : ReadOnlyMt5Gateway) (row : TickRow)
    (source : String) (receivedAt : UtcDatetime) : StoredTick :=
  { self.tickFromRaw row.toRawTick source receivedAt with
    last := if h : 0 < row.last then some ⟨row.last, h⟩ else none
    volume := if row.volume ≠ 0 then some row.volume else none
    flags := some row.flags }

/-! ## Storing -/

/-- Rows per INSERT. -/
def tickInsertChunkSize : Nat := 2000

/-- The rows from each start on that is a multiple of the size. -/
def chunks {α : Type} (size : Nat) (rows : List α) : List (List α) :=
  (List.range ((rows.length + size - 1) / size)).map fun i => (rows.drop (i * size)).take size

/-- Rows to store, and which of the statements that store them the database refuses. -/
structure Batch (ρ : Type) where
  rows : List ρ
  refused : Nat → Option PyError

/-- What is stored at once: a batch, or what a caller does on one connection until it commits. -/
inductive Write (ρ : Type) where
  | own (batch : Batch ρ)
  | within (batches : List (Batch ρ)) (commits : Bool)

def Batch.map {ρ σ : Type} (f : ρ → σ) (b : Batch ρ) : Batch σ := ⟨b.rows.map f, b.refused⟩

def Write.map {ρ σ : Type} (f : ρ → σ) : Write ρ → Write σ
  | .own b => .own (b.map f)
  | .within batches commits => .within (batches.map (Batch.map f)) commits

namespace MarketDataStore

/-- One INSERT: rows whose key is taken are left out. -/
def insertTicks (table rows : List StoredTick) : List StoredTick :=
  rows.foldl (Table.insertNew (·.tickId)) table

/-- The statements of one batch, from the `i`-th on. -/
def recordChunks (refused : Nat → Option PyError) :
    Nat → List (List StoredTick) → List StoredTick → Except PyError (List StoredTick)
  | _, [], table => .ok table
  | i, chunk :: rest, table =>
      match refused i with
      | some e => .error e
      | none => recordChunks refused (i + 1) rest (insertTicks table chunk)

/-- `_record_ticks`: the table as the transaction sees it then, and how many were inserted. -/
def recordWithin (table : List StoredTick) (b : Batch StoredTick) :
    Except PyError (List StoredTick × Nat) := do
  let table' ← recordChunks b.refused 0 (chunks tickInsertChunkSize b.rows) table
  pure (table', table'.length - table.length)

/-- `record_ticks` in a transaction of its own. -/
def recordTicks (table : List StoredTick) (b : Batch StoredTick) :
    List StoredTick × Except PyError Nat :=
  match recordWithin table b with
  | .ok (table', inserted) => (table', .ok inserted)
  | .error e => (table, .error e)

/-- The batches of one transaction, one after the other. -/
def recordAll : List (Batch StoredTick) → List StoredTick → Except PyError (List StoredTick)
  | [], table => .ok table
  | b :: batches, table => do
      let (table', _) ← recordWithin table b
      recordAll batches table'

/-- The table after a write; a transaction in which a statement failed cannot commit. -/
def write (table : List StoredTick) : Write StoredTick → List StoredTick
  | .own b => (recordTicks table b).1
  | .within batches commits =>
      match recordAll batches table with
      | .ok table' => if commits then table' else table
      | .error _ => table

/-- The table after a history of writes. -/
def history (writes : List (Write StoredTick)) : List StoredTick := writes.foldl write []

/-- In market-time order; the order they were stored in breaks ties. -/
def readTicks (table : List StoredTick) (canonicalSymbol source : Option String)
    (limit : Option Nat) : List StoredTick :=
  let found := (table.mergeSort fun t t' => decide (t.eventTimeUtc ≤ t'.eventTimeUtc)).filter
    fun t => canonicalSymbol.all (fun s => t.canonicalSymbol = s)
      && source.all (fun s => t.source = s)
  match limit with
  | none => found
  | some n => found.take n

/-! ## Bars -/

/-- The two are the same bar; decimals are compared by value. -/
def sameBar (bar bar' : Bar) : Bool :=
  bar.openTimeUtc = bar'.openTimeUtc
    && bar.openPrice.val.compare bar'.openPrice.val = .eq
    && bar.high.val.compare bar'.high.val = .eq
    && bar.low.val.compare bar'.low.val = .eq
    && bar.close.val.compare bar'.close.val = .eq
    && bar.tickVolume = bar'.tickVolume
    && bar.realVolume = bar'.realVolume
    && bar.spreadPoints = bar'.spreadPoints

/-- A bar's four prices, as an error names them. -/
def ohlcText (bar : Bar) : String :=
  s!"{bar.openPrice.val.text}/{bar.high.val.text}/{bar.low.val.text}/{bar.close.val.text}"

/-- A bar that is stored already for the interval must be the same bar. -/
def assertUnchanged (existing bar : MarketBar) : Except PyError Unit :=
  if sameBar existing.bar bar.bar then .ok ()
  else .error ⟨.journalIntegrity,
    s!"bar {bar.barId.text} for {bar.canonicalSymbol} {bar.timeframe} at "
      ++ s!"{isoTime bar.bar.openTimeUtc} is already stored with different "
      ++ s!"values: stored OHLC {ohlcText existing.bar}, incoming {ohlcText bar.bar}"⟩

/-- One bar: stored, left out, or refused. -/
def recordBar (table : List MarketBar) (bar : MarketBar) : Except PyError (List MarketBar) :=
  match Table.lookup (·.barId) table bar.barId with
  | none => .ok (table ++ [bar])
  | some existing => do
      assertUnchanged existing bar
      pure table

/-- `_record_bars`: the table as the transaction sees it then, and how many were inserted. -/
def recordBars (table : List MarketBar) (bars : List MarketBar) :
    Except PyError (List MarketBar × Nat) := do
  let table' ← bars.foldlM recordBar table
  pure (table', table'.length - table.length)

end MarketDataStore

end Crumblr
