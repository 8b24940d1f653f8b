import Crumblr.Lib.DecimalValue
import Crumblr.Persistence.MarketData
import Crumblr.Proof.IsoText
import Crumblr.Proof.JsonText
import Crumblr.Proof.NewestQuote

/-!
# Which ticks collapse

A stored tick's key is made of its time, its bid and its ask, and nothing else of what the broker
delivered. Two rows that agree in these and differ in the last trade, the volume or the flags have
one key, and only the first of them is stored.
-/

namespace Crumblr

open MarketDataStore

/-! ## What the key says -/

/-- The two have the same time, bid and ask. -/
structure SameQuote (r r' : TickRow) : Prop where
  time : r.serverTime = r'.serverTime
  bid : r.bid.val.compare r'.bid.val = .eq
  ask : r.ask.val.compare r'.ask.val = .eq

/-- The two agree in everything the broker delivered. -/
structure Agree (r r' : TickRow) : Prop extends SameQuote r r' where
  last : r.last.compare r'.last = .eq
  volume : r.volume = r'.volume
  flags : r.flags = r'.flags

/-- A double is far from where decimals are rounded. -/
theorem IsDouble.fits {d : Decimal} (h : IsDouble d) :
    Decimal.digits d.coeff.natAbs ≤ Decimal.prec ∧ SignedDecimal.etiny ≤ d.exp := by
  obtain ⟨hdigits, hexp⟩ := h
  have hprec : Decimal.prec = 28 := rfl
  have htiny : SignedDecimal.etiny = -1000026 := rfl
  rw [hprec, htiny]
  omega

/-- A price is its own magnitude. -/
theorem Price.natAbs_coeff (p : Price) : (p.val.coeff.natAbs : Int) = p.val.coeff := by
  have hpos := Decimal.nonneg_iff_coeff.mp (le_of_lt p.property)
  omega

/-- **Prices are written alike exactly if they are one number.** -/
theorem canonicalPrice_eq_iff {p p' : Price} (hp : IsDouble p.val) (hp' : IsDouble p'.val) :
    canonicalPrice p = canonicalPrice p' ↔ p.val.compare p'.val = .eq := by
  have hmagnitude : ∀ p : Price,
      SignedDecimal.magnitude ⟨false, p.val.coeff.natAbs, p.val.exp⟩ = p.val := fun p =>
    congrArg (fun c => (⟨c, p.val.exp⟩ : Decimal)) (Price.natAbs_coeff p)
  have hstripped := SignedDecimal.stripped_eq_iff (x := ⟨false, p.val.coeff.natAbs, p.val.exp⟩)
    (y := ⟨false, p'.val.coeff.natAbs, p'.val.exp⟩) rfl hp.fits.1 hp.fits.2 hp'.fits.1 hp'.fits.2
  rw [hmagnitude, hmagnitude] at hstripped
  rw [← hstripped]
  unfold canonicalPrice
  constructor
  · intro h
    exact SignedDecimal.format_inj (SignedDecimal.normal_stripped _)
      (SignedDecimal.normal_stripped _) (String.ofList_inj.mp h)
  · intro h
    rw [h]

/-- **The name of a tick says its time, its bid and its ask.** -/
theorem tickIdentityName_eq {source canonicalSymbol : String} {t t' : UtcDatetime}
    {bid bid' ask ask' : Price} (ht : PyDatetime.Representable t)
    (ht' : PyDatetime.Representable t')
    (h : tickIdentityName source canonicalSymbol t bid ask none
      = tickIdentityName source canonicalSymbol t' bid' ask' none) :
    t = t' ∧ canonicalPrice bid = canonicalPrice bid' ∧ canonicalPrice ask = canonicalPrice ask' := by
  unfold tickIdentityName at h
  have hsorted := Json.eq_of_dumps_eq ((Json.plain_sortKeys _).trans rfl)
    ((Json.plain_sortKeys _).trans rfl) (String.ofList_inj.mp h)
  -- the same fields, whatever their order
  have hperm := ((List.perm_insertionSort _ _).symm.trans
    (List.Perm.of_eq (Json.obj.inj hsorted))).trans (List.perm_insertionSort _ _)
  have hfield : ∀ key value, (key, value) ∈ _ → (key, value) ∈ _ := fun key value =>
    hperm.mem_iff.mp
  have htime := hfield "event_time" (.str (isoTime t)) (by simp [Json.sortKeysFields, Json.sortKeys])
  have hbid := hfield "bid" (.str (canonicalPrice bid)) (by simp [Json.sortKeysFields, Json.sortKeys])
  have hask := hfield "ask" (.str (canonicalPrice ask)) (by simp [Json.sortKeysFields, Json.sortKeys])
  simp [Json.sortKeysFields, Json.sortKeys] at htime hbid hask
  exact ⟨isoTime_inj ht ht' (congrArg String.toList htime), hbid, hask⟩

/-! ## What the table holds -/

section

variable {ρ : Type}

/-- None of the batch's statements is refused. -/
def Batch.accepted (b : Batch ρ) : Bool :=
  (List.range (chunks tickInsertChunkSize b.rows).length).all fun i => (b.refused i).isNone

/-- The write is committed. -/
def Write.lands : Write ρ → Bool
  | .own b => b.accepted
  | .within batches commits => commits && batches.all Batch.accepted

/-- All the rows of a write. -/
def Write.rows : Write ρ → List ρ
  | .own b => b.rows
  | .within batches _ => batches.flatMap (·.rows)

/-- The chunks of a list make it up. -/
theorem flatten_chunks {size : Nat} (hsize : 0 < size) (rows : List ρ) :
    (chunks size rows).flatten = rows := by
  have htake : ∀ n : Nat, ((List.range n).map fun i => (rows.drop (i * size)).take size).flatten
      = rows.take (n * size) := by
    intro n
    induction n with
    | zero => simp
    | succ n ih =>
        rw [List.range_succ, List.map_append, List.flatten_append, ih, Nat.succ_mul, List.take_add]
        simp
  unfold chunks
  rw [htake, List.take_of_length_le]
  have hlast := Nat.div_add_mod (rows.length + size - 1) size
  have hmod := Nat.mod_lt (rows.length + size - 1) hsize
  have hcomm := Nat.mul_comm size ((rows.length + size - 1) / size)
  omega

/-- **A batch is stored whole, or its statements fail.** -/
theorem recordChunks_eq {refused : Nat → Option PyError} :
    ∀ (chunked : List (List StoredTick)) (i : Nat) (table : List StoredTick),
      match recordChunks refused i chunked table with
      | .ok table' => (∀ j < chunked.length, refused (i + j) = none)
          ∧ table' = insertTicks table chunked.flatten
      | .error _ => ∃ j < chunked.length, refused (i + j) ≠ none := by
  intro chunked
  induction chunked with
  | nil => intro i table; exact ⟨fun j hj => absurd hj (Nat.not_lt_zero j), rfl⟩
  | cons chunk chunked ih =>
      intro i table
      unfold recordChunks
      cases hrefused : refused i with
      | some e => exact ⟨0, Nat.succ_pos _, by simp [hrefused]⟩
      | none =>
          have hrest := ih (i + 1) (insertTicks table chunk)
          dsimp only
          split at hrest
          · obtain ⟨hnone, htable⟩ := hrest
            refine ⟨fun j hj => ?_, ?_⟩
            · cases j with
              | zero => exact hrefused
              | succ j =>
                  have hnext := hnone j (Nat.lt_of_succ_lt_succ hj)
                  rwa [Nat.add_right_comm] at hnext
            · rw [htable, List.flatten_cons]
              unfold insertTicks
              rw [List.foldl_append]
          · obtain ⟨j, hj, hne⟩ := hrest
            exact ⟨j + 1, Nat.succ_lt_succ hj, by rwa [Nat.add_right_comm] at hne⟩

theorem recordWithin_eq (table : List StoredTick) (b : Batch StoredTick) :
    match recordWithin table b with
    | .ok (table', _) => b.accepted = true ∧ table' = insertTicks table b.rows
    | .error _ => b.accepted = false := by
  have hchunks := @recordChunks_eq b.refused (chunks tickInsertChunkSize b.rows) 0 table
  rw [flatten_chunks (by decide)] at hchunks
  unfold recordWithin Batch.accepted
  cases hrun : recordChunks b.refused 0 (chunks tickInsertChunkSize b.rows) table with
  | ok table' =>
      rw [hrun] at hchunks
      refine ⟨List.all_eq_true.mpr fun j hj => ?_, hchunks.2⟩
      have hnone := hchunks.1 j (List.mem_range.mp hj)
      rw [Nat.zero_add] at hnone
      rw [hnone]
      rfl
  | error e =>
      rw [hrun] at hchunks
      obtain ⟨j, hj, hne⟩ := hchunks
      refine Bool.eq_false_iff.mpr fun hall => hne ?_
      rw [Nat.zero_add]
      exact Option.isNone_iff_eq_none.mp (List.all_eq_true.mp hall j (List.mem_range.mpr hj))

theorem recordAll_eq :
    ∀ (batches : List (Batch StoredTick)) (table : List StoredTick),
      match recordAll batches table with
      | .ok table' => batches.all Batch.accepted = true
          ∧ table' = insertTicks table (batches.flatMap (·.rows))
      | .error _ => batches.all Batch.accepted = false := by
  intro batches
  induction batches with
  | nil => intro table; exact ⟨rfl, rfl⟩
  | cons b batches ih =>
      intro table
      have hone := recordWithin_eq table b
      unfold recordAll
      cases hrun : recordWithin table b with
      | error e =>
          rw [hrun] at hone
          have hone : b.accepted = false := hone
          change (b :: batches).all Batch.accepted = false
          rw [List.all_cons, hone, Bool.false_and]
      | ok result =>
          obtain ⟨table', inserted⟩ := result
          rw [hrun] at hone
          obtain ⟨haccepted, rfl⟩ := hone
          have hrest := ih (insertTicks table b.rows)
          change match recordAll batches (insertTicks table b.rows) with
            | .ok table' => _
            | .error _ => _
          split at hrest
          · obtain ⟨hall, htable⟩ := hrest
            refine ⟨by simp [haccepted, hall], ?_⟩
            rw [htable, List.flatMap_cons]
            unfold insertTicks
            rw [List.foldl_append]
          · rw [List.all_cons, hrest, Bool.and_false]

/-- **A write that is not committed stores nothing**, and one that is stores all of its rows. -/
theorem write_eq (table : List StoredTick) (w : Write StoredTick) :
    write table w = if w.lands then insertTicks table w.rows else table := by
  cases w with
  | own b =>
      have hone := recordWithin_eq table b
      cases hrun : recordWithin table b with
      | ok result =>
          rw [hrun] at hone
          simp [write, recordTicks, hrun, Write.lands, Write.rows, hone.1, hone.2]
      | error e =>
          rw [hrun] at hone
          have hrefused : b.accepted = false := hone
          simp [write, recordTicks, hrun, Write.lands, hrefused]
  | within batches commits =>
      have hall := recordAll_eq batches table
      cases hrun : recordAll batches table with
      | ok table' =>
          rw [hrun] at hall
          cases commits <;> simp [write, hrun, Write.lands, Write.rows, hall.1, hall.2]
      | error e =>
          rw [hrun] at hall
          have hrefused : batches.all Batch.accepted = false := hall
          simp [write, hrun, Write.lands, hrefused]

/-- The rows that have been committed. -/
def committed (writes : List (Write ρ)) : List ρ := (writes.filter Write.lands).flatMap Write.rows

/-- All the rows there were to store. -/
def delivered (writes : List (Write ρ)) : List ρ := writes.flatMap Write.rows

theorem committed_sublist (writes : List (Write ρ)) :
    (committed writes).Sublist (delivered writes) := by
  unfold committed delivered
  induction writes with
  | nil => exact List.Sublist.refl _
  | cons w writes ih =>
      rw [List.filter_cons, List.flatMap_cons]
      split
      · rw [List.flatMap_cons]
        exact (List.Sublist.refl _).append ih
      · exact ih.trans (List.sublist_append_right _ _)

/-- **The table holds what was committed.** -/
theorem history_eq (writes : List (Write StoredTick)) :
    history writes = insertTicks [] (committed writes) := by
  unfold history
  have hfrom : ∀ table, writes.foldl write table = insertTicks table (committed writes) := by
    induction writes with
    | nil => intro table; rfl
    | cons w writes ih =>
        intro table
        rw [List.foldl_cons, ih, write_eq]
        unfold committed
        rw [List.filter_cons]
        split
        · rw [List.flatMap_cons]
          unfold insertTicks
          rw [List.foldl_append]
        · rfl
  exact hfrom []

end

/-! ## What is read afterwards -/

/-- A row the gateway converts, and when it was received; what is no datetime is not converted. -/
structure Delivery (gateway : ReadOnlyMt5Gateway) where
  row : TickRow
  receivedAt : UtcDatetime
  datetime : PyDatetime.Representable (row.serverTime - gateway.clockOffset)

/-- A stored tick says what a row does. -/
structure Says (gateway : ReadOnlyMt5Gateway) (t : StoredTick) (r : TickRow) : Prop where
  time : t.eventTimeUtc = r.serverTime - gateway.clockOffset
  bid : t.bid.val.compare r.bid.val = .eq
  ask : t.ask.val.compare r.ask.val = .eq
  last : (t.last.elim 0 (·.val)).compare r.last = .eq
  volume : t.volume.getD 0 = r.volume
  flags : t.flags = some r.flags

theorem says_iff {gateway : ReadOnlyMt5Gateway} {t : StoredTick} {r : TickRow} :
    Says gateway t r ↔ t.eventTimeUtc = r.serverTime - gateway.clockOffset
      ∧ t.bid.val.compare r.bid.val = .eq ∧ t.ask.val.compare r.ask.val = .eq
      ∧ (t.last.elim 0 (·.val)).compare r.last = .eq ∧ t.volume.getD 0 = r.volume
      ∧ t.flags = some r.flags :=
  ⟨fun h => ⟨h.time, h.bid, h.ask, h.last, h.volume, h.flags⟩,
    fun ⟨htime, hbid, hask, hlast, hvolume, hflags⟩ => ⟨htime, hbid, hask, hlast, hvolume, hflags⟩⟩

instance (gateway : ReadOnlyMt5Gateway) (t : StoredTick) (r : TickRow) : Decidable (Says gateway t r) :=
  decidable_of_iff _ says_iff.symm

section

variable [Externals] {gateway : ReadOnlyMt5Gateway}

namespace Delivery

variable (source : String) (d : Delivery gateway)

/-- The row, converted. -/
def tick : StoredTick := gateway.tickFromRow d.row source d.receivedAt

omit [Externals] in
/-- What its key is the UUID of. -/
def name : String :=
  tickIdentityName source gateway.canonicalSymbol (d.row.serverTime - gateway.clockOffset) d.row.bid
    d.row.ask none

theorem tickId_tick : (d.tick source).tickId = Externals.uuid5 (d.name source) := rfl

end Delivery

variable {source : String}

omit [Externals] in
/-- **One name is one time, one bid and one ask.** -/
theorem name_eq_iff {d d' : Delivery gateway} :
    d.name source = d'.name source ↔ SameQuote d.row d'.row := by
  unfold Delivery.name
  constructor
  · intro h
    obtain ⟨htime, hbid, hask⟩ := tickIdentityName_eq d.datetime d'.datetime h
    have hserver : d.row.serverTime = d'.row.serverTime := by
      have hsum := congrArg (· + gateway.clockOffset) htime
      simpa using hsum
    exact ⟨hserver, (canonicalPrice_eq_iff d.row.bidDouble d'.row.bidDouble).mp hbid,
      (canonicalPrice_eq_iff d.row.askDouble d'.row.askDouble).mp hask⟩
  · rintro ⟨htime, hbid, hask⟩
    unfold tickIdentityName
    rw [htime, (canonicalPrice_eq_iff d.row.bidDouble d'.row.bidDouble).mpr hbid,
      (canonicalPrice_eq_iff d.row.askDouble d'.row.askDouble).mpr hask]

/-- The last trade of a tick is that of its row. -/
theorem last_tick (d : Delivery gateway) (x : Decimal) :
    ((d.tick source).last.elim 0 (·.val)).compare x = .eq ↔ d.row.last.compare x = .eq := by
  unfold Delivery.tick ReadOnlyMt5Gateway.tickFromRow
  dsimp only
  split
  · exact Iff.rfl
  · rename_i hzero
    have hsame : d.row.last.compare 0 = .eq :=
      Decimal.compare_eq.mpr ⟨Decimal.not_lt.mp hzero, d.row.lastNonneg⟩
    exact ⟨fun h => Decimal.compare_trans hsame h,
      fun h => Decimal.compare_trans (Decimal.compare_symm hsame) h⟩

/-- **A tick says what its row does, and what no other does that disagrees.** -/
theorem says_tick {d : Delivery gateway} {r : TickRow} :
    Says gateway (d.tick source) r ↔ Agree d.row r := by
  have hvolume : (d.tick source).volume.getD 0 = d.row.volume := by
    unfold Delivery.tick ReadOnlyMt5Gateway.tickFromRow
    dsimp only
    split
    · rfl
    · rename_i hzero
      exact (not_not.mp hzero).symm
  constructor
  · rintro ⟨htime, hbid, hask, hlast, hv, hflags⟩
    have hserver : d.row.serverTime = r.serverTime := by
      have hsum := congrArg (· + gateway.clockOffset) htime
      simpa [Delivery.tick, ReadOnlyMt5Gateway.tickFromRow, ReadOnlyMt5Gateway.tickFromRaw]
        using hsum
    exact ⟨⟨hserver, hbid, hask⟩, (last_tick d r.last).mp hlast, hvolume.symm.trans hv,
      Option.some.inj hflags⟩
  · rintro ⟨⟨htime, hbid, hask⟩, hlast, hv, hflags⟩
    exact ⟨congrArg (· - gateway.clockOffset) htime, hbid, hask, (last_tick d r.last).mpr hlast,
      hvolume.trans hv, congrArg some hflags⟩

/-- The ticks read once all the writes are done. -/
def readAfter (source : String) (writes : List (Write (Delivery gateway))) : List StoredTick :=
  readTicks (history (writes.map (Write.map (Delivery.tick source)))) none none none

omit [Externals] in
theorem lands_map {ρ σ : Type} (f : ρ → σ) (w : Write ρ) : (w.map f).lands = w.lands := by
  have hbatch : ∀ b : Batch ρ, (b.map f).accepted = b.accepted := by
    intro b
    simp [Batch.accepted, Batch.map, chunks]
  cases w with
  | own b => exact hbatch b
  | within batches commits =>
      change (commits && (batches.map (Batch.map f)).all Batch.accepted) = _
      rw [List.all_map]
      exact congrArg (commits && ·) (congrArg batches.all (funext hbatch))

omit [Externals] in
theorem rows_map {ρ σ : Type} (f : ρ → σ) (w : Write ρ) : (w.map f).rows = w.rows.map f := by
  cases w with
  | own b => rfl
  | within batches commits => simp [Write.map, Write.rows, Batch.map, List.flatMap_map, List.map_flatMap]

omit [Externals] in
theorem committed_map {ρ σ : Type} (f : ρ → σ) (writes : List (Write ρ)) :
    committed (writes.map (Write.map f)) = (committed writes).map f := by
  unfold committed
  rw [List.filter_map, List.flatMap_map, List.map_flatMap]
  simp only [rows_map, Function.comp_def, lands_map]

/-- The table in the end. -/
theorem table_eq (writes : List (Write (Delivery gateway))) :
    history (writes.map (Write.map (Delivery.tick source)))
      = insertTicks [] ((committed writes).map (Delivery.tick source)) := by
  rw [history_eq, committed_map]

theorem readAfter_perm (writes : List (Write (Delivery gateway))) :
    (readAfter source writes).Perm
      (insertTicks [] ((committed writes).map (Delivery.tick source))) := by
  unfold readAfter readTicks
  rw [table_eq]
  simpa using List.mergeSort_perm _ _

/-- Everything delivered is kept apart as far as the broker does, and read once. -/
structure OnlyIdenticalCollapse (source : String) (writes : List (Write (Delivery gateway))) :
    Prop where
  identity : ∀ d ∈ delivered writes, ∀ d' ∈ delivered writes,
    (d.tick source).tickId = (d'.tick source).tickId ↔ Agree d.row d'.row
  once : ∀ d ∈ committed writes,
    ((readAfter source writes).filter fun t => decide (Says gateway t d.row)).length = 1

omit [Externals] in
theorem Agree.symm {r r' : TickRow} (h : Agree r r') : Agree r' r :=
  ⟨⟨h.time.symm, Decimal.compare_symm h.bid, Decimal.compare_symm h.ask⟩,
    Decimal.compare_symm h.last, h.volume.symm, h.flags.symm⟩

/-- **Where keys tell rows apart, every row is read once.** -/
theorem once_of_identity {writes : List (Write (Delivery gateway))}
    (hidentity : ∀ d ∈ delivered writes, ∀ d' ∈ delivered writes,
      (d.tick source).tickId = (d'.tick source).tickId ↔ Agree d.row d'.row)
    {d : Delivery gateway} (hd : d ∈ committed writes) :
    ((readAfter source writes).filter fun t => decide (Says gateway t d.row)).length = 1 := by
  have hsub := (committed_sublist writes).subset
  have hkeyed : Table.Keyed (·.tickId)
      (insertTicks [] ((committed writes).map (Delivery.tick source))) :=
    Table.keyed_foldl_insertNew List.nodup_nil
  have hmem : ∀ t ∈ insertTicks [] ((committed writes).map (Delivery.tick source)),
      ∃ d' ∈ committed writes, d'.tick source = t := by
    intro t ht
    have hrow := (Table.mem_of_foldl_insertNew ht).resolve_left (List.not_mem_nil)
    exact List.mem_map.mp hrow
  have hsame : ∀ t ∈ insertTicks [] ((committed writes).map (Delivery.tick source)),
      decide (Says gateway t d.row) = true ↔ t.tickId = (d.tick source).tickId := by
    intro t ht
    obtain ⟨d', hd', rfl⟩ := hmem t ht
    rw [decide_eq_true_eq, says_tick, hidentity d' (hsub hd') d (hsub hd)]
  rw [((readAfter_perm writes).filter _).length_eq]
  refine Nat.le_antisymm (hkeyed.length_filter_le_one fun t ht t' ht' hp hp' => ?_) ?_
  · exact ((hsame t ht).mp hp).trans ((hsame t' ht').mp hp').symm
  · have hkeys : (d.tick source).tickId ∈
        (insertTicks [] ((committed writes).map (Delivery.tick source))).map (·.tickId) :=
      Table.mem_keys_foldl_insertNew (.inr (List.mem_map_of_mem (List.mem_map_of_mem hd)))
    obtain ⟨t, ht, hkey⟩ := List.mem_map.mp hkeys
    exact List.length_pos_of_mem (List.mem_filter.mpr ⟨ht, (hsame t ht).mpr hkey⟩)

/-- **Only identical ticks collapse exactly if no two rows of one time, bid and ask differ.** Ticks
are read in the order of market time, and a write that fails stores nothing of its rows, in any
case. -/
theorem only_identical_collapse_iff {writes : List (Write (Delivery gateway))}
    (hcollide : ∀ d ∈ delivered writes, ∀ d' ∈ delivered writes,
      Externals.uuid5 (d.name source) = Externals.uuid5 (d'.name source) →
        d.name source = d'.name source) :
    (OnlyIdenticalCollapse source writes ↔ ∀ d ∈ delivered writes, ∀ d' ∈ delivered writes,
        SameQuote d.row d'.row → Agree d.row d'.row)
      ∧ (readAfter source writes).Pairwise (fun t t' => t.eventTimeUtc ≤ t'.eventTimeUtc)
      ∧ (∀ t ∈ readAfter source writes, ∃ d ∈ committed writes, t = d.tick source)
      ∧ ∀ w : Write (Delivery gateway), w.lands = false →
        readAfter source (writes ++ [w]) = readAfter source writes := by
  refine ⟨⟨fun h d hd d' hd' hquote => ?_, fun h => ?_⟩, ?_, fun t ht => ?_, fun w hw => ?_⟩
  · refine (h.identity d hd d' hd').mp ?_
    rw [Delivery.tickId_tick, Delivery.tickId_tick, name_eq_iff.mpr hquote]
  · have hidentity : ∀ d ∈ delivered writes, ∀ d' ∈ delivered writes,
        (d.tick source).tickId = (d'.tick source).tickId ↔ Agree d.row d'.row := by
      intro d hd d' hd'
      rw [Delivery.tickId_tick, Delivery.tickId_tick]
      constructor
      · intro hid
        exact h d hd d' hd' (name_eq_iff.mp (hcollide d hd d' hd' hid))
      · intro hagree
        rw [name_eq_iff.mpr hagree.toSameQuote]
    exact ⟨hidentity, fun d hd => once_of_identity hidentity hd⟩
  · have hsorted : ((history (writes.map (Write.map (Delivery.tick source)))).mergeSort
        fun t t' => decide (t.eventTimeUtc ≤ t'.eventTimeUtc)).Pairwise
          fun t t' => decide (t.eventTimeUtc ≤ t'.eventTimeUtc) = true := by
      refine List.pairwise_mergeSort (fun a b c hab hbc => ?_) (fun a b => ?_) _
      · exact decide_eq_true (le_trans (of_decide_eq_true hab) (of_decide_eq_true hbc))
      · simpa using le_total a.eventTimeUtc b.eventTimeUtc
    unfold readAfter readTicks
    refine (hsorted.filter _).imp ?_
    intro a b hab
    exact of_decide_eq_true hab
  · have hmem := (readAfter_perm writes).mem_iff.mp ht
    have hrow := (Table.mem_of_foldl_insertNew hmem).resolve_left List.not_mem_nil
    obtain ⟨d, hd, rfl⟩ := List.mem_map.mp hrow
    exact ⟨d, hd, rfl⟩
  · unfold readAfter
    rw [table_eq, table_eq]
    have hsame : committed (writes ++ [w]) = committed writes := by
      unfold committed
      rw [List.filter_append, List.filter_cons, hw]
      simp
    rw [hsame]

end

end Crumblr

/-! ## A tick that differs in its flags -/

namespace Crumblr

namespace Sample

theorem bid_double : IsDouble (price 110000).val := by decide +kernel

theorem ask_double : IsDouble (price 110002).val := by decide +kernel

theorem last_nonneg : (0 : Decimal) ≤ 0 := le_refl 0

/-- A row some seconds after noon, with the flags it was delivered with. -/
def flagged (second flags : Nat) : TickRow :=
  { row second (price 110000) (price 110002) with
    last := 0
    volume := 0
    flags
    bidDouble := bid_double
    askDouble := ask_double
    lastNonneg := last_nonneg }

/-- That row, received. -/
def received (second flags : Nat)
    (datetime : PyDatetime.Representable ((flagged second flags).serverTime - reader.clockOffset)) :
    Delivery reader where
  row := flagged second flags
  receivedAt := noon + seconds 2
  datetime

theorem datetime_zero (flags : Nat) :
    PyDatetime.Representable ((flagged 0 flags).serverTime - reader.clockOffset) := by
  change PyDatetime.Representable ((row 0 (price 110000) (price 110002)).serverTime - reader.clockOffset)
  decide +kernel

theorem datetime_one (flags : Nat) :
    PyDatetime.Representable ((flagged 1 flags).serverTime - reader.clockOffset) := by
  change PyDatetime.Representable ((row 1 (price 110000) (price 110002)).serverTime - reader.clockOffset)
  decide +kernel

/-- A second between two ticks. -/
def apart : List (Write (Delivery reader)) :=
  [.own ⟨[received 0 2 (datetime_zero 2), received 1 4 (datetime_one 4)], fun _ => none⟩]

/-- Two ticks at once: the bid moved, and then the ask moved back. -/
def atOnce : List (Write (Delivery reader)) :=
  [.own ⟨[received 0 2 (datetime_zero 2), received 0 4 (datetime_zero 4)], fun _ => none⟩]

theorem apart_differ : ∀ d ∈ delivered apart, ∀ d' ∈ delivered apart,
    SameQuote d.row d'.row → Agree d.row d'.row := by
  intro d hd d' hd' hquote
  have hone : ∀ d ∈ delivered apart, d = received 0 2 (datetime_zero 2)
      ∨ d = received 1 4 (datetime_one 4) := by
    intro d hd
    simpa [delivered, apart, Write.rows] using hd
  have hrefl : ∀ d : Delivery reader, Agree d.row d.row := fun d =>
    ⟨⟨rfl, Decimal.compare_refl _, Decimal.compare_refl _⟩, Decimal.compare_refl _, rfl, rfl⟩
  have hne : (flagged 0 2).serverTime ≠ (flagged 1 4).serverTime := by decide +kernel
  rcases hone d hd with rfl | rfl <;> rcases hone d' hd' with rfl | rfl
  · exact hrefl _
  · exact absurd hquote.time hne
  · exact absurd hquote.time.symm hne
  · exact hrefl _

end Sample

open Sample in
theorem only_identical_collapse_iff_sample : OnlyIdenticalCollapse "live" apart := by
  refine (only_identical_collapse_iff ?_).1.mpr apart_differ
  intro d _ d' _ h
  exact Uuid.mk.inj h

open Sample in
/-- No two names collide, and yet the ticks that differ in their flags are one. -/
theorem flagged_tick_lost : (∀ name name', Externals.uuid5 name = Externals.uuid5 name' → name = name')
    ∧ ¬ OnlyIdenticalCollapse "live" atOnce := by
  refine ⟨fun name name' h => Uuid.mk.inj h, fun h => ?_⟩
  have hagree := (h.identity (received 0 2 (datetime_zero 2)) (by simp [delivered, atOnce, Write.rows])
    (received 0 4 (datetime_zero 4)) (by simp [delivered, atOnce, Write.rows])).mp rfl
  have hflags : (2 : Nat) = 4 := hagree.flags
  omega

end Crumblr
