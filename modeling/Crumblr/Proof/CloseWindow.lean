import Crumblr.Proof.FlattenEvidence
import Crumblr.Scripts.ExportTrade

/-!
# The window a trade closed in

Once the latest row of a ticket is found, no later observation has a row of it, so the walk never
goes on: the first later observation is where the trade is taken to have closed. Its book is read
off its rows alone. An observation whose positions could not be read has none, and passes for a
flat one.
-/

namespace Crumblr

variable [Externals]

/-! ## What is stored -/

/-- The tables of a database every observation in which was captured from the broker. -/
inductive Database.Captured : Database → Prop where
  | empty {db : Database} (haccounts : db.brokerAccountSnapshots = [])
      (hpositions : db.brokerPositionSnapshots = []) : db.Captured
  /-- What is recorded is what was read; its id is drawn anew. -/
  | record {db : Database} {r : BrokerReading} {positions : Except PyError (List PositionState)}
      (environment : Environment) (canonicalSymbol : String) (h : db.Captured)
      (hfresh : ∀ s ∈ db.brokerAccountSnapshots, s.snapshotId ≠ r.snapshotId)
      (hbook : (r.positions, r.positionSetState) = bookOf positions) :
      (db.record (r.observation environment canonicalSymbol)).Captured
  /-- Anything else leaves the observations as they are. -/
  | other {db db' : Database} (h : db.Captured)
      (haccounts : db'.brokerAccountSnapshots = db.brokerAccountSnapshots)
      (hpositions : db'.brokerPositionSnapshots = db.brokerPositionSnapshots) : db'.Captured

/-- Snapshots have ids of their own, and a position row is of a book that was read whole. -/
structure Whole (accounts : List BrokerAccountSnapshot)
    (positions : List BrokerPositionSnapshot) : Prop where
  keyed : Table.Keyed (·.snapshotId) accounts
  parent : ∀ p ∈ positions, ∃ s ∈ accounts, s.snapshotId = p.snapshotId
    ∧ s.observedAtUtc = p.observedAtUtc ∧ s.positionSetState = .complete

/-- Recording what was read keeps the tables whole. -/
theorem Whole.record {db : Database} {r : BrokerReading} {environment : Environment}
    {canonicalSymbol : String} {positions : Except PyError (List PositionState)}
    (h : Whole db.brokerAccountSnapshots db.brokerPositionSnapshots)
    (hfresh : ∀ s ∈ db.brokerAccountSnapshots, s.snapshotId ≠ r.snapshotId)
    (hbook : (r.positions, r.positionSetState) = bookOf positions) :
    Whole (db.record (r.observation environment canonicalSymbol)).brokerAccountSnapshots
      (db.record (r.observation environment canonicalSymbol)).brokerPositionSnapshots := by
  have haccounts : (db.record (r.observation environment canonicalSymbol)).brokerAccountSnapshots
      = db.brokerAccountSnapshots ++ [(r.observation environment canonicalSymbol).account] := by
    refine if_neg ?_
    intro h
    obtain ⟨s, hs, hid⟩ := List.any_eq_true.mp h
    exact hfresh s hs (of_decide_eq_true hid)
  rw [haccounts]
  constructor
  · refine Table.keyed_append h.keyed (Table.lookup_eq_none.mpr ?_)
    exact hfresh
  · intro p hp
    rcases Table.mem_of_foldl_insertNew hp with hold | hnew
    · obtain ⟨s, hs, hparent⟩ := h.parent p hold
      exact ⟨s, List.mem_append_left _ hs, hparent⟩
    · obtain ⟨position, hposition, rfl⟩ := List.mem_map.mp hnew
      refine ⟨_, List.mem_append_right _ (List.mem_singleton.mpr rfl), rfl, rfl, ?_⟩
      -- A book that has a position is one whose reading succeeded.
      cases positions with
      | ok xs => exact (Prod.ext_iff.mp hbook).2
      | error e =>
          have hnil : r.positions = [] := (Prod.ext_iff.mp hbook).1
          rw [hnil] at hposition
          cases hposition

theorem Database.Captured.whole {db : Database} (h : db.Captured) :
    Whole db.brokerAccountSnapshots db.brokerPositionSnapshots := by
  induction h with
  | empty haccounts hpositions =>
      rw [haccounts, hpositions]
      exact ⟨List.nodup_nil, by simp⟩
  | record environment canonicalSymbol _ hfresh hbook ih => exact ih.record hfresh hbook
  | other _ haccounts hpositions ih =>
      rw [haccounts, hpositions]
      exact ih

/-! ## The rows of a snapshot -/

section

variable {db : Database} {ticket : Int} {orderRequestId snapshotId : Uuid} {rows : CloseRows}

omit [Externals] in
theorem mem_ticketsInSnapshot : ticket ∈ db.ticketsInSnapshot snapshotId
    ↔ ∃ p ∈ db.brokerPositionSnapshots, p.snapshotId = snapshotId ∧ p.ticket = ticket := by
  simp [Database.ticketsInSnapshot, Database.positionsFor, and_assoc]

omit [Externals] in
/-- **A snapshot whose positions could not be read passes for a flat one.** -/
theorem Whole.unread_flat (h : Whole db.brokerAccountSnapshots db.brokerPositionSnapshots)
    {s : BrokerAccountSnapshot} (hs : s ∈ db.brokerAccountSnapshots)
    (hunread : s.positionSetState ≠ .complete) : db.ticketsInSnapshot s.snapshotId = ∅ := by
  refine Finset.eq_empty_of_forall_notMem ?_
  intro t ht
  obtain ⟨p, hp, hid, -⟩ := mem_ticketsInSnapshot.mp ht
  obtain ⟨s', hs', hid', -, hcomplete⟩ := h.parent p hp
  rw [h.keyed.eq_of_mem hs hs' (hid.symm.trans hid'.symm)] at hunread
  exact hunread hcomplete

omit [Externals] in
/-- No observation after the latest row of a ticket has a row of it. -/
theorem Whole.without_later (h : Whole db.brokerAccountSnapshots db.brokerPositionSnapshots)
    {p : BrokerPositionSnapshot} {s : BrokerAccountSnapshot}
    (hlatest : ∀ q ∈ db.brokerPositionSnapshots, q.ticket = ticket →
      q.observedAtUtc ≤ p.observedAtUtc)
    (hs : s ∈ db.brokerAccountSnapshots) (hafter : p.observedAtUtc < s.observedAtUtc) :
    ticket ∉ db.ticketsInSnapshot s.snapshotId := by
  intro ht
  obtain ⟨q, hq, hid, hticket⟩ := mem_ticketsInSnapshot.mp ht
  obtain ⟨s', hs', hid', hobserved, -⟩ := h.parent q hq
  have hsame : s = s' := h.keyed.eq_of_mem hs hs' (hid.symm.trans hid'.symm)
  have hle := hlatest q hq hticket
  rw [← hobserved, ← hsame] at hle
  exact absurd hafter (not_lt.mpr hle)

omit [Externals] in
theorem Whole.account_read (h : Whole db.brokerAccountSnapshots db.brokerPositionSnapshots)
    {s : BrokerAccountSnapshot} (hs : s ∈ db.brokerAccountSnapshots) :
    db.accountBalanceAndCurrency s.snapshotId = .ok (s.balance, s.currency) := by
  unfold Database.accountBalanceAndCurrency
  cases hl : Table.lookup (·.snapshotId) db.brokerAccountSnapshots s.snapshotId with
  | none => exact absurd rfl (Table.lookup_eq_none.mp hl s hs)
  | some row =>
      obtain ⟨hrow, hid⟩ := Table.lookup_eq_some hl
      rw [h.keyed.eq_of_mem hrow hs hid]

/-! ## The walk -/

omit [Externals] in
/-- Where no candidate has the ticket, the walk ends at the first one. -/
theorem firstWithout_ok {candidates : List BrokerAccountSnapshot} {s : BrokerAccountSnapshot}
    (hwithout : ∀ c ∈ candidates, ticket ∉ db.ticketsInSnapshot c.snapshotId) :
    firstWithout db ticket candidates = .ok (some s)
      ↔ candidates.head? = some s ∧ db.ticketsInSnapshot s.snapshotId = ∅ := by
  cases candidates with
  | nil => simp [firstWithout]
  | cons c later =>
      have hc := hwithout c List.mem_cons_self
      rw [firstWithout, if_neg hc, List.head?_cons, Option.some.injEq]
      by_cases hflat : db.ticketsInSnapshot c.snapshotId = ∅
      · rw [if_neg (not_not.mpr hflat), Except.ok.injEq, Option.some.injEq]
        constructor
        · rintro rfl
          exact ⟨rfl, hflat⟩
        · exact And.left
      · rw [if_pos hflat]
        constructor
        · intro h
          cases h
        · rintro ⟨rfl, h⟩
          exact absurd h hflat

/-- What the five checks let through. -/
theorem closeEnds_ok {ends : CloseEnds} :
    closeEnds db rows ticket orderRequestId = .ok ends
      ↔ (rows.lastOpen ticket).head? = some ends.lastOpen
        ∧ db.ticketsInSnapshot ends.lastOpen.snapshotId = {ticket}
        ∧ db.accountBalanceAndCurrency ends.lastOpen.snapshotId
          = .ok (ends.balanceBeforeClose, ends.accountCurrency)
        ∧ firstWithout db ticket (rows.candidates ends.lastOpen.observedAtUtc)
          = .ok (some ends.postClose)
        ∧ (rows.foreignFills orderRequestId ends.lastOpen.observedAtUtc
          ends.postClose.observedAtUtc).head? = none := by
  constructor
  · intro h
    unfold closeEnds at h
    split at h
    · cases h
    rename_i lastOpen hlast
    dsimp only at h
    split at h
    · cases h
    rename_i halone
    obtain ⟨⟨balance, currency⟩, hbalance, h⟩ := bind_ok h
    obtain ⟨found, hfound, h⟩ := bind_ok h
    split at h
    · cases h
    rename_i postClose
    split at h
    · cases h
    rename_i hnone
    cases h
    exact ⟨hlast, not_not.mp halone, hbalance, hfound, hnone⟩
  · rintro ⟨hlast, halone, hbalance, hfound, hnone⟩
    unfold closeEnds
    simp only [hlast, halone, ne_eq, not_true_eq_false, if_false, hbalance, hfound, bind, Except.bind,
      hnone]
    all_goals rfl

/-! ## Isolation -/

/-- Nothing but the ticket moved the account's balance from the one end of the window to the other:
every book in it was read whole, it holds the ticket alone until it is flat at the last, and no
other order was filled inside. -/
structure Isolated (db : Database) (ticket : Int) (orderRequestId : Uuid) (ends : CloseEnds)
    (w : CloseWindow) : Prop where
  first : ∃ s ∈ db.brokerAccountSnapshots, s.snapshotId = ends.lastOpen.snapshotId
    ∧ s.observedAtUtc = w.lastOpenAt ∧ s.balance = w.balanceBeforeClose
    ∧ s.currency = w.accountCurrency
    ∧ s.positionSetState = .complete ∧ db.ticketsInSnapshot s.snapshotId = {ticket}
  between : ∀ s ∈ db.brokerAccountSnapshots, w.lastOpenAt < s.observedAtUtc →
    s.observedAtUtc < w.postCloseAt →
    s.positionSetState = .complete ∧ db.ticketsInSnapshot s.snapshotId = {ticket}
  last : ends.postClose ∈ db.brokerAccountSnapshots
    ∧ ends.postClose.observedAtUtc = w.postCloseAt
    ∧ ends.postClose.balance = w.balanceAfterClose
    ∧ ends.postClose.positionSetState = .complete
    ∧ db.ticketsInSnapshot ends.postClose.snapshotId = ∅
  ordered : w.lastOpenAt < w.postCloseAt
  unfilled : ∀ e ∈ db.executionEvents,
    ¬ ForeignFill orderRequestId w.lastOpenAt w.postCloseAt e

/-- The window would close at an observation whose positions could not be read. -/
def UnreadClose (db : Database) (rows : CloseRows) (ticket : Int) (orderRequestId : Uuid) : Prop :=
  ∃ p s, (rows.lastOpen ticket).head? = some p
    ∧ db.ticketsInSnapshot p.snapshotId = {ticket}
    ∧ (rows.candidates p.observedAtUtc).head? = some s
    ∧ s.positionSetState ≠ .complete
    ∧ ∀ e ∈ db.executionEvents, ¬ ForeignFill orderRequestId p.observedAtUtc s.observedAtUtc e

omit [Externals] in
/-- No candidate after the latest row of the ticket has the ticket. -/
theorem CloseRows.Of.without (hrows : rows.Of db)
    (hwhole : Whole db.brokerAccountSnapshots db.brokerPositionSnapshots)
    {p : BrokerPositionSnapshot} (hp : (rows.lastOpen ticket).head? = some p) :
    ∀ c ∈ rows.candidates p.observedAtUtc, ticket ∉ db.ticketsInSnapshot c.snapshotId := by
  intro c hc
  obtain ⟨hmem, hafter⟩ := (hrows.candidates _).mem_iff.mp hc
  obtain ⟨-, -, hlatest⟩ := (hrows.lastOpen ticket).head_some hp
  refine hwhole.without_later ?_ hmem (of_decide_eq_true hafter)
  intro q hq hticket
  rcases hlatest q hq (decide_eq_true hticket) with rfl | hle
  · exact le_rfl
  · exact hle

omit [Externals] in
theorem CloseRows.Of.unfilled (hrows : rows.Of db) {since until_ : UtcDatetime} :
    (rows.foreignFills orderRequestId since until_).head? = none
      ↔ ∀ e ∈ db.executionEvents, ¬ ForeignFill orderRequestId since until_ e := by
  rw [(hrows.foreignFills orderRequestId since until_).head_none]
  simp only [decide_eq_false_iff_not]

/-- **What the checks let through is isolated, but for the last book having been read.** -/
theorem isolated_of_closeEnds (hdb : db.Captured) (hrows : rows.Of db) {ends : CloseEnds}
    (hends : closeEnds db rows ticket orderRequestId = .ok ends)
    (hread : ends.postClose.positionSetState = .complete) {w : CloseWindow}
    (hw : resolveIsolatedCloseWindow db rows ticket orderRequestId = .ok w) :
    Isolated db ticket orderRequestId ends w := by
  have hwhole := hdb.whole
  obtain ⟨hlast, halone, hbalance, hfound, hnone⟩ := closeEnds_ok.mp hends
  have hwithout := hrows.without hwhole hlast
  obtain ⟨hhead, hflat⟩ := (firstWithout_ok hwithout).mp hfound
  obtain ⟨hpost, hafter, hfirst⟩ := (hrows.candidates _).head_some hhead
  obtain ⟨hp, -, -⟩ := (hrows.lastOpen ticket).head_some hlast
  obtain ⟨s, hs, hid, hobserved, hcomplete⟩ := hwhole.parent _ hp
  -- The balances are those of the two observations.
  rw [← hid, hwhole.account_read hs] at hbalance
  obtain ⟨hbefore, hcurrency⟩ := Prod.ext_iff.mp (Except.ok.inj hbalance)
  obtain ⟨ends', hends', hw⟩ := bind_ok hw
  cases hends.symm.trans hends'
  obtain ⟨⟨after, currency⟩, hafterRead, hw⟩ := bind_ok hw
  rw [hwhole.account_read hpost] at hafterRead
  obtain ⟨rfl, -⟩ := Prod.ext_iff.mp (Except.ok.inj hafterRead)
  cases hw
  refine ⟨⟨s, hs, hid, hobserved, hbefore, hcurrency, hcomplete, ?_⟩, ?_,
    ⟨hpost, rfl, rfl, hread, hflat⟩, of_decide_eq_true hafter, hrows.unfilled.mp hnone⟩
  · rw [hid]
    exact halone
  · -- The window closes at the first observation, so none lies between.
    intro x hx hlo hhi
    rcases hfirst x hx (decide_eq_true hlo) with rfl | hle
    · exact absurd hhi (lt_irrefl _)
    · exact absurd hhi (not_lt.mpr hle)

/-- **A window is isolated unless it closes at a book that could not be read.** -/
theorem close_window_isolated_iff (hdb : db.Captured) (hrows : rows.Of db) :
    (∀ w, resolveIsolatedCloseWindow db rows ticket orderRequestId = .ok w →
      ∃ ends, closeEnds db rows ticket orderRequestId = .ok ends
        ∧ Isolated db ticket orderRequestId ends w)
      ↔ ¬ UnreadClose db rows ticket orderRequestId := by
  have hwhole := hdb.whole
  constructor
  · rintro hall ⟨p, s, hlast, halone, hhead, hunread, hunfilled⟩
    obtain ⟨hs, -, -⟩ := (hrows.candidates _).head_some hhead
    obtain ⟨hp, -, -⟩ := (hrows.lastOpen ticket).head_some hlast
    obtain ⟨s', hs', hid, -, -⟩ := hwhole.parent _ hp
    have hbalance := hwhole.account_read hs'
    rw [hid] at hbalance
    have hends : closeEnds db rows ticket orderRequestId
        = .ok ⟨p, s'.balance, s'.currency, s⟩ :=
      closeEnds_ok.mpr ⟨hlast, halone, hbalance,
        (firstWithout_ok (hrows.without hwhole hlast)).mpr ⟨hhead, hwhole.unread_flat hs hunread⟩,
        hrows.unfilled.mpr hunfilled⟩
    have hw : resolveIsolatedCloseWindow db rows ticket orderRequestId
        = .ok ⟨p.observedAtUtc, s'.balance, s.observedAtUtc, s.balance, s'.currency⟩ := by
      unfold resolveIsolatedCloseWindow
      rw [hends]
      change (db.accountBalanceAndCurrency s.snapshotId >>= _) = _
      rw [hwhole.account_read hs]
      rfl
    obtain ⟨ends, hends', hisolated⟩ := hall _ hw
    cases hends.symm.trans hends'
    exact hunread hisolated.last.2.2.2.1
  · intro hread w hw
    obtain ⟨ends, hends, -⟩ := bind_ok hw
    refine ⟨ends, hends, isolated_of_closeEnds hdb hrows hends ?_ hw⟩
    by_contra hunread
    obtain ⟨hlast, halone, -, hfound, hnone⟩ := closeEnds_ok.mp hends
    exact hread ⟨ends.lastOpen, ends.postClose, hlast, halone,
      ((firstWithout_ok (hrows.without hwhole hlast)).mp hfound).1, hunread,
      hrows.unfilled.mp hnone⟩

end

/-! ## A database that answers -/

/-- The answers of a database that sorts its rows and leaves ties as they were inserted. -/
def CloseRows.sorted (db : Database) : CloseRows where
  lastOpen ticket := (db.brokerPositionSnapshots.filter fun p =>
    decide (p.ticket = ticket)).insertionSort fun p q => q.observedAtUtc ≤ p.observedAtUtc
  candidates since := (db.brokerAccountSnapshots.filter fun s =>
    decide (since < s.observedAtUtc)).insertionSort fun s s' => s.observedAtUtc ≤ s'.observedAtUtc
  foreignFills orderRequestId since until_ :=
    db.executionEvents.filter fun e => decide (ForeignFill orderRequestId since until_ e)

omit [Externals] in
theorem CloseRows.sorted_of (db : Database) : (CloseRows.sorted db).Of db where
  lastOpen _ := by
    have : Std.Total fun p q : BrokerPositionSnapshot => q.observedAtUtc ≤ p.observedAtUtc :=
      ⟨fun p q => le_total q.observedAtUtc p.observedAtUtc⟩
    have : IsTrans BrokerPositionSnapshot fun p q => q.observedAtUtc ≤ p.observedAtUtc :=
      ⟨fun _ _ _ h h' => le_trans h' h⟩
    exact ⟨List.perm_insertionSort _ _, List.pairwise_insertionSort _ _⟩
  candidates _ := by
    have : Std.Total fun s s' : BrokerAccountSnapshot => s.observedAtUtc ≤ s'.observedAtUtc :=
      ⟨fun s s' => le_total s.observedAtUtc s'.observedAtUtc⟩
    have : IsTrans BrokerAccountSnapshot fun s s' => s.observedAtUtc ≤ s'.observedAtUtc :=
      ⟨fun _ _ _ h h' => le_trans h h'⟩
    exact ⟨List.perm_insertionSort _ _, List.pairwise_insertionSort _ _⟩
  foreignFills _ _ _ := ⟨.refl _, List.pairwise_of_forall fun _ _ => trivial⟩

end Crumblr

namespace Crumblr

namespace Sample

/-- What is read of the broker while a position is open. -/
def holding : BrokerReading :=
  ⟨⟨"holding"⟩, noon, account, ⟨⟨0, 0⟩, none⟩, some true, [overdue], .complete, [], .complete, noon⟩

/-- What is read a minute later, the terminal not answering for the positions. -/
def unanswered : BrokerReading :=
  { holding with
    snapshotId := ⟨"unanswered"⟩, observedAtUtc := noon + minutes 1, positions := []
    positionSetState := .failed }

/-- What is read a minute later, the position gone. -/
def closed : BrokerReading := { unanswered with positionSetState := .complete }

/-- Both readings, as they are stored. -/
def after (later : BrokerReading) : Database :=
  (world.db.record (holding.observation .paper "EUR/USD")).record
    (later.observation .paper "EUR/USD")

theorem after_captured {later : BrokerReading} (positions : Except PyError (List PositionState))
    (hid : later.snapshotId ≠ ⟨"holding"⟩)
    (hbook : (later.positions, later.positionSetState) = bookOf positions) :
    (after later).Captured := by
  refine .record .paper "EUR/USD" ?_ ?_ hbook
  · exact @Database.Captured.record _ _ _ (.ok [overdue]) .paper "EUR/USD" (.empty rfl rfl)
      (fun s hs => by cases hs) rfl
  · intro s hs
    have hrows : (world.db.record (holding.observation .paper "EUR/USD")).brokerAccountSnapshots
        = [(holding.observation .paper "EUR/USD").account] := rfl
    rw [hrows, List.mem_singleton] at hs
    subst hs
    exact hid.symm

/-- The window two readings a minute apart give. -/
def minuteWindow : CloseWindow := ⟨noon, ⟨10000, 0⟩, noon + minutes 1, ⟨10000, 0⟩, "USD"⟩

end Sample

open Sample in
theorem close_window_isolated_sample :
    ∃ db rows ends, db.Captured ∧ rows.Of db
      ∧ resolveIsolatedCloseWindow db rows 5 ⟨"order"⟩ = .ok minuteWindow
      ∧ Isolated db 5 ⟨"order"⟩ ends minuteWindow := by
  have hdb : (after closed).Captured :=
    after_captured (.ok []) (by decide) rfl
  have hrows := CloseRows.sorted_of (after closed)
  have hw : resolveIsolatedCloseWindow (after closed) (CloseRows.sorted (after closed)) 5 ⟨"order"⟩
      = .ok minuteWindow := by decide +kernel
  have hread : ¬ UnreadClose (after closed) (CloseRows.sorted (after closed)) 5 ⟨"order"⟩ := by
    rintro ⟨p, s, -, -, hhead, hunread, -⟩
    obtain ⟨hs, -, -⟩ := (hrows.candidates _).head_some hhead
    have hall : ∀ s ∈ (after closed).brokerAccountSnapshots, s.positionSetState = .complete := by
      decide +kernel
    exact hunread (hall s hs)
  obtain ⟨ends, -, hisolated⟩ := (close_window_isolated_iff hdb hrows).mpr hread _ hw
  exact ⟨_, _, ends, hdb, hrows, hw, hisolated⟩

open Sample in
/-- A position that the terminal did not answer for passes for a closed one. -/
theorem close_window_unread :
    ¬ ∀ (db : Database) (rows : CloseRows) (ticket : Int) (orderRequestId : Uuid), db.Captured →
      rows.Of db → ∀ w, resolveIsolatedCloseWindow db rows ticket orderRequestId = .ok w →
        ∃ ends, closeEnds db rows ticket orderRequestId = .ok ends
          ∧ Isolated db ticket orderRequestId ends w := by
  intro h
  have hw : resolveIsolatedCloseWindow (after unanswered) (CloseRows.sorted (after unanswered)) 5
      ⟨"order"⟩ = .ok minuteWindow := by decide +kernel
  obtain ⟨ends, -, hisolated⟩ := h _ _ 5 ⟨"order"⟩
    (after_captured (.error ⟨.mt5CallFailed, ""⟩) (by decide) rfl)
    (CloseRows.sorted_of _) _ hw
  obtain ⟨hmem, hobserved, -, hcomplete, -⟩ := hisolated.last
  have hall : ∀ s ∈ (after unanswered).brokerAccountSnapshots,
      s.observedAtUtc = minuteWindow.postCloseAt → s.positionSetState ≠ .complete := by
    decide +kernel
  exact hall _ hmem hobserved hcomplete

end Crumblr
