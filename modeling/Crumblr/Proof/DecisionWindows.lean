import Crumblr.Proof.CapsuleRetention
import Crumblr.Proof.Commitments

/-!
# A decision window is decided once

The record of the windows is written before a window is put to the strategy and again before
its capsule is sealed, and what a worker remembers is never behind it. So while the record can
be read, no window is put twice and no hash is approved twice, whatever fails.

A worker that finds the record unreadable halts, remembers nothing, and writes on. The next to
read the record finds what that one wrote. So the halt, and whoever lifts it, has to see to it
that what was approved is not forgotten.
-/

namespace Crumblr

open Machine

variable [Externals]

/-! ## What is on record and what is remembered -/

/-- The worker's own rows. -/
def LiveDecisionService.rows (live : LiveDecisionService) (w : LiveWorld) : DecisionWindowStates :=
  w.windows.forKey live.canonicalSymbol live.strategy.strategyId live.config.configVersion

/-- The window and the hashes a reader of the newest row restores. -/
def recordedLast (rows : DecisionWindowStates) : Option UtcDatetime :=
  rows.getLast?.map (·.lastDecidedOpenTimeUtc)

def recordedHashes (rows : DecisionWindowStates) : List String :=
  (rows.getLast?.map (·.seenDecisionHashes)).getD []

/-- Every approval's window is no later than the last, and its hash was seen. -/
def Recalls (approvals : List LiveApproval) (last : Option UtcDatetime) (seen : List String) :
    Prop :=
  ∀ a ∈ approvals, ∃ t l h, a.window = some t ∧ last = some l ∧ t ≤ l ∧ a.decisionHash = some h
    ∧ h ∈ seen

/-- Every approval's window is before this one, and its hash was seen. -/
def Before (approvals : List LiveApproval) (t : UtcDatetime) (seen : List String) : Prop :=
  ∀ a ∈ approvals, ∃ s h, a.window = some s ∧ s < t ∧ a.decisionHash = some h ∧ h ∈ seen

omit [Externals] in
theorem Before.recalls {approvals : List LiveApproval} {t : UtcDatetime} {seen : List String}
    (h : Before approvals t seen) : Recalls approvals (some t) seen := by
  intro a ha
  obtain ⟨s, hash, hs, hlt, hhash, hseen⟩ := h a ha
  exact ⟨s, t, hash, hs, rfl, le_of_lt hlt, hhash, hseen⟩

omit [Externals] in
theorem Recalls.before {approvals : List LiveApproval} {last : Option UtcDatetime}
    {t : UtcDatetime} {seen : List String} (h : Recalls approvals last seen)
    (hlast : ∀ l, last = some l → l < t) : Before approvals t seen := by
  intro a ha
  obtain ⟨s, l, hash, hs, hl, hle, hhash, hseen⟩ := h a ha
  exact ⟨s, hash, hs, lt_of_le_of_lt hle (hlast l hl), hhash, hseen⟩

omit [Externals] in
theorem Before.add {approvals : List LiveApproval} {t : UtcDatetime} {seen : List String}
    {hash : String} (h : Before approvals t seen) : Before approvals t (seen ++ [hash]) := by
  intro a ha
  obtain ⟨s, held, hs, hlt, hhash, hseen⟩ := h a ha
  exact ⟨s, held, hs, hlt, hhash, List.mem_append_left _ hseen⟩

/-! ## The invariants -/

/-- A decision window is decided at most once. -/
structure DecidedOnce (live : LiveDecisionService) (w : LiveWorld) : Prop where
  /-- While the record could be read, no window was put to the strategy twice. -/
  put : w.notes.unread = false → w.notes.put.Nodup
  /-- And the last window on record never went back. -/
  rows : w.notes.unread = false → (live.rows w).Pairwise fun r r' =>
    r.lastDecidedOpenTimeUtc ≤ r'.lastDecidedOpenTimeUtc
  /-- No window has two approved capsules. -/
  windows : (w.notes.approvals.map (·.window)).Nodup
  /-- No decision is approved twice. -/
  hashes : (w.notes.approvals.map (·.decisionHash)).Nodup
  /-- Nothing is approved between an unreadable record and a reset. -/
  reset : ∀ a ∈ w.notes.approvals, a.blind = false

/-- With what the record says of it. -/
structure Recorded (live : LiveDecisionService) (w : LiveWorld) : Prop
    extends DecidedOnce live w where
  putKept : w.notes.unread = false → ∀ p ∈ w.notes.put, ∃ t, p = some t
    ∧ ∃ r ∈ live.rows w, t ≤ r.lastDecidedOpenTimeUtc
  kept : w.notes.unread = false →
    Recalls w.notes.approvals (recordedLast (live.rows w)) (recordedHashes (live.rows w))

/-- A worker that found the record unreadable is halted. -/
structure Steady (live : LiveDecisionService) (w : LiveWorld) : Prop extends Recorded live w where
  halted : w.notes.blind = true → w.memory.killSwitch.isHalted = true

/-- The memory is not behind the record. -/
structure Knows (live : LiveDecisionService) (w : LiveWorld) : Prop where
  rows : w.notes.unread = false → ∀ r ∈ live.rows w, ∃ l, w.memory.lastDecidedOpenTime = some l
    ∧ r.lastDecidedOpenTimeUtc ≤ l
  recalls : w.notes.unread = false ∨ w.memory.killSwitch.isHalted = false →
    Recalls w.notes.approvals w.memory.lastDecidedOpenTime w.memory.seenHashes

/-! ## The phases -/

namespace Windows

structure Idle (live : LiveDecisionService) (w : LiveWorld) : Prop extends Steady live w where
  knows : w.memory.decisionWindowRecovered = true → Knows live w

structure Ready (live : LiveDecisionService) (w : LiveWorld) : Prop extends Steady live w where
  knows : Knows live w

structure Fresh (live : LiveDecisionService) (t : UtcDatetime) (w : LiveWorld) : Prop
    extends Ready live w where
  last : ∀ l, w.memory.lastDecidedOpenTime = some l → l < t

/-- The window is claimed in memory. -/
structure Claimed (live : LiveDecisionService) (t : UtcDatetime) (w : LiveWorld) : Prop
    extends Steady live w where
  last : w.memory.lastDecidedOpenTime = some t
  older : w.notes.unread = false → ∀ r ∈ live.rows w, r.lastDecidedOpenTimeUtc < t
  before : w.notes.unread = false ∨ w.memory.killSwitch.isHalted = false →
    Before w.notes.approvals t w.memory.seenHashes

/-- And on record. -/
structure Put (live : LiveDecisionService) (t : UtcDatetime) (w : LiveWorld) : Prop
    extends Steady live w where
  last : w.memory.lastDecidedOpenTime = some t
  newest : w.notes.unread = false → ∀ r ∈ live.rows w, r.lastDecidedOpenTimeUtc ≤ t
  row : ∃ r ∈ live.rows w, r.lastDecidedOpenTimeUtc = t
  before : w.notes.unread = false ∨ w.memory.killSwitch.isHalted = false →
    Before w.notes.approvals t w.memory.seenHashes

/-- And it was not put to the strategy yet. -/
structure Saved (live : LiveDecisionService) (t : UtcDatetime) (w : LiveWorld) : Prop
    extends Put live t w where
  unput : w.notes.unread = false → some t ∉ w.notes.put

/-- Risk has passed an intent that no approval has the hash of. -/
structure Passed (live : LiveDecisionService) (t : UtcDatetime) (h : String) (w : LiveWorld) :
    Prop extends Put live t w where
  told : w.notes.blind = false
  earlier : Before w.notes.approvals t w.memory.seenHashes
  unseen : ∀ a ∈ w.notes.approvals, a.decisionHash ≠ some h

structure Added (live : LiveDecisionService) (t : UtcDatetime) (h : String) (w : LiveWorld) :
    Prop extends Passed live t h w where
  added : h ∈ w.memory.seenHashes

structure Kept (live : LiveDecisionService) (t : UtcDatetime) (h : String) (w : LiveWorld) :
    Prop extends Added live t h w where
  record : recordedLast (live.rows w) = some t
  recordEarlier : Before w.notes.approvals t (recordedHashes (live.rows w))
  recordAdded : h ∈ recordedHashes (live.rows w)

end Windows

/-! ## What is left alone -/

/-- Nothing the decisions rest on has changed, but that a switch may have been tripped and an
operator may have reset the durable halt. -/
structure Same (w w' : LiveWorld) : Prop where
  recovered : w'.memory.decisionWindowRecovered = w.memory.decisionWindowRecovered
  last : w'.memory.lastDecidedOpenTime = w.memory.lastDecidedOpenTime
  seen : w'.memory.seenHashes = w.memory.seenHashes
  windows : w'.windows = w.windows
  unread : w'.notes.unread = w.notes.unread
  put : w'.notes.put = w.notes.put
  approvals : w'.notes.approvals = w.notes.approvals
  halted : w.memory.killSwitch.isHalted = true → w'.memory.killSwitch.isHalted = true
  blind : w'.notes.blind = true → w.notes.blind = true

theorem same_serve {w : LiveWorld} {o : LiveOracle} {c : LiveCall} (hc : c.Quiet) :
    Same w (w.serve o c).2 := by
  cases c with
  | restore | markRecovered | claimWindow | addSeen | loadWindow | saveWindow | strategy
  | «seal» | report | resetHalt => exact absurd hc (by simp [LiveCall.Quiet])
  | trip halt =>
      unfold LiveWorld.serve LiveOracle.writeThen
      dsimp only
      repeat' split
      · exact ⟨rfl, rfl, rfl, rfl, rfl, rfl, rfl, fun _ => rfl, id⟩
      · exact ⟨rfl, rfl, rfl, rfl, rfl, rfl, rfl, id, id⟩
      · exact ⟨rfl, rfl, rfl, rfl, rfl, rfl, rfl, id, id⟩
  | _ =>
      unfold LiveWorld.serve
      try unfold LiveOracle.write LiveOracle.writeThen
      try unfold LiveOracle.read
      dsimp only
      repeat' split
      all_goals exact ⟨rfl, rfl, rfl, rfl, rfl, rfl, rfl, id, id⟩

omit [Externals] in
theorem same_nature {w : LiveWorld} {n : LiveWorld.Event} : Same w (LiveWorld.nature n w) := by
  cases n with
  | reset => exact ⟨rfl, rfl, rfl, rfl, rfl, rfl, rfl, id, fun h => by cases h⟩
  | _ => exact ⟨rfl, rfl, rfl, rfl, rfl, rfl, rfl, id, id⟩

variable {live : LiveDecisionService} {w w' : LiveWorld} {t : UtcDatetime} {h : String}

section

omit [Externals]

theorem Same.rows (hs : Same w w') : live.rows w' = live.rows w := by
  unfold LiveDecisionService.rows
  rw [hs.windows]

theorem Same.running (hs : Same w w') (hw : w'.memory.killSwitch.isHalted = false) :
    w.memory.killSwitch.isHalted = false := by
  cases hhalted : w.memory.killSwitch.isHalted with
  | false => rfl
  | true => rw [hs.halted hhalted] at hw; cases hw

/-- Where a memory had to recall the approvals before, it has to at most now. -/
theorem Same.recalling (hs : Same w w')
    (hw : w'.notes.unread = false ∨ w'.memory.killSwitch.isHalted = false) :
    w.notes.unread = false ∨ w.memory.killSwitch.isHalted = false := by
  rcases hw with hunread | hrunning
  · exact .inl (hs.unread ▸ hunread)
  · exact .inr (hs.running hrunning)

theorem DecidedOnce.mono (hw : DecidedOnce live w) (hs : Same w w') : DecidedOnce live w' where
  put := by rw [hs.unread, hs.put]; exact hw.put
  rows := by rw [hs.unread, hs.rows]; exact hw.rows
  windows := by rw [hs.approvals]; exact hw.windows
  hashes := by rw [hs.approvals]; exact hw.hashes
  reset := by rw [hs.approvals]; exact hw.reset

theorem Recorded.mono (hw : Recorded live w) (hs : Same w w') : Recorded live w' where
  toDecidedOnce := hw.toDecidedOnce.mono hs
  putKept := by rw [hs.unread, hs.put, hs.rows]; exact hw.putKept
  kept := by rw [hs.unread, hs.approvals, hs.rows]; exact hw.kept

theorem Steady.mono (hw : Steady live w) (hs : Same w w') : Steady live w' where
  toRecorded := hw.toRecorded.mono hs
  halted := fun hblind => hs.halted (hw.halted (hs.blind hblind))

theorem Knows.mono (hw : Knows live w) (hs : Same w w') : Knows live w' where
  rows := by rw [hs.unread, hs.rows, hs.last]; exact hw.rows
  recalls := fun hneed => by
    rw [hs.approvals, hs.last, hs.seen]
    exact hw.recalls (hs.recalling hneed)

namespace Windows

theorem Idle.mono (hw : Idle live w) (hs : Same w w') : Idle live w' where
  toSteady := hw.toSteady.mono hs
  knows := fun hrecovered => (hw.knows (hs.recovered ▸ hrecovered)).mono hs

theorem Ready.mono (hw : Ready live w) (hs : Same w w') : Ready live w' where
  toSteady := hw.toSteady.mono hs
  knows := hw.knows.mono hs

theorem Fresh.mono (hw : Fresh live t w) (hs : Same w w') : Fresh live t w' where
  toReady := hw.toReady.mono hs
  last := by rw [hs.last]; exact hw.last

theorem Claimed.mono (hw : Claimed live t w) (hs : Same w w') : Claimed live t w' where
  toSteady := hw.toSteady.mono hs
  last := by rw [hs.last]; exact hw.last
  older := by rw [hs.unread, hs.rows]; exact hw.older
  before := fun hneed => by
    rw [hs.approvals, hs.seen]
    exact hw.before (hs.recalling hneed)

theorem Put.mono (hw : Put live t w) (hs : Same w w') : Put live t w' where
  toSteady := hw.toSteady.mono hs
  last := by rw [hs.last]; exact hw.last
  newest := by rw [hs.unread, hs.rows]; exact hw.newest
  row := by rw [hs.rows]; exact hw.row
  before := fun hneed => by
    rw [hs.approvals, hs.seen]
    exact hw.before (hs.recalling hneed)

theorem Saved.mono (hw : Saved live t w) (hs : Same w w') : Saved live t w' where
  toPut := hw.toPut.mono hs
  unput := by rw [hs.unread, hs.put]; exact hw.unput

theorem Passed.mono (hw : Passed live t h w) (hs : Same w w') : Passed live t h w' where
  toPut := hw.toPut.mono hs
  told := by
    have hblind := hw.told
    cases hb : w'.notes.blind with
    | false => rfl
    | true => rw [hs.blind hb] at hblind; cases hblind
  earlier := by rw [hs.approvals, hs.seen]; exact hw.earlier
  unseen := by rw [hs.approvals]; exact hw.unseen

theorem Added.mono (hw : Added live t h w) (hs : Same w w') : Added live t h w' where
  toPassed := hw.toPassed.mono hs
  added := by rw [hs.seen]; exact hw.added

theorem Kept.mono (hw : Kept live t h w) (hs : Same w w') : Kept live t h w' where
  toAdded := hw.toAdded.mono hs
  record := by rw [hs.rows]; exact hw.record
  recordEarlier := by rw [hs.approvals, hs.rows]; exact hw.recordEarlier
  recordAdded := by rw [hs.rows]; exact hw.recordAdded

/-! ## A pass may end in any phase -/

theorem Ready.idle (hw : Ready live w) : Idle live w where
  toSteady := hw.toSteady
  knows := fun _ => hw.knows

theorem Claimed.idle (hw : Claimed live t w) : Idle live w where
  toSteady := hw.toSteady
  knows := fun _ => {
    rows := fun hunread r hr => ⟨t, hw.last, le_of_lt (hw.older hunread r hr)⟩
    recalls := fun hneed => by
      rw [hw.last]
      exact (hw.before hneed).recalls }

theorem Put.idle (hw : Put live t w) : Idle live w where
  toSteady := hw.toSteady
  knows := fun _ => {
    rows := fun hunread r hr => ⟨t, hw.last, hw.newest hunread r hr⟩
    recalls := fun hneed => by
      rw [hw.last]
      exact (hw.before hneed).recalls }

end Windows

/-! ## What the calls that count leave -/

/-- The newest of rows that never went back. -/
theorem le_recordedLast {rows : DecisionWindowStates} (hrows : rows.Pairwise fun r r' =>
      r.lastDecidedOpenTimeUtc ≤ r'.lastDecidedOpenTimeUtc) {r : DecisionWindowState}
    (hr : r ∈ rows) : ∃ l, recordedLast rows = some l ∧ r.lastDecidedOpenTimeUtc ≤ l := by
  rcases List.eq_nil_or_concat rows with rfl | ⟨older, newest, rfl⟩
  · cases hr
  · rw [List.concat_eq_append] at hrows hr ⊢
    refine ⟨newest.lastDecidedOpenTimeUtc, by simp [recordedLast], ?_⟩
    rcases List.mem_append.mp hr with hold | hnew
    · exact (List.pairwise_append.mp hrows).2.2 r hold newest (List.mem_singleton_self _)
    · rw [List.mem_singleton.mp hnew]

/-- The world with one more row. -/
def LiveWorld.saved (w : LiveWorld) (row : DecisionWindowState) : LiveWorld :=
  { w with windows := w.windows ++ [row] }

/-- What a worker saves: its key, the window it claimed, and every hash it has seen. -/
structure SavedRow (live : LiveDecisionService) (t : UtcDatetime) (w : LiveWorld)
    (row : DecisionWindowState) : Prop where
  key : row.canonicalSymbol = live.canonicalSymbol ∧ row.strategyId = live.strategy.strategyId
    ∧ row.configVersion = live.config.configVersion
  last : row.lastDecidedOpenTimeUtc = t
  seen : row.seenDecisionHashes = w.memory.seenHashes

variable {row : DecisionWindowState}

theorem rows_saved (hrow : SavedRow live t w row) :
    live.rows (w.saved row) = live.rows w ++ [row] := by
  unfold LiveDecisionService.rows LiveWorld.saved DecisionWindowStates.forKey
  rw [List.filter_append]
  simp [hrow.key]

theorem recorded_saved (hrow : SavedRow live t w row) :
    recordedLast (live.rows (w.saved row)) = some t
      ∧ recordedHashes (live.rows (w.saved row)) = w.memory.seenHashes := by
  rw [rows_saved hrow, ← hrow.last, ← hrow.seen]
  simp [recordedLast, recordedHashes]

/-- A row that is no older than any and knows every approval. -/
theorem Steady.saved (hw : Steady live w) (hrow : SavedRow live t w row)
    (hnewest : w.notes.unread = false → ∀ r ∈ live.rows w, r.lastDecidedOpenTimeUtc ≤ t)
    (hbefore : w.notes.unread = false → Before w.notes.approvals t w.memory.seenHashes) :
    Steady live (w.saved row) where
  put := hw.put
  rows := fun hunread => by
    rw [rows_saved hrow, List.pairwise_append]
    refine ⟨hw.rows hunread, List.pairwise_singleton _ _, ?_⟩
    intro r hr r' hr'
    rw [List.mem_singleton.mp hr', hrow.last]
    exact hnewest hunread r hr
  windows := hw.windows
  hashes := hw.hashes
  reset := hw.reset
  putKept := fun hunread p hp => by
    obtain ⟨s, hs, r, hr, hle⟩ := hw.putKept hunread p hp
    exact ⟨s, hs, r, by rw [rows_saved hrow]; exact List.mem_append_left _ hr, hle⟩
  kept := fun hunread => by
    obtain ⟨hlast, hseen⟩ := recorded_saved hrow
    rw [hlast, hseen]
    exact (hbefore hunread).recalls
  halted := hw.halted

namespace Windows

theorem Fresh.claimed (hw : Fresh live t w) :
    Claimed live t { w with memory := { w.memory with lastDecidedOpenTime := some t } } where
  put := hw.put
  rows := hw.rows
  windows := hw.windows
  hashes := hw.hashes
  reset := hw.reset
  putKept := hw.putKept
  kept := hw.kept
  halted := hw.halted
  last := rfl
  older := fun hunread r hr => by
    obtain ⟨l, hl, hle⟩ := hw.knows.rows hunread r hr
    exact lt_of_le_of_lt hle (hw.last l hl)
  before := fun hneed => (hw.knows.recalls hneed).before hw.last

theorem Claimed.saved (hw : Claimed live t w) (hrow : SavedRow live t w row) :
    Saved live t (w.saved row) where
  toSteady := hw.toSteady.saved hrow (fun hunread r hr => le_of_lt (hw.older hunread r hr))
    fun hunread => hw.before (.inl hunread)
  last := hw.last
  newest := fun hunread r hr => by
    rw [rows_saved hrow] at hr
    rcases List.mem_append.mp hr with hold | hnew
    · exact le_of_lt (hw.older hunread r hold)
    · rw [List.mem_singleton.mp hnew, hrow.last]
  row := ⟨row, by rw [rows_saved hrow]; simp, hrow.last⟩
  before := hw.before
  unput := fun hunread hput => by
    obtain ⟨s, hs, r, hr, hle⟩ := hw.putKept hunread _ hput
    cases hs
    exact absurd (hw.older hunread r hr) (not_lt.mpr hle)

/-- The window is put to the strategy, and it was not before. -/
theorem Saved.asked (hw : Saved live t w) :
    Put live t { w with notes := { w.notes with
      put := w.notes.put ++ [w.memory.lastDecidedOpenTime] } } where
  put := fun hunread => by
    dsimp only
    rw [hw.last, List.nodup_append]
    refine ⟨hw.put hunread, List.nodup_singleton _, ?_⟩
    rintro p hp q hq rfl
    rw [List.mem_singleton.mp hq] at hp
    exact hw.unput hunread hp
  rows := hw.rows
  windows := hw.windows
  hashes := hw.hashes
  reset := hw.reset
  putKept := fun hunread p hp => by
    rcases List.mem_append.mp hp with hold | hnew
    · exact hw.putKept hunread p hold
    · obtain ⟨r, hr, hrt⟩ := hw.row
      rw [List.mem_singleton.mp hnew, hw.last]
      exact ⟨t, rfl, r, hr, le_of_eq hrt.symm⟩
  kept := hw.kept
  halted := hw.halted
  last := hw.last
  newest := hw.newest
  row := hw.row
  before := hw.before

theorem Put.pass (hw : Put live t w) (hrunning : w.memory.killSwitch.isHalted = false)
    (hunseen : h ∉ w.memory.seenHashes) : Passed live t h w where
  toPut := hw
  told := by
    cases hblind : w.notes.blind with
    | false => rfl
    | true => rw [hw.halted hblind] at hrunning; cases hrunning
  earlier := hw.before (.inr hrunning)
  unseen := fun a ha heq => by
    obtain ⟨s, hash, -, -, hhash, hseen⟩ := hw.before (.inr hrunning) a ha
    rw [hhash] at heq
    cases heq
    exact hunseen hseen

theorem Passed.add (hw : Passed live t h w) :
    Added live t h { w with memory := { w.memory with seenHashes := w.memory.seenHashes ++ [h] } }
    where
  put := hw.put
  rows := hw.rows
  windows := hw.windows
  hashes := hw.hashes
  reset := hw.reset
  putKept := hw.putKept
  kept := hw.kept
  halted := hw.halted
  last := hw.last
  newest := hw.newest
  row := hw.row
  before := fun hneed => (hw.before hneed).add
  told := hw.told
  earlier := hw.earlier.add
  unseen := hw.unseen
  added := by simp

theorem Added.saved (hw : Added live t h w) (hrow : SavedRow live t w row) :
    Kept live t h (w.saved row) where
  toSteady := hw.toSteady.saved hrow hw.newest fun _ => hw.earlier
  last := hw.last
  newest := fun hunread r hr => by
    rw [rows_saved hrow] at hr
    rcases List.mem_append.mp hr with hold | hnew
    · exact hw.newest hunread r hold
    · rw [List.mem_singleton.mp hnew, hrow.last]
  row := ⟨row, by rw [rows_saved hrow]; simp, hrow.last⟩
  before := hw.before
  told := hw.told
  earlier := hw.earlier
  unseen := hw.unseen
  added := hw.added
  record := (recorded_saved hrow).1
  recordEarlier := by rw [(recorded_saved hrow).2]; exact hw.earlier
  recordAdded := by rw [(recorded_saved hrow).2]; exact hw.added

end Windows

/-- One more approval, of a window after all others and with a hash of its own. -/
theorem Before.recalls_append {approvals : List LiveApproval} {seen : List String} {blind : Bool}
    (hbefore : Before approvals t seen) (hh : h ∈ seen) :
    Recalls (approvals ++ [⟨some t, some h, blind⟩]) (some t) seen := by
  intro a ha
  rcases List.mem_append.mp ha with hold | hnew
  · exact hbefore.recalls a hold
  · rw [List.mem_singleton.mp hnew]
    exact ⟨t, t, h, rfl, rfl, le_refl _, rfl, hh⟩

/-- **Approving keeps all of it.** -/
theorem Windows.Kept.approved (hw : Windows.Kept live t h w) :
    Windows.Idle live { w with notes := { w.notes with
      approvals := w.notes.approvals ++ [⟨w.memory.lastDecidedOpenTime, some h, w.notes.blind⟩] } }
    where
  put := hw.put
  rows := hw.rows
  windows := by
    dsimp only
    rw [hw.last, List.map_append, List.nodup_append]
    refine ⟨hw.windows, List.nodup_singleton _, ?_⟩
    rintro p hp q hq rfl
    obtain ⟨a, ha, rfl⟩ := List.mem_map.mp hp
    obtain ⟨s, -, hs, hlt, -⟩ := hw.earlier a ha
    have hsame : a.window = some t := by simpa using hq
    rw [hs] at hsame
    cases hsame
    exact lt_irrefl _ hlt
  hashes := by
    dsimp only
    rw [List.map_append, List.nodup_append]
    refine ⟨hw.hashes, List.nodup_singleton _, ?_⟩
    rintro p hp q hq rfl
    obtain ⟨a, ha, rfl⟩ := List.mem_map.mp hp
    exact hw.unseen a ha (by simpa using hq)
  reset := fun a ha => by
    rcases List.mem_append.mp ha with hold | hnew
    · exact hw.reset a hold
    · rw [List.mem_singleton.mp hnew]
      exact hw.told
  putKept := hw.putKept
  kept := fun _ => by
    dsimp only
    rw [hw.last]
    exact hw.record ▸ hw.recordEarlier.recalls_append hw.recordAdded
  halted := hw.halted
  knows := fun _ => {
    rows := fun hunread r hr => ⟨t, hw.last, hw.newest hunread r hr⟩
    recalls := fun _ => by
      dsimp only
      rw [hw.last]
      exact hw.earlier.recalls_append hw.added }

end

/-- Sealing writes the note of an approval, and nothing else that counts. -/
theorem same_seal {o : LiveOracle} {capsule : SealedCapsule} :
    Same (w.noteApproval capsule) (w.serve o (.seal capsule)).2 := by
  unfold LiveWorld.serve LiveOracle.write LiveOracle.writeThen
  dsimp only
  have hmemory : (w.noteApproval capsule).memory = w.memory := by
    unfold LiveWorld.noteApproval
    split <;> rfl
  repeat' split
  all_goals
    refine ⟨?_, ?_, ?_, rfl, rfl, rfl, rfl, ?_, id⟩
  all_goals first | exact fun hhalted => hmemory ▸ hhalted | simp only [hmemory] <;> rfl

/-! ## The conditions -/

/-- What was approved is not forgotten, although the record was unreadable once:

* a worker that starts with a running switch finds a record that recalls it,
* an operator resets the switch of a worker that remembers it,
* no worker dies while the halt it owes is not the durable state,
* and that halt is written when it is asked for. -/
def nothingForgotten (live : LiveDecisionService) : LiveSurroundings where
  call w o
    | .loadWindow canonicalSymbol strategyId configVersion =>
        (w.windows.loadLatest canonicalSymbol strategyId configVersion o.unreadable).unreadable = none →
        w.notes.unread = true → w.memory.killSwitch.isHalted = false →
        Recalls w.notes.approvals (recordedLast (live.rows w)) (recordedHashes (live.rows w))
    | .trip _ => w.notes.blind = true → w.memory.killSwitch.isHalted = false → o.failure = none
    | .resetHalt .. => w.notes.unread = true → w.memory.decisionWindowRecovered = true →
        Recalls w.notes.approvals w.memory.lastDecidedOpenTime w.memory.seenHashes
    | _ => True
  nature _ _ := True
  crash w := w.notes.blind = true → w.safety.state ≠ .running

/-- A triple of the worker's under these conditions. -/
abbrev WindowTriple (live : LiveDecisionService) {α : Type} (P : LiveWorld → Prop)
    (p : LivePass α) (Q : α → LiveWorld → Prop) : Prop :=
  LiveTriple live (nothingForgotten live) (Recorded live) P p Q (Windows.Idle live)

theorem framed_of_mono {P : LiveWorld → Prop} (hmono : ∀ w w', P w → Same w w' → P w')
    (hidle : ∀ w, P w → Windows.Idle live w) :
    Framed live (nothingForgotten live) (Recorded live) (Windows.Idle live) P where
  toJ w hw := (hidle w hw).toRecorded
  toI := hidle
  stable _ _ hw _ := hmono _ _ hw same_nature
  quiet _ _ _ hw hc _ := hmono _ _ hw (same_serve hc)

theorem framed_idle : Framed live (nothingForgotten live) (Recorded live) (Windows.Idle live)
    (Windows.Idle live) :=
  framed_of_mono (fun _ _ hw hs => hw.mono hs) fun _ hw => hw

theorem framed_ready : Framed live (nothingForgotten live) (Recorded live) (Windows.Idle live)
    (Windows.Ready live) :=
  framed_of_mono (fun _ _ hw hs => hw.mono hs) fun _ hw => hw.idle

theorem framed_put : Framed live (nothingForgotten live) (Recorded live) (Windows.Idle live)
    (Windows.Put live t) :=
  framed_of_mono (fun _ _ hw hs => hw.mono hs) fun _ hw => hw.idle

theorem stable_memory {P : LiveWorld → Prop} {m : LiveMemory}
    (hP : Stable (liveWorker live) (nothingForgotten live) P) :
    Stable (liveWorker live) (nothingForgotten live) fun w => P w ∧ w.memory = m := by
  refine hP.and ?_
  rintro n w rfl -
  cases n <;> rfl

/-- **Saving the window.** -/
theorem triple_saveDecisionWindow {P Q : LiveWorld → Prop} {now : UtcDatetime}
    (hP : Framed live (nothingForgotten live) (Recorded live) (Windows.Idle live) P)
    (hlast : ∀ w, P w → w.memory.lastDecidedOpenTime = some t)
    (hsaved : ∀ w row, P w → SavedRow live t w row → Q (w.saved row))
    (hQ : ∀ w, Q w → Windows.Idle live w) :
    WindowTriple live P (live.saveDecisionWindow now) (fun _ => Q) := by
  unfold LiveDecisionService.saveDecisionWindow
  refine hP.memory fun m => ?_
  refine Triple.bind (Q := fun last w => (P w ∧ w.memory = m) ∧ last = t)
    (Triple.ofExcept ?_ fun w hw => hP.toI w hw.1) fun last => ?_
  · rintro last hok w ⟨hw, rfl⟩
    rw [hlast w hw] at hok
    cases hok
    exact ⟨⟨hw, rfl⟩, rfl⟩
  have hstable := stable_memory (m := m) hP.stable
  refine Triple.perform (fun w hw => hP.toJ w hw.1.1) ?_ ?_ ?_
  · exact hstable.and fun n w hw _ => hw
  · rintro w o _ w' ⟨⟨hw, rfl⟩, rfl⟩ - hserve
    change w.serve o (.saveWindow _) = _ at hserve
    unfold LiveWorld.serve LiveOracle.write LiveOracle.writeThen at hserve
    dsimp only at hserve
    split at hserve
    · cases hserve
      exact hsaved w _ hw ⟨⟨rfl, rfl, rfl⟩, rfl, rfl⟩
    · cases hserve
  · rintro w o e w' ⟨⟨hw, rfl⟩, rfl⟩ - hserve
    change w.serve o (.saveWindow _) = _ at hserve
    unfold LiveWorld.serve LiveOracle.write LiveOracle.writeThen at hserve
    dsimp only at hserve
    split at hserve
    · cases hserve
    · cases hserve
      split
      · exact hQ _ (hsaved w _ hw ⟨⟨rfl, rfl, rfl⟩, rfl, rfl⟩)
      · exact hP.toI w hw

/-! ## Recovering -/

omit [Externals] in
/-- **The three answers**: lost, and then nothing is restored, or what the newest row says. -/
theorem loadLatest_cases {rows : DecisionWindowStates} {canonicalSymbol strategyId configVersion
      : String} {failure : Option String} {record : DecisionWindowRecord}
    (hload : rows.loadLatest canonicalSymbol strategyId configVersion failure = record) :
    (∃ why, record.unreadable = some why)
    ∨ record.unreadable = none
      ∧ (recoverDecisionWindow record).lastDecidedOpenTimeUtc
        = recordedLast (rows.forKey canonicalSymbol strategyId configVersion)
      ∧ (recoverDecisionWindow record).seenDecisionHashes
        = recordedHashes (rows.forKey canonicalSymbol strategyId configVersion) := by
  subst hload
  unfold DecisionWindowStates.loadLatest recordedLast recordedHashes
  split
  · exact .inl ⟨_, rfl⟩
  · split
    · rename_i hnone
      rw [hnone]
      exact .inr ⟨rfl, rfl, rfl⟩
    · rename_i row hrow
      split
      · exact .inl ⟨_, rfl⟩
      · rw [hrow]
        exact .inr ⟨rfl, rfl, rfl⟩

/-- The record was unreadable, and the worker has not halted yet. -/
structure Lost (live : LiveDecisionService) (w : LiveWorld) : Prop extends Recorded live w where
  unread : w.notes.unread = true
  recovered : w.memory.decisionWindowRecovered = false

/-- A readable record is in hand. -/
structure Found (live : LiveDecisionService) (last : Option UtcDatetime) (seen : List String)
    (w : LiveWorld) : Prop extends Steady live w where
  recovered : w.memory.decisionWindowRecovered = false
  rowsOlder : w.notes.unread = false → ∀ r ∈ live.rows w, ∃ l, last = some l
    ∧ r.lastDecidedOpenTimeUtc ≤ l
  recalls : w.notes.unread = false ∨ w.memory.killSwitch.isHalted = false →
    Recalls w.notes.approvals last seen

/-- What a worker has in hand once the record was asked for. -/
def InHand (live : LiveDecisionService) (record : DecisionWindowRecord) (w : LiveWorld) : Prop :=
  match record.unreadable with
  | some _ => Lost live w
  | none => Found live (recoverDecisionWindow record).lastDecidedOpenTimeUtc
      (recoverDecisionWindow record).seenDecisionHashes w

omit [Externals] in
theorem Lost.mono (hw : Lost live w) (hs : Same w w') : Lost live w' where
  toRecorded := hw.toRecorded.mono hs
  unread := by rw [hs.unread]; exact hw.unread
  recovered := by rw [hs.recovered]; exact hw.recovered

omit [Externals] in
theorem Found.mono {last : Option UtcDatetime} {seen : List String} (hw : Found live last seen w)
    (hs : Same w w') : Found live last seen w' where
  toSteady := hw.toSteady.mono hs
  recovered := by rw [hs.recovered]; exact hw.recovered
  rowsOlder := by rw [hs.unread, hs.rows]; exact hw.rowsOlder
  recalls := fun hneed => by
    rw [hs.approvals]
    exact hw.recalls (hs.recalling hneed)

omit [Externals] in
/-- A worker that has lost the record is ready once it has halted. -/
theorem Lost.ready (hw : Lost live w) (hhalted : w.memory.killSwitch.isHalted = true) :
    Windows.Ready live w where
  toRecorded := hw.toRecorded
  halted := fun _ => hhalted
  knows := {
    rows := fun hunread => by rw [hw.unread] at hunread; cases hunread
    recalls := fun hneed => by
      rcases hneed with hunread | hrunning
      · rw [hw.unread] at hunread
        cases hunread
      · rw [hhalted] at hrunning
        cases hrunning }

theorem stable_lost : Stable (liveWorker live) (nothingForgotten live) (Lost live) :=
  fun _ _ hw _ => hw.mono same_nature

theorem triple_loadWindow : WindowTriple live
    (fun w => Windows.Idle live w ∧ w.memory.decisionWindowRecovered = false)
    (LiveDecisionService.ask (.loadWindow live.canonicalSymbol live.strategy.strategyId
      live.config.configVersion)) (InHand live) := by
  refine Triple.perform (fun w hw => hw.1.toRecorded) ?_ ?_ ?_
  · rintro n w ⟨hw, hrecovered⟩ -
    exact ⟨hw.mono same_nature, same_nature.recovered.trans hrecovered⟩
  · rintro w o record w' ⟨hw, hrecovered⟩ hcall hserve
    change w.serve o (.loadWindow _ _ _) = _ at hserve
    unfold LiveWorld.serve at hserve
    dsimp only at hserve
    obtain ⟨hrecord, rfl⟩ := Prod.mk.inj hserve
    have hload := Except.ok.inj hrecord
    rw [hload]
    unfold InHand
    rcases loadLatest_cases hload with ⟨why, hwhy⟩ | ⟨hread, hlast, hseen⟩
    · -- nothing that depends on a readable record is claimed any more
      simp only [hwhy, Option.isSome_some, Bool.or_true]
      exact {
        put := fun hunread => by cases hunread
        rows := fun hunread => by cases hunread
        windows := hw.windows
        hashes := hw.hashes
        reset := hw.reset
        putKept := fun hunread => by cases hunread
        kept := fun hunread => by cases hunread
        unread := rfl
        recovered := hrecovered }
    · simp only [hread, Option.isSome_none, Bool.or_false]
      refine ⟨hw.toSteady, hrecovered, ?_, ?_⟩
      · intro hunread r hr
        rw [hlast]
        exact le_recordedLast (hw.rows hunread) hr
      · intro hneed
        rw [hlast, hseen]
        cases hunread : w.notes.unread with
        | false => exact hw.kept hunread
        | true =>
            have hrunning : w.memory.killSwitch.isHalted = false := by
              rcases hneed with h | h
              · rw [hunread] at h; cases h
              · exact h
            exact hcall (hload ▸ hread) hunread hrunning
  · rintro w o e w' hw - hserve
    cases hserve

/-- What is restored is neither forgotten nor made up. -/
theorem triple_restore {record : DecisionWindowRecord} : WindowTriple live (InHand live record)
    (LiveDecisionService.ask (.restore (recoverDecisionWindow record).lastDecidedOpenTimeUtc
      (recoverDecisionWindow record).seenDecisionHashes))
    (fun _ w => if (recoverDecisionWindow record).mustHalt then Lost live w
      else Windows.Ready live w) := by
  unfold InHand
  cases hread : record.unreadable with
  | some why =>
      have hmust : (recoverDecisionWindow record).mustHalt = true := by
        simp [recoverDecisionWindow, hread]
      simp only [hmust, if_true]
      refine Triple.perform (fun w hw => hw.toRecorded) stable_lost ?_ ?_
      · rintro w o _ w' hw - hserve
        cases hserve
        exact { hw with }
      · rintro w o e w' hw - hserve
        cases hserve
  | none =>
      have hmust : (recoverDecisionWindow record).mustHalt = false := by
        unfold recoverDecisionWindow
        rw [hread]
        dsimp only
        split <;> rfl
      simp only [hmust, Bool.false_eq_true, if_false]
      refine Triple.perform (fun w hw => hw.toRecorded) (fun _ _ hw _ => hw.mono same_nature) ?_ ?_
      · rintro w o _ w' hw - hserve
        cases hserve
        exact { hw with knows := ⟨hw.rowsOlder, hw.recalls⟩ }
      · rintro w o e w' hw - hserve
        cases hserve

/-- A halt that is owed is written, or an operator has reset it before. -/
theorem triple_trip_lost {reasonCodes : List ReasonCode} {trippedBy : String} {at_ : UtcDatetime}
    {correlationId : Uuid} {detail : Option String} (hreasons : reasonCodes ≠ []) :
    WindowTriple live (Lost live)
      (LiveDecisionService.trip reasonCodes trippedBy at_ correlationId detail)
      (fun _ => Windows.Ready live) := by
  unfold LiveDecisionService.trip
  refine Triple.bind (Q := fun m w => Lost live w ∧ w.memory = m) ?_ fun m => ?_
  · refine Triple.perform (fun w hw => hw.toRecorded) stable_lost ?_ ?_
    · rintro w o m w' hw - hserve
      cases hserve
      exact ⟨hw, rfl⟩
    · rintro w o e w' hw - hserve
      cases hserve
  dsimp only
  split
  · rename_i hhalted
    refine Triple.ret ?_
    rintro w ⟨hw, rfl⟩
    exact hw.ready hhalted
  rename_i hrunning
  refine Triple.bind (Q := fun _ => Windows.Ready live) ?_ fun _ =>
    framed_ready.next (c := .record _) trivial fun _ =>
      framed_ready.piece (Only.perform (c := LiveCall.flush) trivial)
  refine Triple.perform (fun w hw => hw.1.toRecorded) (stable_memory stable_lost) ?_ ?_
  · rintro w o _ w' ⟨hw, rfl⟩ - hserve
    have hsame := same_serve (w := w) (o := o) (c := .trip ⟨at_, reasonCodes, trippedBy, detail⟩) trivial
    have hw' := hw.mono hsame
    rw [show w.serve o (.trip _) = _ from hserve] at hw'
    refine hw'.ready ?_
    change w.serve o (.trip _) = _ at hserve
    unfold LiveWorld.serve LiveOracle.writeThen at hserve
    dsimp only at hserve
    split at hserve
    · cases hserve
      rfl
    · cases hserve
  · rintro w o e w' ⟨hw, rfl⟩ hcall hserve
    have hsame := same_serve (w := w) (o := o) (c := .trip ⟨at_, reasonCodes, trippedBy, detail⟩) trivial
    have hw' := hw.mono hsame
    rw [show w.serve o (.trip _) = _ from hserve] at hw' hsame
    refine { toRecorded := hw'.toRecorded, halted := fun hblind => ?_, knows := fun hrecovered => ?_ }
    · -- the halt cannot have failed while it was owed
      have hfailure := hcall (hsame.blind hblind) (by simpa using hrunning)
      change w.serve o (.trip _) = _ at hserve
      unfold LiveWorld.serve LiveOracle.writeThen at hserve
      dsimp only at hserve
      rw [hfailure] at hserve
      cases hserve
    · rw [hw'.recovered] at hrecovered
      cases hrecovered

/-- **Recovering**: the worker knows what is on record, or has halted. -/
theorem triple_recoverDecisionWindow : WindowTriple live
    (fun w => Windows.Idle live w ∧ w.memory.decisionWindowRecovered = false)
    live.recoverDecisionWindow (fun _ => Windows.Ready live) := by
  unfold LiveDecisionService.recoverDecisionWindow
  refine Triple.bind triple_loadWindow fun record => Triple.bind triple_restore fun _ => ?_
  split
  · rename_i hmust
    refine Triple.bind (Q := fun _ => Lost live) ?_ fun now => triple_trip_lost ?_
    · refine Triple.perform (fun w hw => hw.toRecorded) stable_lost ?_ ?_
      · rintro w o _ w' hw - hserve
        cases hserve
        exact hw
      · rintro w o e w' hw - hserve
        cases hserve
    · unfold recoverDecisionWindow at hmust ⊢
      split at hmust
      · simp
      · split at hmust <;> cases hmust
  · exact Triple.ret fun w hw => hw

/-- **Resetting**: only the switch changes, and only where nothing was forgotten. -/
theorem triple_resetHalt {operator incidentNote : String} : WindowTriple live (Windows.Idle live)
    (LiveDecisionService.ask (.resetHalt operator incidentNote))
    (fun _ => Windows.Idle live) := by
  have hdurable : ∀ w : LiveWorld, Windows.Idle live w → Windows.Idle live { w with
      safety := resetState operator incidentNote w.now
      notes := { w.notes with blind := false } } := fun w hw =>
    hw.mono ⟨rfl, rfl, rfl, rfl, rfl, rfl, rfl, id, fun hblind => by cases hblind⟩
  refine Triple.perform (fun w hw => hw.toRecorded) framed_idle.stable ?_ ?_
  · rintro w o _ w' hw hcall hserve
    change w.serve o (.resetHalt _ _) = _ at hserve
    unfold LiveWorld.serve LiveOracle.writeThen at hserve
    dsimp only at hserve
    split at hserve
    · cases hserve
      exact {
        toRecorded := { (hdurable w hw).toRecorded with }
        halted := fun hblind => by cases hblind
        knows := fun hrecovered => {
          rows := (hw.knows hrecovered).rows
          recalls := fun _ => by
            cases hunread : w.notes.unread with
            | false => exact (hw.knows hrecovered).recalls (.inl hunread)
            | true => exact hcall hunread hrecovered } }
    · cases hserve
  · rintro w o e w' hw - hserve
    change w.serve o (.resetHalt _ _) = _ at hserve
    unfold LiveWorld.serve LiveOracle.writeThen at hserve
    dsimp only at hserve
    split at hserve
    · cases hserve
    · cases hserve
      split
      · exact hdurable w hw
      · exact hw

/-! ## The whole pass -/

/-- Sealing anything but an approved capsule. -/
theorem triple_seal_plain {P : LiveWorld → Prop} {capsule : SealedCapsule}
    (hP : Framed live (nothingForgotten live) (Recorded live) (Windows.Idle live) P)
    (hnote : ∀ w, P w → Windows.Idle live (w.noteApproval capsule)) :
    WindowTriple live P (LiveDecisionService.ask (.seal capsule))
      (fun _ w => Windows.Idle live w ∧ True) := by
  refine Triple.perform hP.toJ hP.stable ?_ ?_
  · rintro w o _ w' hw - hserve
    have hidle := (hnote w hw).mono (same_seal (o := o))
    rw [show w.serve o (.seal capsule) = _ from hserve] at hidle
    exact ⟨hidle, trivial⟩
  · rintro w o e w' hw - hserve
    have hidle := (hnote w hw).mono (same_seal (o := o))
    rw [show w.serve o (.seal capsule) = _ from hserve] at hidle
    exact hidle

/-- The phases of a decision, by what is on record and what is remembered. -/
def windowPhases (live : LiveDecisionService) :
    LivePhases live (nothingForgotten live) (Recorded live) (Windows.Idle live) where
  Restored := Windows.Ready live
  Ready := Windows.Ready live
  Fresh := Windows.Fresh live
  Claimed := Windows.Claimed live
  Saved := Windows.Saved live
  Put := Windows.Put live
  Passed := Windows.Passed live
  Added := Windows.Added live
  Kept := Windows.Kept live
  Done _ _ := True
  idle := framed_idle
  ready := framed_ready
  fresh t := framed_of_mono (fun _ _ hw hs => hw.mono hs) fun _ hw => hw.toReady.idle
  put t := framed_put
  passed t h := framed_of_mono (fun _ _ hw hs => hw.mono hs) fun _ hw => hw.toPut.idle
  recover := triple_recoverDecisionWindow
  mark := by
    refine Triple.perform framed_ready.toJ framed_ready.stable ?_ ?_
    · rintro w o _ w' hw - hserve
      cases hserve
      exact { toRecorded := { hw.toRecorded with }, halted := hw.halted,
              knows := ⟨hw.knows.rows, hw.knows.recalls⟩ }
    · rintro w o e w' hw - hserve
      cases hserve
  recovered w hw hrecovered := { hw with knows := hw.knows hrecovered }
  check t w hw hany := {
    hw with
    last := fun l hl => by
      rw [hl] at hany
      simpa using hany }
  claim t := by
    refine Triple.perform (fun w hw => hw.toRecorded) (fun _ _ hw _ => hw.mono same_nature) ?_ ?_
    · rintro w o _ w' hw - hserve
      cases hserve
      exact hw.claimed
    · rintro w o e w' hw - hserve
      cases hserve
  save t now := triple_saveDecisionWindow
    (framed_of_mono (fun _ _ hw hs => hw.mono hs) fun _ hw => hw.idle)
    (fun w hw => hw.last) (fun w row hw hrow => hw.saved hrow) fun w hw => hw.toPut.idle
  ask t snapshot history spec context := by
    refine Triple.perform (fun w hw => hw.toRecorded) (fun _ _ hw _ => hw.mono same_nature) ?_ ?_
    · rintro w o _ w' hw - hserve
      change w.serve o (.strategy ..) = _ at hserve
      unfold LiveWorld.serve LiveOracle.read at hserve
      dsimp only at hserve
      split at hserve
      · cases hserve
        exact hw.asked
      · cases hserve
    · rintro w o e w' hw - hserve
      change w.serve o (.strategy ..) = _ at hserve
      unfold LiveWorld.serve LiveOracle.read at hserve
      dsimp only at hserve
      split at hserve
      · cases hserve
      · cases hserve
        exact hw.asked.idle
  pass t intent snapshot spec portfolio context now d w hw hseen heval hpass :=
    hw.pass (evaluate_pass heval hpass).1 (hseen ▸ evaluate_pass_unseen heval hpass)
  add t h := by
    refine Triple.perform (fun w hw => hw.toRecorded) (fun _ _ hw _ => hw.mono same_nature) ?_ ?_
    · rintro w o _ w' hw - hserve
      cases hserve
      exact hw.add
    · rintro w o e w' hw - hserve
      cases hserve
  keep t h now := triple_saveDecisionWindow
    (framed_of_mono (fun _ _ hw hs => hw.mono hs) fun _ hw => hw.toPut.idle)
    (fun w hw => hw.last) (fun w row hw hrow => hw.saved hrow) fun w hw => hw.toPut.idle
  sealPlain t capsule hplain := triple_seal_plain framed_put fun w hw => by
    unfold LiveWorld.noteApproval
    rw [hplain]
    exact hw.idle
  sealKept t h capsule hhash := triple_seal_plain
    (framed_of_mono (fun _ _ hw hs => hw.mono hs) fun _ hw => hw.toPut.idle) fun w hw => by
      unfold LiveWorld.noteApproval
      split
      · rw [hhash]
        exact hw.approved
      · exact hw.toPut.idle
  report outcome := by
    refine Triple.perform (fun w hw => hw.1.toRecorded) ?_ ?_ ?_
    · rintro n w ⟨hw, hdone⟩ -
      exact ⟨hw.mono same_nature, hdone⟩
    · rintro w o _ w' ⟨hw, -⟩ - hserve
      cases hserve
      exact hw.mono ⟨rfl, rfl, rfl, rfl, rfl, rfl, rfl, id, id⟩
    · rintro w o e w' hw - hserve
      cases hserve
  reset operator incidentNote := triple_resetHalt

omit [Externals] in
/-- A restart begins again with what is on record. -/
theorem Recorded.restart (hw : Recorded live w)
    (hsafety : w.notes.blind = true → w.safety.state ≠ .running) :
    Windows.Idle live w.restart where
  toRecorded := { hw with }
  halted := fun hblind => by
    have hstate := hsafety hblind
    change (KillSwitch.onStartup _).isHalted = true
    unfold KillSwitch.onStartup KillSwitch.isHalted SafetyState.permitsNewOrders
    cases w.safetyReadable with
    | false => simp [unknownState]
    | true => simp [hstate]; split <;> simp
  knows := fun hrecovered => by cases hrecovered

/-- A worker that has not begun, and a record whose last window never went back. -/
structure Begins (live : LiveDecisionService) (w : LiveWorld) : Prop where
  recovered : w.memory.decisionWindowRecovered = false
  rows : (live.rows w).Pairwise fun r r' => r.lastDecidedOpenTimeUtc ≤ r'.lastDecidedOpenTimeUtc
  unread : w.notes.unread = false
  blind : w.notes.blind = false
  put : w.notes.put = []
  approvals : w.notes.approvals = []

omit [Externals] in
theorem Begins.idle (hw : Begins live w) : Windows.Idle live w where
  put := fun _ => by simp [hw.put]
  rows := fun _ => hw.rows
  windows := by simp [hw.approvals]
  hashes := by simp [hw.approvals]
  reset := fun a ha => by simp [hw.approvals] at ha
  putKept := fun _ p hp => by simp [hw.put] at hp
  kept := fun _ a ha => by simp [hw.approvals] at ha
  halted := fun hblind => by rw [hw.blind] at hblind; cases hblind
  knows := fun hrecovered => by rw [hw.recovered] at hrecovered; cases hrecovered

/--
**A decision window is decided at most once.** Whatever bars arrive, whatever fails and
whenever the process dies, as long as what was approved is not forgotten.
-/
theorem decision_window_at_most_once (live : LiveDecisionService)
    (s₀ s : Config Unit LiveTask LiveWorld LiveCall LiveCall.Answer PyError)
    (hidle : s₀.threads () = none) (hbegins : Begins live s₀.world)
    (hrun : Reach (liveWorker live) (nothingForgotten live).guard s₀ s) :
    DecidedOnce live s.world :=
  (Reach.solo hidle hbegins.idle (fun _ hw => hw.toRecorded) framed_idle.stable
    (fun _ _ hw _ => hw.mono same_nature) (fun _ hw hcrash => hw.restart hcrash)
    (windowPhases live).perform hrun).toDecidedOnce

/-- The record was readable so far. -/
def readSoFar (s : Config Unit LiveTask LiveWorld LiveCall LiveCall.Answer PyError)
    (_ : Move Unit LiveTask LiveOracle LiveWorld.Event) : Bool :=
  !s.world.notes.unread && !s.world.notes.blind

omit [Externals] in
theorem nothingForgotten_of_check {s : Config Unit LiveTask LiveWorld LiveCall LiveCall.Answer
      PyError} {m : Move Unit LiveTask LiveOracle LiveWorld.Event} (h : readSoFar s m = true) :
    (nothingForgotten live).guard s.view m (asked s m) := by
  simp only [readSoFar, Bool.and_eq_true, Bool.not_eq_true'] at h
  cases m with
  | call i o =>
      intro c _
      unfold nothingForgotten
      dsimp only
      split
      · exact fun _ hunread => by simp [Config.view, h.1] at hunread
      · exact fun hblind => by simp [Config.view, h.2] at hblind
      · exact fun hunread => by simp [Config.view, h.1] at hunread
      · trivial
  | crash i => exact fun hblind => by simp [Config.view, h.2] at hblind
  | _ => trivial

namespace Sample

/-- A strategy that sees the same trade at every bar. -/
def facingTrade (openTimeUtc : UtcDatetime) : LiveOracle :=
  facing openTimeUtc (found "h" (some intent))

/-- The record cannot be read, and no spec has been observed. -/
def facingUnreadable : LiveOracle :=
  { facingTrade noon with
    unreadable := some "relation does not exist"
    reply := fun c =>
      match c with
      | .latestSpec _ => none
      | c => (facingTrade noon).reply c }

/-- A whole pass. -/
def wholePass (o : LiveOracle) (calls : Nat) (task : LiveTask) :
    List (Move Unit LiveTask LiveOracle LiveWorld.Event) :=
  .start () task :: List.replicate calls (.call () o) ++ [.finish ()]

end Sample

end Crumblr

namespace Crumblr

open Machine

open Sample in
/-- A window is approved, the worker is started again, and finds nothing new. -/
theorem decision_window_at_most_once_sample : ∃ s, Reach (liveWorker liveDecision)
    (nothingForgotten liveDecision).guard (idle liveWorld) s
      ∧ s.world.notes.approvals.length = 1 ∧ DecidedOnce liveDecision s.world := by
  have hrun : ((liveWorker liveDecision).run readSoFar (idle liveWorld)
      (wholePass (facingTrade (noon - minutes 5)) 33 .decide ++ .crash ()
        :: wholePass (facingTrade (noon - minutes 5)) 8 .decide)).any
      (fun s => decide (s.world.notes.approvals.length = 1)) = true := by decide +kernel
  obtain ⟨s, hs, hp⟩ := Reach.exists_of_run _ _ (fun _ _ => nothingForgotten_of_check) hrun
  refine ⟨s, hs, of_decide_eq_true hp, decision_window_at_most_once liveDecision _ s rfl ?_ hs⟩
  exact ⟨rfl, List.Pairwise.nil, rfl, rfl, rfl, rfl⟩

open Sample in
/-- Started again, a worker finds the record unreadable and halts; an operator resets it, and it
approves the same decision for the same window. -/
theorem decision_window_decided_twice :
    ¬ ∀ (live : LiveDecisionService) (s₀ s : Config Unit LiveTask LiveWorld LiveCall
        LiveCall.Answer PyError), s₀.threads () = none → Begins live s₀.world →
      Reach (liveWorker live) Always s₀ s → DecidedOnce live s.world := by
  intro h
  have hrun : ((liveWorker liveDecision).run unchecked (idle liveWorld)
      (wholePass (facingTrade (noon - minutes 5)) 33 .decide ++ .crash () :: wholePass facingUnreadable 11 .decide
        ++ wholePass facingUnreadable 1 (.reset "operator" "checked")
        ++ wholePass (facingTrade (noon - minutes 5)) 30 .decide)).any
      (fun s => !decide (s.world.notes.approvals.map (·.decisionHash)).Nodup) = true := by
    decide +kernel
  obtain ⟨s, hs, hp⟩ := Reach.exists_of_run (G := Always) _ _ (fun _ _ _ => trivial) hrun
  have honce := (h liveDecision _ s rfl ⟨rfl, List.Pairwise.nil, rfl, rfl, rfl, rfl⟩ hs).hashes
  simp [honce] at hp

end Crumblr
