import Crumblr.Lib.Retention
import Crumblr.LocalAdmin.Backup

/-!
# What retention deletes

A dump is looked at by its name, its marker and its bytes, and by nothing else in the directory. So
deleting other dumps changes nothing of what is said about it, and what retention leaves is found
as it was: the newest of the verified dumps, and everything that isn't one.

All of it hangs on every file being looked at to the end, and some make the inspection itself fail.
-/

namespace Crumblr

/-! ## Mapping to the end -/

/-- A mapping that raises nowhere gives what each item gives. -/
theorem mapM_ok_iff {α β : Type} {f : α → Except PyError β} {xs : List α} {ys : List β} :
    xs.mapM f = .ok ys ↔ (∀ x ∈ xs, ∃ y, f x = .ok y)
      ∧ ys = xs.filterMap fun x => (f x).toOption := by
  induction xs generalizing ys with
  | nil =>
      simp only [List.mapM_nil, List.not_mem_nil, false_implies, implies_true, true_and,
        List.filterMap_nil]
      exact ⟨fun h => (Except.ok.inj h).symm, fun h => by rw [h]; rfl⟩
  | cons x xs ih =>
      rw [List.mapM_cons]
      constructor
      · intro h
        obtain ⟨y, hy, h⟩ := bind_ok h
        obtain ⟨ys', hys, h⟩ := bind_ok h
        cases h
        obtain ⟨hall, rfl⟩ := ih.mp hys
        refine ⟨?_, ?_⟩
        · intro z hz
          rcases List.mem_cons.mp hz with rfl | hz
          · exact ⟨y, hy⟩
          · exact hall z hz
        · rw [List.filterMap_cons, hy]
          rfl
      · rintro ⟨hall, rfl⟩
        obtain ⟨y, hy⟩ := hall x List.mem_cons_self
        rw [ih.mpr ⟨fun z hz => hall z (List.mem_cons_of_mem _ hz), rfl⟩, List.filterMap_cons, hy]
        rfl

namespace BackupDirectory

variable {host : BackupHost} {dir dir' : BackupDirectory} {name : String}

/-! ## What a marker says -/

/-- What there is to read of a dump's marker. It comes to nothing for a file that cannot be read or
that is no marker, and fails where the file is no text or the interpreter gives up. -/
def markerRead (host : BackupHost) (dir : BackupDirectory) (name : String) :
    Except PyError (Option BackupMarker) :=
  match dir.read (verifiedMarkerPath name) with
  | .error _ => .ok none
  | .ok bytes => decodeText bytes >>= parseMarker host.limits

/-- The marker is for this dump, as far as can be seen without reading the dump. -/
structure Agrees (dir : BackupDirectory) (name : String) (marker : BackupMarker) : Prop where
  filename : marker.dumpFilename = PyJson.codes name
  structural : BackupMarker.isSha256 marker.sha256 = true
  size : ∃ n, dir.stat name = .ok n ∧ marker.sizeBytes = n
  revision : marker.alembicRevision = PyJson.codes requiredAlembicRevision
  assignment : marker.assignmentId = PyJson.codes runtimeAssignmentId

/-- There is a well-formed marker that names this dump and matches what it is now: its size, its
digest, its revision and its assignment. -/
def Genuine (host : BackupHost) (dir : BackupDirectory) (name : String) : Prop :=
  ∃ marker bytes, markerRead host dir name = .ok (some marker) ∧ dir.Agrees name marker
    ∧ dir.read name = .ok bytes ∧ marker.sha256 = PyJson.codes (host.sha256Hex bytes)

/-! ## One dump -/

theorem checkMarker_name {timestamp : UtcDatetime} {marker : BackupMarker} {s : BackupPairStatus}
    (h : dir.checkMarker host name timestamp marker = .ok s) :
    s.dumpName = name ∧ s.timestamp = some timestamp := by
  unfold checkMarker at h
  dsimp only at h
  repeat' split at h
  all_goals cases h
  all_goals exact ⟨rfl, rfl⟩

/-- A marker that disagrees makes its dump invalid; one that agrees has the dump's bytes decide. -/
theorem checkMarker_of_not_agrees (host : BackupHost) (timestamp : UtcDatetime)
    {marker : BackupMarker} (h : ¬ dir.Agrees name marker) :
    ∃ s, dir.checkMarker host name timestamp marker = .ok s ∧ s.verified = false := by
  unfold checkMarker
  dsimp only
  split
  · exact ⟨_, rfl, rfl⟩
  rename_i hname
  split
  · exact ⟨_, rfl, rfl⟩
  rename_i hsha
  split
  · exact ⟨_, rfl, rfl⟩
  rename_i n hstat
  split
  · exact ⟨_, rfl, rfl⟩
  rename_i hsize
  split
  · exact ⟨_, rfl, rfl⟩
  rename_i hrevision
  split
  · exact ⟨_, rfl, rfl⟩
  rename_i hassignment
  exact absurd ⟨not_not.mp hname, by simpa using hsha, ⟨n, hstat, not_not.mp hsize⟩,
    not_not.mp hrevision, not_not.mp hassignment⟩ h

theorem Agrees.checkMarker {timestamp : UtcDatetime} {marker : BackupMarker}
    (h : dir.Agrees name marker) :
    dir.checkMarker host name timestamp marker = match dir.sha256 host name with
      | .error error => .error error
      | .ok currentSha256 =>
          if PyJson.codes currentSha256 ≠ marker.sha256 then
            .ok ⟨name, false, .digestMismatch, some timestamp⟩
          else .ok ⟨name, true, .verified, some timestamp⟩ := by
  obtain ⟨n, hstat, hsize⟩ := h.size
  unfold BackupDirectory.checkMarker
  dsimp only
  rw [if_neg (not_not.mpr h.filename), h.structural, Bool.not_true, if_neg Bool.false_ne_true, hstat]
  dsimp only
  rw [if_neg (not_not.mpr hsize), if_neg (not_not.mpr h.revision)]
  exact (if_neg (not_not.mpr h.assignment)).trans rfl

/-- What can be said of a dump whose marker was read. -/
theorem checkMarker_verified {timestamp : UtcDatetime} {marker : BackupMarker}
    {s : BackupPairStatus} (h : dir.checkMarker host name timestamp marker = .ok s) :
    s.verified = true ↔ dir.Agrees name marker
      ∧ ∃ bytes, dir.read name = .ok bytes ∧ marker.sha256 = PyJson.codes (host.sha256Hex bytes) := by
  by_cases hagrees : dir.Agrees name marker
  · rw [hagrees.checkMarker] at h
    unfold sha256 at h
    cases hread : dir.read name with
    | error error =>
        rw [hread] at h
        cases h
    | ok bytes =>
        rw [hread] at h
        dsimp only at h
        split at h
        · rename_i hne
          cases h
          simp only [Bool.false_eq_true, false_iff, not_and, not_exists]
          intro _ bytes' hbytes heq
          cases hbytes
          exact hne heq.symm
        · rename_i heq
          cases h
          exact ⟨fun _ => ⟨hagrees, bytes, rfl, (not_not.mp heq).symm⟩, fun _ => rfl⟩
  · obtain ⟨s', hs', hfalse⟩ := checkMarker_of_not_agrees host timestamp hagrees
    cases hs'.symm.trans h
    rw [hfalse]
    exact ⟨fun hcontra => (Bool.false_ne_true hcontra).elim, fun hcontra => absurd hcontra.1 hagrees⟩

/-- The check of a marker fails where it has to read a dump that cannot be read. -/
theorem checkMarker_ok_iff {timestamp : UtcDatetime} {marker : BackupMarker} :
    (∃ s, dir.checkMarker host name timestamp marker = .ok s)
      ↔ (dir.Agrees name marker → ∃ bytes, dir.read name = .ok bytes) := by
  by_cases hagrees : dir.Agrees name marker
  · rw [hagrees.checkMarker]
    unfold sha256
    cases hread : dir.read name with
    | error error =>
        simp only [reduceCtorEq, exists_false, imp_false, false_iff, not_not]
        exact hagrees
    | ok bytes =>
        refine ⟨fun _ _ => ⟨bytes, rfl⟩, fun _ => ?_⟩
        dsimp only
        split
        · exact ⟨_, rfl⟩
        · exact ⟨_, rfl⟩
  · obtain ⟨s, hs, -⟩ := checkMarker_of_not_agrees host timestamp hagrees
    exact ⟨fun _ h => absurd h hagrees, fun _ => ⟨s, hs⟩⟩

/-- A marker whose file is read is there. -/
theorem exists_of_read {bytes : ByteArray} (h : dir.read name = .ok bytes) :
    dir.exists_ name = true := by
  unfold read at h
  unfold exists_
  cases hfind : dir.find name with
  | none =>
      rw [hfind] at h
      cases h
  | some e =>
      rw [hfind] at h
      rw [Option.any_some, e.whole bytes h]
      rfl

/-- The ways to look at a dump whose name is one of this tool's. -/
theorem inspectBackupPair_cases (host : BackupHost) (dir : BackupDirectory) {timestamp : UtcDatetime}
    (h : parseBackupTimestamp name = .ok (some timestamp)) :
    (∃ error, markerRead host dir name = .error error
        ∧ dir.inspectBackupPair host name = .error error)
      ∨ (markerRead host dir name = .ok none ∧ ∃ reason,
        dir.inspectBackupPair host name = .ok ⟨name, false, reason, some timestamp⟩)
      ∨ ∃ marker, markerRead host dir name = .ok (some marker)
        ∧ dir.inspectBackupPair host name = dir.checkMarker host name timestamp marker := by
  unfold inspectBackupPair markerRead
  rw [h]
  cases hread : dir.read (verifiedMarkerPath name) with
  | error error =>
      refine .inr (.inl ⟨rfl, ?_⟩)
      by_cases hexists : dir.exists_ (verifiedMarkerPath name) = true
      · simp only [bind, Except.bind, hexists, hread, Bool.not_true, Bool.false_eq_true, if_false]
        exact ⟨_, rfl⟩
      · simp only [bind, Except.bind, hexists, Bool.not_false, if_true]
        exact ⟨_, rfl⟩
  | ok bytes =>
      simp only [bind, Except.bind, exists_of_read hread, hread, Bool.not_true, Bool.false_eq_true,
        if_false]
      cases decodeText bytes with
      | error error => exact .inl ⟨error, rfl, rfl⟩
      | ok raw =>
          dsimp only
          cases parseMarker host.limits raw with
          | error error => exact .inl ⟨error, rfl, rfl⟩
          | ok marker? =>
              cases marker? with
              | none => exact .inr (.inl ⟨rfl, _, rfl⟩)
              | some marker => exact .inr (.inr ⟨marker, rfl, rfl⟩)

theorem inspectBackupPair_name {s : BackupPairStatus}
    (h : dir.inspectBackupPair host name = .ok s) : s.dumpName = name := by
  cases hparse : parseBackupTimestamp name with
  | error error =>
      unfold inspectBackupPair at h
      rw [hparse] at h
      cases h
  | ok timestamp? =>
      cases timestamp? with
      | none =>
          unfold inspectBackupPair at h
          rw [hparse] at h
          cases h
          rfl
      | some timestamp =>
          rcases inspectBackupPair_cases host dir hparse with
            ⟨error, -, heq⟩ | ⟨-, reason, heq⟩ | ⟨marker, -, heq⟩
          · cases heq.symm.trans h
          · cases heq.symm.trans h
            rfl
          · exact (checkMarker_name (heq.symm.trans h)).1

/-- **What a status says of a dump of this tool's is so.** -/
theorem inspectBackupPair_verified {timestamp : UtcDatetime} {s : BackupPairStatus}
    (hparse : parseBackupTimestamp name = .ok (some timestamp))
    (h : dir.inspectBackupPair host name = .ok s) :
    s.verified = true ↔ Genuine host dir name := by
  unfold Genuine
  rcases inspectBackupPair_cases host dir hparse with
    ⟨error, -, heq⟩ | ⟨hmarker, reason, heq⟩ | ⟨marker, hmarker, heq⟩
  · cases heq.symm.trans h
  · cases heq.symm.trans h
    rw [hmarker]
    simp
  · rw [checkMarker_verified (heq.symm.trans h), hmarker]
    constructor
    · rintro ⟨hagrees, bytes, hread, hsha⟩
      exact ⟨marker, bytes, rfl, hagrees, hread, hsha⟩
    · rintro ⟨marker', bytes, hmarker', hagrees, hread, hsha⟩
      cases hmarker'
      exact ⟨hagrees, bytes, hread, hsha⟩

theorem inspectBackupPair_foreign (hparse : parseBackupTimestamp name = .ok none) :
    dir.inspectBackupPair host name = .ok ⟨name, false, .foreignName, none⟩ := by
  unfold inspectBackupPair
  rw [hparse]
  rfl

/-- Where a dump is looked at to the end. -/
structure Readable (host : BackupHost) (dir : BackupDirectory) (name : String) : Prop where
  /-- The stamp of the name, if it has one, is a date. -/
  named : ∃ timestamp?, parseBackupTimestamp name = .ok timestamp?
  /-- The marker is UTF-8, and nothing in it is more than the interpreter bears. -/
  decoded : ∀ timestamp, parseBackupTimestamp name = .ok (some timestamp) →
    ∃ marker?, markerRead host dir name = .ok marker?
  /-- A dump whose marker agrees with it can be read. -/
  dumpRead : ∀ timestamp marker, parseBackupTimestamp name = .ok (some timestamp) →
    markerRead host dir name = .ok (some marker) → dir.Agrees name marker →
    ∃ bytes, dir.read name = .ok bytes

theorem inspectBackupPair_ok_iff :
    (∃ s, dir.inspectBackupPair host name = .ok s) ↔ Readable host dir name := by
  cases hparse : parseBackupTimestamp name with
  | error error =>
      constructor
      · rintro ⟨s, hs⟩
        unfold inspectBackupPair at hs
        rw [hparse] at hs
        cases hs
      · intro h
        obtain ⟨timestamp?, heq⟩ := h.named
        cases hparse.symm.trans heq
  | ok timestamp? =>
      cases timestamp? with
      | none =>
          refine ⟨fun _ => ⟨⟨none, hparse⟩, ?_, ?_⟩, fun _ => ⟨_, inspectBackupPair_foreign hparse⟩⟩
          · intro timestamp heq
            cases hparse.symm.trans heq
          · intro timestamp marker heq
            cases hparse.symm.trans heq
      | some timestamp =>
          rcases inspectBackupPair_cases host dir hparse with
            ⟨error, hmarker, heq⟩ | ⟨hmarker, reason, heq⟩ | ⟨marker, hmarker, heq⟩
          · constructor
            · rintro ⟨s, hs⟩
              cases heq.symm.trans hs
            · intro h
              obtain ⟨marker?, hok⟩ := h.decoded timestamp hparse
              cases hmarker.symm.trans hok
          · refine ⟨fun _ => ⟨⟨_, hparse⟩, fun _ _ => ⟨none, hmarker⟩, ?_⟩, fun _ => ⟨_, heq⟩⟩
            intro _ marker _ hsome
            cases hmarker.symm.trans hsome
          · rw [heq, checkMarker_ok_iff]
            constructor
            · intro h
              refine ⟨⟨_, hparse⟩, fun _ _ => ⟨_, hmarker⟩, ?_⟩
              intro _ marker' _ hsome hagrees
              cases hmarker.symm.trans hsome
              exact h hagrees
            · exact fun h => h.dumpRead timestamp marker hparse hmarker

/-! ## The directory -/

/-- The inspection returns where every candidate is looked at to the end. -/
theorem inspect_eq {verified invalid : List BackupPairStatus} :
    dir.inspect host = .ok (verified, invalid) ↔ (∀ n ∈ dir.candidates, Readable host dir n)
      ∧ verified = ((dir.candidates.filterMap fun n =>
          (dir.inspectBackupPair host n).toOption).filter (·.verified)).insertionSort
            (fun s s' => sortKey s' ≤ sortKey s)
      ∧ invalid = (dir.candidates.filterMap fun n =>
          (dir.inspectBackupPair host n).toOption).filter fun s => !s.verified := by
  unfold inspect
  constructor
  · intro h
    obtain ⟨statuses, hmap, h⟩ := bind_ok h
    cases h
    obtain ⟨hall, rfl⟩ := mapM_ok_iff.mp hmap
    exact ⟨fun n hn => inspectBackupPair_ok_iff.mp (hall n hn), rfl, rfl⟩
  · rintro ⟨hall, rfl, rfl⟩
    rw [mapM_ok_iff.mpr ⟨fun n hn => inspectBackupPair_ok_iff.mpr (hall n hn), rfl⟩]
    rfl

theorem mem_candidates : name ∈ dir.candidates
    ↔ name ∈ dir.entries.map Prod.fst ∧ isCandidate name = true := by
  unfold candidates
  rw [List.mem_insertionSort, List.mem_filter]

theorem nodup_candidates (dir : BackupDirectory) : dir.candidates.Nodup :=
  (List.perm_insertionSort (· ≤ ·) _).nodup_iff.mpr (dir.distinct.filter _)

/-- The statuses of the candidates, in their order. -/
def statuses (host : BackupHost) (dir : BackupDirectory) : List BackupPairStatus :=
  dir.candidates.filterMap fun n => (dir.inspectBackupPair host n).toOption

theorem mem_statuses {s : BackupPairStatus} : s ∈ statuses host dir
    ↔ s.dumpName ∈ dir.candidates ∧ dir.inspectBackupPair host s.dumpName = .ok s := by
  unfold statuses
  rw [List.mem_filterMap]
  constructor
  · rintro ⟨n, hn, hs⟩
    cases hinspect : dir.inspectBackupPair host n with
    | error error =>
        rw [hinspect] at hs
        cases hs
    | ok s' =>
        rw [hinspect] at hs
        cases hs
        rw [inspectBackupPair_name hinspect]
        exact ⟨hn, hinspect⟩
  · rintro ⟨hn, hs⟩
    exact ⟨s.dumpName, hn, by rw [hs]; rfl⟩

theorem map_statuses (h : ∀ n ∈ dir.candidates, Readable host dir n) :
    (statuses host dir).map (·.dumpName) = dir.candidates := by
  unfold statuses
  generalize dir.candidates = names at h
  induction names with
  | nil => rfl
  | cons n names ih =>
      obtain ⟨s, hs⟩ := inspectBackupPair_ok_iff.mpr (h n List.mem_cons_self)
      have hrest := ih fun m hm => h m (List.mem_cons_of_mem _ hm)
      rw [List.filterMap_cons, hs]
      change s.dumpName :: _ = _
      rw [hrest, inspectBackupPair_name hs]

/-! ## Deleting -/

theorem find_filter (p : String → Bool) (l : List (String × DirectoryEntry)) (name : String) :
    (l.filter fun e => p e.1).lookup name = if p name then l.lookup name else none := by
  induction l with
  | nil => simp
  | cons e l ih =>
      rw [List.filter_cons]
      by_cases hm : name = e.1
      · subst hm
        by_cases hp : p e.1 = true
        · rw [if_pos hp, if_pos hp, List.lookup_cons, List.lookup_cons]
          simp
        · rw [if_neg hp, if_neg hp, ih, if_neg hp]
      · have hne : (name == e.1) = false := by simpa using hm
        rw [List.lookup_cons, hne]
        by_cases hp : p e.1 = true
        · rw [if_pos hp, List.lookup_cons, hne]
          exact ih
        · rw [if_neg hp]
          exact ih

/-- Whether a name is that of a deleted dump or of its marker. -/
def gone (deleted : List String) (name : String) : Bool :=
  decide (name ∈ deleted ∨ name ∈ deleted.map verifiedMarkerPath)

theorem gone_iff {deleted : List String} :
    gone deleted name = true ↔ name ∈ deleted ∨ name ∈ deleted.map verifiedMarkerPath :=
  decide_eq_true_iff

/-- What is left when dumps and their markers are deleted. -/
def without (deleted : List String) (dir : BackupDirectory) : BackupDirectory :=
  deleted.foldl (fun dir dumpName => (dir.unlink (verifiedMarkerPath dumpName)).unlink dumpName) dir

theorem entries_without {deleted : List String} :
    (without deleted dir).entries = dir.entries.filter fun e => !gone deleted e.1 := by
  induction deleted generalizing dir with
  | nil => simp [without, gone]
  | cons n deleted ih =>
      change (without deleted ((dir.unlink (verifiedMarkerPath n)).unlink n)).entries = _
      rw [ih]
      simp only [unlink, List.filter_filter]
      refine List.filter_congr ?_
      intro e _
      rw [Bool.eq_iff_iff]
      simp only [gone, List.mem_cons, List.map_cons, Bool.and_eq_true, Bool.not_eq_true',
        decide_eq_false_iff_not, decide_eq_true_eq, not_or]
      tauto

theorem find_without {deleted : List String} :
    (without deleted dir).find name = if gone deleted name then none else dir.find name := by
  unfold find
  rw [entries_without]
  rw [find_filter (fun n => !gone deleted n) dir.entries name]
  cases gone deleted name <;> rfl

/-- No marker has the form of a dump. -/
theorem not_isCandidate_marker (n : String) : isCandidate (verifiedMarkerPath n) = false := by
  by_contra h
  unfold isCandidate at h
  simp only [Bool.not_eq_false, Bool.and_eq_true, List.isSuffixOf_iff_suffix] at h
  have hsuffix : backupFilenameSuffix.toList <:+ (verifiedMarkerPath n).toList :=
    h.2.trans (List.drop_suffix _ _)
  obtain ⟨before, heq⟩ := hsuffix
  have hlast := congrArg List.getLast? heq
  unfold verifiedMarkerPath at hlast
  rw [String.toList_append, List.getLast?_append, List.getLast?_append] at hlast
  have hdump : backupFilenameSuffix.toList.getLast? = some 'p' := by decide
  have hmarker : verifiedMarkerSuffix.toList.getLast? = some 'n' := by decide
  rw [hdump, hmarker, Option.some_or, Option.some_or] at hlast
  exact absurd (Option.some.inj hlast) (by decide)

theorem verifiedMarkerPath_inj {m n : String} (h : verifiedMarkerPath m = verifiedMarkerPath n) :
    m = n := by
  unfold verifiedMarkerPath at h
  have hlist := congrArg String.toList h
  rw [String.toList_append, String.toList_append] at hlist
  exact String.toList_inj.mp (List.append_cancel_right hlist)

/-- A dump that is not deleted keeps its marker, and no dump is lost as a marker. -/
theorem not_gone {deleted : List String} (hdeleted : ∀ n ∈ deleted, isCandidate n = true)
    (hcandidate : isCandidate name = true) (h : name ∉ deleted) :
    gone deleted name = false ∧ gone deleted (verifiedMarkerPath name) = false := by
  have hmarker : ∀ n, isCandidate n = true → ∀ m, n ≠ verifiedMarkerPath m := by
    rintro n hn m rfl
    rw [not_isCandidate_marker] at hn
    cases hn
  unfold gone
  rw [decide_eq_false_iff_not, decide_eq_false_iff_not]
  refine ⟨?_, ?_⟩
  · rintro (hmem | hmem)
    · exact h hmem
    · obtain ⟨m, -, heq⟩ := List.mem_map.mp hmem
      exact hmarker _ hcandidate m heq.symm
  · rintro (hmem | hmem)
    · exact hmarker _ (hdeleted _ hmem) name rfl
    · obtain ⟨m, hm, heq⟩ := List.mem_map.mp hmem
      rw [verifiedMarkerPath_inj heq] at hm
      exact h hm

/-- A dump is looked at by its own file and its marker's. -/
theorem inspectBackupPair_congr (hdump : dir'.find name = dir.find name)
    (hmarker : dir'.find (verifiedMarkerPath name) = dir.find (verifiedMarkerPath name)) :
    dir'.inspectBackupPair host name = dir.inspectBackupPair host name := by
  simp only [inspectBackupPair, checkMarker, exists_, read, stat, sha256, hdump, hmarker]

/-- The candidates that are left are those that were not deleted. -/
theorem candidates_without {deleted : List String}
    (hdeleted : ∀ n ∈ deleted, isCandidate n = true) :
    (without deleted dir).candidates
      = dir.candidates.filter fun n => decide (n ∉ deleted) := by
  unfold candidates
  rw [Retention.filter_insertionSort, entries_without]
  congr 1
  rw [List.filter_filter]
  have hmap : (dir.entries.filter fun e => !gone deleted e.1).map Prod.fst
      = (dir.entries.map Prod.fst).filter fun n => !gone deleted n := by
    rw [List.filter_map]
    rfl
  rw [hmap, List.filter_filter]
  refine List.filter_congr ?_
  intro n _
  by_cases hcandidate : isCandidate n = true
  · by_cases hmem : n ∈ deleted
    · simp [hcandidate, hmem, gone]
    · simp [hcandidate, hmem, (not_gone hdeleted hcandidate hmem).1]
  · simp [hcandidate]

/-! ## What is claimed of a directory -/

/-- Every candidate is verified or invalid, by what its marker says of what it is now. -/
structure Classified (host : BackupHost) (dir : BackupDirectory)
    (verified invalid : List BackupPairStatus) : Prop where
  returned : dir.inspect host = .ok (verified, invalid)
  every : ((verified ++ invalid).map (·.dumpName)).Perm dir.candidates
  genuine : ∀ s ∈ verified, s.verified = true ∧ Genuine host dir s.dumpName
  spurious : ∀ s ∈ invalid, s.verified = false ∧ ¬ Genuine host dir s.dumpName
  newest : verified.Pairwise fun s s' => sortKey s' ≤ sortKey s

/-- The verified dumps past the newest few are deleted with their markers, and nothing else is: what
is left is found as it was. -/
structure Retained (host : BackupHost) (dir : BackupDirectory) (retainMax : Nat)
    (verified invalid : List BackupPairStatus) (dir' : BackupDirectory) : Prop where
  returned : dir.applyRetention host retainMax
    = .ok ((verified.drop retainMax).map (·.dumpName), dir')
  deleted : ∀ s ∈ verified.drop retainMax,
    dir'.find s.dumpName = none ∧ dir'.find (verifiedMarkerPath s.dumpName) = none
  kept : ∀ name, (∀ s ∈ verified.drop retainMax,
    name ≠ s.dumpName ∧ name ≠ verifiedMarkerPath s.dumpName) → dir'.find name = dir.find name
  left : dir'.inspect host = .ok (verified.take retainMax, invalid)

/-- Every candidate is looked at to the end, and none has a marker to match but not a name. -/
structure Inspectable (host : BackupHost) (dir : BackupDirectory) : Prop where
  readable : ∀ n ∈ dir.candidates, Readable host dir n
  foreign : ∀ n ∈ dir.candidates, parseBackupTimestamp n = .ok none → ¬ Genuine host dir n

variable {verified invalid : List BackupPairStatus} {retainMax : Nat}

/-- An inspection that returns has looked at every candidate once, and sorts what is verified. -/
theorem inspect_statuses (h : dir.inspect host = .ok (verified, invalid)) :
    (∀ n ∈ dir.candidates, Readable host dir n)
      ∧ verified.Perm ((statuses host dir).filter (·.verified))
      ∧ invalid = (statuses host dir).filter (fun s => !s.verified)
      ∧ ((verified ++ invalid).map (·.dumpName)).Perm dir.candidates := by
  obtain ⟨hall, hverified, hinvalid⟩ := inspect_eq.mp h
  have hperm : verified.Perm ((statuses host dir).filter (·.verified)) := by
    rw [hverified]
    exact List.perm_insertionSort _ _
  refine ⟨hall, hperm, hinvalid, ?_⟩
  rw [← map_statuses hall, hinvalid]
  exact ((hperm.append_right _).trans (List.filter_append_perm _ _)).map _

theorem Inspectable.classified (h : Inspectable host dir) :
    ∃ verified invalid, Classified host dir verified invalid := by
  refine ⟨_, _, inspect_eq.mpr ⟨h.readable, rfl, rfl⟩, ?_, ?_, ?_, ?_⟩
  · exact (inspect_statuses (inspect_eq.mpr ⟨h.readable, rfl, rfl⟩)).2.2.2
  · intro s hs
    obtain ⟨hmem, hverified⟩ := List.mem_filter.mp ((List.mem_insertionSort _).mp hs)
    obtain ⟨hn, hinspect⟩ := mem_statuses.mp hmem
    obtain ⟨timestamp?, hparse⟩ := (h.readable _ hn).named
    cases timestamp? with
    | none =>
        rw [inspectBackupPair_foreign hparse] at hinspect
        have hfalse := congrArg BackupPairStatus.verified (Except.ok.inj hinspect)
        exact absurd hverified (by simp [← hfalse])
    | some timestamp => exact ⟨hverified, (inspectBackupPair_verified hparse hinspect).mp hverified⟩
  · intro s hs
    obtain ⟨hmem, hfalse⟩ := List.mem_filter.mp hs
    obtain ⟨hn, hinspect⟩ := mem_statuses.mp hmem
    obtain ⟨timestamp?, hparse⟩ := (h.readable _ hn).named
    refine ⟨by simpa using hfalse, ?_⟩
    cases timestamp? with
    | none => exact h.foreign _ hn hparse
    | some timestamp =>
        rw [← inspectBackupPair_verified hparse hinspect]
        simpa using hfalse
  · have : Std.Total fun s s' : BackupPairStatus => sortKey s' ≤ sortKey s :=
      ⟨fun s s' => le_total (sortKey s') (sortKey s)⟩
    have : IsTrans BackupPairStatus fun s s' => sortKey s' ≤ sortKey s :=
      ⟨fun _ _ _ h h' => le_trans h' h⟩
    exact List.pairwise_insertionSort _ _

theorem applyRetention_eq (h : dir.inspect host = .ok (verified, invalid)) :
    dir.applyRetention host retainMax = .ok ((verified.drop retainMax).map (·.dumpName),
      without ((verified.drop retainMax).map (·.dumpName)) dir) := by
  unfold applyRetention selectFilesToDeleteForRetention selectVerifiedBackups
  rw [h]
  change Except.ok ((verified.map (·.dumpName)).drop retainMax, _) = _
  rw [← List.map_drop]
  rfl

/-- **What retention leaves is found as it was:** the newest of the verified, and all the invalid. -/
theorem inspect_without (h : dir.inspect host = .ok (verified, invalid)) :
    (without ((verified.drop retainMax).map (·.dumpName)) dir).inspect host
      = .ok (verified.take retainMax, invalid) := by
  obtain ⟨hall, hverified, hinvalid⟩ := inspect_eq.mp h
  obtain ⟨-, hperm, -, hevery⟩ := inspect_statuses h
  have hdeleted : ∀ n ∈ (verified.drop retainMax).map (·.dumpName), isCandidate n = true := by
    intro n hn
    have hmem : n ∈ (verified ++ invalid).map (·.dumpName) := by
      rw [List.map_append]
      exact List.mem_append_left _ (((List.drop_sublist _ _).map _).subset hn)
    exact (mem_candidates.mp (hevery.mem_iff.mp hmem)).2
  generalize hdel : (verified.drop retainMax).map (·.dumpName) = deleted at hdeleted ⊢
  -- What is left is looked at as before.
  have hsame : ∀ n ∈ (without deleted dir).candidates,
      (without deleted dir).inspectBackupPair host n = dir.inspectBackupPair host n := by
    intro n hn
    rw [candidates_without hdeleted, List.mem_filter] at hn
    obtain ⟨hdump, hmarker⟩ :=
      not_gone hdeleted (mem_candidates.mp hn.1).2 (of_decide_eq_true hn.2)
    refine inspectBackupPair_congr ?_ ?_
    · rw [find_without, hdump]
      rfl
    · rw [find_without, hmarker]
      rfl
  have hstatuses : statuses host (without deleted dir)
      = (statuses host dir).filter fun s => decide (s.dumpName ∉ deleted) := by
    unfold statuses
    rw [List.filterMap_congr fun n hn => by rw [hsame n hn], candidates_without hdeleted,
      List.filter_filterMap, List.filterMap_filter]
    refine List.filterMap_congr ?_
    intro n _
    cases hinspect : dir.inspectBackupPair host n with
    | error error => simp [Except.toOption]
    | ok s =>
        rw [← inspectBackupPair_name hinspect]
        simp [Except.toOption, Option.filter]
  have : Std.Total fun s s' : BackupPairStatus => sortKey s' ≤ sortKey s :=
    ⟨fun s s' => le_total (sortKey s') (sortKey s)⟩
  have : IsTrans BackupPairStatus fun s s' => sortKey s' ≤ sortKey s :=
    ⟨fun _ _ _ h h' => le_trans h' h⟩
  have hnodup : (verified.map (·.dumpName)).Nodup := by
    have hall := hevery.nodup_iff.mpr (nodup_candidates dir)
    rw [List.map_append] at hall
    exact (List.nodup_append.mp hall).1
  refine inspect_eq.mpr ⟨?_, ?_, ?_⟩
  · intro n hn
    rw [← inspectBackupPair_ok_iff, hsame n hn, inspectBackupPair_ok_iff]
    rw [candidates_without hdeleted, List.mem_filter] at hn
    exact hall n hn.1
  · change _ = ((statuses host (without deleted dir)).filter _).insertionSort _
    rw [hstatuses, List.filter_filter, List.filter_congr fun s _ => Bool.and_comm _ _,
      ← List.filter_filter, ← Retention.filter_insertionSort]
    rw [← hdel, ← Retention.filter_take hnodup retainMax]
    exact congrArg (List.filter _) hverified
  · change _ = (statuses host (without deleted dir)).filter _
    rw [hstatuses, List.filter_filter, hinvalid]
    refine List.filter_congr ?_
    intro s hs
    -- No invalid dump is among the deleted, for every name is of one status.
    by_cases hv : s.verified = true
    · simp [hv]
    · have hnot : s.dumpName ∉ deleted := by
        intro hmem
        rw [← hdel] at hmem
        obtain ⟨s', hs', heq⟩ := List.mem_map.mp hmem
        obtain ⟨hmem', hv'⟩ := List.mem_filter.mp (hperm.mem_iff.mp (List.mem_of_mem_drop hs'))
        have hi := (mem_statuses.mp hs).2
        have hi' := (mem_statuses.mp hmem').2
        rw [heq] at hi'
        rw [Except.ok.inj (hi.symm.trans hi')] at hv
        exact hv hv'
      simp [hv, hnot]

end BackupDirectory

open BackupDirectory

/-- **A directory is inspected and cleaned up as claimed exactly when it's all readable.** -/
theorem backup_retention_iff (host : BackupHost) (dir : BackupDirectory) :
    (∀ retainMax, ∃ verified invalid dir', Classified host dir verified invalid
      ∧ Retained host dir retainMax verified invalid dir') ↔ Inspectable host dir := by
  constructor
  · intro h
    obtain ⟨verified, invalid, -, hclassified, -⟩ := h 0
    obtain ⟨hall, hverified, hinvalid, -⟩ := inspect_statuses hclassified.returned
    refine ⟨hall, ?_⟩
    intro n hn hparse
    have hinspect : dir.inspectBackupPair host n = .ok ⟨n, false, .foreignName, none⟩ :=
      inspectBackupPair_foreign hparse
    have hmem : (⟨n, false, .foreignName, none⟩ : BackupPairStatus) ∈ invalid := by
      rw [hinvalid, List.mem_filter]
      exact ⟨mem_statuses.mpr ⟨hn, hinspect⟩, rfl⟩
    exact (hclassified.spurious _ hmem).2
  · intro h retainMax
    obtain ⟨verified, invalid, hclassified⟩ := h.classified
    refine ⟨verified, invalid, _, hclassified, applyRetention_eq hclassified.returned, ?_, ?_,
      inspect_without hclassified.returned⟩
    · intro s hs
      have hmem := List.mem_map_of_mem (f := (·.dumpName)) hs
      rw [find_without, find_without]
      constructor
      · rw [if_pos (gone_iff.mpr (.inl hmem))]
      · rw [if_pos (gone_iff.mpr (.inr (List.mem_map_of_mem hmem)))]
    · intro name hname
      rw [find_without, if_neg]
      rw [gone_iff]
      rintro (hmem | hmem)
      · obtain ⟨s, hs, rfl⟩ := List.mem_map.mp hmem
        exact (hname s hs).1 rfl
      · obtain ⟨m, hm, rfl⟩ := List.mem_map.mp hmem
        obtain ⟨s, hs, rfl⟩ := List.mem_map.mp hm
        exact (hname s hs).2 rfl

namespace Sample

/-- A file that says nothing. -/
def emptyFile : DirectoryEntry where
  stat := .ok 0
  read := .ok ⟨#[]⟩
  whole := by
    rintro bytes ⟨⟩
    rfl

def backupHost : BackupHost := ⟨fun _ => "", ⟨1000, 4300⟩⟩

/-- A dump whose name has a stamp, but no date. -/
def misnamed : BackupDirectory where
  entries := [("crumblr_soak_20261301T000000Z.dump", emptyFile)]
  distinct := List.nodup_singleton _

end Sample

open Sample in
/-- One name that is no date, and no dump is classified. -/
theorem backup_stamp_raises :
    ¬ ∀ (host : BackupHost) (dir : BackupDirectory) (retainMax : Nat),
      ∃ verified invalid dir', Classified host dir verified invalid
        ∧ Retained host dir retainMax verified invalid dir' := by
  intro h
  obtain ⟨verified, invalid, -, hclassified, -⟩ := h backupHost misnamed 0
  have hraises : (misnamed.inspect backupHost).isOk = false := by decide +kernel
  rw [hclassified.returned] at hraises
  cases hraises

end Crumblr
