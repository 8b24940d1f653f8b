import Mathlib.Data.List.Sort
import Crumblr.Domain.Values
import Crumblr.Lib.PyJson
import Crumblr.Lib.PyText

/-!
# Backups

A dump is good as long as its marker says of it what it is. What a directory holds is looked at
file by file, and the oldest dumps beyond a number of good ones are deleted with their markers.
-/

namespace Crumblr

/-! ## The directory -/

/-- What a name in the directory leads to; nothing has a size that a link to nowhere stands for. A
file that is read whole is as large as it says. -/
structure DirectoryEntry where
  stat : Except String Nat
  read : Except String ByteArray
  whole : ∀ bytes, read = .ok bytes → stat = .ok bytes.size

structure BackupDirectory where
  entries : List (String × DirectoryEntry)
  distinct : (entries.map Prod.fst).Nodup

/-- What the interpreter and its libraries bring. -/
structure BackupHost where
  sha256Hex : ByteArray → String
  limits : PyJson.Limits

namespace BackupDirectory

variable (dir : BackupDirectory)

def find (name : String) : Option DirectoryEntry := dir.entries.lookup name

/-- `Path.unlink(missing_ok=True)`. -/
def unlink (name : String) : BackupDirectory where
  entries := dir.entries.filter fun e => decide (e.1 ≠ name)
  distinct := dir.distinct.sublist (List.filter_sublist.map Prod.fst)

end BackupDirectory

/-! ## Names -/

def backupFilenamePrefix : String := "crumblr_soak_"

def backupFilenameSuffix : String := ".dump"

def verifiedMarkerSuffix : String := ".verified.json"

def verifiedMarkerPath (dumpName : String) : String := dumpName ++ verifiedMarkerSuffix

/-- `\d`. -/
def isDecimal (c : Char) : Bool := PyText.isDecimal c.toNat

/-- `\d{8}T\d{6}Z`. -/
def isStamp (stamp : List Char) : Bool :=
  stamp.length == 16 && (stamp.take 8).all isDecimal && stamp[8]? == some 'T'
    && ((stamp.drop 9).take 6).all isDecimal && stamp[15]? == some 'Z'

/-- What the name pattern matches of a name: `$` also matches before a line feed at the end. -/
def stampOf (filename : String) : Option (List Char) :=
  let rest := filename.toList.drop backupFilenamePrefix.length
  let stamp := rest.take 16
  if backupFilenamePrefix.toList.isPrefixOf filename.toList && isStamp stamp
      && (rest.drop 16 == backupFilenameSuffix.toList
        || rest.drop 16 == backupFilenameSuffix.toList ++ ['\n']) then some stamp
  else none

/-- The number decimal digits stand for. -/
def decimalNumber (digits : List Char) : Int :=
  digits.foldl (fun n c => 10 * n + ((PyText.decimalDigit? c.toNat).getD 0 : Nat)) 0

/-- The days from 1970-01-01 to a date. -/
def civilDate (year month day : Int) : Date :=
  let y := if month ≤ 2 then year - 1 else year
  let era := y / 400
  let yoe := y - era * 400
  let doy := (153 * (if month > 2 then month - 3 else month + 9) + 2) / 5 + day - 1
  let doe := yoe * 365 + yoe / 4 - yoe / 100 + doy
  era * 146097 + doe - 719468

def daysInMonth (year month : Int) : Int :=
  if month = 2 then
    if year % 4 = 0 ∧ (year % 100 ≠ 0 ∨ year % 400 = 0) then 29 else 28
  else if month ∈ [4, 6, 9, 11] then 30
  else 31

/-- Whether two characters are one of the numbers a format field takes: its first digit is one of
ASCII's, its second one of any script where the first leaves it open. -/
def twoDigits (high low : Char) (openAfter : List Char) (closedAfter : List (Char × Char × Char)) :
    Bool :=
  (decide (high ∈ openAfter) && isDecimal low)
    || closedAfter.any fun (first, least, greatest) =>
      high == first && decide (least ≤ low ∧ low ≤ greatest)

/-- `datetime.strptime` by `%Y%m%dT%H%M%SZ`, of a text the name pattern matched. -/
def strptime (stamp : List Char) : Except PyError UtcDatetime :=
  match stamp with
  | [y₁, y₂, y₃, y₄, m₁, m₂, d₁, d₂, _, h₁, h₂, n₁, n₂, s₁, s₂, _] =>
      if twoDigits m₁ m₂ [] [('1', '0', '2'), ('0', '1', '9')]
          && twoDigits d₁ d₂ ['1', '2'] [('3', '0', '1'), ('0', '1', '9')]
          && twoDigits h₁ h₂ ['0', '1'] [('2', '0', '3')]
          && twoDigits n₁ n₂ ['0', '1', '2', '3', '4', '5'] []
          && twoDigits s₁ s₂ ['0', '1', '2', '3', '4', '5'] [('6', '0', '1')] then
        let year := decimalNumber [y₁, y₂, y₃, y₄]
        let month := decimalNumber [m₁, m₂]
        let day := decimalNumber [d₁, d₂]
        let second := decimalNumber [s₁, s₂]
        if year < 1 then .error ⟨.value, "year 0 is out of range"⟩
        else if daysInMonth year month < day then
          .error ⟨.value, "day is out of range for month"⟩
        else if 59 < second then .error ⟨.value, "second must be in 0..59"⟩
        else .ok (days (civilDate year month day) + hours (decimalNumber [h₁, h₂])
          + minutes (decimalNumber [n₁, n₂]) + seconds second)
      else .error ⟨.value, s!"time data '{String.ofList stamp}' does not match format "
        ++ "'%Y%m%dT%H%M%SZ'"⟩
  | _ => .error ⟨.value, s!"time data '{String.ofList stamp}' does not match format "
      ++ "'%Y%m%dT%H%M%SZ'"⟩

/-- The instant a dump's name says; nothing for a name that is none of this tool's. -/
def parseBackupTimestamp (filename : String) : Except PyError (Option UtcDatetime) :=
  match stampOf filename with
  | none => .ok none
  | some stamp => (strptime stamp).map some

/-! ## Markers -/

def requiredAlembicRevision : String := "8801080869a6"

def runtimeAssignmentId : String := "f98c0396-dd13-4a99-b1e9-b83ea0f15ed7"

/-- A marker that has every field it must have, each of its own type. -/
structure BackupMarker where
  schemaVersion : Int
  dumpFilename : List Nat
  sha256 : List Nat
  sizeBytes : Int
  verifiedAtUtc : List Nat
  alembicRevision : List Nat
  assignmentId : List Nat
  deriving DecidableEq

namespace BackupMarker

def int? (payload : PyJson.Value) (key : String) : Option Int :=
  match payload.get? key with
  | some (.int n) => some n
  | _ => none

def str? (payload : PyJson.Value) (key : String) : Option (List Nat) :=
  match payload.get? key with
  | some (.str codes) => some codes
  | _ => none

/-- The marker a payload is: an object with the required fields, a `true` being no integer. -/
def ofPayload? (payload : PyJson.Value) : Option BackupMarker := do
  pure {
    schemaVersion := ← int? payload "schema_version"
    dumpFilename := ← str? payload "dump_filename"
    sha256 := ← str? payload "sha256"
    sizeBytes := ← int? payload "size_bytes"
    verifiedAtUtc := ← str? payload "verified_at_utc"
    alembicRevision := ← str? payload "alembic_revision"
    assignmentId := ← str? payload "assignment_id" }

/-- `^[0-9a-f]{64}$`. -/
def isSha256 (codes : List Nat) : Bool :=
  (codes.take 64).length == 64
    && (codes.take 64).all (fun n => decide (0x30 ≤ n ∧ n ≤ 0x39 ∨ 0x61 ≤ n ∧ n ≤ 0x66))
    && (codes.drop 64 == [] || codes.drop 64 == [0xA])

end BackupMarker

/-- A file's bytes, read as UTF-8. -/
def decodeText (bytes : ByteArray) : Except PyError (List Char) :=
  match PyText.decode? bytes with
  | none => .error ⟨.unicodeDecode, "'utf-8' codec can't decode the bytes"⟩
  | some text => .ok text

/-- Nothing for a text that is no JSON, no object, or no marker. -/
def parseMarker (limits : PyJson.Limits) (raw : List Char) :
    Except PyError (Option BackupMarker) :=
  match PyJson.loads limits raw with
  | .ok payload => .ok (BackupMarker.ofPayload? payload)
  | .error .decode => .ok none
  | .error .digits =>
      .error ⟨.value, "Exceeds the limit for integer string conversion"⟩
  | .error .recursion => .error ⟨.recursion, "maximum recursion depth exceeded"⟩

/-! ## Inspecting -/

/-- What a status says of a dump; `reason` by the values its text names. -/
inductive BackupReason where
  /-- filename does not match the naming convention -/
  | foreignName
  /-- no marker file -/
  | noMarker
  /-- marker unreadable: … -/
  | markerUnreadable (error : String)
  /-- marker is malformed or missing a required field -/
  | malformedMarker
  /-- marker dump_filename … does not match this file's name -/
  | filenameMismatch (recorded : List Nat)
  /-- marker sha256 is not structurally valid -/
  | invalidSha256
  /-- dump file unreadable: … -/
  | dumpUnreadable (error : String)
  /-- marker size_bytes … != current file size … -/
  | sizeMismatch (recorded : Int) (current : Nat)
  /-- marker alembic_revision does not match the canonical value -/
  | revisionMismatch
  /-- marker assignment_id does not match the canonical value -/
  | assignmentMismatch
  /-- current dump bytes do not match the recorded sha256 -/
  | digestMismatch
  /-- verified -/
  | verified
  deriving DecidableEq

structure BackupPairStatus where
  dumpName : String
  verified : Bool
  reason : BackupReason
  timestamp : Option UtcDatetime := none
  deriving DecidableEq

namespace BackupDirectory

variable (host : BackupHost) (dir : BackupDirectory)

/-- `Path.exists`. -/
def exists_ (name : String) : Bool := (dir.find name).any fun e => e.stat.isOk

def stat (name : String) : Except String Nat :=
  match dir.find name with
  | none => .error "No such file or directory"
  | some e => e.stat

def read (name : String) : Except String ByteArray :=
  match dir.find name with
  | none => .error "No such file or directory"
  | some e => e.read

/-- The digest of a file as it is now. -/
def sha256 (name : String) : Except PyError String :=
  match dir.read name with
  | .error error => .error ⟨.os, error⟩
  | .ok bytes => .ok (host.sha256Hex bytes)

/-- Check a marker that was read against its dump. -/
def checkMarker (dumpName : String) (timestamp : UtcDatetime) (marker : BackupMarker) :
    Except PyError BackupPairStatus :=
  let invalid := fun reason => .ok ⟨dumpName, false, reason, some timestamp⟩
  if marker.dumpFilename ≠ PyJson.codes dumpName then
    invalid (.filenameMismatch marker.dumpFilename)
  else if !BackupMarker.isSha256 marker.sha256 then invalid .invalidSha256
  else
    match dir.stat dumpName with
    | .error error => invalid (.dumpUnreadable error)
    | .ok currentSize =>
        if marker.sizeBytes ≠ currentSize then
          invalid (.sizeMismatch marker.sizeBytes currentSize)
        else if marker.alembicRevision ≠ PyJson.codes requiredAlembicRevision then
          invalid .revisionMismatch
        else if marker.assignmentId ≠ PyJson.codes runtimeAssignmentId then
          invalid .assignmentMismatch
        else
          match dir.sha256 host dumpName with
          | .error error => .error error
          | .ok currentSha256 =>
              if PyJson.codes currentSha256 ≠ marker.sha256 then invalid .digestMismatch
              else .ok ⟨dumpName, true, .verified, some timestamp⟩

def inspectBackupPair (dumpName : String) : Except PyError BackupPairStatus := do
  match ← parseBackupTimestamp dumpName with
  | none => pure ⟨dumpName, false, .foreignName, none⟩
  | some timestamp =>
      let markerName := verifiedMarkerPath dumpName
      if !dir.exists_ markerName then pure ⟨dumpName, false, .noMarker, some timestamp⟩
      else
        match dir.read markerName with
        | .error error => pure ⟨dumpName, false, .markerUnreadable error, some timestamp⟩
        | .ok bytes => do
            let raw ← decodeText bytes
            match ← parseMarker host.limits raw with
            | none => pure ⟨dumpName, false, .malformedMarker, some timestamp⟩
            | some marker => dir.checkMarker host dumpName timestamp marker

/-- Whether a name is of the form the directory is searched for. -/
def isCandidate (name : String) : Bool :=
  backupFilenamePrefix.toList.isPrefixOf name.toList
    && backupFilenameSuffix.toList.isSuffixOf (name.toList.drop backupFilenamePrefix.length)

/-- `sorted(directory.glob(…))`. -/
def candidates : List String :=
  ((dir.entries.map Prod.fst).filter isCandidate).insertionSort (· ≤ ·)

/-- `datetime.min`. -/
def datetimeMin : UtcDatetime := days (civilDate 1 1 1)

def sortKey (status : BackupPairStatus) : UtcDatetime := status.timestamp.getD datetimeMin

/-- Every candidate, classified: the verified ones newest first. -/
def inspect : Except PyError (List BackupPairStatus × List BackupPairStatus) := do
  let statuses ← dir.candidates.mapM (dir.inspectBackupPair host)
  let verified := statuses.filter (·.verified)
  pure (verified.insertionSort fun s s' => sortKey s' ≤ sortKey s,
    statuses.filter fun s => !s.verified)

def selectVerifiedBackups : Except PyError (List String) := do
  let (verified, _) ← dir.inspect host
  pure (verified.map (·.dumpName))

/-- The verified dumps beyond the newest `retainMax`. -/
def selectFilesToDeleteForRetention (retainMax : Nat) : Except PyError (List String) := do
  let verified ← dir.selectVerifiedBackups host
  pure (verified.drop retainMax)

def retentionMaxVerifiedBackups : Nat := 72

/-- Delete what retention does not keep. -/
def applyRetention (retainMax : Nat := retentionMaxVerifiedBackups) :
    Except PyError (List String × BackupDirectory) := do
  let toDelete ← dir.selectFilesToDeleteForRetention host retainMax
  pure (toDelete, toDelete.foldl
    (fun dir dumpName => (dir.unlink (verifiedMarkerPath dumpName)).unlink dumpName) dir)

end BackupDirectory

end Crumblr
