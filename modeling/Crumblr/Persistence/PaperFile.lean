import Crumblr.Persistence.PaperRecords

/-!
# The file of a paper journal

An append opens the file, writes its line and waits for the disk; memory is changed when all of that
is done. It can fail before the file is open, and after any part of the line has reached the file,
also the whole of it. The exception reaches the caller, and the broker is used on.
-/

namespace Crumblr

/-- How an append goes. -/
inductive AppendOutcome where
  | done
  /-- The file cannot be opened, nor is it created. -/
  | refused
  /-- Writing, flushing or syncing fails when so many bytes of the line are in the file. -/
  | broken (bytes : Nat)
  deriving DecidableEq

/-- The bytes of an entry's line. -/
def lineBytes (e : PaperJournalEntry) : List UInt8 :=
  (String.ofList (e.encoded.sortKeys.dumps false ++ ['\n'])).toUTF8.data.toList

/-- The bytes of a file: lines that are whole records and, from the first that is not, the rest. -/
structure JournalFile where
  records : List Json
  rest : List UInt8

/-- The entry a record is. -/
def PaperRecord.entry (r : PaperRecord) : PaperJournalEntry where
  sequence := r.sequence.toNat
  eventType := r.eventType
  eventKey := r.eventKey
  previousHash := r.previousHash
  payload := .obj (r.payload.map fun f => (f.1.text, f.2))
  recordHash := r.recordHash

namespace JournalFile

def empty : JournalFile := ⟨[], []⟩

variable (file : JournalFile)

/-- The file with the first bytes of an entry's line behind it. -/
def written (e : PaperJournalEntry) (bytes : Nat) : JournalFile :=
  if file.rest = [] ∧ (lineBytes e).length ≤ bytes then
    { file with records := file.records ++ [e.encoded] }
  else { file with rest := file.rest ++ (lineBytes e).take bytes }

variable (host : JournalHost)

/-- The next line of the rest of a file. -/
def readRest (entries : List PaperJournalEntry) (line : List Char) :
    Except PyError (List PaperJournalEntry) :=
  match readLine host entries.length (entries.getLast?.map (·.recordHash)) line with
  | .error error => .error error
  | .ok record => .ok (entries ++ [record.entry])

variable [Externals]

def readEntries : Except PyError (List PaperJournalEntry) := do
  let entries ← Crumblr.readEntries file.records
  match PyText.decode? ⟨file.rest.toArray⟩ with
  | none => throw ⟨.unicodeDecode, "'utf-8' codec can't decode the bytes"⟩
  | some text => (PyText.lines text).foldlM (readRest host) entries

end JournalFile

/-! ## A portfolio and its file -/

/-- The file, if there is one, and the broker that is in use, if there is one. -/
structure PaperStand where
  file : Option JournalFile
  broker : Option DurablePaperBroker

/-- What can be asked for. -/
inductive PaperStep where
  /-- `DurablePaperBroker(...)`; the broker before is not used on. -/
  | construct (outcome : AppendOutcome)
  | operate (o : PaperOperation) (outcome : AppendOutcome)

section

variable [Externals] (host : JournalHost) (p : PaperPortfolio)

/-- What a process that starts makes of a file. -/
def PaperPortfolio.loadFile (file : JournalFile) : Except PyError DurablePaperBroker := do
  let entries ← file.readEntries host
  p.replay entries

/-- A new broker on a file, or on none. -/
def PaperPortfolio.construct (file : Option JournalFile) (outcome : AppendOutcome) : PaperStand :=
  match file with
  | some file => ⟨some file, (p.loadFile host file).toOption⟩
  | none =>
      match outcome with
      | .done => ⟨some ⟨[p.header.encoded], []⟩, some p.created⟩
      | .refused => ⟨none, none⟩
      | .broken bytes => ⟨some (JournalFile.empty.written p.header bytes), none⟩

namespace PaperStand

variable (s : PaperStand)

def step : PaperStep → PaperStand
  | .construct outcome => p.construct host s.file outcome
  | .operate o outcome =>
      match s.broker with
      | none => s
      | some b =>
          let effect := o.run b
          match effect.appended with
          | none => { s with broker := some effect.left }
          | some entry =>
              let file := s.file.getD JournalFile.empty
              match outcome with
              | .done => ⟨some (file.written entry (lineBytes entry).length), some effect.left⟩
              | .refused => s
              | .broken bytes => ⟨some (file.written entry bytes), some b⟩

end PaperStand

/-- Where some steps lead that begin without a file. -/
def PaperPortfolio.after (steps : List PaperStep) : PaperStand :=
  steps.foldl (PaperStand.step host p) ⟨none, none⟩

end

end Crumblr
