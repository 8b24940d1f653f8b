import Crumblr.Domain.Models

/-!
# The decision windows on record

What a live decision worker had decided when it wrote: the last window, and the hashes
risk has let pass. A worker that starts asks for its newest row, and gets one of three
answers: a row, none yet, or that the record cannot be read.
-/

namespace Crumblr

def decisionWindowSchemaVersion : Int := 1

structure DecisionWindowState where
  canonicalSymbol : String
  strategyId : String
  configVersion : String
  lastDecidedOpenTimeUtc : UtcDatetime
  /-- A set, as a list. -/
  seenDecisionHashes : List String
  recordedAtUtc : UtcDatetime
  schemaVersion : Int

structure DecisionWindowRecord where
  state : Option DecisionWindowState
  unreadable : Option String

/-- What a worker restores, and whether it must halt first. -/
structure DecisionWindowRecovery where
  lastDecidedOpenTimeUtc : Option UtcDatetime
  seenDecisionHashes : List String
  mustHalt : Bool
  reasonCodes : List ReasonCode
  detail : Option String

/-- Absent and unreadable records restore the same nothing, but only an absent one lets
the worker decide. -/
def recoverDecisionWindow (record : DecisionWindowRecord) : DecisionWindowRecovery :=
  match record.unreadable with
  | some why =>
      { lastDecidedOpenTimeUtc := none
        seenDecisionHashes := []
        mustHalt := true
        reasonCodes := [.decisionStateUnknown]
        detail := some s!"decision-window state could not be read: {why}" }
  | none =>
      match record.state with
      | none => ⟨none, [], false, [], none⟩
      | some state =>
          ⟨some state.lastDecidedOpenTimeUtc, state.seenDecisionHashes, false, [], none⟩

/-- The table, oldest row first. -/
abbrev DecisionWindowStates := List DecisionWindowState

namespace DecisionWindowStates

/-- The rows of one worker. -/
def forKey (rows : DecisionWindowStates) (canonicalSymbol strategyId configVersion : String) :
    DecisionWindowStates :=
  rows.filter fun r => r.canonicalSymbol = canonicalSymbol ∧ r.strategyId = strategyId
    ∧ r.configVersion = configVersion

/-- Never raises: a query that fails, a row of another schema and a malformed one are
unreadable. -/
def loadLatest (rows : DecisionWindowStates) (canonicalSymbol strategyId configVersion : String)
    (failure : Option String) : DecisionWindowRecord :=
  match failure with
  | some why => ⟨none, some why⟩
  | none =>
      match (rows.forKey canonicalSymbol strategyId configVersion).getLast? with
      | none => ⟨none, none⟩
      | some row =>
          if row.schemaVersion ≠ decisionWindowSchemaVersion then
            ⟨none, some (s!"decision-window schema {row.schemaVersion} "
              ++ s!"is not the expected {decisionWindowSchemaVersion}")⟩
          else ⟨some row, none⟩

end DecisionWindowStates

end Crumblr
