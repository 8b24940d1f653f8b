import Crumblr.Risk.Session

/-!
# The risk sessions on record

One append-only table for all markets. What a market recovers from is the row it
appended last, whatever day that row is about.
-/

namespace Crumblr

/-- The table, oldest row first. -/
abbrev RiskSessionStates := List RiskSessionState

namespace RiskSessionStates

/-- The rows of one market. -/
def forSymbol (rows : RiskSessionStates) (canonicalSymbol : String) : RiskSessionStates :=
  rows.filter fun r => r.canonicalSymbol = canonicalSymbol

/-- Never raises: a query that fails and a row of another schema are unreadable. -/
def loadLatest (rows : RiskSessionStates) (canonicalSymbol : String) (failure : Option PyError) :
    SessionRecord :=
  match failure with
  | some error => ⟨none, some s!"risk-session journal unreachable: {error.message}"⟩
  | none =>
      match (rows.forSymbol canonicalSymbol).getLast? with
      | none => ⟨none, none⟩
      | some row =>
          if row.schemaVersion ≠ sessionSchemaVersion then
            ⟨none, some (s!"risk-session schema {row.schemaVersion} "
              ++ s!"is not the expected {sessionSchemaVersion}")⟩
          else ⟨some row, none⟩

/-- Append a row, in a transaction that may fail. -/
def save (rows : RiskSessionStates) (state : RiskSessionState) (failure : Option PyError) :
    Except PyError RiskSessionStates :=
  match failure with
  | some error => .error error
  | none => .ok (rows ++ [state])

theorem forSymbol_append (rows : RiskSessionStates) (state : RiskSessionState) (symbol : String) :
    forSymbol (rows ++ [state]) symbol
      = if state.canonicalSymbol = symbol then rows.forSymbol symbol ++ [state]
        else rows.forSymbol symbol := by
  unfold forSymbol
  rw [List.filter_append]
  by_cases h : state.canonicalSymbol = symbol <;> simp [h]

theorem save_ok {rows rows' : RiskSessionStates} {state : RiskSessionState}
    {failure : Option PyError} (h : rows.save state failure = .ok rows') :
    failure = none ∧ rows' = rows ++ [state] := by
  unfold save at h
  split at h
  · cases h
  · cases h
    exact ⟨rfl, rfl⟩

end RiskSessionStates

end Crumblr
