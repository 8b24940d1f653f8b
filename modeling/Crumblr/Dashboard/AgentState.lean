import Crumblr.AgentGateway.Stores
import Crumblr.Application.LiveDecision
import Crumblr.Lib.PyText
import Crumblr.Persistence.PaperLite

/-!
# What the dashboard says of a decision

The dashboard reads what is on record of the decision an assignment claimed last, and says what
became of it: its settlement at the gateway, the entries of the paper journal that name it, and the
capsule it was sealed in, in this order. A journal that cannot be read in full says nothing.
-/

namespace Crumblr.Dashboard

/-! ## The journal -/

structure JournalReadResult where
  entries : List Json
  hadCorruption : Bool

/-- Read a journal, of each line that is not blank what JSON it is, if any. -/
def readJournalEntries (lines : List (Option Json)) : JournalReadResult where
  entries := lines.filterMap id
  hadCorruption := lines.any (·.isNone)

/-- `value.get(key)`, which only a dictionary has. -/
def dictGet (value : Json) (key : String) : Except PyError Json :=
  match value with
  | .obj fields => .ok (((Json.obj fields).get? key).getD .null)
  | _ => .error ⟨.other, "object has no attribute 'get'"⟩

/-- What an entry is correlated with. -/
def correlationId (entry : Json) : Except PyError Json :=
  match entry with
  | .obj fields => dictGet (((Json.obj fields).get? "payload").getD (.obj [])) "correlation_id"
  | _ => .error ⟨.other, "object has no attribute 'get'"⟩

/-- The entries correlated with an outcome. -/
def matching (outcomeId : Uuid) : List Json → Except PyError (List Json)
  | [] => .ok []
  | entry :: entries => do
      let correlation ← correlationId entry
      let rest ← matching outcomeId entries
      pure (if correlation.asStr? = some outcomeId.text then entry :: rest else rest)

/-- `entry.get("event_type") == event_type`. -/
def hasEventType (eventType : String) (entry : Json) : Bool :=
  (entry.get? "event_type").bind Json.asStr? == some eventType

/-- `entry["payload"].get(key)`, of an entry with a payload. -/
def payloadGet (entry : Json) (key : String) : Json :=
  ((entry.get? "payload").bind (·.get? key)).getD .null

/-- The entry is an audit fact of this name. -/
def isFact (fact : String) (entry : Json) : Bool :=
  hasEventType "AUDIT_FACT" entry && ((payloadGet entry "fact").asStr? == some fact)

/-- What an audit fact that ended a decision says of it. -/
def auditFactOutcome : String → Option String
  | "PAPER_LITE_SAFETY_HALTED" => some "RISK_BLOCKED"
  | "PAPER_LITE_SESSION_BLOCKED" => some "SESSION_BLOCKED"
  | "PAPER_LITE_ORDER_CHECK_BLOCKED" => some "PAPER_ORDER_CHECK_BLOCKED"
  | _ => none

/-- The first entry that is such a fact, and what it says. -/
def endingFact : List Json → Except PyError (Option (Json × String))
  | [] => .ok none
  | entry :: entries =>
      if hasEventType "AUDIT_FACT" entry then
        match payloadGet entry "fact" with
        | .str fact =>
            match auditFactOutcome fact with
            | some outcome => .ok (some (entry, outcome))
            | none => endingFact entries
        | .list _ | .obj _ => .error ⟨.type, "unhashable type"⟩
        | _ => endingFact entries
      else endingFact entries

/-- The verdict in the detail of a review, if it is one. -/
def parseSupervisorVerdict : Json → Except PyError (Option String)
  | .null => .ok none
  | .str detail =>
      if !"verdict=".toList.isPrefixOf detail.toList then .ok none
      else
        let word := detail.toList.takeWhile fun c => !PyText.isSpace c.toNat
        match word.drop "verdict=".length with
        | [] => .ok none
        | verdict => .ok (some (String.ofList verdict))
  | _ => .error ⟨.other, "object has no attribute 'startswith'"⟩

/-! ## What is shown -/

structure TradeProposalSummary where
  side : String
  entryType : String
  referencePrice : String
  stopLossPrice : Option String
  takeProfitPrice : Option String
  requestedRiskFraction : Option String
  reasonCodes : List String

/-- What the decision that an assignment claimed last came to. -/
structure LastDecisionState where
  occurredAtUtc : Option UtcDatetime
  platformOutcome : String
  /-- A text or nothing, unless an entry has something else for it. -/
  platformOutcomeDetail : Json
  proposal : Option TradeProposalSummary
  riskVerdict : Option String
  riskReasonCodes : List String
  policyVerdict : Option String
  supervisorSkipped : Bool
  supervisorVerdict : Option String

def degradedDetail : String := "a PAPER_LITE journal line could not be read; evidence may be incomplete"

def awaitingEvidenceDetail : String :=
  "the outcome was claimed but no further evidence has been recorded yet"

/-- Of an outcome of which no capsule is shown. -/
def bareState (occurredAtUtc : Option UtcDatetime) (platformOutcome : String)
    (platformOutcomeDetail : Json) (riskReasonCodes : List String) (supervisorSkipped : Bool) :
    LastDecisionState where
  occurredAtUtc
  platformOutcome
  platformOutcomeDetail
  proposal := none
  riskVerdict := none
  riskReasonCodes
  policyVerdict := none
  supervisorSkipped
  supervisorVerdict := none

def proposalSummary (capsule : DecisionCapsule) : Option TradeProposalSummary :=
  capsule.tradeIntent.map fun intent => {
    side := intent.side.value
    entryType := intent.entryType.value
    referencePrice := intent.referencePrice.val.text
    stopLossPrice := intent.stopLossPrice.map (·.val.text)
    takeProfitPrice := intent.takeProfitPrice.map (·.val.text)
    requestedRiskFraction := intent.requestedRiskFraction.map (·.val.text)
    reasonCodes := intent.reasonCodes }

/-- What the capsule of a decision says it came to. -/
def capsuleOutcome (capsule : DecisionCapsule) (supervisorVerdict : Option String)
    (filled : Bool) : String :=
  if capsule.tradeIntent.isNone then "NO_TRADE"
  else if capsule.riskDecision.all (fun risk => decide (risk.verdict ≠ .pass)) then "RISK_BLOCKED"
  else if capsule.supervisorDecision.all (fun policy => decide (policy.verdict ≠ .approve)) then
    "POLICY_BLOCKED"
  else if filled then "PAPER_FILLED"
  else if supervisorVerdict.any (fun verdict => decide (verdict ≠ "APPROVE")) then
    "EXTERNAL_SUPERVISOR_BLOCKED"
  else "AWAITING_OUTCOME"

def fromCapsule (capsule : DecisionCapsule) (supervisorSkipped : Bool)
    (supervisorVerdict : Option String) (filled : Bool) : LastDecisionState where
  occurredAtUtc := some capsule.occurredAtUtc
  platformOutcome := capsuleOutcome capsule supervisorVerdict filled
  platformOutcomeDetail := .null
  proposal := proposalSummary capsule
  riskVerdict := capsule.riskDecision.map (·.verdict.value)
  riskReasonCodes := match capsule.riskDecision with
    | some risk => risk.reasonCodes.map (·.value)
    | none => []
  policyVerdict := capsule.supervisorDecision.map (·.verdict.value)
  supervisorSkipped
  supervisorVerdict

/-! ## The last decision -/

variable [Externals]

/-- The id a decision is sealed under. -/
def agentCapsuleId (outcomeId : Uuid) : Uuid :=
  Externals.uuid5 ("crumblr:agent-capsule:" ++ outcomeId.text)

/-- What the journal and the capsules say of an outcome that was not rejected. -/
def stateFromEvidence (capsules : List SealedCapsule) (outcomeId : Uuid)
    (settlement : Option AgentDecisionEventRecord) (matching : List Json) :
    Except PyError LastDecisionState := do
  let supervisorSkipped := matching.any (isFact "SUPERVISOR_SKIPPED_PAPER_MODE")
  let supervisorVerdict ← match matching.find? (isFact "PAPER_LITE_EXTERNAL_SUPERVISOR_REVIEWED") with
    | none => pure none
    | some entry => parseSupervisorVerdict (payloadGet entry "detail")
  let filled := matching.any (hasEventType "PAPER_ORDER_ACCEPTED")
  match ← endingFact matching with
  | some (entry, outcome) =>
      pure (bareState none outcome (payloadGet entry "detail") [] supervisorSkipped)
  | none =>
      match Table.lookup (·.capsuleId) capsules (agentCapsuleId outcomeId) with
      | some capsule =>
          pure (fromCapsule capsule.toDecisionCapsule supervisorSkipped supervisorVerdict filled)
      | none =>
          pure (bareState (settlement.map (·.occurredAtUtc)) "AWAITING_EVIDENCE"
            (.str awaitingEvidenceDetail) [] supervisorSkipped)

/-- What is on record of an outcome. -/
def stateOf (outcomes : AgentDecisionOutcomes) (capsules : List SealedCapsule)
    (journalEntries : List Json) (outcomeId : Uuid) : Except PyError LastDecisionState :=
  match outcomes.settlementFor outcomeId with
  | some settlement =>
      if settlement.eventType = .rejected then
        .ok (bareState (some settlement.occurredAtUtc) "GATEWAY_REJECTED"
          (.opt .str settlement.detail) settlement.reasonCodes false)
      else do
        let matching ← matching outcomeId journalEntries
        stateFromEvidence capsules outcomeId (some settlement) matching
  | none => do
      let matching ← matching outcomeId journalEntries
      stateFromEvidence capsules outcomeId none matching

/-- The decision an assignment claimed last, and what it came to. -/
def buildLastDecision (outcomes : AgentDecisionOutcomes) (capsules : List SealedCapsule)
    (assignmentId : Option Uuid) (journal : JournalReadResult) :
    Except PyError (Option LastDecisionState) :=
  if journal.hadCorruption then
    .ok (some (bareState none "DEGRADED" (.str degradedDetail) [] false))
  else
    match assignmentId.bind outcomes.latestOutcomeIdFor with
    | none => .ok none
    | some outcomeId => (stateOf outcomes capsules journal.entries outcomeId).map some

end Crumblr.Dashboard
