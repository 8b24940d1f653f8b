import Crumblr.AgentGateway.Contracts
import Crumblr.Lib.Table

/-!
# The gateway's stores

What the platform has registered and issued, and what agents have submitted. Identities and
credentials are replaced by appending, assignments and bundles are kept as they were first
registered, and of an outcome the first claim and the first event of each type stay.
-/

namespace Crumblr

/-! ## Vocabulary -/

inductive AgentOutcomeType where
  | tradeProposal
  | noTrade
  deriving DecidableEq, Repr

inductive AgentDecisionEventType where
  | received
  | accepted
  | rejected
  deriving DecidableEq, Repr

/-- The value the enumeration carries. -/
def AgentDecisionEventType.value : AgentDecisionEventType → String
  | .received => "RECEIVED"
  | .accepted => "ACCEPTED"
  | .rejected => "REJECTED"

/-- Why a well-formed submission of an authenticated agent is refused. -/
inductive AgentRejectionReason where
  | unknownAssignment
  | assignmentNotOwned
  | assignmentNotValidAtTime
  | strategyArtifactMismatch
  | rateLimitExceeded
  | riskFractionOutOfBand
  | missingRequiredEvidence
  | missingReasonCodes
  | proposalExpired
  | unknownContext
  | contextAssignmentMismatch
  | contextExpired
  deriving DecidableEq, Repr

/-- The value the enumeration carries. -/
def AgentRejectionReason.value : AgentRejectionReason → String
  | .unknownAssignment => "UNKNOWN_ASSIGNMENT"
  | .assignmentNotOwned => "ASSIGNMENT_NOT_OWNED"
  | .assignmentNotValidAtTime => "ASSIGNMENT_NOT_VALID_AT_TIME"
  | .strategyArtifactMismatch => "STRATEGY_ARTIFACT_MISMATCH"
  | .rateLimitExceeded => "RATE_LIMIT_EXCEEDED"
  | .riskFractionOutOfBand => "RISK_FRACTION_OUT_OF_BAND"
  | .missingRequiredEvidence => "MISSING_REQUIRED_EVIDENCE"
  | .missingReasonCodes => "MISSING_REASON_CODES"
  | .proposalExpired => "PROPOSAL_EXPIRED"
  | .unknownContext => "UNKNOWN_CONTEXT"
  | .contextAssignmentMismatch => "CONTEXT_ASSIGNMENT_MISMATCH"
  | .contextExpired => "CONTEXT_EXPIRED"

def AgentRejectionReason.all : List AgentRejectionReason :=
  [.unknownAssignment, .assignmentNotOwned, .assignmentNotValidAtTime, .strategyArtifactMismatch,
   .rateLimitExceeded, .riskFractionOutOfBand, .missingRequiredEvidence, .missingReasonCodes,
   .proposalExpired, .unknownContext, .contextAssignmentMismatch, .contextExpired]

def AgentRejectionReason.ofValue? (value : String) : Option AgentRejectionReason :=
  all.find? fun r => r.value == value

@[simp] theorem AgentRejectionReason.ofValue?_value (r : AgentRejectionReason) :
    ofValue? r.value = some r := by
  cases r <;> rfl

/-! ## What is registered -/

/-- A credential as it is stored: a salt and the digest of the salted secret, both in hex. -/
structure StoredCredential where
  agentId : Uuid
  saltHex : String
  digestHex : String

/-- What an agent was shown, sealed before it is referred to. -/
structure AgentContextEvidence where
  featureSnapshotId : Uuid
  featureSetVersion : String
  symbol : String
  computedAtUtc : UtcDatetime
  marketSnapshotId : Uuid
  instrumentSpecVersion : String
  sessionState : SessionState
  dataQuality : DataQuality
  regime : Regime

/-- The registries, each in the order it was written. -/
structure GatewayRegistries where
  identities : List AgentIdentity
  credentials : List StoredCredential
  assignments : List TradingAssignment
  contexts : List DecisionContextBundle
  featureEvidence : List AgentContextEvidence

namespace GatewayRegistries

variable (g : GatewayRegistries)

def registerIdentity (identity : AgentIdentity) : GatewayRegistries :=
  { g with identities := g.identities ++ [identity] }

/-- The identity an agent was last registered with. -/
def identity (agentId : Uuid) : Option AgentIdentity :=
  (g.identities.filter fun i => i.agentId = agentId).getLast?

def setCredential (credential : StoredCredential) : GatewayRegistries :=
  { g with credentials := g.credentials ++ [credential] }

def currentHash (agentId : Uuid) : Option StoredCredential :=
  (g.credentials.filter fun c => c.agentId = agentId).getLast?

/-- The assignment under an id. -/
def assignment (assignmentId : Uuid) : Option TradingAssignment :=
  Table.lookup (·.assignmentId) g.assignments assignmentId

/-- Registering the same content again changes nothing; other content is refused. -/
def registerAssignment [Externals] (assignment : TradingAssignment) :
    Except PyError GatewayRegistries :=
  match g.assignment assignment.assignmentId with
  | none => .ok { g with assignments := g.assignments ++ [assignment] }
  | some existing =>
      if digestOf existing.dump ≠ digestOf assignment.dump then
        .error ⟨.assignmentConflict, (s!"assignment_id {assignment.assignmentId.text} was already "
          ++ "registered with different content")⟩
      else .ok g

def issue [Externals] (bundle : DecisionContextBundle) : Except PyError GatewayRegistries :=
  match Table.lookup (·.contextId) g.contexts bundle.contextId with
  | none => .ok { g with contexts := g.contexts ++ [bundle] }
  | some existing =>
      if existing.contentHash ≠ bundle.contentHash then
        .error ⟨.contextConflict, (s!"context_id {bundle.contextId.text} was already issued "
          ++ "with different content")⟩
      else .ok g

/-- The bundle last issued under a content hash. -/
def byHash [Externals] (contentHash : String) : Option DecisionContextBundle :=
  (g.contexts.filter fun b => b.contentHash = contentHash).getLast?

/-- The first evidence recorded under an id stays. -/
def recordEvidence (evidence : AgentContextEvidence) : GatewayRegistries :=
  { g with featureEvidence := (Table.insert? (·.featureSnapshotId) g.featureEvidence
      evidence).getD g.featureEvidence }

def evidence (featureSnapshotId : Uuid) : Option AgentContextEvidence :=
  Table.lookup (·.featureSnapshotId) g.featureEvidence featureSnapshotId

end GatewayRegistries

/-! ## What is submitted -/

/-- A claimed submission. -/
structure AgentDecisionOutcome where
  outcomeId : Uuid
  outcomeType : AgentOutcomeType
  agentId : Uuid
  assignmentId : Uuid
  fingerprint : String
  claimedAtUtc : UtcDatetime

structure AgentDecisionEventRecord where
  outcomeId : Uuid
  eventType : AgentDecisionEventType
  occurredAtUtc : UtcDatetime
  reasonCodes : List String
  detail : Option String

/-- What an event is recorded under. -/
def AgentDecisionEventRecord.key (e : AgentDecisionEventRecord) : Uuid × AgentDecisionEventType :=
  (e.outcomeId, e.eventType)

def settlingEventTypes : List AgentDecisionEventType := [.accepted, .rejected]

/-- The two tables a submission writes. -/
structure AgentDecisionOutcomes where
  outcomes : List AgentDecisionOutcome
  events : List AgentDecisionEventRecord

namespace AgentDecisionOutcomes

variable (t : AgentDecisionOutcomes)

/-- Claim an id; losing to the same content is a retry, losing to other content is refused. -/
def claim (row : AgentDecisionOutcome) : Except PyError (Bool × AgentDecisionOutcomes) :=
  match Table.lookup (·.outcomeId) t.outcomes row.outcomeId with
  | none => .ok (true, { t with outcomes := t.outcomes ++ [row] })
  | some existing =>
      if existing.fingerprint ≠ row.fingerprint then
        .error ⟨.decisionConflict, (s!"outcome id {row.outcomeId.text} was already claimed with a "
          ++ s!"different fingerprint ('{existing.fingerprint}' != '{row.fingerprint}') -- "
          ++ "the same idempotency key would refer to two different decisions")⟩
      else .ok (false, t)

def claimTradeProposal [Externals] (proposal : TradeProposal) (now : UtcDatetime) :
    Except PyError (Bool × AgentDecisionOutcomes) :=
  t.claim ⟨proposal.proposalId, .tradeProposal, proposal.agentId, proposal.assignmentId,
    proposal.proposalFingerprint, now⟩

def claimNoTrade [Externals] (decision : NoTradeDecision) (now : UtcDatetime) :
    Except PyError (Bool × AgentDecisionOutcomes) :=
  t.claim ⟨decision.decisionId, .noTrade, decision.agentId, decision.assignmentId,
    decision.decisionFingerprint, now⟩

/-- The claims of one assignment since an instant, whatever became of them. -/
def countClaimedSince (assignmentId : Uuid) (since : UtcDatetime) : Nat :=
  t.outcomes.countP fun o => decide (o.assignmentId = assignmentId) && decide (since ≤ o.claimedAtUtc)

/-- The outcome an assignment claimed last; of those claimed at one instant, the one inserted
last. -/
def latestOutcomeIdFor (assignmentId : Uuid) : Option Uuid :=
  (Table.latest (·.claimedAtUtc) (t.outcomes.filter fun o => o.assignmentId = assignmentId)).map
    (·.outcomeId)

/-- Appending the same content again changes nothing; other content is refused. -/
def appendEvent (event : AgentDecisionEventRecord) : Except PyError AgentDecisionOutcomes :=
  match Table.lookup AgentDecisionEventRecord.key t.events event.key with
  | none => .ok { t with events := t.events ++ [event] }
  | some existing =>
      if (existing.reasonCodes, existing.detail) ≠ (event.reasonCodes, event.detail) then
        .error ⟨.eventConflict, (s!"event ({event.outcomeId.text}, {event.eventType.value}) was "
          ++ "already recorded with different content")⟩
      else .ok t

/-- The verdict recorded on an outcome, if one was. -/
def settlementFor (outcomeId : Uuid) : Option AgentDecisionEventRecord :=
  t.events.find? fun e => decide (e.outcomeId = outcomeId) && decide (e.eventType ∈ settlingEventTypes)

end AgentDecisionOutcomes

end Crumblr
