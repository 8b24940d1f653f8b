import Crumblr.Domain.Models

/-!
# The agent contracts

What crosses the boundary to an external agent: who it is, what it may propose, what it was
shown, what it proposes or declines, and what a reviewing agent says of a proposal. An agent
asks for a fraction of equity, never for a volume.
-/

namespace Crumblr

/-! ## Vocabulary -/

inductive AgentRole where
  | trader
  | supervisor
  | strategy
  | backtest
  | training
  deriving DecidableEq, Repr

inductive AgentStatus where
  | active
  | suspended
  | retired
  deriving DecidableEq, Repr

/-- The value the enumeration carries. -/
def AgentStatus.value : AgentStatus → String
  | .active => "ACTIVE"
  | .suspended => "SUSPENDED"
  | .retired => "RETIRED"

inductive ChampionShadowStatus where
  | champion
  | shadow
  deriving DecidableEq, Repr

/-- The value the enumeration carries. -/
def ChampionShadowStatus.value : ChampionShadowStatus → String
  | .champion => "CHAMPION"
  | .shadow => "SHADOW"

inductive ExternalSupervisorVerdict where
  | approve
  | veto
  /-- No answer, or none that can be used. -/
  | unknown
  deriving DecidableEq, Repr

/-- The value the enumeration carries. -/
def ExternalSupervisorVerdict.value : ExternalSupervisorVerdict → String
  | .approve => "APPROVE"
  | .veto => "VETO"
  | .unknown => "UNKNOWN"

def maxReasonCodes : Nat := 20

def maxReasonCodeLength : Nat := 128

/-- One opaque reason of a strategy's own: printable ASCII of bounded length. -/
abbrev ReasonCodeToken :=
  { s : String // 1 ≤ s.length ∧ s.length ≤ maxReasonCodeLength
      ∧ s.toList.all (fun c => decide (0x20 ≤ c.toNat ∧ c.toNat ≤ 0x7E)) = true }

/-- A proposal's reasons; there may be none. -/
abbrev ReasonCodes := { codes : List ReasonCodeToken // codes.length ≤ maxReasonCodes }

def ReasonCodes.strings (codes : ReasonCodes) : List String := codes.val.map (·.val)

/-- The reasons as a payload carries them. -/
def ReasonCodes.json (codes : ReasonCodes) : Json := .list (codes.strings.map .str)

/-! ## Agents and what they are assigned -/

structure AgentIdentity where
  agentId : Uuid
  role : AgentRole
  runtimeVersion : String
  modelProvider : Option String
  modelVersion : Option String
  serviceIdentity : String
  status : AgentStatus
  capabilityClaims : List String
  registeredAtUtc : UtcDatetime

/-- What one agent may propose: a market, a window of validity, a rate and a band of risk. -/
structure TradingAssignment where
  assignmentId : Uuid
  assignmentVersion : String
  allowedAgentId : Uuid
  canonicalSymbol : String
  timeframe : String
  strategyArtifactId : Uuid
  strategyArtifactHash : String
  validFromUtc : UtcDatetime
  validUntilUtc : UtcDatetime
  maxProposalsPerHour : { n : Nat // 0 < n }
  allowedRiskFractionMin : RiskFraction
  allowedRiskFractionMax : RiskFraction
  requiredEvidenceFields : List String
  supervisorPolicyVersion : String
  environment : Environment
  championShadowStatus : ChampionShadowStatus
  validityWindow : validFromUtc < validUntilUtc
  riskFractionRange : ¬ allowedRiskFractionMax.val < allowedRiskFractionMin.val

def TradingAssignment.dump (a : TradingAssignment) : Json :=
  .obj [
    ("assignment_id", .uuid a.assignmentId),
    ("assignment_version", .str a.assignmentVersion),
    ("allowed_agent_id", .uuid a.allowedAgentId),
    ("canonical_symbol", .str a.canonicalSymbol),
    ("timeframe", .str a.timeframe),
    ("strategy_artifact_id", .uuid a.strategyArtifactId),
    ("strategy_artifact_hash", .str a.strategyArtifactHash),
    ("valid_from_utc", .time a.validFromUtc),
    ("valid_until_utc", .time a.validUntilUtc),
    ("max_proposals_per_hour", .int a.maxProposalsPerHour.val),
    ("allowed_risk_fraction_min", .decimal a.allowedRiskFractionMin.val),
    ("allowed_risk_fraction_max", .decimal a.allowedRiskFractionMax.val),
    ("required_evidence_fields", .list (a.requiredEvidenceFields.map .str)),
    ("supervisor_policy_version", .str a.supervisorPolicyVersion),
    ("environment", .str a.environment.value),
    ("champion_shadow_status", .str a.championShadowStatus.value)]

/-! ## What an agent was shown -/

structure PolicyHints where
  maxIntentsPerHourHint : Option { n : Nat // 0 < n }
  minStopDistancePointsHint : Option { n : Nat // 0 < n }
  sessionBlackoutActive : Bool
  notes : Option String

def PolicyHints.dump (h : PolicyHints) : Json :=
  .obj [
    ("max_intents_per_hour_hint", .opt (fun n => .int n.val) h.maxIntentsPerHourHint),
    ("min_stop_distance_points_hint", .opt (fun n => .int n.val) h.minStopDistancePointsHint),
    ("session_blackout_active", .bool h.sessionBlackoutActive),
    ("notes", .opt .str h.notes)]

/-- References to what an agent was allowed to see. -/
structure DecisionContextBundle where
  contextId : Uuid
  assignmentId : Uuid
  marketSnapshotId : Uuid
  instrumentSpecVersion : String
  portfolioSummaryHash : String
  sessionState : SessionState
  dataQuality : DataQuality
  featureSnapshotId : Uuid
  policyHints : Option PolicyHints
  newsSnapshotId : Option Uuid
  issuedAtUtc : UtcDatetime
  expiresAtUtc : UtcDatetime
  expiry : issuedAtUtc < expiresAtUtc

/-- Everything a bundle says, in its canonical form; its own id is no part of it. -/
def DecisionContextBundle.content (b : DecisionContextBundle) : Json :=
  .obj [
    ("assignment_id", .uuid b.assignmentId),
    ("market_snapshot_id", .uuid b.marketSnapshotId),
    ("instrument_spec_version", .str b.instrumentSpecVersion),
    ("portfolio_summary_hash", .str b.portfolioSummaryHash),
    ("session_state", .str b.sessionState.value),
    ("data_quality", .str b.dataQuality.value),
    ("feature_snapshot_id", .uuid b.featureSnapshotId),
    ("policy_hints", .opt PolicyHints.dump b.policyHints),
    ("news_snapshot_id", .opt .uuid b.newsSnapshotId),
    ("issued_at_utc", .time b.issuedAtUtc),
    ("expires_at_utc", .time b.expiresAtUtc)]

def DecisionContextBundle.contentHash [Externals] (b : DecisionContextBundle) : String :=
  digestOf b.content

/-! ## What an agent decides -/

/-- A proposal to trade in a direction, with both its stops. -/
structure TradeProposal where
  proposalId : Uuid
  agentId : Uuid
  assignmentId : Uuid
  contextHash : String
  strategyArtifactHash : String
  side : Side
  entryType : EntryType
  referencePrice : Price
  stopLossPrice : Price
  takeProfitPrice : Price
  confidence : PyFloat
  requestedRiskFraction : RiskFraction
  reasonCodes : ReasonCodes
  evidenceRefs : List Uuid
  submittedAtUtc : UtcDatetime
  expiresAtUtc : UtcDatetime
  directional : side ≠ .flat
  buyStops : side = .buy →
    stopLossPrice.val < referencePrice.val ∧ referencePrice.val < takeProfitPrice.val
  sellStops : side = .sell →
    referencePrice.val < stopLossPrice.val ∧ takeProfitPrice.val < referencePrice.val
  lifetime : submittedAtUtc < expiresAtUtc

/-- Everything a proposal says, in its canonical form; its own id is no part of it. -/
def TradeProposal.content (p : TradeProposal) : Json :=
  .obj [
    ("agent_id", .uuid p.agentId),
    ("assignment_id", .uuid p.assignmentId),
    ("context_hash", .str p.contextHash),
    ("strategy_artifact_hash", .str p.strategyArtifactHash),
    ("side", .str p.side.value),
    ("entry_type", .str p.entryType.value),
    ("reference_price", .decimal p.referencePrice.val.normalize),
    ("stop_loss_price", .decimal p.stopLossPrice.val.normalize),
    ("take_profit_price", .decimal p.takeProfitPrice.val.normalize),
    ("confidence", .str p.confidence.repr),
    ("requested_risk_fraction", .decimal p.requestedRiskFraction.val.normalize),
    ("reason_codes", p.reasonCodes.json),
    ("evidence_refs", .list (p.evidenceRefs.map .uuid)),
    ("submitted_at_utc", .time p.submittedAtUtc),
    ("expires_at_utc", .time p.expiresAtUtc)]

def TradeProposal.proposalFingerprint [Externals] (p : TradeProposal) : String :=
  digestOf p.content

/-- An agent's explicit decision not to trade. -/
structure NoTradeDecision where
  decisionId : Uuid
  agentId : Uuid
  assignmentId : Uuid
  contextHash : String
  reasonCodes : ReasonCodes
  decidedAtUtc : UtcDatetime

def NoTradeDecision.content (d : NoTradeDecision) : Json :=
  .obj [
    ("agent_id", .uuid d.agentId),
    ("assignment_id", .uuid d.assignmentId),
    ("context_hash", .str d.contextHash),
    ("reason_codes", d.reasonCodes.json),
    ("decided_at_utc", .time d.decidedAtUtc)]

def NoTradeDecision.decisionFingerprint [Externals] (d : NoTradeDecision) : String :=
  digestOf d.content

/-! ## What a reviewing agent says -/

/-- A review of one proposal and of the intent made from it. -/
structure SupervisorReview where
  reviewId : Uuid
  proposalId : Uuid
  proposalFingerprint : String
  tradeIntentId : Uuid
  tradeIntentDecisionHash : String
  riskDecisionId : Option Uuid
  policyGateDecisionId : Option Uuid
  supervisorAgentId : Uuid
  supervisorRuntimeVersion : String
  policyVersion : String
  verdict : ExternalSupervisorVerdict
  reasonCodes : ReasonCodes
  evidenceClaims : List Uuid
  confidence : Option PyFloat
  calibrationNotes : Option String
  reviewedAtUtc : UtcDatetime
  expiresAtUtc : UtcDatetime
  expiry : reviewedAtUtc < expiresAtUtc

/-- What asking for a review came to, whether one arrived or not. -/
structure ExternalSupervisorReviewRecord where
  recordId : Uuid
  proposalId : Uuid
  tradeIntentId : Uuid
  tradeIntentDecisionHash : String
  verdict : ExternalSupervisorVerdict
  reasonCodes : ReasonCodes
  reviewId : Option Uuid
  evaluatedAtUtc : UtcDatetime

end Crumblr
