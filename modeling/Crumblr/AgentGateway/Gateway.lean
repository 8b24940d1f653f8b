import Crumblr.AgentGateway.Stores

/-!
# The agent gateway

An agent authenticates and submits a proposal, or its decision not to trade. The submission is
claimed under its id, judged, and settled, in one transaction under the assignment's lock. An id
that was settled before is answered from its settlement: the intent of an accepted proposal is
not stored but built again, from the proposal and from registries that keep what they hold.

The lock and the transaction make what happens between them one step. What comes before, the
check of who is asking, is a step of its own, and so are the platform's registrations; any of
them may fall between the two steps of a call.
-/

namespace Crumblr

structure AgentDecisionOutcomeResult where
  outcomeId : Uuid
  outcomeType : AgentOutcomeType
  accepted : Bool
  reason : Option AgentRejectionReason
  tradeIntent : Option TradeIntent

/-- The statements of a submission's transaction, each of which can fail. -/
inductive GatewayStatement where
  | lockAssignment
  | claim
  | settlement
  | received
  | assignment
  | count
  | context
  | settle
  | commit
  deriving DecidableEq

/-- What each statement raises, if it fails. -/
abbrev GatewayFaults := GatewayStatement → Option PyError

namespace AgentGateway

def rateLimitWindow : Timedelta := hours 1

def externalAgentStrategyId : String := "external_agent"

variable [Externals]

/-! ## Who is asking -/

/-- A credential as it is stored, under a salt drawn for it. -/
def hashCredential (agentId : Uuid) (saltHex secret : String) : StoredCredential :=
  ⟨agentId, saltHex, Externals.saltedDigest saltHex secret⟩

def verifyCredential (secret : String) (stored : StoredCredential) : Bool :=
  Externals.saltedDigest stored.saltHex secret = stored.digestHex

def authenticate (g : GatewayRegistries) (agentId : Uuid) (credentialSecret : String) :
    Except PyError AgentIdentity :=
  match g.identity agentId with
  | none => .error ⟨.unknownAgent, s!"no AgentIdentity registered for {agentId.text}"⟩
  | some identity =>
      match g.currentHash agentId with
      | none => .error ⟨.authentication, s!"credential check failed for agent {agentId.text}"⟩
      | some stored =>
          if !verifyCredential credentialSecret stored then
            .error ⟨.authentication, s!"credential check failed for agent {agentId.text}"⟩
          else if identity.status ≠ .active then
            .error ⟨.agentNotActive,
              s!"agent {agentId.text} is {identity.status.value}, not ACTIVE"⟩
          else .ok identity

/-! ## Judging a submission -/

omit [Externals] in
def assignmentScopeReason (identity : AgentIdentity) (assignment : TradingAssignment)
    (now : UtcDatetime) : Option AgentRejectionReason :=
  if assignment.allowedAgentId ≠ identity.agentId then some .assignmentNotOwned
  else if ¬ (assignment.validFromUtc ≤ now ∧ now ≤ assignment.validUntilUtc) then
    some .assignmentNotValidAtTime
  else none

def contextReason (g : GatewayRegistries) (assignment : TradingAssignment) (contextHash : String)
    (now : UtcDatetime) : Option AgentRejectionReason :=
  match g.byHash contextHash with
  | none => some .unknownContext
  | some bundle =>
      if bundle.assignmentId ≠ assignment.assignmentId then some .contextAssignmentMismatch
      else if bundle.expiresAtUtc ≤ now then some .contextExpired
      else none

def evaluateProposal (g : GatewayRegistries) (identity : AgentIdentity) (proposal : TradeProposal)
    (assignment : Option TradingAssignment) (countIncludingSelf : Option Nat)
    (now : UtcDatetime) : Option AgentRejectionReason :=
  match assignment with
  | none => some .unknownAssignment
  | some assignment =>
      match assignmentScopeReason identity assignment now with
      | some reason => some reason
      | none =>
          if proposal.strategyArtifactHash ≠ assignment.strategyArtifactHash then
            some .strategyArtifactMismatch
          else if countIncludingSelf.any (fun n =>
              decide (assignment.maxProposalsPerHour.val < n)) then
            some .rateLimitExceeded
          else if ¬ (assignment.allowedRiskFractionMin.val ≤ proposal.requestedRiskFraction.val
              ∧ proposal.requestedRiskFraction.val ≤ assignment.allowedRiskFractionMax.val) then
            some .riskFractionOutOfBand
          else if proposal.reasonCodes.val = [] then some .missingReasonCodes
          else if assignment.requiredEvidenceFields ≠ [] ∧ proposal.evidenceRefs = [] then
            some .missingRequiredEvidence
          else if proposal.expiresAtUtc ≤ now then some .proposalExpired
          else contextReason g assignment proposal.contextHash now

def evaluateNoTrade (g : GatewayRegistries) (identity : AgentIdentity)
    (decision : NoTradeDecision) (assignment : Option TradingAssignment) (now : UtcDatetime) :
    Option AgentRejectionReason :=
  match assignment with
  | none => some .unknownAssignment
  | some assignment =>
      match assignmentScopeReason identity assignment now with
      | some reason => some reason
      | none => contextReason g assignment decision.contextHash now

/-! ## The intent of an accepted proposal -/

def deriveTradeIntentId (proposalId : Uuid) : Uuid :=
  Externals.uuid5Dns ("crumblr:agent_trade_intent:" ++ proposalId.text)

/-- The intent a proposal stands for, made of what cannot change any more. -/
def buildTradeIntent (g : GatewayRegistries) (proposal : TradeProposal)
    (assignment : TradingAssignment) : Except PyError TradeIntent := do
  let bundle ← assertSome (g.byHash proposal.contextHash)
  if reasoned : proposal.reasonCodes.val ≠ [] then
    pure {
      intentId := deriveTradeIntentId proposal.proposalId
      strategyId := externalAgentStrategyId
      strategyVersion := assignment.strategyArtifactHash
      modelVersion := none
      symbol := assignment.canonicalSymbol
      side := proposal.side
      createdAtUtc := proposal.submittedAtUtc
      expiresAtUtc := proposal.expiresAtUtc
      entryType := proposal.entryType
      referencePrice := proposal.referencePrice
      stopLossPrice := some proposal.stopLossPrice
      takeProfitPrice := some proposal.takeProfitPrice
      confidence := proposal.confidence
      reasonCodes := proposal.reasonCodes.strings
      requestedRiskFraction := some proposal.requestedRiskFraction
      featureSnapshotId := bundle.featureSnapshotId
      lifetime := proposal.lifetime
      directional := fun _ => ⟨rfl, rfl, fun h => reasoned (List.map_eq_nil_iff.mp h)⟩
      flat := fun h => absurd h proposal.directional
      buyStops := fun h => ⟨by rintro _ ⟨⟩; exact (proposal.buyStops h).1,
        by rintro _ ⟨⟩; exact (proposal.buyStops h).2⟩
      sellStops := fun h => ⟨by rintro _ ⟨⟩; exact (proposal.sellStops h).1,
        by rintro _ ⟨⟩; exact (proposal.sellStops h).2⟩ }
  else .error ⟨.validation, "a directional intent must carry reason codes"⟩

/-! ## Settling -/

omit [Externals] in
/-- Record a verdict and report it. -/
def settle (t : AgentDecisionOutcomes) (outcomeId : Uuid) (outcomeType : AgentOutcomeType)
    (reason : Option AgentRejectionReason) (now : UtcDatetime)
    (tradeIntent : Option TradeIntent) :
    Except PyError (AgentDecisionOutcomeResult × AgentDecisionOutcomes) :=
  match reason with
  | some reason => do
      let t ← t.appendEvent ⟨outcomeId, .rejected, now, [reason.value], none⟩
      pure (⟨outcomeId, outcomeType, false, some reason, none⟩, t)
  | none => do
      let t ← t.appendEvent ⟨outcomeId, .accepted, now, [], none⟩
      pure (⟨outcomeId, outcomeType, true, none, tradeIntent⟩, t)

omit [Externals] in
/-- The reason on a rejection. -/
def settledReason (settlement : AgentDecisionEventRecord) :
    Except PyError (Option AgentRejectionReason) :=
  match settlement.reasonCodes with
  | [] => .ok none
  | code :: _ =>
      match AgentRejectionReason.ofValue? code with
      | some reason => .ok (some reason)
      | none => .error ⟨.value, s!"'{code}' is not a valid AgentRejectionReason"⟩

/-- Report a verdict that was recorded before; nothing is judged again. -/
def resultFromSettlement (g : GatewayRegistries) (settlement : AgentDecisionEventRecord)
    (proposal : Option TradeProposal) : Except PyError AgentDecisionOutcomeResult :=
  let outcomeType := if proposal.isSome then .tradeProposal else .noTrade
  if settlement.eventType = .rejected then do
    let reason ← settledReason settlement
    pure ⟨settlement.outcomeId, outcomeType, false, reason, none⟩
  else
    match proposal with
    | none => pure ⟨settlement.outcomeId, outcomeType, true, none, none⟩
    | some proposal => do
        let assignment ← assertSome (g.assignment proposal.assignmentId)
        let tradeIntent ← buildTradeIntent g proposal assignment
        pure ⟨settlement.outcomeId, outcomeType, true, none, some tradeIntent⟩

/-! ## The transactions -/

/-- Judge a proposal that is claimed and not settled. -/
def evaluateClaimedProposal (g : GatewayRegistries) (t : AgentDecisionOutcomes)
    (faults : GatewayFaults) (identity : AgentIdentity) (proposal : TradeProposal)
    (now : UtcDatetime) : Except PyError (AgentDecisionOutcomeResult × AgentDecisionOutcomes) := do
  raising (faults .received)
  let t ← t.appendEvent ⟨proposal.proposalId, .received, now, [], none⟩
  raising (faults .assignment)
  let assignment := g.assignment proposal.assignmentId
  raising (faults .count)
  let countIncludingSelf := assignment.map fun a =>
    t.countClaimedSince a.assignmentId (now - rateLimitWindow)
  raising (faults .context)
  match evaluateProposal g identity proposal assignment countIncludingSelf now with
  | some reason =>
      raising (faults .settle)
      settle t proposal.proposalId .tradeProposal (some reason) now none
  | none => do
      let assignment ← assertSome assignment
      let tradeIntent ← buildTradeIntent g proposal assignment
      raising (faults .settle)
      settle t proposal.proposalId .tradeProposal none now (some tradeIntent)

/-- Judge a decision not to trade that is claimed and not settled. -/
def evaluateClaimedNoTrade (g : GatewayRegistries) (t : AgentDecisionOutcomes)
    (faults : GatewayFaults) (identity : AgentIdentity) (decision : NoTradeDecision)
    (now : UtcDatetime) : Except PyError (AgentDecisionOutcomeResult × AgentDecisionOutcomes) := do
  raising (faults .received)
  let t ← t.appendEvent ⟨decision.decisionId, .received, now, [], none⟩
  raising (faults .assignment)
  let assignment := g.assignment decision.assignmentId
  raising (faults .context)
  let reason := evaluateNoTrade g identity decision assignment now
  raising (faults .settle)
  settle t decision.decisionId .noTrade reason now none

/-- The transaction of one submission: claim, and answer from the settlement or judge. -/
def submitTradeProposal (g : GatewayRegistries) (t : AgentDecisionOutcomes)
    (faults : GatewayFaults) (identity : AgentIdentity) (proposal : TradeProposal)
    (now : UtcDatetime) : Except PyError (AgentDecisionOutcomeResult × AgentDecisionOutcomes) := do
  raising (faults .lockAssignment)
  raising (faults .claim)
  let (claimed, t) ← t.claimTradeProposal proposal now
  raising (if claimed then none else faults .settlement)
  match if claimed then none else t.settlementFor proposal.proposalId with
  | some settlement => do
      let result ← resultFromSettlement g settlement (some proposal)
      raising (faults .commit)
      pure (result, t)
  | none => do
      let settled ← evaluateClaimedProposal g t faults identity proposal now
      raising (faults .commit)
      pure settled

def submitNoTrade (g : GatewayRegistries) (t : AgentDecisionOutcomes) (faults : GatewayFaults)
    (identity : AgentIdentity) (decision : NoTradeDecision) (now : UtcDatetime) :
    Except PyError (AgentDecisionOutcomeResult × AgentDecisionOutcomes) := do
  raising (faults .lockAssignment)
  raising (faults .claim)
  let (claimed, t) ← t.claimNoTrade decision now
  raising (if claimed then none else faults .settlement)
  match if claimed then none else t.settlementFor decision.decisionId with
  | some settlement => do
      let result ← resultFromSettlement g settlement none
      raising (faults .commit)
      pure (result, t)
  | none => do
      let settled ← evaluateClaimedNoTrade g t faults identity decision now
      raising (faults .commit)
      pure settled

end AgentGateway

/-! ## The gateway at work -/

/-- What an agent submits. -/
inductive AgentSubmission where
  | proposal (proposal : TradeProposal)
  | noTrade (decision : NoTradeDecision)

namespace AgentSubmission

def outcomeId : AgentSubmission → Uuid
  | .proposal p => p.proposalId
  | .noTrade d => d.decisionId

def agentId : AgentSubmission → Uuid
  | .proposal p => p.agentId
  | .noTrade d => d.agentId

def outcomeType : AgentSubmission → AgentOutcomeType
  | .proposal _ => .tradeProposal
  | .noTrade _ => .noTrade

def assignmentId : AgentSubmission → Uuid
  | .proposal p => p.assignmentId
  | .noTrade d => d.assignmentId

/-- The proposal, when it is one. -/
def proposal? : AgentSubmission → Option TradeProposal
  | .proposal p => some p
  | .noTrade _ => none

def content : AgentSubmission → Json
  | .proposal p => p.content
  | .noTrade d => d.content

def fingerprint [Externals] (s : AgentSubmission) : String := digestOf s.content

/-- Its transaction. -/
def transact [Externals] (g : GatewayRegistries) (t : AgentDecisionOutcomes)
    (faults : GatewayFaults) (identity : AgentIdentity) (now : UtcDatetime) :
    AgentSubmission → Except PyError (AgentDecisionOutcomeResult × AgentDecisionOutcomes)
  | .proposal p => AgentGateway.submitTradeProposal g t faults identity p now
  | .noTrade d => AgentGateway.submitNoTrade g t faults identity d now

end AgentSubmission

/-- A call that has authenticated and waits for its transaction. -/
structure GatewayCall where
  identity : AgentIdentity
  submission : AgentSubmission
  now : UtcDatetime
  /-- Nobody submits in another agent's name. -/
  own : submission.agentId = identity.agentId

structure AgentGateway where
  registries : GatewayRegistries
  tables : AgentDecisionOutcomes
  inFlight : List GatewayCall

/-- What can happen to a gateway. Registering an agent is recording its identity and then setting
its credential; publishing a context is recording its evidence and then issuing its bundle. -/
inductive GatewayOperation where
  | registerIdentity (identity : AgentIdentity)
  | setCredential (agentId : Uuid) (credentialSecret saltHex : String)
  | issueAssignment (assignment : TradingAssignment)
  | recordEvidence (evidence : AgentContextEvidence)
  | issueContextBundle (bundle : DecisionContextBundle)
  /-- A call arrives, with a reading of the clock. -/
  | arrive (agentId : Uuid) (credentialSecret : String) (submission : AgentSubmission)
      (now : UtcDatetime)
  /-- A waiting call gets the lock and runs its transaction. -/
  | transact (n : Nat) (faults : GatewayFaults)
  /-- A waiting call is given up. -/
  | abandon (n : Nat)

namespace AgentGateway

/-- Nothing is registered and nothing submitted. -/
def empty : AgentGateway := ⟨⟨[], [], [], [], []⟩, ⟨[], []⟩, []⟩

variable [Externals]

/-- Let a call in: it must authenticate, and submit in its own name. -/
def authenticateOwn (g : GatewayRegistries) (agentId : Uuid) (credentialSecret : String)
    (submission : AgentSubmission) (now : UtcDatetime) : Except PyError GatewayCall := do
  let identity ← authenticate g agentId credentialSecret
  if own : submission.agentId = identity.agentId then pure ⟨identity, submission, now, own⟩
  else
    .error ⟨.impersonation, (s!"agent_id {submission.agentId.text} does not match the "
      ++ s!"authenticated agent {identity.agentId.text}")⟩

/-- Issue a bundle whose evidence is there. -/
def issueContextBundle (g : GatewayRegistries) (bundle : DecisionContextBundle) :
    Except PyError GatewayRegistries :=
  match g.evidence bundle.featureSnapshotId with
  | none =>
      .error ⟨.unknownFeatureSnapshot, (s!"feature_snapshot_id {bundle.featureSnapshotId.text} "
        ++ "does not resolve to any durably-stored AgentContextEvidence")⟩
  | some _ => g.issue bundle

/-- What a waiting call's transaction comes to. -/
def answer (s : AgentGateway) (n : Nat) (faults : GatewayFaults) :
    Option (Except PyError (AgentDecisionOutcomeResult × AgentDecisionOutcomes)) :=
  (s.inFlight[n]?).map fun c =>
    c.submission.transact s.registries s.tables faults c.identity c.now

/-- One step. What raises changes nothing. -/
def step (s : AgentGateway) : GatewayOperation → AgentGateway
  | .registerIdentity identity =>
      { s with registries := s.registries.registerIdentity identity }
  | .setCredential agentId credentialSecret saltHex =>
      let credential := hashCredential agentId saltHex credentialSecret
      { s with registries := s.registries.setCredential credential }
  | .issueAssignment assignment =>
      match s.registries.registerAssignment assignment with
      | .ok registries => { s with registries }
      | .error _ => s
  | .recordEvidence evidence => { s with registries := s.registries.recordEvidence evidence }
  | .issueContextBundle bundle =>
      match issueContextBundle s.registries bundle with
      | .ok registries => { s with registries }
      | .error _ => s
  | .arrive agentId credentialSecret submission now =>
      match authenticateOwn s.registries agentId credentialSecret submission now with
      | .ok call => { s with inFlight := s.inFlight ++ [call] }
      | .error _ => s
  | .transact n faults =>
      match s.answer n faults with
      | some (.ok (_, tables)) => { s with tables, inFlight := s.inFlight.eraseIdx n }
      | _ => { s with inFlight := s.inFlight.eraseIdx n }
  | .abandon n => { s with inFlight := s.inFlight.eraseIdx n }

/-- A sequence of steps. -/
def run (s : AgentGateway) (ops : List GatewayOperation) : AgentGateway := ops.foldl step s

end AgentGateway

end Crumblr
