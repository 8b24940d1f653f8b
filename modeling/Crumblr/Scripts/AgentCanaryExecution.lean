import Crumblr.AgentGateway.Contracts
import Crumblr.AgentGateway.DecisionPath
import Crumblr.Application.Execution

/-!
# The agent's decision and execution driver

A cycle takes one proposal to a sealed capsule and then runs one execution pass. With a permit on
the command line, the pass gets a canary configuration that names exactly the capsule sealed in its
cycle; without one, no pass can send. Of what the evaluation came to, the driver takes the
capsule's id and nothing else.
-/

namespace Crumblr

/-- What the driver has once it is started. -/
structure AgentCanaryExecution where
  config : PlatformConfig
  agentId : Uuid
  assignment : TradingAssignment
  /-- The permit of `--canary-permit-id` as the store has it; one that is not there ends the driver
  before its first cycle. -/
  canaryPermit : Option CanaryPermit
  riskConfig : RiskConfig
  riskConfigMerged : config.riskFor assignment.canonicalSymbol = .ok riskConfig

namespace AgentCanaryExecution

variable (self : AgentCanaryExecution)

/-- A capsule is eligible from when the permit was issued on. -/
def canaryActivationWatermark : Option UtcDatetime :=
  self.canaryPermit.map (·.issuedAtUtc)

/-- The execution worker of one pass. -/
def buildOrchestrator (canaryConfig : Option CanaryEntrySubmissionConfig) :
    ExecutionOrchestrator where
  config := self.config
  canonicalSymbol := self.assignment.canonicalSymbol
  activationWatermark := self.canaryActivationWatermark
  workerId := "agent_canary_execution"
  -- an agent's capsule carries the assignment's artifact as its strategy
  currentStrategyVersion :=
    if self.assignment.strategyArtifactHash.isEmpty then self.config.tradingAgent.strategyVersion
    else self.assignment.strategyArtifactHash
  flattenCloseAdapter := false
  entrySubmission := canaryConfig
  riskConfig := self.riskConfig
  riskConfigMerged := self.riskConfigMerged

/-- The capsule a cycle sealed, if the gateway let its proposal be evaluated. -/
def runOneDecisionCycle (evaluated : Option AgentDecisionPathResult) : Option Uuid :=
  evaluated.map (·.capsule.capsuleId)

/-- The worker a cycle's pass runs on. Without a permit it is the same one in every cycle. -/
def runOrchestrator (sealedCapsuleId : Option Uuid) : Option ExecutionOrchestrator :=
  match self.canaryPermit with
  | none => some (self.buildOrchestrator none)
  | some permit => sealedCapsuleId.map fun capsuleId =>
      self.buildOrchestrator (some {
        permitId := permit.permitId
        capsuleId
        agentId := some self.agentId
        assignmentId := some self.assignment.assignmentId
        strategyArtifactHash := some self.assignment.strategyArtifactHash })

end AgentCanaryExecution

end Crumblr
