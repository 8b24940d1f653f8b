import Crumblr.AgentGateway.Stores
import Crumblr.TradingAgent.Base
import Mathlib.Data.List.DropRight

/-!
# What an agent is shown

The platform publishes what it observed before it refers to it: the evidence first, then the
bundle, then the context an agent decides on. The context holds observations and constraints,
and nothing about what they mean.
-/

namespace Crumblr

/-! ## Evidence -/

def agentContextFeatureSetVersion : String := "agent_context_v1"

section

variable [Externals]

def AgentContextEvidence.featureValuesHash (e : AgentContextEvidence) : String :=
  digestOf (.obj [
    ("feature_set_version", .str e.featureSetVersion),
    ("symbol", .str e.symbol),
    ("market_snapshot_id", .uuid e.marketSnapshotId),
    ("instrument_spec_version", .str e.instrumentSpecVersion),
    ("session_state", .str e.sessionState.value),
    ("data_quality", .str e.dataQuality.value),
    ("regime", .str e.regime.value)])

/-- The evidence of a snapshot; one symbol and one instant give one id. -/
def buildAgentContextEvidence (symbol : String) (computedAtUtc : UtcDatetime)
    (marketSnapshotId : Uuid) (instrumentSpecVersion : String) (sessionState : SessionState)
    (dataQuality : DataQuality) : AgentContextEvidence where
  featureSnapshotId := Externals.uuid5Dns
    ("crumblr:agent_context_evidence:" ++ symbol ++ ":" ++ isoTime computedAtUtc)
  featureSetVersion := agentContextFeatureSetVersion
  symbol
  computedAtUtc
  marketSnapshotId
  instrumentSpecVersion
  sessionState
  dataQuality
  regime := .unknown

/-- The evidence as the decision path reads it. -/
def AgentContextEvidence.features (e : AgentContextEvidence) : FeatureEvidence where
  featureSnapshotId := e.featureSnapshotId
  featureSetVersion := e.featureSetVersion
  featureValuesHash := e.featureValuesHash
  regime := e.regime
  symbol := e.symbol
  modelDump := .obj [
    ("feature_snapshot_id", .uuid e.featureSnapshotId),
    ("feature_set_version", .str e.featureSetVersion),
    ("symbol", .str e.symbol),
    ("computed_at_utc", .time e.computedAtUtc),
    ("market_snapshot_id", .uuid e.marketSnapshotId),
    ("instrument_spec_version", .str e.instrumentSpecVersion),
    ("session_state", .str e.sessionState.value),
    ("data_quality", .str e.dataQuality.value),
    ("regime", .str e.regime.value)]

end

/-! ## The context -/

/-- A snapshot with the bars it came with, oldest first. -/
structure BarredSnapshot extends MarketSnapshot where
  bars : List Bar

structure AgentMarketContextProvenance where
  contextId : Uuid
  contentHash : String
  assignmentId : Uuid
  strategyArtifactId : Uuid
  strategyArtifactHash : String
  issuedAtUtc : UtcDatetime
  expiresAtUtc : UtcDatetime

structure AgentMarketData where
  canonicalSymbol : String
  timeframe : String
  marketSnapshotId : Uuid
  eventTimeUtc : UtcDatetime
  bid : Price
  ask : Price
  spreadPoints : Int
  dataQuality : DataQuality
  bars : List Bar
  sourceBarIds : List String

structure AgentInstrumentFacts where
  brokerSymbol : String
  digits : Nat
  point : Decimal
  tickSize : Decimal
  stopsLevel : Nat
  volumeMin : Volume
  volumeMax : Volume
  volumeStep : Volume
  specVersion : String

/-- The risk of the whole book, which may be none. -/
abbrev OpenRiskFraction := { d : Decimal // 0 ≤ d ∧ d ≤ 1 }

/-- A fraction the contract admits. -/
def OpenRiskFraction.create (d : Decimal) : Except PyError OpenRiskFraction :=
  if h : 0 ≤ d ∧ d ≤ 1 then .ok ⟨d, h⟩
  else .error ⟨.validation, "open_risk_fraction: Input should be between 0 and 1"⟩

structure AgentPlatformState where
  sessionState : SessionState
  safetyState : KillSwitchState
  reconciliationStatus : ReconciliationStatus
  featureSnapshotId : Uuid
  openPositionCount : Nat
  openRiskFraction : Option OpenRiskFraction

structure AgentMarketContext where
  provenance : AgentMarketContextProvenance
  market : AgentMarketData
  instrument : AgentInstrumentFacts
  platformState : AgentPlatformState
  policyHints : Option PolicyHints

def defaultMaxBars : Nat := 400

def sourceBarId (symbol timeframe : String) (bar : Bar) : String :=
  symbol ++ ":" ++ timeframe ++ ":" ++ isoTime bar.openTimeUtc

/-- Build the context; of the bars it shows the newest. -/
def buildAgentMarketContext [Externals] (provenance : AgentMarketContextProvenance)
    (snapshot : BarredSnapshot) (spec : InstrumentSpec) (platformState : AgentPlatformState)
    (policyHints : Option PolicyHints) : AgentMarketContext :=
  let bars := snapshot.bars.rtake defaultMaxBars
  { provenance
    market := {
      canonicalSymbol := snapshot.symbol
      timeframe := snapshot.timeframe
      marketSnapshotId := snapshot.snapshotId
      eventTimeUtc := snapshot.eventTimeUtc
      bid := snapshot.bid
      ask := snapshot.ask
      spreadPoints := snapshot.spreadPoints
      dataQuality := snapshot.dataQuality
      bars
      sourceBarIds := bars.map (sourceBarId snapshot.symbol snapshot.timeframe) }
    instrument := {
      brokerSymbol := spec.brokerSymbol
      digits := spec.digits
      point := spec.point.val
      tickSize := spec.tickSize.val
      stopsLevel := spec.stopsLevel
      volumeMin := spec.volumeMin
      volumeMax := spec.volumeMax
      volumeStep := spec.volumeStep
      specVersion := spec.specVersion }
    platformState
    policyHints }

end Crumblr
