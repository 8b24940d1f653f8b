import Crumblr.Lib.Prog
import Crumblr.Lib.Protocol
import Crumblr.Lib.System
import Crumblr.Lib.Decimal
import Crumblr.Domain.Enums
import Crumblr.Domain.Values
import Crumblr.Domain.Models
import Crumblr.Config
import Crumblr.ConfigFile
import Crumblr.Risk.TradingWindow
import Crumblr.Risk.KillSwitch
import Crumblr.Risk.SafetyStores
import Crumblr.Risk.Session
import Crumblr.Risk.Gates
import Crumblr.Risk.Policies
import Crumblr.Lib.Table
import Crumblr.Persistence.Database
import Crumblr.Application.ExpectedState
import Crumblr.Application.Calls
import Crumblr.Application.Reconciliation
import Crumblr.Application.Flatten
import Crumblr.Application.Execution
import Crumblr.Application.Passes
import Crumblr.Application.Workers
import Crumblr.Persistence.RiskSession
import Crumblr.Application.SessionCycles
import Crumblr.Application.Replay
import Crumblr.Proof.Reconciliation
import Crumblr.Proof.Exposure
import Crumblr.Proof.ExpectedBook
import Crumblr.Proof.Knowledge
import Crumblr.Proof.Parts
import Crumblr.Proof.Payloads
import Crumblr.Proof.LifeCycle
import Crumblr.Proof.Conformance
import Crumblr.Proof.PassConformance
import Crumblr.Proof.Effects
import Crumblr.Proof.Scene
import Crumblr.Proof.Ownership
import Crumblr.Proof.AtMostOnce
import Crumblr.Proof.MergedLimits
import Crumblr.Proof.Observed
import Crumblr.Proof.Authorization
import Crumblr.Proof.Judgement
import Crumblr.Proof.RiskSession
import Crumblr.Proof.RiskRecord
import Crumblr.Proof.Restart
import Crumblr.Proof.HaltReasons
import Crumblr.Lib.Window
import Crumblr.Application.Processes
import Crumblr.Proof.Commitments
import Crumblr.Proof.DurableHalt
import Crumblr.Proof.OrderFrequency
import Crumblr.Mt5Gateway.DemoExecution
import Crumblr.Application.Placements
import Crumblr.Proof.Outcomes
import Crumblr.Proof.AfterCommitment
import Crumblr.Proof.Rejections
import Crumblr.Proof.Undetermined
import Crumblr.Proof.OneWorker
import Crumblr.Proof.Recovery
import Crumblr.Persistence.InstrumentSpecs
import Crumblr.Proof.InstrumentSpecs
import Crumblr.TradingAgent.Base
import Crumblr.TradingAgent.Baseline
import Crumblr.Evaluator.Pretrade
import Crumblr.Application.DecisionWindow
import Crumblr.Application.LiveDecision
import Crumblr.AgentGateway.Contracts
import Crumblr.AgentGateway.SupervisorReview
import Crumblr.AgentGateway.DecisionPath
import Crumblr.Proof.RiskPaths
import Crumblr.Proof.ExternalReview
import Crumblr.AgentGateway.Stores
import Crumblr.AgentGateway.Gateway
import Crumblr.Proof.Gateway
import Crumblr.Proof.GatewayRate
import Crumblr.Lib.Normalize
import Crumblr.Proof.GatewayReplay
import Crumblr.Domain.TimeUtils
import Crumblr.AgentGateway.Http
import Crumblr.Proof.UtcBoundary
import Crumblr.Lib.Solo
import Crumblr.Application.LiveWorker
import Crumblr.Proof.LivePhases
import Crumblr.Proof.CapsuleRetention
import Crumblr.Proof.DecisionWindows
import Crumblr.Lib.Sourcing
import Crumblr.MarketData.Generator
import Crumblr.Mt5Gateway.Simulated
import Crumblr.Persistence.PaperLite
import Crumblr.Proof.PaperJournal
import Crumblr.Proof.PaperEvidence
import Crumblr.Proof.PaperBook
import Crumblr.Proof.PaperFills
import Crumblr.Proof.PaperFrequency
import Crumblr.Application.PaperLite
import Crumblr.AgentGateway.MarketContext
import Crumblr.Application.PaperProcess
import Crumblr.Proof.OwnerPolicy
import Crumblr.Domain.JsonText
import Crumblr.Application.PaperWorker
import Crumblr.Proof.LedgerResume
import Crumblr.Proof.SessionLoss
import Crumblr.Proof.UnusableEquity
import Crumblr.Proof.FixedVolume
import Crumblr.Proof.WorseNews
import Crumblr.Proof.ExactSizing
import Crumblr.Proof.OpenRiskBudget
import Crumblr.Proof.OrderRequest
import Crumblr.Proof.NewestQuote
import Crumblr.Proof.FlattenEvidence
import Crumblr.Proof.FlattenIsolation
import Crumblr.Proof.LiveExposure
import Crumblr.Proof.Races
import Crumblr.Proof.Findings
import Crumblr.Proof.Convergence
import Crumblr.Proof.SyntheticFeed
import Crumblr.Proof.TradingWeek
import Crumblr.Proof.CloseTickets
import Crumblr.Proof.ClockOffset
import Crumblr.MarketData.Pipeline
import Crumblr.Proof.BarPipeline
import Crumblr.Proof.OutOfOrder
import Crumblr.Lib.NumberText
import Crumblr.Proof.JsonText
import Crumblr.Proof.AppendOnce
import Crumblr.Lib.SignedDecimal
import Crumblr.Domain.Hashing
import Crumblr.Proof.IntentShape
import Crumblr.Proof.IsoText
import Crumblr.Proof.CanonicalJson
import Crumblr.Lib.ItemLedger
import Crumblr.Proof.ReplayAccounts
import Crumblr.Proof.StopFills
import Crumblr.Proof.StopPolicy
import Crumblr.Proof.FillTerms
import Crumblr.Proof.OldBars
import Crumblr.Proof.PendingResolution
import Crumblr.Proof.ProvenReconciliation
import Crumblr.Persistence.MarketData
import Crumblr.Proof.IdenticalTicks
import Crumblr.Lib.Query
import Crumblr.Lib.PyJson
import Crumblr.Lib.Retention
import Crumblr.LocalAdmin.Backup
import Crumblr.Proof.BackupRetention
import Crumblr.Scripts.AgentCanaryExecution
import Crumblr.Scripts.ExportTrade
import Crumblr.Proof.CloseWindow
import Crumblr.Application.LiveReader
import Crumblr.Proof.Revalidation
import Crumblr.Lib.PyText
import Crumblr.Lib.Binary64
import Crumblr.Persistence.PaperRecords
import Crumblr.Persistence.PaperFile
import Crumblr.Proof.PaperFaults
import Crumblr.Lib.HashChain
import Crumblr.Proof.PaperChain
import Crumblr.TradingAgent.Sessions
import Crumblr.TradingAgent.Structure
import Crumblr.TradingAgent.Imbalance
import Crumblr.TradingAgent.Liquidity
import Crumblr.TradingAgent.Ict
import Crumblr.Proof.IctSetups
import Crumblr.Proof.SpentLiquidity
import Crumblr.Proof.Repainting
import Crumblr.Lib.Clusters
import Crumblr.Proof.PoolPartition
import Crumblr.Proof.Relaxation
import Crumblr.Dashboard.AgentState
import Crumblr.Proof.DecisionTrail
import Crumblr.Proof.DecisionEvidence
import Crumblr.Proof.LastDecision
import Crumblr.Lib.Resume
import Crumblr.Lib.Raising
import Crumblr.Lib.Numbered
import Crumblr.Persistence.Journal
import Crumblr.Application.Recording
import Crumblr.Proof.RunResume
import Crumblr.Application.Orchestration
import Crumblr.Application.Reconstruction
import Crumblr.Proof.JournalReading
import Crumblr.Proof.RunMoves
import Crumblr.Proof.RunJournal
import Crumblr.Proof.RunWindows
import Crumblr.Proof.RunHalts
import Crumblr.Proof.RunAccounts
import Crumblr.Proof.Reconstruction
import Crumblr.Proof.RunConservation
