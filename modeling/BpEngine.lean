import BpEngine.Library.Decimal
import BpEngine.Core
import BpEngine.Execution.Models
import BpEngine.Execution.Paper
import BpEngine.LiveReadiness.Risk
import BpEngine.FastLive.Records
import BpEngine.Library.Machine
import BpEngine.Library.Table
import BpEngine.LiveReadiness.Repository
import BpEngine.FastLive.Account
import BpEngine.FastLive.Result
import BpEngine.FastLive.Prepare
import BpEngine.FastLive.LedgerRun
import BpEngine.FastLive.LedgerInvariant
import BpEngine.FastLive.Redelivery
import BpEngine.FastLive.ExecutorResult
import BpEngine.Execution.Canary
import BpEngine.Execution.CanaryRun
import BpEngine.FastLive.Finalisation
import BpEngine.FastLive.Reapplication
import BpEngine.FastLive.Resolution
import BpEngine.FastLive.SinglePosition
import BpEngine.FastLive.Exposure
import BpEngine.FastLive.DailyPnl
import BpEngine.Library.Pool
import BpEngine.FastLive.Effects
import BpEngine.FastLive.Executor
import BpEngine.FastLive.Attempt
import BpEngine.FastLive.AttemptInvariant
import BpEngine.FastLive.Recovery
import BpEngine.FastLive.RecoveryInvariant
import BpEngine.FastLive.AtMostOnce
import BpEngine.FastLive.RecoveryRun
import BpEngine.FastLive.Identity
import BpEngine.Library.Timeline
import BpEngine.FastLive.Expiry
import BpEngine.Execution.Exclusive
import BpEngine.Execution.CanaryBound
import BpEngine.LiveReadiness.Reconcile
import BpEngine.Execution.Gateway
import BpEngine.Execution.GatewayRun
import BpEngine.LiveReadiness.LiveRun
import BpEngine.LiveReadiness.Views
import BpEngine.Library.Run
import BpEngine.Execution.PrivilegedConsumer
import BpEngine.Execution.ConsumerRun
import BpEngine.Library.IsoTime
import BpEngine.Library.Json
import BpEngine.Execution.Documents
import BpEngine.FastLive.Messages
import BpEngine.Execution.TelegramApproval
import BpEngine.Execution.TelegramTransport
import BpEngine.Execution.TransportRoundTrip
import BpEngine.Execution.TransportChain
import BpEngine.FastLive.SignedMessages
import BpEngine.FastLive.Discipline
import BpEngine.Storage.Records
import BpEngine.Storage.Recorder
import BpEngine.Library.Process
import BpEngine.Storage.Maintenance
import BpEngine.Storage.Run
import BpEngine.Storage.Discipline
import BpEngine.Storage.Retirement
import BpEngine.Storage.LegacyDelete
import BpEngine.Storage.Resume
import BpEngine.Library.Query
import BpEngine.Features.Sources
import BpEngine.Features.Groups
import BpEngine.Features.TradeFlow
import BpEngine.Features.Service
import BpEngine.Features.V4
import BpEngine.Features.NoLookahead
import BpEngine.Library.Parties
import BpEngine.Recorder.Drain
import BpEngine.Recorder.EventBuffer
import BpEngine.Recorder.Reconnect
import BpEngine.Recorder.Subscription
import BpEngine.PaperLedger.Records
import BpEngine.PaperLedger.Simulation
import BpEngine.PaperLedger.Evaluation
import BpEngine.Labels.Parsing
import BpEngine.Labels.Service
import BpEngine.Labels.Generation
import BpEngine.Labels.Stability
import BpEngine.Library.Windows
import BpEngine.Backtesting.Folds
import BpEngine.Backtesting.WalkForward
import BpEngine.Prospective.Edge
import BpEngine.Prospective.Inputs
import BpEngine.Prospective.Predictor
import BpEngine.Prospective.Service
import BpEngine.Prospective.Integrity
import BpEngine.Calibration.Dataset
import BpEngine.Calibration.Evaluation
import BpEngine.Prospective.Policy
import BpEngine.Prospective.Agreement
import BpEngine.Prospective.Exact
import BpEngine.Prospective.SamePredictors
import BpEngine.Supervisor.Decision
import BpEngine.Supervisor.Run
import BpEngine.AutoApprover.Contract
import BpEngine.AutoApprover.Decider
import BpEngine.AutoApprover.Discipline
import BpEngine.AutoApprover.Invariant
import BpEngine.AutoApprover.Run
import BpEngine.CanaryExecutor.Executor
import BpEngine.CanaryExecutor.Run
import BpEngine.Execution.FillGuard
import BpEngine.Execution.Book
import BpEngine.Execution.BookRun
import BpEngine.Library.Rounding
import BpEngine.Execution.BookLevels
import BpEngine.PaperLedger.SimulationLaw
import BpEngine.PaperLedger.SimulateBuy
import BpEngine.PaperLedger.OrderCost
import BpEngine.PaperLedger.Service
import BpEngine.PaperLedger.Calls
import BpEngine.PaperLedger.Cancellation
import BpEngine.PaperLedger.LedgerRun
import BpEngine.Execution.StreamingBook
import BpEngine.Execution.StreamingRun
import BpEngine.Calibration.EdgeMetrics
import BpEngine.Calibration.EdgeAggregate
import BpEngine.Features.Coverage
import BpEngine.Library.OrderedDict
import BpEngine.Recorder.MarketState
import BpEngine.Recorder.Rejection
import BpEngine.Recorder.ReferenceBook
import BpEngine.Backfill.Candles
import BpEngine.Backfill.Prices
import BpEngine.Backfill.Repeat
import BpEngine.Backfill.Complete
import BpEngine.Library.DecimalText
import BpEngine.V4Paper.FreshBookShadow
import BpEngine.V4Paper.Listing
import BpEngine.Library.Greedy
import BpEngine.Library.Grid
import BpEngine.V4Paper.FillLaw
import BpEngine.V4Research.Config
import BpEngine.V4Research.Readiness
import BpEngine.V4Research.Plan
import BpEngine.V4Research.PlanLaw
import BpEngine.Library.DecimalContext
import BpEngine.Features.Hashing
import BpEngine.Library.JsonEqual
import BpEngine.Execution.PreExecution
import BpEngine.Execution.DispatchTicket
import BpEngine.Execution.ExecutionPackage
import BpEngine.Execution.PackageBinding
import BpEngine.Execution.ApprovalPrompt
import BpEngine.Execution.NumberText
import BpEngine.AutoApprover.PromptRoundTrip
import BpEngine.Library.Batch
import BpEngine.V4Paper.SourceTime
import BpEngine.V4Paper.SourceTimeReads
import BpEngine.V4Paper.SourceTimeAgree
import BpEngine.V4Paper.SourceTimeFeatures
import BpEngine.V4Paper.SourceTimeReadiness
import BpEngine.Improvement.Models
import BpEngine.Improvement.Registry
import BpEngine.Improvement.Reload
import BpEngine.Improvement.RegistryRun
import BpEngine.Improvement.Cli
