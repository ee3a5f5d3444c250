import Chansey.Accounting.Collateral
import Chansey.Accounting.Conservation
import Chansey.Accounting.ForcedExits
import Chansey.Accounting.Tracking
import Chansey.Audit.HonestLog
import Chansey.Authentication.GuessesBounded
import Chansey.BacktestRun.Lawful
import Chansey.Exchange.PairSplitting
import Chansey.Executor.SlippageBounds
import Chansey.Exit.Ratchet
import Chansey.FailedJobs.JobData
import Chansey.Listing.ExactlyOnce
import Chansey.Listing.ExitsOnce
import Chansey.Live.AtomicAttachment
import Chansey.Live.ConcentrationLimit
import Chansey.Live.Converters
import Chansey.Live.CycleSpending
import Chansey.Live.DeployedOnly
import Chansey.Live.DeploymentLimits
import Chansey.Live.ExecutedQuantity
import Chansey.Live.ExitQuantity
import Chansey.Live.HeldExits
import Chansey.Live.IdleCapital
import Chansey.Live.Lifecycle
import Chansey.Live.LotSize
import Chansey.Live.Oco
import Chansey.Live.OcoOrder
import Chansey.Live.OpportunityPlan
import Chansey.Live.OrderBookSlippage
import Chansey.Live.PlacementBooks
import Chansey.Live.PrivateThrottle
import Chansey.Live.RealisedGain
import Chansey.Live.SaleBooking
import Chansey.Live.SyncCursor
import Chansey.Loop.ExitFills
import Chansey.Loop.Funding
import Chansey.Loop.NextBar
import Chansey.Loop.SizingLimits
import Chansey.Metrics.Closings
import Chansey.Metrics.Cuts
import Chansey.Metrics.Histogram
import Chansey.Notification.LosesNothing
import Chansey.Ohlc.Coverage
import Chansey.Ohlc.Gaps
import Chansey.Optimization.AdaptiveSearch
import Chansey.Optimization.GridSearch
import Chansey.Optimization.Resume
import Chansey.Optimization.WarmupBars
import Chansey.Paper.CandleGating
import Chansey.Paper.Solvent
import Chansey.Paper.TrackerAgreement
import Chansey.PaperSession.StatusKept
import Chansey.PaperSession.Watchdog
import Chansey.Performance.ProfitHistory
import Chansey.Pipeline.Resume
import Chansey.Pipeline.Units
import Chansey.PortfolioService.CloseShort
import Chansey.PortfolioService.Invariant
import Chansey.Query.TokenRefresh
import Chansey.Scoring.Degradation
import Chansey.Shared.CircuitBreaker
import Chansey.Shared.DistributedLock
import Chansey.Shared.Retry
import Chansey.Shared.Sanitize
import Chansey.Strategy.AtrTrailingStop
import Chansey.Ticker.SettledOnce
import Chansey.Window.Aggregation
import Chansey.Window.BoundedHistory
import Chansey.Window.Refinement
