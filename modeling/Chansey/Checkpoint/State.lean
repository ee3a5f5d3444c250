import Chansey.Exit.Tracker
import Chansey.Loop.Throttle
import Chansey.Portfolio
import Chansey.SeededRandom

/-!
# Checkpoint state

What a checkpoint records of a run: the state, sealed by a checksum.
-/

namespace Chansey

structure CheckpointPosition where
  coinId : CoinId
  quantity : ℚ
  averagePrice : ℚ
  entryDate : Option Instant := none

structure CheckpointPortfolio where
  cashBalance : ℚ
  positions : List CheckpointPosition

/-- Rows stored for a run, and what its sells earned. An absent counter counts as `0`. -/
structure PersistedCounts where
  trades : ℕ := 0
  signals : ℕ := 0
  fills : ℕ := 0
  snapshots : ℕ := 0
  sells : ℕ := 0
  winningSells : ℕ := 0
  grossProfit : ℚ := 0
  grossLoss : ℚ := 0

structure BacktestCheckpointState where
  lastProcessedIndex : ℤ
  lastProcessedTimestamp : Instant
  portfolio : CheckpointPortfolio
  peakValue : ℚ
  maxDrawdown : ℚ
  rngState : ℤ
  persistedCounts : PersistedCounts
  throttleState : Option SerializableThrottleState := none
  exitTrackerState : Option BacktestExitTracker.SerializableState := none
  pendingSignals : Option (List TradingSignal) := none
  checksum : String

structure ChecksumData where
  lastProcessedIndex : ℤ
  lastProcessedTimestamp : Instant
  cashBalance : ℚ
  positionCount : ℕ
  peakValue : ℚ
  maxDrawdown : ℚ
  rngState : ℤ
  throttleState : Option SerializableThrottleState

structure BuildCheckpointStateOptions where
  lastProcessedIndex : ℤ
  lastProcessedTimestamp : Instant
  portfolio : Portfolio
  peakValue : ℚ
  maxDrawdown : ℚ
  rngState : ℤ
  counts : PersistedCounts
  serializedThrottleState : Option SerializableThrottleState := none
  exitTrackerState : Option BacktestExitTracker.SerializableState := none
  pendingSignals : Option (List TradingSignal) := none

/-- The portfolio section: of a position only its coin, quantity, average price and entry date. -/
def checkpointPortfolio (portfolio : Portfolio) : CheckpointPortfolio where
  cashBalance := portfolio.cashBalance
  positions := portfolio.positions.entries.map fun e =>
    { coinId := e.1
      quantity := e.2.quantity
      averagePrice := e.2.averagePrice
      entryDate := e.2.entryDate }

def CheckpointPosition.toSerializable (pos : CheckpointPosition) : SerializablePosition where
  coinId := pos.coinId
  quantity := pos.quantity
  averagePrice := pos.averagePrice
  entryDate := pos.entryDate

/-- `portfolioState.deserialize(checkpoint.portfolio)`: no current prices are given. -/
def restorePortfolio (checkpoint : CheckpointPortfolio) : Portfolio :=
  deserializePortfolio
    { cashBalance := checkpoint.cashBalance
      positions := checkpoint.positions.map (·.toSerializable) }
    OrdMap.empty

section Checksum

-- SHA-256 of the JSON text, cut to 16 digits
variable (computeChecksum : ChecksumData → String)

def buildCheckpointState (opts : BuildCheckpointStateOptions) : BacktestCheckpointState where
  lastProcessedIndex := opts.lastProcessedIndex
  lastProcessedTimestamp := opts.lastProcessedTimestamp
  portfolio := checkpointPortfolio opts.portfolio
  peakValue := opts.peakValue
  maxDrawdown := opts.maxDrawdown
  rngState := opts.rngState
  persistedCounts := opts.counts
  throttleState := opts.serializedThrottleState
  exitTrackerState := opts.exitTrackerState
  pendingSignals := opts.pendingSignals.filter (·.length > 0)
  checksum := computeChecksum
    { lastProcessedIndex := opts.lastProcessedIndex
      lastProcessedTimestamp := opts.lastProcessedTimestamp
      cashBalance := opts.portfolio.cashBalance
      positionCount := opts.portfolio.positions.size
      peakValue := opts.peakValue
      maxDrawdown := opts.maxDrawdown
      rngState := opts.rngState
      throttleState := opts.serializedThrottleState }

end Checksum

end Chansey
