import Chansey.Loop.Runner
import Chansey.Metrics.Accumulator

/-!
# The checkpoint coordinator

The rows a run has recorded since its last checkpoint, and the three ways in which a checkpoint is
taken: at an interval, in an emergency, and when the run is paused.

* `LoopContext`: the state of the loop and the record of its rows.
-/

namespace Chansey

/-! ## The record of a run -/

def BarRows.append (a b : BarRows) : BarRows where
  trades := a.trades ++ b.trades
  signals := a.signals ++ b.signals
  simulatedFills := a.simulatedFills ++ b.simulatedFills
  snapshots := a.snapshots ++ b.snapshots

@[simp] theorem BarRows.append_empty (rows : BarRows) : rows.append {} = rows := by
  simp [BarRows.append]

theorem BarRows.append_assoc (a b c : BarRows) : (a.append b).append c = a.append (b.append c) := by
  simp [BarRows.append]

/-- The arrays of a run since its last checkpoint, and what went before them. -/
structure RunRecord where
  rows : BarRows := {}
  totalPersistedCounts : PersistedCounts := {}
  metricsAcc : MetricsAccumulator := {}
  lastCheckpointIndex : ℤ := -1
  consecutivePauseFailures : ℕ := 0

structure LoopContext where
  state : LoopState
  record : RunRecord

/-- The counts a checkpoint saves: rows handed over before, and rows still in the arrays. -/
def RunRecord.counts (record : RunRecord) : PersistedCounts :=
  let currentSells := record.metricsAcc.sellCounts + countSells record.rows.trades
  { trades := record.totalPersistedCounts.trades + record.rows.trades.length
    signals := record.totalPersistedCounts.signals + record.rows.signals.length
    fills := record.totalPersistedCounts.fills + record.rows.simulatedFills.length
    snapshots := record.totalPersistedCounts.snapshots + record.rows.snapshots.length
    sells := currentSells.sells
    winningSells := currentSells.winningSells
    grossProfit := currentSells.grossProfit
    grossLoss := currentSells.grossLoss }

/-- Count the rows of the arrays as handed over, and harvest their metrics. The sell counters of the
total stay as they were. -/
def RunRecord.handOver (record : RunRecord) (i : ℤ) : RunRecord :=
  { record with
    rows := {}
    totalPersistedCounts :=
      { record.totalPersistedCounts with
        trades := record.totalPersistedCounts.trades + record.rows.trades.length
        signals := record.totalPersistedCounts.signals + record.rows.signals.length
        fills := record.totalPersistedCounts.fills + record.rows.simulatedFills.length
        snapshots := record.totalPersistedCounts.snapshots + record.rows.snapshots.length }
    metricsAcc := harvestMetrics record.rows.trades record.rows.snapshots record.metricsAcc
    lastCheckpointIndex := i }

def createRecord : Option BacktestCheckpointState → RunRecord
  | none => {}
  | some checkpoint =>
    { totalPersistedCounts := checkpoint.persistedCounts
      metricsAcc := createMetricsAccumulator checkpoint.persistedCounts
      lastCheckpointIndex := checkpoint.lastProcessedIndex }

def createContext (setup : RunSetup) (resumeFrom : Option BacktestCheckpointState) : LoopContext where
  state := setup.createState resumeFrom
  record := createRecord resumeFrom

/-! ## Checkpoints -/

section Checkpoints

variable (computeChecksum : ChecksumData → String)

def buildSnapshot (ctx : LoopContext) (index : ℤ) (timestamp : Instant) : BacktestCheckpointState :=
  buildCheckpointState computeChecksum
    { lastProcessedIndex := index
      lastProcessedTimestamp := timestamp
      portfolio := ctx.state.portfolio
      peakValue := ctx.state.peakValue
      maxDrawdown := ctx.state.maxDrawdown
      rngState := ctx.state.rng.getState
      counts := ctx.record.counts
      serializedThrottleState := some (serializeThrottle ctx.state.throttleState)
      exitTrackerState := ctx.state.exitTracker.map (·.serialize)
      pendingSignals :=
        if ctx.state.pendingSignals.length > 0 then some ctx.state.pendingSignals else none }

/-- What `onCheckpoint` is called with. -/
structure CheckpointCall where
  checkpoint : BacktestCheckpointState
  results : BarRows

/-- The checkpoint after bar `i`, with the rows since the last one. -/
def checkpointCall (cfg : LoopConfig) (ctx : LoopContext) (i : ℕ) : CheckpointCall where
  checkpoint := buildSnapshot computeChecksum ctx i (cfg.bar i).timestamp
  results := ctx.record.rows

/-- A checkpoint at an interval: the rows are handed over and the arrays cleared. -/
def persist (cfg : LoopConfig) (ctx : LoopContext) (i : ℕ) : CheckpointCall × LoopContext :=
  (checkpointCall computeChecksum cfg ctx i, { ctx with record := ctx.record.handOver i })

/-- A pause before bar `i`: the checkpoint is that of the bar before. The rows stay in the arrays. -/
def pauseCheckpoint (cfg : LoopConfig) (ctx : LoopContext) (i : ℕ) : BacktestCheckpointState :=
  buildSnapshot computeChecksum ctx ((i : ℤ) - 1) (cfg.bar (i - 1)).timestamp

end Checkpoints

end Chansey
