import GoldFlow.Backtest.Metrics
import GoldFlow.Brokers.Retry
import GoldFlow.Verified.AlwaysAnswers
import GoldFlow.Verified.BatchStop
import GoldFlow.Verified.CircuitLinearization
import GoldFlow.Verified.CircuitLocks
import GoldFlow.Verified.Collision
import GoldFlow.Verified.DrawdownLatch
import GoldFlow.Verified.EntryZones
import GoldFlow.Verified.FinalSignals
import GoldFlow.Verified.FirstTargets
import GoldFlow.Verified.GateMonotone
import GoldFlow.Verified.IndicatorSeries
import GoldFlow.Verified.KillSwitch
import GoldFlow.Verified.LeaseExclusion
import GoldFlow.Verified.LookAhead
import GoldFlow.Verified.LostReplies
import GoldFlow.Verified.ManagedPositions
import GoldFlow.Verified.OpenRisk
import GoldFlow.Verified.PublishedEvents
import GoldFlow.Verified.SingleExposure
import GoldFlow.Verified.SingleSend
import GoldFlow.Verified.StructureMirror
import GoldFlow.Verified.SymbolStability
import GoldFlow.Verified.WalkForward
