import RoverKernel.Float.Format
import RoverKernel.Float.Arith
import RoverKernel.Float.Decimal
import RoverKernel.Text.Unicode
import RoverKernel.Text.Utf8
import RoverKernel.Text.Escape
import RoverKernel.Text.Pattern
import RoverKernel.Time
import RoverKernel.Error
import RoverKernel.Lifecycle
import RoverKernel.Task
import RoverKernel.Queue
import RoverKernel.Payload
import RoverKernel.Registry
import RoverKernel.EventLog
import RoverKernel.Metrics
import RoverKernel.TimeBase
import RoverKernel.Config.Kernel
import RoverKernel.Config.DurationText
import RoverKernel.Config.Toml
import RoverKernel.FileTree
import RoverKernel.Config.Load
import RoverKernel.Modules.Engines
import RoverKernel.Modules.Radio
import RoverKernel.Modules.Recorder
import RoverKernel.Modules.Module
import RoverKernel.Dispatcher
import RoverKernel.Kernel
import RoverKernel.Daemon.Cli
import RoverKernel.Daemon.LogFilter
import RoverKernel.Daemon.Run
import RoverKernel.Main
import RoverKernel.Proofs.QueueRefinement
import RoverKernel.Proofs.SharedQueue
import RoverKernel.Proofs.PayloadRoundTrip
import RoverKernel.Proofs.Poll
import RoverKernel.Proofs.Rings
import RoverKernel.Proofs.EventLogHistory
import RoverKernel.Proofs.MetricsHistory
import RoverKernel.Proofs.DispatchAccounting
import RoverKernel.Proofs.KernelLifecycle
import RoverKernel.Proofs.EngineCommands
import RoverKernel.Proofs.RadioRequests
import RoverKernel.Proofs.RadioSessions
import RoverKernel.Proofs.TickPeriod
import RoverKernel.Proofs.EntryLayout
import RoverKernel.Proofs.SpeedLoop
import RoverKernel.Proofs.PanicFree
import RoverKernel.Proofs.PollDrain
import RoverKernel.Proofs.DeliveryRouting
import RoverKernel.Proofs.RequestOutcomes
import RoverKernel.Proofs.FloatFields
import RoverKernel.Proofs.NearestRounding
import RoverKernel.Proofs.FloatOrder
import RoverKernel.Proofs.MonotoneRounding
import RoverKernel.Proofs.NonnegArithmetic
import RoverKernel.Proofs.FloatGrammar
import RoverKernel.Proofs.NumericArguments
import RoverKernel.Proofs.ClockMonotone
import RoverKernel.Proofs.PollBound
import RoverKernel.Proofs.SpeedLoopRest
import RoverKernel.Proofs.Percentiles
import RoverKernel.Proofs.DaemonStartup
