import RoverKernel.Time
import RoverKernel.Float.Arith

/-!
# Kernel configuration

The settings a kernel is built from: the tick period and core clock, the queue size, the
event log, the metrics, and the tasks queued at start-up.  Every field has a default, so an
empty configuration file describes the default kernel.  `KernelConfig.validate` refuses the
two settings that cannot work: a queue without slots and a metrics ring without samples.
-/

namespace RoverKernel

/-- a task queued when the daemon starts, `delay` after the start -/
structure StartupTask where
  module : Nat
  service : Nat
  delay : Duration := ⟨0, 0⟩
  args : List UInt8 := []
deriving DecidableEq, Repr, Inhabited

structure KernelConfig where
  period : Duration := Duration.ofMillis 100
  /-- the core clock of the tick hardware, in hertz -/
  clockHz : Nat := 120000000
  queueCapacity : Nat := 50
  eventLogEnabled : Bool := true
  eventLogCapacity : Nat := 64
  /-- how many callback durations the metrics keep -/
  histogramSize : Nat := 1024
  /-- callbacks longer than this count as slow -/
  slowCallback : Duration := Duration.ofMillis 5
  percentiles : List F64 := [F64.ofInt 50, F64.ofInt 90, F64.ofInt 99]
  startupTasks : List StartupTask := []
deriving DecidableEq, Repr, Inhabited

/-- why a configuration was refused -/
inductive ConfigError where
  /-- the file could not be read -/
  | io (path : String) (reason : String)
  | parse (reason : String)
  /-- the values cannot work -/
  | invalid (reason : String)
  /-- reading stopped the program with this message: building a duration overflowed -/
  | aborted (message : String)
deriving DecidableEq, Repr

def ConfigError.message : ConfigError → String
  | .io path reason => s!"failed to read config file {path}: {reason}"
  | .parse reason => "failed to parse TOML: " ++ reason
  | .invalid reason => "invalid configuration: " ++ reason
  | .aborted message => message

/-- checks the settings that cannot work; the queue is checked first -/
def KernelConfig.validate (c : KernelConfig) : Except ConfigError Unit :=
  if c.queueCapacity = 0 then .error (.invalid "queue.capacity must be at least 1")
  else if c.histogramSize = 0 then .error (.invalid "metrics.histogram_size must be at least 1")
  else .ok ()

end RoverKernel
