import RoverKernel.Kernel
import RoverKernel.Config.Load
import RoverKernel.Text.Escape
import RoverKernel.Daemon.Cli
import RoverKernel.Daemon.LogFilter

/-!
# A run of the daemon

`Daemon.run` is the daemon from its arguments, environment, working directory and the
signals it receives, to what it prints and how it exits:

1. read the command line (`CommandLine.parse`); help, version and usage errors end here;
2. set up logging, which may warn on standard error, or stop the program on a directive
   it cannot cut (`LogFilter.setup`);
3. find the configuration: the `-c` file, else the file named by `RK_CONFIG_PATH` if it
   exists, else `/etc/rover-kernel/config.toml` or `config/default.toml` if one exists,
   else the defaults; a file that exists but cannot be used is an error;
4. apply `--tick-period`, build the kernel, register the radio at 0 and the engines at 1,
   queue the startup tasks and start;
5. poll once per millisecond until the iteration limit or a SIGTERM or SIGINT, the tick
   advancing the clock once per period;
6. shut down and report the metrics.

Failures are reported as a context line and the messages of its causes.  Signals are
sent `signalSpacingMs` apart from the start of the control loop.  The clock the kernel polls
with is the schedule `clockAt` gives, in place of the tick thread, and the callbacks take the
times the input gives.
-/

namespace RoverKernel

/-- a signal the daemon handles: SIGHUP is logged and otherwise ignored, SIGTERM and SIGINT
stop it -/
inductive Signal where
  | hangup
  | terminate
  | interrupt
deriving DecidableEq, Repr

def Signal.stops : Signal → Bool
  | .hangup => false
  | _ => true

/-- everything a run of the daemon depends on -/
structure DaemonInput where
  /-- command-line arguments after the program name -/
  args : List String
  environment : List (String × String) := []
  /-- the files the daemon can read -/
  files : FileAccess := FileTree.access ⟨[]⟩
  /-- signals received, in order -/
  signals : List Signal := []
  /-- how long the module callbacks take, in the order they run -/
  timings : List Duration := []

/-- how a run ends -/
inductive DaemonExit where
  /-- help or version text printed on standard output -/
  | printed (text : String)
  | usage (message : String)
  /-- a failure: what was being done, and the messages of the causes -/
  | failed (context : String) (causes : List String)
  /-- a complete run with its final metrics, reported when asked for -/
  | finished (metrics : MetricsSnapshot) (report : Bool)
  /-- a run with no iteration limit and no signal to stop it -/
  | unending
  | panicked (message : String)
deriving DecidableEq, Repr

/-- the exit status -/
def DaemonExit.code : DaemonExit → Nat
  | .usage _ => 2
  | .failed _ _ => 1
  | .panicked _ => 101
  | _ => 0

/-- a run: the warnings of setting up logging, printed on standard error, then how it ended -/
structure DaemonRun where
  warnings : List String
  exit : DaemonExit
deriving DecidableEq, Repr

namespace Daemon

/-- milliseconds between two signals -/
def signalSpacingMs : Nat := 40

/-- where the daemon looks for a configuration when neither `-c` nor `RK_CONFIG_PATH`
names one -/
def defaultPaths : List String := ["/etc/rover-kernel/config.toml", "config/default.toml"]

/-- the configuration file at `path`, failures reported under `context` -/
def loadFrom (files : FileAccess) (path context : String) : Except DaemonExit KernelConfig :=
  match KernelConfig.fromFile files path with
  | .ok c => .ok c
  | .error (.aborted m) => .error (.panicked m)
  | .error e => .error (.failed context e.chain)

/-- the first of the default files that exists, if any -/
def firstExisting (files : FileAccess) : List String → Option String
  | [] => none
  | p :: ps => if files.pathExists p then some p else firstExisting files ps

/-- the configuration the daemon runs with, before `--tick-period` -/
def loadConfig (opts : DaemonOptions) (input : DaemonInput) : Except DaemonExit KernelConfig :=
  match opts.config with
  | some p => loadFrom input.files p ("Failed to load config from " ++ Escape.debugStr p.toList)
  | none =>
    match input.environment.lookup "RK_CONFIG_PATH" with
    | some p =>
      if input.files.pathExists p then
        loadFrom input.files p
          ("Failed to load config from RK_CONFIG_PATH=" ++ Escape.debugStr p.toList)
      else fallback
    | none => fallback
where
  /-- the default files, then the built-in defaults -/
  fallback : Except DaemonExit KernelConfig :=
    match firstExisting input.files defaultPaths with
    | some p => loadFrom input.files p ("Failed to load config from " ++ Escape.debugStr p.toList)
    | none => .ok {}

/-- lifts a kernel result, a failure reported under `context` -/
def orFail {α : Type} (context : String) : KernelResult α → Except DaemonExit α
  | .ok a => .ok a
  | .error e => .error (.failed context [e.message])

/-- queues the startup tasks in order, the first failure stopping the daemon -/
def scheduleAll (k : Kernel) : List StartupTask → Nat → Except DaemonExit Kernel
  | [], _ => .ok k
  | t :: ts, i => do
    let (_, k) ← orFail s!"Failed to queue startup task #{i}" (k.schedule t.module t.service t.delay t.args)
    scheduleAll k ts (i + 1)

/-- the kernel the daemon starts: built from the configuration, with the radio registered at
0 and the engines at 1, initialized, the startup tasks queued, and started -/
def startKernel (c : KernelConfig) : Except DaemonExit Kernel := do
  let k ← orFail "Failed to build kernel" (Kernel.new c)
  let (radio, k) := k.addModule (.radio {})
  let k ← orFail "Failed to register radio module" (k.register 0 radio)
  let (engines, k) := k.addModule (.engines {})
  let k ← orFail "Failed to register engines module" (k.register 1 engines)
  let k ← orFail "Failed to initialize kernel" k.init
  let k ← scheduleAll k c.startupTasks 0
  orFail "Failed to start kernel" k.start

/-- the kernel's clock `elapsedNanos` after the start: the tick has fired once per full
period, each time adding the period in whole milliseconds -/
def clockAt (k : Kernel) (period : Duration) (elapsedNanos : Nat) : Kernel :=
  let t := k.dispatcher.time
  let ticks := if period.toNanos = 0 then 0 else elapsedNanos / period.toNanos
  { k with dispatcher := { k.dispatcher with time := t.advanceTo (ticks * t.periodMs) } }

/-- one iteration of the control loop, `elapsedNanos` after the start; a module's panic ends
the program -/
def pollAt (period : Duration) (elapsedNanos : Nat) (k : Kernel) : Except DaemonExit Kernel := do
  match (clockAt k period elapsedNanos).runOnce with
  | none => throw (.panicked Module.panicMessage)
  | some r =>
    let (_, k) ← orFail "Dispatcher poll failed" r
    pure k

/-- polls `n` times, iteration `i` at `i` milliseconds after the start -/
def pollLoop (period : Duration) : Nat → Nat → Kernel → Except DaemonExit Kernel
  | 0, _, k => .ok k
  | n + 1, i, k => do pollLoop period n (i + 1) (← pollAt period (i * 1000000) k)

/-- how many times the control loop polls: up to the iteration limit, and up to the arrival
of the first stopping signal; `none` when nothing stops it -/
def iterations (opts : DaemonOptions) (signals : List Signal) : Option Nat :=
  let bySignal := (signals.findIdx? Signal.stops).map fun j => signalSpacingMs * (j + 1)
  let byLimit := if opts.maxIterations = 0 then none else some opts.maxIterations
  match bySignal, byLimit with
  | some a, some b => some (min a b)
  | some a, none => some a
  | none, b => b

/-- the configuration the daemon runs with: the loaded one, with the period that
`--tick-period` gives in place of its own -/
def effective (opts : DaemonOptions) (c : KernelConfig) : KernelConfig :=
  match opts.tickPeriod with
  | some p => { c with period := p }
  | none => c

/-- the configuration the daemon runs with and its started kernel, whose callbacks take the
times the input gives -/
def prepare (opts : DaemonOptions) (input : DaemonInput) : Except DaemonExit (KernelConfig × Kernel) := do
  let c := effective opts (← loadConfig opts input)
  let k ← startKernel c
  pure (c, { k with dispatcher := { k.dispatcher with timings := input.timings } })

/-- shuts the kernel down and ends the run with its metrics -/
def finish (opts : DaemonOptions) (k : Kernel) : DaemonExit :=
  let k := match k.shutdown with
    | .ok k' => k'
    | .error _ => k
  .finished k.dispatcher.metrics.snapshot opts.statsJson

/-- a run after the command line was read -/
def session (opts : DaemonOptions) (input : DaemonInput) : Except DaemonExit DaemonExit := do
  let (c, k) ← prepare opts input
  match iterations opts input.signals with
  | none => pure .unending
  | some n => pure (finish opts (← pollLoop c.period n 0 k))

/-- a run of the daemon -/
def run (input : DaemonInput) : DaemonRun :=
  match CommandLine.parse input.args with
  | .help => ⟨[], .printed helpText⟩
  | .version => ⟨[], .printed versionText⟩
  | .usageError m => ⟨[], .usage m⟩
  | .aborted m => ⟨[], .panicked m⟩
  | .run opts =>
    let logging := LogFilter.setup opts.logLevel (input.environment.lookup "RUST_LOG")
    match logging.panic with
    | some m => ⟨logging.warnings, .panicked m⟩
    | none =>
      match session opts input with
      | .ok e => ⟨logging.warnings, e⟩
      | .error e => ⟨logging.warnings, e⟩

end Daemon

/-- the metrics report as the daemon prints it: a JSON object, one field a line -/
def MetricsSnapshot.report (s : MetricsSnapshot) : String :=
  let opt (o : Option Nat) : String := match o with
    | some v => toString v
    | none => "null"
  let fields := [("polls", toString s.polls), ("invoked", toString s.invoked),
    ("skipped", toString s.skipped), ("slow_count", toString s.slowCount),
    ("min_ns", opt s.minNs), ("max_ns", opt s.maxNs), ("mean_ns", opt s.meanNs),
    ("sample_count", toString s.sampleCount)]
  "\x7b\n" ++ ",\n".intercalate (fields.map fun (k, v) => "  \"" ++ k ++ "\": " ++ v) ++ "\n\x7d\n"

/-- what a run prints on standard output, log lines aside -/
def DaemonExit.stdout : DaemonExit → String
  | .printed text => text
  | .finished m true => m.report
  | _ => ""

/-- what a run prints on standard error: its warnings, then the failure -/
def DaemonRun.stderr (r : DaemonRun) : String :=
  let failure := match r.exit with
    | .usage m => "error: " ++ m ++ "\n\nUsage: rk-daemon [OPTIONS]\n\nFor more information, try '--help'.\n"
    | .failed context causes =>
      let lines := match causes with
        | [c] => ["    " ++ c]
        | _ => causes.zipIdx.map fun ((c, i) : String × Nat) => s!"    {i}: " ++ c
      "Error: " ++ context ++ "\n\nCaused by:\n" ++ String.join (lines.map (· ++ "\n"))
    | .panicked m => "\nthread 'main' panicked:\n" ++ m ++ "\n"
    | _ => ""
  String.join (r.warnings.map (· ++ "\n")) ++ failure

end RoverKernel
