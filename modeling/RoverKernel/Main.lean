import RoverKernel.Daemon.Run

/-!
# The daemon's command line

`main` runs the daemon for real: it reads the environment and the configuration files the
daemon may look at, prints what `Daemon.run` would print, and runs the control loop in real
time, one poll per millisecond with the clock following the time elapsed since the start.
Signals are left to the operating system, so without `--max-iterations` the daemon runs
until it is killed.
-/

namespace RoverKernel

namespace DaemonProcess

/-- the error number of a failed file operation, `0` when it has none -/
def osCode : IO.Error → UInt32
  | .noFileOrDirectory _ c _ | .inappropriateType _ c _ | .permissionDenied _ c _
  | .noSuchThing _ c _ | .invalidArgument _ c _ | .otherError c _ => c
  | _ => 0

/-- the text of the file at `path`, or why it cannot be read -/
def readFileText (path : String) : IO (Except IoError String) := do
  if path.isEmpty then return .error .notFound
  try
    return .ok (← IO.FS.readFile path)
  catch e =>
    return .error (match osCode e with
      | 21 => .isDirectory
      | 20 => .notDirectory
      | _ => .notFound)

/-- access to the given files, read once now -/
def fileAccess (paths : List String) : IO FileAccess := do
  let texts ← paths.mapM fun p => do return (p, ← readFileText p)
  return ⟨fun p => (texts.lookup p).getD (.error .notFound)⟩

/-- prints a failure and answers its exit status -/
def fail (e : DaemonExit) : IO UInt32 := do
  IO.eprint (DaemonRun.stderr ⟨[], e⟩)
  return e.code.toUInt32

/-- polls once per millisecond until the iteration limit, iteration `i` being the next -/
partial def controlLoop (opts : DaemonOptions) (period : Duration) (start i : Nat) (k : Kernel) :
    IO (Except DaemonExit Kernel) := do
  match Daemon.pollAt period ((← IO.monoNanosNow) - start) k with
  | .error e => return .error e
  | .ok k =>
    if 0 < opts.maxIterations ∧ opts.maxIterations ≤ i + 1 then return .ok k
    IO.sleep 1
    controlLoop opts period start (i + 1) k

end DaemonProcess

end RoverKernel

open RoverKernel in
/-- runs the daemon with the process's arguments -/
def main (args : List String) : IO UInt32 := do
  match CommandLine.parse args with
  | .help => IO.print helpText; return 0
  | .version => IO.print versionText; return 0
  | .usageError m => DaemonProcess.fail (.usage m)
  | .aborted m => DaemonProcess.fail (.panicked m)
  | .run opts =>
    let env ← ["RK_CONFIG_PATH", "RUST_LOG"].filterMapM fun k => do
      return (← IO.getEnv k).map (k, ·)
    let paths := opts.config.toList ++ (env.lookup "RK_CONFIG_PATH").toList ++ Daemon.defaultPaths
    let files ← DaemonProcess.fileAccess paths
    let logging := LogFilter.setup opts.logLevel (env.lookup "RUST_LOG")
    for w in logging.warnings do IO.eprintln w
    if let some m := logging.panic then return ← DaemonProcess.fail (.panicked m)
    match Daemon.prepare opts { args, environment := env, files } with
    | .error e => DaemonProcess.fail e
    | .ok (c, k) =>
      match ← DaemonProcess.controlLoop opts c.period (← IO.monoNanosNow) 0 k with
      | .error e => DaemonProcess.fail e
      | .ok k =>
        IO.print (Daemon.finish opts k).stdout
        return 0
