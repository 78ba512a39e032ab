import RoverKernel.Config.DurationText

/-!
# The daemon's command line

```
rk-daemon [-c FILE] [--max-iterations N] [-l LEVEL] [--tick-period DURATION] [--stats-json]
```

`CommandLine.parse` reads the arguments left to right as the usual argument parser does:
`--name value`, `--name=value`, `-x value`, `-xvalue` and `-x=value` give a value, `--`
ends the options, and there are no positional arguments.  An option waiting for its value
is settled when the next option starts or the arguments end; that is when its value is
checked, and when a missing value is reported.  An unknown argument is reported at once,
before anything still waiting.  `-h`/`--help` and `-V`/`--version` answer at once.  Giving
an option twice is an error.
-/

namespace RoverKernel

/-- the daemon's settings from its command line -/
structure DaemonOptions where
  /-- configuration file to read -/
  config : Option String := none
  /-- dispatcher iterations before stopping; `0` for no limit -/
  maxIterations : Nat := 0
  /-- log level of the daemon's own crates -/
  logLevel : String := "info"
  /-- tick period replacing the configured one -/
  tickPeriod : Option Duration := none
  /-- whether to print the final metrics as JSON -/
  statsJson : Bool := false
deriving DecidableEq, Repr, Inhabited

/-- what the command line asks for -/
inductive CommandLine where
  /-- run with these settings -/
  | run (opts : DaemonOptions)
  /-- print the help text -/
  | help
  /-- print the version -/
  | version
  /-- a usage error, with its message -/
  | usageError (message : String)
  /-- reading a value stopped the program with this message -/
  | aborted (message : String)
deriving DecidableEq, Repr

/-- the daemon's arguments -/
inductive DaemonArg where
  /-- `-c, --config <FILE>` -/
  | config
  /-- `--max-iterations <MAX_ITERATIONS>` -/
  | maxIterations
  /-- `-l, --log-level <LOG_LEVEL>` -/
  | logLevel
  /-- `--tick-period <TICK_PERIOD>` -/
  | tickPeriod
  /-- `--stats-json` -/
  | statsJson
  /-- `-h, --help` -/
  | help
  /-- `-V, --version` -/
  | version
deriving DecidableEq, Repr

namespace DaemonArg

def all : List DaemonArg := [.config, .maxIterations, .logLevel, .tickPeriod, .statsJson, .help, .version]

def long : DaemonArg → String
  | .config => "config"
  | .maxIterations => "max-iterations"
  | .logLevel => "log-level"
  | .tickPeriod => "tick-period"
  | .statsJson => "stats-json"
  | .help => "help"
  | .version => "version"

/-- the short name, if any -/
def short : DaemonArg → Option Char
  | .config => some 'c'
  | .logLevel => some 'l'
  | .help => some 'h'
  | .version => some 'V'
  | _ => none

/-- whether the argument takes a value -/
def takesValue : DaemonArg → Bool
  | .config | .maxIterations | .logLevel | .tickPeriod => true
  | _ => false

/-- how error messages name the argument -/
def display : DaemonArg → String
  | .config => "--config <FILE>"
  | .maxIterations => "--max-iterations <MAX_ITERATIONS>"
  | .logLevel => "--log-level <LOG_LEVEL>"
  | .tickPeriod => "--tick-period <TICK_PERIOD>"
  | a => "--" ++ a.long

def ofLong (s : String) : Option DaemonArg := all.find? (·.long == s)

def ofShort (c : Char) : Option DaemonArg := all.find? (·.short == some c)

end DaemonArg

/-- why a text is not an unsigned 64-bit integer, as the standard parser says it -/
def parseU64 (s : String) : Except String Nat :=
  let digits := match s.toList with
    | '+' :: rest => rest
    | cs => cs
  if s.isEmpty then .error "cannot parse integer from empty string"
  else if digits.isEmpty || !digits.all Char.isDigit then .error "invalid digit found in string"
  else
    let v := digits.foldl (fun acc c => 10 * acc + (c.toNat - '0'.toNat)) 0
    if u64Max < v then .error "number too large to fit in target type" else .ok v

def helpText : String :=
  "Rover kernel daemon - time-gated task dispatch for rover modules\n\n" ++
  "Usage: rk-daemon [OPTIONS]\n\n" ++
  "Options:\n" ++
  "  -c, --config <FILE>                    Path to a kernel configuration file (TOML)\n" ++
  "      --max-iterations <MAX_ITERATIONS>  Maximum dispatcher iterations (0 = infinite) [default: 0]\n" ++
  "  -l, --log-level <LOG_LEVEL>            Log level (trace, debug, info, warn, error) [default: info]\n" ++
  "      --tick-period <TICK_PERIOD>        Tick period override, e.g. \"50ms\"\n" ++
  "      --stats-json                       Print the final metrics snapshot as JSON on stdout\n" ++
  "  -h, --help                             Print help\n" ++
  "  -V, --version                          Print version\n"

def versionText : String := "rk-daemon 0.1.0\n"

namespace CommandLine

/-- the state of reading the arguments -/
structure Reading where
  /-- settings so far -/
  opts : DaemonOptions := {}
  /-- arguments already given -/
  given : List DaemonArg := []
  /-- an option whose value has not been settled, with the values seen for it -/
  pending : Option (DaemonArg × List String) := none
  /-- whether the next argument is the pending option's value -/
  wantsValue : Bool := false
  /-- whether `--` has ended the options -/
  afterEscape : Bool := false

/-- how reading stops early -/
inductive Stop where
  /-- help or version was asked for -/
  | answer (c : CommandLine)
  /-- a usage error -/
  | error (message : String)

/-- records argument `a` with its values: answers help and version, then refuses a missing
value, a repeated argument and a bad value, in that order -/
def accept (r : Reading) (a : DaemonArg) (values : List String) : Except Stop Reading := do
  if a = .help then throw (.answer .help)
  if a = .version then throw (.answer .version)
  let emptyValue := Stop.error s!"a value is required for '{a.display}' but none was supplied"
  if a ≠ .statsJson && values.isEmpty then throw emptyValue
  if r.given.contains a then
    throw (.error s!"the argument '{a.display}' cannot be used multiple times")
  let r := { r with given := a :: r.given }
  let invalid (v msg : String) := Stop.error s!"invalid value '{v}' for '{a.display}': {msg}"
  match a, values with
  | .statsJson, _ => pure { r with opts := { r.opts with statsJson := true } }
  | _, [] => throw emptyValue
  | .config, v :: _ =>
    if v.isEmpty then throw emptyValue else pure { r with opts := { r.opts with config := some v } }
  | .maxIterations, v :: _ =>
    match parseU64 v with
    | .ok n => pure { r with opts := { r.opts with maxIterations := n } }
    | .error msg => throw (invalid v msg)
  | .logLevel, v :: _ => pure { r with opts := { r.opts with logLevel := v } }
  | .tickPeriod, v :: _ =>
    match Duration.parseText v with
    | .ok d => pure { r with opts := { r.opts with tickPeriod := some d } }
    | .refused e => throw (invalid v e.message)
    | .overflow => throw (.answer (.aborted "overflow in Duration::new"))
  | _, _ => pure r

/-- settles the pending option, if any -/
def settle (r : Reading) : Except Stop Reading :=
  match r.pending with
  | none => .ok r
  | some (a, values) => accept { r with pending := none, wantsValue := false } a values

/-- an option given by name, with a value attached to it or not -/
def named (r : Reading) (a : DaemonArg) (attached : Option String) : Except Stop Reading := do
  match attached with
  | some v => accept (← settle r) a [v]
  | none =>
    if a.takesValue then
      let r ← settle r
      pure { r with pending := some (a, []), wantsValue := true }
    else accept (← settle r) a []

/-- an argument that is not an option where none is allowed -/
def unexpected (arg : String) : Stop := .error s!"unexpected argument '{arg}' found"

/-- reads `--name` or `--name=value` -/
def longOption (r : Reading) (body : String) : Except Stop Reading :=
  let (name, attached) := match body.splitOn "=" with
    | n :: rest@(_ :: _) => (n, some ("=".intercalate rest))
    | _ => (body, none)
  match DaemonArg.ofLong name with
  | none => .error (unexpected ("--" ++ name))
  | some a =>
    match attached with
    | some v =>
      if a.takesValue then named r a (some v)
      else .error (.error s!"unexpected value '{v}' for '{a.display}' found; no more were expected")
    | none => named r a none

/-- reads a cluster of short options such as `-c`, `-cFILE` or `-c=FILE` -/
def shortOptions (r : Reading) : List Char → Except Stop Reading
  | [] => .ok r
  | c :: rest =>
    match DaemonArg.ofShort c with
    | none => .error (unexpected ("-" ++ c.toString))
    | some a =>
      if a.takesValue then
        match rest with
        | [] => named r a none
        | '=' :: v => named r a (some (String.ofList v))
        | v => named r a (some (String.ofList v))
      else do shortOptions (← named r a none) rest

def step (r : Reading) (arg : String) : Except Stop Reading :=
  if r.afterEscape then .error (unexpected arg)
  else if arg = "--" then .ok { r with afterEscape := true }
  else if arg.startsWith "--" then longOption r (arg.drop 2).toString
  else if arg.startsWith "-" && arg ≠ "-" then shortOptions r (arg.drop 1).toString.toList
  else if r.wantsValue then
    match r.pending with
    | some (a, values) => .ok { r with pending := some (a, values ++ [arg]), wantsValue := false }
    | none => .error (unexpected arg)
  else .error (unexpected arg)

/-- what the arguments (without the program name) ask for -/
def parse (args : List String) : CommandLine :=
  match args.foldlM step {} >>= settle with
  | .ok r => .run r.opts
  | .error (.answer c) => c
  | .error (.error message) => .usageError message

end CommandLine

end RoverKernel
