import RoverKernel.Config.Kernel
import RoverKernel.Config.Toml
import RoverKernel.Config.DurationText
import RoverKernel.FileTree

/-!
# Reading and writing the configuration file

`KernelConfig.ofToml` reads a configuration from TOML text and `KernelConfig.toToml` writes
one.  The reading follows the shape of the configuration: a table per section (`tick`,
`queue`, `event_log`, `metrics`) and an array of tables `startup_tasks`.

A section may be given as a table, whose keys name its fields, or as an array, whose items
are its fields in order.  Keys that name no field are ignored, missing fields keep their
defaults, and only a startup task's `module` and `service` are required.  Every value must
have its field's type: unsigned integers within the field's width (integers of TOML are
64-bit signed), booleans, floats (integers are taken as floats too), and durations written
as text (`Duration.parseText`).

`KernelConfig.roundTrips` checks that writing a configuration and reading the text back
gives the same configuration.
-/

namespace RoverKernel

namespace ConfigReader

/-- how one key sets its part of a value under construction -/
abbrev FieldReader (α : Type) := α → TomlValue → Except ConfigError α

/-- reads a value with named fields from a table (unknown keys ignored) or from an array
(items in field order, missing ones left as they are, extra ones ignored) -/
def readFields {α : Type} (fields : List (String × FieldReader α)) (init : α) :
    TomlValue → Except ConfigError α
  | .table _ entries =>
    entries.foldlM (fun acc (k, v) =>
      match fields.lookup k with
      | some r => r acc v
      | none => pure acc) init
  | .array items _ => (fields.zip items).foldlM (fun acc (field, v) => field.2 acc v) init
  | _ => .error (.parse "invalid type: expected a table")

/-- an unsigned integer below `bound` -/
def natBelow (bound : Nat) : TomlValue → Except ConfigError Nat
  | .integer i => if 0 ≤ i ∧ i.toNat < bound then .ok i.toNat else .error (.parse "invalid value")
  | _ => .error (.parse "invalid type: expected an integer")

def bool : TomlValue → Except ConfigError Bool
  | .boolean b => .ok b
  | _ => .error (.parse "invalid type: expected a boolean")

/-- a float; an integer is converted to the nearest double -/
def float : TomlValue → Except ConfigError F64
  | .float x => .ok x
  | .integer i => .ok (F64.ofInt i)
  | _ => .error (.parse "invalid type: expected a float")

/-- a duration written as text; a total that overflows stops the reading -/
def duration : TomlValue → Except ConfigError Duration
  | .string s =>
    match Duration.parseText s with
    | .ok d => .ok d
    | .refused e => .error (.parse e.message)
    | .overflow => .error (.aborted "overflow in Duration::new")
  | _ => .error (.parse "invalid type: expected a string")

/-- an array of values of one kind -/
def list {α : Type} (item : TomlValue → Except ConfigError α) : TomlValue → Except ConfigError (List α)
  | .array items _ => items.mapM item
  | _ => .error (.parse "invalid type: expected an array")

/-- fields of `[tick]` -/
def tickFields : List (String × FieldReader KernelConfig) :=
  [("period", fun c v => do pure { c with period := ← duration v }),
   ("clock_hz", fun c v => do pure { c with clockHz := ← natBelow (Nat.pow 2 64) v })]

/-- fields of `[queue]` -/
def queueFields : List (String × FieldReader KernelConfig) :=
  [("capacity", fun c v => do pure { c with queueCapacity := ← natBelow (Nat.pow 2 64) v })]

/-- fields of `[event_log]` -/
def eventLogFields : List (String × FieldReader KernelConfig) :=
  [("enabled", fun c v => do pure { c with eventLogEnabled := ← bool v }),
   ("capacity", fun c v => do pure { c with eventLogCapacity := ← natBelow (Nat.pow 2 64) v })]

/-- fields of `[metrics]` -/
def metricsFields : List (String × FieldReader KernelConfig) :=
  [("histogram_size", fun c v => do pure { c with histogramSize := ← natBelow (Nat.pow 2 64) v }),
   ("slow_callback", fun c v => do pure { c with slowCallback := ← duration v }),
   ("percentiles", fun c v => do pure { c with percentiles := ← list float v })]

/-- a startup task as read so far: the required fields are optional until the end -/
structure TaskFields where
  /-- target module, required -/
  module : Option Nat := none
  /-- requested service, required -/
  service : Option Nat := none
  /-- delay after start -/
  delay : Duration := ⟨0, 0⟩
  /-- payload bytes -/
  args : List UInt8 := []

/-- fields of a startup task -/
def taskFields : List (String × FieldReader TaskFields) :=
  [("module", fun t v => do pure { t with module := some (← natBelow 256 v) }),
   ("service", fun t v => do pure { t with service := some (← natBelow 65536 v) }),
   ("delay", fun t v => do pure { t with delay := ← duration v }),
   ("args", fun t v => do pure { t with args := (← list (natBelow 256) v).map UInt8.ofNat })]

def startupTask (v : TomlValue) : Except ConfigError StartupTask := do
  let t ← readFields taskFields {} v
  match t.module, t.service with
  | some m, some s => pure ⟨m, s, t.delay, t.args⟩
  | none, _ => throw (.parse "missing field module")
  | _, none => throw (.parse "missing field service")

/-- sections of the configuration -/
def configFields : List (String × FieldReader KernelConfig) :=
  [("tick", readFields tickFields),
   ("queue", readFields queueFields),
   ("event_log", readFields eventLogFields),
   ("metrics", readFields metricsFields),
   ("startup_tasks", fun c v => do pure { c with startupTasks := ← list startupTask v })]

end ConfigReader

namespace KernelConfig

/-- the configuration a TOML text describes; settings it leaves out keep their defaults -/
def ofToml (text : String) : Except ConfigError KernelConfig :=
  match Toml.parse text with
  | .error e => .error (.parse e)
  | .ok root =>
    ConfigReader.readFields ConfigReader.configFields {} (.table .header root)

/-- a float as TOML writes it: `nan` (its sign dropped), `inf` and signed zeros by name,
integral values with `.0`, others in their shortest decimal form -/
def floatText (x : F64) : String :=
  let f := FloatFormat.binary64
  let neg := f.isNegative x.toNat
  match f.classify x.toNat with
  | .nan => "nan"
  | .infinite => if neg then "-inf" else "inf"
  | .finite 0 _ => if neg then "-0.0" else "0.0"
  | .finite _ _ => let s := x.display; if s.contains '.' then s else s ++ ".0"

/-- a list of items as a TOML array on one line -/
def arrayText (items : List String) : String := "[" ++ ", ".intercalate items ++ "]"

/-- the configuration as a TOML document, every setting written out -/
def toToml (c : KernelConfig) : String :=
  let line (k v : String) : String := k ++ " = " ++ v ++ "\n"
  let quoted (s : String) : String := "\"" ++ s ++ "\""
  let task (t : StartupTask) : String :=
    "\n[[startup_tasks]]\n" ++ line "module" (toString t.module) ++
      line "service" (toString t.service) ++ line "delay" (quoted t.delay.toText) ++
      line "args" (arrayText (t.args.map fun b => toString b.toNat))
  (if c.startupTasks.isEmpty then line "startup_tasks" "[]" ++ "\n" else "") ++
  "[tick]\n" ++ line "period" (quoted c.period.toText) ++ line "clock_hz" (toString c.clockHz) ++
  "\n[queue]\n" ++ line "capacity" (toString c.queueCapacity) ++
  "\n[event_log]\n" ++ line "enabled" (toString c.eventLogEnabled) ++
    line "capacity" (toString c.eventLogCapacity) ++
  "\n[metrics]\n" ++ line "histogram_size" (toString c.histogramSize) ++
    line "slow_callback" (quoted c.slowCallback.toText) ++
    line "percentiles" (arrayText (c.percentiles.map floatText)) ++
  String.join (c.startupTasks.map task)

/-- whether reading back the written configuration gives it unchanged -/
def roundTrips (c : KernelConfig) : Bool :=
  match ofToml c.toToml with
  | .ok c' => c' == c
  | .error _ => false

/-- the configuration in the file at `path` -/
def fromFile (files : FileAccess) (path : String) : Except ConfigError KernelConfig :=
  match files.readText path with
  | .ok text => ofToml text
  | .error e => .error (.io path e.message)

end KernelConfig

/-- the error's message followed by those of its causes -/
def ConfigError.chain : ConfigError → List String
  | .io path reason => [(ConfigError.io path reason).message, reason]
  | e => [e.message]

end RoverKernel
