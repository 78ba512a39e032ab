import RoverKernel.Text.Escape

/-!
# Kernel errors

One inductive type for every failure of the kernel library.  `KernelError.message` is the
text a user reads; `KernelError.debug` is the structural form that lists the fields by name.
Text fields are `String`s; numeric fields are natural numbers within the range of the
counters they come from.
-/

namespace RoverKernel

/-- a failure of a queue, registry, payload, time-base or lifecycle operation -/
inductive KernelError where
  /-- a push found the queue tail at its capacity -/
  | queueFull (capacity : Nat)
  /-- a module identifier outside the registry's slots -/
  | invalidModuleId (id : Nat) (slots : Nat)
  /-- a module identifier in range whose slot is empty -/
  | moduleNotRegistered (id : Nat)
  /-- bytes that do not fit in the space left -/
  | argumentTooLarge (requested : Nat) (available : Nat)
  /-- a pop, peek or argument append on a queue with nothing pending -/
  | emptyQueueAccess
  /-- a read past the end of a payload -/
  | payloadUnderrun (needed : Nat) (remaining : Nat)
  /-- text that does not read as a number -/
  | invalidNumericArgument (text : String)
  /-- a tick period the reload register cannot hold -/
  | invalidTickPeriod (periodMs : Nat) (reason : String)
  /-- a second start of the tick source -/
  | tickSourceRunning
  /-- an operation that needs a running kernel -/
  | notRunning (state : String)
  /-- a configuration or initialisation error -/
  | config (text : String)
  /-- a lifecycle transition that is not allowed -/
  | invalidStateTransition (source : String) (target : String)
deriving DecidableEq, Repr, Inhabited

namespace KernelError

def kind : KernelError → String
  | .queueFull .. => "QueueFull"
  | .invalidModuleId .. => "InvalidModuleId"
  | .moduleNotRegistered .. => "ModuleNotRegistered"
  | .argumentTooLarge .. => "ArgumentTooLarge"
  | .emptyQueueAccess => "EmptyQueueAccess"
  | .payloadUnderrun .. => "PayloadUnderrun"
  | .invalidNumericArgument .. => "InvalidNumericArgument"
  | .invalidTickPeriod .. => "InvalidTickPeriod"
  | .tickSourceRunning => "TickSourceRunning"
  | .notRunning .. => "NotRunning"
  | .config .. => "Config"
  | .invalidStateTransition .. => "InvalidStateTransition"

/-- the message shown to a user -/
def message : KernelError → String
  | .queueFull c => s!"task queue full (capacity {c})"
  | .invalidModuleId id slots => s!"invalid module ID {id} (registry has {slots} slots)"
  | .moduleNotRegistered id => s!"no module registered at ID {id}"
  | .argumentTooLarge r a => s!"argument too large: {r} bytes requested, {a} available"
  | .emptyQueueAccess => "access to empty task queue"
  | .payloadUnderrun n r => s!"payload underrun: needed {n} bytes, {r} remaining"
  | .invalidNumericArgument t => "invalid numeric argument: " ++ Escape.debugStr t.toList
  | .invalidTickPeriod p reason => s!"invalid tick period {p}ms: " ++ reason
  | .tickSourceRunning => "tick source already running"
  | .notRunning s => s!"kernel not running (state {s})"
  | .config t => "configuration error: " ++ t
  | .invalidStateTransition s t => s!"invalid state transition from {s} to {t}"

/-- the structural form: the variant's name with its fields -/
def debug : KernelError → String
  | .queueFull c => s!"QueueFull \x7b capacity: {c} \x7d"
  | .invalidModuleId id slots => s!"InvalidModuleId \x7b id: {id}, slots: {slots} \x7d"
  | .moduleNotRegistered id => s!"ModuleNotRegistered \x7b id: {id} \x7d"
  | .argumentTooLarge r a => s!"ArgumentTooLarge \x7b requested: {r}, available: {a} \x7d"
  | .emptyQueueAccess => "EmptyQueueAccess"
  | .payloadUnderrun n r => s!"PayloadUnderrun \x7b needed: {n}, remaining: {r} \x7d"
  | .invalidNumericArgument t => "InvalidNumericArgument(" ++ Escape.debugStr t.toList ++ ")"
  | .invalidTickPeriod p reason =>
    s!"InvalidTickPeriod \x7b period_ms: {p}, reason: " ++ Escape.debugStr reason.toList
      ++ " \x7d"
  | .tickSourceRunning => "TickSourceRunning"
  | .notRunning s => "NotRunning(" ++ Escape.debugStr s.toList ++ ")"
  | .config t => "Config(" ++ Escape.debugStr t.toList ++ ")"
  | .invalidStateTransition s t =>
    "InvalidStateTransition \x7b from: " ++ Escape.debugStr s.toList ++ ", to: "
      ++ Escape.debugStr t.toList ++ " \x7d"

end KernelError

abbrev KernelResult (α : Type) := Except KernelError α

end RoverKernel
