import RoverKernel.Modules.Engines
import RoverKernel.Modules.Radio
import RoverKernel.Modules.Recorder

/-!
# Kernel modules

The modules a dispatcher can deliver to.  Each owns a request buffer; invoking a module
serves the request in its buffer at the current time and may push entries onto the task
queue, which is passed through so that the pushes are seen by the poll in progress.

The engines panic when a tick difference of their speed loop leaves 32 bits.  `invoke` then
answers `none`, and the dispatcher, the kernel and the daemon pass the panic on: nothing
after it runs.
-/

namespace RoverKernel

inductive Module where
  /-- the diagnostic recorder of the test protocol -/
  | recorder (r : Recorder)
  | radio (r : Radio)
  | engines (e : Engines)
deriving DecidableEq, Repr, Inhabited

namespace Module

/-- the name the registry reports -/
def name : Module → String
  | .recorder r => r.name
  | .radio _ => "radio"
  | .engines _ => "engines"

def buffer : Module → ServiceBuffer
  | .recorder r => r.buffer
  | .radio r => r.buffer
  | .engines e => e.buffer

def withBuffer (m : Module) (b : ServiceBuffer) : Module :=
  match m with
  | .recorder r => .recorder { r with buffer := b }
  | .radio r => .radio { r with buffer := b }
  | .engines e => .engines { e with buffer := b }

/-- what the one panic a module can raise says: the engines' speed loop subtracting tick
counts whose difference leaves 32 bits -/
def panicMessage : String := "attempt to subtract with overflow"

/-- serves the request in the buffer at time `now`; `none` when the module panics -/
def invoke (m : Module) (now : Millis) (q : TaskQueue) : Option (Module × TaskQueue) :=
  match m with
  | .recorder r => let (r', q') := r.invoke q; some (.recorder r', q')
  | .radio r => some (.radio r.invoke, q)
  | .engines e => (e.invoke now).map fun e' => (.engines e', q)

end Module

end RoverKernel
