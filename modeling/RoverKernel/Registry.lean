import RoverKernel.Error
import RoverKernel.Text.Escape

/-!
# Module registry

Ten numbered slots, each empty or holding a module handle.  Registering at a taken slot
replaces its module; identifiers outside the slots are refused with `invalidModuleId`,
and looking up an empty slot fails with `moduleNotRegistered`.
-/

namespace RoverKernel

def moduleSlots : Nat := 10

/-- slots of module handles of type `α` -/
structure ModuleRegistry (α : Type) where
  /-- slot contents, indexed by module identifier -/
  slots : List (Option α) := List.replicate moduleSlots none
deriving DecidableEq, Repr

namespace ModuleRegistry

variable {α : Type}

/-- the slot of an identifier, if it is in range -/
def index (id : Nat) : KernelResult Nat :=
  if id < moduleSlots then .ok id else .error (.invalidModuleId id moduleSlots)

/-- puts a module in slot `id`, replacing what was there -/
def register (r : ModuleRegistry α) (id : Nat) (m : α) : KernelResult (ModuleRegistry α) := do
  let i ← index id
  pure { slots := r.slots.set i (some m) }

def lookup (r : ModuleRegistry α) (id : Nat) : KernelResult α := do
  let i ← index id
  match r.slots[i]? with
  | some (some m) => pure m
  | _ => .error (.moduleNotRegistered id)

/-- identifiers of the occupied slots, ascending, with their modules -/
def entries (r : ModuleRegistry α) : List (Nat × α) :=
  (List.range r.slots.length).filterMap fun i =>
    match r.slots[i]? with
    | some (some m) => some (i, m)
    | _ => none

/-- identifiers of the occupied slots, ascending -/
def registeredIds (r : ModuleRegistry α) : List Nat := r.entries.map (·.1)

/-- the map from identifier to module name as debug text: `{0: "radio", 3: "rec"}` -/
def debug (r : ModuleRegistry α) (name : α → String) : String :=
  let items := r.entries.map fun (i, m) => toString i ++ ": " ++ Escape.debugStr (name m).toList
  "\x7b" ++ ", ".intercalate items ++ "\x7d"

end ModuleRegistry

end RoverKernel
