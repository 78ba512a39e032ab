import RoverKernel.Error

/-!
# Kernel lifecycle

The kernel moves through four states:

```
BOOT ──► READY ──► RUNNING ──► STOPPED
  ▲        │                      │
  │        └──────────────────────┤
  └───────────────────────────────┘
```

`StateMachine.transition` takes exactly the five arrows of the picture, remembering the
state it left and counting the transitions made.
-/

namespace RoverKernel

inductive KernelState where
  /-- constructed, nothing configured -/
  | boot
  /-- initialised: modules may register and producers may enqueue -/
  | ready
  /-- the tick runs and the dispatcher is polled -/
  | running
  /-- the tick is stopped and the queue discarded -/
  | stopped
deriving DecidableEq, Repr, Inhabited

namespace KernelState

/-- the state's name in capitals -/
def name : KernelState → String
  | .boot => "BOOT"
  | .ready => "READY"
  | .running => "RUNNING"
  | .stopped => "STOPPED"

/-- whether `target` is reachable in one step -/
def canTransitionTo : KernelState → KernelState → Bool
  | .boot, .ready => true
  | .ready, .running => true
  | .running, .stopped => true
  | .ready, .stopped => true
  | .stopped, .boot => true
  | _, _ => false

/-- whether the dispatcher may be polled -/
def isRunning : KernelState → Bool
  | .running => true
  | _ => false

end KernelState

/-- the current state with the one before it and the number of transitions made -/
structure StateMachine where
  current : KernelState := .boot
  /-- the state before the last transition -/
  previous : Option KernelState := none
  count : Nat := 0
deriving DecidableEq, Repr, Inhabited

namespace StateMachine

/-- moves to `target` if the step is allowed; otherwise fails and changes nothing -/
def transition (m : StateMachine) (target : KernelState) : KernelResult StateMachine :=
  if m.current.canTransitionTo target then
    .ok { current := target, previous := some m.current, count := m.count + 1 }
  else
    .error (.invalidStateTransition m.current.name target.name)

end StateMachine

end RoverKernel
