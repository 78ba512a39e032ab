import RoverKernel.Payload
import RoverKernel.Float.Decimal

/-!
# The engines module

Drives the two wheel motors.  Services:

* `0` MOVE: direction byte, distance (f32), blocking flag — 6 bytes;
* `1` MOVE_ARC: distance, angle, small radius (three f32) — 12 bytes;
* `2` MOVE_PERCENT: direction byte, left and right duty (f32 in `[0, 100]`) — 9 bytes;
* `3` REBOOT: honoured only when the first byte is `0x17`;
* `4` SPEED_LOOP: wheel speeds from the encoder ticks since the last loop.

Decoding checks the direction byte first, then the lengths, then the duty ranges; a fault
leaves the engine state as it was and reports its code.  Requests that are ignored (an
unknown service, a REBOOT without its code) leave the previous outcome in place.

The speed loop computes in single precision: `ticks * (π * diameter / resolution)` over the
elapsed seconds.  Encoder counters are 32-bit; `addEncoderTicks` and `speedLoop` return
`none` where that arithmetic would overflow.
-/

namespace RoverKernel

/-- largest payload the engines accept -/
def enginesMaxPayload : Nat := 12

/-- the byte that makes a REBOOT request take effect -/
def rebootCode : UInt8 := 0x17

inductive Direction where
  | forward
  | backward
  | left
  | right
deriving DecidableEq, Repr, Inhabited

/-- why an engines request failed -/
inductive EngineFault where
  /-- the payload does not hold the command -/
  | badArgs (e : KernelError)
  /-- the direction byte names no direction -/
  | badDirection (value : Nat)
  /-- a duty outside `[0, 100]` -/
  | outOfRange (value : F32)
deriving DecidableEq, Repr

namespace Direction

def toByte : Direction → UInt8
  | .forward => 0
  | .backward => 1
  | .left => 2
  | .right => 3

def ofByte (b : UInt8) : Except EngineFault Direction :=
  if b = 0 then .ok .forward
  else if b = 1 then .ok .backward
  else if b = 2 then .ok .left
  else if b = 3 then .ok .right
  else .error (.badDirection b.toNat)

/-- the direction's name in lower case -/
def name : Direction → String
  | .forward => "forward"
  | .backward => "backward"
  | .left => "left"
  | .right => "right"

@[simp] theorem ofByte_toByte (d : Direction) : ofByte d.toByte = .ok d := by
  cases d <;> rfl

end Direction

namespace EngineFault

/-- the code written into the outcome -/
def code : EngineFault → Nat
  | .badArgs _ => 1
  | .badDirection _ => 2
  | .outOfRange _ => 3

def kind : EngineFault → String
  | .badArgs _ => "BadArgs"
  | .badDirection _ => "BadDirection"
  | .outOfRange _ => "OutOfRange"

/-- the message shown to a user -/
def message : EngineFault → String
  | .badArgs e => "malformed payload: " ++ e.message
  | .badDirection v => s!"unknown direction {v}"
  | .outOfRange v => "argument out of range: " ++ v.display

def debug : EngineFault → String
  | .badArgs e => "BadArgs(" ++ e.debug ++ ")"
  | .badDirection v => s!"BadDirection({v})"
  | .outOfRange v => "OutOfRange(" ++ v.debug ++ ")"

/-- the kernel error underneath, for `badArgs` -/
def source : EngineFault → Option KernelError
  | .badArgs e => some e
  | _ => none

/-- equality of faults as values: floats compare as numbers, so a NaN differs from itself -/
def valueEq : EngineFault → EngineFault → Bool
  | .badArgs a, .badArgs b => a == b
  | .badDirection a, .badDirection b => a == b
  | .outOfRange a, .outOfRange b => a.eq b
  | _, _ => false

end EngineFault

def liftArgs {α : Type} (r : KernelResult α) : Except EngineFault α :=
  r.mapError .badArgs

@[simp] theorem liftArgs_ok {α : Type} (a : α) : liftArgs (.ok a) = .ok a := rfl

@[simp] theorem liftArgs_error {α : Type} (e : KernelError) :
    liftArgs (.error e : KernelResult α) = .error (.badArgs e) := rfl

/-- whether a duty lies in `[0, 100]` (a NaN does not) -/
def dutyInRange (x : F32) : Bool := (F32.ofInt 0).le x && x.le (F32.ofInt 100)

/-- a straight move or rotation -/
structure MoveCommand where
  direction : Direction
  distance : F32
  /-- whether the move blocks -/
  blocking : Bool
deriving DecidableEq, Repr

/-- an arc move -/
structure ArcCommand where
  distance : F32
  angle : F32
  /-- radius of the inner wheel's arc -/
  smallRadius : F32
deriving DecidableEq, Repr

/-- per-wheel duty -/
structure PercentCommand where
  direction : Direction
  /-- left duty in percent -/
  left : F32
  /-- right duty in percent -/
  right : F32
deriving DecidableEq, Repr

namespace MoveCommand

/-- the 6-byte encoding -/
def encode (c : MoveCommand) : List UInt8 :=
  [c.direction.toByte] ++ c.distance.toBytes ++ [if c.blocking then 1 else 0]

def encodeInto (c : MoveCommand) (e : TaskEntry) : KernelResult TaskEntry := e.appendBytes c.encode

/-- reads a move: the direction byte is checked before the rest is read -/
def decode (r : ArgReader) : Except EngineFault (MoveCommand × ArgReader) := do
  let (d, r) ← liftArgs r.readU8
  let direction ← Direction.ofByte d
  let (distance, r) ← liftArgs r.readF32
  let (blocking, r) ← liftArgs r.readBool
  pure (⟨direction, distance, blocking⟩, r)

end MoveCommand

namespace ArcCommand

/-- the 12-byte encoding -/
def encode (c : ArcCommand) : List UInt8 :=
  c.distance.toBytes ++ c.angle.toBytes ++ c.smallRadius.toBytes

def encodeInto (c : ArcCommand) (e : TaskEntry) : KernelResult TaskEntry := e.appendBytes c.encode

def decode (r : ArgReader) : Except EngineFault (ArcCommand × ArgReader) := do
  let (distance, r) ← liftArgs r.readF32
  let (angle, r) ← liftArgs r.readF32
  let (smallRadius, r) ← liftArgs r.readF32
  pure (⟨distance, angle, smallRadius⟩, r)

end ArcCommand

namespace PercentCommand

/-- the 9-byte encoding -/
def encode (c : PercentCommand) : List UInt8 :=
  [c.direction.toByte] ++ c.left.toBytes ++ c.right.toBytes

def encodeInto (c : PercentCommand) (e : TaskEntry) : KernelResult TaskEntry :=
  e.appendBytes c.encode

/-- reads a duty command; after both duties are read, the left one and then the right one
must lie in `[0, 100]` -/
def decode (r : ArgReader) : Except EngineFault (PercentCommand × ArgReader) := do
  let (d, r) ← liftArgs r.readU8
  let direction ← Direction.ofByte d
  let (left, r) ← liftArgs r.readF32
  let (right, r) ← liftArgs r.readF32
  if !dutyInRange left then throw (.outOfRange left)
  if !dutyInRange right then throw (.outOfRange right)
  pure (⟨direction, left, right⟩, r)

end PercentCommand

/-- the last command applied to the motors -/
inductive MotorCommand where
  /-- nothing since start or reboot -/
  | idle
  | move (c : MoveCommand)
  | arc (c : ArcCommand)
  | percent (c : PercentCommand)
deriving DecidableEq, Repr, Inhabited

/-- wheel and encoder dimensions -/
structure WheelGeometry where
  /-- wheel diameter in centimetres -/
  diameterCm : F32 := F32.ofDecimal false 68 (-1)
  /-- encoder ticks per wheel revolution -/
  resolution : F32 := F32.ofInt 360
deriving DecidableEq, Repr, Inhabited

structure EngineState where
  lastCommand : MotorCommand := .idle
  /-- encoder ticks of the left wheel -/
  counterLeft : Int := 0
  /-- encoder ticks of the right wheel -/
  counterRight : Int := 0
  /-- speed of the left wheel in cm/s, as of the last speed loop -/
  speedLeft : F32 := F32.zero
  /-- speed of the right wheel in cm/s -/
  speedRight : F32 := F32.zero
  /-- successful reboots -/
  reboots : Nat := 0
  /-- motion commands applied -/
  commands : Nat := 0
  /-- left counter at the last speed loop -/
  lastLeft : Int := 0
  /-- right counter at the last speed loop -/
  lastRight : Int := 0
  /-- time of the last speed loop or reboot -/
  lastSpeedMs : Millis := 0
deriving DecidableEq, Repr, Inhabited

/-- whether an integer fits 32-bit two's complement -/
def fitsI32 (x : Int) : Bool := -2147483648 ≤ x && x ≤ 2147483647

/-- π rounded to single precision -/
def f32Pi : F32 := F32.ofNat 0x40490FDB

namespace EngineState

def apply (s : EngineState) (c : MotorCommand) : EngineState :=
  { s with lastCommand := c, commands := s.commands + 1 }

/-- reinitialises the motors: everything returns to its default except the reboot count,
which goes up by one, and the speed-loop time, which becomes `now` -/
def reboot (s : EngineState) (now : Millis) : EngineState :=
  { reboots := s.reboots + 1, lastSpeedMs := now }

/-- adds encoder ticks; `none` if a counter would leave the 32-bit range -/
def addEncoderTicks (s : EngineState) (left right : Int) : Option EngineState :=
  let l := s.counterLeft + left
  let r := s.counterRight + right
  if fitsI32 l && fitsI32 r then some { s with counterLeft := l, counterRight := r } else none

/-- one speed-loop pass at time `now`.  Nothing happens when the counters have not moved
and the summed speed is below `0.01`, or when no time has passed.  `none` if a tick
difference leaves the 32-bit range. -/
def speedLoop (s : EngineState) (g : WheelGeometry) (now : Millis) : Option EngineState :=
  let threshold := F32.ofDecimal false 1 (-2)
  if s.counterLeft == s.lastLeft && s.counterRight == s.lastRight
      && (s.speedLeft + s.speedRight).lt threshold then some s
  else
    let elapsed := now - s.lastSpeedMs
    if elapsed = 0 then some s
    else
      let cmPerTick := f32Pi * g.diameterCm / g.resolution
      let elapsedS := F32.ofInt elapsed / F32.ofInt 1000
      let dl := s.counterLeft - s.lastLeft
      let dr := s.counterRight - s.lastRight
      if !(fitsI32 dl && fitsI32 dr) then none
      else
        some { s with
          speedLeft := F32.ofInt dl * cmPerTick / elapsedS
          speedRight := F32.ofInt dr * cmPerTick / elapsedS
          lastLeft := s.counterLeft
          lastRight := s.counterRight
          lastSpeedMs := now }

end EngineState

/-- the engines module: its request buffer, its state and its wheel geometry -/
structure Engines where
  buffer : ServiceBuffer := ServiceBuffer.new enginesMaxPayload
  state : EngineState := {}
  geometry : WheelGeometry := {}
deriving DecidableEq, Repr, Inhabited

namespace Engines

/-- runs the request in the buffer at time `now`: `none` means the request is ignored, and
otherwise the new state or the fault.  The outer `Option` of the result is `none` when the
arithmetic overflowed. -/
def run (e : Engines) (now : Millis) :
    Option (Option (Except EngineFault EngineState)) :=
  let r := e.buffer.reader
  match e.buffer.service with
  | 0 => some (some ((MoveCommand.decode r).map fun (c, _) => e.state.apply (.move c)))
  | 1 => some (some ((ArcCommand.decode r).map fun (c, _) => e.state.apply (.arc c)))
  | 2 => some (some ((PercentCommand.decode r).map fun (c, _) => e.state.apply (.percent c)))
  | 3 =>
    match r.readU8 with
    | .ok (b, _) => if b = rebootCode then some (some (.ok (e.state.reboot now))) else some none
    | .error _ => some none
  | 4 => (e.state.speedLoop e.geometry now).map fun s => some (.ok s)
  | _ => some none

/-- serves the request in the buffer at time `now`; `none` if the arithmetic overflowed -/
def invoke (e : Engines) (now : Millis) : Option Engines :=
  (e.run now).map fun
    | none => e
    | some (.ok s) => { e with state := s, buffer := e.buffer.setOutcome .ok }
    | some (.error f) => { e with buffer := e.buffer.setOutcome (.failed f.code) }

/-- adds encoder ticks; `none` if a counter would overflow -/
def addEncoderTicks (e : Engines) (left right : Int) : Option Engines :=
  (e.state.addEncoderTicks left right).map fun s => { e with state := s }

end Engines

end RoverKernel
