import RoverKernel.Task

/-!
# Service buffers and argument readers

The dispatcher hands a module its request in a `ServiceBuffer`: the service number, the
payload behind a length byte, and the outcome the module writes back.  A module reads the
payload with an `ArgReader`, which consumes little-endian fields from the front; a read
that needs more bytes than are left fails with `payloadUnderrun` and consumes nothing, so a
failed read never shifts the ones after it.
-/

namespace RoverKernel

/-- what a module reports about its last request -/
inductive ServiceOutcome where
  /-- nothing has been reported yet -/
  | idle
  | ok
  /-- the request failed with a module-specific code -/
  | failed (code : Nat)
deriving DecidableEq, Repr, Inhabited

/-- the request buffer of one module: the service of the last request, the outcome the
module wrote, and `data`, the length byte followed by `maxPayload` payload bytes.  A shorter
payload leaves the bytes of a longer earlier one behind it; only the first `argLen` count. -/
structure ServiceBuffer where
  service : Nat := 0
  outcome : ServiceOutcome := .idle
  /-- the length byte and the payload area -/
  data : List UInt8
deriving DecidableEq, Repr, Inhabited

namespace ServiceBuffer

/-- an idle buffer accepting payloads of up to `maxPayload` bytes (at most `argCapacity`) -/
def new (maxPayload : Nat) : ServiceBuffer := { data := List.replicate (min maxPayload argCapacity + 1) 0 }

def maxPayload (b : ServiceBuffer) : Nat := b.data.length - 1

/-- payload length, from the length byte -/
def argLen (b : ServiceBuffer) : Nat := (b.data.headD 0).toNat

def payload (b : ServiceBuffer) : List UInt8 := (b.data.drop 1).take b.argLen

/-- the length byte followed by the payload, as the transport lays them out -/
def raw (b : ServiceBuffer) : List UInt8 := b.data.take (b.argLen + 1)

/-- loads a request; a payload longer than `maxPayload` is refused and changes nothing -/
def load (b : ServiceBuffer) (service : Nat) (payload : List UInt8) :
    KernelResult ServiceBuffer :=
  if b.maxPayload < payload.length then .error (.argumentTooLarge payload.length b.maxPayload)
  else .ok { b with service,
                    data := UInt8.ofNat payload.length :: payload ++ b.data.drop (payload.length + 1) }

def setOutcome (b : ServiceBuffer) (o : ServiceOutcome) : ServiceBuffer := { b with outcome := o }

end ServiceBuffer

/-- a cursor over a payload: the bytes not read yet -/
structure ArgReader where
  rest : List UInt8
deriving DecidableEq, Repr, Inhabited

namespace ArgReader

def remaining (r : ArgReader) : Nat := r.rest.length

/-- reads `n` bytes, or fails without consuming anything -/
def readBytes (r : ArgReader) (n : Nat) : KernelResult (List UInt8 × ArgReader) :=
  if r.remaining < n then .error (.payloadUnderrun n r.remaining)
  else .ok (r.rest.take n, ⟨r.rest.drop n⟩)

def readRest (r : ArgReader) : List UInt8 × ArgReader := (r.rest, ⟨[]⟩)

def readU8 (r : ArgReader) : KernelResult (UInt8 × ArgReader) :=
  match r.rest with
  | b :: rest => .ok (b, ⟨rest⟩)
  | [] => .error (.payloadUnderrun 1 0)

/-- reads a byte as a flag: any non-zero byte is true -/
def readBool (r : ArgReader) : KernelResult (Bool × ArgReader) := do
  let (b, r) ← r.readU8
  pure (b != 0, r)

/-- reads a little-endian 16-bit value -/
def readU16 (r : ArgReader) : KernelResult (Nat × ArgReader) :=
  match r.rest with
  | b0 :: b1 :: rest => .ok (b0.toNat + 256 * b1.toNat, ⟨rest⟩)
  | _ => .error (.payloadUnderrun 2 r.remaining)

/-- reads a little-endian single-precision float -/
def readF32 (r : ArgReader) : KernelResult (F32 × ArgReader) :=
  match r.rest with
  | b0 :: b1 :: b2 :: b3 :: rest => .ok (F32.ofBytes b0 b1 b2 b3, ⟨rest⟩)
  | _ => .error (.payloadUnderrun 4 r.remaining)

theorem readBytes_append (xs ys : List UInt8) :
    readBytes ⟨xs ++ ys⟩ xs.length = .ok (xs, ⟨ys⟩) := by
  rw [readBytes, if_neg (by simp [remaining])]
  simp

@[simp] theorem readU8_cons (b : UInt8) (rest : List UInt8) :
    readU8 ⟨b :: rest⟩ = .ok (b, ⟨rest⟩) := rfl

@[simp] theorem readBool_cons (b : UInt8) (rest : List UInt8) :
    readBool ⟨b :: rest⟩ = .ok (b != 0, ⟨rest⟩) := rfl

@[simp] theorem readU16_cons (b0 b1 : UInt8) (rest : List UInt8) :
    readU16 ⟨b0 :: b1 :: rest⟩ = .ok (b0.toNat + 256 * b1.toNat, ⟨rest⟩) := rfl

@[simp] theorem readF32_cons (b0 b1 b2 b3 : UInt8) (rest : List UInt8) :
    readF32 ⟨b0 :: b1 :: b2 :: b3 :: rest⟩ = .ok (F32.ofBytes b0 b1 b2 b3, ⟨rest⟩) := rfl

end ArgReader

def ServiceBuffer.reader (b : ServiceBuffer) : ArgReader := ⟨b.payload⟩

/-- the structural form of an outcome: `Idle`, `Ok` or `Failed(code)` -/
def ServiceOutcome.debug : ServiceOutcome → String
  | .idle => "Idle"
  | .ok => "Ok"
  | .failed c => s!"Failed({c})"

/-- a list in the structural form: items in brackets, separated by commas -/
def debugList {α : Type} (item : α → String) (xs : List α) : String :=
  "[" ++ ", ".intercalate (xs.map item) ++ "]"

/-- the structural form of a value behind a lock that nobody holds -/
def debugLocked (inner : String) : String :=
  "Mutex \x7b data: " ++ inner ++ ", poisoned: false, .. \x7d"

/-- the structural form of a buffer, its whole data area included -/
def ServiceBuffer.debug (b : ServiceBuffer) : String :=
  s!"ServiceBuffer \x7b service_id: {b.service}, outcome: " ++ b.outcome.debug ++ ", data: " ++
    debugList (fun x => toString x.toNat) b.data ++ " \x7d"

end RoverKernel
