import RoverKernel.Error
import RoverKernel.Time
import RoverKernel.Float.Decimal
import RoverKernel.Text.Utf8
import RoverKernel.Text.Unicode

/-!
# Task entries

A `TaskEntry` asks module `module` to run service `service` no earlier than `due`, with a
payload of at most `argCapacity` bytes.  Producers build the payload by appending raw bytes,
little-endian integers and floats, or decimal text that is parsed into a float.  Every
operation that does not fit fails with `argumentTooLarge` and leaves the entry as it was.
-/

namespace RoverKernel

/-- payload capacity of one entry in bytes -/
def argCapacity : Nat := 50

/-- a deferred request for a module service -/
structure TaskEntry where
  /-- target module (a byte) -/
  module : Nat
  /-- requested service (16 bits) -/
  service : Nat
  /-- time before which the entry must not run -/
  due : Millis := 0
  args : List UInt8 := []
deriving DecidableEq, Repr, Inhabited

/-- the little-endian bytes of a 16-bit value -/
def u16Bytes (v : Nat) : List UInt8 := [UInt8.ofNat (v % 256), UInt8.ofNat (v / 256 % 256)]

def dropTrailingNul (cs : List Char) : List Char :=
  (cs.reverse.dropWhile (· == '\x00')).reverse

/-- drops the characters of the Unicode `White_Space` property at both ends -/
def trimWhiteSpace (cs : List Char) : List Char :=
  ((cs.dropWhile Unicode.isWhiteSpace).reverse.dropWhile Unicode.isWhiteSpace).reverse

/-- reads decimal text received over a link as a float: the bytes must be UTF-8; trailing
NULs, then surrounding white space, are ignored; what is left must be a float literal.
A failure carries the text with invalid UTF-8 replaced. -/
def parseNumericText (text : List UInt8) : KernelResult F32 :=
  let invalid := KernelError.invalidNumericArgument (String.ofList (Utf8.decodeLossy text))
  match Utf8.decode? text with
  | none => .error invalid
  | some cs =>
    let s := trimWhiteSpace (dropTrailingNul cs)
    if s.isEmpty then .error invalid
    else
      match FloatLiteral.parse s with
      | none => .error invalid
      | some lit => .ok (F32.ofNat (lit.toBits FloatFormat.binary32))

namespace TaskEntry

/-- an entry due immediately with an empty payload -/
def new (module service : Nat) : TaskEntry := { module, service }

/-- an entry due at `due` with an empty payload -/
def scheduled (module service due : Nat) : TaskEntry := { module, service, due }

/-- whether the entry may run at time `now` -/
def isDue (e : TaskEntry) (now : Millis) : Bool := e.due ≤ now

def argLen (e : TaskEntry) : Nat := e.args.length

def remaining (e : TaskEntry) : Nat := argCapacity - e.argLen

/-- appends bytes after the payload, if they fit -/
def appendBytes (e : TaskEntry) (bytes : List UInt8) : KernelResult TaskEntry :=
  if e.remaining < bytes.length then .error (.argumentTooLarge bytes.length e.remaining)
  else .ok { e with args := e.args ++ bytes }

/-- appends a float as four little-endian bytes -/
def appendF32 (e : TaskEntry) (v : F32) : KernelResult TaskEntry := e.appendBytes v.toBytes

/-- appends a 16-bit value as two little-endian bytes -/
def appendU16 (e : TaskEntry) (v : Nat) : KernelResult TaskEntry := e.appendBytes (u16Bytes v)

/-- parses decimal text and appends the float; a parse failure is reported first -/
def appendNumeric (e : TaskEntry) (text : List UInt8) : KernelResult TaskEntry := do
  let v ← parseNumericText text
  e.appendF32 v

/-- replaces the whole payload, if the new one fits -/
def setArgs (e : TaskEntry) (bytes : List UInt8) : KernelResult TaskEntry :=
  if argCapacity < bytes.length then .error (.argumentTooLarge bytes.length argCapacity)
  else .ok { e with args := bytes }

def clearArgs (e : TaskEntry) : TaskEntry := { e with args := [] }

end TaskEntry

end RoverKernel
