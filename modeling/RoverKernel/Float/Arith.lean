import RoverKernel.Float.Format

/-!
# Floating-point arithmetic

Addition, multiplication, division, comparison and conversions on bit patterns of any
binary format, with the results an x86-64 processor gives: every finite result is the
exact value rounded once (`FloatFormat.roundRat`); a NaN operand is returned quieted, the
first one if both are NaNs; an invalid operation gives `FloatFormat.defaultNaN`.

`F32` and `F64` wrap the patterns of single and double precision in fixed-width words.
-/

namespace RoverKernel

namespace FloatFormat

/-- a signed integer from a sign flag and a magnitude -/
def signedInt (neg : Bool) (m : Nat) : Int := if neg then -(m : Int) else m

/-- sum of two patterns -/
def add (f : FloatFormat) (a b : Nat) : Nat :=
  match f.classify a, f.classify b with
  | .nan, _ => f.quiet a
  | _, .nan => f.quiet b
  | .infinite, .infinite => if f.isNegative a == f.isNegative b then a else f.defaultNaN
  | .infinite, _ => a
  | _, .infinite => b
  | .finite ma ea, .finite mb eb =>
    let e := min ea eb
    let s := signedInt (f.isNegative a) (ma * Nat.pow 2 (ea - e).toNat)
      + signedInt (f.isNegative b) (mb * Nat.pow 2 (eb - e).toNat)
    if s = 0 then f.signOf (f.isNegative a && f.isNegative b)
    else f.roundRat (s < 0) s.natAbs 1 e

/-- difference of two patterns: the sum with the negated second operand, except that a NaN
operand is returned as it is -/
def sub (f : FloatFormat) (a b : Nat) : Nat :=
  if f.isNaN a then f.quiet a
  else if f.isNaN b then f.quiet b
  else f.add a (f.negate b)

/-- product of two patterns -/
def mul (f : FloatFormat) (a b : Nat) : Nat :=
  let neg := f.isNegative a != f.isNegative b
  match f.classify a, f.classify b with
  | .nan, _ => f.quiet a
  | _, .nan => f.quiet b
  | .infinite, .finite 0 _ => f.defaultNaN
  | .finite 0 _, .infinite => f.defaultNaN
  | .infinite, _ => f.signOf neg + f.infBits
  | _, .infinite => f.signOf neg + f.infBits
  | .finite ma ea, .finite mb eb => f.roundRat neg (ma * mb) 1 (ea + eb)

/-- quotient of two patterns -/
def div (f : FloatFormat) (a b : Nat) : Nat :=
  let neg := f.isNegative a != f.isNegative b
  match f.classify a, f.classify b with
  | .nan, _ => f.quiet a
  | _, .nan => f.quiet b
  | .infinite, .infinite => f.defaultNaN
  | .infinite, _ => f.signOf neg + f.infBits
  | _, .infinite => f.signOf neg
  | .finite 0 _, .finite 0 _ => f.defaultNaN
  | .finite _ _, .finite 0 _ => f.signOf neg + f.infBits
  | .finite ma ea, .finite mb eb => f.roundRat neg ma mb (ea - eb)

/-- the ordering of two patterns as numbers, `none` when either is a NaN.  Both zeros are
equal. -/
def compare (f : FloatFormat) (a b : Nat) : Option Ordering :=
  match f.classify a, f.classify b with
  | .nan, _ => none
  | _, .nan => none
  | .infinite, .infinite =>
    some (Ord.compare (!f.isNegative a) (!f.isNegative b))
  | .infinite, _ => some (if f.isNegative a then .lt else .gt)
  | _, .infinite => some (if f.isNegative b then .gt else .lt)
  | .finite ma ea, .finite mb eb =>
    let e := min ea eb
    some (Ord.compare (signedInt (f.isNegative a) (ma * Nat.pow 2 (ea - e).toNat))
      (signedInt (f.isNegative b) (mb * Nat.pow 2 (eb - e).toNat)))

/-- `a < b` as IEEE comparison: false when either is a NaN -/
def lt (f : FloatFormat) (a b : Nat) : Bool := f.compare a b == some .lt

/-- `a ≤ b` as IEEE comparison: false when either is a NaN -/
def le (f : FloatFormat) (a b : Nat) : Bool :=
  f.compare a b == some .lt || f.compare a b == some .eq

/-- the pattern nearest to an integer -/
def ofInt (f : FloatFormat) (i : Int) : Nat := f.roundRat (i < 0) i.natAbs 1 0

/-- converts a pattern of format `f` to format `g`: finite values are rounded, NaNs keep
their sign and the top bits of their payload and become quiet -/
def convert (f g : FloatFormat) (b : Nat) : Nat :=
  let neg := f.isNegative b
  match f.classify b with
  | .nan =>
    let payload := if f.fractionBits ≤ g.fractionBits
      then f.fraction b * Nat.pow 2 (g.fractionBits - f.fractionBits)
      else f.fraction b / Nat.pow 2 (f.fractionBits - g.fractionBits)
    g.quiet (g.signOf neg + g.infBits + payload)
  | .infinite => g.signOf neg + g.infBits
  | .finite m e => g.roundRat neg m 1 e

/-- rounds to an integral value, halfway cases away from zero; NaNs, infinities and
integers are kept -/
def roundHalfAway (f : FloatFormat) (b : Nat) : Nat :=
  match f.classify b with
  | .nan => f.quiet b
  | .infinite => b
  | .finite m e =>
    if 0 ≤ e then b
    else
      let unit := Nat.pow 2 (-e).toNat
      let q := m / unit
      let q := if unit ≤ 2 * (m % unit) then q + 1 else q
      f.roundRat (f.isNegative b) q 1 0

/-- conversion to an unsigned integer below `bound` as a saturating cast does it: NaNs and
negative values give `0`, values past the range give `bound - 1`, others are truncated -/
def toNatSat (f : FloatFormat) (b bound : Nat) : Nat :=
  match f.classify b with
  | .nan => 0
  | .infinite => if f.isNegative b then 0 else bound - 1
  | .finite m e =>
    if f.isNegative b then 0
    else
      let v := if 0 ≤ e then m * Nat.pow 2 e.toNat else m / Nat.pow 2 (-e).toNat
      min v (bound - 1)

end FloatFormat

/-- a single-precision value, kept as its bit pattern -/
structure F32 where
  /-- the IEEE 754 binary32 pattern -/
  bits : UInt32
deriving DecidableEq, Repr, Inhabited

/-- a double-precision value, kept as its bit pattern -/
structure F64 where
  /-- the IEEE 754 binary64 pattern -/
  bits : UInt64
deriving DecidableEq, Repr, Inhabited

namespace F32

def toNat (x : F32) : Nat := x.bits.toNat

/-- the value with the given pattern (taken modulo `2 ^ 32`) -/
def ofNat (n : Nat) : F32 := ⟨UInt32.ofNat n⟩

def zero : F32 := ofNat 0

/-- the quiet NaN with clear sign -/
def nan : F32 := ofNat FloatFormat.binary32.canonicalNaN

def infinity : F32 := ofNat FloatFormat.binary32.infBits

instance : Add F32 := ⟨fun a b => ofNat (FloatFormat.binary32.add a.toNat b.toNat)⟩
instance : Sub F32 := ⟨fun a b => ofNat (FloatFormat.binary32.sub a.toNat b.toNat)⟩
instance : Mul F32 := ⟨fun a b => ofNat (FloatFormat.binary32.mul a.toNat b.toNat)⟩
instance : Div F32 := ⟨fun a b => ofNat (FloatFormat.binary32.div a.toNat b.toNat)⟩
instance : Neg F32 := ⟨fun a => ofNat (FloatFormat.binary32.negate a.toNat)⟩

/-- IEEE `<` -/
def lt (a b : F32) : Bool := FloatFormat.binary32.lt a.toNat b.toNat

/-- IEEE `≤` -/
def le (a b : F32) : Bool := FloatFormat.binary32.le a.toNat b.toNat

/-- IEEE equality: NaNs differ from everything, the two zeros are equal -/
def eq (a b : F32) : Bool := FloatFormat.binary32.compare a.toNat b.toNat == some .eq

def isNaN (a : F32) : Bool := FloatFormat.binary32.isNaN a.toNat

/-- the nearest value to an integer -/
def ofInt (i : Int) : F32 := ofNat (FloatFormat.binary32.ofInt i)

/-- the little-endian bytes of the pattern -/
def toBytes (x : F32) : List UInt8 :=
  [x.toNat % 256, x.toNat / 256 % 256, x.toNat / 65536 % 256, x.toNat / 16777216 % 256].map
    UInt8.ofNat

/-- the value whose pattern has the little-endian bytes `b0 b1 b2 b3` -/
def ofBytes (b0 b1 b2 b3 : UInt8) : F32 :=
  ofNat (b0.toNat + 256 * b1.toNat + 65536 * b2.toNat + 16777216 * b3.toNat)

/-- any four bytes are the bytes of the value they spell -/
theorem toBytes_ofBytes (b0 b1 b2 b3 : UInt8) : (ofBytes b0 b1 b2 b3).toBytes = [b0, b1, b2, b3] := by
  have h0 := b0.toNat_lt
  have h1 := b1.toNat_lt
  have h2 := b2.toNat_lt
  have h3 := b3.toNat_lt
  have hn : (ofBytes b0 b1 b2 b3).toNat =
      b0.toNat + 256 * b1.toNat + 65536 * b2.toNat + 16777216 * b3.toNat := by
    simp only [ofBytes, ofNat, toNat, UInt32.toNat_ofNat']
    omega
  simp only [toBytes, hn, List.map_cons, List.map_nil, List.cons.injEq]
  refine ⟨?_, ?_, ?_, ?_, trivial⟩ <;> apply UInt8.toNat_inj.mp <;>
    simp only [UInt8.toNat_ofNat'] <;> omega

end F32

namespace F64

def toNat (x : F64) : Nat := x.bits.toNat

/-- the value with the given pattern (taken modulo `2 ^ 64`) -/
def ofNat (n : Nat) : F64 := ⟨UInt64.ofNat n⟩

instance : Add F64 := ⟨fun a b => ofNat (FloatFormat.binary64.add a.toNat b.toNat)⟩
instance : Sub F64 := ⟨fun a b => ofNat (FloatFormat.binary64.sub a.toNat b.toNat)⟩
instance : Mul F64 := ⟨fun a b => ofNat (FloatFormat.binary64.mul a.toNat b.toNat)⟩
instance : Div F64 := ⟨fun a b => ofNat (FloatFormat.binary64.div a.toNat b.toNat)⟩

/-- IEEE `≤` -/
def le (a b : F64) : Bool := FloatFormat.binary64.le a.toNat b.toNat

/-- the nearest value to an integer -/
def ofInt (i : Int) : F64 := ofNat (FloatFormat.binary64.ofInt i)

/-- rounds to an integral value, halfway cases away from zero -/
def round (x : F64) : F64 := ofNat (FloatFormat.binary64.roundHalfAway x.toNat)

/-- the saturating cast to an unsigned integer below `bound` -/
def toNatSat (x : F64) (bound : Nat) : Nat := FloatFormat.binary64.toNatSat x.toNat bound

/-- the single-precision value nearest to this one -/
def toF32 (x : F64) : F32 :=
  F32.ofNat (FloatFormat.convert FloatFormat.binary64 FloatFormat.binary32 x.toNat)

end F64

/-- the double-precision value equal to a single-precision one -/
def F32.toF64 (x : F32) : F64 :=
  F64.ofNat (FloatFormat.convert FloatFormat.binary32 FloatFormat.binary64 x.toNat)

end RoverKernel
