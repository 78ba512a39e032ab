/-!
# Binary floating-point formats

An IEEE 754 binary interchange format is fixed by the widths of its fraction and exponent
fields.  A value is handled as its bit pattern, a natural number below `2 ^ width`.
`FloatFormat.classify` reads a pattern as a NaN, an infinity or an exact finite value
`mant * 2 ^ exp`; `FloatFormat.roundRat` maps an exact rational back to the nearest pattern,
ties to even, overflowing to infinity and keeping the sign of a zero.

Everything is natural-number arithmetic, so the kernel can evaluate every value here: the
decimal parser, the arithmetic and the printer of the neighbouring modules are all built on
these two functions.
-/

namespace RoverKernel

/-- an IEEE 754 binary interchange format, given by its field widths -/
structure FloatFormat where
  /-- stored fraction bits: 23 for binary32, 52 for binary64 -/
  fractionBits : Nat
  /-- exponent field bits: 8 for binary32, 11 for binary64 -/
  exponentBits : Nat
deriving DecidableEq, Repr

/-- what a bit pattern denotes -/
inductive FloatClass where
  /-- not a number -/
  | nan
  /-- an infinity -/
  | infinite
  /-- the finite value `mant * 2 ^ exp`; zero has `mant = 0` -/
  | finite (mant : Nat) (exp : Int)
deriving DecidableEq, Repr

namespace FloatFormat

def binary32 : FloatFormat := ⟨23, 8⟩

def binary64 : FloatFormat := ⟨52, 11⟩

/-- significand precision, the hidden bit included -/
def precision (f : FloatFormat) : Nat := f.fractionBits + 1

def bias (f : FloatFormat) : Nat := Nat.pow 2 (f.exponentBits - 1) - 1

/-- the all-ones exponent field of infinities and NaNs -/
def maxField (f : FloatFormat) : Nat := Nat.pow 2 f.exponentBits - 1

/-- weight of the sign bit -/
def signBit (f : FloatFormat) : Nat := Nat.pow 2 (f.exponentBits + f.fractionBits)

/-- weight of the quiet bit, the top fraction bit of a NaN -/
def quietBit (f : FloatFormat) : Nat := Nat.pow 2 (f.fractionBits - 1)

/-- exponent of one unit in the last place of subnormals and of the smallest normals -/
def minUlpExp (f : FloatFormat) : Int := 1 - (f.bias : Int) - f.fractionBits

def infBits (f : FloatFormat) : Nat := f.maxField * Nat.pow 2 f.fractionBits

/-- the NaN an x86 processor produces for an invalid operation such as `0 * inf`:
sign set, quiet, empty payload -/
def defaultNaN (f : FloatFormat) : Nat := f.signBit + f.infBits + f.quietBit

/-- the quiet NaN with clear sign and empty payload -/
def canonicalNaN (f : FloatFormat) : Nat := f.infBits + f.quietBit

def isNegative (f : FloatFormat) (b : Nat) : Bool := b / f.signBit % 2 == 1

def exponentField (f : FloatFormat) (b : Nat) : Nat := b / Nat.pow 2 f.fractionBits % Nat.pow 2 f.exponentBits

def fraction (f : FloatFormat) (b : Nat) : Nat := b % Nat.pow 2 f.fractionBits

/-- the pattern with the sign bit cleared -/
def magnitude (f : FloatFormat) (b : Nat) : Nat := b % f.signBit

/-- the sign bit of a pattern, as a weight to add -/
def signOf (f : FloatFormat) (neg : Bool) : Nat := if neg then f.signBit else 0

/-- reads a pattern -/
def classify (f : FloatFormat) (b : Nat) : FloatClass :=
  let field := f.exponentField b
  let frac := f.fraction b
  if field = f.maxField then
    if frac = 0 then .infinite else .nan
  else if field = 0 then
    .finite frac f.minUlpExp
  else
    .finite (frac + Nat.pow 2 f.fractionBits) (f.minUlpExp + field - 1)

def isNaN (f : FloatFormat) (b : Nat) : Bool := f.classify b == .nan

/-- the same pattern with the quiet bit set -/
def quiet (f : FloatFormat) (b : Nat) : Nat := b ||| f.quietBit

/-- the pattern with the sign bit flipped -/
def negate (f : FloatFormat) (b : Nat) : Nat :=
  if f.isNegative b then b - f.signBit else b + f.signBit

end FloatFormat

/-- `⌊log₂ (n / d)⌋` for positive `n` and `d`.  With `2 ^ a ≤ n < 2 ^ (a + 1)` and
`2 ^ b ≤ d < 2 ^ (b + 1)` the answer is `a - b` or `a - b - 1`; one comparison decides. -/
def floorLog2Ratio (n d : Nat) : Int :=
  let l : Int := (n.log2 : Int) - d.log2
  if 0 ≤ l then
    if d * Nat.pow 2 l.toNat ≤ n then l else l - 1
  else
    if d ≤ n * Nat.pow 2 (-l).toNat then l else l - 1

/-- rounds `q + r / den` (with `r < den`) to an integer, ties to the even one -/
def roundHalfEven (q r den : Nat) : Nat :=
  if den < 2 * r ∨ (2 * r = den ∧ q % 2 = 1) then q + 1 else q

/-- `n / d * 2 ^ s` as a numerator and a denominator, both natural numbers -/
def scaleRatio (n d : Nat) (s : Int) : Nat × Nat :=
  if 0 ≤ s then (n * Nat.pow 2 s.toNat, d) else (n, d * Nat.pow 2 (-s).toNat)

namespace FloatFormat

/-- assembles a pattern from a sign, a significand below `2 ^ precision` and the exponent
of its last place.  A significand below `2 ^ fractionBits` is a subnormal (its exponent is
then `minUlpExp`); an exponent field that reaches `maxField` overflows to infinity. -/
def pack (f : FloatFormat) (neg : Bool) (m : Nat) (ulp : Int) : Nat :=
  if m < Nat.pow 2 f.fractionBits then
    f.signOf neg + m
  else
    let field := ulp - f.minUlpExp + 1
    if (f.maxField : Int) ≤ field then
      f.signOf neg + f.infBits
    else
      f.signOf neg + field.toNat * Nat.pow 2 f.fractionBits + (m - Nat.pow 2 f.fractionBits)

/-- the pattern nearest to `± n / d * 2 ^ e` (`d > 0`), ties to even.

The last place is placed at `max (⌊log₂ x⌋ - fractionBits) minUlpExp`, so the scaled value
has `precision` integer bits for normals and fewer for subnormals.  Rounding may carry the
significand to `2 ^ precision`; it is then halved and the last place moves up by one. -/
def roundRat (f : FloatFormat) (neg : Bool) (n d : Nat) (e : Int) : Nat :=
  if n = 0 then f.signOf neg else
  let ulp := max (floorLog2Ratio n d + e - f.fractionBits) f.minUlpExp
  let (num, den) := scaleRatio n d (e - ulp)
  let m := roundHalfEven (num / den) (num % den) den
  if m = Nat.pow 2 f.precision then
    f.pack neg (Nat.pow 2 f.fractionBits) (ulp + 1)
  else
    f.pack neg m ulp

end FloatFormat

end RoverKernel
