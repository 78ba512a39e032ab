import RoverKernel.Float.Arith

/-!
# Decimal text of floating-point values

Reading: `FloatLiteral.parse` accepts the usual grammar of decimal floating-point text (an
optional sign, then `inf`, `infinity` or `nan` in any letter case, or digits with at most
one point and an optional exponent) and `FloatFormat.ofDecimal` rounds the exact decimal
value once, ties to even.

Writing: `FloatFormat.shortestDigits` finds the fewest significant digits that read back as
the same value, choosing the nearer of the two candidates at that length, halfway cases
upwards.  `F32.display` lays those digits out as plain text and `F32.debug` as debug text,
which always shows a fractional digit and turns scientific for very large or small values.
-/

namespace RoverKernel

/-- number of decimal digits of a natural number (`1` for `0`) -/
def digitCount (n : Nat) : Nat :=
  if h : n < 10 then 1 else digitCount (n / 10) + 1
termination_by n
decreasing_by omega

/-- `⌊log₁₀ (n / d)⌋` for positive `n` and `d`, found like `floorLog2Ratio` -/
def floorLog10Ratio (n d : Nat) : Int :=
  let l : Int := (digitCount n : Int) - digitCount d
  if 0 ≤ l then
    if d * Nat.pow 10 l.toNat ≤ n then l else l - 1
  else
    if d ≤ n * Nat.pow 10 (-l).toNat then l else l - 1

/-- `x * 10 ^ k` as a numerator and a denominator -/
def pow10Ratio (x : Nat) (k : Int) : Nat × Nat :=
  if 0 ≤ k then (x * Nat.pow 10 k.toNat, 1) else (x, Nat.pow 10 (-k).toNat)

namespace FloatFormat

/-- the pattern nearest to `± m * 10 ^ k`.  Values with more than 400 digits before the
point overflow and values below `10 ^ -400` vanish in every binary format up to double
precision, so only moderate powers of ten are ever built. -/
def ofDecimal (f : FloatFormat) (neg : Bool) (m : Nat) (k : Int) : Nat :=
  if m = 0 then f.signOf neg
  else if 400 < (digitCount m : Int) - 1 + k then f.signOf neg + f.infBits
  else if (digitCount m : Int) + k < -400 then f.signOf neg
  else
    let (n, d) := pow10Ratio m k
    f.roundRat neg n d 0

end FloatFormat

/-- a floating-point literal -/
inductive FloatLiteral where
  /-- `inf` or `infinity` -/
  | infinity (negative : Bool)
  | nan (negative : Bool)
  /-- the value `mantissa * 10 ^ exp10` -/
  | number (negative : Bool) (mantissa : Nat) (exp10 : Int)
deriving DecidableEq, Repr

namespace FloatLiteral

/-- the value of a list of decimal digits -/
def digitsValue (ds : List Char) : Nat :=
  ds.foldl (fun acc c => 10 * acc + (c.toNat - '0'.toNat)) 0

/-- the exponent part after `e` or `E`: an optional sign and at least one digit, and
nothing after them -/
def parseExponent (cs : List Char) : Option Int :=
  let (neg, rest) := match cs with
    | '+' :: rest => (false, rest)
    | '-' :: rest => (true, rest)
    | rest => (false, rest)
  if rest.isEmpty || !rest.all Char.isDigit then none
  else
    let v : Int := digitsValue rest
    some (if neg then -v else v)

/-- the unsigned part of a literal -/
def parseUnsigned (negative : Bool) (cs : List Char) : Option FloatLiteral :=
  let lower := String.ofList (cs.map Char.toLower)
  if lower == "inf" || lower == "infinity" then some (.infinity negative)
  else if lower == "nan" then some (.nan negative)
  else
    let intDigits := cs.takeWhile Char.isDigit
    let rest := cs.dropWhile Char.isDigit
    let (fracDigits, rest) := match rest with
      | '.' :: more => (more.takeWhile Char.isDigit, more.dropWhile Char.isDigit)
      | _ => ([], rest)
    let pointOnly := intDigits.isEmpty && fracDigits.isEmpty
    if pointOnly then none
    else
      let exp : Option Int := match rest with
        | [] => some 0
        | c :: more => if c == 'e' || c == 'E' then parseExponent more else none
      exp.map fun e =>
        .number negative (digitsValue (intDigits ++ fracDigits)) (e - fracDigits.length)

/-- reads a whole string as a float literal -/
def parse (cs : List Char) : Option FloatLiteral :=
  match cs with
  | '+' :: rest => if rest.isEmpty then none else parseUnsigned false rest
  | '-' :: rest => if rest.isEmpty then none else parseUnsigned true rest
  | _ => if cs.isEmpty then none else parseUnsigned false cs

/-- the pattern of a literal in format `f` -/
def toBits (f : FloatFormat) : FloatLiteral → Nat
  | .infinity neg => f.signOf neg + f.infBits
  | .nan neg => f.signOf neg + f.canonicalNaN
  | .number neg m k => f.ofDecimal neg m k

end FloatLiteral

/-- reads a single-precision value, rounding the literal's exact value once -/
def F32.parse (s : String) : Option F32 :=
  (FloatLiteral.parse s.toList).map fun lit =>
    F32.ofNat (lit.toBits FloatFormat.binary32)

/-- the single-precision value nearest to `± m * 10 ^ k` -/
def F32.ofDecimal (neg : Bool) (m : Nat) (k : Int) : F32 :=
  F32.ofNat (FloatFormat.binary32.ofDecimal neg m k)

/-- the double-precision value nearest to `± m * 10 ^ k` -/
def F64.ofDecimal (neg : Bool) (m : Nat) (k : Int) : F64 :=
  F64.ofNat (FloatFormat.binary64.ofDecimal neg m k)

namespace FloatFormat

/-- for a positive finite value `mant * 2 ^ exp`, the shortest digits `d` and exponent `k`
with `d * 10 ^ k` inside its rounding interval (ends included when `mant` is even), so that
reading `d * 10 ^ k` back gives the same value.  The interval reaches half a last place to
each side, except below a power of two, where the gap to the next smaller value is half as
wide.  At each length the candidates are the value's digits cut there and that plus one;
the nearer one in the interval is taken, halfway cases upwards. -/
def shortestDigits (f : FloatFormat) (mant : Nat) (exp : Int) : Nat × Int :=
  let narrowBelow := mant == Nat.pow 2 f.fractionBits && exp != f.minUlpExp
  -- value, interval ends, all as multiples of 2 ^ (exp - 2)
  let v := 4 * mant
  let hi := 4 * mant + 2
  let lo := if narrowBelow then 4 * mant - 1 else 4 * mant - 2
  let inclusive := mant % 2 == 0
  let (vn, vd) := scaleRatio v 1 (exp - 2)
  let top := floorLog10Ratio vn vd
  let attempt (len : Nat) : Option (Nat × Int) :=
    let k := top - len + 1
    -- compare `c * 10 ^ k` with `x * 2 ^ (exp - 2)` over the common denominator
    let (pn, pd) := pow10Ratio 1 k
    let (qn, qd) := scaleRatio 1 1 (exp - 2)
    let at10 (c : Nat) : Nat := c * pn * qd
    let at2 (x : Nat) : Nat := x * qn * pd
    let c0 := at2 v / (pn * qd)
    let rem := at2 v - at10 c0
    let downOk := if inclusive then at2 lo ≤ at10 c0 else at2 lo < at10 c0
    let upOk := if inclusive then at10 (c0 + 1) ≤ at2 hi else at10 (c0 + 1) < at2 hi
    if downOk && upOk then
      some (if pn * qd ≤ 2 * rem then c0 + 1 else c0, k)
    else if downOk then some (c0, k)
    else if upOk then some (c0 + 1, k)
    else none
  match (List.range 40).findSome? (fun i => attempt (i + 1)) with
  | some r => r
  | none => (mant, 0)

end FloatFormat

/-- drops the trailing zeros of `d * 10 ^ k`, raising `k` -/
def stripTrailingZeros (d : Nat) (k : Int) : Nat × Int :=
  if h : d ≠ 0 ∧ d % 10 = 0 then stripTrailingZeros (d / 10) (k + 1) else (d, k)
termination_by d
decreasing_by omega

/-- digits of a decimal value: `digits` with the point `pointPos` places from the left
(so the value is `0.digits * 10 ^ pointPos`) -/
structure DecimalDigits where
  /-- significant digits, the first one non-zero -/
  digits : String
  /-- position of the decimal point relative to the first digit -/
  pointPos : Int
deriving DecidableEq, Repr

namespace DecimalDigits

/-- the shortest digits of a positive finite value `mant * 2 ^ exp` in format `f` -/
def shortest (f : FloatFormat) (mant : Nat) (exp : Int) : DecimalDigits :=
  let (d, k) := f.shortestDigits mant exp
  let (d, k) := stripTrailingZeros d k
  let s := toString d
  ⟨s, k + s.length⟩

/-- plain decimal notation with at least `minFrac` digits after the point -/
def plain (x : DecimalDigits) (minFrac : Nat) : String :=
  let n := x.digits.length
  let zeros (k : Nat) : String := String.ofList (List.replicate k '0')
  if x.pointPos ≤ 0 then
    let body := zeros (-x.pointPos).toNat ++ x.digits
    "0." ++ body ++ zeros (minFrac - body.length)
  else if x.pointPos < n then
    let p := x.pointPos.toNat
    let frac := (x.digits.drop p).toString
    (x.digits.take p).toString ++ "." ++ frac ++ zeros (minFrac - frac.length)
  else
    let whole := x.digits ++ zeros (x.pointPos.toNat - n)
    if minFrac = 0 then whole else whole ++ "." ++ zeros minFrac

/-- scientific notation `d.ddde±x` without a plus sign on the exponent -/
def scientific (x : DecimalDigits) : String :=
  let first := (x.digits.take 1).toString
  let rest := (x.digits.drop 1).toString
  let mant := if rest.isEmpty then first else first ++ "." ++ rest
  mant ++ "e" ++ toString (x.pointPos - 1)

end DecimalDigits

namespace F32

def abs (x : F32) : F32 := ofNat (FloatFormat.binary32.magnitude x.toNat)

/-- the plain text of a single-precision value: the shortest digits in plain notation, `-` on every negative
value including `-0`, and `NaN`, `inf`, `-inf` -/
def display (x : F32) : String :=
  let f := FloatFormat.binary32
  let sign := if f.isNegative x.toNat then "-" else ""
  match f.classify x.toNat with
  | .nan => "NaN"
  | .infinite => sign ++ "inf"
  | .finite 0 _ => sign ++ "0"
  | .finite m e => sign ++ (DecimalDigits.shortest f m e).plain 0

/-- the debug text of a single-precision value: plain notation with at least one fractional digit, or
scientific notation for non-zero magnitudes at or above `1e16` or below `1e-4` -/
def debug (x : F32) : String :=
  let f := FloatFormat.binary32
  let sign := if f.isNegative x.toNat then "-" else ""
  let big := ofNat ((FloatLiteral.number false 1 16).toBits f)
  let small := ofNat ((FloatLiteral.number false 1 (-4)).toBits f)
  match f.classify x.toNat with
  | .nan => "NaN"
  | .infinite => sign ++ "inf"
  | .finite 0 _ => sign ++ "0.0"
  | .finite m e =>
    let ds := DecimalDigits.shortest f m e
    if big.le x.abs || x.abs.lt small then sign ++ ds.scientific
    else sign ++ ds.plain 1

end F32

/-- the plain text of a double-precision value: the shortest digits in plain notation, as for `F32.display` -/
def F64.display (x : F64) : String :=
  let f := FloatFormat.binary64
  let sign := if f.isNegative x.toNat then "-" else ""
  match f.classify x.toNat with
  | .nan => "NaN"
  | .infinite => sign ++ "inf"
  | .finite 0 _ => sign ++ "0"
  | .finite m e => sign ++ (DecimalDigits.shortest f m e).plain 0

end RoverKernel
