/-!
# UTF-8 decoding

`Utf8.units` reads a byte string step by step: each step yields either a scalar value or
one maximal invalid sequence of one to three bytes, the bytes consumed before the byte that
broke the sequence.  Strict decoding (`Utf8.decode?`) succeeds when no step is invalid;
lossy decoding (`Utf8.decodeLossy`) writes U+FFFD for each invalid step.
-/

namespace RoverKernel

namespace Utf8

/-- a continuation byte `10xxxxxx` -/
def isCont (b : UInt8) : Bool := 0x80 ≤ b && b ≤ 0xBF

/-- the low six bits of a continuation byte -/
def low6 (b : UInt8) : Nat := b.toNat % 64

/-- whether the second byte of a three-byte sequence is allowed after the lead byte
(no overlong forms, no surrogates) -/
def secondOf3Ok (lead b : UInt8) : Bool :=
  if lead == 0xE0 then 0xA0 ≤ b && b ≤ 0xBF
  else if lead == 0xED then 0x80 ≤ b && b ≤ 0x9F
  else isCont b

/-- whether the second byte of a four-byte sequence is allowed after the lead byte
(no overlong forms, nothing past U+10FFFF) -/
def secondOf4Ok (lead b : UInt8) : Bool :=
  if lead == 0xF0 then 0x90 ≤ b && b ≤ 0xBF
  else if lead == 0xF4 then 0x80 ≤ b && b ≤ 0x8F
  else isCont b

/-- the first step of reading `b :: rest`: a scalar value, or `none` for an invalid
sequence, with the number of bytes the step consumed (one to four) -/
def step (b : UInt8) (rest : List UInt8) : Option Char × Nat :=
  let c1 := rest.headD 0
  let c2 := (rest.drop 1).headD 0
  let c3 := (rest.drop 2).headD 0
  if b < 0x80 then (some (Char.ofNat b.toNat), 1)
  else if 0xC2 ≤ b && b ≤ 0xDF then
    if isCont c1 then (some (Char.ofNat ((b.toNat % 32) * 64 + low6 c1)), 2) else (none, 1)
  else if 0xE0 ≤ b && b ≤ 0xEF then
    if !secondOf3Ok b c1 then (none, 1)
    else if !isCont c2 then (none, 2)
    else (some (Char.ofNat ((b.toNat % 16) * 4096 + low6 c1 * 64 + low6 c2)), 3)
  else if 0xF0 ≤ b && b ≤ 0xF4 then
    if !secondOf4Ok b c1 then (none, 1)
    else if !isCont c2 then (none, 2)
    else if !isCont c3 then (none, 3)
    else (some (Char.ofNat ((b.toNat % 8) * 262144 + low6 c1 * 4096 + low6 c2 * 64
      + low6 c3)), 4)
  else (none, 1)

/-- the steps of reading a byte string: `some c` for a scalar value, `none` for a maximal
invalid sequence.  A missing byte at the end reads as `0`, which continues no sequence. -/
def units (bs : List UInt8) : List (Option Char) :=
  match bs with
  | [] => []
  | b :: rest =>
    let (u, n) := step b rest
    u :: units ((b :: rest).drop (max n 1))
termination_by bs.length
decreasing_by simp only [List.length_drop, List.length_cons]; omega

/-- the characters, when the bytes are valid UTF-8 -/
def decode? (bs : List UInt8) : Option (List Char) :=
  (units bs).mapM id

/-- the characters, every maximal invalid sequence replaced by U+FFFD -/
def decodeLossy (bs : List UInt8) : List Char :=
  (units bs).map fun u => u.getD '\uFFFD'

/-- the UTF-8 encoding of a character -/
def encodeChar (c : Char) : List UInt8 :=
  let n := c.toNat
  if n < 0x80 then [UInt8.ofNat n]
  else if n < 0x800 then [UInt8.ofNat (0xC0 + n / 64), UInt8.ofNat (0x80 + n % 64)]
  else if n < 0x10000 then
    [UInt8.ofNat (0xE0 + n / 4096), UInt8.ofNat (0x80 + n / 64 % 64), UInt8.ofNat (0x80 + n % 64)]
  else
    [UInt8.ofNat (0xF0 + n / 262144), UInt8.ofNat (0x80 + n / 4096 % 64),
      UInt8.ofNat (0x80 + n / 64 % 64), UInt8.ofNat (0x80 + n % 64)]

/-- the UTF-8 encoding of a string -/
def encode (cs : List Char) : List UInt8 := cs.flatMap encodeChar

end Utf8

end RoverKernel
