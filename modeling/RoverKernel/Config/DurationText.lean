import RoverKernel.Time
import RoverKernel.Text.Unicode
import RoverKernel.Text.Escape

/-!
# Durations written for people

Configuration files and the command line give durations as text such as `"100ms"`,
`"1h 30m"`, `"1.5s"` or `"2days"`: numbers, each followed by a unit, white space allowed
between and inside the items.  `Duration.parseText` reads that syntax and
`Duration.toText` writes a duration back in it, the largest units first.

The reader works on the character list with the byte offset of its head, because its error
messages point into the text by byte offset.  It has three phases, each a total function of
its own: `DurationText.numberPart` reads the number of an item, `DurationText.unitPart` its
unit, and `DurationText.firstDigit` finds the start of the next item.  A month is 30.44 days
and a year 365.25 days, so that writing and reading a duration gives it back unchanged.

A number may have a fractional part `num / 10 ^ digits`, where `10 ^ digits` must fit in
64 bits.  Its value must be exact at the unit's grain: the nanosecond for the units from the
microsecond to the minute (`num` times the unit's nanoseconds must fit in 64 bits), the second
for the hour and above.  The nanosecond takes no fraction at all.  So `1.5s`, `0.01m` and
`0.5d` read, while `1.0ns`, `1.2345us` and `0.0001h` (0.36 seconds) are refused.  A point
must be followed by a digit or white space, and a digit must come after it before the unit.

The running total is a duration.  An item adds its whole part and then its fractional part,
each as seconds and nanoseconds (`DurationText.accumulate`): nanoseconds beyond one second are
carried with a check against 64 bits, but a total of exactly one second of nanoseconds is
carried only when the duration is rebuilt, which stops the program when the seconds are
already the largest 64-bit count.
-/

namespace RoverKernel

/-- why a duration text was refused; offsets count bytes of the UTF-8 text -/
inductive DurationSyntaxError where
  /-- a character that belongs to no number and no unit -/
  | invalidCharacter (offset : Nat)
  /-- something other than a digit where an item or a fractional part must start -/
  | numberExpected (offset : Nat)
  /-- a unit that is not known; an empty unit means the number had none -/
  | unknownUnit (unit : String) (value : Nat)
  /-- a number or a total beyond 64 bits, or a fraction the unit cannot hold exactly -/
  | numberOverflow
  /-- nothing but white space -/
  | empty
deriving DecidableEq, Repr

def DurationSyntaxError.message : DurationSyntaxError → String
  | .invalidCharacter o => s!"invalid character at {o}"
  | .numberExpected o => s!"expected number at {o}"
  | .unknownUnit u v =>
    if u.isEmpty then s!"time unit needed, for example {v}sec or {v}ms"
    else "unknown time unit " ++ Escape.debugStr u.toList ++ ", supported units: ns, us/µs, ms, "
      ++ "sec, min, hours, days, weeks, months, years (and few variations)"
  | .numberOverflow =>
    "number is too large or cannot be represented without a lack of precision " ++
      "(values below 1ns are not supported)"
  | .empty => "value was empty"

/-- what reading a duration text gives: the duration, a refusal, or the total whose carried
nanoseconds push the seconds past 64 bits, on which the reader stops the program with the
message `overflow in Duration::new` -/
inductive DurationReading where
  | ok (d : Duration)
  /-- the text is refused -/
  | refused (e : DurationSyntaxError)
  /-- building the duration overflows -/
  | overflow
deriving DecidableEq, Repr

namespace DurationText

def second : Nat := 1000000000

/-- what one of a unit adds to a duration, and the grain its fractions are counted in -/
inductive UnitWeight where
  /-- a sub-second unit of `k` nanoseconds; its fractions count nanoseconds -/
  | nanos (k : Nat)
  /-- the second or the minute, `k` seconds; its fractions count nanoseconds -/
  | fine (k : Nat)
  /-- a unit of `k` seconds from the hour up; its fractions count whole seconds -/
  | coarse (k : Nat)
deriving DecidableEq, Repr

/-- the weight of a unit.  Units are case-sensitive: `m` is a minute and `M` a month. -/
def unitWeight : String → Option UnitWeight
  | "nanos" | "nsec" | "ns" => some (.nanos 1)
  | "usec" | "us" | "µs" => some (.nanos 1000)
  | "millis" | "msec" | "ms" => some (.nanos 1000000)
  | "seconds" | "second" | "secs" | "sec" | "s" => some (.fine 1)
  | "minutes" | "minute" | "min" | "mins" | "m" => some (.fine 60)
  | "hours" | "hour" | "hr" | "hrs" | "h" => some (.coarse 3600)
  | "days" | "day" | "d" => some (.coarse 86400)
  | "weeks" | "week" | "wk" | "wks" | "w" => some (.coarse 604800)
  | "months" | "month" | "M" => some (.coarse 2630016)
  | "years" | "year" | "yr" | "yrs" | "y" => some (.coarse 31557600)
  | _ => none

/-- a letter that may appear in a unit: an ASCII letter or the micro sign -/
def isUnitLetter (c : Char) : Bool := c.isAlpha || c = 'µ'

/-- `x` when it fits in 64 bits -/
def checked (x : Nat) : Except DurationSyntaxError Nat :=
  if x ≤ u64Max then .ok x else .error .numberOverflow

/-- the exact quotient of `num * k` by `10 ^ digits`, the product checked against 64 bits -/
def exactShare (num digits k : Nat) : Except DurationSyntaxError Nat := do
  let scaled ← checked (num * k)
  let den := Nat.pow 10 digits
  if scaled % den = 0 then pure (scaled / den) else throw .numberOverflow

/-- what the whole part `n` of an item of weight `w` adds, as seconds and nanoseconds; a
sub-second unit adds nanoseconds only, which may pass one second -/
def wholeValue (w : UnitWeight) (n : Nat) : Except DurationSyntaxError (Nat × Nat) :=
  match w with
  | .nanos k => do pure (0, ← checked (n * k))
  | .fine k | .coarse k => do pure (← checked (n * k), 0)

/-- what the fractional part (numerator and digit count) of an item of weight `w` adds, as
seconds and nanoseconds -/
def fractionValue (w : UnitWeight) : Option (Nat × Nat) → Except DurationSyntaxError (Nat × Nat)
  | none => .ok (0, 0)
  | some (num, digits) =>
    match w with
    | .nanos k => if k = 1 then .error .numberOverflow else do pure (0, ← exactShare num digits k)
    | .fine k => do pure (0, ← exactShare num digits (k * second))
    | .coarse k => do pure (← exactShare num digits k, 0)

/-- how reading stops before the end of the text -/
inductive Stop where
  /-- the text is refused -/
  | refused (e : DurationSyntaxError)
  /-- the running total, rebuilt, passes the largest 64-bit count of seconds -/
  | overflow
deriving DecidableEq, Repr

/-- a step of the reader that can only refuse the text -/
def lift {α : Type} (x : Except DurationSyntaxError α) : Except Stop α := x.mapError .refused

/-- adds `secs` and `nanos` to the running total.  The nanoseconds are added first, and carried
into the added seconds when they pass one second; the seconds are then added, each sum
checked against 64 bits.  The total is then rebuilt as a duration, which carries exactly one
second of nanoseconds once more and overflows past the largest count of seconds. -/
def accumulate (total : Duration) (secs nanos : Nat) : Except Stop Duration := do
  let nanos ← lift (checked (total.nanos + nanos))
  let (secs, nanos) ←
    if second < nanos then pure (← lift (checked (secs + nanos / second)), nanos % second)
    else pure (secs, nanos)
  let secs ← lift (checked (total.secs + secs))
  if nanos < second then pure ⟨secs, nanos⟩
  else if secs < u64Max then pure ⟨secs + 1, nanos - second⟩
  else throw .overflow

/-- adds the item `n` (with fractional part `frac`) of `unit` to the running total: its whole
part first, then its fractional part, each a step of its own -/
def addItem (total : Duration) (n : Nat) (frac : Option (Nat × Nat)) (unit : String) :
    Except Stop Duration := do
  let some w := unitWeight unit | throw (.refused (.unknownUnit unit n))
  let whole ← lift (wholeValue w n)
  let part ← lift (fractionValue w frac)
  let total ← accumulate total whole.1 whole.2
  accumulate total part.1 part.2

/-- skips white space and reads the first digit of the next item, with the input after it
and its offset; `none` at the end of the text.  Anything else is refused at `start`, the
offset where the search began. -/
def firstDigit (start : Nat) : List Char → Nat → Except DurationSyntaxError (Option (Nat × List Char × Nat))
  | [], _ => .ok none
  | c :: rest, pos =>
    if c.isDigit then .ok (some (c.toNat - '0'.toNat, rest, pos + c.utf8Size))
    else if Unicode.isWhiteSpace c then firstDigit start rest (pos + c.utf8Size)
    else .error (.numberExpected start)

/-- a number read so far: its whole part and, after a point, the numerator and digit count
of its fractional part -/
structure NumberSoFar where
  whole : Nat
  /-- the fractional part, once a point was read -/
  fraction : Option (Nat × Nat) := none
deriving DecidableEq, Repr

/-- whether a point may start the fractional part here: a digit or white space follows it -/
def pointFollows : List Char → Bool
  | c :: _ => c.isDigit || Unicode.isWhiteSpace c
  | [] => false

/-- whether a number may end here: it has no point, or a digit after its point -/
def NumberSoFar.complete (n : NumberSoFar) : Bool :=
  match n.fraction with
  | some (_, 0) => false
  | _ => true

/-- reads the rest of a number: digits, white space, and at most one point.  A digit or white
space must follow the point at once, else the point is refused; a digit must come before
the unit or the end, else what stands there is refused.  Stops before the first letter,
which starts the unit, or at the end of the text.  Every part is checked against 64 bits, the
fraction's denominator too. -/
def numberPart : List Char → NumberSoFar → Nat →
    Except DurationSyntaxError (NumberSoFar × List Char × Nat)
  | [], n, pos => if n.complete then .ok (n, [], pos) else .error (.invalidCharacter pos)
  | c :: rest, n, pos =>
    if c.isDigit then
      let d := c.toNat - '0'.toNat
      match n.fraction with
      | none =>
        if u64Max < n.whole * 10 + d then .error .numberOverflow
        else numberPart rest { n with whole := n.whole * 10 + d } (pos + 1)
      | some (num, digits) =>
        if u64Max < num * 10 + d ∨ u64Max < Nat.pow 10 (digits + 1) then .error .numberOverflow
        else numberPart rest { n with fraction := some (num * 10 + d, digits + 1) } (pos + 1)
    else if Unicode.isWhiteSpace c then numberPart rest n (pos + c.utf8Size)
    else if c = '.' && n.fraction.isNone && pointFollows rest then
      numberPart rest { n with fraction := some (0, 0) } (pos + 1)
    else if isUnitLetter c && n.complete then .ok (n, c :: rest, pos)
    else .error (.invalidCharacter pos)

/-- what ends a unit -/
inductive UnitEnd where
  /-- the end of the text -/
  | finished
  /-- a digit, which starts the next item at once -/
  | digit (d : Nat) (rest : List Char) (pos : Nat)
  /-- a white-space character, consumed -/
  | space (rest : List Char) (pos : Nat)

/-- reads the letters of a unit, `acc` holding those read so far -/
def unitPart : List Char → List Char → Nat → Except DurationSyntaxError (String × UnitEnd)
  | [], acc, _ => .ok (String.ofList acc.reverse, .finished)
  | c :: rest, acc, pos =>
    if c.isDigit then
      .ok (String.ofList acc.reverse, .digit (c.toNat - '0'.toNat) rest (pos + 1))
    else if Unicode.isWhiteSpace c then
      .ok (String.ofList acc.reverse, .space rest (pos + c.utf8Size))
    else if isUnitLetter c then unitPart rest (c :: acc) (pos + c.utf8Size)
    else .error (.invalidCharacter pos)

/-- reads items until the text ends, starting with an item whose first digit is `d`.  Every
round consumes at least that digit, so the length of the text bounds the rounds. -/
def items : Nat → Nat → List Char → Nat → Duration → Except Stop Duration
  | 0, _, _, _, total => .ok total
  | fuel + 1, d, cs, pos, total => do
    let (n, rest, pos) ← lift (numberPart cs ⟨d, none⟩ pos)
    let (unit, stop) ← lift (unitPart rest [] pos)
    let total ← addItem total n.whole n.fraction unit
    match stop with
    | .finished => pure total
    | .digit d' rest' pos' => items fuel d' rest' pos' total
    | .space rest' pos' =>
      match ← lift (firstDigit pos' rest' pos') with
      | none => pure total
      | some (d', rest'', pos'') => items fuel d' rest'' pos'' total

end DurationText

namespace Duration

/-- reads a duration written as items like `"1h 30m"`; the text `"0"` alone needs no unit.
Reading stops at the first item whose total overflows, before the rest of the text is read. -/
def parseText (s : String) : DurationReading :=
  if s = "0" then .ok ⟨0, 0⟩
  else
    let cs := s.toList
    match DurationText.firstDigit 0 cs 0 with
    | .error e => .refused e
    | .ok none => .refused .empty
    | .ok (some (d, rest, pos)) =>
      match DurationText.items (cs.length + 1) d rest pos ⟨0, 0⟩ with
      | .error (.refused e) => .refused e
      | .error .overflow => .overflow
      | .ok total => .ok total

/-- the duration as items from years down to nanoseconds, zero items left out, `"0s"` for
the empty duration.  Years, months and days take a plural `s`. -/
def toText (d : Duration) : String :=
  if d.secs = 0 ∧ d.nanos = 0 then "0s"
  else
    let years := d.secs / 31557600
    let yearRest := d.secs % 31557600
    let months := yearRest / 2630016
    let monthRest := yearRest % 2630016
    let days := monthRest / 86400
    let daySecs := monthRest % 86400
    let plural (v : Nat) (name : String) : List String :=
      if v = 0 then [] else [toString v ++ name ++ (if 1 < v then "s" else "")]
    let plain (v : Nat) (name : String) : List String :=
      if v = 0 then [] else [toString v ++ name]
    let parts := plural years "year" ++ plural months "month" ++ plural days "day"
      ++ plain (daySecs / 3600) "h" ++ plain (daySecs % 3600 / 60) "m"
      ++ plain (daySecs % 60) "s" ++ plain (d.nanos / 1000000) "ms"
      ++ plain (d.nanos / 1000 % 1000) "us" ++ plain (d.nanos % 1000) "ns"
    " ".intercalate parts

end Duration

end RoverKernel
