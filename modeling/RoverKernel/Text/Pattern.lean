import RoverKernel.Text.Unicode

/-!
# Which field patterns compile

A log directive may filter a span on the value of one of its fields, `[span{field=value}]`.
A value that is not `true`, `false` or a number is a regular expression, which the filter
compiles into an automaton when it is built.  `Pattern.check` decides whether that
compilation succeeds.

The compiler at hand has no Unicode tables.  So in Unicode mode, the default, it refuses
every class that needs one: `\d`, `\s`, `\w` and their negations, every `\p` and `\P`,
and, under the case-insensitive flag `i`, every literal and every bracketed class.  A word
boundary in Unicode mode compiles, but the automaton built from it cannot test it, so a
pattern that otherwise compiles is refused for it; a boundary repeated at most zero times
vanishes and is not refused.  Out of Unicode mode a pattern must still match only valid UTF-8, so a byte
`\xHH` above `\x7F`, a negated `\D`, `\S` or `\W`, a negated named class `[:^alpha:]`, the dot, and a class
reaching beyond ASCII are refused there.

The syntax is read the way the compiler reads it, left to right, with

* a stack of open groups, each remembering the modes to restore when it closes: `x`
  (white space and `#` comments ignored), `u` (Unicode) and `i` (case-insensitive); flags
  `(?x)` hold to the end of the group, `(?x:...)` inside it;
* what the current sequence ends with (`Pattern.Tail`), since a repetition operator needs an
  operand: nothing, a flag group, or an item;
* the capture names met so far, which must differ;
* and the shape of the sequence being read (`Pattern.Shape`), from which the nesting depth of
  the whole pattern follows: every group, repetition, alternation, sequence of several
  items, bracket, union of several class items and class operator is one level, and more
  than `Pattern.nestLimit` levels are refused.  The shape also records whether a Unicode
  word boundary was read.

Bracketed classes are read with a stack of their own, one level a bracket; each level is a
union of items combined left to right by `&&`, `--` and `~~`.  Out of Unicode mode a class
is a set of bytes, kept here as a 256-bit mask.
-/

namespace RoverKernel

/-- why a field pattern does not compile -/
inductive PatternError where
  /-- the expression does not read, nests too deep, or needs what the compiler lacks -/
  | malformed
  /-- the expression tests a word boundary in Unicode mode, which the automaton cannot -/
  | unicodeWordBoundary
deriving DecidableEq, Repr

def PatternError.message : PatternError → String
  | .malformed => "error building NFA"
  | .unicodeWordBoundary =>
    "unsupported regex feature for DFAs: cannot build DFAs for regexes with Unicode word " ++
      "boundaries; switch to ASCII word boundaries, or heuristically enable Unicode word " ++
      "boundaries or use a different regex engine"

namespace Pattern

/-! ## Characters and white space -/

/-- characters that are operators, each of which a backslash makes literal -/
def isMeta (c : Char) : Bool := "\\.+*?()|[]\x7b\x7d^$#&-~".toList.contains c

/-- characters a backslash may make literal: the operators, and every ASCII character that
is neither a letter, a digit, `<` nor `>` -/
def isEscapable (c : Char) : Bool :=
  isMeta c || (c.toNat < 128 && !c.isAlphanum && c ≠ '<' && c ≠ '>')

def isHex (c : Char) : Bool :=
  c.isDigit || ('a' ≤ c && c ≤ 'f') || ('A' ≤ c && c ≤ 'F')

def hexValue (c : Char) : Nat :=
  if c.isDigit then c.toNat - '0'.toNat
  else if 'a' ≤ c && c ≤ 'f' then c.toNat - 'a'.toNat + 10
  else c.toNat - 'A'.toNat + 10

/-- the character a hexadecimal number names, if it names one -/
def codePoint (digits : List Char) : Option Char :=
  let v := digits.foldl (fun acc c => 16 * acc + hexValue c) 0
  if v ≤ 0x10FFFF && !(0xD800 ≤ v && v ≤ 0xDFFF) then some (Char.ofNat v) else none

/-- drops white space and, when `inComment`, the rest of a comment line; a `#` starts a
comment -/
def dropBlank : Bool → List Char → List Char
  | _, [] => []
  | true, c :: rest => if c = '\n' then dropBlank false rest else dropBlank true rest
  | false, c :: rest =>
    if Unicode.isWhiteSpace c then dropBlank false rest
    else if c = '#' then dropBlank true rest
    else c :: rest

/-- the input with white space and comments skipped, when they are ignored -/
def skipSpace (spaced : Bool) (cs : List Char) : List Char :=
  if spaced then dropBlank false cs else cs

/-- the first character of `cs` that is not white space, looking through a `#` but never out
of the comment it starts; the first character of `cs` when there is none -/
def peekAfter (cs : List Char) : Option Char :=
  let rec go : Bool → List Char → Option Char
    | _, [] => cs.head?
    | inComment, c :: rest =>
      if Unicode.isWhiteSpace c then go inComment rest
      else if !inComment && c = '#' then go true rest
      else some c
  go false cs

/-- the character after the first one of `cs`, white space skipped when it is ignored -/
def peekSpace (spaced : Bool) (cs : List Char) : Option Char :=
  if spaced then peekAfter cs.tail else cs.tail.head?

/-- dropping white space and comments never lengthens the input -/
theorem dropBlank_length_le (b : Bool) (cs : List Char) :
    (dropBlank b cs).length ≤ cs.length := by
  induction cs generalizing b with
  | nil => cases b <;> simp [dropBlank]
  | cons c rest ih =>
    have h1 := ih false
    have h2 := ih true
    cases b <;> simp only [dropBlank] <;> split <;> (try split) <;> simp <;> omega

/-- skipping white space never lengthens the input, which bounds the loops that skip it -/
theorem skipSpace_length_le (spaced : Bool) (cs : List Char) :
    (skipSpace spaced cs).length ≤ cs.length := by
  unfold skipSpace
  split
  · exact dropBlank_length_le false cs
  · exact Nat.le_refl _

/-! ## Modes, groups and items -/

/-- what the current sequence ends with, which decides whether a repetition may follow -/
inductive Tail where
  /-- nothing: the start of a group or of an alternative -/
  | nothing
  /-- a group that only sets flags -/
  | flags
  /-- an item a repetition may apply to -/
  | item
deriving DecidableEq, Repr

structure Modes where
  /-- white space and comments are ignored (`x`) -/
  spaced : Bool := false
  /-- classes and escapes are Unicode-aware (`u`) -/
  unicode : Bool := true
  /-- letters match in either case (`i`) -/
  caseless : Bool := false
deriving DecidableEq, Repr

/-- the most levels a pattern may nest -/
def nestLimit : Nat := 250

/-- the shape of the alternatives of a group read so far, for its nesting depth; the height
of an item is the number of levels it nests -/
structure Shape where
  /-- the number of items in the current sequence -/
  count : Nat := 0
  /-- the greatest height among the items of the sequence but the last -/
  others : Nat := 0
  /-- the height of the last item -/
  last : Nat := 0
  /-- the number of alternatives closed before the current sequence -/
  branches : Nat := 0
  /-- the greatest height among those alternatives -/
  branchMax : Nat := 0
  /-- whether a Unicode word boundary stands in those alternatives or in the items of the
  sequence but the last -/
  marks : Bool := false
  /-- whether a Unicode word boundary stands in the last item -/
  lastMark : Bool := false
deriving DecidableEq, Repr

namespace Shape

/-- adds an item of height `h` to the sequence, `m` when a Unicode word boundary stands in
it -/
def push (s : Shape) (h : Nat) (m : Bool) : Shape :=
  { s with count := s.count + 1, others := if s.count = 0 then s.others else max s.others s.last,
           last := h, marks := s.marks || s.lastMark, lastMark := m }

/-- repeats the last item, one level more; `never` when it repeats at most zero times, and
then it matches only the empty text and its word boundaries vanish -/
def repeatLast (s : Shape) (never : Bool) : Shape :=
  { s with last := s.last + 1, lastMark := s.lastMark && !never }

/-- whether a Unicode word boundary stands in anything read -/
def marked (s : Shape) : Bool := s.marks || s.lastMark

/-- the height of the current sequence: nothing, its one item, or a level above its items -/
def sequenceHeight (s : Shape) : Nat :=
  if s.count = 0 then 0 else if s.count = 1 then s.last else 1 + max s.others s.last

/-- closes the current sequence as an alternative and starts the next -/
def alternate (s : Shape) : Shape :=
  { branches := s.branches + 1, branchMax := max s.branchMax s.sequenceHeight, marks := s.marked }

/-- the height of everything read: the sequence, or a level above all the alternatives -/
def height (s : Shape) : Nat :=
  if s.branches = 0 then s.sequenceHeight else 1 + max s.branchMax s.sequenceHeight

end Shape

/-- an open group: what the sequence around it ended with, its shape, and the modes to
restore -/
structure Frame where
  /-- the tail of the enclosing sequence -/
  tail : Tail
  /-- the shape of the enclosing group so far -/
  shape : Shape
  /-- the modes outside the group -/
  modes : Modes
deriving DecidableEq, Repr

/-- the state of the reader between items -/
structure Scan where
  modes : Modes := {}
  /-- what the current sequence ends with -/
  tail : Tail := .nothing
  /-- the shape of the current group -/
  shape : Shape := {}
  /-- the open groups, innermost first -/
  groups : List Frame := []
  /-- the capture names so far -/
  names : List String := []
deriving DecidableEq, Repr

/-- adds an item of height `h` to the current sequence, `m` when it is a Unicode word
boundary -/
def Scan.item (st : Scan) (h : Nat) (m : Bool) : Scan :=
  { st with tail := .item, shape := st.shape.push h m }

/-- what an escape reads -/
inductive Atom where
  /-- a literal character; `byte` when written as a two-digit `\xHH`, which is a byte out of
  Unicode mode -/
  | literal (c : Char) (byte : Bool)
  /-- one of `\d`, `\s`, `\w` (`kind` is `d`, `s` or `w`), negated for the capital -/
  | perl (kind : Char) (negated : Bool)
  /-- an anchor `\A` or `\z` -/
  | anchor
  /-- a word boundary, `\b`, `\B`, `\<`, `\>` or `\b{...}` -/
  | wordBoundary
deriving DecidableEq, Repr

def refuse {α : Type} : Except PatternError α := .error .malformed

/-! ## Escapes -/

/-- reads the name of a special word boundary `\b{start}`, `\b{end}`, `\b{start-half}` or
`\b{end-half}`, `cs` starting after the brace; `acc` holds the letters so far -/
def boundaryName (spaced : Bool) : List Char → List Char → Except PatternError (List Char)
  | [], _ => refuse
  | c :: rest, acc =>
    if c.isAlpha || c = '-' then boundaryName spaced (skipSpace spaced rest) (c :: acc)
    else if c = '}' then
      if ["start", "end", "start-half", "end-half"].contains (String.ofList acc.reverse) then
        .ok rest
      else refuse
    else refuse
termination_by cs _ => cs.length
decreasing_by all_goals exact Nat.lt_succ_of_le (skipSpace_length_le _ _)

/-- after `\b`: a special word boundary when a brace follows with a letter or `-` first in
it; otherwise the brace is left to be read as a repetition -/
def afterBoundary (spaced : Bool) (cs : List Char) : Except PatternError (Atom × List Char) :=
  match cs with
  | '{' :: rest =>
    match skipSpace spaced rest with
    | [] => refuse
    | c :: more =>
      if c.isAlpha || c = '-' then do
        pure (.wordBoundary, ← boundaryName spaced (c :: more) [])
      else .ok (.wordBoundary, cs)
  | _ => .ok (.wordBoundary, cs)

/-- reads the hexadecimal digits of a braced escape `\x{...}` up to the closing brace -/
def hexBraced (spaced : Bool) : List Char → List Char → Except PatternError (Char × List Char)
  | [], _ => refuse
  | c :: rest, acc =>
    if c = '}' then
      if acc.isEmpty then refuse
      else match codePoint acc.reverse with
        | some ch => .ok (ch, skipSpace spaced rest)
        | none => refuse
    else if isHex c then hexBraced spaced (skipSpace spaced rest) (c :: acc)
    else refuse
termination_by cs _ => cs.length
decreasing_by all_goals exact Nat.lt_succ_of_le (skipSpace_length_le _ _)

/-- reads `n` more hexadecimal digits of a fixed escape, `acc` holding those read so far -/
def hexFixed (spaced : Bool) : Nat → List Char → List Char → Except PatternError (Char × List Char)
  | 0, cs, acc =>
    match codePoint acc.reverse with
    | some ch => .ok (ch, cs)
    | none => refuse
  | n + 1, cs, acc =>
    match cs with
    | c :: rest =>
      if isHex c then hexFixed spaced n (skipSpace spaced rest) (c :: acc)
      else refuse
    | [] => refuse

/-- reads a hexadecimal escape of `digits` digits (two for `\x`, four for `\u`, eight for
`\U`), or any number of them in braces; `cs` starts after the letter -/
def hexEscape (spaced : Bool) (digits : Nat) (cs : List Char) :
    Except PatternError (Atom × List Char) :=
  match skipSpace spaced cs with
  | [] => refuse
  | '{' :: rest => do
    let (c, rest) ← hexBraced spaced (skipSpace spaced rest) []
    pure (.literal c false, rest)
  | more => do
    let (c, rest) ← hexFixed spaced digits more []
    pure (.literal c (digits = 2), rest)

/-- reads an escape, `cs` starting after the backslash -/
def escape (spaced : Bool) : List Char → Except PatternError (Atom × List Char)
  | [] => refuse
  | c :: rest =>
    if c.isDigit then refuse
    else if c = 'x' then hexEscape spaced 2 rest
    else if c = 'u' then hexEscape spaced 4 rest
    else if c = 'U' then hexEscape spaced 8 rest
    else if c = 'p' || c = 'P' then refuse
    else if c = 'd' || c = 's' || c = 'w' then .ok (.perl c false, rest)
    else if c = 'D' || c = 'S' || c = 'W' then .ok (.perl c.toLower true, rest)
    else if isEscapable c then .ok (.literal c false, rest)
    else match c with
      | 'a' => .ok (.literal (Char.ofNat 7) false, rest)
      | 'f' => .ok (.literal (Char.ofNat 12) false, rest)
      | 't' => .ok (.literal '\t' false, rest)
      | 'n' => .ok (.literal '\n' false, rest)
      | 'r' => .ok (.literal '\r' false, rest)
      | 'v' => .ok (.literal (Char.ofNat 11) false, rest)
      | 'A' | 'z' => .ok (.anchor, rest)
      | 'b' => afterBoundary spaced rest
      | 'B' | '<' | '>' => .ok (.wordBoundary, rest)
      | _ => refuse

/-! ## Byte classes -/

/-- the mask of the bytes from `lo` to `hi` -/
def byteRange (lo hi : Nat) : Nat := Nat.pow 2 (hi + 1) - Nat.pow 2 lo

def byteOne (b : Nat) : Nat := byteRange b b

def allBytes : Nat := Nat.pow 2 256 - 1

/-- whether a mask holds only ASCII bytes -/
def asciiOnly (m : Nat) : Bool := m < Nat.pow 2 128

def complement (m : Nat) : Nat := Nat.xor allBytes m

/-- the bytes of `\d`, `\s` or `\w` -/
def perlBytes : Char → Nat
  | 'd' => byteRange 48 57
  | 's' => Nat.lor (byteRange 9 13) (byteOne 32)
  | _ => Nat.lor (Nat.lor (byteRange 48 57) (byteRange 65 90)) (Nat.lor (byteRange 97 122) (byteOne 95))

/-- the bytes of a named ASCII class `[:name:]` -/
def asciiBytes : String → Option Nat
  | "alnum" => some (Nat.lor (byteRange 48 57) (Nat.lor (byteRange 65 90) (byteRange 97 122)))
  | "alpha" => some (Nat.lor (byteRange 65 90) (byteRange 97 122))
  | "ascii" => some (byteRange 0 127)
  | "blank" => some (Nat.lor (byteOne 9) (byteOne 32))
  | "cntrl" => some (Nat.lor (byteRange 0 31) (byteOne 127))
  | "digit" => some (byteRange 48 57)
  | "graph" => some (byteRange 33 126)
  | "lower" => some (byteRange 97 122)
  | "print" => some (byteRange 32 126)
  | "punct" => some (Nat.lor (Nat.lor (byteRange 33 47) (byteRange 58 64))
      (Nat.lor (byteRange 91 96) (byteRange 123 126)))
  | "space" => some (Nat.lor (byteRange 9 13) (byteOne 32))
  | "upper" => some (byteRange 65 90)
  | "word" => some (perlBytes 'w')
  | "xdigit" => some (Nat.lor (byteRange 48 57) (Nat.lor (byteRange 65 70) (byteRange 97 102)))
  | _ => none

/-- reads a named ASCII class, `cs` starting after its opening bracket; `none` when the text
is not one, and then the bracket opens a nested class -/
def asciiClass (cs : List Char) : Option (Nat × List Char) :=
  match cs with
  | ':' :: rest =>
    let (negated, rest) := match rest with
      | '^' :: more => (true, more)
      | _ => (false, rest)
    let name := rest.takeWhile (· ≠ ':')
    match rest.dropWhile (· ≠ ':') with
    | ':' :: ']' :: more =>
      (asciiBytes (String.ofList name)).map fun m => (if negated then complement m else m, more)
    | _ => none
  | _ => none

/-- the byte a class literal stands for out of Unicode mode: an ASCII character, or a byte
`\xHH` below `\x80` -/
def classByte : Atom → Except PatternError Nat
  | .literal c _ => if c.toNat < 128 then .ok c.toNat else refuse
  | _ => refuse

/-- the bytes of a class item, out of Unicode mode; in Unicode mode only whether it may
stand in a class matters, and the mask is empty -/
def itemBytes (unicode : Bool) : Atom → Except PatternError Nat
  | .literal c byte =>
    if unicode then .ok 0 else classByte (.literal c byte)
  | .perl kind negated =>
    if unicode || negated then refuse else .ok (perlBytes kind)
  | .anchor | .wordBoundary => refuse

/-- how two class operands combine -/
inductive SetOp where
  /-- `&&` -/
  | inter
  /-- `--` -/
  | diff
  /-- `~~` -/
  | symm
deriving DecidableEq, Repr

/-- applies a class operator to two masks -/
def SetOp.apply : SetOp → Nat → Nat → Nat
  | .inter, a, b => Nat.land a b
  | .diff, a, b => Nat.land a (complement b)
  | .symm, a, b => Nat.xor a b

/-- one open bracket of a class -/
structure Level where
  /-- whether the bracket starts with `^` -/
  negated : Bool
  /-- the left operand so far with its operator and its height, once one was read -/
  lhs : Option (SetOp × Nat × Nat) := none
  /-- the union of the items since the last operator -/
  union : Nat := 0
  /-- the number of those items -/
  count : Nat := 0
  /-- the greatest height among those items -/
  itemMax : Nat := 0
deriving DecidableEq, Repr

namespace Level

/-- the value of a level's items so far, its operators applied -/
def operand (l : Level) : Nat :=
  match l.lhs with
  | some (op, a, _) => op.apply a l.union
  | none => l.union

/-- the value of a level once its bracket closes -/
def value (l : Level) : Nat :=
  if l.negated then complement l.operand else l.operand

/-- the height of the items since the last operator: nothing, the one item, or a level above
several -/
def unionHeight (l : Level) : Nat :=
  if l.count = 0 then 0 else if l.count = 1 then l.itemMax else 1 + l.itemMax

/-- the height of a level's items so far, one level for each operator -/
def setHeight (l : Level) : Nat :=
  match l.lhs with
  | some (_, _, h) => 1 + max h l.unionHeight
  | none => l.unionHeight

/-- adds an item with bytes `m` and height `h` -/
def add (l : Level) (m h : Nat) : Level :=
  { l with union := Nat.lor l.union m, count := l.count + 1, itemMax := max l.itemMax h }

/-- applies an operator to the items so far; the items after it start a new union -/
def combine (l : Level) (op : SetOp) : Level :=
  { negated := l.negated, lhs := some (op, l.operand, l.setHeight) }

end Level

/-- reads leading `-`, each a literal, after an opening bracket -/
def leadingDashes (spaced : Bool) : List Char → Level → Except PatternError (Level × List Char)
  | [], _ => refuse
  | c :: rest, l =>
    if c = '-' then leadingDashes spaced (skipSpace spaced rest) (l.add (byteOne 45) 0)
    else .ok (l, c :: rest)
termination_by cs _ => cs.length
decreasing_by all_goals exact Nat.lt_succ_of_le (skipSpace_length_le _ _)

/-- opens a class, `cs` starting after its bracket: an optional `^`, then any `-` and, when
there are none, a `]` are literals -/
def openClass (spaced : Bool) (cs : List Char) : Except PatternError (Level × List Char) := do
  let cs := skipSpace spaced cs
  let (negated, cs) ← match cs with
    | [] => refuse
    | '^' :: rest => match skipSpace spaced rest with
      | [] => refuse
      | more => pure (true, more)
    | more => pure (false, more)
  let (l, cs) ← leadingDashes spaced cs { negated }
  if l.count = 0 then
    match cs with
    | ']' :: rest =>
      match skipSpace spaced rest with
      | [] => refuse
      | more => pure (l.add (byteOne 93) 0, more)
    | _ => pure (l, cs)
  else pure (l, cs)

/-- reads one class item: an escape, or any other character as itself -/
def classItem (spaced : Bool) : List Char → Except PatternError (Atom × List Char)
  | [] => refuse
  | '\\' :: rest => escape spaced rest
  | c :: rest => .ok (.literal c false, rest)

/-- reads a class item or a range of two literals `a-z`; a `-` before `]` or `-` is not a
range -/
def classRange (m : Modes) (cs : List Char) : Except PatternError (Nat × List Char) := do
  let (a, rest) ← classItem m.spaced cs
  match skipSpace m.spaced rest with
  | [] => refuse
  | c :: more =>
    let next := peekSpace m.spaced (c :: more)
    if c ≠ '-' || next = some ']' || next = some '-' then
      pure (← itemBytes m.unicode a, c :: more)
    else
      let (b, rest) ← classItem m.spaced (skipSpace m.spaced more)
      match a, b with
      | .literal x _, .literal y _ =>
        if y < x then refuse
        else if m.unicode then pure (0, rest)
        else pure (byteRange (← classByte a) (← classByte b), rest)
      | _, _ => refuse

/-- reads a bracketed class to its end, `levels` holding the open brackets, innermost first;
gives the input after it and its height.  Every round consumes input, so its length bounds
the rounds. -/
def classScan (m : Modes) : Nat → List Level → List Char → Except PatternError (List Char × Nat)
  | 0, _, _ => refuse
  | fuel + 1, levels, cs =>
    match skipSpace m.spaced cs, levels with
    | [], _ => refuse
    | '[' :: rest, top :: more =>
      match asciiClass rest with
      | some (bytes, rest) =>
        if !m.unicode && !asciiOnly bytes then refuse
        else classScan m fuel (top.add bytes 0 :: more) rest
      | none => do
        let (l, rest) ← openClass m.spaced rest
        classScan m fuel (l :: top :: more) rest
    | '[' :: rest, [] => do
      let (l, rest) ← openClass m.spaced rest
      classScan m fuel [l] rest
    | ']' :: rest, top :: more =>
      let v := top.value
      let h := 1 + top.setHeight
      if !m.unicode && !asciiOnly v then refuse
      else match more with
        | [] => .ok (rest, h)
        | parent :: outer => classScan m fuel (parent.add v h :: outer) rest
    | '&' :: '&' :: rest, top :: more => classScan m fuel (top.combine .inter :: more) rest
    | '-' :: '-' :: rest, top :: more => classScan m fuel (top.combine .diff :: more) rest
    | '~' :: '~' :: rest, top :: more => classScan m fuel (top.combine .symm :: more) rest
    | c :: rest, top :: more => do
      let (bytes, rest) ← classRange m (c :: rest)
      classScan m fuel (top.add bytes 0 :: more) rest
    | _ :: _, [] => refuse

/-! ## Groups and repetitions -/

/-- whether a character may stand in a capture name, `first` for its first character: a
letter or `_` first, then also digits, `.`, `[` and `]` -/
def isNameChar (c : Char) (first : Bool) : Bool :=
  if first then c = '_' || Unicode.isAlphabetic c
  else c = '_' || c = '.' || c = '[' || c = ']' || Unicode.isAlphanumeric c

/-- reads a capture name up to `>`, `acc` holding its characters so far -/
def captureName : List Char → List Char → Except PatternError (String × List Char)
  | [], _ => refuse
  | c :: rest, acc =>
    if c = '>' then
      if acc.isEmpty then refuse else .ok (String.ofList acc.reverse, rest)
    else if isNameChar c acc.isEmpty then captureName rest (c :: acc)
    else refuse

/-- reads the flags of a group up to `:` or `)`: each of `imsUuRx` and the negation `-` at
most once, something following each -/
def readFlags : List Char → List Char → Except PatternError (List Char × List Char)
  | [], _ => refuse
  | c :: rest, acc =>
    if c = ':' || c = ')' then .ok (acc.reverse, c :: rest)
    else if (c = '-' || "imsUuRx".toList.contains c) && !acc.contains c && !rest.isEmpty then
      readFlags rest (c :: acc)
    else refuse

/-- what a flag list sets a flag to: on before the negation, off after it -/
def flagState (items : List Char) (f : Char) : Option Bool :=
  if items.contains f then some (!(items.takeWhile (· ≠ f)).contains '-') else none

/-- the modes after a flag list -/
def Modes.apply (m : Modes) (items : List Char) : Modes :=
  { spaced := (flagState items 'x').getD m.spaced,
    unicode := (flagState items 'u').getD m.unicode,
    caseless := (flagState items 'i').getD m.caseless }

/-- opens a group, `cs` starting after `(`: a capture group, named or not, a group of flags
applying to the rest of the enclosing group, or a group with flags of its own.  Look-around
is not supported. -/
def openGroup (st : Scan) (cs : List Char) : Except PatternError (Scan × List Char) :=
  let push (m : Modes) : Scan :=
    { st with groups := ⟨st.tail, st.shape, st.modes⟩ :: st.groups, modes := m,
              tail := .nothing, shape := {} }
  match skipSpace st.modes.spaced cs with
  | '?' :: '=' :: _ | '?' :: '!' :: _ | '?' :: '<' :: '=' :: _ | '?' :: '<' :: '!' :: _ => refuse
  | '?' :: 'P' :: '<' :: rest | '?' :: '<' :: rest => do
    let (name, rest) ← captureName rest []
    if st.names.contains name then refuse
    else pure ({ push st.modes with names := name :: st.names }, rest)
  | '?' :: [] => refuse
  | '?' :: rest => do
    let (items, rest) ← readFlags rest []
    if items.getLast? = some '-' then refuse
    else
      let m := st.modes.apply items
      match rest with
      | ')' :: more =>
        if items.isEmpty then refuse
        else pure ({ st with modes := m, tail := .flags, shape := st.shape.push 0 false }, more)
      | _ :: more => pure (push m, more)
      | [] => refuse
  | more => pure (push st.modes, more)

/-- closes the innermost group: it becomes an item of the enclosing sequence, one level above
what it holds -/
def closeGroup (st : Scan) : Except PatternError Scan :=
  match st.groups with
  | [] => refuse
  | f :: fs =>
    .ok { modes := f.modes, tail := .item,
          shape := f.shape.push (1 + st.shape.height) st.shape.marked, groups := fs,
          names := st.names }

/-- reads the digits of a count, `acc` holding those read so far -/
def countDigits (spaced : Bool) : List Char → List Char → List Char × List Char
  | [], acc => (acc.reverse, [])
  | c :: rest, acc =>
    if c.isDigit then countDigits spaced (skipSpace spaced rest) (c :: acc)
    else (acc.reverse, c :: rest)
termination_by cs _ => cs.length
decreasing_by all_goals exact Nat.lt_succ_of_le (skipSpace_length_le _ _)

/-- drops white space after a count -/
def dropCountSpace (spaced : Bool) : List Char → List Char
  | [] => []
  | c :: rest =>
    if Unicode.isWhiteSpace c then dropCountSpace spaced (skipSpace spaced rest) else c :: rest
termination_by cs => cs.length
decreasing_by all_goals exact Nat.lt_succ_of_le (skipSpace_length_le _ _)

/-- reads a count of a repetition, white space allowed around it; it must fit in 32 bits -/
def count (spaced : Bool) (cs : List Char) : Except PatternError (Nat × List Char) :=
  let (digits, rest) := countDigits spaced (cs.dropWhile Unicode.isWhiteSpace) []
  let rest := dropCountSpace spaced rest
  let v := digits.foldl (fun acc c => 10 * acc + (c.toNat - '0'.toNat)) 0
  if digits.isEmpty || 4294967295 < v then refuse else .ok (v, rest)

/-- reads a counted repetition `{n}`, `{n,}` or `{n,m}` with `n ≤ m`, and an optional `?`
after it; `cs` starts after the brace.  Tells whether the repetition is at most zero times. -/
def counted (spaced : Bool) (cs : List Char) : Except PatternError (Bool × List Char) := do
  let close (rest : List Char) : Except PatternError (List Char) :=
    match rest with
    | '}' :: more =>
      match skipSpace spaced more with
      | '?' :: after => .ok after
      | after => .ok after
    | _ => refuse
  match skipSpace spaced cs with
  | [] => refuse
  | more =>
    let (lo, rest) ← count spaced more
    match rest with
    | ',' :: after =>
      match skipSpace spaced after with
      | [] => refuse
      | '}' :: more => pure (false, ← close ('}' :: more))
      | more => do
        let (hi, rest) ← count spaced more
        let rest ← close rest
        if hi < lo then refuse else pure (hi = 0, rest)
    | _ => pure (lo = 0, ← close rest)

/-! ## Reading a pattern -/

/-- whether an escape outside a class compiles in the modes `m` -/
def Modes.admits (m : Modes) : Atom → Bool
  | .literal c byte =>
    if m.unicode then !m.caseless else !(byte && 128 ≤ c.toNat)
  | .perl _ negated => !m.unicode && !negated
  | .anchor | .wordBoundary => true

/-- reads a pattern item by item.  Every round consumes input, so its length bounds the
rounds. -/
def scan : Nat → Scan → List Char → Except PatternError Scan
  | 0, _, _ => refuse
  | fuel + 1, st, cs =>
    match skipSpace st.modes.spaced cs with
    | [] => if st.groups.isEmpty then .ok st else refuse
    | c :: rest =>
      if c = '(' then do
        let (st, rest) ← openGroup st rest
        scan fuel st rest
      else if c = ')' then do scan fuel (← closeGroup st) rest
      else if c = '|' then scan fuel { st with tail := .nothing, shape := st.shape.alternate } rest
      else if c = '[' then do
        if st.modes.unicode && st.modes.caseless then refuse
        else
          let (rest, h) ← classScan st.modes (rest.length + 2) [] (c :: rest)
          scan fuel (st.item h false) rest
      else if c = '?' || c = '*' || c = '+' then
        if st.tail ≠ .item then refuse
        else
          let st := { st with shape := st.shape.repeatLast false }
          match rest with
          | '?' :: more => scan fuel st more
          | _ => scan fuel st rest
      else if c = '{' then
        if st.tail ≠ .item then refuse
        else do
          let (never, rest) ← counted st.modes.spaced rest
          scan fuel { st with shape := st.shape.repeatLast never } rest
      else if c = '\\' then do
        let (a, rest) ← escape st.modes.spaced rest
        if st.modes.admits a then scan fuel (st.item 0 (a = .wordBoundary && st.modes.unicode)) rest
        else refuse
      else if c = '.' then
        if st.modes.unicode then scan fuel (st.item 0 false) rest else refuse
      else if c = '^' || c = '$' || !st.modes.unicode || !st.modes.caseless then
        scan fuel (st.item 0 false) rest
      else refuse

/-- whether a pattern compiles into an automaton, and why not when it does not -/
def check (p : String) : Except PatternError Unit := do
  let cs := p.toList
  let st ← scan (cs.length + 1) {} cs
  if nestLimit < st.shape.height then refuse
  if st.shape.marked then throw .unicodeWordBoundary

end Pattern

end RoverKernel
