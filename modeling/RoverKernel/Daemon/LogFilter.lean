import RoverKernel.Text.Unicode
import RoverKernel.Text.Pattern

/-!
# The daemon's log filter

The daemon logs at the level given by `--log-level` for each of its four crates, through a
filter of comma-separated directives `target=level`.  A `RUST_LOG` variable that reads as a
filter replaces this; one that does not is ignored.  Building the filter from the level
prints one warning on standard error for each directive that does not read, and keeps the
others; those warnings are the daemon's only output on standard error when it runs.

A directive is read by a small state machine (`LogFilter.DirectiveState`) over the
characters of the directive with the white space at either end trimmed:

* it starts with a span `[...]` or with a letter, a digit, `-`, `:` or `_`;
* a target runs up to `=` (a level follows) or `[` (a span follows);
* a span `[name{field,...}]` ends in `]`, its fields in `}`; no field may be empty, and a
  field `name=value` whose value is not `true`, `false` or a number must be a pattern that
  compiles (`Pattern.check`);
* after a span only `=` may follow;
* the level, everything after the first `=`, must name a level (`LogFilter.isLevel`).

The machine counts the byte offsets of the trimmed text, but cuts the target, the span, the
fields and the level out of the untrimmed directive at those offsets.  Leading white space
therefore shifts every cut: ` x=debug` reads its level as `=debug`.  A cut that falls inside
a character, as after a leading no-break space, stops the program.
-/

namespace RoverKernel

namespace LogFilter

/-- the crates whose level the daemon sets -/
def targets : List String := ["rk_daemon", "rk_runtime", "rk_modules", "rk_common"]

/-- whether a text names a level: a number from 0 to 5 (an optional `+` allowed), the empty
text, or a level name in any letter case -/
def isLevel (s : String) : Bool :=
  let digits := match s.toList with
    | '+' :: rest => rest
    | cs => cs
  let number := !digits.isEmpty && digits.all Char.isDigit &&
    digits.foldl (fun acc c => 10 * acc + (c.toNat - '0'.toNat)) 0 ≤ 5
  number || s.isEmpty ||
    ["off", "error", "warn", "info", "debug", "trace"].contains (s.map Char.toLower)

/-- whether a text is a decimal floating-point number: digits with at most one point, at
least one digit, and an optional exponent, or `inf`, `infinity` or `nan` in any case, all
after an optional sign -/
def isFloatText (s : String) : Bool :=
  let cs := match s.toList with
    | '+' :: rest | '-' :: rest => rest
    | cs => cs
  let word := String.ofList (cs.map Char.toLower)
  let whole := cs.takeWhile Char.isDigit
  let rest := cs.dropWhile Char.isDigit
  let (fraction, rest) := match rest with
    | '.' :: more => (more.takeWhile Char.isDigit, more.dropWhile Char.isDigit)
    | _ => ([], rest)
  let exponentOk := match rest with
    | [] => true
    | e :: more =>
      let digits := match more with
        | '+' :: ds | '-' :: ds => ds
        | ds => ds
      (e = 'e' || e = 'E') && !digits.isEmpty && digits.all Char.isDigit
  word = "inf" || word = "infinity" || word = "nan" ||
    ((!whole.isEmpty || !fraction.isEmpty) && exponentOk)

/-- why a field filter `name=value` does not build: its value is neither `true`, `false`
nor a number, and does not compile as a pattern.  Only the text between the first and the
second `=` is the value. -/
def fieldError (field : String) : Option PatternError :=
  match field.splitOn "=" with
  | _ :: value :: _ =>
    if value = "true" || value = "false" || isFloatText value then none
    else match Pattern.check value with
      | .ok () => none
      | .error e => some e
  | _ => none

/-- why a directive does not read -/
inductive DirectiveError where
  /-- the directive is malformed -/
  | invalid
  /-- the text after `=` names no level -/
  | badLevel
  /-- a field filter does not build -/
  | badField (e : PatternError)
  /-- a cut falls inside a character, at this byte offset: the program stops -/
  | splitChar (offset : Nat)
deriving DecidableEq, Repr

def DirectiveError.message : DirectiveError → String
  | .invalid => "invalid filter directive"
  | .badLevel =>
    "error parsing level filter: expected one of \"off\", \"error\", \"warn\", \"info\", " ++
      "\"debug\", \"trace\", or a number 0-5"
  | .badField e => "invalid field filter: " ++ e.message
  | .splitChar o => s!"byte index {o} is not a char boundary"

/-- the characters of a text with their byte offsets -/
def offsets (cs : List Char) : List (Nat × Char) :=
  let rec go : Nat → List Char → List (Nat × Char)
    | _, [] => []
    | o, c :: rest => (o, c) :: go (o + c.utf8Size) rest
  go 0 cs

def byteLength (cs : List Char) : Nat := cs.foldl (fun n c => n + c.utf8Size) 0

/-- the text of `cs` from byte `a` to byte `b`; both must fall between characters -/
def cut (cs : List Char) (a b : Nat) : Except DirectiveError String :=
  let indexed := offsets cs
  let boundary (o : Nat) : Bool := o = byteLength cs || indexed.any (·.1 = o)
  if !boundary a then .error (.splitChar a)
  else if !boundary b then .error (.splitChar b)
  else .ok (String.ofList ((indexed.filter fun p => a ≤ p.1 && p.1 < b).map (·.2)))

/-- where the reading of a directive stands; offsets count bytes -/
inductive DirectiveState where
  /-- nothing read yet -/
  | start
  /-- a target or a level, starting at `begin` -/
  | targetOrLevel (begin : Nat)
  /-- inside the brackets of a span whose name starts at `begin` -/
  | span (begin : Nat)
  /-- inside the braces of a span's fields, the current field starting at `begin` -/
  | field (begin : Nat)
  /-- after the closing brace of the fields -/
  | fields
  /-- after a span: only `=` may follow -/
  | afterSpan
  /-- after `=`, the level starting at `begin` -/
  | level (begin : Nat)
deriving DecidableEq, Repr

/-- checks a field cut from `d` between `a` and `b` -/
def checkField (d : List Char) (a b : Nat) : Except DirectiveError Unit := do
  let f ← cut d a b
  if f.isEmpty then throw .invalid
  match fieldError f with
  | some e => throw (.badField e)
  | none => pure ()

/-- reads the character `c` at byte `i` of the trimmed directive, `d` being the untrimmed
one -/
def DirectiveState.step (d : List Char) : DirectiveState → Nat × Char →
    Except DirectiveError DirectiveState
  | .start, (i, c) =>
    if c = '[' then .ok (.span (i + 1))
    else if c = '-' || c = ':' || c = '_' || Unicode.isAlphanumeric c then .ok (.targetOrLevel i)
    else .error .invalid
  | .targetOrLevel b, (i, c) =>
    if c = '=' then do let _ ← cut d b i; pure (.level (i + 1))
    else if c = '[' then do let _ ← cut d b i; pure (.span (i + 1))
    else .ok (.targetOrLevel b)
  | .span b, (i, c) =>
    if c = ']' then do let _ ← cut d b i; pure .afterSpan
    else if c = '{' then do let _ ← cut d b i; pure (.field (i + 1))
    else .ok (.span b)
  | .field b, (i, c) =>
    if c = '}' then do checkField d b i; pure .fields
    else if c = ',' then do checkField d b i; pure (.field (i + 1))
    else .ok (.field b)
  | .fields, (_, c) => if c = ']' then .ok .afterSpan else .error .invalid
  | .afterSpan, (i, c) => if c = '=' then .ok (.level (i + 1)) else .error .invalid
  | .level b, _ => .ok (.level b)

/-- ends the reading of the directive `d` -/
def DirectiveState.finish (d : List Char) : DirectiveState → Except DirectiveError Unit
  | .targetOrLevel b => do let _ ← cut d b (byteLength d)
  | .level b => do
    let l ← cut d b (byteLength d)
    if isLevel l then pure () else throw .badLevel
  | .afterSpan => .ok ()
  | _ => .error .invalid

/-- the characters of a text without the white space at either end -/
def trimmed (d : String) : List Char :=
  ((d.toList.dropWhile Unicode.isWhiteSpace).reverse.dropWhile Unicode.isWhiteSpace).reverse

def readDirective (d : String) : Except DirectiveError Unit := do
  let s ← (offsets (trimmed d)).foldlM (DirectiveState.step d.toList) .start
  s.finish d.toList

/-- the directives of a filter text -/
def directives (text : String) : List String := (text.splitOn ",").filter (· ≠ "")

/-- the filter text the daemon builds from a level -/
def ofLevel (level : String) : String := ",".intercalate (targets.map (· ++ "=" ++ level))

/-- the warning for a directive that is dropped -/
def warning (d : String) (e : DirectiveError) : String :=
  "ignoring \x60" ++ d ++ "\x60: " ++ e.message

/-- what setting up logging prints on standard error: a warning for each directive dropped,
then, when a directive stops the program, the message it stops with -/
structure LogSetup where
  /-- the warnings, in order -/
  warnings : List String
  /-- the message the program stops with, if it does -/
  panic : Option String := none
deriving DecidableEq, Repr

/-- reads directives leniently: each one that does not read is dropped with a warning, until
one stops the program -/
def lenient : List String → LogSetup
  | [] => ⟨[], none⟩
  | d :: ds =>
    match readDirective d with
    | .ok () => lenient ds
    | .error (.splitChar o) => ⟨[], some (DirectiveError.splitChar o).message⟩
    | .error e =>
      let rest := lenient ds
      { rest with warnings := warning d e :: rest.warnings }

/-- reads directives strictly: `some true` when all read, `some false` at the first that does
not, `none` when one stops the program first, with its message -/
def strict : List String → Except String Bool
  | [] => .ok true
  | d :: ds =>
    match readDirective d with
    | .ok () => strict ds
    | .error (.splitChar o) => .error (DirectiveError.splitChar o).message
    | .error _ => .ok false

/-- what the daemon prints while it sets up logging at `level`, `rustLog` being the value of
`RUST_LOG` if set: nothing when `RUST_LOG` reads as a filter, else the warnings of the
filter built from the level -/
def setup (level : String) (rustLog : Option String) : LogSetup :=
  let fromLevel := lenient (directives (ofLevel level))
  match rustLog with
  | some text =>
    match strict (directives text) with
    | .ok true => ⟨[], none⟩
    | .ok false => fromLevel
    | .error m => ⟨[], some m⟩
  | none => fromLevel

end LogFilter

end RoverKernel
