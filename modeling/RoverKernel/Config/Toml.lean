import RoverKernel.Float.Decimal

/-!
# TOML documents

A reader for TOML 1.0, the format of the kernel's configuration file.  `Toml.parse` turns a
document into its root table, or refuses it.

The grammar is read by step parsers `List Char → Except String (α × List Char)` that consume
a prefix of the input and hand back the rest.  Where the grammar offers alternatives that
start alike (a value starting with a digit is a date-time, a float or an integer), a reader
answers `none` when its alternative does not apply and an error when the text committed to
it and then went wrong.  Loops and nesting are bounded by a fuel argument no smaller than
the length of the input, since every round consumes a character.

The meaning of a document is built as it is read (`Toml.Builder`): a table header opens a
table, a key–value line adds to the open table, and dotted keys create tables on the way.
`TableOrigin` records how each table came to exist, because that decides what may extend it
later: a table is defined once; an inline table is closed; a table made by dotted keys can
only be extended by dotted keys; a table made on the way to a deeper header can still be
defined by its own header, once.  Entries keep the order in which they were defined, and a
table defined by its header after it was made on the way to a deeper one moves to where
that header stands; this order is the order in which the configuration reads the entries.
-/

namespace RoverKernel

/-- how a table came to exist -/
inductive TableOrigin where
  /-- defined by a `[table]` header, or the root, or an element of an array of tables -/
  | header
  /-- created on the way to a deeper header such as `[a.b.c]`; may still get its header -/
  | implicit
  /-- created by a dotted key such as `a.b = 1` -/
  | dotted
  /-- an inline table `{ ... }`, which is a value and closed. -/
  | inline
deriving DecidableEq, Repr

/-- a TOML value -/
inductive TomlValue where
  | string (s : String)
  /-- a 64-bit signed integer -/
  | integer (i : Int)
  /-- a double-precision float -/
  | float (x : F64)
  | boolean (b : Bool)
  /-- a date, a time or both, kept as written -/
  | datetime (text : String)
  /-- an array; `ofTables` when it was made by `[[header]]` lines -/
  | array (items : List TomlValue) (ofTables : Bool)
  /-- a table with its entries in order of definition -/
  | table (origin : TableOrigin) (entries : List (String × TomlValue))
deriving Repr, Inhabited

abbrev TomlTable := List (String × TomlValue)

namespace Toml

/-- a step parser -/
abbrev Step (α : Type) := List Char → Except String (α × List Char)

/-- `ws = *( space / tab )` -/
def isWs (c : Char) : Bool := c = ' ' || c = '\t'

/-- characters allowed in comments and in the text of strings: tab, printable ASCII and all
of Unicode beyond ASCII; other control characters and DEL are not -/
def isTextChar (c : Char) : Bool := c = '\t' || (0x20 ≤ c.toNat && c.toNat ≠ 0x7F)

/-- `unquoted-key = 1*( ALPHA / DIGIT / "-" / "_" )` -/
def isBareKeyChar (c : Char) : Bool := c.isAlphanum || c = '_' || c = '-'

def hexValue (c : Char) : Option Nat :=
  if c.isDigit then some (c.toNat - '0'.toNat)
  else if 'a' ≤ c ∧ c ≤ 'f' then some (c.toNat - 'a'.toNat + 10)
  else if 'A' ≤ c ∧ c ≤ 'F' then some (c.toNat - 'A'.toNat + 10)
  else none

def skipWs (cs : List Char) : List Char := cs.dropWhile isWs

/-- a line's end: white space, an optional comment, then a newline or the end of input -/
def lineEnd (cs : List Char) : Except String (List Char) :=
  let cs := skipWs cs
  let cs := match cs with
    | '#' :: rest => rest.dropWhile isTextChar
    | _ => cs
  match cs with
  | [] => .ok []
  | '\n' :: rest => .ok rest
  | '\r' :: '\n' :: rest => .ok rest
  | _ => .error "expected newline"

/-- `ws-comment-newline = *( wschar / [ comment ] newline )`, between the values of an
array; `inComment` while inside a comment -/
def skipWsCommentNewline (inComment : Bool) : List Char → List Char
  | [] => []
  | c :: rest =>
    if inComment && isTextChar c then skipWsCommentNewline true rest
    else if !inComment && isWs c then skipWsCommentNewline false rest
    else if c = '\n' then skipWsCommentNewline false rest
    else if c = '\r' then
      match rest with
      | '\n' :: more => skipWsCommentNewline false more
      | _ => c :: rest
    else if !inComment && c = '#' then skipWsCommentNewline true rest
    else c :: rest

/-! ## Strings -/

/-- the character of a `\uXXXX` or `\UXXXXXXXX` escape: exactly `n` hex digits naming a
Unicode scalar value -/
def unicodeEscape (n : Nat) (cs : List Char) : Except String (Char × List Char) :=
  let ds := cs.take n
  let vals := ds.filterMap hexValue
  let v := vals.foldl (fun acc d => 16 * acc + d) 0
  if ds.length < n || vals.length < n then .error "invalid unicode escape"
  else if v < 0xD800 ∨ (0xDFFF < v ∧ v < 0x110000) then .ok (Char.ofNat v, cs.drop n)
  else .error "invalid unicode escape"

/-- an escape sequence after the backslash:
`escape-seq-char = %x22 / %x5C / %x62 / %x66 / %x6E / %x72 / %x74 / %x75 4HEXDIG / %x55 8HEXDIG` -/
def escape : Step Char
  | '"' :: rest => .ok ('"', rest)
  | '\\' :: rest => .ok ('\\', rest)
  | 'b' :: rest => .ok (Char.ofNat 8, rest)
  | 'f' :: rest => .ok (Char.ofNat 12, rest)
  | 'n' :: rest => .ok ('\n', rest)
  | 'r' :: rest => .ok ('\r', rest)
  | 't' :: rest => .ok ('\t', rest)
  | 'u' :: rest => unicodeEscape 4 rest
  | 'U' :: rest => unicodeEscape 8 rest
  | _ => .error "invalid escape sequence"

/-- the rest of a basic string `"..."` after its opening quote; `acc` holds the characters
read so far, last first -/
def basicString : Nat → List Char → Step String
  | 0, _, _ => .error "unterminated string"
  | _, _, [] => .error "unterminated string"
  | fuel + 1, acc, c :: rest =>
    if c = '"' then .ok (String.ofList acc.reverse, rest)
    else if c = '\\' then
      match escape rest with
      | .ok (e, more) => basicString fuel (e :: acc) more
      | .error err => .error err
    else if isTextChar c then basicString fuel (c :: acc) rest
    else .error "invalid character in string"

/-- the rest of a literal string `'...'` after its opening quote -/
def literalString (acc : List Char) : Step String
  | [] => .error "unterminated string"
  | c :: rest =>
    if c = '\'' then .ok (String.ofList acc.reverse, rest)
    else if isTextChar c then literalString (c :: acc) rest
    else .error "invalid character in string"

/-- drops a newline right after the opening delimiter of a multi-line string -/
def trimFirstNewline : List Char → List Char
  | '\n' :: rest => rest
  | '\r' :: '\n' :: rest => rest
  | cs => cs

/-- skips white space and line breaks, a carriage return only as part of `\r\n` -/
def skipBlank : List Char → List Char
  | '\r' :: '\n' :: rest => skipBlank rest
  | c :: rest => if isWs c || c = '\n' then skipBlank rest else c :: rest
  | [] => []

/-- the body of a multi-line string after its opening delimiter and first newline, with
`q` its quote character and `escapes` whether backslash escapes apply.  Three quotes close
the string; one or two more quotes right before them belong to the text.  A backslash at
the end of a line removes the line break and the white space after it. -/
def multiLineBody (q : Char) (escapes : Bool) : Nat → List Char → Step String
  | 0, _, _ => .error "unterminated string"
  | _, _, [] => .error "unterminated string"
  | fuel + 1, acc, c :: rest =>
    if c = q ∧ rest.take 2 = [q, q] then
      let k := min ((c :: rest).takeWhile (· = q)).length 5
      .ok (String.ofList (acc.reverse ++ List.replicate (k - 3) q), (c :: rest).drop k)
    else if c = q then multiLineBody q escapes fuel (c :: acc) rest
    else if c = '\\' && escapes then
      match skipWs rest with
      | '\n' :: more | '\r' :: '\n' :: more => multiLineBody q escapes fuel acc (skipBlank more)
      | _ =>
        match escape rest with
        | .ok (e, more) => multiLineBody q escapes fuel (e :: acc) more
        | .error err => .error err
    else if c = '\n' then multiLineBody q escapes fuel ('\n' :: acc) rest
    else if c = '\r' then
      match rest with
      | '\n' :: more => multiLineBody q escapes fuel ('\n' :: acc) more
      | _ => .error "invalid character in string"
    else if isTextChar c then multiLineBody q escapes fuel (c :: acc) rest
    else .error "invalid character in string"

/-- any string value, its opening quote still ahead -/
def stringValue : Step String
  | '"' :: '"' :: '"' :: rest =>
    let body := trimFirstNewline rest
    multiLineBody '"' true (body.length + 1) [] body
  | '"' :: rest => basicString (rest.length + 1) [] rest
  | '\'' :: '\'' :: '\'' :: rest =>
    let body := trimFirstNewline rest
    multiLineBody '\'' false (body.length + 1) [] body
  | '\'' :: rest => literalString [] rest
  | _ => .error "expected string"

/-! ## Keys -/

/-- `simple-key = quoted-key / unquoted-key`; quoted keys are single-line strings -/
def simpleKey : Step String
  | '"' :: rest => basicString (rest.length + 1) [] rest
  | '\'' :: rest => literalString [] rest
  | cs =>
    let name := cs.takeWhile isBareKeyChar
    if name.isEmpty then .error "expected key"
    else .ok (String.ofList name, cs.dropWhile isBareKeyChar)

/-- the parts of a dotted key with the white space around them, `fuel` bounding the parts -/
def keyParts : Nat → Step (List String)
  | 0, _ => .error "expected key"
  | fuel + 1, cs => do
    let (k, rest) ← simpleKey (skipWs cs)
    match skipWs rest with
    | '.' :: more =>
      let (ks, rest) ← keyParts fuel more
      pure (k :: ks, rest)
    | more => pure ([k], more)

/-- how deep tables and arrays may nest: a value may sit inside fewer containers than this,
and a dotted key may have fewer parts -/
def nestingLimit : Nat := 80

/-- `key = simple-key / dotted-key`, with the white space around it; a key of
`nestingLimit` parts or more is refused -/
def key (cs : List Char) : Except String (List String × List Char) := do
  let (parts, rest) ← keyParts (cs.length + 1) cs
  if nestingLimit ≤ parts.length then throw "recursion limit exceeded"
  pure (parts, rest)

/-! ## Numbers and date-times -/

/-- the digits of `c :: cs` up to the first character that is neither a digit nor an
underscore followed by a digit, underscores removed; an underscore not followed by a digit
is an error -/
def digitRun (isDigitChar : Char → Bool) : List Char → List Char → Except String (List Char × List Char)
  | acc, d :: more =>
    if isDigitChar d then digitRun isDigitChar (d :: acc) more
    else if d = '_' then
      match more with
      | e :: more' =>
        if isDigitChar e then digitRun isDigitChar (e :: acc) more' else .error "expected digit"
      | [] => .error "expected digit"
    else .ok (acc.reverse, d :: more)
  | acc, [] => .ok (acc.reverse, [])

/-- `zero-prefixable-int = DIGIT *( DIGIT / underscore DIGIT )`, required -/
def zeroPrefixable : List Char → Except String (List Char × List Char)
  | c :: rest => if c.isDigit then digitRun Char.isDigit [c] rest else .error "expected digit"
  | [] => .error "expected digit"

/-- `dec-int = [ minus / plus ] unsigned-dec-int`: the sign and the digits, or `none` when
no digit follows the sign.  A leading zero stands alone. -/
def decInt (cs : List Char) : Except String (Option (Bool × List Char × List Char)) :=
  let (neg, body) := match cs with
    | '-' :: rest => (true, rest)
    | '+' :: rest => (false, rest)
    | _ => (false, cs)
  match body with
  | '0' :: rest => .ok (some (neg, ['0'], rest))
  | c :: rest =>
    if '1' ≤ c ∧ c ≤ '9' then (digitRun Char.isDigit [c] rest).map fun (ds, r) => some (neg, ds, r)
    else .ok none
  | [] => .ok none

/-- the value of decimal digits -/
def digitsValue (ds : List Char) : Nat :=
  ds.foldl (fun acc c => 10 * acc + (c.toNat - '0'.toNat)) 0

/-- `exp = "e" float-exp-part`, or `none` when no `e` follows -/
def exponentPart : List Char → Except String (Option (Int × List Char))
  | c :: more =>
    if c = 'e' || c = 'E' then
      let (neg, digits) := match more with
        | '-' :: m => (true, m)
        | '+' :: m => (false, m)
        | m => (false, m)
      (zeroPrefixable digits).map fun (ds, r) =>
        let v : Int := digitsValue ds
        some (if neg then -v else v, r)
    else .ok none
  | [] => .ok none

def positiveInfinity : F64 := F64.ofNat FloatFormat.binary64.infBits

/-- the quiet NaN, negative when asked -/
def quietNaN (neg : Bool) : F64 :=
  F64.ofNat (FloatFormat.binary64.signOf neg + FloatFormat.binary64.canonicalNaN)

/-- `special-float = [ minus / plus ] ( inf / nan )` -/
def specialFloat (cs : List Char) : Option (F64 × List Char) :=
  let (neg, body) := match cs with
    | '-' :: rest => (true, rest)
    | '+' :: rest => (false, rest)
    | _ => (false, cs)
  match body with
  | 'i' :: 'n' :: 'f' :: rest =>
    some (F64.ofNat (FloatFormat.binary64.signOf neg + FloatFormat.binary64.infBits), rest)
  | 'n' :: 'a' :: 'n' :: rest => some (quietNaN neg, rest)
  | _ => none

/-- `float = float-int-part ( exp / frac [ exp ] ) / special-float`, or `none` when the text
is not a float.  The value is the decimal rounded once to double precision; a literal that
rounds to positive infinity is refused. -/
def float (cs : List Char) : Except String (Option (F64 × List Char)) := do
  match ← decInt cs with
  | none => pure (specialFloat cs)
  | some (neg, intDigits, rest) =>
    let parts : Option (List Char × Int × List Char) ← match rest with
      | '.' :: more => do
        let (fs, r) ← zeroPrefixable more
        match ← exponentPart r with
        | some (e, r') => pure (some (fs, e, r'))
        | none => pure (some (fs, 0, r))
      | _ => do
        match ← exponentPart rest with
        | some (e, r') => pure (some ([], e, r'))
        | none => pure none
    match parts with
    | none => pure (specialFloat cs)
    | some (fracDigits, e, rest) =>
      let x := F64.ofDecimal neg (digitsValue (intDigits ++ fracDigits)) (e - fracDigits.length)
      if x = positiveInfinity then throw "float out of range" else pure (some (x, rest))

/-- the value of digits in base `b` -/
def radixValue (b : Nat) (ds : List Char) : Nat :=
  ds.foldl (fun acc c => b * acc + ((hexValue c).getD 0)) 0

/-- the largest 64-bit signed integer -/
def i64Max : Nat := Nat.pow 2 63 - 1

/-- `integer = dec-int / hex-int / oct-int / bin-int`, within 64 bits -/
def integer (cs : List Char) : Except String (Int × List Char) :=
  let radix (b : Nat) (isDigitChar : Char → Bool) (body : List Char) :
      Except String (Int × List Char) :=
    match body with
    | c :: rest =>
      if isDigitChar c then do
        let (ds, r) ← digitRun isDigitChar [c] rest
        let v := radixValue b ds
        if i64Max < v then throw "integer out of range" else pure (v, r)
      else .error "expected digit"
    | [] => .error "expected digit"
  match cs with
  | '0' :: 'x' :: rest => radix 16 (fun c => (hexValue c).isSome) rest
  | '0' :: 'o' :: rest => radix 8 (fun c => '0' ≤ c ∧ c ≤ '7') rest
  | '0' :: 'b' :: rest => radix 2 (fun c => c = '0' ∨ c = '1') rest
  | _ => do
    match ← decInt cs with
    | none => throw "invalid value"
    | some (neg, ds, r) =>
      let v := digitsValue ds
      if neg then
        if i64Max + 1 < v then throw "integer out of range" else pure (-(v : Int), r)
      else if i64Max < v then throw "integer out of range" else pure (v, r)

/-- `n` ASCII digits at the head, with their value -/
def fixedDigits (n : Nat) (cs : List Char) : Option (Nat × List Char) :=
  let ds := cs.take n
  if ds.length = n ∧ ds.all Char.isDigit then some (digitsValue ds, cs.drop n) else none

/-- `partial-time = time-hour ":" time-minute ":" time-second [ time-secfrac ]`: `none`
unless it starts with an hour and a colon, and complete after that -/
def partialTime (cs : List Char) : Except String (Option (List Char)) :=
  match fixedDigits 2 cs with
  | some (h, ':' :: rest) =>
    if 23 < h then .ok none
    else
      match fixedDigits 2 rest with
      | some (m, ':' :: rest) =>
        match fixedDigits 2 rest with
        | some (s, rest) =>
          if 59 < m ∨ 60 < s then .error "time out of range"
          else
            match rest with
            | '.' :: frac =>
              if (frac.takeWhile Char.isDigit).isEmpty then .error "expected digit"
              else .ok (some (frac.dropWhile Char.isDigit))
            | _ => .ok (some rest)
        | none => .error "expected second"
      | _ => .error "expected minute"
  | _ => .ok none

/-- `time-offset = "Z" / time-numoffset`, or `none` -/
def timeOffset (cs : List Char) : Except String (Option (List Char)) :=
  match cs with
  | c :: rest =>
    if c = 'Z' || c = 'z' then .ok (some rest)
    else if c = '+' || c = '-' then
      match fixedDigits 2 rest with
      | some (h, ':' :: rest) =>
        match fixedDigits 2 rest with
        | some (m, rest) => if 23 < h ∨ 59 < m then .error "offset out of range" else .ok (some rest)
        | none => .error "expected offset minute"
      | _ => .error "expected offset hour"
    else .ok none
  | [] => .ok none

/-- days in a month of the proleptic Gregorian calendar -/
def daysInMonth (year month : Nat) : Nat :=
  if month = 2 then
    if year % 4 = 0 ∧ (year % 100 ≠ 0 ∨ year % 400 = 0) then 29 else 28
  else if month = 4 ∨ month = 6 ∨ month = 9 ∨ month = 11 then 30
  else 31

/-- a date, a date with a time (and an offset), or a time alone; `none` when the text is not
one.  Answers the rest of the input. -/
def dateTimeRest (cs : List Char) : Except String (Option (List Char)) :=
  match fixedDigits 4 cs with
  | some (y, '-' :: rest) =>
    match fixedDigits 2 rest with
    | some (mo, '-' :: rest) =>
      match fixedDigits 2 rest with
      | some (d, rest) =>
        if mo < 1 ∨ 12 < mo ∨ d < 1 ∨ daysInMonth y mo < d then .error "date out of range"
        else
          match rest with
          | c :: time =>
            if c = 'T' || c = 't' || c = ' ' then do
              match ← partialTime time with
              | some r =>
                match ← timeOffset r with
                | some r' => pure (some r')
                | none => pure (some r)
              | none => pure (some rest)
            else .ok (some rest)
          | [] => .ok (some [])
      | none => .error "expected day"
    | _ => .error "expected month"
  | _ => partialTime cs

/-! ## Tables -/

/-- replaces the entry of key `k` -/
def replaceEntry (t : TomlTable) (k : String) (v : TomlValue) : TomlTable :=
  t.map fun (k', v') => if k' = k then (k, v) else (k', v')

/-- applies `f` to the table at `path` below the table `t` of origin `origin`, creating the
missing tables on the way (dotted ones when `dotted`, else implicit ones).  The way goes
into the last element of an array of tables; it may not go into a value, an inline table,
or, for a dotted key, a table defined by a header. -/
def descend (path : List String) (dotted : Bool)
    (f : TableOrigin → TomlTable → Except String TomlTable) (origin : TableOrigin)
    (t : TomlTable) : Except String TomlTable :=
  match path with
  | [] => f origin t
  | k :: ks =>
    match t.lookup k with
    | none => do
      let o := if dotted then TableOrigin.dotted else .implicit
      let sub ← descend ks dotted f o []
      pure (t ++ [(k, .table o sub)])
    | some (.table o sub) =>
      if o = .inline ∨ (dotted ∧ o = .header) then .error "duplicate key"
      else do
        let sub ← descend ks dotted f o sub
        pure (replaceEntry t k (.table o sub))
    | some (.array items true) =>
      match items.getLast? with
      | some (.table o sub) => do
        let sub ← descend ks dotted f o sub
        pure (replaceEntry t k (.array (items.dropLast ++ [.table o sub]) true))
      | _ => .error "duplicate key"
    | some _ => .error "duplicate key"

/-- adds `key = v` for a possibly dotted key to a table of origin `origin`.  The key may be
new only, and the table it lands in must have been made by dotted keys exactly when the key
is dotted. -/
def insertKeyValue (path : List String) (v : TomlValue) (origin : TableOrigin) (t : TomlTable) :
    Except String TomlTable :=
  match path.getLast? with
  | none => .error "expected key"
  | some k =>
    let front := path.dropLast
    descend front true (fun o t =>
      if (o == .dotted) == front.isEmpty then .error "duplicate key"
      else if (t.lookup k).isSome then .error "duplicate key"
      else .ok (t ++ [(k, v)])) origin t

/-- the inline table holding the key–value pairs `pairs` -/
def inlineTable (pairs : List (List String × TomlValue)) : Except String TomlValue :=
  (pairs.foldlM (fun t (path, v) => insertKeyValue path v .header t) []).map (.table .inline)

/-! ## Values -/

mutual

/-- `val = string / boolean / array / inline-table / date-time / float / integer`, inside
`depth` arrays and inline tables -/
def value : Nat → Nat → Step TomlValue
  | 0, _, _ => .error "nesting too deep"
  | fuel + 1, depth, cs =>
    match cs with
    | '"' :: _ | '\'' :: _ => (stringValue cs).map fun (s, r) => (.string s, r)
    | '[' :: rest =>
      if nestingLimit ≤ depth + 1 then .error "recursion limit exceeded"
      else arrayItems fuel (depth + 1) [] rest
    | '{' :: rest =>
      if nestingLimit ≤ depth + 1 then .error "recursion limit exceeded"
      else do
        let (pairs, r) ← inlineItems fuel (depth + 1) [] rest
        let t ← inlineTable pairs
        pure (t, r)
    | 't' :: 'r' :: 'u' :: 'e' :: rest => .ok (.boolean true, rest)
    | 'f' :: 'a' :: 'l' :: 's' :: 'e' :: rest => .ok (.boolean false, rest)
    | 'i' :: 'n' :: 'f' :: rest => .ok (.float positiveInfinity, rest)
    | 'n' :: 'a' :: 'n' :: rest => .ok (.float (quietNaN false), rest)
    | c :: _ =>
      if c = '+' || c = '-' || c.isDigit then do
        match ← dateTimeRest cs with
        | some r => pure (.datetime (String.ofList (cs.take (cs.length - r.length))), r)
        | none =>
          match ← float cs with
          | some (x, r) => pure (.float x, r)
          | none =>
            let (i, r) ← integer cs
            pure (.integer i, r)
      else .error "invalid value"
    | [] => .error "expected value"

/-- the values of an array after its `[`, `acc` holding those read, last first; the array is
the `depth`-th container -/
def arrayItems : Nat → Nat → List TomlValue → Step TomlValue
  | 0, _, _, _ => .error "nesting too deep"
  | fuel + 1, depth, acc, cs =>
    match skipWsCommentNewline false cs with
    | ']' :: rest => .ok (.array acc.reverse false, rest)
    | cs => do
      let (v, rest) ← value fuel depth cs
      match skipWsCommentNewline false rest with
      | ',' :: more => arrayItems fuel depth (v :: acc) more
      | ']' :: more => pure (.array (v :: acc).reverse false, more)
      | _ => throw "expected comma or end of array"

/-- the key–value pairs of an inline table after its `{`, on one line, separated by commas,
without a trailing comma; the table is the `depth`-th container -/
def inlineItems : Nat → Nat → List (List String × TomlValue) →
    Step (List (List String × TomlValue))
  | 0, _, _, _ => .error "nesting too deep"
  | fuel + 1, depth, acc, cs =>
    match acc, skipWs cs with
    | [], '}' :: rest => .ok ([], rest)
    | _, _ => do
      let (path, rest) ← key cs
      match rest with
      | '=' :: more =>
        let (v, rest) ← value fuel depth (skipWs more)
        match skipWs rest with
        | ',' :: more => inlineItems fuel depth ((path, v) :: acc) more
        | '}' :: more => pure (((path, v) :: acc).reverse, more)
        | _ => throw "expected comma or end of inline table"
      | _ => throw "expected ="

end

/-! ## Documents -/

/-- the document read so far and the path of the open table -/
structure Builder where
  root : TomlTable := []
  /-- the table that key–value lines go to -/
  current : List String := []

namespace Builder

/-- `key = value` in the open table -/
def keyValue (b : Builder) (path : List String) (v : TomlValue) : Except String Builder := do
  let root ← descend b.current false (insertKeyValue path v) .header b.root
  pure { b with root }

/-- `[path]`: defines the table, which must be new or only implicit so far.  A table made
implicitly before is taken out and put back last, where its header stands, so the entries
of a table follow the order of their headers. -/
def tableHeader (b : Builder) (path : List String) : Except String Builder := do
  let some k := path.getLast? | throw "expected key"
  let root ← descend path.dropLast false (fun _ t =>
    match t.lookup k with
    | some (.table .implicit sub) => .ok (t.filter (·.1 ≠ k) ++ [(k, .table .header sub)])
    | some _ => .error "duplicate key"
    | none => .ok (t ++ [(k, .table .header [])])) .header b.root
  pure { root, current := path }

/-- `[[path]]`: appends a table to the array of tables, which must be new or made by such
headers -/
def arrayHeader (b : Builder) (path : List String) : Except String Builder := do
  let some k := path.getLast? | throw "expected key"
  let root ← descend path.dropLast false (fun _ t =>
    match t.lookup k with
    | some (.array items true) => .ok (replaceEntry t k (.array (items ++ [.table .header []]) true))
    | some _ => .error "duplicate key"
    | none => .ok (t ++ [(k, .array [.table .header []] true)])) .header b.root
  pure { root, current := path }

end Builder

/-- reads the lines of a document: blank lines, comments, table headers and key–value
pairs -/
def document : Nat → Builder → List Char → Except String Builder
  | 0, b, _ => .ok b
  | fuel + 1, b, cs =>
    match skipWs cs with
    | [] => .ok b
    | '\n' :: rest => document fuel b rest
    | '#' :: rest => do document fuel b (← lineEnd ('#' :: rest))
    | '[' :: '[' :: rest => do
      let (path, rest) ← key rest
      match rest with
      | ']' :: ']' :: more => document fuel (← b.arrayHeader path) (← lineEnd more)
      | _ => throw "expected ]]"
    | '[' :: rest => do
      let (path, rest) ← key rest
      match rest with
      | ']' :: more => document fuel (← b.tableHeader path) (← lineEnd more)
      | _ => throw "expected ]"
    | '\r' :: '\n' :: rest => document fuel b rest
    | line => do
      let (path, rest) ← key line
      match rest with
      | '=' :: more =>
        let more := skipWs more
        let (v, rest) ← value (more.length + 1) 0 more
        document fuel (← b.keyValue path v) (← lineEnd rest)
      | _ => throw "expected ="

/-- the root table of a TOML document; a byte-order mark at the start is skipped -/
def parse (s : String) : Except String TomlTable :=
  let cs := match s.toList with
    | '\uFEFF' :: rest => rest
    | cs => cs
  (document (cs.length + 1) {} cs).map (·.root)

end Toml

end RoverKernel
