import RoverKernel.Text.Unicode

/-!
# Debug text of strings

`Escape.debugStr` is the debug text of a string: the text in double quotes, with `\0`, `\t`,
`\r`, `\n`, `\\` and `\"` escaped by a backslash, and every character that extends a
grapheme or is not printable written as `\u{hex}` in lower case without padding.
The debug text of a path whose name is valid UTF-8 is the same.
-/

namespace RoverKernel

namespace Escape

/-- lower-case hexadecimal digits of a natural number, without padding -/
def hexDigits (n : Nat) : String := String.ofList (Nat.toDigits 16 n)

/-- the debug text of one character inside a string -/
def debugChar (c : Char) : String :=
  if c == '\x00' then "\\0"
  else if c == '\t' then "\\t"
  else if c == '\r' then "\\r"
  else if c == '\n' then "\\n"
  else if c == '\\' then "\\\\"
  else if c == '"' then "\\\""
  else if Unicode.isGraphemeExtend c || !Unicode.isPrintable c then
    "\\u\x7b" ++ hexDigits c.toNat ++ "\x7d"
  else c.toString

/-- the debug text of a string -/
def debugStr (cs : List Char) : String :=
  "\"" ++ String.join (cs.map debugChar) ++ "\""

end Escape

end RoverKernel
