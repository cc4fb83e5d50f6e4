/-
# Escaped characters

How a single character is shown inside a message: as itself if a reader can see it, and by an escape
if it is a control, a quote or a backslash, shows nothing, or would attach to the quote before it.
-/
import MiniPascal.Text.GraphemeExtend
import MiniPascal.Text.Unprintable

namespace MiniPascal

/-- The escape by code point: lower-case hexadecimal digits, without padding, in braces. -/
def codePointEscape (c : Char) : String :=
  "\\u\x7b" ++ String.ofList (Nat.toDigits 16 c.toNat) ++ "\x7d"

/-- The character as messages show it. -/
def escapeChar (c : Char) : String :=
  match c with
  | '\x00' => "\\0"
  | '\t' => "\\t"
  | '\n' => "\\n"
  | '\r' => "\\r"
  | '"' => "\\\""
  | '\'' => "\\'"
  | '\\' => "\\\\"
  | c => if isGraphemeExtend c || isUnprintable c then codePointEscape c else c.toString

end MiniPascal
