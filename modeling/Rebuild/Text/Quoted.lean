import Rebuild.Text.Unprintable

/-!
# Quoted text

A quoted text stands between double quotes. Quotes, backslashes and the common controls are written with a backslash,
and a character without a picture of its own by its code point, so that the quoted text always shows in full.
-/

namespace Rebuild.Text

/-- The digits of a number to base sixteen, in lower case. -/
def hexDigits (n : Nat) : String :=
  String.ofList (Nat.toDigits 16 n)

/-- A character as it is written between double quotes. -/
def quoteChar (c : Char) : String :=
  match c with
  | '\x00' => "\\0"
  | '\t' => "\\t"
  | '\n' => "\\n"
  | '\r' => "\\r"
  | '"' => "\\\""
  | '\\' => "\\\\"
  | c => if isUnprintable c then "\\u\x7b" ++ hexDigits c.toNat ++ "\x7d" else c.toString

/-- A text between double quotes. -/
def quote (s : String) : String :=
  "\"" ++ String.join (s.toList.map quoteChar) ++ "\""

end Rebuild.Text
