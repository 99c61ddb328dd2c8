import Rebuild.Text.Bytes

/-!
# Names in complaints

A name is shown so that a shell would read it back: in single quotes, in double quotes if it has a single quote, and
with escapes for bytes that cannot be printed. `shellQuoted` always quotes, `shellWord` only names that a shell would
not take as they are, `shellQuotedIfNeeded` also those that a colon follows in a complaint and that have one.
`plainlyQuoted` puts single quotes around a text whose other bytes are escaped.
-/

namespace Rebuild.Text

/-- The escape of a byte that cannot be printed. -/
def byteEscape (c : Char) : String :=
  match c.toNat with
  | 7 => "\\a"
  | 8 => "\\b"
  | 9 => "\\t"
  | 10 => "\\n"
  | 11 => "\\v"
  | 12 => "\\f"
  | 13 => "\\r"
  | n => "\\" ++ String.ofList ([n / 64, n / 8 % 8, n % 8].flatMap (Nat.toDigits 8))

/-- Whether a byte can be printed. -/
def isPrintableByte (c : Char) : Bool :=
  0x20 ≤ c.toNat && c.toNat ≤ 0x7E

/-- Whether a byte means something to a shell, at the beginning of a name or within. -/
def isShellMark (isFirst : Bool) (c : Char) : Bool :=
  " !\"$&()*;<=>[^|'\\?".toList.contains c || c.toNat == 0x60 || (isFirst && (c == '#' || c == '~'))

/-- Whether a name has to be quoted for a shell. -/
def needsShellQuotes (cs : List Char) : Bool :=
  cs.isEmpty || cs.zipIdx.any (fun (c, i) => !isPrintableByte c || isShellMark (i == 0) c) ||
    cs == ['\x7b'] || cs == ['\x7d']

/-- Whether a name with a single quote is shown in double quotes. -/
def fitsDoubleQuotes (cs : List Char) : Bool :=
  cs.zipIdx.all fun (c, i) =>
    isPrintableByte c && (c == ' ' || c == '\'' || !isShellMark false c) && !(0 < i && (c == '#' || c == '~')) &&
      !((c == '\x7b' || c == '\x7d') && 1 < cs.length)

/-- The bytes of a name between single quotes; `isEscaping` tells that the last byte was escaped. -/
def shellBody (isEscaping : Bool) : List Char → String
  | [] => if isEscaping then "" else "'"
  | c :: cs =>
    if isPrintableByte c then
      let start := if isEscaping then "''" else ""
      start ++ (if c == '\'' then "'\\''" else c.toString) ++ shellBody false cs
    else (if isEscaping then "" else "'$'") ++ byteEscape c ++ shellBody true cs

/-- A name in quotes, as a shell reads it. -/
def shellQuoted (name : String) : String :=
  let cs := byteChars name
  if cs.contains '\'' && fitsDoubleQuotes cs then "\"" ++ String.ofList cs ++ "\""
  else "'" ++ shellBody false cs ++ (if cs.getLast?.any (fun c => !isPrintableByte c) then "'" else "")

/-- A name as a shell reads it, in quotes if it has to be. -/
def shellWord (name : String) : String :=
  if needsShellQuotes (byteChars name) then shellQuoted name else name

/-- A name as a shell reads it, in quotes if it has to be or has a colon, which would seem to end it. -/
def shellQuotedIfNeeded (name : String) : String :=
  if name.toList.contains ':' then shellQuoted name else shellWord name

/-- A text in single quotes, in which backslashes, quotes and what cannot be printed are escaped. -/
def plainlyQuoted (text : String) : String :=
  "'" ++ String.join ((byteChars text).map fun c =>
    if c == '\'' then "\\'" else if c == '\\' then "\\\\"
    else if isPrintableByte c then c.toString else byteEscape c) ++ "'"

end Rebuild.Text
