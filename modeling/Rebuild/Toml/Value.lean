import Rebuild.Decimal

/-!
# Values of a TOML document

Besides its content a table has an origin, which decides who may add to it later: a table that was opened by a header,
or written in braces, is complete, one that only lies on the path of a header may still be opened, and one that dotted
keys made may get further dotted keys.
-/

namespace Rebuild.Toml

/-- A floating-point number as written. -/
inductive FloatText where
  | finite (negative : Bool) (magnitude : Decimal)
  | infinite (negative : Bool)
  | nan
deriving DecidableEq, Repr

/-- How a table came to be. -/
inductive Origin where
  /-- Opened by a header. -/
  | header
  /-- On the path of a header. -/
  | path
  /-- Made by a dotted key. -/
  | dotted
  /-- Written in braces. -/
  | braces
deriving DecidableEq, Repr

/-- A value of a document. -/
inductive Value where
  | string (text : String)
  | integer (n : Int)
  | float (f : FloatText)
  | boolean (b : Bool)
  | dateTime
  /-- What may be written as an integer but stands for no number. -/
  | nonNumber
  /-- An array, which headers in double brackets may have made. -/
  | array (ofHeaders : Bool) (elements : List Value)
  | table (origin : Origin) (entries : List (String × Value))

/-- The entries of a table, in the order written. -/
abbrev Entries := List (String × Value)

end Rebuild.Toml
