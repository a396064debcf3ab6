/-! TOML values. A document is a table; a table remembers how it came to be, because that decides
what a later line may add to it. -/
namespace LexFront.Toml

/-- How a table was written. -/
inductive TableForm where
  /-- In braces, as a value; nothing is added later. -/
  | inline
  /-- Under a header of its own; the document as a whole is such a table. -/
  | header
  /-- As a part of a longer header; a header of its own may follow. -/
  | implied
  /-- By dotted keys; only dotted keys add to it. -/
  | dotted
  deriving DecidableEq, Repr

/-- A value. -/
inductive Value where
  | string (text : String)
  | integer (number : Int)
  /-- A floating-point number, as written. -/
  | float (literal : String)
  | boolean (truth : Bool)
  /-- A date, a time or both, as written. -/
  | dateTime (literal : String)
  /-- An array in brackets. -/
  | array (items : List Value)
  | table (form : TableForm) (entries : List (String × Value))
  /-- An array of tables, each under a header in double brackets. -/
  | tables (items : List (List (String × Value)))

namespace Value

/-- Whether a value is an array or a table with nothing in it. -/
def isVacant : Value → Bool
  | .table _ [] => true
  | .array [] => true
  | .tables [] => true
  | _ => false

/-- The truth that a value is. -/
def truth? : Value → Option Bool
  | .boolean b => some b
  | _ => none

end Value

/-- The entries of a table, in the order in which they were written. -/
abbrev Entries := List (String × Value)

namespace Entries

/-- The value under a key. -/
def get? (es : Entries) (key : String) : Option Value := es.lookup key

/-- The entries with another value under a key that has one. -/
def replace (es : Entries) (key : String) (v : Value) : Entries :=
  es.map fun e => if e.1 = key then (key, v) else e

/-- The entries with one more key behind the others; a key is not given twice. -/
def insertNew? (es : Entries) (key : String) (v : Value) : Option Entries :=
  match es.get? key with
  | some _ => none
  | none => some (es ++ [(key, v)])

end Entries

/-- A key with the keys of the tables around it, the outermost first. -/
structure Key where
  parents : List String
  name : String
  deriving DecidableEq, Repr

/-- The key with the given parts, of which there is at least one. -/
def Key.ofParts? (parts : List String) : Option Key :=
  parts.getLast?.map fun name => ⟨parts.dropLast, name⟩

end LexFront.Toml
