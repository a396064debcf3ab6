import LexFront.Toml.Value

/-! Building tables. A table is opened at most once by a header, a key is given at most once, and
dotted keys and headers do not add to each other's tables. -/
namespace LexFront.Toml

namespace Entries

/-- Applies `f` to the entries of the last table of an array of tables. -/
def overLast? (f : Entries → Option Entries) : List Entries → Option (List Entries)
  | [] => none
  | [es] => (f es).map ([·])
  | es :: rest => (overLast? f rest).map (es :: ·)

/-- The entries with `v` under a dotted key. The tables that the key names are made as they are
missing; the innermost must have been made by dotted keys, and none may have been opened by a
header or written in braces. -/
def insertDotted? (name : String) (v : Value) : (parents : List String) → Entries → Option Entries
  | [], es => es.insertNew? name v
  | p :: ps, es =>
    match es.get? p with
    | none => do
      let inner ← insertDotted? name v ps []
      return es ++ [(p, .table .dotted inner)]
    | some (.table .dotted inner) => do
      let inner ← insertDotted? name v ps inner
      return es.replace p (.table .dotted inner)
    | some (.table .implied inner) =>
      if ps.isEmpty then none
      else do
        let inner ← insertDotted? name v ps inner
        return es.replace p (.table .implied inner)
    | some (.tables items) =>
      if ps.isEmpty then none
      else do
        let items ← overLast? (insertDotted? name v ps) items
        return es.replace p (.tables items)
    | some _ => none

/-- Applies `f` to the table that a path of headers leads to, where an array of tables leads on to
its last. Missing tables are implied; a table in braces is closed. -/
def under? (f : Entries → Option Entries) : (path : List String) → Entries → Option Entries
  | [], es => f es
  | p :: ps, es =>
    match es.get? p with
    | none => do
      let inner ← under? f ps []
      return es ++ [(p, .table .implied inner)]
    | some (.table .inline _) => none
    | some (.table form inner) => do
      let inner ← under? f ps inner
      return es.replace p (.table form inner)
    | some (.tables items) => do
      let items ← overLast? (under? f ps) items
      return es.replace p (.tables items)
    | some _ => none

/-- Opens a table by a header: a new one, or one that was only implied so far. -/
def openTable? (name : String) (es : Entries) : Option Entries :=
  match es.get? name with
  | none => some (es ++ [(name, .table .header [])])
  | some (.table .implied inner) => some (es.replace name (.table .header inner))
  | some _ => none

/-- Opens the next table of an array of tables. -/
def openArrayTable? (name : String) (es : Entries) : Option Entries :=
  match es.get? name with
  | none => some (es ++ [(name, .tables [[]])])
  | some (.tables items) => some (es.replace name (.tables (items ++ [[]])))
  | some _ => none

/-- The entries that a list of keys with values makes up. -/
def ofPairs? (pairs : List (Key × Value)) : Option Entries :=
  pairs.foldlM (fun es (k, v) => es.insertDotted? k.name v k.parents) []

end Entries

/-- A line of a document that says something. -/
inductive Statement where
  | header (key : Key)
  | arrayHeader (key : Key)
  | pair (key : Key) (value : Value)

/-- A document read so far: its entries and the path of the header that is open. -/
structure Outline where
  root : Entries
  opened : List String

namespace Outline

/-- A document without a line. -/
def empty : Outline := ⟨[], []⟩

/-- The document after one more statement. -/
def add? (o : Outline) : Statement → Option Outline
  | .header k => do
    let root ← o.root.under? (Entries.openTable? k.name) k.parents
    return ⟨root, k.parents ++ [k.name]⟩
  | .arrayHeader k => do
    let root ← o.root.under? (Entries.openArrayTable? k.name) k.parents
    return ⟨root, k.parents ++ [k.name]⟩
  | .pair k v => do
    let root ← o.root.under? (Entries.insertDotted? k.name v k.parents) o.opened
    return { o with root := root }

/-- The table that a list of statements describes. -/
def ofStatements? (statements : List Statement) : Option Entries :=
  (statements.foldlM add? empty).map Outline.root

end Outline

end LexFront.Toml
