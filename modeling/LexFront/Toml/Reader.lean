import LexFront.Toml.DateTime
import LexFront.Toml.Table

/-! The parts of a TOML document: keys, values and statements. Loops go on only behind a shorter
text, so they end. -/
namespace LexFront.Toml

/-! ## Keys -/

/-- One part of a key: bare, or a string on one line. -/
def keyPart? (s : List Char) : Option (String × List Char) :=
  match s.takeWhile isBareKey with
  | [] => shortString? s
  | part => some (String.ofList part, s.dropWhile isBareKey)

/-- The parts of a key, separated by dots, with blanks around each. -/
def keyParts? (s : List Char) : Option (List String × List Char) := do
  let (part, rest) ← keyPart? (skipBlanks s)
  match skipBlanks rest with
  | '.' :: rest =>
    if rest.length < s.length then
      let (parts, rest) ← keyParts? rest
      return (part :: parts, rest)
    else none
  | rest => return ([part], rest)
termination_by s.length

/-- The greatest depth of tables and arrays in each other. -/
def depthLimit : Nat := 79

/-- A key, with blanks around it. -/
def key? (s : List Char) : Option (Key × List Char) := do
  let (parts, rest) ← keyParts? s
  if depthLimit < parts.length then none
  else
    let key ← Key.ofParts? parts
    return (key, rest)

/-! ## Values -/

/-- A value without values inside. -/
def scalar? (s : List Char) : Option (Value × List Char) :=
  match s with
  | '"' :: _ | '\'' :: _ => (string? s).map fun (t, rest) => (.string t, rest)
  | 't' :: 'r' :: 'u' :: 'e' :: rest => some (.boolean true, rest)
  | 'f' :: 'a' :: 'l' :: 's' :: 'e' :: rest => some (.boolean false, rest)
  | s =>
    match dateTime? s with
    | some r => some r
    | none => number? s

/-- The items of an array, up to its closing bracket. A comma may follow the last. -/
def arrayItems? (item : Reader Value) (s : List Char) : Option (List Value × List Char) := do
  match ← skipGaps? false s with
  | ']' :: rest => return ([], rest)
  | start =>
    let (v, rest) ← item start
    match ← skipGaps? false rest with
    | ',' :: rest =>
      if rest.length < s.length then
        let (vs, rest) ← arrayItems? item rest
        return (v :: vs, rest)
      else none
    | ']' :: rest => return ([v], rest)
    | _ => none
termination_by s.length

/-- A key with its value, and blanks around both. -/
def pair? (item : Reader Value) (s : List Char) : Option ((Key × Value) × List Char) := do
  let (key, rest) ← key? s
  let rest ← expect? '=' rest
  let (v, rest) ← item (skipBlanks rest)
  return ((key, v), skipBlanks rest)

/-- The keys and values of a table in braces, at least one, up to its closing brace. -/
def inlinePairs? (item : Reader Value) (s : List Char) :
    Option (List (Key × Value) × List Char) := do
  let (pair, rest) ← pair? item s
  match rest with
  | ',' :: rest =>
    if rest.length < s.length then
      let (pairs, rest) ← inlinePairs? item rest
      return (pair :: pairs, rest)
    else none
  | '\x7d' :: rest => return ([pair], rest)
  | _ => none
termination_by s.length

/-- The rest of a table in braces. -/
def inlineTable? (item : Reader Value) (s : List Char) : Option (Value × List Char) := do
  match skipBlanks s with
  | '\x7d' :: rest => return (.table .inline [], rest)
  | start =>
    let (pairs, rest) ← inlinePairs? item start
    let entries ← Entries.ofPairs? pairs
    return (.table .inline entries, rest)

/-- A value in which arrays and tables in braces stand in each other at most `depth` deep. -/
def value? : (depth : Nat) → Reader Value
  | 0, s => scalar? s
  | depth + 1, '[' :: s => (arrayItems? (value? depth) s).map fun (vs, rest) => (.array vs, rest)
  | depth + 1, '\x7b' :: s => inlineTable? (value? depth) s
  | _ + 1, s => scalar? s

/-! ## Statements -/

/-- A header or a key with its value. -/
def statement? (s : List Char) : Option (Statement × List Char) :=
  match s with
  | '[' :: '[' :: s => do
    let (key, rest) ← key? s
    let rest ← expect? ']' rest
    let rest ← expect? ']' rest
    return (.arrayHeader key, rest)
  | '[' :: s => do
    let (key, rest) ← key? s
    let rest ← expect? ']' rest
    return (.header key, rest)
  | s => do
    let ((key, v), rest) ← pair? (value? depthLimit) s
    return (.pair key v, rest)

/-- One line: a statement or none, and the end of the line. -/
def line? (s : List Char) : Option (Option Statement × List Char) :=
  match endLine? s with
  | some rest => some (none, rest)
  | none => do
    let (statement, rest) ← statement? (skipBlanks s)
    let rest ← endLine? rest
    return (some statement, rest)

/-- The statements of a document, in order. -/
def statements? (s : List Char) : Option (List Statement) :=
  match s with
  | [] => some []
  | s =>
    match line? s with
    | none => none
    | some (statement, rest) =>
      if rest.length < s.length then (statements? rest).map (statement.toList ++ ·) else none
termination_by s.length

end LexFront.Toml
