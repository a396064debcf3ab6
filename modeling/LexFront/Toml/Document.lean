import LexFront.Toml.Reader

/-! TOML documents. -/
namespace LexFront.Toml

/-- The text behind a byte order mark, if it starts with one. -/
def dropMark : List Char → List Char
  | '\ufeff' :: s => s
  | s => s

/-- The root table of a document, unless the text is none. -/
def parse? (text : String) : Option Entries := do
  let statements ← statements? (dropMark text.toList)
  Outline.ofStatements? statements

end LexFront.Toml
