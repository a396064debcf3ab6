import LexFront.Text.CharClass

/-! The characters of a TOML document, and what may stand between its parts. -/
namespace LexFront.Toml

/-- Reads something off the front of a text and hands back what follows. -/
abbrev Reader (α : Type) := List Char → Option (α × List Char)

/-- A blank within a line. -/
def isBlank (c : Char) : Bool := c == ' ' || c == '\t'

/-- A character that comments and strings may hold: a tab, or no control. -/
def isText (c : Char) : Bool := c == '\t' || (0x20 ≤ c.toNat && c.toNat != 0x7F)

/-- A character of a bare key. -/
def isBareKey (c : Char) : Bool :=
  ('A' ≤ c && c ≤ 'Z') || ('a' ≤ c && c ≤ 'z') || Text.isDigit c || c == '-' || c == '_'

/-- The text behind the blanks at its front. -/
def skipBlanks (s : List Char) : List Char := s.dropWhile isBlank

/-- The text behind the line break at its front: a line feed, or a carriage return with one. -/
def lineBreak? : List Char → Option (List Char)
  | '\n' :: s => some s
  | '\r' :: '\n' :: s => some s
  | _ => none

/-- The text behind the comment at its front, if there is one. -/
def skipComment : List Char → List Char
  | '#' :: s => s.dropWhile isText
  | s => s

/-- The text behind the end of the line: blanks, at most one comment, and a line break or the end
of the document. -/
def endLine? (s : List Char) : Option (List Char) :=
  match skipComment (skipBlanks s) with
  | [] => some []
  | s => lineBreak? s

/-- The text behind blanks, line breaks and comments that end within it; `inComment` tells that a
comment is open. -/
def skipGaps? : (inComment : Bool) → List Char → Option (List Char)
  | _, '\n' :: s => skipGaps? false s
  | _, '\r' :: '\n' :: s => skipGaps? false s
  | true, c :: s => if isText c then skipGaps? true s else none
  | true, [] => none
  | false, c :: s =>
    if isBlank c then skipGaps? false s
    else if c = '#' then skipGaps? true s
    else some (c :: s)
  | false, [] => some []

end LexFront.Toml
