import LexFront.Cursor
import LexFront.Diagnostic.Basic
import LexFront.Log
import LexFront.Token.Basic
import LexFront.Token.Keyword

/-! The scanner turns a source text into tokens, one at each call of `Scanner.nextToken?`. No text is
refused: a character that starts no token is a token of its own, and a string or comment without an
end runs to the end of the source. What is wrong with the text is told by log events and, to a
scanner that reports, by diagnostics.

A scanner reads its source at byte offsets, and `none` stands for an offset that does not cut the
text. -/
namespace LexFront

/-- A scanner at some place in its source. -/
structure Scanner where
  cursor : Cursor
  config : ScanConfig
  /-- Whether malformed text is reported. -/
  reporting : Bool
  /-- Where the last token starts. -/
  tokenStart : Nat
  /-- Where the last token ends. -/
  tokenEnd : Nat
  deriving DecidableEq, Repr

/-- A token that was read, the cursor behind it, and what is told about it. -/
structure Lexed where
  token : Token
  cursor : Cursor
  events : List Event := []
  diagnostics : List Diagnostic := []
  deriving DecidableEq, Repr

namespace Scanner

/-- A scanner at the start of a source. -/
def start (source : String) (config : ScanConfig) (reporting : Bool) : Scanner where
  cursor := Cursor.start source
  config := config
  reporting := reporting
  tokenStart := 0
  tokenEnd := 0

/-- The span of the last token's lexeme, which includes the quotes of a string. -/
def tokenSpan (s : Scanner) : Span := ⟨s.tokenStart, s.tokenEnd⟩

/-! ## Reading one token

The functions below stand on the first character of a token and have its offset as `tokenStart`. -/

/-- The token whose text reaches from its start to `c`. -/
def lexeme? (s : Scanner) (c : Cursor) (kind : TokenKind) : Option Lexed := do
  let text ← c.sliceFrom? s.tokenStart
  return { token := ⟨kind, text⟩, cursor := c }

/-- What is reported about the token that ends before `c`. -/
def report (s : Scanner) (c : Cursor) (d : Diagnostic) : List Diagnostic :=
  if s.reporting then [d.withSpan ⟨s.tokenStart, c.position⟩] else []

/-- The symbols that are tokens whatever follows them. -/
def loneSymbols : List (Char × TokenKind) := [
  ('(', .delimiter .lParen), (')', .delimiter .rParen), ('\x7b', .delimiter .lBrace),
  ('\x7d', .delimiter .rBrace), ('[', .delimiter .lBrack), (']', .delimiter .rBrack),
  (',', .delimiter .comma), (':', .delimiter .colon), (';', .delimiter .semi),
  ('?', .delimiter .question), ('^', .operator .power)]

/-- The symbols that make up another operator with an equals sign behind them: the operator
without it and the operator with it. -/
def equalSymbols : List (Char × Operator × Operator) := [
  ('+', .plus, .plusAssign), ('*', .multi, .multiAssign), ('/', .div, .divAssign),
  ('%', .mod, .modAssign), ('=', .assign, .equal), ('<', .less, .lessEqual),
  ('>', .greater, .greaterEqual)]

/-- A symbol of one character. -/
def lexLone? (s : Scanner) (kind : TokenKind) : Option Lexed := do
  let c ← s.cursor.advance?
  s.lexeme? c kind

/-- A symbol with or without an equals sign. -/
def lexEqual? (s : Scanner) (plain compound : Operator) : Option Lexed := do
  let c ← s.cursor.advance?
  let (found, c) ← c.eat? '='
  s.lexeme? c (.operator (if found then compound else plain))

/-- The error that an unexpected character is. -/
def unexpected (text : String) : Diagnostic :=
  let d := (Diagnostic.error ("unexpected character '" ++ text ++ "'") Span.dummy).withCode
    .unexpectedCharacter
  if text = "~" then d.addHelp "use `~=` for not-equal" else d

/-- A character that starts no token. -/
def lexIllegal? (s : Scanner) : Option Lexed := do
  let c ← s.cursor.advance?
  let l ← s.lexeme? c .illegal
  return { l with
    events := [.illegalCharacter l.token.text s.tokenStart]
    diagnostics := s.report c (unexpected l.token.text) }

/-- A comment to the end of the line. The line feed stays. -/
def lexLineComment? (s : Scanner) : Option Lexed := do
  let c ← s.cursor.advanceWhile? (· != '\n')
  s.lexeme? c .comment

/-- Moves behind the next `*-`, or to the end of the source, and says which. -/
def skipBlock? (c : Cursor) : Option (Bool × Cursor) :=
  match _hc : c.current with
  | none => some (false, c)
  | some x =>
    match _h : c.advance? with
    | none => none
    | some d =>
      if x = '*' ∧ c.peek = some '-' then d.advance?.map (true, ·) else skipBlock? d
termination_by c.headroom
decreasing_by exact Cursor.headroom_lt_of_advance? _h (by simp [_hc])

/-- The error that a block comment without an end is. -/
def openComment : Diagnostic :=
  (((Diagnostic.error "unterminated block comment" Span.dummy).withCode .unterminatedComment).addNote
    "block comments do not nest").addHelp "close the comment with `*-`"

/-- A comment from `-*` to `*-`. The two markers may share the star. -/
def lexBlockComment? (s : Scanner) : Option Lexed := do
  let c ← s.cursor.advance?
  let (closed, c) ← skipBlock? c
  let l ← s.lexeme? c .commentBlock
  return { l with
    events := if closed then [] else [.unterminatedComment s.tokenStart]
    diagnostics :=
      if !closed && s.config.reportUnterminated then s.report c openComment else [] }

/-- A minus sign: a comment of either form, or one of three symbols. -/
def lexMinus? (s : Scanner) : Option Lexed :=
  if s.cursor.peek = some '-' then s.lexLineComment?
  else if s.cursor.peek = some '*' then s.lexBlockComment?
  else do
    let c ← s.cursor.advance?
    let (equal, c) ← c.eat? '='
    if equal then s.lexeme? c (.operator .subAssign)
    else
      let (angle, c) ← c.eat? '>'
      s.lexeme? c (if angle then .delimiter .arrow else .operator .sub)

/-- One, two or three dots. -/
def lexDots? (s : Scanner) : Option Lexed := do
  let c ← s.cursor.advance?
  let (second, c) ← c.eat? '.'
  if second then
    let (third, c) ← c.eat? '.'
    s.lexeme? c (if third then .delimiter .dots else .operator .concat)
  else s.lexeme? c (.delimiter .dot)

/-- A tilde, which is a token only before an equals sign. -/
def lexTilde? (s : Scanner) : Option Lexed :=
  if s.cursor.peek = some '=' then do
    let c ← s.cursor.advance?
    let c ← c.advance?
    s.lexeme? c (.operator .notEqual)
  else s.lexIllegal?

/-- The error that a string without a closing quote is. -/
def openString : Diagnostic :=
  (((Diagnostic.error "unterminated string literal" Span.dummy).withCode .unterminatedString).addNote
    "string literals have no escape sequences").addHelp "add a closing `\"`"

/-- Text up to the next double quote. Nothing inside is special. -/
def lexString? (s : Scanner) : Option Lexed := do
  let c ← s.cursor.advance?
  let start := c.position
  let c ← c.advanceWhile? (· != '"')
  let text ← c.sliceFrom? start
  let (closed, c) ← c.eat? '"'
  return {
    token := ⟨.stringDelim, text⟩
    cursor := c
    events := if closed then [] else [.unterminatedString s.tokenStart]
    diagnostics :=
      if !closed && s.config.reportUnterminated then s.report c openString else [] }

/-- A word, reserved or not. -/
def lexWord? (s : Scanner) : Option Lexed := do
  let c ← s.cursor.advance?
  let c ← c.advanceWhile? Text.isIdentContinue
  let text ← c.sliceFrom? s.tokenStart
  return { token := ⟨.ofWord text, text⟩, cursor := c }

/-- Digits and, if numbers may have a fraction, a point and more digits. -/
def lexNumber? (s : Scanner) : Option Lexed := do
  let c ← s.cursor.advanceWhile? Text.isDigit
  if s.config.numberMode = .fractional ∧ c.current = some '.' ∧ c.peek.any Text.isDigit then
    let c ← c.advance?
    let c ← c.advanceWhile? Text.isDigit
    s.lexeme? c .literal
  else s.lexeme? c .literal

/-- The token that starts with `x`, the current character. -/
def lexFrom? (s : Scanner) (x : Char) : Option Lexed :=
  match loneSymbols.lookup x with
  | some kind => s.lexLone? kind
  | none =>
    match equalSymbols.lookup x with
    | some (plain, compound) => s.lexEqual? plain compound
    | none =>
      if x = '-' then s.lexMinus?
      else if x = '.' then s.lexDots?
      else if x = '~' then s.lexTilde?
      else if x = '"' then s.lexString?
      else if Text.isIdentStart x then s.lexWord?
      else if Text.isDigit x then s.lexNumber?
      else s.lexIllegal?

/-- The token at the cursor. -/
def lex? (s : Scanner) : Option Lexed :=
  match s.cursor.current with
  | none => some { token := .endOfInput, cursor := s.cursor }
  | some x => s.lexFrom? x

end Scanner

/-- A token that a scanner returned, the scanner afterwards, and what was told on the way. -/
structure Step where
  token : Token
  scanner : Scanner
  events : List Event
  diagnostics : List Diagnostic
  deriving DecidableEq, Repr

namespace Scanner

/-- The next token, blanks before it left out. -/
def nextToken? (s : Scanner) : Option Step := do
  let c ← s.cursor.advanceWhile? Text.isBlank
  let s := { s with cursor := c, tokenStart := c.position }
  let l ← s.lex?
  let s := { s with cursor := l.cursor, tokenEnd := l.cursor.position }
  return {
    token := l.token
    scanner := s
    events := l.events ++ [.scannedToken l.token.kind s.tokenSpan]
    diagnostics := l.diagnostics }

end Scanner

end LexFront
