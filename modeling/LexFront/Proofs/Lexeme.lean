import LexFront.Config.Basic
import LexFront.Proofs.Text.Extent
import LexFront.Text.CharClass
import LexFront.Token.Basic
import LexFront.Token.Keyword

/-! The lexemes of the language, told by what a text starts with and without a scanner. `Reads mode r l`
holds when the text `r` starts with the lexeme `l`: each rule names the longest or the shortest start
of `r` of some form, so no rule depends on how that start is looked for.

The rules for comments, strings, words and numbers are told apart by how `r` starts. Symbols come
behind the comments, whose openers start with a symbol too, and an illegal character is one that no
other rule takes. -/
namespace LexFront
open Text

/-- How an operator or a delimiter is written; the other kinds have no spelling of their own. -/
def TokenKind.spelling? : TokenKind → Option (List Char)
  | .operator o => some o.spelling.toList
  | .delimiter d => some d.spelling.toList
  | _ => none

/-- The spelling of some operator or delimiter. -/
def IsSpelling (m : List Char) : Prop := ∃ k : TokenKind, k.spelling? = some m

/-- A whole block comment, from `-*` to `*-`: its text has at least three characters, so the two
markers share one star at most. -/
def IsClosedBlock (m : List Char) : Prop := 3 ≤ m.length ∧ EndsInCloser m

instance (m : List Char) : Decidable (IsClosedBlock m) :=
  inferInstanceAs (Decidable (_ ∧ _))

/-- Some digits. -/
def IsDigits (m : List Char) : Prop := m ≠ [] ∧ ∀ c ∈ m, isDigit c = true

instance (m : List Char) : Decidable (IsDigits m) := inferInstanceAs (Decidable (_ ∧ _))

/-- How a number is written: digits and, where numbers may have a fraction, a point and digits. -/
def IsNumber (mode : NumberMode) (m : List Char) : Prop :=
  IsDigits m ∨ mode = .fractional ∧ ∃ a b, m = a ++ '.' :: b ∧ IsDigits a ∧ IsDigits b

/-- What can be wrong with a lexeme. -/
inductive Fault where
  /-- The character starts no token. -/
  | unexpected
  /-- The string has no closing quote. -/
  | openString
  /-- The block comment has no closing marker. -/
  | openComment
  deriving DecidableEq, Repr

/-- A lexeme: the characters it takes up, the text of its token, and what is wrong with it. -/
structure Lexeme where
  kind : TokenKind
  chars : List Char
  text : List Char
  fault : Option Fault
  deriving DecidableEq, Repr

namespace Lexeme

/-- A lexeme whose token has its characters as text. -/
def plain (kind : TokenKind) (chars : List Char) : Lexeme := ⟨kind, chars, chars, none⟩

/-- The empty lexeme at the end of a text. -/
def endOfInput : Lexeme := plain .endOfInput []

/-- The token that a lexeme stands for. -/
def token (l : Lexeme) : Token := ⟨l.kind, String.ofList l.text⟩

@[simp] theorem kind_plain (k : TokenKind) (m : List Char) : (plain k m).kind = k := rfl

@[simp] theorem chars_plain (k : TokenKind) (m : List Char) : (plain k m).chars = m := rfl

@[simp] theorem text_plain (k : TokenKind) (m : List Char) : (plain k m).text = m := rfl

@[simp] theorem token_endOfInput : endOfInput.token = .endOfInput := rfl

@[simp] theorem chars_endOfInput : endOfInput.chars = [] := rfl

end Lexeme

/-- **The token rules**: the text `r` starts with the lexeme. -/
inductive Reads (mode : NumberMode) (r : List Char) : Lexeme → Prop
  | lineComment {m : List Char} (opens : ['-', '-'] <+: r) (extent : Longest ('\n' ∉ ·) m r) :
      Reads mode r (.plain .comment m)
  | blockComment {m : List Char} (opens : ['-', '*'] <+: r) (extent : Shortest IsClosedBlock m r) :
      Reads mode r (.plain .commentBlock m)
  | openBlockComment (opens : ['-', '*'] <+: r) (never : ∀ m, m <+: r → ¬ IsClosedBlock m) :
      Reads mode r ⟨.commentBlock, r, r, some .openComment⟩
  | string {t : List Char} (quoted : '"' :: t ++ ['"'] <+: r) (inner : '"' ∉ t) :
      Reads mode r ⟨.stringDelim, '"' :: t ++ ['"'], t, none⟩
  | openString {t : List Char} (quoted : r = '"' :: t) (inner : '"' ∉ t) :
      Reads mode r ⟨.stringDelim, r, t, some .openString⟩
  | keyword {m : List Char} {w : Keyword} (starts : ∃ x ∈ r.head?, isIdentStart x = true)
      (extent : Longest (fun m => ∀ c ∈ m, isIdentContinue c = true) m r)
      (reserved : (String.ofList m, w) ∈ reservedWords) :
      Reads mode r (.plain (.keyword w) m)
  | name {m : List Char} (starts : ∃ x ∈ r.head?, isIdentStart x = true)
      (extent : Longest (fun m => ∀ c ∈ m, isIdentContinue c = true) m r)
      (free : ∀ w, (String.ofList m, w) ∉ reservedWords) :
      Reads mode r (.plain .literal m)
  | number {m : List Char} (starts : ∃ x ∈ r.head?, isDigit x = true)
      (extent : Longest (IsNumber mode) m r) :
      Reads mode r (.plain .literal m)
  | symbol {k : TokenKind} {m : List Char} (notLine : ¬ ['-', '-'] <+: r)
      (notBlock : ¬ ['-', '*'] <+: r) (spelled : k.spelling? = some m)
      (extent : Longest IsSpelling m r) :
      Reads mode r (.plain k m)
  | illegal {x : Char} (first : r.head? = some x) (notQuote : x ≠ '"')
      (notWord : isIdentStart x = false) (notDigit : isDigit x = false)
      (notSymbol : ∀ m, m <+: r → ¬ IsSpelling m) :
      Reads mode r ⟨.illegal, [x], [x], some .unexpected⟩

end LexFront
