import LexFront.Token.Kind
import LexFront.Text.Quoted

/-! Tokens: a kind with the text behind it. -/
namespace LexFront

/-- A token. The text of a string literal is what stands between its quotes; every other token's
text is its whole lexeme, and the end of input has none. -/
structure Token where
  kind : TokenKind
  text : String
  deriving DecidableEq, Repr

namespace Token

/-- The token at the end of the source. -/
def endOfInput : Token := ⟨.endOfInput, ""⟩

/-- Whether the token marks the end of the source; its text does not matter. -/
def isEnd (t : Token) : Bool := t.kind == .endOfInput

/-- A token as it is written in messages: its kind, then its text in quotes. -/
def display (t : Token) : String := t.kind.name ++ " " ++ Text.quote t.text

@[simp] theorem isEnd_endOfInput : endOfInput.isEnd = true := rfl

@[simp] theorem isEnd_eq_true_iff {t : Token} : t.isEnd = true ↔ t.kind = .endOfInput := by
  simp [isEnd]

end Token

end LexFront
