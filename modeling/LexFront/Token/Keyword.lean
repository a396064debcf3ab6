import LexFront.Token.Kind

/-! Reserved words: the spellings that a word of the source may not have without being a keyword. -/
namespace LexFront

/-- The reserved words with their keywords. No spelling is reserved for `Keyword.kwRepeat`. -/
def reservedWords : List (String × Keyword) := [
  ("function", .kwFunction), ("local", .kwLocal), ("if", .kwIf), ("else", .kwElse),
  ("elseif", .kwElseIf), ("and", .kwAnd), ("or", .kwOr), ("not", .kwNot), ("while", .kwWhile),
  ("for", .kwFor), ("return", .kwReturn), ("break", .kwBreak), ("continue", .kwContinue),
  ("true", .kwTrue), ("false", .kwFalse), ("do", .kwDo), ("in", .kwIn), ("then", .kwThen),
  ("end", .kwEnd)]

namespace TokenKind

/-- The kind of a word: its keyword if it is reserved, a literal otherwise. Case matters. -/
def ofWord (word : String) : TokenKind :=
  match reservedWords.lookup word with
  | some k => .keyword k
  | none => .literal

theorem ofWord_eq_literal_iff {word : String} :
    ofWord word = .literal ↔ reservedWords.lookup word = none := by
  unfold ofWord
  cases reservedWords.lookup word <;> simp

end TokenKind

end LexFront
