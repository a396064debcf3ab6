/-! Diagnostic codes: a prefix that names the family and a number. -/
namespace LexFront

/-- The code of a diagnostic. Two codes are equal when both parts are, however they are written. -/
structure DiagnosticCode where
  family : String
  number : Nat
  deriving DecidableEq, Repr

namespace DiagnosticCode

/-- The code as text: the family, then the number in at least four digits. -/
def text (c : DiagnosticCode) : String := c.family ++ String.ofList (digits c.number)
where
  /-- A number in decimal, filled up with zeros to four digits. -/
  digits (n : Nat) : List Char := (Nat.toDigits 10 n).leftpad 4 '0'

/-- The code as a record. -/
def record (c : DiagnosticCode) : String := "DiagnosticCode(" ++ c.text ++ ")"

/-- A character that starts no token. -/
def unexpectedCharacter : DiagnosticCode := ⟨"E", 1001⟩

/-- A string literal without a closing quote. -/
def unterminatedString : DiagnosticCode := ⟨"E", 1002⟩

/-- A block comment without a closing marker. -/
def unterminatedComment : DiagnosticCode := ⟨"E", 1003⟩

end DiagnosticCode

end LexFront
