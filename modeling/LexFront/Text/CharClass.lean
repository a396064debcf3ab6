import LexFront.Text.Letter

/-! The classes of characters that decide where words, numbers and blanks begin and end. -/
namespace LexFront.Text

/-- An ASCII digit. -/
def isDigit (c : Char) : Bool := '0' ≤ c && c ≤ '9'

/-- What a word may start with. -/
def isIdentStart (c : Char) : Bool := c == '_' || isLetter c

/-- What a word may go on with. -/
def isIdentContinue (c : Char) : Bool := isIdentStart c || isDigit c

/-- What separates tokens: space, tab, line feed and carriage return. -/
def isBlank (c : Char) : Bool := c == ' ' || c == '\t' || c == '\n' || c == '\r'

/-- The classes by name. -/
inductive CharClass where
  | letter
  | identStart
  | identContinue
  | blank
  deriving DecidableEq, Repr

namespace CharClass

/-- Whether a character is in the class. -/
def test : CharClass → Char → Bool
  | .letter => isLetter
  | .identStart => isIdentStart
  | .identContinue => isIdentContinue
  | .blank => isBlank

/-- Whether a number is the code point of a character in the class; surrogates are no characters. -/
def testCode (cls : CharClass) (n : Nat) : Bool :=
  if h : n.isValidChar then cls.test (Char.ofNatAux n h) else false

/-- The members of the class from `first` to `last`, as maximal ranges of code points. -/
def ranges (cls : CharClass) (first last : Nat) : List (Nat × Nat) := runs cls.testCode first last

end CharClass

end LexFront.Text
