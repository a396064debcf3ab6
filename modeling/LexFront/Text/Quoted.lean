import LexFront.Text.Concealed

/-! Quoted text: a text between double quotes in which every character shows. -/
namespace LexFront.Text

/-- How one character stands inside quotes: the quote and the backslash behind a backslash, four
controls by a letter, other concealed characters by their code point in lower-case hexadecimal. -/
def escape (c : Char) : List Char :=
  if c = '"' then ['\\', '"']
  else if c = '\\' then ['\\', '\\']
  else if c = '\x00' then ['\\', '0']
  else if c = '\t' then ['\\', 't']
  else if c = '\r' then ['\\', 'r']
  else if c = '\n' then ['\\', 'n']
  else if isConcealed c then ['\\', 'u', '\x7b'] ++ Nat.toDigits 16 c.toNat ++ ['\x7d']
  else [c]

/-- A text in quotes. -/
def quote (s : String) : String := String.ofList ('"' :: s.toList.flatMap escape ++ ['"'])

end LexFront.Text
