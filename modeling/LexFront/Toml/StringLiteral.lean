import LexFront.Toml.Lexical

/-! TOML strings. Basic strings stand in double quotes and have escapes, literal strings stand in
single quotes and have none; each also comes in three quotes and then may hold line breaks. -/
namespace LexFront.Toml

/-- The number that a hexadecimal digit stands for. -/
def hexDigit? (c : Char) : Option Nat :=
  if '0' ≤ c ∧ c ≤ '9' then some (c.toNat - '0'.toNat)
  else if 'a' ≤ c ∧ c ≤ 'f' then some (c.toNat - 'a'.toNat + 10)
  else if 'A' ≤ c ∧ c ≤ 'F' then some (c.toNat - 'A'.toNat + 10)
  else none

/-- The character whose code point some hexadecimal digits spell; a surrogate is none. -/
def unicode? (digits : List Char) : Option Char := do
  let ds ← digits.mapM hexDigit?
  let n := ds.foldl (fun n d => 16 * n + d) 0
  if h : n.isValidChar then some (Char.ofNatAux n h) else none

/-- The character that one letter behind a backslash stands for. -/
def letterEscape? : Char → Option Char
  | 'b' => some '\x08'
  | 't' => some '\t'
  | 'n' => some '\n'
  | 'f' => some '\x0c'
  | 'r' => some '\r'
  | '"' => some '"'
  | '\\' => some '\\'
  | _ => none

/-- A reader's result with one more character in front of what was read. -/
def push (c : Char) : List Char × List Char → List Char × List Char
  | (text, rest) => (c :: text, rest)

/-- The rest of a basic string on one line, up to its closing quote. -/
def basicBody? : Reader (List Char)
  | '"' :: s => some ([], s)
  | '\\' :: 'u' :: a :: b :: c :: d :: s => do
    let x ← unicode? [a, b, c, d]
    (basicBody? s).map (push x)
  | '\\' :: 'U' :: a :: b :: c :: d :: e :: f :: g :: h :: s => do
    let x ← unicode? [a, b, c, d, e, f, g, h]
    (basicBody? s).map (push x)
  | '\\' :: e :: s => do
    let x ← letterEscape? e
    (basicBody? s).map (push x)
  | c :: s => if isText c && c != '\\' then (basicBody? s).map (push c) else none
  | [] => none

/-- The quotes before a closing triple of them: a closing triple gives up to two quotes in front of
it to the string. -/
def closeTriple (quote : Char) : List Char → List Char × List Char
  | a :: b :: s =>
    if a = quote ∧ b = quote then ([quote, quote], s)
    else if a = quote then ([quote], b :: s)
    else ([], a :: b :: s)
  | [a] => if a = quote then ([quote], []) else ([], [a])
  | [] => ([], [])

/-- The rest of a basic string over several lines, up to its closing quotes. With `trimming`, blanks
and line breaks are left out, as they are behind a backslash at the end of a line. -/
def longBasicBody? : (trimming : Bool) → Reader (List Char)
  | trimming, '\n' :: s =>
    if trimming then longBasicBody? true s else (longBasicBody? false s).map (push '\n')
  | trimming, '\r' :: '\n' :: s =>
    if trimming then longBasicBody? true s else (longBasicBody? false s).map (push '\n')
  | _, '"' :: '"' :: '"' :: s => some (closeTriple '"' s)
  | _, '"' :: s => (longBasicBody? false s).map (push '"')
  | _, '\\' :: 'u' :: a :: b :: c :: d :: s => do
    let x ← unicode? [a, b, c, d]
    (longBasicBody? false s).map (push x)
  | _, '\\' :: 'U' :: a :: b :: c :: d :: e :: f :: g :: h :: s => do
    let x ← unicode? [a, b, c, d, e, f, g, h]
    (longBasicBody? false s).map (push x)
  | _, '\\' :: e :: s =>
    if (lineBreak? (skipBlanks (e :: s))).isSome then longBasicBody? true (e :: s)
    else do
      let x ← letterEscape? e
      (longBasicBody? false s).map (push x)
  | trimming, c :: s =>
    if trimming && isBlank c then longBasicBody? true s
    else if isText c && c != '\\' then (longBasicBody? false s).map (push c)
    else none
  | _, [] => none

/-- The rest of a literal string on one line. -/
def literalBody? : Reader (List Char)
  | '\'' :: s => some ([], s)
  | c :: s => if isText c then (literalBody? s).map (push c) else none
  | [] => none

/-- The rest of a literal string over several lines. -/
def longLiteralBody? : Reader (List Char)
  | '\n' :: s => (longLiteralBody? s).map (push '\n')
  | '\r' :: '\n' :: s => (longLiteralBody? s).map (push '\n')
  | '\'' :: '\'' :: '\'' :: s => some (closeTriple '\'' s)
  | c :: s => if isText c then (longLiteralBody? s).map (push c) else none
  | [] => none

/-- The text without the line break at its front, if there is one. -/
def dropLineBreak (s : List Char) : List Char := (lineBreak? s).getD s

/-- A string on one line, as a key may be. -/
def shortString? : Reader String
  | '"' :: s => (basicBody? s).map fun (t, r) => (String.ofList t, r)
  | '\'' :: s => (literalBody? s).map fun (t, r) => (String.ofList t, r)
  | _ => none

/-- A string of any form. -/
def string? : Reader String
  | '"' :: '"' :: '"' :: s =>
    (longBasicBody? false (dropLineBreak s)).map fun (t, r) => (String.ofList t, r)
  | '\'' :: '\'' :: '\'' :: s =>
    (longLiteralBody? (dropLineBreak s)).map fun (t, r) => (String.ofList t, r)
  | s => shortString? s

end LexFront.Toml
