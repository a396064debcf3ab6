/-! Token kinds. A kind belongs to at most one class (keyword, operator, delimiter, comment,
primitive); `TokenKind.all` lists them in the order of their numeric codes. -/
namespace LexFront

/-- The words with a meaning of their own. -/
inductive Keyword where
  | kwTrue | kwFalse | kwFunction | kwLocal | kwIf | kwElseIf | kwElse | kwWhile | kwFor | kwEnd
  | kwThen | kwRepeat | kwContinue | kwBreak | kwIn | kwReturn | kwDo | kwNot | kwOr | kwAnd
  deriving DecidableEq, Repr

/-- The symbols that combine or assign values. -/
inductive Operator where
  | notEqual | greater | less | greaterEqual | lessEqual | assign | equal
  | plusAssign | subAssign | multiAssign | divAssign | modAssign
  | plus | sub | multi | div | mod | power | concat
  deriving DecidableEq, Repr

/-- The symbols that group and separate. -/
inductive Delimiter where
  | lParen | rParen | lBrace | rBrace | lBrack | rBrack
  | comma | semi | colon | dot | dots | arrow | question
  deriving DecidableEq, Repr

/-- The kinds set aside for typed literals, which no source text yields. -/
inductive Primitive where
  | string | int | bool | float
  deriving DecidableEq, Repr

/-- What a token is. -/
inductive TokenKind where
  /-- A character that starts no token. -/
  | illegal
  /-- The end of the source. -/
  | endOfInput
  /-- A comment up to the end of its line. -/
  | comment
  /-- A comment between markers. -/
  | commentBlock
  /-- A number or a word that is not reserved. -/
  | literal
  /-- Text between double quotes. -/
  | stringDelim
  | keyword (word : Keyword)
  | operator (symbol : Operator)
  | delimiter (symbol : Delimiter)
  | primitive (type : Primitive)
  deriving DecidableEq, Repr

/-- The name of a keyword's kind. -/
def Keyword.name : Keyword → String
  | .kwTrue => "True"
  | .kwFalse => "False"
  | .kwFunction => "Function"
  | .kwLocal => "Local"
  | .kwIf => "If"
  | .kwElseIf => "ElseIf"
  | .kwElse => "Else"
  | .kwWhile => "While"
  | .kwFor => "For"
  | .kwEnd => "End"
  | .kwThen => "Then"
  | .kwRepeat => "Repeat"
  | .kwContinue => "Continue"
  | .kwBreak => "Break"
  | .kwIn => "In"
  | .kwReturn => "Return"
  | .kwDo => "Do"
  | .kwNot => "Not"
  | .kwOr => "Or"
  | .kwAnd => "And"

namespace Operator

/-- The name of an operator's kind. -/
def name : Operator → String
  | .notEqual => "NotEqual"
  | .greater => "Greater"
  | .less => "Less"
  | .greaterEqual => "GreaterEqual"
  | .lessEqual => "LessEqual"
  | .assign => "Assign"
  | .equal => "Equal"
  | .plusAssign => "PlusAssign"
  | .subAssign => "SubAssign"
  | .multiAssign => "MultiAssign"
  | .divAssign => "DivAssign"
  | .modAssign => "ModAssign"
  | .plus => "Plus"
  | .sub => "Sub"
  | .multi => "Multi"
  | .div => "Div"
  | .mod => "Mod"
  | .power => "Po"
  | .concat => "Concat"

/-- How an operator is written. -/
def spelling : Operator → String
  | .notEqual => "~="
  | .greater => ">"
  | .less => "<"
  | .greaterEqual => ">="
  | .lessEqual => "<="
  | .assign => "="
  | .equal => "=="
  | .plusAssign => "+="
  | .subAssign => "-="
  | .multiAssign => "*="
  | .divAssign => "/="
  | .modAssign => "%="
  | .plus => "+"
  | .sub => "-"
  | .multi => "*"
  | .div => "/"
  | .mod => "%"
  | .power => "^"
  | .concat => ".."

end Operator

namespace Delimiter

/-- The name of a delimiter's kind. -/
def name : Delimiter → String
  | .lParen => "LParen"
  | .rParen => "RParen"
  | .lBrace => "LBrace"
  | .rBrace => "RBrace"
  | .lBrack => "LBrack"
  | .rBrack => "RBrack"
  | .comma => "Comma"
  | .semi => "Semi"
  | .colon => "Colom"
  | .dot => "Dot"
  | .dots => "Dots"
  | .arrow => "Arrow"
  | .question => "Question"

/-- How a delimiter is written. -/
def spelling : Delimiter → String
  | .lParen => "("
  | .rParen => ")"
  | .lBrace => "\x7b"
  | .rBrace => "\x7d"
  | .lBrack => "["
  | .rBrack => "]"
  | .comma => ","
  | .semi => ";"
  | .colon => ":"
  | .dot => "."
  | .dots => "..."
  | .arrow => "->"
  | .question => "?"

end Delimiter

/-- The name of a primitive's kind. -/
def Primitive.name : Primitive → String
  | .string => "String"
  | .int => "Int"
  | .bool => "Bool"
  | .float => "Float"

namespace TokenKind

/-- The name of a kind, as it stands in messages and in the log. -/
def name : TokenKind → String
  | .illegal => "Illegal"
  | .endOfInput => "EndOfInput"
  | .comment => "Comment"
  | .commentBlock => "CommentBlock"
  | .literal => "Literal"
  | .stringDelim => "StringDelim"
  | .keyword w => w.name
  | .operator o => o.name
  | .delimiter d => d.name
  | .primitive p => p.name

/-- All kinds. A kind's place in this list is its code. -/
def all : List TokenKind := [
  .illegal, .endOfInput, .comment, .commentBlock, .keyword .kwTrue, .keyword .kwFalse, .literal,
  .keyword .kwFunction, .keyword .kwLocal, .keyword .kwIf, .keyword .kwElseIf, .keyword .kwElse,
  .keyword .kwWhile, .keyword .kwFor, .keyword .kwEnd, .keyword .kwThen, .keyword .kwRepeat,
  .keyword .kwContinue, .keyword .kwBreak, .keyword .kwIn, .keyword .kwReturn, .keyword .kwDo,
  .keyword .kwNot, .operator .notEqual, .keyword .kwOr, .operator .greater, .operator .less,
  .operator .greaterEqual, .operator .lessEqual, .keyword .kwAnd, .operator .assign,
  .operator .equal, .operator .plusAssign, .operator .subAssign, .operator .multiAssign,
  .operator .divAssign, .operator .modAssign, .operator .plus, .operator .sub, .operator .multi,
  .operator .div, .operator .mod, .operator .power, .operator .concat, .stringDelim,
  .delimiter .lParen, .delimiter .rParen, .delimiter .lBrace, .delimiter .rBrace,
  .delimiter .lBrack, .delimiter .rBrack, .delimiter .comma, .delimiter .semi, .delimiter .colon,
  .delimiter .dot, .delimiter .dots, .delimiter .arrow, .delimiter .question,
  .primitive .string, .primitive .int, .primitive .bool, .primitive .float]

/-- The numeric code of a kind. -/
def code (k : TokenKind) : Nat := all.idxOf k

/-- The kind with a given code. -/
def ofCode? (n : Nat) : Option TokenKind := all[n]?

/-- The name that stands for a code without a kind. -/
def unknownName : String := "Unknown"

/-- The name of the kind with a given code. -/
def nameOfCode (n : Nat) : String := ((ofCode? n).map name).getD unknownName

/-- The version of the catalog that `all` and the reserved words make up. -/
def catalogVersion : Nat := 1

/-- The kinds of a list, each once, by ascending code. -/
def sorted (kinds : List TokenKind) : List TokenKind := all.filter (kinds.contains ·)

/-- A word of the language. -/
def isKeyword : TokenKind → Bool
  | .keyword _ => true
  | _ => false

/-- An operator symbol. -/
def isOperator : TokenKind → Bool
  | .operator _ => true
  | _ => false

/-- A delimiter symbol. -/
def isDelimiter : TokenKind → Bool
  | .delimiter _ => true
  | _ => false

/-- A comment of either form. -/
def isComment : TokenKind → Bool
  | .comment | .commentBlock => true
  | _ => false

/-- A kind set aside for typed literals. -/
def isPrimitive : TokenKind → Bool
  | .primitive _ => true
  | _ => false

theorem mem_all (k : TokenKind) : k ∈ all := by
  cases k with
  | keyword w => cases w <;> decide
  | operator o => cases o <;> decide
  | delimiter d => cases d <;> decide
  | primitive p => cases p <;> decide
  | _ => decide

theorem ofCode?_code (k : TokenKind) : ofCode? k.code = some k := by
  have hlt : all.idxOf k < all.length := List.idxOf_lt_length_of_mem (mem_all k)
  rw [ofCode?, code, List.getElem?_eq_getElem hlt, List.getElem_idxOf hlt]

end TokenKind

end LexFront
