import LexFront.Toml.StringLiteral
import LexFront.Toml.Value

/-! TOML numbers. Integers fit 64 bits with a sign; a floating-point number is refused where the
nearest double to it is positive infinity. -/
namespace LexFront.Toml

/-- Digits of a class, of which underscores separate any two. Underscores are left out of what is
read. -/
def moreDigits? (p : Char → Bool) : Reader (List Char)
  | '_' :: d :: s => if p d then (moreDigits? p s).map (push d) else none
  | ['_'] => none
  | d :: s => if p d then (moreDigits? p s).map (push d) else some ([], d :: s)
  | [] => some ([], [])

/-- At least one digit of a class. -/
def digits? (p : Char → Bool) : Reader (List Char)
  | d :: s => if p d then (moreDigits? p s).map (push d) else none
  | [] => none

/-- The number that digits spell in a base. -/
def ofDigits (base : Nat) (ds : List Char) : Nat :=
  ds.foldl (fun n d => base * n + (hexDigit? d).getD 0) 0

/-- Whether a sign makes what follows negative, and what follows. -/
def sign : List Char → Bool × List Char
  | '-' :: s => (true, s)
  | '+' :: s => (false, s)
  | s => (false, s)

/-- The digits of a decimal number, which does not start with a zero unless it is zero. -/
def decimal? : Reader (List Char)
  | '0' :: s => some (['0'], s)
  | s => digits? Text.isDigit s

/-- The magnitude of the least integer, one more than the greatest. -/
def integerLimit : Nat := Nat.pow 2 63

/-- The integer with a sign and a magnitude, if it fits. -/
def integer? (negative : Bool) (n : Nat) : Option Value :=
  if negative then (if n ≤ integerLimit then some (.integer (-n)) else none)
  else if n < integerLimit then some (.integer n)
  else none

/-- An integer in another base, behind the mark of the base. -/
def basedInteger? (base : Nat) (p : Char → Bool) (s : List Char) : Option (Value × List Char) := do
  let (ds, rest) ← digits? p s
  let v ← integer? false (ofDigits base ds)
  return (v, rest)

/-- The exponent at the front of a text: a mark, a sign and digits. -/
def exponent? : Reader Int
  | mark :: s =>
    if mark = 'e' ∨ mark = 'E' then do
      let (negative, s) := sign s
      let (ds, rest) ← digits? Text.isDigit s
      let n := ofDigits 10 ds
      return (if negative then -n else n, rest)
    else none
  | [] => none

/-- The least number whose nearest double is infinite: half a unit above the greatest double. -/
def doubleLimit : Nat := Nat.pow 2 1024 - Nat.pow 2 970

/-- Whether `n` times ten to the `e` is at least the limit of doubles. The number of digits tells
unless the number is near the limit. -/
def exceedsDouble (n : Nat) (e : Int) : Bool :=
  let size : Int := (Nat.toDigits 10 n).length + e
  if n = 0 ∨ size < 309 then false
  else if 310 < size then true
  else if 0 ≤ e then doubleLimit ≤ n * Nat.pow 10 e.toNat
  else doubleLimit * Nat.pow 10 (-e).toNat ≤ n

/-- What follows the integer part of a floating-point number: a fraction, an exponent or both, read
as the digits of the fraction and the exponent. -/
def fraction? : Reader (List Char × Int)
  | '.' :: s => do
    let (ds, rest) ← digits? Text.isDigit s
    match exponent? rest with
    | some (e, rest) => return ((ds, e), rest)
    | none => if rest.head?.any (fun c => c == 'e' || c == 'E') then none else return ((ds, 0), rest)
  | s => (exponent? s).map fun (e, rest) => (([], e), rest)

/-- What a text has in front of its end `rest`, as a string. -/
def consumed (s rest : List Char) : String := String.ofList (s.take (s.length - rest.length))

/-- A number: an integer in one of four bases, or a floating-point number. -/
def number? (s : List Char) : Option (Value × List Char) :=
  match s with
  | '0' :: 'x' :: r => basedInteger? 16 (fun c => (hexDigit? c).isSome) r
  | '0' :: 'o' :: r => basedInteger? 8 (fun c => '0' ≤ c && c ≤ '7') r
  | '0' :: 'b' :: r => basedInteger? 2 (fun c => c == '0' || c == '1') r
  | s =>
    match sign s with
    | (_, 'i' :: 'n' :: 'f' :: rest) => some (.float (consumed s rest), rest)
    | (_, 'n' :: 'a' :: 'n' :: rest) => some (.float (consumed s rest), rest)
    | (negative, r) => do
      let (ds, rest) ← decimal? r
      if rest.head?.any (fun c => c == '.' || c == 'e' || c == 'E') then
        let ((fs, e), rest) ← fraction? rest
        if !negative && exceedsDouble (ofDigits 10 (ds ++ fs)) (e - fs.length) then none
        else return (.float (consumed s rest), rest)
      else
        let v ← integer? negative (ofDigits 10 ds)
        return (v, rest)

end LexFront.Toml
