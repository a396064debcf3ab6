import LexFront.Toml.Number

/-! TOML dates and times. Every part must exist in the calendar and on the clock. -/
namespace LexFront.Toml

/-- A number of exactly `n` decimal digits. -/
def fixedDigits? (n : Nat) (s : List Char) : Option (Nat × List Char) :=
  let ds := s.take n
  if ds.length = n ∧ ds.all Text.isDigit then some (ofDigits 10 ds, s.drop n) else none

/-- A number of two digits within bounds. -/
def twoDigits? (least greatest : Nat) (s : List Char) : Option (Nat × List Char) := do
  let (n, rest) ← fixedDigits? 2 s
  if least ≤ n ∧ n ≤ greatest then return (n, rest) else none

/-- The text behind a given character. -/
def expect? (x : Char) : List Char → Option (List Char)
  | c :: s => if c = x then some s else none
  | [] => none

/-- Whether a year has a leap day. -/
def isLeapYear (year : Nat) : Bool := year % 4 == 0 && (year % 100 != 0 || year % 400 == 0)

/-- The number of days of a month. -/
def daysInMonth (year month : Nat) : Nat :=
  if month = 2 then (if isLeapYear year then 29 else 28)
  else if month = 4 ∨ month = 6 ∨ month = 9 ∨ month = 11 then 30
  else 31

/-- The text behind a date: year, month and day. -/
def date? (s : List Char) : Option (List Char) := do
  let (year, s) ← fixedDigits? 4 s
  let s ← expect? '-' s
  let (month, s) ← twoDigits? 1 12 s
  let s ← expect? '-' s
  let (_, s) ← twoDigits? 1 (daysInMonth year month) s
  return s

/-- The text behind a time: hour, minute, second (leap seconds included) and any fraction. -/
def time? (s : List Char) : Option (List Char) := do
  let (_, s) ← twoDigits? 0 23 s
  let s ← expect? ':' s
  let (_, s) ← twoDigits? 0 59 s
  let s ← expect? ':' s
  let (_, s) ← twoDigits? 0 60 s
  match s with
  | '.' :: d :: r => if Text.isDigit d then return r.dropWhile Text.isDigit else return s
  | _ => return s

/-- The text behind an offset from universal time. -/
def offset? : List Char → Option (List Char)
  | c :: s =>
    if c = 'Z' ∨ c = 'z' then some s
    else if c = '+' ∨ c = '-' then do
      let (_, s) ← twoDigits? 0 23 s
      let s ← expect? ':' s
      let (_, s) ← twoDigits? 0 59 s
      return s
    else none
  | [] => none

/-- The text behind a time and an offset, if there is one, that follow a date. -/
def timeOfDay? : List Char → Option (List Char)
  | c :: s =>
    if c = 'T' ∨ c = 't' ∨ c = ' ' then (time? s).map fun r => (offset? r).getD r else none
  | [] => none

/-- A date, a time, or a date with a time. -/
def dateTime? (s : List Char) : Option (Value × List Char) :=
  match date? s with
  | some r =>
    let rest := (timeOfDay? r).getD r
    some (.dateTime (consumed s rest), rest)
  | none => (time? s).map fun rest => (.dateTime (consumed s rest), rest)

end LexFront.Toml
