/-! Sets of code points given by ranges. A table lists disjoint ranges in ascending order and is
searched by halving; `runs` goes the other way, from a predicate to its maximal ranges. -/
namespace LexFront.Text

/-- Disjoint inclusive ranges of code points, in ascending order. -/
abbrev RangeTable := Array (Nat × Nat)

namespace RangeTable

/-- Whether `n` lies in a range whose index is at least `lo` and below `hi`: the middle range tells
in which half to look on. -/
def search (t : RangeTable) (n lo hi : Nat) : Bool :=
  if lo < hi then
    match t[(lo + hi) / 2]? with
    | none => false
    | some (first, last) =>
      if n < first then t.search n lo ((lo + hi) / 2)
      else if last < n then t.search n ((lo + hi) / 2 + 1) hi
      else true
  else false
termination_by hi - lo

/-- Whether a range of the table holds `n`. -/
def contains (t : RangeTable) (n : Nat) : Bool := t.search n 0 t.size

end RangeTable

/-- The last code point. -/
def lastCodePoint : Nat := 0x10FFFF

/-- The maximal inclusive ranges of numbers that satisfy `p` among the `count` numbers from `next`
on, given that a range begun at `opened` reaches up to `next`. -/
def runsFrom (p : Nat → Bool) : (count next : Nat) → (opened : Option Nat) → List (Nat × Nat)
  | 0, _, none => []
  | 0, next, some first => [(first, next - 1)]
  | count + 1, next, none =>
    runsFrom p count (next + 1) (if p next then some next else none)
  | count + 1, next, some first =>
    if p next then runsFrom p count (next + 1) (some first)
    else (first, next - 1) :: runsFrom p count (next + 1) none

/-- The maximal inclusive ranges of code points from `first` to `last` that satisfy `p`. -/
def runs (p : Nat → Bool) (first last : Nat) : List (Nat × Nat) :=
  runsFrom p (min last lastCodePoint + 1 - first) first none

end LexFront.Text
