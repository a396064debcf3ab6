import LexFront.Cursor

/-! Scripts: sequences of operations on one cursor, which may be saved and restored. -/
namespace LexFront.Cursor

/-- One operation. -/
inductive Operation where
  | advance
  | eat (x : Char)
  /-- Moves over the characters of a class. -/
  | passClass (cls : Text.CharClass)
  /-- Moves up to a character. -/
  | passUntil (x : Char)
  /-- Moves over `count` characters, by a test that counts how often it is asked. -/
  | pass (count : Nat)
  | sliceFrom (start : Nat)
  | save
  | restore
  deriving DecidableEq, Repr

/-- What an operation tells. -/
inductive Outcome where
  | nothing
  | truth (b : Bool)
  /-- How often a test was asked. -/
  | calls (n : Nat)
  /-- A slice, or none where the offset does not cut the text before the cursor. -/
  | slice (text : Option String)
  deriving DecidableEq, Repr

/-- A cursor with the one that was saved last. -/
structure Desk where
  cursor : Cursor
  saved : Cursor
  deriving DecidableEq, Repr

/-- A test that accepts as long as it was asked fewer than `count` times before. -/
def countingTest (count : Nat) (asked : Nat) (_ : Char) : Bool × Nat := (asked < count, asked + 1)

namespace Desk

/-- The desk at the start of a source, with that place saved. -/
def start (source : String) : Desk := ⟨.start source, .start source⟩

/-- Carries out an operation. -/
def step? (d : Desk) : Operation → Option (Outcome × Desk)
  | .advance => d.cursor.advance?.map fun c => (.nothing, { d with cursor := c })
  | .eat x => (d.cursor.eat? x).map fun (found, c) => (.truth found, { d with cursor := c })
  | .passClass cls =>
    (d.cursor.advanceWhile? cls.test).map fun c => (.nothing, { d with cursor := c })
  | .passUntil x =>
    (d.cursor.advanceWhile? (· != x)).map fun c => (.nothing, { d with cursor := c })
  | .pass count =>
    (d.cursor.advanceWith? (countingTest count) 0).map fun (n, c) =>
      (.calls n, { d with cursor := c })
  | .sliceFrom start => some (.slice (d.cursor.sliceFrom? start), d)
  | .save => some (.nothing, { d with saved := d.cursor })
  | .restore => some (.nothing, { d with cursor := d.saved })

/-- Carries out operations one after the other; each outcome comes with the cursor behind it. -/
def run? (d : Desk) : List Operation → Option (List (Outcome × Cursor))
  | [] => some []
  | o :: os => do
    let (outcome, e) ← d.step? o
    let rest ← e.run? os
    return (outcome, e.cursor) :: rest

end Desk

end LexFront.Cursor
