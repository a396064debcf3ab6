/-! The lines of a text. A line feed ends a line and is not part of it, nor is one carriage return
right before it; a text that ends in a line feed has no further line. -/
namespace LexFront.Text

/-- The lines of a text, without what ends them. -/
def lines : List Char → List (List Char)
  | [] => []
  | '\n' :: cs => [] :: lines cs
  | '\r' :: '\n' :: cs => [] :: lines cs
  | c :: cs =>
    match lines cs with
    | [] => [[c]]
    | l :: ls => (c :: l) :: ls

theorem lines_eq_nil_iff {cs : List Char} : lines cs = [] ↔ cs = [] := by
  fun_cases lines cs <;> simp_all

end LexFront.Text
