/-! Scanning options. -/
namespace LexFront

/-- What happens to a point between digits. -/
inductive NumberMode where
  /-- Digits and point are tokens of their own. -/
  | split
  /-- A point followed by a digit joins the digits on both sides to one number. -/
  | fractional
  deriving DecidableEq, Repr

/-- The options of a scanner. -/
structure ScanConfig where
  numberMode : NumberMode := .split
  /-- Whether strings and comments without an end are reported. -/
  reportUnterminated : Bool := true
  deriving DecidableEq, Repr

namespace NumberMode

/-- The word for a mode in a configuration. -/
def word : NumberMode → String
  | .split => "split"
  | .fractional => "fractional"

/-- The mode that a word of a configuration stands for. -/
def ofWord? (w : String) : Option NumberMode :=
  if w = "split" then some .split else if w = "fractional" then some .fractional else none

/-- The mode's name as a record shows it. -/
def record : NumberMode → String
  | .split => "Split"
  | .fractional => "Fractional"

theorem ofWord?_word (m : NumberMode) : ofWord? m.word = some m := by
  cases m <;> decide

end NumberMode

namespace ScanConfig

/-- The options in effect where nothing is configured. -/
def default : ScanConfig := {}

instance : Inhabited ScanConfig := ⟨default⟩

/-- The options as a record. -/
def record (c : ScanConfig) : String :=
  "ScanConfig \x7b number_mode: " ++ c.numberMode.record ++ ", report_unterminated: "
    ++ (if c.reportUnterminated then "true" else "false") ++ " \x7d"

end ScanConfig

end LexFront
