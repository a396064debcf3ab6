import LexFront.Diagnostic.Basic

/-! A handler collects the diagnostics that one or more scanners report, in order. -/
namespace LexFront

/-- The diagnostics reported so far, the oldest first. -/
structure Handler where
  diagnostics : List Diagnostic
  deriving DecidableEq, Repr

namespace Handler

/-- A handler to which nothing was reported. -/
def empty : Handler := ⟨[]⟩

/-- The handler after some reports, in their order. -/
def report (h : Handler) (ds : List Diagnostic) : Handler := ⟨h.diagnostics ++ ds⟩

/-- The handler after one report. -/
def emit (h : Handler) (d : Diagnostic) : Handler := h.report [d]

/-- How many errors were reported. -/
def errorCount (h : Handler) : Nat := h.diagnostics.length

/-- Whether any error was reported. -/
def hasErrors (h : Handler) : Bool := !h.diagnostics.isEmpty

@[simp] theorem report_nil (h : Handler) : h.report [] = h := by
  simp [report]

@[simp] theorem report_report (h : Handler) (ds es : List Diagnostic) :
    (h.report ds).report es = h.report (ds ++ es) := by
  simp [report]

@[simp] theorem errorCount_report (h : Handler) (ds : List Diagnostic) :
    (h.report ds).errorCount = h.errorCount + ds.length := by
  simp [report, errorCount]

end Handler

end LexFront
