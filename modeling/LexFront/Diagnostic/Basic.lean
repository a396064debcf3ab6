import LexFront.Diagnostic.Code
import LexFront.Span
import LexFront.Text.Lines

/-! Diagnostics: a message about a place in a source text, with notes and helps, and the rows in
which it is shown together with the text it is about. -/
namespace LexFront

/-- An error in a source text. -/
structure Diagnostic where
  message : String
  span : Span
  code : Option DiagnosticCode
  notes : List String
  helps : List String
  deriving DecidableEq, Repr

namespace Diagnostic

/-- A bare error at a span. -/
def error (message : String) (span : Span) : Diagnostic := ⟨message, span, none, [], []⟩

/-- The diagnostic under a code, in place of any it had. -/
def withCode (d : Diagnostic) (code : DiagnosticCode) : Diagnostic := { d with code := some code }

/-- The diagnostic at a span, in place of the one it had. -/
def withSpan (d : Diagnostic) (span : Span) : Diagnostic := { d with span := span }

/-- The diagnostic with one more note. -/
def addNote (d : Diagnostic) (note : String) : Diagnostic := { d with notes := d.notes ++ [note] }

/-- The diagnostic with one more help. -/
def addHelp (d : Diagnostic) (help : String) : Diagnostic := { d with helps := d.helps ++ [help] }

/-- One change to a diagnostic. -/
inductive Change where
  | code (code : DiagnosticCode)
  | span (span : Span)
  | note (text : String)
  | help (text : String)
  deriving DecidableEq, Repr

/-- The diagnostic after a change. -/
def change (d : Diagnostic) : Change → Diagnostic
  | .code c => d.withCode c
  | .span s => d.withSpan s
  | .note t => d.addNote t
  | .help t => d.addHelp t

/-- The error that a message and a list of changes make up, told of no place unless one is set. -/
def build (message : String) (changes : List Change) : Diagnostic :=
  changes.foldl change (error message Span.dummy)

/-! ## Text -/

/-- The row that tells code and message. -/
def header (d : Diagnostic) : String :=
  match d.code with
  | some c => "error[" ++ c.text ++ "]: " ++ d.message
  | none => "error: " ++ d.message

/-- The diagnostic in one line. -/
def display (d : Diagnostic) : String := d.header ++ " at " ++ d.span.display

/-- The rows that quote the source: a bar, then each line that the span covers. A span that does
not resolve has none. -/
def snippetRows (d : Diagnostic) (source : String) : List String :=
  match d.span.slice source with
  | .error _ => []
  | .ok part => "  |" :: (Text.lines part.toList).map fun l => "  | " ++ String.ofList l

/-- The rows in which the diagnostic is shown against a source. -/
def rows (d : Diagnostic) (source : String) : List String :=
  [d.header, " --> " ++ d.span.display] ++ d.snippetRows source
    ++ d.notes.map ("  = note: " ++ ·) ++ d.helps.map ("  = help: " ++ ·)

/-- The rows as one text, each ended by a line feed. -/
def render (d : Diagnostic) (source : String) : String :=
  String.ofList ((d.rows source).flatMap fun row => row.toList ++ ['\n'])

end Diagnostic

end LexFront
