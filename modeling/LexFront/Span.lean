import LexFront.Text.Bytes

/-! Spans: pairs of byte offsets into a source text. A span is free data; whether it cuts a text is
decided when it is resolved by `Span.slice`, which says what is wrong with a span that does not. -/
namespace LexFront

/-- A range of byte offsets, from `start` up to but not including `stop`. -/
structure Span where
  start : Nat
  stop : Nat
  deriving DecidableEq, Repr

/-- Why a span does not resolve in a text. -/
inductive SpanError where
  /-- The span starts behind its end. -/
  | reversed (span : Span)
  /-- The span ends past the end of a text of `sourceLength` bytes. -/
  | outOfBounds (sourceLength : Nat) (span : Span)
  /-- An end of the span falls inside a character. -/
  | offBoundary (span : Span)
  deriving DecidableEq, Repr

namespace Span

/-- The empty span at the start of a text, which stands for "nowhere in particular". -/
def dummy : Span := ⟨0, 0⟩

instance : Inhabited Span := ⟨dummy⟩

/-- A span that covers no byte; a reversed span covers none either. -/
def isEmpty (s : Span) : Bool := s.stop ≤ s.start

/-- A span as it is written in messages, `start..stop`. -/
def display (s : Span) : String := s.start.repr ++ ".." ++ s.stop.repr

/-- The part of `source` that the span covers. Of several faults the first of order, range and
boundary is told. -/
def slice (s : Span) (source : String) : Except SpanError String :=
  if s.stop < s.start then .error (.reversed s)
  else if source.utf8ByteSize < s.stop then .error (.outOfBounds source.utf8ByteSize s)
  else
    match Text.slice? source s.start s.stop with
    | some part => .ok part
    | none => .error (.offBoundary s)

end Span

namespace SpanError

/-- The sentence that tells the error. -/
def message : SpanError → String
  | .reversed s => "Invalid span: start " ++ s.start.repr ++ " > end " ++ s.stop.repr
  | .outOfBounds n s =>
    "Span out of bounds: source has " ++ n.repr ++ " bytes, span is " ++ s.display
  | .offBoundary s => "Span " ++ s.display ++ " does not fall on character boundaries"

/-- The error as a record with named fields. -/
def record : SpanError → String
  | .reversed s => "InvalidSpan \x7b " ++ fields s ++ " \x7d"
  | .outOfBounds n s =>
    "OutOfBounds \x7b source_len: " ++ n.repr ++ ", " ++ fields s ++ " \x7d"
  | .offBoundary s => "NotCharBoundary \x7b " ++ fields s ++ " \x7d"
where
  /-- The two offsets of a span as fields. -/
  fields (s : Span) : String := "start: " ++ s.start.repr ++ ", end: " ++ s.stop.repr

end SpanError

end LexFront
