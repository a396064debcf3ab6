import LexFront.Scanner.Progress

/-! Pulling tokens. Every way of pulling is a list of steps; the tokens, events and diagnostics of
a run are read off its steps. -/
namespace LexFront

namespace Scanner

/-- All steps to the end of the source, the end-of-input token included. -/
def steps? (s : Scanner) : Option (List Step) :=
  match _h : s.nextToken? with
  | none => none
  | some r =>
    match _hr : r.token.isEnd with
    | true => some [r]
    | false => (steps? r.scanner).map (r :: ·)
termination_by s.cursor.headroom
decreasing_by exact headroom_lt_of_nextToken? _h _hr

/-- At most `n` steps, none behind the first end-of-input token. -/
def takeSteps? : Nat → Scanner → Option (List Step)
  | 0, _ => some []
  | n + 1, s =>
    match s.nextToken? with
    | none => none
    | some r => if r.token.isEnd then some [r] else (takeSteps? n r.scanner).map (r :: ·)

/-- The next `n` steps, those behind the first end-of-input token included. -/
def nextSteps? : Nat → Scanner → Option (List Step)
  | 0, _ => some []
  | n + 1, s => do
    let r ← s.nextToken?
    let rest ← nextSteps? n r.scanner
    return r :: rest

end Scanner

namespace Step

/-- The tokens of some steps. -/
def tokens (steps : List Step) : List Token := steps.map Step.token

/-- The tokens of some steps, the end of input left out. -/
def properTokens (steps : List Step) : List Token := (tokens steps).filter (!·.isEnd)

/-- The log events of some steps, in order. -/
def allEvents (steps : List Step) : List Event := steps.flatMap Step.events

/-- The diagnostics of some steps, in order. -/
def allDiagnostics (steps : List Step) : List Diagnostic := steps.flatMap Step.diagnostics

/-- The scanner behind the last of some steps that `s` made. -/
def after (s : Scanner) (steps : List Step) : Scanner := (steps.getLast?.map Step.scanner).getD s

end Step

/-- The tokens of a source under the default options, the end of input last. -/
def tokenize? (source : String) : Option (List Token) :=
  ((Scanner.start source .default false).steps?).map Step.tokens

end LexFront
