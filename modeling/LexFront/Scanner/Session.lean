import LexFront.Diagnostic.Handler
import LexFront.Scanner.Run

/-! Sessions: several scanners at work in turn, some of which report to one handler. -/
namespace LexFront

/-- What a scanner may be asked for. -/
inductive Command where
  /-- The next token, which may be the end of input. -/
  | nextToken
  /-- The next token unless it is the end of input. -/
  | next
  /-- At most `count` tokens, the end of input left out. -/
  | take (count : Nat)
  /-- The span of the last token. -/
  | span
  /-- The options. -/
  | config
  /-- All tokens that are left; the scanner is used up. -/
  | scanAll
  /-- All tokens that are left but the end of input; the scanner is used up. -/
  | collect
  deriving DecidableEq, Repr

/-- What a scanner answers. -/
inductive Answer where
  | token (token : Token)
  | optionalToken (token : Option Token)
  | tokens (tokens : List Token)
  | span (span : Span)
  | config (config : ScanConfig)
  /-- The scanner was used up before. -/
  | consumed
  deriving DecidableEq, Repr

/-- What carrying out a command yields: the answer, the scanner afterwards unless it is used up,
and what was reported. -/
structure Reply where
  answer : Answer
  scanner : Option Scanner
  diagnostics : List Diagnostic
  deriving DecidableEq, Repr

namespace Scanner

/-- The reply that some steps of a scanner amount to. -/
def replyOf (s : Scanner) (steps : List Step) (answer : Answer) : Reply :=
  ⟨answer, some (Step.after s steps), Step.allDiagnostics steps⟩

/-- Carries out a command. -/
def perform? (s : Scanner) : Command → Option Reply
  | .nextToken => do
    let r ← s.nextToken?
    return s.replyOf [r] (.token r.token)
  | .next => do
    let r ← s.nextToken?
    return s.replyOf [r] (.optionalToken (if r.token.isEnd then none else some r.token))
  | .take count => do
    let steps ← takeSteps? count s
    return s.replyOf steps (.tokens (Step.properTokens steps))
  | .span => some ⟨.span s.tokenSpan, some s, []⟩
  | .config => some ⟨.config s.config, some s, []⟩
  | .scanAll => do
    let steps ← s.steps?
    return ⟨.tokens (Step.tokens steps), none, Step.allDiagnostics steps⟩
  | .collect => do
    let steps ← s.steps?
    return ⟨.tokens (Step.properTokens steps), none, Step.allDiagnostics steps⟩

end Scanner

/-- Some scanners, of which those used up are gone, and the handler they report to. -/
structure Session where
  scanners : List (Option Scanner)
  handler : Handler
  deriving DecidableEq, Repr

namespace Session

/-- Fresh scanners with a fresh handler. -/
def start (scanners : List Scanner) : Session := ⟨scanners.map some, .empty⟩

/-- Gives a command to the scanner with an index. -/
def step? (s : Session) (index : Nat) (c : Command) : Option (Answer × Session) :=
  match s.scanners[index]? with
  | some (some scanner) => do
    let reply ← scanner.perform? c
    return (reply.answer,
      ⟨s.scanners.set index reply.scanner, s.handler.report reply.diagnostics⟩)
  | _ => some (.consumed, s)

/-- Gives commands one after the other. The answers come with the number of errors reported by
then. -/
def run? (s : Session) : List (Nat × Command) → Option (List (Answer × Nat) × Session)
  | [] => some ([], s)
  | (index, c) :: rest => do
    let (answer, t) ← s.step? index c
    let (answers, u) ← t.run? rest
    return ((answer, t.handler.errorCount) :: answers, u)

theorem step?_single {s : Scanner} {c : Command} {reply : Reply} (h : Handler)
    (hreply : s.perform? c = some reply) :
    (Session.mk [some s] h).step? 0 c =
      some (reply.answer, ⟨[reply.scanner], h.report reply.diagnostics⟩) := by
  rw [step?]
  simp only [List.getElem?_cons_zero, hreply]
  rfl

theorem run?_one {s t : Session} {index : Nat} {c : Command} {answer : Answer}
    (hstep : s.step? index c = some (answer, t)) :
    s.run? [(index, c)] = some ([(answer, t.handler.errorCount)], t) := by
  rw [run?, hstep]
  rfl

end Session

end LexFront
