import LexFront.Proofs.Scanner.Outcome
import LexFront.Proofs.Scanner.Reports
import LexFront.Proofs.Session.Isolation

/-! Reporting takes no part in scanning. Whether a scanner reports, to which handler, and whether it
reports text without an end, leaves alone what it answers and what it logs; a scanner that keeps
text without an end to itself reports just the illegal characters among what it would report. -/
namespace LexFront
open Text Cursor

/-- What is seen of a step but for its reports. -/
def Outcome.unreported (o : Outcome) : Outcome := { o with diagnostics := [] }

/-- Whether a diagnostic is about an illegal character. -/
def Diagnostic.IsIllegal (d : Diagnostic) : Prop := d.code = some ⟨"E", 1001⟩

instance (d : Diagnostic) : Decidable d.IsIllegal := inferInstanceAs (Decidable (_ = _))

/-- The answer to a call for one token, where the token is `t`. -/
def Command.answer (c : Command) (t : Token) : Answer :=
  match c with
  | .next => .optionalToken (if t.isEnd then none else some t)
  | _ => .token t

/-- What is answered if a token is asked for, and then its span. -/
def Outcome.answers (o : Outcome) (c : Command) : List Answer := [c.answer o.token, .span o.span]

/-- Calls for one token each, and behind each a call for its span. -/
def Command.watched (cs : List Command) : List (Nat × Command) :=
  cs.flatMap fun c => [(0, c), (0, .span)]

/-- **A run under watch**: the scanner `s` reports to the handler `h`. It is asked for one token
after the other, and for its span behind each; it makes `steps`, answers what is seen of them, and
reports what they report. -/
structure Session.Watched (s : Scanner) (h : Handler) (cs : List Command) (steps : List Step)
    (answers : List (Answer × Nat)) (t : Session) : Prop where
  steps_eq : Scanner.nextSteps? cs.length s = some steps
  run : (Session.mk [some s] h).run? (Command.watched cs) = some (answers, t)
  answers_eq : answers.map Prod.fst =
    (List.zipWith Outcome.answers (steps.map Step.outcome) cs).flatten
  handler_eq : t.handler = h.report (Step.allDiagnostics steps)

section
variable {config config' : ScanConfig} {reporting reporting' : Bool} {p : List Char}
  {ts : List Tile}

theorem Fault.isIllegal_iff (f : Fault) (text : String) (span : Span) :
    ((f.diagnostic text).withSpan span).IsIllegal ↔ f = .unexpected := by
  cases f with
  | unexpected =>
    rw [diagnostic, unexpected_withSpan]
    exact iff_of_true rfl rfl
  | openString =>
    have hcode : (some ⟨"E", 1002⟩ : Option DiagnosticCode) ≠ some ⟨"E", 1001⟩ := by decide
    exact iff_of_false hcode Fault.noConfusion
  | openComment =>
    have hcode : (some ⟨"E", 1003⟩ : Option DiagnosticCode) ≠ some ⟨"E", 1001⟩ := by decide
    exact iff_of_false hcode Fault.noConfusion

/-- What is reported about a lexeme under options that leave text without an end out. -/
theorem Lexeme.reports_eq_filter (l : Lexeme) (span : Span)
    (hnone : config.reportUnterminated = false) (hall : config'.reportUnterminated = true) :
    l.reports config true span = (l.reports config' true span).filter (·.IsIllegal) := by
  rw [reports, reports]
  cases l.fault with
  | none => rfl
  | some f => cases f <;> simp [Fault.isReported, Fault.isIllegal_iff, hnone, hall]

/-- The reports of a run that leaves text without an end out. -/
theorem Tile.diagnostics_eq_filter (hnone : config.reportUnterminated = false)
    (hall : config'.reportUnterminated = true) :
    (outcomes config true p ts).flatMap Outcome.diagnostics =
      ((outcomes config' true p ts).flatMap Outcome.diagnostics).filter (·.IsIllegal) := by
  induction ts generalizing p with
  | nil => rfl
  | cons t ts ih =>
    rw [outcomes, outcomes, List.flatMap_cons, List.flatMap_cons, List.filter_append, ih]
    congr 1
    exact t.lexeme.reports_eq_filter _ hnone hall

/-- Apart from reports, what is seen of tiles does not depend on what is reported. -/
theorem Tile.unreported_outcomes :
    (outcomes config reporting p ts).map Outcome.unreported =
      (outcomes config' reporting' p ts).map Outcome.unreported := by
  induction ts generalizing p with
  | nil => rfl
  | cons t ts ih =>
    rw [outcomes, outcomes, List.map_cons, List.map_cons, ih]
    rfl

end

namespace Session

section
variable {s : Scanner} {c : Command} {cs : List Command} {r : Step} {steps : List Step}

theorem run?_watched_one (h : Handler) (hc : c = .nextToken ∨ c = .next)
    (hr : s.nextToken? = some r) :
    (Session.mk [some s] h).run? [(0, c), (0, .span)] =
      some ((r.outcome.answers c).map (·, (h.report r.diagnostics).errorCount),
        ⟨[some r.scanner], h.report r.diagnostics⟩) := by
  have hreply : s.perform? c = some ⟨c.answer r.token, some r.scanner, r.diagnostics⟩ := by
    rcases hc with rfl | rfl
    · simp [Scanner.perform?, hr, Scanner.replyOf, Step.after, Step.allDiagnostics, Command.answer]
    · simp [Scanner.perform?, hr, Scanner.replyOf, Step.after, Step.allDiagnostics, Command.answer]
  have hspan : r.scanner.perform? .span =
      some ⟨.span r.scanner.tokenSpan, some r.scanner, []⟩ := rfl
  have hrun := run?_append (run?_one (step?_single h hreply))
    (run?_one (step?_single (h.report r.diagnostics) hspan))
  rw [Handler.report_nil] at hrun
  exact hrun

/-- A run under watch is read off the steps. -/
theorem exists_watched (h : Handler) (hcs : ∀ c ∈ cs, c = .nextToken ∨ c = .next)
    (hsteps : Scanner.nextSteps? cs.length s = some steps) :
    ∃ answers t, Watched s h cs steps answers t := by
  -- on the calls, for every handler: each call leaves another one
  induction cs generalizing s h steps with
  | nil =>
    cases hsteps
    exact ⟨[], ⟨[some s], h⟩, rfl, rfl, rfl, (Handler.report_nil h).symm⟩
  | cons c cs ih =>
    obtain ⟨r, hr, hsteps⟩ := Option.bind_eq_some_iff.1 hsteps
    obtain ⟨rs, hrs, hsteps⟩ := Option.bind_eq_some_iff.1 hsteps
    cases hsteps
    have hone := run?_watched_one h (hcs c List.mem_cons_self) hr
    obtain ⟨answers, t, hrest⟩ :=
      ih (h.report r.diagnostics) (fun c hc => hcs c (List.mem_cons_of_mem _ hc)) hrs
    refine ⟨_, t, ?_, run?_append hone hrest.run, ?_, ?_⟩
    · rw [List.length_cons, Scanner.nextSteps?, hr, Option.bind_eq_bind, Option.bind_some, hrs]
      rfl
    · rw [List.map_append, hrest.answers_eq]
      simp [Function.comp_def]
    · rw [hrest.handler_eq, Handler.report_report]
      rfl

theorem zipWith_answers_unreported (os : List Outcome) :
    List.zipWith Outcome.answers (os.map Outcome.unreported) cs =
      List.zipWith Outcome.answers os cs := by
  rw [List.zipWith_map_left]
  rfl

end

/-- **Reporting takes no part in scanning**: two scanners of one source that read numbers alike,
with whatever handlers and reports, are asked for the same tokens. They answer, and log, the same.
If one leaves text without an end out of its reports and the other does not, then it adds to its
handler what is about illegal characters in what the other adds. -/
theorem exists_watched_alike (source : String) (config config' : ScanConfig)
    (reporting reporting' : Bool) (h h' : Handler) (cs : List Command)
    (hmode : config.numberMode = config'.numberMode)
    (hcs : ∀ c ∈ cs, c = .nextToken ∨ c = .next) :
    ∃ steps answers t steps' answers' t',
      Watched (.start source config reporting) h cs steps answers t ∧
      Watched (.start source config' reporting') h' cs steps' answers' t' ∧
      answers.map Prod.fst = answers'.map Prod.fst ∧
      steps.map (·.outcome.unreported) = steps'.map (·.outcome.unreported) ∧
      Step.allEvents steps = Step.allEvents steps' ∧
      (reporting = true ∧ config.reportUnterminated = false →
        reporting' = true ∧ config'.reportUnterminated = true →
        Step.allDiagnostics steps = (Step.allDiagnostics steps').filter (·.IsIllegal)) := by
  obtain ⟨ts, hts⟩ := exists_tiled config.numberMode source.toList
  obtain ⟨steps, hsteps, houtcomes⟩ := Scanner.exists_nextSteps?_of_tiled cs.length
    (s := .start source config reporting) (start_eq_between source) hts
  obtain ⟨steps', hsteps', houtcomes'⟩ := Scanner.exists_nextSteps?_of_tiled cs.length
    (s := .start source config' reporting') (start_eq_between source) (hmode ▸ hts)
  obtain ⟨answers, t, hwatched⟩ := exists_watched h hcs hsteps
  obtain ⟨answers', t', hwatched'⟩ := exists_watched h' hcs hsteps'
  -- both scanners have the same tiles in front of them
  have hunreported : (steps.map Step.outcome).map Outcome.unreported =
      (steps'.map Step.outcome).map Outcome.unreported := by
    rw [houtcomes, houtcomes']
    exact Tile.unreported_outcomes
  refine ⟨steps, answers, t, steps', answers', t', hwatched, hwatched', ?_, ?_, ?_, ?_⟩
  · rw [hwatched.answers_eq, hwatched'.answers_eq, ← zipWith_answers_unreported, hunreported,
      zipWith_answers_unreported]
  · rwa [List.map_map, List.map_map] at hunreported
  · have hevents := congrArg (List.flatMap Outcome.events) hunreported
    simp only [List.flatMap_map] at hevents
    exact hevents
  · rintro ⟨rfl, hnone⟩ ⟨rfl, hall⟩
    rw [Step.allDiagnostics_eq, Step.allDiagnostics_eq, houtcomes, houtcomes']
    exact Tile.diagnostics_eq_filter hnone hall

/-- A tilde and a string without an end, which only one of two scanners reports. The last two calls
find the end of input. -/
theorem exists_watched_alike_openString :
    ∃ steps steps', Scanner.nextSteps? 4 (.start "~ \"a" ⟨.split, false⟩ true) = some steps ∧
      Scanner.nextSteps? 4 (.start "~ \"a" ⟨.split, true⟩ true) = some steps' ∧
      Step.allEvents steps = Step.allEvents steps' ∧
      Step.allDiagnostics steps = (Step.allDiagnostics steps').filter (·.IsIllegal) ∧
      (Step.allDiagnostics steps').map (·.code) = [some ⟨"E", 1001⟩, some ⟨"E", 1002⟩] := by
  obtain ⟨steps, _, _, steps', _, _, hwatched, hwatched', _, _, hevents, hreports⟩ :=
    exists_watched_alike "~ \"a" ⟨.split, false⟩ ⟨.split, true⟩ true true .empty .empty
      [.nextToken, .next, .next, .nextToken] rfl (by decide)
  have hcodes : (Scanner.nextSteps? 4 (.start "~ \"a" ⟨.split, true⟩ true)).map
      (fun rs => (Step.allDiagnostics rs).map (·.code)) =
        some [some ⟨"E", 1001⟩, some ⟨"E", 1002⟩] := by
    decide +kernel
  have hsteps' := hwatched'.steps_eq
  simp only [List.length_cons, List.length_nil] at hsteps'
  rw [hsteps', Option.map_some, Option.some.injEq] at hcodes
  exact ⟨steps, steps', hwatched.steps_eq, hsteps', hevents, hreports ⟨rfl, rfl⟩ ⟨rfl, rfl⟩, hcodes⟩

end Session

end LexFront
