import LexFront.Proofs.Scanner.Reports
import Mathlib.Data.List.Forall2

/-! The log and the reports tell one story. What is wrong with a token is logged just in front of
the event that the token was scanned, at the offset where the token starts; a handler that hears of
everything holds one diagnostic for each of these events, in order, about the same place. -/
namespace LexFront
open Text Cursor

/-- The event that tells what is wrong with a token, if anything is. -/
def Token.faultEvent? (t : Token) (span : Span) : Option Event :=
  (t.fault? span).map (·.event t.text span.start)

/-- Where the token starts that an event complains of. -/
def Event.offset? : Event → Option Nat
  | .illegalCharacter _ offset => some offset
  | .unterminatedString offset => some offset
  | .unterminatedComment offset => some offset
  | .scannedToken .. => none
  | .loadedConfig .. => none

/-- An event and a diagnostic that tell the same: that a character is illegal, or that a string or a
block comment is not terminated, at some place. -/
def Event.Matches (e : Event) (d : Diagnostic) : Prop :=
  match e with
  | .illegalCharacter text offset =>
    d.code = some ⟨"E", 1001⟩ ∧ d.message = "unexpected character '" ++ text ++ "'" ∧
      d.span.start = offset
  | .unterminatedString offset => d.code = some ⟨"E", 1002⟩ ∧ d.span.start = offset
  | .unterminatedComment offset => d.code = some ⟨"E", 1003⟩ ∧ d.span.start = offset
  | .scannedToken .. => False
  | .loadedConfig .. => False

theorem Token.faultEvent?_at {t : Token} {span : Span} :
    ∀ e ∈ t.faultEvent? span, e.level = .debug ∧ e.offset? = some span.start := by
  intro e he
  obtain ⟨f, _, rfl⟩ := Option.map_eq_some_iff.1 he
  cases f with
  | unexpected => exact ⟨rfl, rfl⟩
  | openString => exact ⟨rfl, rfl⟩
  | openComment => exact ⟨rfl, rfl⟩

theorem Fault.matches_diagnostic (f : Fault) (text : String) (span : Span) :
    (f.event text span.start).Matches ((f.diagnostic text).withSpan span) := by
  cases f with
  | unexpected =>
    rw [diagnostic, unexpected_withSpan]
    exact ⟨rfl, rfl, rfl⟩
  | openString => exact ⟨rfl, rfl⟩
  | openComment => exact ⟨rfl, rfl⟩

section
variable {mode : NumberMode} {config config' : ScanConfig} {reporting : Bool} {p q r : List Char}
  {l : Lexeme} {ts : List Tile}

theorem Reads.events_eq (h : Reads mode r l) :
    l.events (l.span p).start = (l.token.faultEvent? (l.span p)).toList := by
  rw [Token.faultEvent?, h.fault?_token, Lexeme.events]
  cases l.fault with
  | none => rfl
  | some f => rfl

/-- **The log of a run**: for each token what is wrong with it, if anything, and that it was
scanned. -/
theorem Tiled.allEvents_eq (h : Tiled mode q ts) :
    Step.allEvents (Tile.steps config reporting p ts) =
      (Tile.steps config reporting p ts).flatMap fun r =>
        (r.token.faultEvent? r.scanner.tokenSpan).toList ++
          [.scannedToken r.token.kind r.scanner.tokenSpan] := by
  induction h generalizing p with
  | done => rfl
  | @next w rest l ts _ _ hreads _ ih =>
    rw [Step.allEvents, Tile.steps, List.flatMap_cons, List.flatMap_cons, Tile.events_step,
      Tile.token_step, Tile.tokenSpan_step, Tile.span, hreads.events_eq]
    congr 1
    exact ih

/-- A fault of a lexeme is logged and reported as the same, where all faults are reported. -/
theorem Lexeme.forall₂_matches (l : Lexeme) (span : Span)
    (hall : config.reportUnterminated = true) :
    List.Forall₂ Event.Matches (l.events span.start) (l.reports config true span) := by
  rw [events, reports]
  cases l.fault with
  | none => exact .nil
  | some f =>
    have hreported : f.isReported config = true := by
      cases f with
      | unexpected => rfl
      | openString => exact hall
      | openComment => exact hall
    simp only [hreported, and_self, if_true]
    exact .cons (f.matches_diagnostic _ span) .nil

theorem Lexeme.filter_debug_events (l : Lexeme) (i : Nat) :
    (l.events i).filter (·.level = .debug) = l.events i := by
  rw [events]
  cases l.fault with
  | none => rfl
  | some f => cases f <;> rfl

/-- What a run logs for debugging is what a run that reports everything reports. -/
theorem Tile.forall₂_matches (hall : config'.reportUnterminated = true) :
    List.Forall₂ Event.Matches
      ((Step.allEvents (steps config reporting p ts)).filter (·.level = .debug))
      (Step.allDiagnostics (steps config' true p ts)) := by
  induction ts generalizing p with
  | nil => exact .nil
  | cons t ts ih =>
    have hhead : ((t.step config reporting p (row ts)).events).filter (·.level = .debug) =
        t.lexeme.events (t.span p).start := by
      rw [events_step, List.filter_append, Lexeme.filter_debug_events]
      exact List.append_nil _
    rw [Step.allEvents, Step.allDiagnostics, steps, steps, List.flatMap_cons, List.flatMap_cons,
      List.filter_append, hhead, diagnostics_step]
    exact List.rel_append (t.lexeme.forall₂_matches (t.span p) hall) ih

end

/-- **One story**: the log of a run to the end of the input is, token after token, what is wrong with
the token, if anything, at its start, and that it was scanned. What is wrong is told, in the same order
and about the same places, by the diagnostics that a fresh handler holds behind a scan of the source
with all reports. -/
theorem Session.exists_one_story (source : String) (config : ScanConfig) (reporting : Bool) :
    ∃ steps before last t, (Scanner.start source config reporting).steps? = some steps ∧
      steps = before ++ [last] ∧ (∀ r ∈ before, r.token ≠ .endOfInput) ∧
      last.token = .endOfInput ∧
      (Session.start [.start source { config with reportUnterminated := true } true]).run?
          [(0, .scanAll)] = some ([(.tokens (Step.tokens steps), t.handler.errorCount)], t) ∧
      Step.allEvents steps = (steps.flatMap fun r =>
        (r.token.faultEvent? r.scanner.tokenSpan).toList ++
          [.scannedToken r.token.kind r.scanner.tokenSpan]) ∧
      (∀ r ∈ steps, ∀ e ∈ r.token.faultEvent? r.scanner.tokenSpan,
        e.level = .debug ∧ e.offset? = some r.scanner.tokenSpan.start) ∧
      List.Forall₂ Event.Matches ((Step.allEvents steps).filter (·.level = .debug))
        t.handler.diagnostics := by
  obtain ⟨ts, hts, hsteps⟩ := Scanner.exists_tiled_start source config reporting
  have hreporting : (Scanner.start source { config with reportUnterminated := true } true).steps? =
      some (Tile.steps { config with reportUnterminated := true } true [] ts) :=
    Scanner.steps?_start_of_tiled hts
  -- the tiles are the same, so the tokens do not depend on what is reported
  have htokens : Step.tokens (Tile.steps { config with reportUnterminated := true } true [] ts) =
      Step.tokens (Tile.steps config reporting [] ts) := by
    rw [Tile.tokens_steps, Tile.tokens_steps]
  obtain ⟨t, hrun, hreports⟩ := Session.exists_run?_scanAll hreporting
  rw [htokens] at hrun
  obtain ⟨before, last, hconcat, hbefore, hlast⟩ := hts.exists_steps_concat
  refine ⟨_, before, last, t, hsteps, hconcat, hbefore, hlast, hrun, hts.allEvents_eq,
    fun r _ => Token.faultEvent?_at, ?_⟩
  rw [hreports]
  exact Tile.forall₂_matches rfl

end LexFront
