import LexFront.Proofs.Scanner.Tile

/-! What a caller sees of a scanner: the tokens, their spans, the log and the reports. The rest of a
step, the scanner itself, is of no account where runs over different sources are compared. The
outcomes of a run are read off its tiles, and what stands in front of a text only moves them on. -/
namespace LexFront
open Text Cursor

/-- What is seen of a step. -/
structure Outcome where
  token : Token
  span : Span
  events : List Event
  diagnostics : List Diagnostic
  deriving DecidableEq, Repr

/-- A step as its caller sees it. -/
def Step.outcome (r : Step) : Outcome where
  token := r.token
  span := r.scanner.tokenSpan
  events := r.events
  diagnostics := r.diagnostics

/-! ## Moving on -/

/-- The span `n` bytes further on. -/
def Span.shift (n : Nat) (s : Span) : Span := ⟨s.start + n, s.stop + n⟩

/-- The event about a token `n` bytes further on. -/
def Event.shift (n : Nat) : Event → Event
  | .scannedToken kind span => .scannedToken kind (span.shift n)
  | .illegalCharacter text offset => .illegalCharacter text (offset + n)
  | .unterminatedString offset => .unterminatedString (offset + n)
  | .unterminatedComment offset => .unterminatedComment (offset + n)
  | .loadedConfig path config => .loadedConfig path config

/-- The diagnostic about a place `n` bytes further on. -/
def Diagnostic.shift (n : Nat) (d : Diagnostic) : Diagnostic := d.withSpan (d.span.shift n)

/-- What is seen of the same step `n` bytes further on. -/
def Outcome.shift (n : Nat) (o : Outcome) : Outcome where
  token := o.token
  span := o.span.shift n
  events := o.events.map (Event.shift n)
  diagnostics := o.diagnostics.map (Diagnostic.shift n)

theorem Event.shift_shift (m n : Nat) (e : Event) : (e.shift m).shift n = e.shift (m + n) := by
  cases e <;> simp [shift, Span.shift, Nat.add_assoc]

theorem Outcome.shift_shift (m n : Nat) (o : Outcome) : (o.shift m).shift n = o.shift (m + n) := by
  simp [shift, Span.shift, Diagnostic.shift, Diagnostic.withSpan, Event.shift_shift,
    Function.comp_def, Nat.add_assoc]

namespace Lexeme

theorem span_append (l : Lexeme) (b p : List Char) :
    l.span (b ++ p) = (l.span p).shift (byteLength b) := by
  simp only [span, Span.shift, byteLength_append]
  congr 1 <;> omega

theorem events_add (l : Lexeme) (i n : Nat) :
    l.events (i + n) = (l.events i).map (Event.shift n) := by
  rw [events, events]
  cases l.fault with
  | none => rfl
  | some f => cases f <;> rfl

theorem reports_shift (l : Lexeme) (config : ScanConfig) (reporting : Bool) (span : Span)
    (n : Nat) :
    l.reports config reporting (span.shift n) =
      (l.reports config reporting span).map (Diagnostic.shift n) := by
  rw [reports, reports]
  cases l.fault with
  | none => rfl
  | some f =>
    by_cases h : f.isReported config ∧ reporting
    · simp only [h, and_self, if_true]
      rfl
    · simp only [h, if_false]
      rfl

end Lexeme

/-! ## The outcomes of tiles -/

namespace Tile

/-- What is seen of the step over a tile behind the characters `p`. -/
def outcome (config : ScanConfig) (reporting : Bool) (p : List Char) (t : Tile) : Outcome where
  token := t.lexeme.token
  span := t.span p
  events := t.lexeme.events (t.span p).start ++ [.scannedToken t.lexeme.kind (t.span p)]
  diagnostics := t.lexeme.reports config reporting (t.span p)

/-- What is seen of the steps over a row of tiles behind the characters `p`. -/
def outcomes (config : ScanConfig) (reporting : Bool) : List Char → List Tile → List Outcome
  | _, [] => []
  | p, t :: ts => t.outcome config reporting p :: outcomes config reporting (p ++ t.chars) ts

section
variable {config : ScanConfig} {reporting : Bool} {b p rest : List Char} {t : Tile}
  {ts us : List Tile}

@[simp] theorem outcome_step :
    (t.step config reporting p rest).outcome = t.outcome config reporting p := rfl

@[simp] theorem map_outcome_steps :
    (steps config reporting p ts).map Step.outcome = outcomes config reporting p ts := by
  induction ts generalizing p with
  | nil => rfl
  | cons t ts ih => rw [steps, List.map_cons, ih, outcome_step, outcomes]

@[simp] theorem length_outcomes : (outcomes config reporting p ts).length = ts.length := by
  rw [← map_outcome_steps, List.length_map, length_steps]

theorem outcomes_append :
    outcomes config reporting p (us ++ ts) =
      outcomes config reporting p us ++ outcomes config reporting (p ++ row us) ts := by
  induction us generalizing p with
  | nil => simp [outcomes]
  | cons u us ih => simp [outcomes, ih]

/-- What stands in front of a tile moves its outcome on. -/
theorem outcome_append :
    t.outcome config reporting (b ++ p) = (t.outcome config reporting p).shift (byteLength b) := by
  have hspan : t.span (b ++ p) = (t.span p).shift (byteLength b) := by
    rw [span, List.append_assoc, Lexeme.span_append, span]
  rw [outcome, hspan]
  simp only [Span.shift, Lexeme.events_add]
  rw [← Span.shift, Lexeme.reports_shift, Outcome.shift, outcome, List.map_append]
  rfl

theorem outcomes_shift :
    outcomes config reporting (b ++ p) ts =
      (outcomes config reporting p ts).map (Outcome.shift (byteLength b)) := by
  induction ts generalizing p with
  | nil => rfl
  | cons t ts ih => rw [outcomes, outcomes, List.map_cons, outcome_append, List.append_assoc, ih]

end

end Tile

/-- The first `n` tiles of a row; behind the last of them stands the end of input, again and again.
-/
def Tile.ahead : Nat → List Tile → List Tile
  | 0, _ => []
  | n + 1, [] => ⟨[], .endOfInput⟩ :: ahead n []
  | n + 1, t :: ts => t :: ahead n ts

theorem Tile.ahead_nil (n : Nat) : ahead n [] = ahead n [⟨[], .endOfInput⟩] := by
  cases n <;> rfl

/-- **Any number of tokens is read off the tiles**, of which the last stands for all that are asked
for behind it. -/
theorem Scanner.exists_nextSteps?_of_tiled {s : Scanner} {p q : List Char} {ts : List Tile}
    (n : Nat) (hs : s.cursor = between p q) (h : Tiled s.config.numberMode q ts) :
    ∃ rs, nextSteps? n s = some rs ∧
      rs.map Step.outcome = Tile.outcomes s.config s.reporting p (Tile.ahead n ts) := by
  induction n generalizing s p q ts with
  | zero => exact ⟨[], rfl, rfl⟩
  | succ n ih =>
    obtain ⟨t, ts, rfl⟩ := List.exists_cons_of_ne_nil h.ne_nil
    obtain ⟨rs, hrs, houtcomes⟩ : ∃ rs,
        nextSteps? n (t.step s.config s.reporting p (Tile.row ts)).scanner = some rs ∧
          rs.map Step.outcome =
            Tile.outcomes s.config s.reporting (p ++ t.chars) (Tile.ahead n ts) := by
      by_cases hts : ts = []
      · -- behind the end of input there is only the end of input
        subst hts
        rw [Tile.ahead_nil]
        exact ih (s := (t.step s.config s.reporting p []).scanner) rfl (.done (by simp))
      · exact ih (s := (t.step s.config s.reporting p (Tile.row ts)).scanner) rfl (h.tail hts)
    refine ⟨t.step s.config s.reporting p (Tile.row ts) :: rs, ?_, ?_⟩
    · rw [nextSteps?, nextToken?_of_tiled hs h, Option.bind_eq_bind, Option.bind_some, hrs]
      rfl
    · rw [List.map_cons, houtcomes, Tile.outcome_step]
      rfl

theorem Step.allDiagnostics_eq (rs : List Step) :
    allDiagnostics rs = (rs.map outcome).flatMap Outcome.diagnostics := by
  rw [allDiagnostics, List.flatMap_map]
  rfl

theorem Step.allEvents_eq (rs : List Step) :
    allEvents rs = (rs.map outcome).flatMap Outcome.events := by
  rw [allEvents, List.flatMap_map]
  rfl

end LexFront
