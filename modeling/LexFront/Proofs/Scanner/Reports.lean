import LexFront.Proofs.Scanner.Tile
import LexFront.Scanner.Session

/-! What is reported about a source can be told from its tokens and their spans. `Token.reports` says
what there is to report about one token; a handler that hears a scan to the end of the source holds
just that, token after token. Text without an end takes the rest of the source up, so it is reported
once at most, and last. -/
namespace LexFront
open Text Cursor

/-- What there is to report about a token: an illegal character is always an error; a string with room
for one quote only and a block comment that is not closed are errors if the options say so. -/
def Token.reports (config : ScanConfig) (t : Token) (span : Span) : List Diagnostic :=
  match t.kind with
  | .illegal =>
    [{ message := "unexpected character '" ++ t.text ++ "'"
       span := span
       code := some ⟨"E", 1001⟩
       notes := []
       helps := if t.text = "~" then ["use `~=` for not-equal"] else [] }]
  | .stringDelim =>
    if config.reportUnterminated = true ∧ span.stop = span.start + t.text.utf8ByteSize + 1 then
      [{ message := "unterminated string literal"
         span := span
         code := some ⟨"E", 1002⟩
         notes := ["string literals have no escape sequences"]
         helps := ["add a closing `\"`"] }]
    else []
  | .commentBlock =>
    if config.reportUnterminated = true ∧ ¬ IsClosedBlock t.text.toList then
      [{ message := "unterminated block comment"
         span := span
         code := some ⟨"E", 1003⟩
         notes := ["block comments do not nest"]
         helps := ["close the comment with `*-`"] }]
    else []
  | _ => []

/-- What is wrong with a token, told from its text and its span: a string has room for one quote
only, a block comment is not closed. -/
def Token.fault? (t : Token) (span : Span) : Option Fault :=
  match t.kind with
  | .illegal => some .unexpected
  | .stringDelim =>
    if span.stop = span.start + t.text.utf8ByteSize + 1 then some .openString else none
  | .commentBlock => if IsClosedBlock t.text.toList then none else some .openComment
  | _ => none

/-- Reports of illegal characters and, as the last one if at all, of text that runs to the offset
`stop` without an end. -/
def OpenLast (stop : Nat) (ds : List Diagnostic) : Prop :=
  ∃ us rest, ds = us ++ rest ∧ (∀ d ∈ us, d.code = some ⟨"E", 1001⟩) ∧
    (rest = [] ∨ ∃ d, rest = [d] ∧ (d.code = some ⟨"E", 1002⟩ ∨ d.code = some ⟨"E", 1003⟩) ∧
      d.span.stop = stop)

section
variable {mode : NumberMode} {config : ScanConfig} {p q r : List Char} {l : Lexeme} {ts : List Tile}

theorem unexpected_withSpan (text : String) (span : Span) :
    (Scanner.unexpected text).withSpan span =
      { message := "unexpected character '" ++ text ++ "'"
        span := span
        code := some ⟨"E", 1001⟩
        notes := []
        helps := if text = "~" then ["use `~=` for not-equal"] else [] } := by
  rw [Scanner.unexpected]
  by_cases htilde : text = "~"
  · simp only [if_pos htilde]
    rfl
  · simp only [if_neg htilde]
    rfl

theorem byteLength_quote (t : List Char) :
    byteLength ('"' :: t) = (String.ofList t).utf8ByteSize + 1 := by
  rw [byteLength_cons, Nat.add_comm]
  rfl

/-- What is wrong with a lexeme can be told from its token. -/
theorem Reads.fault?_token (h : Reads mode r l) : l.token.fault? (l.span p) = l.fault := by
  cases h with
  | blockComment _ extent => simp [Token.fault?, Lexeme.token, Lexeme.plain, extent.holds]
  | openBlockComment _ never =>
    have hopen : ¬ IsClosedBlock (String.ofList r).toList := by
      rw [String.toList_ofList]
      exact never r List.prefix_rfl
    simp only [Token.fault?, Lexeme.token, hopen, if_false]
  | @string t _ _ =>
    -- there is room for two quotes
    have hroom : byteLength (p ++ ('"' :: t ++ ['"'])) ≠
        byteLength p + (String.ofList t).utf8ByteSize + 1 := by
      rw [byteLength_append, byteLength_append, byteLength_quote, byteLength_singleton]
      have := '"'.utf8Size_pos
      omega
    simp only [Token.fault?, Lexeme.token, Lexeme.span, hroom, if_false]
  | @openString t quoted _ =>
    have hroom : byteLength (p ++ r) = byteLength p + (String.ofList t).utf8ByteSize + 1 := by
      rw [quoted, byteLength_append, byteLength_quote, Nat.add_assoc]
    simp only [Token.fault?, Lexeme.token, Lexeme.span, hroom, if_true]
  | @symbol k m _ _ spelled _ =>
    cases k with
    | operator => rfl
    | delimiter => rfl
    | _ => cases spelled
  | _ => rfl

theorem Token.reports_eq (t : Token) (span : Span) :
    t.reports config span =
      match t.fault? span with
      | none => []
      | some f => if f.isReported config then [(f.diagnostic t.text).withSpan span] else [] := by
  obtain ⟨kind, text⟩ := t
  cases kind with
  | illegal => simp [reports, fault?, Fault.isReported, Fault.diagnostic, unexpected_withSpan]
  | stringDelim =>
    by_cases hroom : span.stop = span.start + text.utf8ByteSize + 1
    · simp only [reports, fault?, hroom, and_true]
      rfl
    · simp [reports, fault?, hroom]
  | commentBlock =>
    by_cases hclosed : IsClosedBlock text.toList
    · simp [reports, fault?, hclosed]
    · simp only [reports, fault?, hclosed, not_false_eq_true, and_true]
      rfl
  | _ => rfl

theorem Reads.reports_eq (h : Reads mode r l) :
    l.reports config true (l.span p) = l.token.reports config (l.span p) := by
  rw [Token.reports_eq, h.fault?_token, Lexeme.reports]
  cases l.fault with
  | none => rfl
  | some f => simp [Lexeme.token]

/-- What is reported in a run is what there is to report about its tokens, one after the other. -/
theorem Tiled.allDiagnostics_eq (h : Tiled config.numberMode q ts) :
    Step.allDiagnostics (Tile.steps config true p ts) =
      (Tile.steps config true p ts).flatMap fun r => r.token.reports config r.scanner.tokenSpan := by
  induction h generalizing p with
  | done => rfl
  | next _ _ hreads _ ih =>
    rw [Step.allDiagnostics, Tile.steps, List.flatMap_cons, List.flatMap_cons, Tile.diagnostics_step,
      Tile.token_step, Tile.tokenSpan_step, Tile.span, hreads.reports_eq]
    congr 1
    exact ih

theorem Lexeme.reports_of_open {f : Fault} (hf : l.fault = some f) (hne : f ≠ .unexpected)
    (span : Span) :
    l.reports config true span = [] ∨ ∃ d, l.reports config true span = [d] ∧
      (d.code = some ⟨"E", 1002⟩ ∨ d.code = some ⟨"E", 1003⟩) ∧ d.span = span := by
  rw [Lexeme.reports, hf]
  by_cases hreported : f.isReported config = true
  · right
    refine ⟨_, if_pos ⟨hreported, rfl⟩, ?_, rfl⟩
    cases f with
    | unexpected => exact absurd rfl hne
    | openString => exact .inl rfl
    | openComment => exact .inr rfl
  · left
    exact if_neg fun h => hreported h.1

theorem OpenLast.cons {stop : Nat} {d : Diagnostic} {ds : List Diagnostic} (h : OpenLast stop ds)
    (hd : d.code = some ⟨"E", 1001⟩) : OpenLast stop (d :: ds) := by
  obtain ⟨us, rest, rfl, hus, hrest⟩ := h
  refine ⟨d :: us, rest, rfl, ?_, hrest⟩
  intro u hu
  rcases List.mem_cons.1 hu with rfl | hu
  · exact hd
  · exact hus u hu

/-- A run reports text without an end at most once, at the end of the source and as the last. -/
theorem Tiled.openLast (h : Tiled config.numberMode q ts) :
    OpenLast (byteLength (p ++ q)) (Step.allDiagnostics (Tile.steps config true p ts)) := by
  induction h generalizing p with
  | done => exact ⟨[], [], rfl, by simp, .inl rfl⟩
  | @next w rest l ts _ _ hreads htail ih =>
    have htext : p ++ (w ++ (l.chars ++ rest)) = p ++ (w ++ l.chars) ++ rest := by
      simp only [List.append_assoc]
    have hrest : OpenLast (byteLength (p ++ (w ++ (l.chars ++ rest))))
        (Step.allDiagnostics (Tile.steps config true (p ++ (w ++ l.chars)) ts)) := by
      rw [htext]
      exact ih
    rw [Step.allDiagnostics, Tile.steps, List.flatMap_cons, Tile.diagnostics_step]
    cases hf : l.fault with
    | none =>
      rw [Lexeme.reports, hf]
      exact hrest
    | some f =>
      by_cases hne : f = .unexpected
      · rw [Lexeme.reports, hf, hne]
        refine hrest.cons ?_
        rw [Fault.diagnostic, unexpected_withSpan]
      · -- the lexeme takes the rest of the text up, so the end of input is all that follows
        have hall := hreads.chars_eq_of_fault hf hne
        have hnil : rest = [] := List.append_right_eq_self.1 hall.symm
        subst hnil
        rw [htail.eq_of_nil]
        refine ⟨[], _, rfl, by simp, ?_⟩
        rcases Lexeme.reports_of_open hf hne (Tile.span ⟨w, l⟩ p) with hnone | ⟨d, hd, hcode, hspan⟩
        · left
          rw [hnone]
          rfl
        · right
          refine ⟨d, by rw [hd]; rfl, hcode, ?_⟩
          rw [hspan]
          simp [Tile.span, Lexeme.span]

end

/-- A scan of the whole source answers the tokens of the run, and a fresh handler holds its
reports. -/
theorem Session.exists_run?_scanAll {s : Scanner} {steps : List Step} (h : s.steps? = some steps) :
    ∃ t, (start [s]).run? [(0, .scanAll)] =
        some ([(.tokens (Step.tokens steps), t.handler.errorCount)], t) ∧
      t.handler.diagnostics = Step.allDiagnostics steps := by
  have hreply : s.perform? .scanAll =
      some ⟨.tokens (Step.tokens steps), none, Step.allDiagnostics steps⟩ := by
    rw [Scanner.perform?, h]
    rfl
  exact ⟨⟨[none], Handler.empty.report (Step.allDiagnostics steps)⟩,
    run?_one (step?_single .empty hreply), rfl⟩

/-- **Reports are told by the tokens**: a fresh handler that hears a scan of the whole source holds what
there is to report about each token, in order. Text without an end is the last it hears of. -/
theorem Session.exists_scanAll_reports (source : String) (config : ScanConfig) :
    ∃ steps t, (Scanner.start source config true).steps? = some steps ∧
      (Session.start [.start source config true]).run? [(0, .scanAll)] =
        some ([(.tokens (Step.tokens steps), t.handler.errorCount)], t) ∧
      t.handler.diagnostics =
        (steps.flatMap fun r => r.token.reports config r.scanner.tokenSpan) ∧
      OpenLast source.utf8ByteSize t.handler.diagnostics := by
  obtain ⟨ts, hts, hsteps⟩ := Scanner.exists_tiled_start source config true
  obtain ⟨t, hrun, hreports⟩ := Session.exists_run?_scanAll hsteps
  refine ⟨_, t, hsteps, hrun, ?_, ?_⟩
  · rw [hreports, hts.allDiagnostics_eq]
  · have hopen := hts.openLast (p := [])
    rw [List.nil_append, byteLength, String.ofList_toList] at hopen
    rw [hreports]
    exact hopen

end LexFront
