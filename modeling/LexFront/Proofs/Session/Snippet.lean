import LexFront.Proofs.Diagnostic.Shown
import LexFront.Proofs.Scanner.Reachable
import LexFront.Proofs.Scanner.Reports

/-! Reports are shown with the text that they are about. The span of whatever a scanner reports cuts its
source: around an illegal character, which ends no line, or from the start of a string or block
comment without an end to the end of the source. So the rows of every report are known. -/
namespace LexFront
open Text Cursor

/-- The part of a source from an offset to its end, and its lines, of which there is one at least. -/
structure Text.Remainder (source : String) (i : Nat) (part : String) (lines : List String) :
    Prop where
  cut : ∃ pre, source = pre ++ part ∧ pre.utf8ByteSize = i
  lined : Lined part.toList (lines.map String.toList)
  ne : lines ≠ []

/-- **How a report is shown**: an illegal character in one row, and text without an end from the start
of its token on, with one note and one help. -/
inductive Diagnostic.Told (source : String) (d : Diagnostic) : Prop
  | unexpected (x : Char) (code : d.code = some ⟨"E", 1001⟩)
      (shown : Shown source d (String.singleton x)
        ("error[E1001]: unexpected character '" ++ String.singleton x ++ "'")
        [String.singleton x] [] (if x = '~' then ["use `~=` for not-equal"] else []))
  | openString (part : String) (lines : List String) (code : d.code = some ⟨"E", 1002⟩)
      (remainder : Remainder source d.span.start part lines)
      (shown : Shown source d part "error[E1002]: unterminated string literal" lines
        ["string literals have no escape sequences"] ["add a closing `\"`"])
  | openComment (part : String) (lines : List String) (code : d.code = some ⟨"E", 1003⟩)
      (remainder : Remainder source d.span.start part lines)
      (shown : Shown source d part "error[E1003]: unterminated block comment" lines
        ["block comments do not nest"] ["close the comment with `*-`"])

section
variable {mode : NumberMode} {config : ScanConfig} {reporting : Bool} {p q r : List Char}
  {l : Lexeme} {t : Tile} {ts : List Tile} {source part : String} {span : Span} {d : Diagnostic}

theorem Lexeme.exists_fault_of_mem_reports (h : d ∈ l.reports config reporting span) :
    ∃ f, l.fault = some f ∧ d = (f.diagnostic (String.ofList l.text)).withSpan span := by
  rw [Lexeme.reports] at h
  cases hf : l.fault with
  | none =>
    rw [hf] at h
    cases h
  | some f =>
    simp only [hf] at h
    split at h
    · exact ⟨f, rfl, List.mem_singleton.1 h⟩
    · cases h

/-- A lexeme that is not expected is one character. -/
theorem Reads.exists_singleton (h : Reads mode r l) (hf : l.fault = some .unexpected) :
    ∃ x, l = ⟨.illegal, [x], [x], some .unexpected⟩ := by
  cases h with
  | illegal => exact ⟨_, rfl⟩
  | _ => cases hf

/-- What is left of a source, if it is not empty, has lines. -/
theorem Text.remainder_of_append {pre : String} (h : source = pre ++ part) (hpart : part ≠ "") :
    Remainder source pre.utf8ByteSize part ((lines part.toList).map String.ofList) := by
  refine ⟨⟨pre, h, rfl⟩, ?_, ?_⟩
  · have hsame : ((lines part.toList).map String.ofList).map String.toList = lines part.toList := by
      simp [Function.comp_def]
    rw [hsame]
    exact lined_iff.2 rfl
  · rw [ne_eq, List.map_eq_nil_iff, lines_eq_nil_iff, String.toList_eq_nil_iff]
    exact hpart

theorem Reads.remainder {f : Fault} (h : Reads mode (l.chars ++ r) l) (hf : l.fault = some f)
    (hne : f ≠ .unexpected) (hsource : source.toList = p ++ (l.chars ++ r)) :
    Remainder source (byteLength p) (String.ofList l.chars)
      ((lines (String.ofList l.chars).toList).map String.ofList) := by
  have hnil : r = [] := List.append_right_eq_self.1 (h.chars_eq_of_fault hf hne).symm
  have hcut : source = String.ofList p ++ String.ofList l.chars := by
    rw [← String.ofList_append, ← String.toList_inj, String.toList_ofList, hsource, hnil,
      List.append_nil]
  refine remainder_of_append hcut ?_
  rw [ne_eq, String.ofList_eq_empty_iff]
  exact h.chars_ne_nil

/-- An illegal character that ends no line is shown in one row. -/
theorem Diagnostic.told_unexpected {x : Char} (hx : x ≠ '\n')
    (hslice : span.slice source = .ok (String.singleton x)) :
    Told source ((Scanner.unexpected (String.singleton x)).withSpan span) := by
  have htitle : '\n' ∉
      ("error[E1001]: unexpected character '" ++ String.singleton x ++ "'").toList := by
    simp [Ne.symm hx]
  have htilde : String.singleton x = "~" ↔ x = '~' := by
    rw [← String.toList_inj, String.toList_singleton]
    simp
  have hline : (lines (String.singleton x).toList).map String.ofList = [String.singleton x] := by
    rw [String.toList_singleton, lines_of_not_mem (by simp) (by simp [Ne.symm hx])]
    rfl
  rw [unexpected_withSpan]
  refine .unexpected x rfl ?_
  rw [← hline]
  refine shown hslice ?_ rfl ?_ htitle (by simp) ?_
  · have hopening : "error[" ++ DiagnosticCode.text ⟨"E", 1001⟩ ++ "]: " ++ "unexpected character '" =
        "error[E1001]: unexpected character '" := rfl
    rw [← hopening]
    simp only [header, String.append_assoc]
  · simp only [htilde]
  · split <;> decide

/-- What is reported about a tile has the span of its lexeme, and is shown with it. -/
theorem Tiled.told (h : Tiled mode q (t :: ts)) (hsource : source.toList = p ++ q)
    (hd : d ∈ t.lexeme.reports config reporting (t.span p)) :
    d.span = t.span p ∧ d.Told source := by
  obtain ⟨f, hf, rfl⟩ := Lexeme.exists_fault_of_mem_reports hd
  refine ⟨rfl, ?_⟩
  rcases h.lexeme_cases with ⟨hend, _⟩ | ⟨hreads, _⟩
  · rw [hend] at hf
    cases hf
  have htext : source.toList = (p ++ t.blanks) ++ (t.lexeme.chars ++ Tile.row ts) := by
    rw [hsource, ← h.row_eq, Tile.row_cons, Tile.chars]
    simp only [List.append_assoc]
  have hslice : (t.span p).slice source = .ok (String.ofList t.lexeme.chars) :=
    Span.slice_eq_ok_iff.2 (slice?_of_toList_eq htext)
  cases f with
  | unexpected =>
    obtain ⟨x, hx⟩ := hreads.exists_singleton hf
    have hstops := h.stops x (by rw [hx]; rfl)
    -- no lexeme starts with a blank, so this is no line feed
    have hfeed : x ≠ '\n' := by
      rintro rfl
      cases hstops
    rw [hx] at hslice
    rw [hx]
    exact Diagnostic.told_unexpected hfeed hslice
  | openString =>
    exact .openString _ _ rfl (hreads.remainder hf (by decide) htext)
      (Diagnostic.shown hslice rfl rfl rfl (by decide) (by decide) (by decide))
  | openComment =>
    exact .openComment _ _ rfl (hreads.remainder hf (by decide) htext)
      (Diagnostic.shown hslice rfl rfl rfl (by decide) (by decide) (by decide))

/-- What a scanner at work reports with its next token is about that token, and shown as it should be.
-/
theorem Scanner.Reachable.told {s : Scanner} {step : Step}
    (h : Reachable source config reporting s) (hstep : s.nextToken? = some step)
    (hd : d ∈ step.diagnostics) : d.span = step.scanner.tokenSpan ∧ d.Told source := by
  obtain ⟨p, q, hs⟩ := h.exists_stands
  obtain ⟨ts, hts⟩ := exists_tiled s.config.numberMode q
  obtain ⟨t, ts, rfl⟩ := List.exists_cons_of_ne_nil hts.ne_nil
  rw [nextToken?_of_tiled hs.cursor hts] at hstep
  cases hstep
  exact hts.told hs.source_eq hd

end

namespace Session

/-- **Every report is shown with its snippet**: whatever is asked of a scanner, each diagnostic that it
reports comes with a token of the source, has its span, and is shown against the source with the text
there. -/
theorem exists_told (source : String) (config : ScanConfig) (reporting : Bool)
    (cs : List (Nat × Command)) :
    ∃ answers t, (start [.start source config reporting]).run? cs = some (answers, t) ∧
      ∀ d ∈ t.handler.diagnostics, ∃ s r, Scanner.Reachable source config reporting s ∧
        s.nextToken? = some r ∧ d ∈ r.diagnostics ∧ d.span = r.scanner.tokenSpan ∧
          d.Told source := by
  have hfresh : ∀ s ∈ [Scanner.start source config reporting],
      ∃ source config reporting, s = Scanner.start source config reporting := by
    rw [List.forall_mem_singleton]
    exact ⟨_, _, _, rfl⟩
  obtain ⟨answers, t, hrun⟩ := (atWork_start hfresh).exists_run? cs
  have hholds := Holds.run? (s := start [.start source config reporting])
    (P := fun _ u => Scanner.Reachable source config reporting u)
    (Q := fun d => ∃ s r, Scanner.Reachable source config reporting s ∧ s.nextToken? = some r ∧
      d ∈ r.diagnostics ∧ d.span = r.scanner.tokenSpan ∧ d.Told source) ?_ ?_ hrun
  · exact ⟨answers, t, hrun, hholds.diagnostic⟩
  · -- what a command has the scanner report are reports of its next tokens
    intro i u c reply hu hreply
    refine ⟨fun v hv => hu.perform? hreply hv, ?_⟩
    obtain ⟨steps, hsteps, hreach⟩ := hu.exists_steps_of_perform? hreply
    intro d hd
    rw [hsteps] at hd
    obtain ⟨r, hr, hd⟩ := List.mem_flatMap.1 hd
    obtain ⟨v, hv, hnext⟩ := hreach r hr
    obtain ⟨hspan, htold⟩ := hv.told hnext hd
    exact ⟨v, r, hv, hnext, hd, hspan, htold⟩
  · refine ⟨?_, by simp [start, Handler.empty]⟩
    rintro (_ | i) u hu
    · cases hu
      exact .start
    · simp [start] at hu

end Session

end LexFront
