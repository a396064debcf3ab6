import LexFront.Diagnostic.Basic
import LexFront.Proofs.Span
import LexFront.Proofs.Text.Lines

/-! Diagnostics as they are shown. Against a source that its span cuts, a diagnostic is shown in rows: what
it is, where it is, the lines of the source there, its notes and its helps. -/
namespace LexFront
open Text

/-- **How a diagnostic is shown** against a source: under a title, with the lines of the part of the
source that it is about, and with notes and helps. The text has these rows and no others. -/
structure Diagnostic.Shown (source : String) (d : Diagnostic) (part title : String)
    (lines notes helps : List String) : Prop where
  slice : d.span.slice source = .ok part
  render : d.render source = unlines
    ([title, " --> " ++ d.span.start.repr ++ ".." ++ d.span.stop.repr, "  |"] ++
      lines.map ("  | " ++ ·) ++ notes.map ("  = note: " ++ ·) ++ helps.map ("  = help: " ++ ·))
  count : (d.render source).toList.count '\n' =
    3 + lines.length + notes.length + helps.length

namespace Diagnostic

section
variable {source part title : String} {notes helps : List String} {d : Diagnostic}

theorem render_eq_unlines : d.render source = unlines (d.rows source) := by
  rw [← String.toList_inj, toList_unlines, render, String.toList_ofList]

theorem not_mem_repr (n : Nat) : '\n' ∉ n.repr.toList := by
  rw [Nat.toList_repr]
  intro h
  have hdigit := Nat.isDigit_of_mem_toDigits (by decide) (by decide) h
  cases hdigit

theorem rows_of_slice (h : d.span.slice source = .ok part) :
    d.rows source =
      [d.header, " --> " ++ d.span.start.repr ++ ".." ++ d.span.stop.repr, "  |"] ++
        ((lines part.toList).map String.ofList).map ("  | " ++ ·) ++
          d.notes.map ("  = note: " ++ ·) ++ d.helps.map ("  = help: " ++ ·) := by
  rw [rows, snippetRows, h, Span.display, List.map_map]
  simp only [String.append_assoc]
  rfl

/-- A span that does not resolve is told all the same, and nothing is quoted. -/
theorem rows_of_error {e : SpanError} (h : d.span.slice source = .error e) :
    d.rows source =
      [d.header, " --> " ++ d.span.start.repr ++ ".." ++ d.span.stop.repr] ++
        d.notes.map ("  = note: " ++ ·) ++ d.helps.map ("  = help: " ++ ·) := by
  rw [rows, snippetRows, h, Span.display, List.append_nil]
  simp only [String.append_assoc]

/-- The rows of a diagnostic whose texts are each one line are one line each. -/
theorem not_mem_rows (hheader : '\n' ∉ d.header.toList)
    (hnotes : ∀ note ∈ d.notes, '\n' ∉ note.toList)
    (hhelps : ∀ help ∈ d.helps, '\n' ∉ help.toList) :
    ∀ row ∈ d.rows source, '\n' ∉ row.toList := by
  -- what stands in front of a text in its row is one line, too
  have hrow : ∀ {opening text : String}, '\n' ∉ opening.toList → '\n' ∉ text.toList →
      '\n' ∉ (opening ++ text).toList := by
    intro opening text hopening htext
    rw [String.toList_append, List.mem_append, not_or]
    exact ⟨hopening, htext⟩
  have hplace : '\n' ∉ (" --> " ++ d.span.start.repr ++ ".." ++ d.span.stop.repr).toList :=
    hrow (hrow (hrow (by decide) (not_mem_repr _)) (by decide)) (not_mem_repr _)
  have hnote : ∀ note ∈ d.notes, '\n' ∉ ("  = note: " ++ note).toList :=
    fun note hmem => hrow (by decide) (hnotes note hmem)
  have hhelp : ∀ help ∈ d.helps, '\n' ∉ ("  = help: " ++ help).toList :=
    fun help hmem => hrow (by decide) (hhelps help hmem)
  cases hslice : d.span.slice source with
  | error e =>
    rw [rows_of_error hslice]
    simp only [List.forall_mem_append, List.forall_mem_map, List.forall_mem_cons]
    exact ⟨⟨⟨hheader, hplace, by simp⟩, hnote⟩, hhelp⟩
  | ok part =>
    have hlines : ∀ l ∈ lines part.toList, '\n' ∉ l := (lined_iff.2 rfl).not_mem
    rw [rows_of_slice hslice]
    simp only [List.forall_mem_append, List.forall_mem_map, List.forall_mem_cons]
    refine ⟨⟨⟨⟨hheader, hplace, by decide, by simp⟩, ?_⟩, hnote⟩, hhelp⟩
    intro l hl
    exact hrow (by decide) (by simpa using hlines l hl)

/-- A diagnostic whose texts are each one line is shown in rows if its span cuts the source. -/
theorem shown (hslice : d.span.slice source = .ok part) (hheader : d.header = title)
    (hnotes : d.notes = notes) (hhelps : d.helps = helps) (htitle : '\n' ∉ title.toList)
    (hnote : ∀ note ∈ notes, '\n' ∉ note.toList) (hhelp : ∀ help ∈ helps, '\n' ∉ help.toList) :
    Shown source d part title ((lines part.toList).map String.ofList) notes helps := by
  subst hheader hnotes hhelps
  have hrows := rows_of_slice hslice
  refine ⟨hslice, by rw [render_eq_unlines, hrows], ?_⟩
  rw [render_eq_unlines, count_unlines (not_mem_rows htitle hnote hhelp), hrows]
  simp only [List.length_append, List.length_map, List.length_cons, List.length_nil]

end

end Diagnostic

end LexFront
