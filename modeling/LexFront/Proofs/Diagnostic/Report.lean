import LexFront.Proofs.Diagnostic.Shown

/-! Reading shown diagnostics back. A `Report` is what a diagnostic tells against a source, row by row, and
`Report.read` finds it in the text: the first two rows are told by their place, all others by what they
start with. So whoever sees the text knows the report, whatever the quoted lines look like. -/
namespace LexFront
open Text

/-- What a shown diagnostic tells. -/
structure Report where
  header : String
  span : Span
  /-- The lines that are quoted, unless the span does not resolve. -/
  snippet : Option (List String)
  notes : List String
  helps : List String
  deriving DecidableEq, Repr

/-- What a diagnostic tells against a source. -/
def Diagnostic.report (d : Diagnostic) (source : String) : Report where
  header := d.header
  span := d.span
  snippet := (d.span.slice source).toOption.map fun part => (lines part.toList).map String.ofList
  notes := d.notes
  helps := d.helps

namespace Report

/-- The rows that quote the source. -/
def snippetRows (r : Report) : List String :=
  r.snippet.elim [] fun ls => "  |" :: ls.map ("  | " ++ ·)

/-- The rows behind the first two: the snippet, notes and helps. -/
def body (r : Report) : List String :=
  r.snippetRows ++ (r.notes.map ("  = note: " ++ ·) ++ r.helps.map ("  = help: " ++ ·))

/-- The rows that a report is shown in. -/
def rows (r : Report) : List String := r.header :: (" --> " ++ r.span.display) :: r.body

/-! ## Reading -/

/-- The texts of the rows that start with a mark, without the mark. -/
def behind (mark : String) (rows : List String) : List String :=
  (rows.filter fun row => mark.toList.isPrefixOf row.toList).map fun row =>
    String.ofList (row.toList.drop mark.toList.length)

/-- The span that is written in a text, as two numbers with two points between them. -/
def readSpan (text : List Char) : Span where
  start := Nat.ofDigitChars 10 (text.takeWhile (· != '.')) 0
  stop := Nat.ofDigitChars 10 ((text.dropWhile (· != '.')).drop 2) 0

/-- The report that is shown in some rows. -/
def ofRows (rows : List String) : Report where
  header := rows.getD 0 ""
  span := readSpan ((rows.getD 1 "").toList.drop " --> ".toList.length)
  snippet := if "  |" ∈ rows.drop 2 then some (behind "  | " (rows.drop 2)) else none
  notes := behind "  = note: " (rows.drop 2)
  helps := behind "  = help: " (rows.drop 2)

/-- The report that is shown as a text. -/
def read (text : String) : Report := ofRows (cutRows text)

section
variable {mark other : String} {rows rows' : List String}

theorem behind_append : behind mark (rows ++ rows') = behind mark rows ++ behind mark rows' := by
  rw [behind, List.filter_append, List.map_append]
  rfl

theorem behind_map_self (mark : String) (texts : List String) :
    behind mark (texts.map (mark ++ ·)) = texts := by
  have hfilter : ∀ row ∈ texts.map (mark ++ ·), mark.toList.isPrefixOf row.toList = true := by
    rw [List.forall_mem_map]
    intro text _
    rw [List.isPrefixOf_iff_prefix, String.toList_append]
    exact List.prefix_append _ _
  rw [behind, List.filter_eq_self.2 hfilter, List.map_map]
  refine List.map_id'' (fun text => ?_) texts
  rw [Function.comp_apply, String.toList_append, List.drop_left, String.ofList_toList]

theorem behind_map_of_ne
    (h : ∀ text : List Char, mark.toList.isPrefixOf (other.toList ++ text) = false)
    (texts : List String) : behind mark (texts.map (other ++ ·)) = [] := by
  have hfilter : ∀ row ∈ texts.map (other ++ ·), ¬ mark.toList.isPrefixOf row.toList = true := by
    rw [List.forall_mem_map]
    intro text _
    rw [String.toList_append, h]
    exact Bool.false_ne_true
  rw [behind, List.filter_eq_nil_iff.2 hfilter]
  rfl

end

theorem readSpan_display (s : Span) : readSpan s.display.toList = s := by
  have htext : s.display.toList =
      Nat.toDigits 10 s.start ++ '.' :: '.' :: Nat.toDigits 10 s.stop := by
    simp [Span.display, Nat.toList_repr]
  have hdigits : ∀ c ∈ Nat.toDigits 10 s.start, (c != '.') = true := by
    intro c hc
    have hdigit := Nat.isDigit_of_mem_toDigits (by decide) (by decide) hc
    rw [bne_iff_ne]
    rintro rfl
    cases hdigit
  have hpoint : ∀ c ∈ ('.' :: '.' :: Nat.toDigits 10 s.stop).head?, (c != '.') = false := by
    rintro _ ⟨⟩
    rfl
  rw [readSpan, htext, takeWhile_append_of_stop hdigits hpoint,
    dropWhile_append_of_stop hdigits hpoint]
  simp only [List.drop_succ_cons, List.drop_zero, Nat.ofDigitChars_ten_toDigits]

section
variable (r : Report)

/-- The snippet is told from other rows by its marks. -/
theorem behind_snippetRows_of_ne {mark : String} (hbar : mark.toList.isPrefixOf "  |".toList = false)
    (h : ∀ text : List Char, mark.toList.isPrefixOf ("  | ".toList ++ text) = false) :
    behind mark r.snippetRows = [] := by
  rw [snippetRows]
  cases r.snippet with
  | none => rfl
  | some ls =>
    have hlines := behind_map_of_ne h ls
    rw [behind] at hlines ⊢
    rwa [Option.elim_some, List.filter_cons_of_neg (by rw [hbar]; exact Bool.false_ne_true)]

theorem behind_body_line : behind "  | " r.body = r.snippet.getD [] := by
  rw [body, behind_append, behind_append, behind_map_of_ne fun _ => rfl,
    behind_map_of_ne fun _ => rfl, List.append_nil, List.append_nil, snippetRows]
  cases r.snippet with
  | none => rfl
  | some ls => exact behind_map_self "  | " ls

theorem behind_body_note : behind "  = note: " r.body = r.notes := by
  rw [body, behind_append, behind_append, behind_snippetRows_of_ne r rfl fun _ => rfl,
    behind_map_self, behind_map_of_ne fun _ => rfl, List.nil_append, List.append_nil]

theorem behind_body_help : behind "  = help: " r.body = r.helps := by
  rw [body, behind_append, behind_append, behind_snippetRows_of_ne r rfl fun _ => rfl,
    behind_map_self, behind_map_of_ne fun _ => rfl, List.nil_append, List.nil_append]

/-- The snippet opens with a bar, and no row behind it is one. -/
theorem bar_mem_body : "  |" ∈ r.body ↔ r.snippet.isSome := by
  have htail : "  |" ∉ r.notes.map ("  = note: " ++ ·) ++ r.helps.map ("  = help: " ++ ·) := by
    simp only [List.mem_append, List.mem_map, ← String.toList_inj, String.toList_append]
    rintro (⟨text, _, ⟨⟩⟩ | ⟨text, _, ⟨⟩⟩)
  rw [body, List.mem_append, or_iff_left htail, snippetRows]
  cases r.snippet with
  | none => simp
  | some ls => simp

/-- **A report is read back** from its rows. -/
theorem ofRows_rows : ofRows r.rows = r := by
  have hspan : readSpan ((" --> " ++ r.span.display).toList.drop " --> ".toList.length) = r.span := by
    rw [String.toList_append, List.drop_left, readSpan_display]
  have hsnippet : (if "  |" ∈ r.body then some (behind "  | " r.body) else none) = r.snippet := by
    rw [behind_body_line]
    simp only [bar_mem_body]
    cases r.snippet <;> rfl
  calc ofRows r.rows
      = ⟨r.header, readSpan ((" --> " ++ r.span.display).toList.drop " --> ".toList.length),
          if "  |" ∈ r.body then some (behind "  | " r.body) else none,
          behind "  = note: " r.body, behind "  = help: " r.body⟩ := rfl
    _ = r := by rw [hspan, hsnippet, behind_body_note, behind_body_help]

/-- A report whose rows are one line each is read back from its text. -/
theorem read_unlines (h : ∀ row ∈ r.rows, '\n' ∉ row.toList) : read (unlines r.rows) = r := by
  rw [read, cutRows_unlines h, ofRows_rows]

end

end Report

namespace Diagnostic

/-- **A diagnostic whose texts are each one line**: the message, what names the family of the code, notes
and helps. -/
structure OneLine (d : Diagnostic) : Prop where
  message : '\n' ∉ d.message.toList
  family : ∀ c, d.code = some c → '\n' ∉ c.family.toList
  notes : ∀ note ∈ d.notes, '\n' ∉ note.toList
  helps : ∀ help ∈ d.helps, '\n' ∉ help.toList

/-- **What two diagnostics have in common** that look the same, each against its source. -/
structure Agrees (s t : String) (d e : Diagnostic) : Prop where
  header : d.header = e.header
  span : d.span = e.span
  resolves : (∃ x, d.span.slice s = .ok x) ↔ ∃ y, e.span.slice t = .ok y
  lines : ∀ x y, d.span.slice s = .ok x → e.span.slice t = .ok y → lines x.toList = lines y.toList
  notes : d.notes = e.notes
  helps : d.helps = e.helps

section
variable {d e : Diagnostic} {s t : String}

theorem rows_report (d : Diagnostic) (s : String) : (d.report s).rows = d.rows s := by
  rw [Report.rows, Report.body, Report.snippetRows, rows, snippetRows, report]
  cases d.span.slice s with
  | error e => simp [Except.toOption]
  | ok part => simp [Except.toOption, Function.comp_def]

theorem agrees_iff : Agrees s t d e ↔ d.report s = e.report t := by
  constructor
  · intro h
    have hsnippet : (d.report s).snippet = (e.report t).snippet := by
      simp only [report]
      cases hd : d.span.slice s with
      | ok x =>
        obtain ⟨y, hy⟩ := h.resolves.1 ⟨x, hd⟩
        rw [hy]
        simp only [Except.toOption, Option.map_some, h.lines x y hd hy]
      | error f =>
        cases he : e.span.slice t with
        | ok y =>
          obtain ⟨x, hx⟩ := h.resolves.2 ⟨y, he⟩
          rw [hd] at hx
          cases hx
        | error g => rfl
    calc d.report s = ⟨d.header, d.span, (d.report s).snippet, d.notes, d.helps⟩ := rfl
      _ = ⟨e.header, e.span, (e.report t).snippet, e.notes, e.helps⟩ := by
        rw [h.header, h.span, hsnippet, h.notes, h.helps]
  · intro h
    obtain ⟨hheader, hspan, hsnippet, hnotes, hhelps⟩ := Report.mk.inj h
    refine ⟨hheader, hspan, ?_, ?_, hnotes, hhelps⟩
    · cases hd : d.span.slice s <;> cases he : e.span.slice t <;>
        simp_all [Except.toOption]
    · intro x y hx hy
      rw [hx, hy] at hsnippet
      exact (List.map_inj_right fun _ _ => String.ofList_injective).1 (Option.some.inj hsnippet)

theorem OneLine.not_mem_header (h : d.OneLine) : '\n' ∉ d.header.toList := by
  have hdigits : ∀ n, '\n' ∉ DiagnosticCode.text.digits n := by
    intro n hmem
    rcases List.mem_append.1 hmem with hpad | hdigit
    · cases List.eq_of_mem_replicate hpad
    · cases Nat.isDigit_of_mem_toDigits (by decide) (by decide) hdigit
  rw [header]
  cases hcode : d.code with
  | none => simp [h.message]
  | some c => simp [DiagnosticCode.text, h.message, h.family c hcode, hdigits]

/-- **What a diagnostic tells is read back** from how it is shown. -/
theorem OneLine.read_render (h : d.OneLine) : Report.read (d.render s) = d.report s := by
  have hrows : ∀ row ∈ d.rows s, '\n' ∉ row.toList :=
    not_mem_rows h.not_mem_header h.notes h.helps
  rw [render_eq_unlines, ← rows_report, Report.read_unlines]
  rwa [rows_report]

/-- Diagnostics whose texts are each one line look the same if they tell the same, and only then. -/
theorem render_eq_iff (hd : d.OneLine) (he : e.OneLine) : d.render s = e.render t ↔ Agrees s t d e := by
  rw [agrees_iff]
  constructor
  · intro h
    rw [← hd.read_render, h, he.read_render]
  · intro h
    rw [render_eq_unlines, render_eq_unlines, ← rows_report, h, rows_report]

end

/-- **Shown diagnostics are unambiguous**: if their texts are each one line, two of them look the same, each
against its source, exactly if they have title, span, quoted lines, notes and helps in common. Nothing
quoted, an empty line quoted and no quote at all look different. A span that does not resolve takes
the block of quoted lines away and no other row. -/
theorem render_unambiguous :
    (∀ (d e : Diagnostic) (s t : String), d.OneLine → e.OneLine →
      (d.render s = e.render t ↔ Agrees s t d e)) ∧
    (∀ (d e f : Diagnostic) (s t u : String) (fault : SpanError),
      d.OneLine → e.OneLine → f.OneLine → d.span.slice s = .ok "" → e.span.slice t = .ok "\n" →
        f.span.slice u = .error fault →
          d.render s ≠ e.render t ∧ e.render t ≠ f.render u ∧ d.render s ≠ f.render u) ∧
    ∀ (d : Diagnostic) (s : String), ∃ block : List String,
      d.render s = unlines
        ([d.header, " --> " ++ d.span.start.repr ++ ".." ++ d.span.stop.repr] ++ block ++
          d.notes.map ("  = note: " ++ ·) ++ d.helps.map ("  = help: " ++ ·)) ∧
      (block = [] ↔ ∃ fault, d.span.slice s = .error fault) ∧
      ∀ x, d.span.slice s = .ok x →
        block = "  |" :: (lines x.toList).map fun l => "  | " ++ String.ofList l := by
  refine ⟨fun d e s t hd he => render_eq_iff hd he, ?_, ?_⟩
  · intro d e f s t u fault hd he hf hempty hfeed hfault
    refine ⟨fun h => ?_, fun h => ?_, fun h => ?_⟩
    · -- no line against one that is empty
      have hlines := ((render_eq_iff hd he).1 h).lines _ _ hempty hfeed
      cases hlines
    · obtain ⟨x, hx⟩ := ((render_eq_iff he hf).1 h).resolves.1 ⟨_, hfeed⟩
      rw [hfault] at hx
      cases hx
    · obtain ⟨x, hx⟩ := ((render_eq_iff hd hf).1 h).resolves.1 ⟨_, hempty⟩
      rw [hfault] at hx
      cases hx
  · -- whether the span resolves makes a difference to the block alone
    intro d s
    cases hslice : d.span.slice s with
    | error fault =>
      refine ⟨[], ?_, ⟨fun _ => ⟨fault, rfl⟩, fun _ => rfl⟩, ?_⟩
      · rw [render_eq_unlines, rows_of_error hslice, List.append_nil]
      · rintro x ⟨⟩
    | ok part =>
      refine ⟨"  |" :: (lines part.toList).map fun l => "  | " ++ String.ofList l, ?_, ⟨?_, ?_⟩, ?_⟩
      · rw [render_eq_unlines, rows_of_slice hslice, List.map_map]
        rfl
      · rintro ⟨⟩
      · rintro ⟨_, ⟨⟩⟩
      · rintro x ⟨⟩
        rfl

/-- Two codes that are written alike, over texts that differ in which of two lines ends in a carriage
return. -/
theorem render_unambiguous_carriage :
    ∃ d e : Diagnostic, d.OneLine ∧ e.OneLine ∧ d ≠ e ∧
      d.span.slice "a\r\nb\n" = .ok "a\r\nb\n" ∧ e.span.slice "a\nb\r\n" = .ok "a\nb\r\n" ∧
      d.render "a\r\nb\n" = e.render "a\nb\r\n" := by
  have hd : OneLine ⟨"lost", ⟨0, 5⟩, some ⟨"E", 11001⟩, ["  | a"], []⟩ :=
    ⟨by decide, by rintro _ ⟨⟩; decide, by decide, by decide⟩
  have he : OneLine ⟨"lost", ⟨0, 5⟩, some ⟨"E1", 1001⟩, ["  | a"], []⟩ :=
    ⟨by decide, by rintro _ ⟨⟩; decide, by decide, by decide⟩
  have hs : (Span.mk 0 5).slice "a\r\nb\n" = .ok "a\r\nb\n" :=
    Span.slice_eq_ok_iff.2 (slice?_eq_some_iff.2 ⟨"", "", by decide, by decide, by decide⟩)
  have ht : (Span.mk 0 5).slice "a\nb\r\n" = .ok "a\nb\r\n" :=
    Span.slice_eq_ok_iff.2 (slice?_eq_some_iff.2 ⟨"", "", by decide, by decide, by decide⟩)
  refine ⟨_, _, hd, he, by decide, hs, ht, (render_unambiguous.1 _ _ _ _ hd he).2 ?_⟩
  refine ⟨by decide, rfl, ⟨fun _ => ⟨_, ht⟩, fun _ => ⟨_, hs⟩⟩, ?_, rfl, rfl⟩
  intro x y hx hy
  rw [hs] at hx
  rw [ht] at hy
  cases hx
  cases hy
  decide

end Diagnostic

end LexFront
