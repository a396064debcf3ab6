import LexFront.Config.Document
import LexFront.Proofs.Text.Lines
import LexFront.Proofs.Toml.Plain

/-! Written options under other layouts. The document that options are written to has three plain lines.
It is read the same with lines that say nothing put in and with other ends of its lines, so a document
that somebody commented by hand still has the options. -/
namespace LexFront.ScanConfig
open Toml

/-- The lines that options are written in. -/
def documentLines (c : ScanConfig) : List (List Char) :=
  [headerLine "scanner".toList,
    settingLine "number_mode".toList (enquote c.numberMode.word.toList),
    settingLine "report_unterminated".toList (truthText c.reportUnterminated)]

/-- What the lines say. -/
def statements (c : ScanConfig) : List Statement :=
  [.header ⟨[], "scanner"⟩, .pair ⟨[], "number_mode"⟩ (.string c.numberMode.word),
    .pair ⟨[], "report_unterminated"⟩ (.boolean c.reportUnterminated)]

/-- The table that the options are written as. -/
def entries (c : ScanConfig) : Entries :=
  [("scanner", .table .header [("number_mode", .string c.numberMode.word),
    ("report_unterminated", .boolean c.reportUnterminated)])]

section
variable (c : ScanConfig)

theorem toList_toToml : c.toToml.toList = c.documentLines.flatMap (· ++ ['\n']) := by
  rcases c with ⟨_ | _, _ | _⟩ <;> decide +kernel

theorem lines_toToml : Text.lines c.toToml.toList = c.documentLines := by
  rw [toList_toToml]
  apply Text.lines_flatMap
  rcases c with ⟨_ | _, _ | _⟩ <;> decide

theorem isPlain_word (m : NumberMode) : IsPlain m.word.toList := by
  cases m
  · exact ⟨by decide, List.all_eq_true.1 (by decide)⟩
  · exact ⟨by decide, List.all_eq_true.1 (by decide)⟩

theorem tells_documentLines : List.Forall₂ Tells c.documentLines c.statements := by
  have hheader : Tells (headerLine "scanner".toList) (.header ⟨[], "scanner"⟩) := by
    have hbare : IsBare "scanner".toList := ⟨by decide, List.all_eq_true.1 (by decide)⟩
    have h := tells_header hbare
    rwa [String.ofList_toList] at h
  have hmode : Tells (settingLine "number_mode".toList (enquote c.numberMode.word.toList))
      (.pair ⟨[], "number_mode"⟩ (.string c.numberMode.word)) := by
    have hbare : IsBare "number_mode".toList := ⟨by decide, List.all_eq_true.1 (by decide)⟩
    have h := tells_setting hbare ⟨'"', rfl, by decide⟩ fun t =>
      value?_enquote (t := t) (isPlain_word c.numberMode) 78
    rwa [String.ofList_toList, String.ofList_toList] at h
  have hreport : Tells (settingLine "report_unterminated".toList (truthText c.reportUnterminated))
      (.pair ⟨[], "report_unterminated"⟩ (.boolean c.reportUnterminated)) := by
    have hbare : IsBare "report_unterminated".toList := ⟨by decide, List.all_eq_true.1 (by decide)⟩
    have hhead : ∃ x ∈ (truthText c.reportUnterminated).head?, isBlank x = false := by
      cases c.reportUnterminated
      · exact ⟨'f', rfl, by decide⟩
      · exact ⟨'t', rfl, by decide⟩
    have h := tells_setting hbare hhead fun t => value?_truthText (t := t) c.reportUnterminated 78
    rwa [String.ofList_toList] at h
  exact .cons hheader (.cons hmode (.cons hreport .nil))

theorem ofStatements?_statements : Outline.ofStatements? c.statements = some c.entries := rfl

theorem ofEntries?_entries : ofEntries? c.entries = some c := by
  have hfields : ofEntries? c.entries =
      ofFields? (some (.string c.numberMode.word)) (some (.boolean c.reportUnterminated)) := rfl
  rw [hfields]
  simp [ofFields?, NumberMode.ofValue?, NumberMode.ofWord?_word, Value.truth?]

/-- A document with the lines of written options has the table that they are written as. -/
theorem parse?_of_laidOut {text : String} (h : LaidOut c.documentLines text.toList) :
    parse? text = some c.entries := by
  have hmark : ∀ l ∈ c.documentLines, l.head? ≠ some '\ufeff' := by
    rcases c with ⟨_ | _, _ | _⟩ <;> decide
  rw [parse?, dropMark_laidOut h hmark, statements?_laidOut h (tells_documentLines c)]
  exact ofStatements?_statements c

end

/-- **Written options survive a new layout**: if lines that say nothing are put in front of the lines of
the document, between them and behind them, and each line is ended in either way, the same options are
read. The document as it was written is one such text. -/
theorem ofToml_of_laidOut (c : ScanConfig) :
    LaidOut (Text.lines c.toToml.toList) c.toToml.toList ∧
    ∀ text : String, LaidOut (Text.lines c.toToml.toList) text.toList → ofToml text = .ok c := by
  constructor
  · rw [lines_toToml, toList_toToml]
    exact laidOut_flatMap c.documentLines
  · intro text h
    rw [lines_toToml] at h
    rw [ofToml, parse?_of_laidOut c h, Option.bind_some, ofEntries?_entries]

/-- Options in a document with comments that look like settings, and both ends of lines. -/
theorem ofToml_of_laidOut_commented :
    ∃ text : String,
      text = "# [x]\r\n[scanner]\r\n \t\nnumber_mode = \"fractional\"\n\t#\ta = \"é\n" ++
        "report_unterminated = false\r\n#\n" ∧
      LaidOut (Text.lines (toToml ⟨.fractional, false⟩).toList) text.toList ∧
      ofToml text = .ok ⟨.fractional, false⟩ := by
  have hfirst : Idle ([] ++ '#' :: " [x]".toList) := idle_comment_of_all (by decide) (by decide)
  have hblank : Idle " \t".toList := idle_of_all (by decide)
  have hquote : Idle ("\t".toList ++ '#' :: "\ta = \"é".toList) :=
    idle_comment_of_all (by decide) (by decide)
  have hlast : Idle ([] ++ '#' :: []) := idle_comment_of_all (by decide) (by decide)
  have hread : ∀ text : String, LaidOut (Text.lines (toToml ⟨.fractional, false⟩).toList) text.toList →
      LaidOut (Text.lines (toToml ⟨.fractional, false⟩).toList) text.toList ∧
        ofToml text = .ok ⟨.fractional, false⟩ :=
    fun text h => ⟨h, (ofToml_of_laidOut ⟨.fractional, false⟩).2 text h⟩
  refine ⟨_, rfl, hread _ ?_⟩
  rw [lines_toToml]
  exact .idle .returnFeed hfirst <| .line _ .returnFeed <| .idle .feed hblank <| .line _ .feed <|
    .idle .feed hquote <| .line _ .returnFeed <| .idle .feed hlast .nil

end LexFront.ScanConfig
