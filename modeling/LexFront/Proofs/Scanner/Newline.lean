import LexFront.Proofs.Lexeme.Written
import LexFront.Proofs.Scanner.Lossless
import LexFront.Proofs.Scanner.Outcome

/-! Lines. A line feed ends every lexeme but a string or a block comment without an end, so a text
whose lexemes all have their ends keeps its tokens when a line feed and another text follow, and the
tokens of that text come behind them as they would alone. -/
namespace LexFront
open Text Cursor

/-- A lexeme that runs to the end of the text because its own end is missing. -/
def Lexeme.IsOpen (l : Lexeme) : Prop := ∃ f, l.fault = some f ∧ f ≠ .unexpected

/-- An event that tells of a token without an end. -/
def Event.IsUnterminated (e : Event) : Prop :=
  ∃ i, e = .unterminatedString i ∨ e = .unterminatedComment i

/-! ## Lexemes in front of a line feed -/

section
variable {mode : NumberMode} {r : List Char} {l : Lexeme}

/-- A lexeme that has its end is there as well when a line feed follows the text. -/
theorem Reads.append_newline (h : Reads mode r l) (hclosed : ¬ l.IsOpen) (q : List Char) :
    Reads mode (r ++ '\n' :: q) l := by
  have hr : r <+: r ++ '\n' :: q := List.prefix_append r _
  have hstop : ∀ x ∈ ('\n' :: q).head?, (x != '\n') = false := by simp
  -- what has no line feed in it reaches as far as before
  have hstarts : ∀ {m : List Char}, m <+: r ++ '\n' :: q → '\n' ∉ m → m <+: r := by
    intro m hm hline
    refine prefix_of_stop hm ?_ hstop
    intro c hc
    simpa using ne_of_mem_of_not_mem hc hline
  have hextent : ∀ {P : List Char → Prop} {m : List Char}, Longest P m r →
      (∀ n, P n → '\n' ∉ n) → Longest P m (r ++ '\n' :: q) := by
    intro P m hm hline
    refine hm.append_of_stop ?_ hstop
    intro n hn c hc
    simpa using ne_of_mem_of_not_mem hc (hline n hn)
  have hblank : ∀ {m : List Char}, (∀ c ∈ m, isBlank c = false) → '\n' ∉ m := by
    intro m hm hline
    exact absurd (hm '\n' hline) (by decide)
  have hword : ∀ n : List Char, (∀ c ∈ n, isIdentContinue c = true) → '\n' ∉ n := by
    intro n hn
    exact hblank fun c hc => isBlank_of_isIdentContinue (hn c hc)
  cases h with
  | lineComment opens extent =>
    exact .lineComment (opens.trans hr) (hextent extent fun _ hn => hn)
  | blockComment opens extent => exact .blockComment (opens.trans hr) (extent.append _)
  | openBlockComment => exact absurd ⟨_, rfl, by decide⟩ hclosed
  | string quoted inner => exact .string (quoted.trans hr) inner
  | openString => exact absurd ⟨_, rfl, by decide⟩ hclosed
  | keyword starts extent reserved =>
    exact .keyword (exists_head?_append starts) (hextent extent hword) reserved
  | name starts extent free =>
    exact .name (exists_head?_append starts) (hextent extent hword) free
  | number starts extent =>
    exact .number (exists_head?_append starts)
      (hextent extent fun _ hn => hblank hn.isBlank_eq_false)
  | symbol notLine notBlock spelled extent =>
    refine .symbol (fun h => notLine (hstarts h (by decide)))
      (fun h => notBlock (hstarts h (by decide))) spelled ?_
    exact hextent extent fun _ hn => hblank hn.isBlank_eq_false
  | illegal first notQuote notWord notDigit notSymbol =>
    refine .illegal (by rw [List.head?_append, first, Option.some_or]) notQuote notWord notDigit ?_
    intro m hm hsymbol
    exact notSymbol m (hstarts hm (hblank hsymbol.isBlank_eq_false)) hsymbol

end

/-! ## Tiles in front of a line feed -/

/-- A tile with more blanks in front. -/
def Tile.indent (w : List Char) (t : Tile) : Tile := ⟨w ++ t.blanks, t.lexeme⟩

section
variable {mode : NumberMode} {config : ScanConfig} {reporting : Bool} {p q r w : List Char}
  {t : Tile} {ts us vs : List Tile}

theorem Tiled.exists_last (h : Tiled mode q ts) : ∃ us w, ts = us ++ [⟨w, .endOfInput⟩] := by
  induction h with
  | @done w _ => exact ⟨[], w, rfl⟩
  | @next w _ l _ _ _ _ _ ih =>
    obtain ⟨us, v, rfl⟩ := ih
    exact ⟨⟨w, l⟩ :: us, v, rfl⟩

/-- Blanks in front of a text belong to its first tile. -/
theorem Tiled.indent (h : Tiled mode q (t :: ts)) (hw : ∀ c ∈ w, isBlank c = true) :
    Tiled mode (w ++ q) (t.indent w :: ts) := by
  have hblank : ∀ c ∈ w ++ t.blanks, isBlank c = true := by
    intro c hc
    rcases List.mem_append.1 hc with hc | hc
    · exact hw c hc
    · exact h.blank c hc
  cases h with
  | done _ => exact .done hblank
  | next _ hstops hreads htail =>
    rw [← List.append_assoc]
    exact .next hblank hstops hreads htail

/-- **Lines are laid on their own**: behind lexemes that all have their ends, a line feed is one
more blank in front of the first tile of what follows. -/
theorem Tiled.append_newline (h : Tiled mode q (us ++ [⟨w, .endOfInput⟩]))
    (hclosed : ∀ u ∈ us, ¬ u.lexeme.IsOpen) (h' : Tiled mode r (t :: vs)) :
    Tiled mode (q ++ '\n' :: r) (us ++ t.indent (w ++ ['\n']) :: vs) := by
  induction us generalizing q with
  | nil =>
    -- the blanks, the line feed and the blanks of `t` stand in front of one lexeme
    have hq : w = q := by simpa [Tile.chars] using h.row_eq
    subst hq
    have hw : ∀ c ∈ w ++ ['\n'], isBlank c = true := by
      intro c hc
      rcases List.mem_append.1 hc with hc | hc
      · exact h.blank c hc
      · rw [List.mem_singleton.1 hc]
        decide
    have hindent := h'.indent hw
    rwa [List.append_assoc, List.singleton_append] at hindent
  | cons u us ih =>
    rw [List.cons_append] at h ⊢
    generalize hts : us ++ [⟨w, .endOfInput⟩] = ts at h
    cases h with
    | done _ => simp at hts
    | @next w' rest l _ hblank hstops hreads htail =>
      subst hts
      have hlexeme := hreads.append_newline (hclosed _ List.mem_cons_self) r
      have hrest := ih htail fun v hv => hclosed v (List.mem_cons_of_mem _ hv)
      have htext : w' ++ (l.chars ++ rest) ++ '\n' :: r =
          w' ++ (l.chars ++ (rest ++ '\n' :: r)) := by
        simp only [List.append_assoc]
      rw [List.append_assoc] at hlexeme
      rw [htext]
      refine .next hblank ?_ hlexeme hrest
      rwa [hreads.head?_append _ rest]

theorem Tile.outcomes_indent :
    outcomes config reporting p (t.indent w :: ts) =
      outcomes config reporting (p ++ w) (t :: ts) := by
  simp only [outcomes, outcome, span, chars, indent, List.append_assoc]

/-- What is seen of the tiles of a text is what is seen of a run over the text alone, moved on. -/
theorem Tile.outcomes_append_newline :
    outcomes config reporting [] (us ++ t.indent (w ++ ['\n']) :: vs) =
      outcomes config reporting [] us ++
        (outcomes config reporting [] (t :: vs)).map
          (Outcome.shift (byteLength (row us ++ w) + 1)) := by
  have hlength : byteLength (row us ++ w) + 1 = byteLength (row us ++ (w ++ ['\n'])) := by
    rw [← List.append_assoc, byteLength_append _ ['\n']]
    rfl
  rw [outcomes_append, outcomes_indent, hlength, ← outcomes_shift, List.nil_append, List.append_nil]

end

/-! ## Events about missing ends -/

theorem Lexeme.not_isOpen_endOfInput : ¬ endOfInput.IsOpen := by
  rintro ⟨f, hf, -⟩
  cases hf

section
variable {mode : NumberMode} {config : ScanConfig} {reporting : Bool} {p q : List Char}
  {l : Lexeme} {t : Tile} {ts : List Tile} {o : Outcome} {e : Event}

theorem Lexeme.exists_isUnterminated_iff {i : Nat} :
    (∃ e ∈ l.events i, e.IsUnterminated) ↔ l.IsOpen := by
  rw [events, IsOpen]
  cases l.fault with
  | none => simp
  | some f => cases f <;> simp [Fault.event, Event.IsUnterminated]

theorem Tile.exists_isUnterminated_iff :
    (∃ e ∈ (t.outcome config reporting p).events, e.IsUnterminated) ↔ t.lexeme.IsOpen := by
  rw [← Lexeme.exists_isUnterminated_iff (i := (t.span p).start)]
  simp [outcome, Event.IsUnterminated]

theorem Tile.not_isUnterminated_iff :
    (∀ e ∈ (outcomes config reporting p ts).flatMap Outcome.events, ¬ e.IsUnterminated) ↔
      ∀ t ∈ ts, ¬ t.lexeme.IsOpen := by
  induction ts generalizing p with
  | nil => simp [outcomes]
  | cons t ts ih =>
    have hopen : (∃ e ∈ (t.outcome config reporting p).events, e.IsUnterminated) ↔
        t.lexeme.IsOpen := exists_isUnterminated_iff
    have ht : (∀ e ∈ (t.outcome config reporting p).events, ¬ e.IsUnterminated) ↔
        ¬ t.lexeme.IsOpen := by
      rw [← hopen]
      simp
    rw [outcomes, List.flatMap_cons, List.forall_mem_append, List.forall_mem_cons, ht, ih]

/-- A token without an end ends with the text. -/
theorem Tiled.stop_of_isUnterminated (h : Tiled mode q ts)
    (ho : o ∈ Tile.outcomes config reporting p ts) (he : e ∈ o.events) (hopen : e.IsUnterminated) :
    o.span.stop = byteLength (p ++ q) := by
  induction h generalizing p with
  | done _ =>
    rw [List.mem_singleton.1 ho] at he
    exact absurd (Tile.exists_isUnterminated_iff.1 ⟨e, he, hopen⟩) Lexeme.not_isOpen_endOfInput
  | @next w rest l ts _ _ hreads _ ih =>
    rcases List.mem_cons.1 ho with rfl | ho
    · obtain ⟨f, hf, hne⟩ := Tile.exists_isUnterminated_iff.1 ⟨e, he, hopen⟩
      have hall : l.chars = l.chars ++ rest := hreads.chars_eq_of_fault hf hne
      have hstop : ((⟨w, l⟩ : Tile).outcome config reporting p).span.stop =
          byteLength (p ++ w ++ l.chars) := rfl
      rw [hstop, ← hall, List.append_assoc]
    · have htext : p ++ (w ++ (l.chars ++ rest)) = p ++ (w ++ l.chars) ++ rest := by
        simp only [List.append_assoc]
      rw [htext]
      exact ih ho

/-- What is seen alike of two texts of different length has its end. -/
theorem Tiled.not_isUnterminated_of_mem {r : List Char} {us : List Tile} (h : Tiled mode q ts)
    (h' : Tiled mode r us) (hlength : byteLength q ≠ byteLength r)
    (ho : o ∈ Tile.outcomes config reporting [] ts)
    (ho' : o ∈ Tile.outcomes config reporting [] us) (he : e ∈ o.events) :
    ¬ e.IsUnterminated := by
  intro hopen
  have hstop := h.stop_of_isUnterminated ho he hopen
  have hstop' := h'.stop_of_isUnterminated ho' he hopen
  exact hlength (hstop.symm.trans hstop')

/-- **The barrier**: behind a line feed the tiles of a text are seen as they are seen alone, moved
on, exactly if every lexeme in front of the line feed has its end. -/
theorem Tiled.outcomes_newline_iff {r w : List Char} {us vs xs : List Tile}
    (h : Tiled config.numberMode q (us ++ [⟨w, .endOfInput⟩]))
    (h' : Tiled config.numberMode r (t :: vs)) (hx : Tiled config.numberMode (q ++ '\n' :: r) xs) :
    Tile.outcomes config reporting [] xs =
        Tile.outcomes config reporting [] us ++
          (Tile.outcomes config reporting [] (t :: vs)).map (Outcome.shift (byteLength q + 1)) ↔
      ∀ u ∈ us, ¬ u.lexeme.IsOpen := by
  constructor
  · intro hsame
    rw [← Tile.not_isUnterminated_iff]
    intro e he
    obtain ⟨o, ho, he⟩ := List.mem_flatMap.1 he
    -- a token that is seen in both runs ends before the line feed
    have hfirst : o ∈ Tile.outcomes config reporting [] (us ++ [⟨w, .endOfInput⟩]) := by
      rw [Tile.outcomes_append]
      exact List.mem_append_left _ ho
    have hwhole : o ∈ Tile.outcomes config reporting [] xs := by
      rw [hsame]
      exact List.mem_append_left _ ho
    have hlength : byteLength q ≠ byteLength (q ++ '\n' :: r) := by
      rw [byteLength_append, byteLength_cons]
      have := '\n'.utf8Size_pos
      omega
    exact h.not_isUnterminated_of_mem hx hlength hfirst hwhole he
  · intro hclosed
    have hq : Tile.row us ++ w = q := by simpa [Tile.chars] using h.row_eq
    rw [hx.unique (h.append_newline hclosed h'), Tile.outcomes_append_newline, hq]

end

namespace Scanner

/-- What is reported in a run that is put together from two is put together likewise. -/
theorem allDiagnostics_of_join {n : Nat} {before after whole : List Step}
    (h : whole.map Step.outcome =
      before.map Step.outcome ++ after.map (·.outcome.shift n)) :
    Step.allDiagnostics whole =
      Step.allDiagnostics before ++ (Step.allDiagnostics after).map (Diagnostic.shift n) := by
  rw [Step.allDiagnostics_eq, h, List.flatMap_append, ← Step.allDiagnostics_eq]
  congr 1
  rw [Step.allDiagnostics, List.map_flatMap, List.flatMap_map]
  rfl

/-- A run is some steps, seen as the tiles in front of the end of input, and a last one. The log of
the run tells of no missing end where those tiles all have theirs. -/
theorem exists_steps_concat (source : String) (config : ScanConfig) (reporting : Bool) :
    ∃ before last us w, Tiled config.numberMode source.toList (us ++ [⟨w, .endOfInput⟩]) ∧
      (start source config reporting).steps? = some (before ++ [last]) ∧
      before.map Step.outcome = Tile.outcomes config reporting [] us ∧
      last.token = .endOfInput ∧ last.diagnostics = [] ∧
      ((∀ e ∈ Step.allEvents (before ++ [last]), ¬ e.IsUnterminated) ↔
        ∀ u ∈ us, ¬ u.lexeme.IsOpen) := by
  obtain ⟨ts, hts, hsteps⟩ := exists_tiled_start source config reporting
  obtain ⟨us, w, rfl⟩ := hts.exists_last
  have hseen : (Tile.steps config reporting [] (us ++ [⟨w, .endOfInput⟩])).map Step.outcome =
      Tile.outcomes config reporting [] us ++
        [(⟨w, .endOfInput⟩ : Tile).outcome config reporting (Tile.row us)] := by
    rw [Tile.map_outcome_steps, Tile.outcomes_append]
    rfl
  obtain ⟨before, rest, hrun, hbefore, hrest⟩ := List.map_eq_append_iff.1 hseen
  obtain ⟨last, rfl, hlast⟩ := List.map_eq_singleton_iff.1 hrest
  refine ⟨before, last, us, w, hts, hrun ▸ hsteps, hbefore, congrArg Outcome.token hlast,
    congrArg Outcome.diagnostics hlast, ?_⟩
  rw [← hrun, Step.allEvents_eq, Tile.map_outcome_steps, Tile.not_isUnterminated_iff,
    List.forall_mem_append, List.forall_mem_singleton]
  exact and_iff_left Lexeme.not_isOpen_endOfInput

/-- **A line feed is a barrier**: the run over two texts with a line feed between them is the run
over the first, without its end, and behind it the run over the second, moved on by the first and
the line feed, exactly if no string and no block comment of the first lacks its end. Then what is
reported about the two is what is reported about each. -/
theorem exists_newline_barrier (a b : String) (config : ScanConfig) (reporting : Bool) :
    ∃ before last after whole,
      (start a config reporting).steps? = some (before ++ [last]) ∧ last.token = .endOfInput ∧
      (start b config reporting).steps? = some after ∧
      (start (a ++ "\n" ++ b) config reporting).steps? = some whole ∧
      ((∀ e ∈ Step.allEvents (before ++ [last]), ¬ e.IsUnterminated) ↔
        whole.map Step.outcome = before.map Step.outcome ++
          after.map (·.outcome.shift (a.utf8ByteSize + 1))) ∧
      ((∀ e ∈ Step.allEvents (before ++ [last]), ¬ e.IsUnterminated) →
        Step.allDiagnostics whole = Step.allDiagnostics (before ++ [last]) ++
          (Step.allDiagnostics after).map (Diagnostic.shift (a.utf8ByteSize + 1))) := by
  obtain ⟨before, last, us, w, hus, hfirst, hbefore, hend, hnone, hclosed⟩ :=
    exists_steps_concat a config reporting
  obtain ⟨xs, hxs, hafter⟩ := exists_tiled_start b config reporting
  obtain ⟨ys, hys, hwhole⟩ := exists_tiled_start (a ++ "\n" ++ b) config reporting
  obtain ⟨t, vs, rfl⟩ := List.exists_cons_of_ne_nil hxs.ne_nil
  have htext : (a ++ "\n" ++ b).toList = a.toList ++ '\n' :: b.toList := by
    simp [String.toList_append]
  have hjoin : (∀ e ∈ Step.allEvents (before ++ [last]), ¬ e.IsUnterminated) ↔
      (Tile.steps config reporting [] ys).map Step.outcome = before.map Step.outcome ++
        (Tile.steps config reporting [] (t :: vs)).map
          (·.outcome.shift (a.utf8ByteSize + 1)) := by
    have hmoved : (Tile.steps config reporting [] (t :: vs)).map
        (·.outcome.shift (a.utf8ByteSize + 1)) = (Tile.outcomes config reporting [] (t :: vs)).map
          (Outcome.shift (a.utf8ByteSize + 1)) := by
      rw [← Tile.map_outcome_steps, List.map_map]
      rfl
    rw [htext] at hys
    rw [hclosed, hbefore, hmoved, Tile.map_outcome_steps, ← byteLength_toList,
      hus.outcomes_newline_iff hxs hys]
  refine ⟨before, last, _, _, hfirst, hend, hafter, hwhole, hjoin, ?_⟩
  intro hall
  have hreports : Step.allDiagnostics (before ++ [last]) = Step.allDiagnostics before := by
    simp [Step.allDiagnostics, hnone]
  rw [allDiagnostics_of_join (hjoin.1 hall), hreports]

/-- A point at the end of a line is not joined to a digit on the next line, and a comment that lacks
its end there is reported behind what is reported on the first line. -/
theorem exists_newline_barrier_point :
    ∃ whole, (start ("~ 1." ++ "\n" ++ "5 -*") ⟨.fractional, true⟩ true).steps? = some whole ∧
      Step.tokens whole = [⟨.illegal, "~"⟩, ⟨.literal, "1"⟩, ⟨.delimiter .dot, "."⟩,
        ⟨.literal, "5"⟩, ⟨.commentBlock, "-*"⟩, .endOfInput] ∧
      Step.allDiagnostics whole =
        [(unexpected "~").withSpan ⟨0, 1⟩, openComment.withSpan ⟨7, 9⟩] := by
  obtain ⟨before, last, after, whole, hfirst, -, hafter, hwhole, hjoin, hreports⟩ :=
    exists_newline_barrier "~ 1." "5 -*" ⟨.fractional, true⟩ true
  have hseen : (start "~ 1." ⟨.fractional, true⟩ true).steps?.map (fun rs =>
        (Step.tokens rs, Step.allEvents rs, Step.allDiagnostics rs)) =
      some ([⟨.illegal, "~"⟩, ⟨.literal, "1"⟩, ⟨.delimiter .dot, "."⟩, .endOfInput],
        [.illegalCharacter "~" 0, .scannedToken .illegal ⟨0, 1⟩, .scannedToken .literal ⟨2, 3⟩,
          .scannedToken (.delimiter .dot) ⟨3, 4⟩, .scannedToken .endOfInput ⟨4, 4⟩],
        [(unexpected "~").withSpan ⟨0, 1⟩]) := by decide +kernel
  have hseenAfter : (start "5 -*" ⟨.fractional, true⟩ true).steps?.map (fun rs =>
        (Step.tokens rs, Step.allDiagnostics rs)) =
      some ([⟨.literal, "5"⟩, ⟨.commentBlock, "-*"⟩, .endOfInput],
        [openComment.withSpan ⟨2, 4⟩]) := by decide +kernel
  rw [hfirst, Option.map_some, Option.some.injEq, Prod.mk.injEq, Prod.mk.injEq] at hseen
  rw [hafter, Option.map_some, Option.some.injEq, Prod.mk.injEq] at hseenAfter
  obtain ⟨htokens, hevents, hreported⟩ := hseen
  obtain ⟨htokensAfter, hreportedAfter⟩ := hseenAfter
  have hclosed : ∀ e ∈ Step.allEvents (before ++ [last]), ¬ e.IsUnterminated := by
    rw [hevents]
    simp [Event.IsUnterminated]
  have hbefore : Step.tokens before =
      [⟨.illegal, "~"⟩, ⟨.literal, "1"⟩, ⟨.delimiter .dot, "."⟩] := by
    simpa [Step.tokens] using congrArg List.dropLast htokens
  have hjoined : Step.tokens whole = Step.tokens before ++ Step.tokens after := by
    have htokens := congrArg (List.map Outcome.token) (hjoin.1 hclosed)
    rwa [List.map_append, List.map_map, List.map_map, List.map_map] at htokens
  refine ⟨whole, hwhole, ?_, ?_⟩
  · rw [hjoined, hbefore, htokensAfter]
    rfl
  · rw [hreports hclosed, hreported, hreportedAfter]
    rfl

end Scanner

end LexFront
