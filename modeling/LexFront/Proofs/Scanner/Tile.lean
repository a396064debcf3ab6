import LexFront.Proofs.Scanner.Reading
import LexFront.Scanner.Run

/-! A source as a row of tiles, each some blanks and the lexeme behind them; the last tile is the end of
input. `Tiled mode q ts` says by the token rules alone that `ts` is the row that makes up the text `q`.
There is one such row, and `steps?_of_tiled` reads a whole run of a scanner off it: tokens, spans,
events and diagnostics. -/
namespace LexFront
open Text Cursor

/-- Some blanks and the lexeme behind them. -/
structure Tile where
  blanks : List Char
  lexeme : Lexeme
  deriving DecidableEq, Repr

namespace Tile

/-- The characters that a tile covers. -/
def chars (t : Tile) : List Char := t.blanks ++ t.lexeme.chars

/-- The characters that a row of tiles covers. -/
def row (ts : List Tile) : List Char := ts.flatMap chars

/-- Where the lexeme of a tile lies that starts behind the characters `p`. -/
def span (t : Tile) (p : List Char) : Span := t.lexeme.span (p ++ t.blanks)

/-- The step of a scanner over a tile between `p` and `rest`. -/
def step (config : ScanConfig) (reporting : Bool) (p : List Char) (t : Tile) (rest : List Char) :
    Step where
  token := t.lexeme.token
  scanner :=
    { cursor := between (p ++ t.chars) rest
      config := config
      reporting := reporting
      tokenStart := (t.span p).start
      tokenEnd := (t.span p).stop }
  events := t.lexeme.events (t.span p).start ++ [.scannedToken t.lexeme.kind (t.span p)]
  diagnostics := t.lexeme.reports config reporting (t.span p)

/-- The steps over a row of tiles behind the characters `p`. -/
def steps (config : ScanConfig) (reporting : Bool) : List Char → List Tile → List Step
  | _, [] => []
  | p, t :: ts => t.step config reporting p (row ts) :: steps config reporting (p ++ t.chars) ts

@[simp] theorem row_nil : row [] = [] := rfl

@[simp] theorem row_cons (t : Tile) (ts : List Tile) : row (t :: ts) = t.chars ++ row ts := rfl

@[simp] theorem row_append (ts us : List Tile) : row (ts ++ us) = row ts ++ row us :=
  List.flatMap_append

section
variable {config : ScanConfig} {reporting : Bool} {p rest : List Char} {t : Tile} {ts us : List Tile}

@[simp] theorem token_step : (t.step config reporting p rest).token = t.lexeme.token := rfl

@[simp] theorem tokenSpan_step :
    (t.step config reporting p rest).scanner.tokenSpan = t.span p := rfl

@[simp] theorem events_step :
    (t.step config reporting p rest).events =
      t.lexeme.events (t.span p).start ++ [.scannedToken t.lexeme.kind (t.span p)] := rfl

@[simp] theorem diagnostics_step :
    (t.step config reporting p rest).diagnostics =
      t.lexeme.reports config reporting (t.span p) := rfl

theorem tokens_steps :
    Step.tokens (steps config reporting p ts) = ts.map (·.lexeme.token) := by
  rw [Step.tokens]
  induction ts generalizing p with
  | nil => rfl
  | cons t ts ih => rw [steps, List.map_cons, List.map_cons, ih, token_step]

theorem steps_getElem? :
    (steps config reporting p (us ++ t :: ts))[us.length]? =
      some (t.step config reporting (p ++ row us) (row ts)) := by
  induction us generalizing p with
  | nil => simp [steps]
  | cons u us ih => simp [steps, ih]

/-- Every step of a run is the step over some tile, behind what the tiles before it cover. -/
theorem exists_of_steps_getElem? {i : Nat} {r : Step}
    (h : (steps config reporting p ts)[i]? = some r) :
    ∃ us t vs, ts = us ++ t :: vs ∧ us.length = i ∧
      r = t.step config reporting (p ++ row us) (row vs) := by
  induction ts generalizing p i with
  | nil => simp [steps] at h
  | cons t ts ih =>
    cases i with
    | zero =>
      simp only [steps, List.getElem?_cons_zero, Option.some.injEq] at h
      exact ⟨[], t, ts, rfl, rfl, by simp [h]⟩
    | succ i =>
      simp only [steps, List.getElem?_cons_succ] at h
      obtain ⟨us, u, vs, rfl, hlen, rfl⟩ := ih h
      exact ⟨t :: us, u, vs, rfl, by simp [hlen], by simp⟩

@[simp] theorem length_steps : (steps config reporting p ts).length = ts.length := by
  induction ts generalizing p with
  | nil => rfl
  | cons t ts ih => simp [steps, ih]

end

end Tile

/-- **The tiles of a text**: `ts` are what the text `q` is made up of. -/
inductive Tiled (mode : NumberMode) : List Char → List Tile → Prop
  | done {w : List Char} (blank : ∀ c ∈ w, isBlank c = true) : Tiled mode w [⟨w, .endOfInput⟩]
  | next {w rest : List Char} {l : Lexeme} {ts : List Tile} (blank : ∀ c ∈ w, isBlank c = true)
      (stops : ∀ x ∈ (l.chars ++ rest).head?, isBlank x = false)
      (reads : Reads mode (l.chars ++ rest) l) (tail : Tiled mode rest ts) :
      Tiled mode (w ++ (l.chars ++ rest)) (⟨w, l⟩ :: ts)

section
variable {mode : NumberMode} {q : List Char} {t : Tile} {ts us : List Tile}

/-- Nothing of a text is lost and nothing is added. -/
theorem Tiled.row_eq (h : Tiled mode q ts) : Tile.row ts = q := by
  induction h with
  | done => simp [Tile.chars]
  | next _ _ _ _ ih => simp [Tile.chars, ih]

theorem Tiled.ne_nil (h : Tiled mode q ts) : ts ≠ [] := by
  cases h <;> exact List.cons_ne_nil _ _

theorem Tiled.tail (h : Tiled mode q (t :: ts)) (hts : ts ≠ []) : Tiled mode (Tile.row ts) ts := by
  cases h with
  | done => exact absurd rfl hts
  | next _ _ _ htail =>
    rw [htail.row_eq]
    exact htail

/-- The tiles from one tile on are those of the text from there on. -/
theorem Tiled.drop (h : Tiled mode q (us ++ t :: ts)) :
    Tiled mode (Tile.row (t :: ts)) (t :: ts) := by
  induction us generalizing q with
  | nil =>
    have hq := h.row_eq
    rw [List.nil_append] at h hq
    rwa [hq]
  | cons u us ih => exact ih (h.tail (by simp))

theorem Tiled.blank (h : Tiled mode q (t :: ts)) : ∀ c ∈ t.blanks, isBlank c = true := by
  cases h with
  | done hblank => exact hblank
  | next hblank _ _ _ => exact hblank

theorem Tiled.stops (h : Tiled mode q (t :: ts)) :
    ∀ x ∈ (t.lexeme.chars ++ Tile.row ts).head?, isBlank x = false := by
  cases h with
  | done => simp
  | next _ hstops _ htail =>
    rw [htail.row_eq]
    exact hstops

/-- A tile is the end of input, with no tile behind it, or a lexeme, with some. -/
theorem Tiled.lexeme_cases (h : Tiled mode q (t :: ts)) :
    (t.lexeme = .endOfInput ∧ ts = []) ∨
      (Reads mode (t.lexeme.chars ++ Tile.row ts) t.lexeme ∧ ts ≠ []) := by
  cases h with
  | done => exact .inl ⟨rfl, rfl⟩
  | next _ _ hreads htail =>
    rw [htail.row_eq]
    exact .inr ⟨hreads, htail.ne_nil⟩

/-- The last tile is the end of input, and no other tile is. -/
theorem Tiled.isEnd_iff (h : Tiled mode q (t :: ts)) : t.lexeme.token.isEnd = true ↔ ts = [] := by
  rw [Token.isEnd_eq_true_iff]
  rcases h.lexeme_cases with ⟨hl, hts⟩ | ⟨hreads, hts⟩
  · rw [hl]
    exact iff_of_true rfl hts
  · exact iff_of_false hreads.kind_ne_endOfInput hts

theorem Tiled.isEnd_eq_false (h : Tiled mode q (t :: ts)) (hts : ts ≠ []) :
    t.lexeme.token.isEnd = false := by
  rw [← Bool.not_eq_true]
  exact mt h.isEnd_iff.1 hts

theorem Tiled.token_eq_endOfInput_iff (h : Tiled mode q (t :: ts)) :
    t.lexeme.token = .endOfInput ↔ ts = [] := by
  rcases h.lexeme_cases with ⟨hl, hts⟩ | ⟨hreads, hts⟩
  · rw [hl]
    exact iff_of_true rfl hts
  · exact iff_of_false hreads.token_ne_endOfInput hts

theorem Tiled.chars_eq_nil_iff (h : Tiled mode q (t :: ts)) :
    t.lexeme.chars = [] ↔ t.lexeme.token = .endOfInput := by
  rcases h.lexeme_cases with ⟨hl, _⟩ | ⟨hreads, _⟩
  · rw [hl]
    exact iff_of_true rfl rfl
  · exact iff_of_false hreads.chars_ne_nil hreads.token_ne_endOfInput

theorem Tiled.text_eq_chars (h : Tiled mode q (t :: ts)) (hkind : t.lexeme.kind ≠ .stringDelim) :
    t.lexeme.text = t.lexeme.chars := by
  rcases h.lexeme_cases with ⟨hl, _⟩ | ⟨hreads, _⟩
  · rw [hl]
    rfl
  · exact hreads.text_eq_chars hkind

/-- A string is its text in quotes; where the second quote is missing, nothing follows. -/
theorem Tiled.chars_of_stringDelim (h : Tiled mode q (t :: ts))
    (hkind : t.lexeme.kind = .stringDelim) :
    t.lexeme.chars = '"' :: t.lexeme.text ++ ['"'] ∨
      t.lexeme.chars = '"' :: t.lexeme.text ∧ Tile.row ts = [] := by
  rcases h.lexeme_cases with ⟨hl, _⟩ | ⟨hreads, _⟩
  · rw [hl] at hkind
    cases hkind
  rcases hreads.chars_of_stringDelim hkind with hclosed | ⟨hopen, hall⟩
  · exact .inl hclosed
  · exact .inr ⟨hopen, List.append_right_eq_self.1 hall.symm⟩

/-- A run ends with the end of input, which is at no other place in it. -/
theorem Tiled.exists_steps_concat {config : ScanConfig} {reporting : Bool} {p : List Char}
    (h : Tiled mode q ts) :
    ∃ before last, Tile.steps config reporting p ts = before ++ [last] ∧
      (∀ r ∈ before, r.token ≠ .endOfInput) ∧ last.token = .endOfInput := by
  induction h generalizing p with
  | done => exact ⟨[], _, rfl, by simp, rfl⟩
  | @next w _ l ts _ _ hreads _ ih =>
    obtain ⟨before, last, hsteps, hbefore, hlast⟩ := ih (p := p ++ (w ++ l.chars))
    refine ⟨Tile.step config reporting p ⟨w, l⟩ (Tile.row ts) :: before, last, ?_,
      List.forall_mem_cons.2 ⟨hreads.token_ne_endOfInput, hbefore⟩, hlast⟩
    rw [List.cons_append, ← hsteps]
    rfl

theorem Tiled.eq_of_nil (h : Tiled mode [] ts) :
    ts = [⟨[], .endOfInput⟩] := by
  generalize hq : ([] : List Char) = q at h
  cases h with
  | done => rfl
  | next _ _ hreads _ =>
    have hnil := (List.append_eq_nil_iff.1 hq.symm).2
    exact absurd hnil hreads.ne_nil

/-- A text is some blanks and what starts with the first other character. -/
theorem exists_blanks (q : List Char) :
    ∃ w r, q = w ++ r ∧ (∀ c ∈ w, isBlank c = true) ∧ ∀ x ∈ r.head?, isBlank x = false := by
  refine ⟨q.takeWhile isBlank, q.dropWhile isBlank, ?_, ?_, ?_⟩
  · exact List.takeWhile_append_dropWhile.symm
  · exact (longest_takeWhile isBlank q).holds
  · intro x hx
    obtain ⟨t, ht⟩ := List.head?_eq_some_iff.1 hx
    exact head?_dropWhile ht

/-- Every text is made up of tiles. -/
theorem exists_tiled (mode : NumberMode) (q : List Char) : ∃ ts, Tiled mode q ts := by
  -- on the length of the text: each lexeme takes up some of it
  induction hn : q.length using Nat.strong_induction_on generalizing q with
  | _ n ih =>
    obtain ⟨w, r, rfl, hblank, hstops⟩ := exists_blanks q
    by_cases hr : r = []
    · subst hr
      rw [List.append_nil]
      exact ⟨_, .done hblank⟩
    · obtain ⟨l, hreads⟩ : ∃ l, Reads mode r l := ⟨_, reads_read hr⟩
      obtain ⟨rest, rfl⟩ := hreads.starts
      have hpos := List.length_pos_iff.2 hreads.chars_ne_nil
      have hlt : rest.length < n := by
        simp only [← hn, List.length_append]
        omega
      obtain ⟨ts, hts⟩ := ih rest.length hlt rest rfl
      exact ⟨_, .next hblank hstops hreads hts⟩

/-- Blanks in front of another character are told from it in one way. -/
theorem blanks_inj {w w' r r' : List Char} (hw : ∀ c ∈ w, isBlank c = true)
    (hw' : ∀ c ∈ w', isBlank c = true) (hr : ∀ x ∈ r.head?, isBlank x = false)
    (hr' : ∀ x ∈ r'.head?, isBlank x = false) (h : w ++ r = w' ++ r') : w = w' ∧ r = r' := by
  have htake := congrArg (List.takeWhile isBlank) h
  have hdrop := congrArg (List.dropWhile isBlank) h
  rw [takeWhile_append_of_stop hw hr, takeWhile_append_of_stop hw' hr'] at htake
  rw [dropWhile_append_of_stop hw hr, dropWhile_append_of_stop hw' hr'] at hdrop
  exact ⟨htake, hdrop⟩

/-- **There is one row of tiles** for each text. -/
theorem Tiled.unique (h : Tiled mode q ts) (h' : Tiled mode q us) : ts = us := by
  induction h generalizing us with
  | @done w hblank =>
    generalize hq : w = q at h'
    cases h' with
    | done => rfl
    | next hblank' hstops hreads _ =>
      rw [← List.append_nil w] at hq
      have hnil := (blanks_inj hblank hblank' (by simp) hstops hq).2
      exact absurd hnil.symm hreads.ne_nil
  | @next w rest l ts hblank hstops hreads _ ih =>
    generalize hq : w ++ (l.chars ++ rest) = q at h'
    cases h' with
    | done hblank' =>
      rw [← List.append_nil q] at hq
      have hnil := (blanks_inj hblank hblank' hstops (by simp) hq).2
      exact absurd hnil hreads.ne_nil
    | @next w' rest' l' us hblank' hstops' hreads' htail =>
      obtain ⟨rfl, hrest⟩ := blanks_inj hblank hblank' hstops hstops' hq
      rw [← hrest] at hreads'
      obtain rfl := hreads.unique hreads'
      obtain rfl := List.append_cancel_left hrest
      rw [ih htail]

end

/-! ## A scanner lays the tiles -/

namespace Scanner

section
variable {s : Scanner} {p w r rest : List Char} {l : Lexeme} {ts : List Tile}

/-- A scanner in front of some blanks makes one step over them and what `Lexeme.read` finds behind
them. -/
theorem nextToken?_between (hs : s.cursor = between p (w ++ r))
    (hblank : ∀ c ∈ w, isBlank c = true) (hstops : ∀ x ∈ r.head?, isBlank x = false) :
    s.nextToken? =
      some (Tile.step s.config s.reporting p ⟨w, .read s.config.numberMode r⟩
        (r.drop (Lexeme.read s.config.numberMode r).chars.length)) := by
  have hfaces : Faces { s with cursor := between (p ++ w) r, tokenStart := byteLength (p ++ w) }
      (p ++ w) r := ⟨rfl, rfl⟩
  rw [nextToken?, hs, advanceWhile?_between, takeWhile_append_of_stop hblank hstops,
    dropWhile_append_of_stop hblank hstops]
  simp only [Option.bind_eq_bind, Option.bind_some, position_between, hfaces.lex?]
  simp [Lexeme.lexed, Tile.step, Tile.span, Tile.chars, Lexeme.span, Scanner.tokenSpan, Lexeme.token]

theorem nextToken?_of_reads (hs : s.cursor = between p (w ++ (l.chars ++ rest)))
    (hblank : ∀ c ∈ w, isBlank c = true)
    (hstops : ∀ x ∈ (l.chars ++ rest).head?, isBlank x = false)
    (hreads : Reads s.config.numberMode (l.chars ++ rest) l) :
    s.nextToken? = some (Tile.step s.config s.reporting p ⟨w, l⟩ rest) := by
  rw [nextToken?_between hs hblank hstops, ← (reads_iff.1 hreads).2, List.drop_left]

theorem nextToken?_of_blank (hs : s.cursor = between p w) (hblank : ∀ c ∈ w, isBlank c = true) :
    s.nextToken? = some (Tile.step s.config s.reporting p ⟨w, .endOfInput⟩ []) := by
  rw [← List.append_nil w] at hs
  rw [nextToken?_between hs hblank (by simp)]
  rfl

/-- The next step of a scanner is the step over the first tile in front of it. -/
theorem nextToken?_of_tiled {q : List Char} {t : Tile} (hs : s.cursor = between p q)
    (h : Tiled s.config.numberMode q (t :: ts)) :
    s.nextToken? = some (t.step s.config s.reporting p (Tile.row ts)) := by
  cases h with
  | done hblank => exact nextToken?_of_blank hs hblank
  | next hblank hstops hreads htail =>
    rw [htail.row_eq]
    exact nextToken?_of_reads hs hblank hstops hreads

theorem steps?_of_isEnd {r : Step} (h : s.nextToken? = some r) (hr : r.token.isEnd = true) :
    s.steps? = some [r] := by
  rw [steps?]
  split
  · rename_i hnone
    rw [h] at hnone
    cases hnone
  · rename_i r' hr'
    rw [h] at hr'
    cases hr'
    split
    · rfl
    · rename_i hfalse
      rw [hr] at hfalse
      cases hfalse

theorem steps?_of_not_isEnd {r : Step} (h : s.nextToken? = some r) (hr : r.token.isEnd = false) :
    s.steps? = r.scanner.steps?.map (r :: ·) := by
  rw [steps?]
  split
  · rename_i hnone
    rw [h] at hnone
    cases hnone
  · rename_i r' hr'
    rw [h] at hr'
    cases hr'
    split
    · rename_i htrue
      rw [hr] at htrue
      cases htrue
    · rfl

/-- **A run is read off the tiles**: whatever a scanner returns, reports and logs up to the end is
what the tiles of the text in front of it tell. -/
theorem steps?_of_tiled {q : List Char} (hs : s.cursor = between p q)
    (h : Tiled s.config.numberMode q ts) :
    s.steps? = some (Tile.steps s.config s.reporting p ts) := by
  induction ts generalizing s p q with
  | nil => exact absurd rfl h.ne_nil
  | cons t ts ih =>
    have hstep := nextToken?_of_tiled hs h
    by_cases hts : ts = []
    · subst hts
      exact steps?_of_isEnd hstep (h.isEnd_iff.2 rfl)
    · have hend := h.isEnd_eq_false hts
      -- the step leaves the scanner in front of the next tile
      have hrest := ih (s := (t.step s.config s.reporting p (Tile.row ts)).scanner) rfl (h.tail hts)
      rw [steps?_of_not_isEnd hstep hend, hrest]
      rfl

theorem takeSteps?_of_tiled {q : List Char} (n : Nat) (hs : s.cursor = between p q)
    (h : Tiled s.config.numberMode q ts) :
    takeSteps? n s = some ((Tile.steps s.config s.reporting p ts).take n) := by
  induction n generalizing s p q ts with
  | zero => rfl
  | succ n ih =>
    obtain ⟨t, ts, rfl⟩ := List.exists_cons_of_ne_nil h.ne_nil
    rw [takeSteps?, nextToken?_of_tiled hs h]
    by_cases hts : ts = []
    · subst hts
      have hend : t.lexeme.token.isEnd = true := h.isEnd_iff.2 rfl
      simp [hend, Tile.steps]
    · have hend := h.isEnd_eq_false hts
      have hrest := ih (s := (t.step s.config s.reporting p (Tile.row ts)).scanner) rfl (h.tail hts)
      simp only [Tile.token_step, hend, Bool.false_eq_true, if_false, hrest, Option.map_some,
        Tile.steps, List.take_succ_cons]
      rfl

theorem steps?_start_of_tiled {source : String} {config : ScanConfig} {reporting : Bool}
    (h : Tiled config.numberMode source.toList ts) :
    (start source config reporting).steps? = some (Tile.steps config reporting [] ts) :=
  steps?_of_tiled (Cursor.start_eq_between source) h

/-- A source is made up of tiles, and the run of a fresh scanner is read off them. -/
theorem exists_tiled_start (source : String) (config : ScanConfig) (reporting : Bool) :
    ∃ ts, Tiled config.numberMode source.toList ts ∧
      (start source config reporting).steps? = some (Tile.steps config reporting [] ts) := by
  obtain ⟨ts, hts⟩ := exists_tiled config.numberMode source.toList
  exact ⟨ts, hts, steps?_start_of_tiled hts⟩

end

end Scanner

end LexFront
