import LexFront.Proofs.Lexeme.Written
import LexFront.Proofs.Scanner.Tile

/-! Printing and scanning. Tokens that are written down with blanks between them are scanned back as
they were, and the tokens of any source are such that they could have been written: the two
together say exactly which lists of tokens a scanner returns. -/
namespace LexFront
open Text Cursor

/-- The tokens that may stand together: each has a text of its kind, and only the last may be a block
comment without an end. -/
def WellFormed (mode : NumberMode) : List Token → Prop
  | [] => True
  | t :: ts =>
    (Lexical mode t.kind t.text.toList ∨
      (ts = [] ∧ t.kind = .commentBlock ∧ IsOpenBlockText t.text.toList)) ∧ WellFormed mode ts

/-- A token and the blanks that are written behind it. -/
structure Piece where
  token : Token
  blanks : List Char
  deriving DecidableEq, Repr

namespace Piece

/-- How a token is written, with its blanks. -/
def chars (x : Piece) : List Char := x.token.kind.write x.token.text.toList ++ x.blanks

/-- How several tokens are written, with their blanks. -/
def write (xs : List Piece) : List Char := xs.flatMap chars

/-- The blanks behind a token keep it apart from the tokens `xs`: there are some unless `xs` is empty,
a line feed is the first behind a line comment, and nothing stands behind a block comment without an
end. -/
structure Parted (x : Piece) (xs : List Piece) : Prop where
  blank : ∀ c ∈ x.blanks, c ∈ [' ', '\t', '\n', '\r']
  between : xs ≠ [] → x.blanks ≠ []
  behindLine : x.token.kind = .comment → ∀ c ∈ x.blanks.head?, c = '\n'
  atEnd : xs = [] → x.token.kind = .commentBlock → IsOpenBlockText x.token.text.toList →
    x.blanks = []

/-- Each token is kept apart from those behind it. -/
def Apart : List Piece → Prop
  | [] => True
  | x :: xs => Parted x xs ∧ Apart xs

/-- Tokens on a line each. -/
def lines : List Token → List Piece
  | [] => []
  | t :: ts => ⟨t, if ts = [] then [] else ['\n']⟩ :: lines ts

@[simp] theorem write_nil : write [] = [] := rfl

@[simp] theorem write_cons (x : Piece) (xs : List Piece) : write (x :: xs) = x.chars ++ write xs := rfl

@[simp] theorem token_lines (ts : List Token) : (lines ts).map token = ts := by
  induction ts with
  | nil => rfl
  | cons t ts ih => rw [lines, List.map_cons, ih]

theorem apart_lines (ts : List Token) : Apart (lines ts) := by
  induction ts with
  | nil => trivial
  | cons t ts ih =>
    have hlines : lines ts = [] ↔ ts = [] := by
      cases ts <;> simp [lines]
    refine ⟨⟨?_, ?_, ?_, ?_⟩, ih⟩
    · by_cases hts : ts = [] <;> simp [hts]
    · intro hne
      simp [mt hlines.2 hne]
    · intro _
      by_cases hts : ts = [] <;> simp [hts]
    · intro hnil _ _
      simp [hlines.1 hnil]

section
variable {mode : NumberMode} {x : Piece} {xs : List Piece} {w : List Char}

/-- What stands behind a token that is kept apart starts with one of its blanks. -/
theorem Parted.head?_mem (h : Parted x xs) :
    ∀ c ∈ (x.blanks ++ write xs).head?, isBlank c = true ∧ c ∈ x.blanks.head? := by
  intro c hc
  cases hx : x.blanks with
  | nil =>
    have hxs : xs = [] := by
      by_contra hne
      exact h.between hne hx
    rw [hx, hxs] at hc
    cases hc
  | cons b bs =>
    rw [hx] at hc
    cases hc
    exact ⟨isBlank_eq_true_iff.2 (h.blank c (hx ▸ List.mem_cons_self)), rfl⟩

theorem Parted.exists_reads (h : Parted x xs) (hx : WellFormed mode ((x :: xs).map token)) :
    ∃ l, Reads mode (l.chars ++ (x.blanks ++ write xs)) l ∧ l.token = x.token ∧
      l.chars = x.token.kind.write x.token.text.toList ∧
      ∃ c ∈ l.chars.head?, isBlank c = false := by
  have hhead := h.head?_mem
  obtain ⟨hlexical | ⟨hxs, hkind, hopen⟩, _⟩ := hx
  · have hstops : ∀ c ∈ (x.blanks ++ write xs).head?, isBlank c = true := by
      intro c hc
      exact (hhead c hc).1
    have hline : x.token.kind = .comment → ∀ c ∈ (x.blanks ++ write xs).head?, c = '\n' := by
      intro hkind c hc
      exact h.behindLine hkind c (hhead c hc).2
    obtain ⟨l, hreads, hkind, htext, hchars⟩ := hlexical.exists_reads hstops hline
    rw [← hchars] at hreads
    refine ⟨l, hreads, ?_, hchars, hchars ▸ hlexical.exists_head?⟩
    rw [Lexeme.token, hkind, htext, String.ofList_toList]
  · -- an open block comment is the last token, with no blanks behind it
    have hnil : xs = [] := List.map_eq_nil_iff.1 hxs
    have hblanks : x.blanks = [] := h.atEnd hnil hkind hopen
    rw [hblanks, hnil, hkind, TokenKind.write_of_ne _ (by decide)]
    refine ⟨⟨.commentBlock, x.token.text.toList, x.token.text.toList, some .openComment⟩, ?_, ?_,
      rfl, ?_⟩
    · simpa using hopen.reads
    · rw [Lexeme.token, ← hkind, String.ofList_toList]
    · obtain ⟨⟨t, ht⟩, _⟩ := hopen
      exact ⟨'-', by rw [← ht]; rfl, by decide⟩

/-- Tokens that are kept apart are the tiles of what is written. -/
theorem exists_tiled_write (hw : ∀ c ∈ w, isBlank c = true) (h : Apart xs)
    (hxs : WellFormed mode (xs.map token)) :
    ∃ ts, Tiled mode (w ++ write xs) ts ∧
      ts.map (·.lexeme.token) = xs.map token ++ [.endOfInput] := by
  -- the blanks behind a token are the blanks in front of the next one
  induction xs generalizing w with
  | nil =>
    rw [write_nil, List.append_nil]
    exact ⟨_, .done hw, rfl⟩
  | cons x xs ih =>
    obtain ⟨l, hreads, htoken, hchars, c, hc, hblank⟩ := h.1.exists_reads hxs
    have hbehind : ∀ c ∈ x.blanks, isBlank c = true := by
      intro c hc
      exact isBlank_eq_true_iff.2 (h.1.blank c hc)
    obtain ⟨ts, hts, htokens⟩ := ih hbehind h.2 hxs.2
    have hstops : ∀ y ∈ (l.chars ++ (x.blanks ++ write xs)).head?, isBlank y = false := by
      intro y hy
      obtain ⟨t, ht⟩ := List.head?_eq_some_iff.1 hc
      rw [ht] at hy
      cases hy
      exact hblank
    refine ⟨⟨w, l⟩ :: ts, ?_, ?_⟩
    · rw [write_cons, chars, ← hchars, List.append_assoc]
      exact .next hw hstops hreads hts
    · rw [List.map_cons, htokens, htoken]
      rfl

end

end Piece

/-- The tokens of a text could have been written. -/
theorem Tiled.exists_wellFormed {mode : NumberMode} {q : List Char} {ts : List Tile}
    (h : Tiled mode q ts) :
    ∃ us, ts.map (·.lexeme.token) = us ++ [.endOfInput] ∧ WellFormed mode us := by
  induction h with
  | done => exact ⟨[], rfl, trivial⟩
  | @next w rest l ts _ hstops hreads htail ih =>
    obtain ⟨us, hus, hwf⟩ := ih
    refine ⟨l.token :: us, by rw [List.map_cons, hus]; rfl, ?_, hwf⟩
    rw [Lexeme.token, String.toList_ofList]
    rcases hreads.lexical hstops with hlexical | ⟨hkind, hopen, hall⟩
    · exact .inl hlexical
    · -- an open block comment takes the rest of the text up
      have hrest : rest = [] := List.append_right_eq_self.1 hall.symm
      subst hrest
      rw [htail.eq_of_nil] at hus
      have hlength := congrArg List.length hus
      rw [List.length_append] at hlength
      exact .inr ⟨List.eq_nil_of_length_eq_zero (Nat.succ.inj hlength).symm, hkind, hopen⟩

theorem WellFormed.kind_ne {mode : NumberMode} {ts : List Token} (h : WellFormed mode ts) :
    ∀ t ∈ ts, t.kind ≠ .endOfInput ∧ t.kind ≠ .keyword .kwRepeat ∧ ∀ p, t.kind ≠ .primitive p := by
  induction ts with
  | nil =>
    intro t ht
    cases ht
  | cons t ts ih =>
    intro u hu
    rcases List.mem_cons.1 hu with rfl | hu
    · rcases h.1 with hlexical | ⟨_, hkind, _⟩
      · exact hlexical.kind_ne
      · rw [hkind]
        exact ⟨TokenKind.noConfusion, TokenKind.noConfusion, fun _ => TokenKind.noConfusion⟩
    · exact ih h.2 u hu

namespace Scanner

/-- All tokens of a source. -/
def tokensOf? (source : String) (config : ScanConfig) (reporting : Bool) : Option (List Token) :=
  (start source config reporting).steps?.map Step.tokens

theorem tokensOf?_of_tiled {source : String} {config : ScanConfig} {reporting : Bool}
    {ts : List Tile} (h : Tiled config.numberMode source.toList ts) :
    tokensOf? source config reporting = some (ts.map (·.lexeme.token)) := by
  rw [tokensOf?, steps?_start_of_tiled h, Option.map_some, Tile.tokens_steps]

section
variable (config : ScanConfig) (reporting : Bool)

theorem tokensOf?_write {w : List Char} {xs : List Piece}
    (hw : ∀ c ∈ w, c ∈ [' ', '\t', '\n', '\r']) (h : Piece.Apart xs)
    (hxs : WellFormed config.numberMode (xs.map Piece.token)) :
    tokensOf? (String.ofList (w ++ Piece.write xs)) config reporting =
      some (xs.map Piece.token ++ [.endOfInput]) := by
  have hblank : ∀ c ∈ w, isBlank c = true := by
    intro c hc
    exact isBlank_eq_true_iff.2 (hw c hc)
  obtain ⟨ts, hts, htokens⟩ := Piece.exists_tiled_write hblank h hxs
  rw [← htokens]
  exact tokensOf?_of_tiled (by rwa [String.toList_ofList])

theorem exists_wellFormed_tokensOf? (source : String) :
    ∃ ts, tokensOf? source config reporting = some (ts ++ [.endOfInput]) ∧
      WellFormed config.numberMode ts := by
  obtain ⟨tiles, htiles⟩ := exists_tiled config.numberMode source.toList
  obtain ⟨ts, htokens, hwf⟩ := htiles.exists_wellFormed
  refine ⟨ts, ?_, hwf⟩
  rw [tokensOf?_of_tiled htiles, htokens]

/-- **Printing and scanning**: well-formed tokens that are written apart are scanned back, any source
is scanned into well-formed tokens, and so those are the tokens that sources have. None of them has
the kind of a word that nothing is reserved for, or of a type. -/
theorem scan_roundTrip :
    (∀ w xs, (∀ c ∈ w, c ∈ [' ', '\t', '\n', '\r']) → Piece.Apart xs →
      WellFormed config.numberMode (xs.map Piece.token) →
      tokensOf? (String.ofList (w ++ Piece.write xs)) config reporting =
        some (xs.map Piece.token ++ [.endOfInput])) ∧
    (∀ source, ∃ ts, tokensOf? source config reporting = some (ts ++ [.endOfInput]) ∧
      WellFormed config.numberMode ts ∧
      ∀ t ∈ ts, t.kind ≠ .endOfInput ∧ t.kind ≠ .keyword .kwRepeat ∧ ∀ p, t.kind ≠ .primitive p) ∧
    ∀ ts, WellFormed config.numberMode ts ↔
      ∃ source, tokensOf? source config reporting = some (ts ++ [.endOfInput]) := by
  refine ⟨?_, ?_, ?_⟩
  · intro w xs hw h hxs
    exact tokensOf?_write config reporting hw h hxs
  · intro source
    obtain ⟨ts, htokens, hwf⟩ := exists_wellFormed_tokensOf? config reporting source
    exact ⟨ts, htokens, hwf, hwf.kind_ne⟩
  · intro ts
    constructor
    · -- with a line feed between them, any tokens are kept apart
      intro hwf
      have hlines := tokensOf?_write config reporting (w := []) (by simp) (Piece.apart_lines ts)
        (by rwa [Piece.token_lines])
      rw [Piece.token_lines] at hlines
      exact ⟨_, hlines⟩
    · -- a source has one list of tokens, and that is well-formed
      rintro ⟨source, hsource⟩
      obtain ⟨us, hus, hwf⟩ := exists_wellFormed_tokensOf? config reporting source
      rw [hus, Option.some.injEq] at hsource
      rwa [← List.append_cancel_right hsource]

end

/-- A tilde, a line comment, a string and a block comment without an end, written apart. -/
theorem scan_roundTrip_openComment :
    ∃ xs, Piece.Apart xs ∧ WellFormed .split (xs.map Piece.token) ∧
      tokensOf? "~\t--x\n\"a b\" -*" .default true = some (xs.map Piece.token ++ [.endOfInput]) ∧
      xs.map Piece.token = [⟨.illegal, "~"⟩, ⟨.comment, "--x"⟩, ⟨.stringDelim, "a b"⟩,
        ⟨.commentBlock, "-*"⟩] := by
  have hopen : IsOpenBlockText "-*".toList := by
    refine ⟨by decide, ?_⟩
    intro i hi hcloser
    have hlength := hcloser.length_le
    simp at hlength
    omega
  have hapart : Piece.Apart [⟨⟨.illegal, "~"⟩, ['\t']⟩, ⟨⟨.comment, "--x"⟩, ['\n']⟩,
      ⟨⟨.stringDelim, "a b"⟩, [' ']⟩, ⟨⟨.commentBlock, "-*"⟩, []⟩] := by
    have hmiddle : ∀ {y : Piece} {xs : List Piece} {P : Prop}, y :: xs = [] → P :=
      fun hnil => absurd hnil (List.cons_ne_nil _ _)
    exact ⟨⟨by simp, by simp, by simp, hmiddle⟩, ⟨by simp, by simp, by simp, hmiddle⟩,
      ⟨by simp, by simp, by simp, hmiddle⟩, ⟨by simp, by simp, by simp, fun _ _ _ => rfl⟩, trivial⟩
  have hwf : WellFormed .split [⟨.illegal, "~"⟩, ⟨.comment, "--x"⟩, ⟨.stringDelim, "a b"⟩,
      ⟨.commentBlock, "-*"⟩] :=
    ⟨.inl (.illegal (.inl rfl)), .inl (.comment (by decide) (by decide)),
      .inl (.string (by decide)), .inr ⟨rfl, rfl, hopen⟩, trivial⟩
  exact ⟨_, hapart, hwf, (scan_roundTrip .default true).1 [] _ (by simp) hapart hwf, rfl⟩

end Scanner

end LexFront
