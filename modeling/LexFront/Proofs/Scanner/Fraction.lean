import LexFront.Proofs.Lexeme.Written
import LexFront.Proofs.Scanner.Outcome

/-! The two ways to scan numbers. Where numbers may have a fraction, a source has the tokens that it
has where they may not, but that the digits and the point of each fraction are one token: cut apart
again, the one list of tokens and spans is the other. Nothing else tells the two ways apart. -/
namespace LexFront
open Text Cursor

/-- The digits on both sides of the point, if a token is a number with a fraction. -/
def Token.fraction? (t : Token) : Option (List Char × List Char) :=
  match t.text.toList.dropWhile isDigit with
  | '.' :: b =>
    if t.kind = .literal ∧ IsDigits (t.text.toList.takeWhile isDigit) ∧ IsDigits b then
      some (t.text.toList.takeWhile isDigit, b)
    else none
  | _ => none

/-- A token and its span, in three parts if the token is a number with a fraction. -/
def Token.parts (t : Token) (span : Span) : List (Token × Span) :=
  match t.fraction? with
  | some (a, b) =>
    let point := span.start + a.length
    [(⟨.literal, String.ofList a⟩, ⟨span.start, point⟩),
      (⟨.delimiter .dot, "."⟩, ⟨point, point + 1⟩),
      (⟨.literal, String.ofList b⟩, ⟨point + 1, span.stop⟩)]
  | none => [(t, span)]

/-- What is seen in `fine` is what is seen in `coarse` with its fractions cut apart. -/
structure Refines (fine coarse : List Outcome) : Prop where
  tokens : fine.map (fun o => (o.token, o.span)) = coarse.flatMap fun o => o.token.parts o.span
  diagnostics : fine.flatMap Outcome.diagnostics = coarse.flatMap Outcome.diagnostics
  debugging : (fine.flatMap Outcome.events).filter (·.level = .debug) =
    (coarse.flatMap Outcome.events).filter (·.level = .debug)

/-! ## Fractions -/

section
variable {a b m : List Char} {t : Token}

theorem Token.fraction?_eq_some_iff :
    t.fraction? = some (a, b) ↔
      t = ⟨.literal, String.ofList (a ++ '.' :: b)⟩ ∧ IsDigits a ∧ IsDigits b := by
  constructor
  · intro h
    rw [fraction?] at h
    split at h
    · rename_i b' hb'
      split at h
      · rename_i hdigits
        obtain ⟨hkind, ha, hb⟩ := hdigits
        cases h
        have htext := @List.takeWhile_append_dropWhile _ isDigit t.text.toList
        rw [hb'] at htext
        refine ⟨?_, ha, hb⟩
        rw [htext, String.ofList_toList, ← hkind]
      · cases h
    · cases h
  · rintro ⟨rfl, ha, hb⟩
    obtain ⟨htake, hdrop⟩ := takeWhile_isDigit_of_point (b := b) ha.2
    simp only [fraction?, String.toList_ofList, htake, hdrop, ha, hb, and_self, if_true]

theorem utf8Size_of_isDigit {x : Char} (h : isDigit x = true) : x.utf8Size = 1 := by
  simp only [isDigit, Bool.and_eq_true, decide_eq_true_eq] at h
  have hhigh : x.val.toNat ≤ 57 := h.2
  rw [Char.utf8Size_eq_one_iff, UInt32.le_iff_toNat_le]
  exact Nat.le_trans hhigh (by decide)

theorem byteLength_of_isDigit (h : ∀ c ∈ m, isDigit c = true) : byteLength m = m.length := by
  induction m with
  | nil => rfl
  | cons x m ih =>
    have hx := utf8Size_of_isDigit (h x List.mem_cons_self)
    have hm := ih fun c hc => h c (List.mem_cons_of_mem x hc)
    rw [byteLength_cons, hx, hm, List.length_cons, Nat.add_comm]

end

/-! ## Numbers where there are no fractions -/

section
variable {a b m q r : List Char} {l : Lexeme}

theorem IsNumber.isDigits (h : IsNumber .split m) : IsDigits m := by
  rcases h with h | ⟨hmode, _⟩
  · exact h
  · cases hmode

theorem IsDigits.not_blank_head? (h : IsDigits m) (q : List Char) :
    ∀ x ∈ (m ++ q).head?, isBlank x = false := by
  obtain ⟨x, n, rfl⟩ := List.exists_cons_of_ne_nil h.1
  rintro _ ⟨⟩
  exact h.isBlank_eq_false x List.mem_cons_self

theorem reads_digits (hm : IsDigits m) (hq : ∀ x ∈ q.head?, isDigit x = false) :
    Reads .split (m ++ q) (.plain .literal m) := by
  have hnumber : IsNumber .split m := .inl hm
  exact .number (hm.exists_head? q) (longest_append_of_stop hnumber (fun n hn => hn.isDigits.2) hq)

theorem reads_point (hq : ∃ x ∈ q.head?, isDigit x = true) :
    Reads .split ('.' :: q) (.plain (.delimiter .dot) ['.']) := by
  have hne : q.head? ≠ some '.' := by
    intro hpoint
    obtain ⟨x, hx, hdigit⟩ := hq
    rw [hpoint] at hx
    cases hx
    exact absurd hdigit (by decide)
  have h : Reads .split ('.' :: q) (.ofDot q) := reads_ofDot
  rwa [Lexeme.ofDot, if_neg hne] at h

theorem Lexical.ne_fraction (h : Lexical .split .literal m) (ha : IsDigits a) :
    m ≠ a ++ '.' :: b := by
  rintro rfl
  obtain ⟨x, a, rfl⟩ := List.exists_cons_of_ne_nil ha.1
  have hx := ha.2 x List.mem_cons_self
  cases h with
  | symbol spelled => cases spelled
  | name starts _ _ =>
    obtain ⟨y, hy, hstart⟩ := starts
    cases hy
    rw [isIdentStart_of_isDigit hx] at hstart
    cases hstart
  | number digits => exact absurd (digits.isDigits.2 '.' (by simp)) (by decide)

/-- What is read is never cut apart. -/
theorem Reads.fraction?_eq_none (h : Reads .split r l)
    (hstops : ∀ x ∈ r.head?, isBlank x = false) : l.token.fraction? = none := by
  cases hf : l.token.fraction? with
  | none => rfl
  | some parts =>
    obtain ⟨htoken, ha, _⟩ := Token.fraction?_eq_some_iff.1 hf
    have hkind : l.kind = .literal := congrArg Token.kind htoken
    have htext : l.text = parts.1 ++ '.' :: parts.2 :=
      String.ofList_injective (congrArg Token.text htoken)
    rcases h.lexical hstops with hlexical | ⟨hblock, _⟩
    · rw [hkind] at hlexical
      exact absurd htext (hlexical.ne_fraction ha)
    · rw [hkind] at hblock
      cases hblock

/-- The two ways to scan numbers read the same lexeme, or the one reads a fraction that no digit
follows. -/
theorem Reads.split_or_fraction (h : Reads .fractional r l) :
    Reads .split r l ∨ ∃ a b, IsDigits a ∧ IsDigits b ∧ l = .plain .literal (a ++ '.' :: b) ∧
      ∀ q, r = l.chars ++ q → ∀ x ∈ q.head?, isDigit x = false := by
  cases h with
  | lineComment opens extent => exact .inl (.lineComment opens extent)
  | blockComment opens extent => exact .inl (.blockComment opens extent)
  | openBlockComment opens never => exact .inl (.openBlockComment opens never)
  | string quoted inner => exact .inl (.string quoted inner)
  | openString quoted inner => exact .inl (.openString quoted inner)
  | keyword starts extent reserved => exact .inl (.keyword starts extent reserved)
  | name starts extent free => exact .inl (.name starts extent free)
  | symbol notLine notBlock spelled extent =>
    exact .inl (.symbol notLine notBlock spelled extent)
  | illegal first notQuote notWord notDigit notSymbol =>
    exact .inl (.illegal first notQuote notWord notDigit notSymbol)
  | number starts extent =>
    rcases extent.holds with hdigits | ⟨_, a, b, rfl, ha, hb⟩
    · refine .inl (.number starts ⟨extent.starts, .inl hdigits, ?_⟩)
      intro n hn hnumber
      exact extent.bound n hn (.inl hnumber.isDigits)
    · refine .inr ⟨a, b, ha, hb, rfl, ?_⟩
      rintro q rfl x hx
      obtain ⟨t, rfl⟩ := List.head?_eq_some_iff.1 hx
      by_contra hdigit
      rw [Bool.not_eq_false] at hdigit
      -- one more digit would make the fraction longer
      have hlonger : IsDigits (b ++ [x]) := by
        refine ⟨List.append_ne_nil_of_left_ne_nil hb.1 _, ?_⟩
        intro c hc
        rcases List.mem_append.1 hc with hc | hc
        · exact hb.2 c hc
        · rw [List.mem_singleton.1 hc]
          exact hdigit
      have hle := extent.bound (a ++ '.' :: (b ++ [x])) ⟨t, by simp⟩
        (.inr ⟨rfl, a, b ++ [x], rfl, ha, hlonger⟩)
      simp only [List.length_append, List.length_cons, List.length_nil] at hle
      omega

end

/-! ## Runs -/

namespace Refines

theorem append {fine fine' coarse coarse' : List Outcome} (h : Refines fine coarse)
    (h' : Refines fine' coarse') : Refines (fine ++ fine') (coarse ++ coarse') where
  tokens := by rw [List.map_append, List.flatMap_append, h.tokens, h'.tokens]
  diagnostics := by rw [List.flatMap_append, List.flatMap_append, h.diagnostics, h'.diagnostics]
  debugging := by
    simp only [List.flatMap_append, List.filter_append, h.debugging, h'.debugging]

theorem whole {o : Outcome} (h : o.token.fraction? = none) : Refines [o] [o] where
  tokens := by simp [Token.parts, h]
  diagnostics := rfl
  debugging := rfl

/-- Two rows over the same text that are seen alike may stand in front of two more. -/
theorem row {config config' : ScanConfig} {reporting : Bool} {us ts : List Tile} (xs ys : List Tile)
    (h : ∀ p, Refines (Tile.outcomes config reporting p xs) (Tile.outcomes config' reporting p ys))
    (hrow : Tile.row xs = Tile.row ys)
    (h' : ∀ p, Refines (Tile.outcomes config reporting p us) (Tile.outcomes config' reporting p ts))
    (p : List Char) :
    Refines (Tile.outcomes config reporting p (xs ++ us))
      (Tile.outcomes config' reporting p (ys ++ ts)) := by
  rw [Tile.outcomes_append, Tile.outcomes_append, hrow]
  exact (h p).append (h' _)

end Refines

namespace Tile

section
variable {config config' : ScanConfig} {reporting : Bool} {p w a b : List Char}

theorem outcome_congr (h : config.reportUnterminated = config'.reportUnterminated) (t : Tile) :
    t.outcome config reporting p = t.outcome config' reporting p := by
  have hreported : ∀ f : Fault, f.isReported config = f.isReported config' := by
    intro f
    cases f with
    | unexpected => rfl
    | openString => exact h
    | openComment => exact h
  simp only [outcome, Lexeme.reports, hreported]

theorem refines_fraction (ha : IsDigits a) (hb : IsDigits b) :
    Refines
      (outcomes config reporting p [⟨w, .plain .literal a⟩, ⟨[], .plain (.delimiter .dot) ['.']⟩,
        ⟨[], .plain .literal b⟩])
      (outcomes config' reporting p [⟨w, .plain .literal (a ++ '.' :: b)⟩]) where
  tokens := by
    have hfraction : (Lexeme.plain .literal (a ++ '.' :: b)).token.fraction? = some (a, b) :=
      Token.fraction?_eq_some_iff.2 ⟨rfl, ha, hb⟩
    have hbytes := byteLength_of_isDigit ha.2
    have hpoint : '.'.utf8Size = 1 := rfl
    simp only [outcomes, outcome, Token.parts, hfraction, List.map_cons, List.map_nil,
      List.flatMap_cons, List.flatMap_nil, List.append_nil]
    simp [Lexeme.token, span, Lexeme.span, chars, hbytes, hpoint]
    omega
  diagnostics := rfl
  debugging := rfl

end

end Tile

/-- Digits, a point and digits are three tiles with no blanks between them. -/
theorem Tiled.fraction {w a b rest : List Char} {us : List Tile}
    (hblank : ∀ c ∈ w, isBlank c = true) (ha : IsDigits a) (hb : IsDigits b)
    (hrest : ∀ x ∈ rest.head?, isDigit x = false) (hus : Tiled .split rest us) :
    Tiled .split (w ++ (a ++ '.' :: b ++ rest))
      (⟨w, .plain .literal a⟩ :: ⟨[], .plain (.delimiter .dot) ['.']⟩ ::
        ⟨[], .plain .literal b⟩ :: us) := by
  have hnone : ∀ c ∈ ([] : List Char), isBlank c = true := by simp
  have hpoint : ∀ x ∈ ('.' :: (b ++ rest)).head?, isBlank x = false ∧ isDigit x = false := by
    rintro x ⟨⟩
    decide
  -- from the last tile to the first
  have hthird : Tiled .split (b ++ rest) (⟨[], .plain .literal b⟩ :: us) :=
    .next (l := .plain .literal b) hnone (hb.not_blank_head? _) (reads_digits hb hrest) hus
  have hsecond : Tiled .split ('.' :: (b ++ rest))
      (⟨[], .plain (.delimiter .dot) ['.']⟩ :: ⟨[], .plain .literal b⟩ :: us) :=
    .next (l := .plain (.delimiter .dot) ['.']) hnone (fun x hx => (hpoint x hx).1)
      (reads_point (q := b ++ rest) (hb.exists_head? _)) hthird
  have hfirst := Tiled.next (l := .plain .literal a) hblank (ha.not_blank_head? _)
    (reads_digits ha fun x hx => (hpoint x hx).2) hsecond
  simpa only [Lexeme.chars_plain, List.append_assoc, List.cons_append] using hfirst

/-- The tiles of a text where numbers may have a fraction, cut apart, are those where they may not.
-/
theorem Tiled.exists_refines {q : List Char} {ts : List Tile} (h : Tiled .fractional q ts)
    (reportUnterminated reporting : Bool) :
    ∃ us, Tiled .split q us ∧ ∀ p,
      Refines (Tile.outcomes ⟨.split, reportUnterminated⟩ reporting p us)
        (Tile.outcomes ⟨.fractional, reportUnterminated⟩ reporting p ts) := by
  induction h with
  | done hblank => exact ⟨_, .done hblank, fun p => .whole rfl⟩
  | @next w rest l ts hblank hstops hreads _ ih =>
    obtain ⟨us, hus, hrefines⟩ := ih
    -- either mode finds the lexeme, or it is a fraction, and three stand in its place
    rcases hreads.split_or_fraction with hsplit | ⟨a, b, ha, hb, rfl, hbehind⟩
    · refine ⟨_, .next hblank hstops hsplit hus, Refines.row [⟨w, l⟩] [⟨w, l⟩] ?_ rfl hrefines⟩
      intro p
      simp only [Tile.outcomes]
      rw [Tile.outcome_congr rfl]
      exact .whole (hsplit.fraction?_eq_none hstops)
    · refine ⟨_, .fraction hblank ha hb (hbehind rest rfl) hus,
        Refines.row [_, _, _] [_] (fun p => Tile.refines_fraction ha hb) ?_ hrefines⟩
      simp [Tile.chars]

/-- **Fractions refine**: the tokens and spans of a source where numbers may have a fraction are,
with each fraction cut into digits, point and digits, those where numbers may not; what is reported
and what is logged for debugging is the same. -/
theorem Scanner.exists_split_refines (source : String) (reportUnterminated reporting : Bool) :
    ∃ coarse fine,
      (start source ⟨.fractional, reportUnterminated⟩ reporting).steps? = some coarse ∧
      (start source ⟨.split, reportUnterminated⟩ reporting).steps? = some fine ∧
      fine.map (fun r => (r.token, r.scanner.tokenSpan)) =
        coarse.flatMap (fun r => r.token.parts r.scanner.tokenSpan) ∧
      Step.allDiagnostics fine = Step.allDiagnostics coarse ∧
      (Step.allEvents fine).filter (·.level = .debug) =
        (Step.allEvents coarse).filter (·.level = .debug) := by
  obtain ⟨ts, hts, hcoarse⟩ :=
    exists_tiled_start source ⟨.fractional, reportUnterminated⟩ reporting
  obtain ⟨us, hus, hrefines⟩ := hts.exists_refines reportUnterminated reporting
  have h := hrefines []
  rw [← Tile.map_outcome_steps, ← Tile.map_outcome_steps] at h
  refine ⟨_, _, hcoarse, steps?_start_of_tiled hus, ?_, ?_, ?_⟩
  · have htokens := h.tokens
    rw [List.map_map, List.flatMap_map] at htokens
    exact htokens
  · rw [Step.allDiagnostics_eq, Step.allDiagnostics_eq]
    exact h.diagnostics
  · rw [Step.allEvents_eq, Step.allEvents_eq]
    exact h.debugging

end LexFront
