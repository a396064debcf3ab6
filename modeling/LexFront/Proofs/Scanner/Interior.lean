import LexFront.Proofs.Lexeme.Interior
import LexFront.Proofs.Scanner.Lossless
import LexFront.Proofs.Scanner.Outcome

/-! Edits inside a string or a comment. What stands in front of a tile is laid the same way if the text
from there on starts alike, and what stands behind it does not depend on it; so an edit that does not
close the string or comment changes one token, and moves on what comes behind. -/
namespace LexFront
open Text Cursor

/-- What is seen of the token that an enclosed text behind `pre` is. -/
def Enclosure.outcome (c : Enclosure) (pre x : String) : Outcome where
  token := c.token x
  span := ⟨pre.utf8ByteSize, (pre ++ c.enclose x).utf8ByteSize⟩
  events := [.scannedToken c.kind ⟨pre.utf8ByteSize, (pre ++ c.enclose x).utf8ByteSize⟩]
  diagnostics := []

/-- **An edit inside**: of two runs, the second has the enclosed text `y` as its `k`-th token where the
first has `x`. The tokens before it are seen alike, and so are those behind it, but for the bytes of
`x` and of `y` in front of them. -/
structure Enclosure.Edited (c : Enclosure) (pre x y : String) (k : Nat) (steps steps' : List Step) :
    Prop where
  length_eq : steps'.length = steps.length
  before : (steps'.take k).map Step.outcome = (steps.take k).map Step.outcome
  old : steps[k]?.map Step.outcome = some (c.outcome pre x)
  new : steps'[k]?.map Step.outcome = some (c.outcome pre y)
  behind : (steps'.drop (k + 1)).map (·.outcome.shift x.utf8ByteSize) =
    (steps.drop (k + 1)).map (·.outcome.shift y.utf8ByteSize)

section
variable {mode : NumberMode} {config : ScanConfig} {reporting : Bool} {p q r w : List Char}
  {t t' : Tile} {us vs vs' : List Tile} {c : Enclosure} {pre x y : String}

theorem Tiled.eq_of_span {m s : List Char} (h : Tiled mode (p ++ (m ++ s)) (us ++ t :: vs))
    (hspan : t.span (Tile.row us) = ⟨byteLength p, byteLength (p ++ m)⟩) :
    p = Tile.row us ++ t.blanks ∧ m = t.lexeme.chars ∧ s = Tile.row vs := by
  obtain ⟨hstart, hstop⟩ := Span.mk.inj hspan
  have htext : p ++ m ++ s = Tile.row us ++ t.blanks ++ t.lexeme.chars ++ Tile.row vs := by
    rw [List.append_assoc, ← h.row_eq, Tile.row_append, Tile.row_cons, Tile.chars]
    simp only [List.append_assoc]
  obtain ⟨hfront, hs⟩ := append_inj_of_byteLength htext hstop.symm
  obtain ⟨hp, hm⟩ := append_inj_of_byteLength hfront hstart.symm
  exact ⟨hp, hm, hs⟩

/-- **Tiles are laid from the front**: a text from some tile on may be replaced by one that starts
alike. -/
theorem Tiled.replace (h : Tiled mode q (us ++ t :: vs)) (h' : Tiled mode r (t' :: vs'))
    (halike : StartAlike (Tile.row (t :: vs)) r) :
    Tiled mode (Tile.row us ++ r) (us ++ t' :: vs') := by
  induction us generalizing q with
  | nil => exact h'
  | cons u us ih =>
    rw [List.cons_append] at h ⊢
    generalize hts : us ++ t :: vs = ts at h
    cases h with
    | done _ => simp at hts
    | @next w rest l _ hblank hstops hreads htail =>
      subst hts
      have hrest : rest = Tile.row us ++ Tile.row (t :: vs) := by rw [← htail.row_eq, Tile.row_append]
      have hread : Reads mode (l.chars ++ (Tile.row us ++ r)) l := by
        rw [hrest] at hreads
        exact hreads.of_startAlike (halike.append _)
      rw [Tile.row_cons, Tile.chars, List.append_assoc, List.append_assoc]
      refine .next hblank ?_ hread (ih htail)
      rwa [hreads.head?_append _ rest]

theorem Tiled.edit (h : Tiled mode q (us ++ ⟨w, c.lexeme x⟩ :: vs)) (hy : c.Admits y) :
    Tiled mode (Tile.row us ++ (w ++ ((c.enclose y).toList ++ Tile.row vs)))
      (us ++ ⟨w, c.lexeme y⟩ :: vs) := by
  have hdrop := h.drop
  obtain ⟨hread, hvs⟩ : Reads mode ((c.enclose x).toList ++ Tile.row vs) (c.lexeme x) ∧ vs ≠ [] := by
    rcases hdrop.lexeme_cases with ⟨hend, _⟩ | hread
    · cases c <;> cases hend
    · exact hread
  have hrow : Tile.row (⟨w, c.lexeme x⟩ :: vs) = w ++ ((c.enclose x).toList ++ Tile.row vs) := by
    rw [Tile.row_cons, Tile.chars, c.chars_lexeme, List.append_assoc]
  have halike := c.startAlike_enclose x y (Tile.row vs)
  refine h.replace (.next (l := c.lexeme y) hdrop.blank ?_ ?_ (hdrop.tail hvs)) ?_
  · -- the opener has not changed
    rw [c.chars_lexeme, ← halike.head?_eq]
    exact hdrop.stops
  · exact Enclosure.reads hy (hread.eq_lexeme rfl rfl).2
  · rw [hrow]
    exact halike.append w

theorem Enclosure.outcome_tile (hpre : pre.toList = p ++ w) :
    (⟨w, c.lexeme x⟩ : Tile).outcome config reporting p = c.outcome pre x := by
  have hspan : (⟨w, c.lexeme x⟩ : Tile).span p =
      ⟨pre.utf8ByteSize, (pre ++ c.enclose x).utf8ByteSize⟩ := by
    rw [Tile.span, Lexeme.span, ← hpre, chars_lexeme, ← String.toList_append, byteLength_toList,
      byteLength_toList]
  rw [Tile.outcome, hspan, outcome, token_lexeme]
  rfl

/-- What is seen behind an enclosed text depends on it by its bytes alone. -/
theorem Enclosure.outcomes_behind :
    (Tile.outcomes config reporting (p ++ (c.enclose y).toList) vs).map
        (Outcome.shift x.utf8ByteSize) =
      (Tile.outcomes config reporting (p ++ (c.enclose x).toList) vs).map
        (Outcome.shift y.utf8ByteSize) := by
  have hmoved : ∀ z : String, Tile.outcomes config reporting (p ++ (c.enclose z).toList) vs =
      (Tile.outcomes config reporting [] vs).map
        (Outcome.shift (byteLength (p ++ (c.enclose z).toList))) := by
    intro z
    rw [← Tile.outcomes_shift, List.append_nil]
  have hlength : byteLength (p ++ (c.enclose y).toList) + x.utf8ByteSize =
      byteLength (p ++ (c.enclose x).toList) + y.utf8ByteSize := by
    simp only [toList_enclose, byteLength_append, byteLength_toList]
    omega
  simp only [hmoved, List.map_map, Function.comp_def, Outcome.shift_shift, hlength]

/-- The runs over the tiles of a text and of the text with an edit inside. -/
theorem Enclosure.edited_steps (hpre : pre.toList = Tile.row us ++ w) :
    c.Edited pre x y us.length (Tile.steps config reporting [] (us ++ ⟨w, c.lexeme x⟩ :: vs))
      (Tile.steps config reporting [] (us ++ ⟨w, c.lexeme y⟩ :: vs)) := by
  -- the tiles in front, the one that encloses `z`, and the tiles behind
  have hseen : ∀ z : String,
      (Tile.steps config reporting [] (us ++ ⟨w, c.lexeme z⟩ :: vs)).map Step.outcome =
        Tile.outcomes config reporting [] us ++ c.outcome pre z ::
          Tile.outcomes config reporting (pre.toList ++ (c.enclose z).toList) vs := by
    intro z
    rw [Tile.map_outcome_steps, Tile.outcomes_append, Tile.outcomes, List.nil_append,
      outcome_tile hpre, Tile.chars, chars_lexeme, ← List.append_assoc, hpre]
  have hlength : us.length = (Tile.outcomes config reporting [] us).length := by simp
  have hbehind : ∀ z : String,
      ((Tile.steps config reporting [] (us ++ ⟨w, c.lexeme z⟩ :: vs)).drop (us.length + 1)).map
          Step.outcome =
        Tile.outcomes config reporting (pre.toList ++ (c.enclose z).toList) vs := by
    intro z
    rw [List.map_drop, hseen, hlength, ← List.drop_drop, List.drop_left]
    rfl
  refine ⟨by simp, ?_, ?_, ?_, ?_⟩
  · rw [List.map_take, List.map_take, hseen, hseen, hlength, List.take_left, List.take_left]
  · rw [← List.getElem?_map, hseen]
    simp
  · rw [← List.getElem?_map, hseen]
    simp
  · have hmoved : (Tile.outcomes config reporting (pre.toList ++ (c.enclose y).toList) vs).map
          (Outcome.shift x.utf8ByteSize) =
        (Tile.outcomes config reporting (pre.toList ++ (c.enclose x).toList) vs).map
          (Outcome.shift y.utf8ByteSize) := outcomes_behind
    rw [← hbehind, ← hbehind, List.map_map, List.map_map] at hmoved
    exact hmoved

end

namespace Scanner

/-- **Interiors are opaque**: where a run has a closed string, a closed block comment or a line comment
as a token, with `x` inside, the run over the same source with `y` in the place of `x` differs from
it in the text and the end of that token, and by the bytes of `x` and `y` in what comes behind. -/
theorem exists_opaque_interior (c : Enclosure) (pre x y suf : String) (config : ScanConfig)
    (reporting : Bool) (hy : c.Admits y) :
    ∃ steps steps', (start (pre ++ c.enclose x ++ suf) config reporting).steps? = some steps ∧
      (start (pre ++ c.enclose y ++ suf) config reporting).steps? = some steps' ∧
      ∀ k r, steps[k]? = some r → r.token = c.token x →
        r.scanner.tokenSpan = ⟨pre.utf8ByteSize, (pre ++ c.enclose x).utf8ByteSize⟩ →
        c.Edited pre x y k steps steps' := by
  obtain ⟨ts, hts, hsteps⟩ := exists_tiled_start (pre ++ c.enclose x ++ suf) config reporting
  obtain ⟨ts', hts', hsteps'⟩ := exists_tiled_start (pre ++ c.enclose y ++ suf) config reporting
  refine ⟨_, _, hsteps, hsteps', ?_⟩
  intro k r hr htoken hspan
  obtain ⟨us, ⟨w, l⟩, vs, rfl, rfl, rfl⟩ := Tile.exists_of_steps_getElem? hr
  have htext : ∀ z, (pre ++ c.enclose z ++ suf).toList =
      pre.toList ++ ((c.enclose z).toList ++ suf.toList) := by
    intro z
    rw [String.toList_append, String.toList_append, List.append_assoc]
  rw [htext] at hts hts'
  have hplace : (⟨w, l⟩ : Tile).span (Tile.row us) =
      ⟨byteLength pre.toList, byteLength (pre.toList ++ (c.enclose x).toList)⟩ := by
    rw [← String.toList_append, byteLength_toList, byteLength_toList]
    exact hspan
  obtain ⟨hpre, hchars, hsuf⟩ := hts.eq_of_span hplace
  -- the token at that place is the lexeme that encloses `x`
  have hl : l = c.lexeme x := by
    rcases hts.drop.lexeme_cases with ⟨rfl, _⟩ | ⟨hread, _⟩
    · cases c <;> cases htoken
    · rw [← hchars] at hread
      exact (hread.eq_lexeme (congrArg Token.kind htoken) hchars.symm).1
  subst hl
  have hedit := hts.edit hy
  rw [← hsuf, ← List.append_assoc, ← hpre] at hedit
  rw [hts'.unique hedit]
  exact Enclosure.edited_steps hpre

/-- Stars in front of the closer, quotes and markers of comments make no difference inside a block
comment, though a point stands in front of it and an illegal character behind. -/
theorem exists_opaque_interior_stars :
    Enclosure.block.Admits "é\"--**" ∧ ∃ steps steps',
      (start "1.-*a*-~ \"" ⟨.fractional, true⟩ true).steps? = some steps ∧
      (start "1.-*é\"--***-~ \"" ⟨.fractional, true⟩ true).steps? = some steps' ∧
      Enclosure.block.Edited "1." "a" "é\"--**" 2 steps steps' := by
  have hadmits : Enclosure.block.Admits "é\"--**" := by decide +kernel
  obtain ⟨steps, steps', hsteps, hsteps', hedited⟩ :=
    exists_opaque_interior .block "1." "a" "é\"--**" "~ \"" ⟨.fractional, true⟩ true hadmits
  have hseen : (start ("1." ++ Enclosure.block.enclose "a" ++ "~ \"") ⟨.fractional, true⟩
        true).steps?.map (fun steps => steps[2]?.map fun r => (r.token, r.scanner.tokenSpan)) =
      some (some (Enclosure.block.token "a", ⟨2, 7⟩)) := by
    decide +kernel
  rw [hsteps, Option.map_some, Option.some.injEq] at hseen
  obtain ⟨r, hr, hseen⟩ := Option.map_eq_some_iff.1 hseen
  obtain ⟨htoken, hspan⟩ := Prod.mk.inj hseen
  refine ⟨hadmits, steps, steps', hsteps, hsteps', hedited 2 r hr htoken ?_⟩
  rw [hspan]
  decide +kernel

end Scanner

end LexFront
