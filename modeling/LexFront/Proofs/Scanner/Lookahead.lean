import LexFront.Proofs.Lexeme.Lookahead
import LexFront.Proofs.Scanner.Lossless
import LexFront.Proofs.Scanner.Outcome

/-! Tokens that are settled. A scanner that is fed a longer source returns the tokens of the shorter
one as long as enough characters of it stand behind them, and what it has reported by then is the
same. -/
namespace LexFront
open Text Cursor

section
variable {mode : NumberMode} {q : List Char} {t : Tile} {ts us vs : List Tile}

/-- A tile that enough characters follow stays when text is added, in front of the tiles of what is
left with that text. -/
theorem Tiled.cons_append {w rest x : List Char} {l : Lexeme} {ws : List Tile}
    (hblank : ∀ c ∈ w, isBlank c = true)
    (hstops : ∀ c ∈ (l.chars ++ rest).head?, isBlank c = false)
    (hreads : Reads mode (l.chars ++ rest) l) (hroom : mode.lookahead ≤ rest.length)
    (hws : Tiled mode (rest ++ x) ws) :
    Tiled mode (w ++ (l.chars ++ rest) ++ x) (⟨w, l⟩ :: ws) := by
  have happ : w ++ (l.chars ++ rest) ++ x = w ++ (l.chars ++ (rest ++ x)) := by
    simp only [List.append_assoc]
  have hlonger : Reads mode (l.chars ++ rest ++ x) l := by
    refine hreads.append ?_ x
    rw [List.length_append]
    exact Nat.add_le_add_left hroom _
  rw [happ]
  refine .next hblank ?_ ?_ hws
  · rwa [hreads.head?_append _ rest]
  · rwa [List.append_assoc] at hlonger

/-- **Settled tiles**: a tile that enough characters follow stays when text is added, and so do the
tiles before it. -/
theorem Tiled.exists_append (h : Tiled mode q ts) (hts : ts = us ++ t :: vs)
    (ht : t.lexeme.token ≠ .endOfInput) (hroom : mode.lookahead ≤ (Tile.row vs).length)
    (x : List Char) : ∃ ws, Tiled mode (q ++ x) (us ++ t :: ws) := by
  induction h generalizing us with
  | done =>
    -- the end of input is the only tile, and `t` is another
    cases us with
    | nil =>
      cases hts
      exact absurd rfl ht
    | cons u us => simp at hts
  | @next w rest l ts hblank hstops hreads htail ih =>
    cases us with
    | nil =>
      cases hts
      rw [htail.row_eq] at hroom
      obtain ⟨ws, hws⟩ := exists_tiled mode (rest ++ x)
      exact ⟨ws, .cons_append hblank hstops hreads hroom hws⟩
    | cons u us =>
      rw [List.cons_append] at hts
      obtain ⟨rfl, hrest⟩ := List.cons.inj hts
      obtain ⟨ws, hws⟩ := ih hrest
      refine ⟨ws, .cons_append hblank hstops hreads ?_ hws⟩
      -- behind this tile stands at least what stands behind `t`
      rw [← htail.row_eq, hrest, Tile.row_append, Tile.row_cons, List.length_append,
        List.length_append]
      omega

theorem Tile.map_outcome_take {config : ScanConfig} {reporting : Bool} {p : List Char} :
    ((steps config reporting p (us ++ t :: vs)).take (us.length + 1)).map Step.outcome =
      outcomes config reporting p (us ++ [t]) := by
  have happ : us ++ t :: vs = (us ++ [t]) ++ vs := by simp
  rw [List.map_take, map_outcome_steps, happ, outcomes_append]
  exact List.take_left' (by simp)

end

namespace Scanner

/-- **Settled tokens**: a token with one character of the source behind it, or two where numbers may
have a fraction, is returned with the same span whatever is added to the source, and the same was
reported by then. -/
theorem exists_settled_token (s t : String) (config : ScanConfig) (reporting : Bool) :
    ∃ short long, (start s config reporting).steps? = some short ∧
      (start (s ++ t) config reporting).steps? = some long ∧
      ∀ k r pre suf, short[k]? = some r → r.token ≠ .endOfInput → s = pre ++ suf →
        pre.utf8ByteSize = r.scanner.tokenSpan.stop →
        config.numberMode.lookahead ≤ suf.length →
        ∃ r', long[k]? = some r' ∧ r'.token = r.token ∧
          r'.scanner.tokenSpan = r.scanner.tokenSpan ∧
          Step.allDiagnostics (long.take (k + 1)) = Step.allDiagnostics (short.take (k + 1)) := by
  obtain ⟨ts, hts, hshort⟩ := exists_tiled_start s config reporting
  obtain ⟨xs, hxs, hlong⟩ := exists_tiled_start (s ++ t) config reporting
  refine ⟨_, _, hshort, hlong, ?_⟩
  rintro k r pre suf hr hproper rfl hstop hroom
  obtain ⟨us, tile, vs, rfl, rfl, rfl⟩ := Tile.exists_of_steps_getElem? hr
  -- the text behind the span is the text of the tiles behind the tile
  have hcut : pre.toList ++ suf.toList = (Tile.row us ++ tile.chars) ++ Tile.row vs := by
    rw [← String.toList_append, ← hts.row_eq, Tile.row_append, Tile.row_cons, List.append_assoc]
  have hbehind : suf.toList = Tile.row vs := by
    refine (append_inj_of_byteLength hcut ?_).2
    rw [byteLength_toList, hstop, Tile.tokenSpan_step]
    simp [Tile.span, Lexeme.span, Tile.chars]
  rw [← String.length_toList, hbehind] at hroom
  obtain ⟨ws, hws⟩ := hts.exists_append rfl hproper hroom t.toList
  rw [← String.toList_append] at hws
  rw [steps?_start_of_tiled hws, Option.some.injEq] at hlong
  rw [← hlong]
  refine ⟨_, Tile.steps_getElem?, rfl, rfl, ?_⟩
  rw [Step.allDiagnostics_eq, Step.allDiagnostics_eq, Tile.map_outcome_take, Tile.map_outcome_take]

/-- A fraction with a blank and a point behind it stays when a digit is added, and so does the one
report of the text before it. -/
theorem exists_settled_fraction :
    ∃ long, (start ("~ 1.5 ." ++ "7") ⟨.fractional, true⟩ true).steps? = some long ∧
      (∃ r', long[1]? = some r' ∧ r'.token = ⟨.literal, "1.5"⟩ ∧
        r'.scanner.tokenSpan = ⟨2, 5⟩) ∧
      Step.allDiagnostics (long.take 2) = [(unexpected "~").withSpan ⟨0, 1⟩] := by
  obtain ⟨short, long, hshort, hlong, hsettled⟩ :=
    exists_settled_token "~ 1.5 ." "7" ⟨.fractional, true⟩ true
  have hseen : (start "~ 1.5 ." ⟨.fractional, true⟩ true).steps?.map (fun short =>
        (short[1]?.map fun r => (r.token, r.scanner.tokenSpan),
          Step.allDiagnostics (short.take 2))) =
      some (some (⟨.literal, "1.5"⟩, ⟨2, 5⟩), [(unexpected "~").withSpan ⟨0, 1⟩]) := by
    decide +kernel
  rw [hshort, Option.map_some, Option.some.injEq] at hseen
  obtain ⟨hsecond, hreported⟩ := Prod.mk.inj hseen
  obtain ⟨r, hr, hsecond⟩ := Option.map_eq_some_iff.1 hsecond
  obtain ⟨htoken, hspan⟩ := Prod.mk.inj hsecond
  obtain ⟨r', hr', htoken', hspan', hreported'⟩ := hsettled 1 r "~ 1.5" " ." hr
    (by rw [htoken]; decide) (by decide) (by rw [hspan]; decide) (by decide)
  exact ⟨long, hlong, ⟨r', hr', htoken'.trans htoken, hspan'.trans hspan⟩,
    hreported'.trans hreported⟩

end Scanner

end LexFront
