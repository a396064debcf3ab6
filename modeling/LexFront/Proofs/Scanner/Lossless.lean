import LexFront.Proofs.Scanner.Tile
import LexFront.Proofs.Text.Offset

/-! The tokens of a source and the blanks between them are the source. The spans of a run lie side by
side in the order of the tokens, both ends of each cut the source, only blanks are left between
them, and each token's text is what its span says. -/
namespace LexFront
open Text

/-- Where the token before the `i`-th ends: at the start of the source if there is none. -/
def Step.endBefore (steps : List Step) : Nat → Nat
  | 0 => 0
  | i + 1 => (steps[i]?.map (·.scanner.tokenSpan.stop)).getD 0

/-- A step whose token covers `part`, behind the blanks `gap` that start at the offset `before`. -/
structure Step.Covers (source : String) (before : Nat) (r : Step) (gap part : String) : Prop where
  ordered : before ≤ r.scanner.tokenSpan.start ∧
    r.scanner.tokenSpan.start ≤ r.scanner.tokenSpan.stop ∧
    r.scanner.tokenSpan.stop ≤ source.utf8ByteSize
  start_valid : String.Pos.Raw.IsValid source ⟨r.scanner.tokenSpan.start⟩
  stop_valid : String.Pos.Raw.IsValid source ⟨r.scanner.tokenSpan.stop⟩
  gap_eq : slice? source before r.scanner.tokenSpan.start = some gap
  part_eq : slice? source r.scanner.tokenSpan.start r.scanner.tokenSpan.stop = some part
  blank : ∀ c ∈ gap.toList, c ∈ [' ', '\t', '\n', '\r']
  proper : r.scanner.tokenSpan.start < r.scanner.tokenSpan.stop ↔ r.token ≠ .endOfInput
  text : r.token.kind ≠ .stringDelim → r.token.text = part
  quoted : r.token.kind = .stringDelim → part = "\"" ++ r.token.text ++ "\"" ∨
    part = "\"" ++ r.token.text ∧ r.scanner.tokenSpan.stop = source.utf8ByteSize
  atEnd : r.token = .endOfInput →
    r.scanner.tokenSpan = ⟨source.utf8ByteSize, source.utf8ByteSize⟩

/-- **Nothing is lost**: the steps of a run, the blanks in front of their tokens and the characters
of their tokens, one after the other, are the whole source; the end of input comes last and only
there. -/
structure Lossless (source : String) (steps : List Step) (gaps parts : List String) : Prop where
  gaps_length : gaps.length = steps.length
  parts_length : parts.length = steps.length
  covers : ∀ i r gap part, steps[i]? = some r → gaps[i]? = some gap → parts[i]? = some part →
    Step.Covers source (Step.endBefore steps i) r gap part
  nonempty : steps ≠ []
  end_iff : ∀ i r, steps[i]? = some r → (r.token = .endOfInput ↔ i + 1 = steps.length)
  whole : String.join (List.zipWith (· ++ ·) gaps parts) = source

namespace Tile

section
variable {config : ScanConfig} {reporting : Bool} {mode : NumberMode} {t : Tile} {ts us vs : List Tile}
  {source : String}

theorem endBefore_steps :
    Step.endBefore (steps config reporting [] (us ++ t :: vs)) us.length = byteLength (row us) := by
  rcases List.eq_nil_or_concat us with rfl | ⟨us, u, rfl⟩
  · rfl
  · rw [List.concat_eq_append, List.length_append, List.length_singleton, List.append_assoc,
      List.singleton_append, Step.endBefore, steps_getElem?]
    simp [span, Lexeme.span, chars]

theorem join_pieces :
    String.join (List.zipWith (· ++ ·) (ts.map (String.ofList ·.blanks))
      (ts.map (String.ofList ·.lexeme.chars))) = String.ofList (row ts) := by
  induction ts with
  | nil => rfl
  | cons t ts ih =>
    rw [List.map_cons, List.map_cons, List.zipWith_cons_cons, String.join_cons, ih, row_cons, chars,
      String.ofList_append, String.ofList_append]

theorem covers_step (h : Tiled config.numberMode source.toList (us ++ t :: vs)) :
    (t.step config reporting (row us) (row vs)).Covers source (byteLength (row us))
      (String.ofList t.blanks) (String.ofList t.lexeme.chars) := by
  -- the source, cut in front of the blanks, in front of the lexeme and behind it
  have hsource : source.toList = row us ++ (t.blanks ++ (t.lexeme.chars ++ row vs)) := by
    rw [← h.row_eq, row_append, row_cons, chars, List.append_assoc]
  have hbehind : source.toList = (row us ++ t.blanks) ++ (t.lexeme.chars ++ row vs) := by
    rw [hsource, List.append_assoc]
  have hend : source.toList = (row us ++ t.blanks ++ t.lexeme.chars) ++ row vs := by
    rw [hbehind, ← List.append_assoc]
  have hsize : byteLength (row us ++ t.blanks ++ t.lexeme.chars) + byteLength (row vs) =
      source.utf8ByteSize := by
    rw [← byteLength_append, ← hend, byteLength_toList]
  have hfirst := h.drop
  exact {
    ordered := by
      simp only [tokenSpan_step, span, Lexeme.span, byteLength_append] at hsize ⊢
      omega
    start_valid := isValid_byteLength hbehind
    stop_valid := isValid_byteLength hend
    gap_eq := slice?_of_toList_eq hsource
    part_eq := slice?_of_toList_eq hbehind
    blank := by
      intro c hc
      rw [String.toList_ofList] at hc
      exact isBlank_eq_true_iff.1 (hfirst.blank c hc)
    proper := by
      have hlt : (t.span (row us)).start < (t.span (row us)).stop ↔ t.lexeme.chars ≠ [] := by
        simp only [← byteLength_pos_iff, span, Lexeme.span, byteLength_append]
        omega
      rw [tokenSpan_step, token_step, hlt]
      exact not_congr hfirst.chars_eq_nil_iff
    text := by
      intro hkind
      show String.ofList t.lexeme.text = _
      rw [hfirst.text_eq_chars hkind]
    quoted := by
      intro hkind
      rcases hfirst.chars_of_stringDelim hkind with hchars | ⟨hchars, hrow⟩
      · left
        rw [token_step, hchars]
        apply String.toList_inj.1
        simp [Lexeme.token]
      · right
        refine ⟨?_, ?_⟩
        · rw [token_step, hchars]
          apply String.toList_inj.1
          simp [Lexeme.token]
        · rw [← hsize, hrow]
          rfl
    atEnd := by
      intro htoken
      have hchars : t.lexeme.chars = [] := hfirst.chars_eq_nil_iff.2 htoken
      have hvs : vs = [] := hfirst.token_eq_endOfInput_iff.1 htoken
      rw [hvs, row_nil, byteLength_nil, hchars, List.append_nil] at hsize
      rw [tokenSpan_step, span, Lexeme.span, hchars, List.append_nil, ← hsize, Nat.add_zero] }

end

end Tile

namespace Scanner

/-- **A run loses nothing**: whatever the source and the options, a scan comes to the end of the input, and
the blanks and characters that its tokens cover are the source, piece by piece. -/
theorem exists_lossless (source : String) (config : ScanConfig) (reporting : Bool) :
    ∃ steps gaps parts, (start source config reporting).steps? = some steps ∧
      Lossless source steps gaps parts := by
  obtain ⟨ts, hts, hsteps⟩ := exists_tiled_start source config reporting
  refine ⟨_, ts.map (String.ofList ·.blanks), ts.map (String.ofList ·.lexeme.chars), hsteps,
    by simp, by simp, ?_, ?_, ?_, ?_⟩
  · intro i r gap part hr hgap hpart
    obtain ⟨us, t, vs, rfl, rfl, rfl⟩ := Tile.exists_of_steps_getElem? hr
    simp only [List.map_append, List.map_cons, List.getElem?_append_right, List.length_map, le_refl,
      Nat.sub_self, List.getElem?_cons_zero, Option.some.injEq] at hgap hpart
    subst hgap hpart
    rw [Tile.endBefore_steps]
    exact Tile.covers_step hts
  · intro hnil
    have hlength := congrArg List.length hnil
    rw [Tile.length_steps] at hlength
    exact hts.ne_nil (List.eq_nil_of_length_eq_zero hlength)
  · intro i r hr
    obtain ⟨us, t, vs, rfl, rfl, rfl⟩ := Tile.exists_of_steps_getElem? hr
    rw [Tile.token_step, hts.drop.token_eq_endOfInput_iff, Tile.length_steps,
      List.length_append, List.length_cons, ← List.length_eq_zero_iff]
    omega
  · rw [Tile.join_pieces, hts.row_eq, String.ofList_toList]

end Scanner

end LexFront
