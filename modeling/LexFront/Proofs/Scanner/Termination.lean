import LexFront.Proofs.Cursor.Loop
import LexFront.Proofs.Scanner.Reachable

/-! Scanning ends. No loop of a scanner at work goes on for more turns than there are characters left,
each token but the end of input takes up some of them, and a scan of all tokens goes on for at most
as many turns as there are characters left that are not blank. -/
namespace LexFront
open Text Cursor

namespace Scanner

/-- One turn of a scan of all tokens: one more token behind those so far. -/
def scanTurn : List Token × Scanner → Option (Turn (List Token × Scanner) (List Token))
  | (ts, s) =>
    s.nextToken?.map fun r =>
      if r.token.isEnd then .leave (ts ++ [r.token]) else .again (ts ++ [r.token], r.scanner)

/-- **Scanning ends**, whatever of it a scanner is about to do. The runs of characters and the search
for the end of a block are covered wherever moves from its cursor may lead. -/
structure Terminates (s : Scanner) : Prop where
  pass : ∀ c, s.cursor.Reaches c → ∃ left, c.rest? = some left ∧
    ∀ {σ : Type} (test : σ → Char → Bool × σ) (state : σ), ∃ n out, n ≤ left.length ∧
      EndsIn (passTurn test) n (state, c) out ∧ c.advanceWith? test state = some out
  block : ∀ c, s.cursor.Reaches c → ∃ left, c.rest? = some left ∧
    ∃ n out, n ≤ left.length ∧ EndsIn blockTurn n c out ∧ skipBlock? c = some out
  next : ∃ r left left', s.nextToken? = some r ∧ s.cursor.rest? = some left ∧
    r.scanner.cursor.rest? = some left' ∧ (r.token.isEnd = false → left'.length < left.length)
  scan : ∃ left ts ds, s.cursor.rest? = some left ∧
    s.perform? .scanAll = some ⟨.tokens (ts ++ [.endOfInput]), none, ds⟩ ∧
    EndsIn scanTurn ts.length ([], s) (ts ++ [.endOfInput]) ∧ (∀ t ∈ ts, t.isEnd = false) ∧
    ts.length ≤ left.toList.countP (!isBlank ·)

end Scanner

/-! ## What tiles take up -/

section
variable {mode : NumberMode} {q : List Char} {t : Tile} {ts : List Tile}

theorem Tiled.exists_not_isBlank (h : Tiled mode q (t :: ts)) (hts : ts ≠ []) :
    ∃ x ∈ t.lexeme.chars, isBlank x = false := by
  have hne : t.lexeme.chars ≠ [] := by
    rwa [ne_eq, h.chars_eq_nil_iff, h.token_eq_endOfInput_iff]
  obtain ⟨x, m, hx⟩ := List.exists_cons_of_ne_nil hne
  have hstops := h.stops
  rw [hx] at hstops ⊢
  exact ⟨x, List.mem_cons_self, hstops x rfl⟩

theorem Tiled.length_lt (h : Tiled mode q (t :: ts)) (hts : ts ≠ []) :
    (Tile.row ts).length < q.length := by
  obtain ⟨x, hx, -⟩ := h.exists_not_isBlank hts
  have hpos := List.length_pos_of_mem hx
  rw [← h.row_eq, Tile.row_cons, Tile.chars, List.length_append, List.length_append]
  omega

/-- The tiles behind one have less to cover that is not blank. -/
theorem Tiled.countP_lt (h : Tiled mode q (t :: ts)) (hts : ts ≠ []) :
    (Tile.row ts).countP (!isBlank ·) < q.countP (!isBlank ·) := by
  obtain ⟨x, hx, hblank⟩ := h.exists_not_isBlank hts
  have hpos : 0 < t.lexeme.chars.countP (!isBlank ·) :=
    List.countP_pos_iff.2 ⟨x, hx, by simp [hblank]⟩
  rw [← h.row_eq, Tile.row_cons, Tile.chars, List.countP_append, List.countP_append]
  omega

end

namespace Scanner

section
variable {source : String} {config : ScanConfig} {reporting : Bool} {s : Scanner} {p q : List Char}
  {tiles : List Tile}

theorem steps?_eq_follow (us : List Token) (s : Scanner) :
    s.steps?.map (us ++ Step.tokens ·) =
      (scanTurn (us, s)).bind (Turn.follow fun a => a.2.steps?.map (a.1 ++ Step.tokens ·)) := by
  cases hr : s.nextToken? with
  | none =>
    have hnone : s.steps? = none := by
      rw [steps?]
      split
      · rfl
      · rename_i hsome
        rw [hr] at hsome
        cases hsome
    rw [hnone, scanTurn, hr]
    rfl
  | some r =>
    cases hend : r.token.isEnd with
    | true =>
      simp only [steps?_of_isEnd hr hend, scanTurn, hr, Option.map_some, hend, if_true]
      rfl
    | false =>
      simp only [steps?_of_not_isEnd hr hend, scanTurn, hr, Option.map_some, hend,
        Bool.false_eq_true, if_false, Option.bind_some, Turn.follow, Option.map_map]
      congr 1
      funext steps
      simp [Step.tokens]

/-- **A scan of all tokens ends**: it goes on with the tokens in front of the end of input, of which
there are at most as many as characters that are not blank. -/
theorem exists_endsIn_scan (hs : s.cursor = between p q)
    (h : Tiled s.config.numberMode q tiles) :
    ∃ ts, ts.length ≤ q.countP (!isBlank ·) ∧ (∀ t ∈ ts, t.isEnd = false) ∧
      ∀ us, EndsIn scanTurn ts.length (us, s) (us ++ (ts ++ [.endOfInput])) := by
  -- on the tiles, for all tokens `us` that were returned before them
  induction tiles generalizing s p q with
  | nil => exact absurd rfl h.ne_nil
  | cons t tiles ih =>
    have hstep := nextToken?_of_tiled hs h
    by_cases htiles : tiles = []
    · have htoken := h.token_eq_endOfInput_iff.2 htiles
      refine ⟨[], Nat.zero_le _, by simp, ?_⟩
      intro us
      apply EndsIn.leave
      simp only [scanTurn, hstep, Option.map_some, Tile.token_step, htoken, Token.isEnd_endOfInput,
        if_true]
      rfl
    · have hend := h.isEnd_eq_false htiles
      obtain ⟨ts, hle, hproper, hends⟩ :=
        ih (s := (t.step s.config s.reporting p (Tile.row tiles)).scanner) rfl (h.tail htiles)
      refine ⟨t.lexeme.token :: ts, ?_, ?_, ?_⟩
      · exact Nat.lt_of_le_of_lt hle (h.countP_lt htiles)
      · exact List.forall_mem_cons.2 ⟨hend, hproper⟩
      · intro us
        have hrest := hends (us ++ [t.lexeme.token])
        rw [List.append_assoc, List.singleton_append] at hrest
        refine .again ?_ hrest
        simp only [scanTurn, hstep, Option.map_some, Tile.token_step, hend, Bool.false_eq_true,
          if_false]

/-- **Scanning ends at any time**: from whatever state tokens have led a scanner to, its loops come to
an end within what is left of the source, the next token takes up some of that unless it is the end
of input, and a scan of all that is left returns as many tokens as it goes on for, and the end of
input behind them. -/
theorem Reachable.terminates (h : Reachable source config reporting s) : Terminates s := by
  obtain ⟨p, q, hstands⟩ := h.exists_stands
  have hs := hstands.cursor
  obtain ⟨tiles, htiles⟩ := exists_tiled s.config.numberMode q
  refine ⟨?_, ?_, ?_, ?_⟩
  · -- wherever moves have led, a loop has no more turns than there are characters left
    intro c hc
    rw [hs] at hc
    obtain ⟨m, r, rfl, rfl⟩ := hc.exists_between
    refine ⟨String.ofList r, rest?_between, ?_⟩
    intro σ test state
    rw [String.length_ofList]
    exact exists_endsIn_pass test state (p ++ m) r
  · intro c hc
    rw [hs] at hc
    obtain ⟨m, r, rfl, rfl⟩ := hc.exists_between
    refine ⟨String.ofList r, rest?_between, ?_⟩
    rw [String.length_ofList]
    exact exists_endsIn_block (p ++ m) r
  · obtain ⟨t, tiles, rfl⟩ := List.exists_cons_of_ne_nil htiles.ne_nil
    refine ⟨_, String.ofList q, String.ofList (Tile.row tiles), nextToken?_of_tiled hs htiles,
      by rw [hs, rest?_between], rest?_between, ?_⟩
    intro hend
    rw [String.length_ofList, String.length_ofList]
    -- only the end of input has no tiles behind it
    apply htiles.length_lt
    rintro rfl
    rw [Tile.token_step, htiles.isEnd_iff.2 rfl] at hend
    cases hend
  · obtain ⟨ts, hle, hproper, hends⟩ := exists_endsIn_scan hs htiles
    obtain ⟨steps, hsteps, htokens⟩ :=
      Option.map_eq_some_iff.1 ((hends []).eq_some fun a => steps?_eq_follow a.1 a.2)
    simp only [List.nil_append] at htokens
    refine ⟨String.ofList q, ts, Step.allDiagnostics steps, by rw [hs, rest?_between], ?_, hends [],
      hproper, by rwa [String.toList_ofList]⟩
    rw [Scanner.perform?, hsteps, ← htokens]
    rfl

/-- Behind a tilde, in front of a NUL, a lone quote and the opener of a block. -/
theorem exists_terminates_behind_tilde :
    ∃ s, Reachable "~\x00 \"-*" ⟨.fractional, true⟩ true s ∧ s.cursor.rest? = some "\x00 \"-*" ∧
      Terminates s := by
  have hstops : ∀ c ∈ "~\x00 \"-*".toList.head?, isBlank c = false := by
    have hhead : "~\x00 \"-*".toList.head? = some '~' := by decide
    rw [hhead]
    rintro _ ⟨⟩
    rfl
  have hstep : (start "~\x00 \"-*" ⟨.fractional, true⟩ true).nextToken? = some _ :=
    nextToken?_between (w := []) (start_eq_between _) (by simp) hstops
  have hreach := Reachable.next .start hstep
  exact ⟨_, hreach, rest?_between, hreach.terminates⟩

end

end Scanner

end LexFront
