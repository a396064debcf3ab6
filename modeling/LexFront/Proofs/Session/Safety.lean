import LexFront.Proofs.Cursor.Reach
import LexFront.Proofs.Scanner.Reachable

/-! No command makes a scanner index its source where the source cannot be indexed. The operations
that index have no answer exactly off the ranges that cut the source; every place that the moves of
a scanner at work lead to is in such ranges, and so no command is left without an answer. -/
namespace LexFront
open Text Cursor

/-- **A scanner that indexes its source only where it can**: wherever moves from its cursor lead, the
source is still there to be read behind each character, and to be sliced from any place moved to
before; the places where its next token starts and ends are among those. -/
structure Scanner.Safe (source : String) (s : Scanner) : Prop where
  source_eq : ∀ c, s.cursor.Reaches c → c.source = source
  advance : ∀ c, s.cursor.Reaches c → c.current.isSome →
    IsRange source c.nextPosition source.utf8ByteSize
  slice : ∀ c d, s.cursor.Reaches c → c.Reaches d → IsRange source c.position d.position
  next : ∃ r c, s.nextToken? = some r ∧ s.cursor.Reaches c ∧
    c.position = r.scanner.tokenStart ∧ c.Reaches r.scanner.cursor ∧
    r.scanner.cursor.position = r.scanner.tokenEnd

namespace Scanner

section
variable {source : String} {config : ScanConfig} {reporting : Bool} {s : Scanner} {p q : List Char}

/-- A token starts at a place that moves lead to, and ends at one that they lead to from there. -/
theorem exists_reaches_token (hs : s.cursor = between p q) :
    ∃ r c, s.nextToken? = some r ∧ s.cursor.Reaches c ∧ c.position = r.scanner.tokenStart ∧
      c.Reaches r.scanner.cursor ∧ r.scanner.cursor.position = r.scanner.tokenEnd := by
  obtain ⟨ts, hts⟩ := exists_tiled s.config.numberMode q
  obtain ⟨t, ts, rfl⟩ := List.exists_cons_of_ne_nil hts.ne_nil
  have hrow : q = t.blanks ++ (t.lexeme.chars ++ Tile.row ts) := by
    rw [← hts.row_eq, Tile.row_cons, Tile.chars, List.append_assoc]
  refine ⟨_, between (p ++ t.blanks) (t.lexeme.chars ++ Tile.row ts),
    nextToken?_of_tiled hs hts, ?_, ?_, ?_, ?_⟩
  · rw [hs, hrow]
    exact reaches_between p t.blanks _
  · rfl
  · have hlexeme := reaches_between (p ++ t.blanks) t.lexeme.chars (Tile.row ts)
    rwa [List.append_assoc] at hlexeme
  · simp [Tile.step, Tile.span, Lexeme.span, Tile.chars]

theorem Reachable.safe (h : Reachable source config reporting s) : Safe source s := by
  obtain ⟨p, q, hstands⟩ := h.exists_stands
  have hs := hstands.cursor
  have hsource : String.ofList (p ++ q) = source := by
    rw [← hstands.source_eq, String.ofList_toList]
  refine ⟨?_, ?_, ?_, exists_reaches_token hs⟩
  · intro c hc
    rw [hs] at hc
    rw [hc.source_eq, hsource]
  · intro c hc hcurrent
    rw [hs] at hc
    rw [← hsource]
    exact hc.isRange_next hcurrent
  · intro c d hc hd
    rw [hs] at hc
    rw [← hsource]
    exact hc.isRange_position hd

end

end Scanner

namespace Session

/-- **Nothing is indexed where it cannot be**: the two operations that index have no answer exactly
off the ranges of the text. Whatever is asked of some scanners, with whatever handler, there is an
answer, and the scanners that are not used up are safe afterwards. -/
theorem exists_safe_run (sources : List (String × ScanConfig × Bool)) (handler : Handler)
    (cs : List (Nat × Command)) :
    (∀ c : Cursor, c.current.isSome →
      (c.advance?.isSome ↔ IsRange c.source c.nextPosition c.source.utf8ByteSize)) ∧
    (∀ (c : Cursor) (i : Nat), (c.sliceFrom? i).isSome ↔ IsRange c.source i c.position) ∧
    ∃ answers t,
      (Session.mk (sources.map fun x => some (.start x.1 x.2.1 x.2.2)) handler).run? cs =
        some (answers, t) ∧
      ∀ (i : Nat) (x : String × ScanConfig × Bool) (s : Scanner), sources[i]? = some x →
        t.scanners[i]? = some (some s) → Scanner.Safe x.1 s := by
  refine ⟨fun c hc => isSome_advance?_iff hc, fun c i => isSome_sliceFrom?_iff, ?_⟩
  have hfresh : ∀ (i : Nat) (u : Scanner),
      (sources.map fun x => some (.start x.1 x.2.1 x.2.2))[i]? = some (some u) →
        ∃ x : String × ScanConfig × Bool, sources[i]? = some x ∧
          Scanner.Reachable x.1 x.2.1 x.2.2 u := by
    intro i u hu
    rw [List.getElem?_map] at hu
    obtain ⟨x, hx, hxu⟩ := Option.map_eq_some_iff.1 hu
    cases hxu
    exact ⟨x, hx, .start⟩
  have hwork :
      (Session.mk (sources.map fun x => some (.start x.1 x.2.1 x.2.2)) handler).AtWork := by
    intro u hu
    obtain ⟨i, hi⟩ := List.mem_iff_getElem?.1 hu
    obtain ⟨x, _, hreach⟩ := hfresh i u hi
    exact ⟨_, _, _, hreach⟩
  obtain ⟨answers, t, hrun⟩ := hwork.exists_run? cs
  refine ⟨answers, t, hrun, ?_⟩
  -- each scanner is at work on the source with its index, before every command and behind it
  have hholds := Holds.run? (Q := fun _ => True) ?_ ⟨hfresh, fun _ _ => trivial⟩ hrun
  · intro i x s hx hs
    obtain ⟨y, hy, hreach⟩ := hholds.scanner i s hs
    rw [hx] at hy
    cases hy
    exact hreach.safe
  · rintro i u c reply ⟨x, hx, hu⟩ hreply
    exact ⟨fun v hv => ⟨x, hx, hu.perform? hreply hv⟩, fun _ _ => trivial⟩

end Session

end LexFront
