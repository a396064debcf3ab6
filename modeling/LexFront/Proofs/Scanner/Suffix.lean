import LexFront.Proofs.Scanner.Outcome
import LexFront.Proofs.Scanner.Reachable

/-! A scanner has no memory but its place. What it goes on to do is what a fresh scanner does with
the text that is left, the bytes in front of that text added to every offset. -/
namespace LexFront
open Text Cursor

namespace Scanner

/-- `s` stands in a text that starts with `b` where `t` stands in the same text without `b`. -/
structure Displaced (b : List Char) (s t : Scanner) : Prop where
  places : ∃ p q, s.cursor = between (b ++ p) q ∧ t.cursor = between p q
  config_eq : s.config = t.config
  reporting_eq : s.reporting = t.reporting

section
variable {b : List Char} {s t : Scanner} {source : String} {config : ScanConfig} {reporting : Bool}

/-- The next tokens of both are one token, and both stand behind it afterwards. -/
theorem Displaced.exists_nextToken? (h : Displaced b s t) :
    ∃ r u, s.nextToken? = some r ∧ t.nextToken? = some u ∧
      r.outcome = u.outcome.shift (byteLength b) ∧ Displaced b r.scanner u.scanner := by
  obtain ⟨p, q, hs, ht⟩ := h.places
  obtain ⟨ts, hts⟩ := exists_tiled t.config.numberMode q
  obtain ⟨tile, ts, rfl⟩ := List.exists_cons_of_ne_nil hts.ne_nil
  have hr := nextToken?_of_tiled hs (h.config_eq ▸ hts)
  have hu := nextToken?_of_tiled ht hts
  rw [h.config_eq, h.reporting_eq] at hr
  refine ⟨_, _, hr, hu, ?_, ⟨p ++ tile.chars, Tile.row ts, ?_, rfl⟩, rfl, rfl⟩
  · rw [Tile.outcome_step, Tile.outcome_step, Tile.outcome_append]
  · rw [← List.append_assoc]
    rfl

theorem Displaced.exists_nextSteps? (h : Displaced b s t) (n : Nat) :
    ∃ rs us, nextSteps? n s = some rs ∧ nextSteps? n t = some us ∧
      rs.map Step.outcome = us.map (·.outcome.shift (byteLength b)) := by
  induction n generalizing s t with
  | zero => exact ⟨[], [], rfl, rfl, rfl⟩
  | succ n ih =>
    obtain ⟨r, u, hr, hu, houtcome, hnext⟩ := h.exists_nextToken?
    obtain ⟨rs, us, hrs, hus, hrest⟩ := ih hnext
    refine ⟨r :: rs, u :: us, ?_, ?_, ?_⟩
    · rw [nextSteps?, hr, Option.bind_eq_bind, Option.bind_some, hrs]
      rfl
    · rw [nextSteps?, hu, Option.bind_eq_bind, Option.bind_some, hus]
      rfl
    · rw [List.map_cons, List.map_cons, houtcome, hrest]

theorem Displaced.exists_steps? (h : Displaced b s t) :
    ∃ rs us, s.steps? = some rs ∧ t.steps? = some us ∧
      rs.map Step.outcome = us.map (·.outcome.shift (byteLength b)) := by
  obtain ⟨p, q, hs, ht⟩ := h.places
  obtain ⟨ts, hts⟩ := exists_tiled t.config.numberMode q
  have hr := steps?_of_tiled hs (h.config_eq ▸ hts)
  have hu := steps?_of_tiled ht hts
  rw [h.config_eq, h.reporting_eq] at hr
  refine ⟨_, _, hr, hu, ?_⟩
  rw [Tile.map_outcome_steps, Tile.outcomes_shift, ← Tile.map_outcome_steps, List.map_map]
  rfl

/-- A scanner in its source is a fresh scanner of the text in front of it, displaced. -/
theorem Stands.displaced {p q : List Char} (h : Stands source config reporting s p q) :
    Displaced p s (start (String.ofList q) config reporting) := by
  refine ⟨⟨[], q, ?_, ?_⟩, h.config_eq, h.reporting_eq⟩
  · rw [List.append_nil]
    exact h.cursor
  · have hstart := start_eq_between (String.ofList q)
    rwa [String.toList_ofList] at hstart

end

/-- **A scanner remembers nothing but its place**: after any number `k` of tokens the source is cut
at the cursor, and whatever number of tokens is asked for next, or all up to the end, a fresh
scanner of the text behind the cut gives, logs and reports the same, less the bytes in front of the
cut. -/
theorem exists_fresh_run (source : String) (config : ScanConfig) (reporting : Bool) (k : Nat) :
    ∃ before s pre suf, nextSteps? k (start source config reporting) = some before ∧
      s = Step.after (start source config reporting) before ∧
      source = pre ++ suf ∧ pre.utf8ByteSize = s.cursor.position ∧
      (∀ n, ∃ rs us, nextSteps? n s = some rs ∧
        nextSteps? n (start suf config reporting) = some us ∧
        rs.map Step.outcome = us.map (·.outcome.shift s.cursor.position)) ∧
      ∃ rs us, s.steps? = some rs ∧ (start suf config reporting).steps? = some us ∧
        rs.map Step.outcome = us.map (·.outcome.shift s.cursor.position) := by
  obtain ⟨before, _, hbefore, _⟩ :=
    (stands_start source config reporting).displaced.exists_nextSteps? k
  -- the steps so far lead to a scanner at work, which stands at a cut of the source
  obtain ⟨p, q, hstands⟩ := (Reachable.start.nextSteps? hbefore).exists_stands
  have hposition :
      byteLength p = (Step.after (start source config reporting) before).cursor.position := by
    rw [hstands.cursor, position_between]
  refine ⟨before, _, String.ofList p, String.ofList q, hbefore, rfl, ?_, hposition, ?_, ?_⟩
  · rw [← String.ofList_append, ← hstands.source_eq, String.ofList_toList]
  · intro n
    rw [← hposition]
    exact hstands.displaced.exists_nextSteps? n
  · rw [← hposition]
    exact hstands.displaced.exists_steps?

end Scanner

end LexFront
