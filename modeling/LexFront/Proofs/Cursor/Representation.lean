import LexFront.Proofs.Cursor.Held

/-! What the parts of a cursor stand for. The characters and offsets that a cursor keeps are those of the
cut of the source that it stands at, and stay so under everything a program does with its cursors.
Only putting a copy back leads to an earlier place; at the end of the source nothing moves. -/
namespace LexFront.Cursor
open Text

/-- **What a cursor shows** of a source that is cut into `p` and `q`. -/
structure Shows (source : String) (p q : List Char) (c : Cursor) : Prop where
  source_eq : c.source = source
  cut : source.toList = p ++ q
  position : c.position = byteLength p
  current : c.current = q.head?
  current_none : c.current = none ↔ q = []
  next : ∀ x, c.current = some x → c.nextPosition = c.position + x.utf8Size
  next_end : c.current = none → c.nextPosition = c.position + 1
  ahead : c.position < c.nextPosition
  peek : c.peek = q[1]?

/-- **How an operation on a cursor goes**: it has a result and does not lead back. At the end of the
source it leaves the cursor as it is, and answers `idle`. -/
def GoesOn {α : Type} (c : Cursor) (idle : α) (result : Option (α × Cursor)) : Prop :=
  ∃ a d, result = some (a, d) ∧ c.position ≤ d.position ∧ (c.current = none → a = idle ∧ d = c)

section
variable {source : String} {p q : List Char}

theorem shows_between (h : source.toList = p ++ q) : Shows source p q (between p q) := by
  have hsource : (between p q).source = source := by
    rw [source_between, ← h, String.ofList_toList]
  cases q with
  | nil =>
    refine ⟨hsource, h, rfl, rfl, by simp, ?_, fun _ => rfl, ?_, by simp⟩
    · intro x hx
      cases hx
    · rw [position_between, nextPosition_between_nil]
      omega
  | cons x q =>
    have hnext : (between p (x :: q)).nextPosition = byteLength p + x.utf8Size := by
      rw [nextPosition_between_cons, byteLength_append, byteLength_singleton]
    refine ⟨hsource, h, rfl, rfl, by simp, ?_, ?_, ?_, ?_⟩
    · intro y hy
      cases hy
      exact hnext
    · intro hnone
      cases hnone
    · have hpos := x.utf8Size_pos
      rw [position_between, hnext]
      omega
    · rw [peek_between_cons, List.head?_eq_getElem?]
      rfl

theorem position_le_between (p m r : List Char) :
    (between p (m ++ r)).position ≤ (between (p ++ m) r).position := by
  rw [position_between, position_between, byteLength_append]
  omega

theorem goesOn_advance? : GoesOn (between p q) () ((between p q).advance?.map ((), ·)) := by
  cases q with
  | nil => exact ⟨(), _, rfl, Nat.le_refl _, fun _ => ⟨rfl, rfl⟩⟩
  | cons x q =>
    refine ⟨(), between (p ++ [x]) q, ?_, position_le_between p [x] q, ?_⟩
    · rw [advance?_between_cons, Option.map_some]
    · intro hend
      cases hend

theorem goesOn_eat? (x : Char) : GoesOn (between p q) false ((between p q).eat? x) := by
  cases q with
  | nil => exact ⟨false, _, rfl, Nat.le_refl _, fun _ => ⟨rfl, rfl⟩⟩
  | cons y q =>
    rw [eat?_between_cons]
    by_cases hy : y = x
    · rw [if_pos hy]
      refine ⟨true, _, rfl, position_le_between p [y] q, ?_⟩
      intro hend
      cases hend
    · rw [if_neg hy]
      exact ⟨false, _, rfl, Nat.le_refl _, fun _ => ⟨rfl, rfl⟩⟩

theorem goesOn_advanceWith? {σ : Type} (test : σ → Char → Bool × σ) (state : σ) :
    GoesOn (between p q) state ((between p q).advanceWith? test state) := by
  cases q with
  | nil => exact ⟨state, _, advanceWith?_between_nil test state p, Nat.le_refl _, fun _ => ⟨rfl, rfl⟩⟩
  | cons x q =>
    obtain ⟨final, m, r, hcut, hrun⟩ := exists_advanceWith?_between test state p (x :: q)
    refine ⟨final, _, hrun, ?_, ?_⟩
    · rw [hcut]
      exact position_le_between p m r
    · intro hend
      cases hend

end

/-- **A cursor keeps what it shows**: whatever a program did to come by it, by single moves, moves over an
expected character, runs of any test and copies put aside and back, it stands at a cut of the source
and shows the characters and offsets there. Each operation on it has a result that is not further back,
and at the end of the source changes nothing. -/
theorem Held.representation {source : String} {cs : List Cursor} {c : Cursor} (h : Held source cs)
    (hc : c ∈ cs) :
    (∃ p q, Shows source p q c) ∧
    GoesOn c () (c.advance?.map ((), ·)) ∧
    (∀ x, GoesOn c false (c.eat? x)) ∧
    (∀ (σ : Type) (test : σ → Char → Bool × σ) (state : σ),
      GoesOn c state (c.advanceWith? test state)) ∧
    ∀ p : Char → Bool, GoesOn c () ((c.advanceWhile? p).map ((), ·)) := by
  obtain ⟨p, q, hcut, rfl⟩ := h.exists_between hc
  refine ⟨⟨p, q, shows_between hcut⟩, goesOn_advance?, goesOn_eat?, ?_, ?_⟩
  · intro σ test state
    exact goesOn_advanceWith? test state
  · -- a test that remembers nothing
    intro accepts
    obtain ⟨_, d, hrun, hposition, hend⟩ :=
      goesOn_advanceWith? (p := p) (q := q) (fun (_ : Unit) x => (accepts x, ())) ()
    exact ⟨(), d, by rw [advanceWhile?, hrun]; rfl, hposition, hend⟩

/-- A copy is put back that stands behind a character of two bytes. What is current there is the
character NUL and not the end of the source. -/
theorem Held.representation_nul :
    ∃ c, Held "é\x00" [c, c] ∧ c ∈ [c, c] ∧
      c.position = 2 ∧ c.nextPosition = 3 ∧ c.current = some '\x00' ∧ c.peek = none ∧
      c.advance?.isSome := by
  have hstart : Held "é\x00" [between [] ['é', '\x00']] := .fresh
  have hfirst : Held "é\x00" [between ['é'] ['\x00']] :=
    hstart.move (i := 0) rfl (.advance .refl (by simp))
  have hcopy : Held "é\x00" [between ['é'] ['\x00'], between ['é'] ['\x00']] :=
    hfirst.clone (List.mem_singleton.2 rfl)
  have hend : Held "é\x00" [between ['é', '\x00'] [], between ['é'] ['\x00']] :=
    hcopy.move (i := 0) rfl (.advance .refl (by simp))
  have hback : Held "é\x00" [between ['é'] ['\x00'], between ['é'] ['\x00']] :=
    hend.restore (i := 0) (List.mem_cons_of_mem _ (List.mem_singleton.2 rfl))
  have hmem : between ['é'] ['\x00'] ∈ [between ['é'] ['\x00'], between ['é'] ['\x00']] :=
    List.mem_cons_self
  obtain ⟨⟨p, q, hshows⟩, ⟨_, d, hmove, -, -⟩, -⟩ := hback.representation hmem
  have hnext := hshows.next '\x00' rfl
  refine ⟨_, hback, hmem, rfl, hnext, rfl, by simp, ?_⟩
  obtain ⟨e, he, -⟩ := Option.map_eq_some_iff.1 hmove
  rw [he]
  rfl

end LexFront.Cursor
