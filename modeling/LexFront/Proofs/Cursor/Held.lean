import LexFront.Cursor.Script
import LexFront.Proofs.Cursor.Reach
import LexFront.Proofs.Span

/-! Cursors at hand. A program starts with one cursor on a source and comes to hold others by moving the
ones it has, copying them and putting one back in place of another. Whatever it does, each stands
behind some part of the source, and slicing up to it agrees with resolving the span up to it. -/
namespace LexFront.Cursor
open Text

/-- The cursors on a source that a program may hold together. -/
inductive Held (source : String) : List Cursor → Prop
  | fresh : Held source [.start source]
  | move {cs : List Cursor} {i : Nat} {c d : Cursor} (before : Held source cs)
      (at_index : cs[i]? = some c) (moves : c.Reaches d) : Held source (cs.set i d)
  | clone {cs : List Cursor} {c : Cursor} (before : Held source cs) (mem : c ∈ cs) :
      Held source (c :: cs)
  | restore {cs : List Cursor} {i : Nat} {c : Cursor} (before : Held source cs) (mem : c ∈ cs) :
      Held source (cs.set i c)

section
variable {source : String} {cs : List Cursor} {c : Cursor} {i : Nat}

/-- What a program holds it could have moved to from the start, without copying anything. -/
theorem Held.reaches (h : Held source cs) : ∀ c ∈ cs, (start source).Reaches c := by
  induction h with
  | fresh =>
    rw [List.forall_mem_singleton]
    exact .refl
  | move _ at_index moves ih =>
    intro c hc
    rcases List.mem_or_eq_of_mem_set hc with hc | rfl
    · exact ih c hc
    · exact (ih _ (List.mem_of_getElem? at_index)).trans moves
  | clone _ mem ih => exact List.forall_mem_cons.2 ⟨ih _ mem, ih⟩
  | restore _ mem ih =>
    intro c hc
    rcases List.mem_or_eq_of_mem_set hc with hc | rfl
    · exact ih c hc
    · exact ih c mem

theorem Held.exists_between (h : Held source cs) (hc : c ∈ cs) :
    ∃ p q, source.toList = p ++ q ∧ c = between p q := by
  have hreach := h.reaches c hc
  rw [start_eq_between] at hreach
  obtain ⟨p, q, hsource, rfl⟩ := hreach.exists_between
  exact ⟨p, q, hsource, rfl⟩

/-- What the span from an offset up to a place that cuts the source resolves to is what is sliced from
there. -/
theorem sliceFrom?_eq_some_iff {part : String} (hsource : c.source = source) :
    c.sliceFrom? i = some part ↔ (Span.mk i c.position).slice source = .ok part := by
  rw [Span.slice_eq_ok_iff, sliceFrom?, hsource]

/-- A span up to a place that cuts the source is wrong only by its start. -/
theorem faulty_iff_of_isValid {stop : Nat} {e : SpanError}
    (hstop : String.Pos.Raw.IsValid source ⟨stop⟩) :
    Span.Faulty source ⟨i, stop⟩ e ↔
      (stop < i ∧ e = .reversed ⟨i, stop⟩) ∨
        (i ≤ stop ∧ IsInside source i ∧ e = .offBoundary ⟨i, stop⟩) := by
  constructor
  · intro h
    cases h with
    | reversed order => exact .inl ⟨order, rfl⟩
    | outOfBounds _ range => exact absurd hstop.le_utf8ByteSize (Nat.not_le.2 range)
    | offBoundary order _ boundary =>
      rcases boundary with hinside | hinside
      · exact .inr ⟨order, hinside, rfl⟩
      · exact absurd hstop (isInside_iff.1 hinside).2
  · rintro (⟨order, rfl⟩ | ⟨order, hinside, rfl⟩)
    · exact .reversed order
    · exact .offBoundary order hstop.le_utf8ByteSize (.inl hinside)

end

/-- **Slicing from an offset up to a cursor agrees with resolving the span** between them, whatever was
done to come by the cursor: the one has no answer exactly if the other is an error, and both give the
same text otherwise. The error is about the order of the offsets, or else about an offset inside a
character; the span is never out of bounds. -/
theorem Held.slices_agree {source : String} {cs : List Cursor} {c : Cursor} (h : Held source cs)
    (hc : c ∈ cs) (i : Nat) :
    (c.sliceFrom? i = none ↔ ∃ e, (Span.mk i c.position).slice source = .error e) ∧
    (∀ part, c.sliceFrom? i = some part ↔ (Span.mk i c.position).slice source = .ok part) ∧
    (∀ e, (Span.mk i c.position).slice source = .error e ↔
      (c.position < i ∧ e = .reversed ⟨i, c.position⟩) ∨
        (i ≤ c.position ∧ IsInside source i ∧ e = .offBoundary ⟨i, c.position⟩)) ∧
    ∀ n s, (Span.mk i c.position).slice source ≠ .error (.outOfBounds n s) := by
  obtain ⟨p, q, hsource, rfl⟩ := h.exists_between hc
  have hsame : (between p q).source = source := by
    rw [source_between, ← hsource, String.ofList_toList]
  have hsome : ∀ part, (between p q).sliceFrom? i = some part ↔
      (Span.mk i (byteLength p)).slice source = .ok part :=
    fun _ => sliceFrom?_eq_some_iff hsame
  have herror : ∀ e, (Span.mk i (byteLength p)).slice source = .error e ↔
      (byteLength p < i ∧ e = .reversed ⟨i, byteLength p⟩) ∨
        (i ≤ byteLength p ∧ IsInside source i ∧ e = .offBoundary ⟨i, byteLength p⟩) :=
    fun _ => Span.slice_eq_error_iff.trans (faulty_iff_of_isValid (isValid_byteLength hsource))
  rw [position_between]
  refine ⟨?_, hsome, herror, ?_⟩
  · rw [Option.eq_none_iff_forall_ne_some]
    constructor
    · intro hnone
      cases hslice : (Span.mk i (byteLength p)).slice source with
      | error e => exact ⟨e, rfl⟩
      | ok part => exact absurd ((hsome part).2 hslice) (hnone part)
    · rintro ⟨e, he⟩ part hpart
      rw [(hsome part).1 hpart] at he
      cases he
  · intro n s hslice
    rcases (herror _).1 hslice with ⟨_, he⟩ | ⟨_, _, he⟩
    · cases he
    · cases he

/-- A copy of a cursor is moved on by a test that counts, over two characters of which the second takes
two bytes, and sliced up to from within that character. -/
theorem Held.slices_agree_inside :
    ∃ c d, Held "aé-" [c, d] ∧ c ∈ [c, d] ∧ c.position = 3 ∧ d.position = 0 ∧
      c.sliceFrom? 2 = none ∧
      (Span.mk 2 3).slice "aé-" = .error (.offBoundary ⟨2, 3⟩) := by
  have hstart : Held "aé-" [.start "aé-", .start "aé-"] :=
    .clone .fresh (List.mem_singleton.2 rfl)
  have hpass : (start "aé-").advanceWith? (countingTest 2) 0 =
      some (3, between ['a', 'é'] ['-']) := by
    rw [start_eq_between]
    simp [advanceWith?_between_cons, countingTest]
  have hheld : Held "aé-" [between ['a', 'é'] ['-'], .start "aé-"] :=
    hstart.move (i := 0) rfl (.pass .refl hpass)
  have hmem : between ['a', 'é'] ['-'] ∈ [between ['a', 'é'] ['-'], .start "aé-"] :=
    List.mem_cons_self
  obtain ⟨hnone, -, herror, -⟩ := hheld.slices_agree hmem 2
  have hinside : IsInside "aé-" 2 := ⟨"a", 'é', "-", rfl, by decide, by decide⟩
  have hslice := (herror _).2 (.inr ⟨by decide, hinside, rfl⟩)
  exact ⟨_, _, hheld, hmem, rfl, rfl, hnone.2 ⟨_, hslice⟩, hslice⟩

end LexFront.Cursor
