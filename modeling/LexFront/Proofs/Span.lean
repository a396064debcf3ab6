import LexFront.Proofs.Text.Offset
import LexFront.Span

/-! Resolving a span. A span resolves to the part of a text that lies between its offsets, and where there
is no such part, `Span.Faulty` says what is wrong with it: `Span.slice_exact`. Up to its length, a text
is cut by every offset that is not inside the encoding of one of its characters. -/
namespace LexFront
open Text

namespace Text

/-- An offset strictly inside the encoding of a character of a text. -/
def IsInside (source : String) (i : Nat) : Prop :=
  ∃ p c q, source = p ++ String.singleton c ++ q ∧
    p.utf8ByteSize < i ∧ i < p.utf8ByteSize + c.utf8Size

section
variable {source : String} {cs p q r : List Char} {c : Char} {i : Nat}

/-- An offset within some characters stands between two of them or inside one. -/
theorem exists_cut_or_inside (h : i ≤ byteLength cs) :
    (∃ p q, cs = p ++ q ∧ byteLength p = i) ∨
      ∃ p c q, cs = p ++ c :: q ∧ byteLength p < i ∧ i < byteLength p + c.utf8Size := by
  induction cs generalizing i with
  | nil => exact .inl ⟨[], [], rfl, (Nat.le_zero.1 h).symm⟩
  | cons c cs ih =>
    rw [byteLength_cons] at h
    by_cases hzero : i = 0
    · exact .inl ⟨[], c :: cs, rfl, hzero.symm⟩
    · by_cases hinside : i < c.utf8Size
      · refine .inr ⟨[], c, cs, rfl, ?_, ?_⟩
        · rw [byteLength_nil]
          omega
        · rw [byteLength_nil]
          omega
      · -- the offset is behind the first character
        have hrest : i - c.utf8Size ≤ byteLength cs := by omega
        rcases ih hrest with ⟨p, q, rfl, hp⟩ | ⟨p, d, q, rfl, hlow, hhigh⟩
        · refine .inl ⟨c :: p, q, rfl, ?_⟩
          rw [byteLength_cons]
          omega
        · refine .inr ⟨c :: p, d, q, rfl, ?_, ?_⟩
          · rw [byteLength_cons]
            omega
          · rw [byteLength_cons]
            omega

theorem byteLength_le_of_cut (hcut : p ++ q = r ++ c :: cs) (hlow : byteLength r < byteLength p) :
    byteLength r + c.utf8Size ≤ byteLength p := by
  obtain ⟨m, rfl, hm⟩ := exists_eq_append_of_byteLength_le hcut.symm (Nat.le_of_lt hlow)
  cases m with
  | nil =>
    rw [List.append_nil] at hlow
    exact absurd hlow (Nat.lt_irrefl _)
  | cons d m =>
    obtain ⟨rfl, -⟩ := List.cons.inj hm
    rw [byteLength_append, byteLength_cons]
    omega

/-- **An offset is inside a character** exactly if it is within the text and does not cut it. -/
theorem isInside_iff :
    IsInside source i ↔ i ≤ source.utf8ByteSize ∧ ¬ String.Pos.Raw.IsValid source ⟨i⟩ := by
  constructor
  · rintro ⟨p, c, q, rfl, hlow, hhigh⟩
    have hsize : (p ++ String.singleton c ++ q).utf8ByteSize =
        p.utf8ByteSize + c.utf8Size + q.utf8ByteSize := by
      simp only [String.utf8ByteSize_append, String.utf8ByteSize_singleton]
    refine ⟨by omega, fun hvalid => ?_⟩
    obtain ⟨p', q', hcut, rfl⟩ := exists_of_isValid hvalid
    have hchars : p' ++ q' = p.toList ++ c :: q.toList := by
      rw [← hcut]
      simp
    have hp : byteLength p.toList = p.utf8ByteSize := byteLength_toList
    rw [← hp] at hlow hhigh
    -- a cut behind the start of `c` is not in front of its end
    have hle := byteLength_le_of_cut hchars hlow
    omega
  · rintro ⟨hle, hvalid⟩
    rw [← byteLength_toList] at hle
    rcases exists_cut_or_inside hle with ⟨p, q, hcut, rfl⟩ | ⟨p, c, q, hcut, hlow, hhigh⟩
    · exact absurd (isValid_byteLength hcut) hvalid
    · refine ⟨String.ofList p, c, String.ofList q, ?_, hlow, hhigh⟩
      rw [← String.toList_inj, hcut]
      simp

theorem isValid_of_not_isInside (h : i ≤ source.utf8ByteSize) (hi : ¬ IsInside source i) :
    String.Pos.Raw.IsValid source ⟨i⟩ :=
  Classical.not_not.1 fun hvalid => hi (isInside_iff.2 ⟨h, hvalid⟩)

end

end Text

namespace Span

/-- **What is wrong with a span** that does not resolve in a text. -/
inductive Faulty (source : String) (s : Span) : SpanError → Prop
  | reversed (order : s.stop < s.start) : Faulty source s (.reversed s)
  | outOfBounds (order : s.start ≤ s.stop) (range : source.utf8ByteSize < s.stop) :
      Faulty source s (.outOfBounds source.utf8ByteSize s)
  | offBoundary (order : s.start ≤ s.stop) (range : s.stop ≤ source.utf8ByteSize)
      (boundary : IsInside source s.start ∨ IsInside source s.stop) :
      Faulty source s (.offBoundary s)

section
variable {s : Span} {source part : String} {e : SpanError}

/-- A span resolves to the part of the text that its offsets cut out. -/
theorem slice_eq_ok_iff : s.slice source = .ok part ↔ slice? source s.start s.stop = some part := by
  rw [Span.slice]
  constructor
  · intro h
    split at h
    · cases h
    · split at h
      · cases h
      · split at h
        · rename_i hpart
          cases h
          exact hpart
        · cases h
  · intro h
    have hrange : IsRange source s.start s.stop := isSome_slice?_iff.1 (by rw [h]; rfl)
    rw [if_neg (Nat.not_lt.2 hrange.ordered), if_neg (Nat.not_lt.2 hrange.within), h]

theorem faulty_of_slice (h : s.slice source = .error e) : Faulty source s e := by
  rw [Span.slice] at h
  split at h
  · rename_i horder
    cases h
    exact .reversed horder
  · rename_i horder
    split at h
    · rename_i hrange
      cases h
      exact .outOfBounds (Nat.not_lt.1 horder) hrange
    · rename_i hrange
      split at h
      · cases h
      · rename_i hnone
        cases h
        have horder := Nat.not_lt.1 horder
        have hrange := Nat.not_lt.1 hrange
        refine .offBoundary horder hrange ?_
        by_cases hstart : IsInside source s.start
        · exact .inl hstart
        · by_cases hstop : IsInside source s.stop
          · exact .inr hstop
          · -- both offsets cut the text, so there is a part between them
            have hsome := isSome_slice?_iff.2 ⟨horder, hrange,
              isValid_of_not_isInside (Nat.le_trans horder hrange) hstart,
              isValid_of_not_isInside hrange hstop⟩
            rw [hnone] at hsome
            cases hsome

theorem slice_of_faulty (h : Faulty source s e) : s.slice source = .error e := by
  cases h with
  | reversed order => rw [Span.slice, if_pos order]
  | outOfBounds order range => rw [Span.slice, if_neg (Nat.not_lt.2 order), if_pos range]
  | offBoundary order range boundary =>
    have hnone : slice? source s.start s.stop = none := by
      rw [← Option.not_isSome_iff_eq_none, isSome_slice?_iff]
      intro hrange
      rcases boundary with hinside | hinside
      · exact (isInside_iff.1 hinside).2 hrange.start_valid
      · exact (isInside_iff.1 hinside).2 hrange.stop_valid
    rw [Span.slice, if_neg (Nat.not_lt.2 order), if_neg (Nat.not_lt.2 range), hnone]

/-- **A span does not resolve** exactly if something is wrong with it, which the error tells. -/
theorem slice_eq_error_iff : s.slice source = .error e ↔ Faulty source s e :=
  ⟨faulty_of_slice, slice_of_faulty⟩

/-- Two spans that meet resolve to parts that are next to each other. -/
theorem slice_append {t : Span} {part' : String} (h : s.slice source = .ok part)
    (h' : t.slice source = .ok part') (hmeet : s.stop = t.start) :
    (Span.mk s.start t.stop).slice source = .ok (part ++ part') := by
  obtain ⟨p, q, hpart, hstart, hstop⟩ := slice?_eq_some_iff.1 (slice_eq_ok_iff.1 h)
  obtain ⟨p', q', hpart', hstart', hstop'⟩ := slice?_eq_some_iff.1 (slice_eq_ok_iff.1 h')
  -- both cut the text at the offset where they meet, in one way only
  have hcut : (p ++ part).toList ++ q.toList = p'.toList ++ (part' ++ q').toList := by
    rw [← String.toList_append, ← String.toList_append, ← hpart, hpart', String.append_assoc]
  have hlength : byteLength (p ++ part).toList = byteLength p'.toList := by
    rw [byteLength_toList, byteLength_toList, hstop, hstart', hmeet]
  obtain ⟨hfront, -⟩ := append_inj_of_byteLength hcut hlength
  rw [String.toList_inj] at hfront
  subst hfront
  refine slice_eq_ok_iff.2 (slice?_eq_some_iff.2 ⟨p, q', ?_, hstart, ?_⟩)
  · rw [hpart', ← String.append_assoc]
  · rw [← String.append_assoc]
    exact hstop'

end

/-- **A span resolves exactly where it cuts the text**, to the part between its offsets; off that, the
error tells what is wrong with it. Parts of spans that meet are put together by the span around
them. -/
theorem slice_exact (source : String) (s : Span) :
    (∀ x, s.slice source = .ok x ↔
      ∃ p q, source = p ++ x ++ q ∧ p.utf8ByteSize = s.start ∧ (p ++ x).utf8ByteSize = s.stop) ∧
    (∀ e, s.slice source = .error e ↔ s.Faulty source e) ∧
    ∀ (t : Span) (x y : String), s.slice source = .ok x → t.slice source = .ok y →
      s.stop = t.start → (Span.mk s.start t.stop).slice source = .ok (x ++ y) :=
  ⟨fun _ => slice_eq_ok_iff.trans slice?_eq_some_iff, fun _ => slice_eq_error_iff,
    fun _ _ _ => slice_append⟩

/-- Both ends inside a character, and the start inside one while the end is past the text: the fault that
is told first is the one that comes first. -/
example : (Span.mk 1 3).slice "é😀" = .error (.offBoundary ⟨1, 3⟩) ∧
    (Span.mk 3 7).slice "é😀" = .error (.outOfBounds 6 ⟨3, 7⟩) ∧
    (Span.mk 9 3).slice "é😀" = .error (.reversed ⟨9, 3⟩) := by
  cbv

end Span

end LexFront
