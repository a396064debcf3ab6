/-! Byte offsets into text. An offset counts bytes of the UTF-8 form, so it may fall past the end of
a text or inside a character; reading a text there answers `none`. `charAt?_eq_some_iff` and
`slice?_eq_some_iff` say which offsets cut a text, by the parts before and behind the cut. -/
namespace LexFront.Text

/-- The position at a byte offset, if the offset cuts the text. -/
def position? (s : String) (i : Nat) : Option s.Pos :=
  if h : String.Pos.Raw.isValid s ⟨i⟩ = true then
    some (s.pos ⟨i⟩ (String.Pos.Raw.isValid_eq_true_iff.1 h))
  else none

/-- The character behind a cut, if the offset cuts the text. The inner option is empty at the end
of the text. -/
def charAt? (s : String) (i : Nat) : Option (Option Char) := (position? s i).map String.Pos.get?

/-- The text between two offsets, if both cut the text and are in order. -/
def slice? (s : String) (start stop : Nat) : Option String := do
  let p ← position? s start
  let q ← position? s stop
  let part ← s.slice? p q
  return part.copy

/-! ## Cuts -/

theorem position?_eq_some_of_splits {s p q : String} {pos : s.Pos} (h : pos.Splits p q) :
    position? s p.utf8ByteSize = some pos := by
  have hoff : pos.offset = ⟨p.utf8ByteSize⟩ := h.offset_eq_rawEndPos
  have hvalid : String.Pos.Raw.isValid s ⟨p.utf8ByteSize⟩ = true := by
    rw [String.Pos.Raw.isValid_eq_true_iff, ← hoff]
    exact pos.isValid
  rw [position?, dif_pos hvalid]
  congr 1
  exact String.Pos.ext hoff.symm

theorem splits_of_position?_eq_some {s : String} {i : Nat} {pos : s.Pos}
    (h : position? s i = some pos) : ∃ p q, pos.Splits p q ∧ p.utf8ByteSize = i := by
  unfold position? at h
  split at h
  · cases h
    refine ⟨_, _, String.Pos.splits _, ?_⟩
    exact congrArg String.Pos.Raw.byteIdx (String.Pos.splits _).offset_eq_rawEndPos.symm
  · cases h

theorem get?_of_splits {s p q : String} {pos : s.Pos} (h : pos.Splits p q) :
    pos.get? = q.toList.head? := by
  by_cases hend : pos = s.endPos
  · have hq : q = "" := (h.eq_endPos_iff).1 hend
    subst hq
    simp [String.Pos.get?, String.Slice.Pos.get?, hend]
  · obtain ⟨r, hr⟩ := h.exists_eq_singleton_append hend
    have hget : pos.get? = some (pos.get hend) := by
      simp [String.Pos.get?, String.Slice.Pos.get?, hend]
    rw [hget, hr]
    simp

/-- Reading between two parts gives the first character of the second. -/
@[simp] theorem charAt?_append (p q : String) :
    charAt? (p ++ q) p.utf8ByteSize = some q.toList.head? := by
  have h := @String.Pos.splits_ofEqAppend (p ++ q) p q rfl
  rw [charAt?, position?_eq_some_of_splits h, Option.map_some, get?_of_splits h]

/-- An offset can be read exactly where it cuts the text in two. -/
theorem charAt?_eq_some_iff {s : String} {i : Nat} {x : Option Char} :
    charAt? s i = some x ↔
      ∃ p q, s = p ++ q ∧ p.utf8ByteSize = i ∧ q.toList.head? = x := by
  constructor
  · intro h
    obtain ⟨pos, hpos, hx⟩ := Option.map_eq_some_iff.1 h
    obtain ⟨p, q, hsplits, hi⟩ := splits_of_position?_eq_some hpos
    exact ⟨p, q, hsplits.eq_append, hi, by rw [← hx, get?_of_splits hsplits]⟩
  · rintro ⟨p, q, rfl, rfl, rfl⟩
    exact charAt?_append p q

/-- A slice is the middle of a text cut in three. -/
theorem slice?_eq_some_iff {s x : String} {start stop : Nat} :
    slice? s start stop = some x ↔
      ∃ p q, s = p ++ x ++ q ∧ p.utf8ByteSize = start ∧ (p ++ x).utf8ByteSize = stop := by
  constructor
  · intro h
    obtain ⟨a, ha, h⟩ := Option.bind_eq_some_iff.1 h
    obtain ⟨b, hb, h⟩ := Option.bind_eq_some_iff.1 h
    obtain ⟨part, hpart, h⟩ := Option.bind_eq_some_iff.1 h
    unfold String.slice? at hpart
    split at hpart
    · rename_i hle
      cases hpart
      cases h
      obtain ⟨t, u, ht, hu⟩ := String.copy_slice_eq_iff_splits.1 ⟨hle, rfl⟩
      obtain ⟨p, q, hp, rfl⟩ := splits_of_position?_eq_some ha
      obtain ⟨p', q', hp', rfl⟩ := splits_of_position?_eq_some hb
      refine ⟨t, u, hu.eq_append, ?_, ?_⟩
      · rw [ht.eq_left hp]
      · rw [hu.eq_left hp']
    · cases hpart
  · rintro ⟨p, q, rfl, rfl, rfl⟩
    have ha := @String.Pos.splits_ofEqAppend (p ++ x ++ q) p (x ++ q) String.append_assoc
    have hb := @String.Pos.splits_ofEqAppend (p ++ x ++ q) (p ++ x) q rfl
    obtain ⟨hle, hcopy⟩ := String.copy_slice_eq_iff_splits.2 ⟨p, q, ha, hb⟩
    rw [slice?, position?_eq_some_of_splits ha, position?_eq_some_of_splits hb]
    simp only [String.slice?, hle, dif_pos, Option.bind_eq_bind, Option.bind_some, hcopy,
      Option.pure_def]

theorem le_of_charAt?_eq_some {s : String} {i : Nat} {x : Option Char}
    (h : charAt? s i = some x) : i ≤ s.utf8ByteSize := by
  obtain ⟨p, q, rfl, rfl, _⟩ := charAt?_eq_some_iff.1 h
  rw [String.utf8ByteSize_append]
  omega

end LexFront.Text
