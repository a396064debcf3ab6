import LexFront.Cursor.View

/-! Offsets into a source. The bytes in front of a part lead to it and to nothing else, and a source
can be indexed by a range of offsets exactly if both cut it, in order. -/
namespace LexFront.Text

/-- A range of offsets by which a text can be indexed. -/
structure IsRange (s : String) (i j : Nat) : Prop where
  ordered : i ≤ j
  within : j ≤ s.utf8ByteSize
  start_valid : String.Pos.Raw.IsValid s ⟨i⟩
  stop_valid : String.Pos.Raw.IsValid s ⟨j⟩

/-! ## Offsets of parts -/

section
variable {source : String} {p x q : List Char}

/-- The offset behind a part of a source cuts it. -/
theorem isValid_byteLength (h : source.toList = p ++ q) :
    String.Pos.Raw.IsValid source ⟨byteLength p⟩ := by
  rw [String.Pos.Raw.isValid_iff_exists_append]
  refine ⟨String.ofList p, String.ofList q, ?_, rfl⟩
  rw [← String.ofList_append, ← h, String.ofList_toList]

theorem exists_of_isValid {i : Nat} (h : String.Pos.Raw.IsValid source ⟨i⟩) :
    ∃ p q, source.toList = p ++ q ∧ byteLength p = i := by
  obtain ⟨s, t, rfl, hi⟩ := String.Pos.Raw.isValid_iff_exists_append.1 h
  refine ⟨s.toList, t.toList, String.toList_append, ?_⟩
  rw [byteLength, String.ofList_toList]
  exact (congrArg String.Pos.Raw.byteIdx hi).symm

theorem slice?_of_toList_eq (h : source.toList = p ++ (x ++ q)) :
    slice? source (byteLength p) (byteLength (p ++ x)) = some (String.ofList x) := by
  rw [← String.ofList_toList (s := source), h]
  exact slice?_byteLength p x q

theorem byteLength_toList : byteLength source.toList = source.utf8ByteSize := by
  rw [byteLength, String.ofList_toList]

theorem byteLength_pos_iff : 0 < byteLength q ↔ q ≠ [] := by
  cases q with
  | nil => simp
  | cons x q =>
    rw [byteLength_cons]
    have := x.utf8Size_pos
    simp
    omega

theorem eq_nil_of_byteLength_append_le {m : List Char} (h : byteLength (p ++ m) ≤ byteLength p) :
    m = [] := by
  rw [byteLength_append] at h
  cases m with
  | nil => rfl
  | cons x m =>
    have hpos : 0 < byteLength (x :: m) := byteLength_pos_iff.2 (List.cons_ne_nil x m)
    omega

/-- Of two cuts of a text the one at the smaller offset comes first. -/
theorem exists_eq_append_of_byteLength_le {p p' q q' : List Char} (h : p ++ q = p' ++ q')
    (hlength : byteLength p ≤ byteLength p') : ∃ m, p' = p ++ m ∧ q = m ++ q' := by
  rcases List.append_eq_append_iff.1 h with ⟨m, rfl, rfl⟩ | ⟨m, rfl, rfl⟩
  · exact ⟨m, rfl, rfl⟩
  · -- the second cut comes first, so nothing lies between them
    obtain rfl := eq_nil_of_byteLength_append_le hlength
    exact ⟨[], by simp, rfl⟩

/-- An offset cuts a text in one way only. -/
theorem append_inj_of_byteLength {p p' q q' : List Char} (h : p ++ q = p' ++ q')
    (hlength : byteLength p = byteLength p') : p = p' ∧ q = q' := by
  obtain ⟨m, rfl, rfl⟩ := exists_eq_append_of_byteLength_le h (Nat.le_of_eq hlength)
  obtain rfl := eq_nil_of_byteLength_append_le (Nat.le_of_eq hlength.symm)
  simp

end

/-! ## Ranges -/

section
variable {source : String} {p x q : List Char} {i j : Nat}

theorem isRange_byteLength (h : source.toList = p ++ (x ++ q)) :
    IsRange source (byteLength p) (byteLength (p ++ x)) := by
  have hsize : byteLength (p ++ x) + byteLength q = source.utf8ByteSize := by
    rw [← byteLength_append, List.append_assoc, ← h, byteLength_toList]
  refine ⟨?_, by omega, isValid_byteLength h, isValid_byteLength (q := q) ?_⟩
  · rw [byteLength_append]
    omega
  · rw [h, List.append_assoc]

theorem IsRange.exists_part (h : IsRange source i j) :
    ∃ p x q, source.toList = p ++ (x ++ q) ∧ byteLength p = i ∧ byteLength (p ++ x) = j := by
  obtain ⟨p, q, hp, rfl⟩ := exists_of_isValid h.start_valid
  obtain ⟨p', q', hp', rfl⟩ := exists_of_isValid h.stop_valid
  obtain ⟨x, rfl, rfl⟩ := exists_eq_append_of_byteLength_le (hp.symm.trans hp') h.ordered
  exact ⟨p, x, q', hp, rfl, rfl⟩

/-- **Slicing fails off ranges only.** -/
theorem isSome_slice?_iff : (slice? source i j).isSome ↔ IsRange source i j := by
  constructor
  · intro h
    obtain ⟨x, hx⟩ := Option.isSome_iff_exists.1 h
    obtain ⟨p, q, rfl, rfl, rfl⟩ := slice?_eq_some_iff.1 hx
    have hsource : (p ++ x ++ q).toList = p.toList ++ (x.toList ++ q.toList) := by
      simp only [String.toList_append, List.append_assoc]
    have hrange := isRange_byteLength hsource
    rwa [← String.toList_append, byteLength_toList, byteLength_toList] at hrange
  · intro h
    obtain ⟨p, x, q, hsource, rfl, rfl⟩ := h.exists_part
    rw [slice?_of_toList_eq hsource]
    rfl

/-- **Reading a character fails off ranges to the end only.** -/
theorem isSome_charAt?_iff :
    (charAt? source i).isSome ↔ IsRange source i source.utf8ByteSize := by
  constructor
  · intro h
    obtain ⟨x, hx⟩ := Option.isSome_iff_exists.1 h
    obtain ⟨p, q, rfl, rfl, -⟩ := charAt?_eq_some_iff.1 hx
    have hsource : (p ++ q).toList = p.toList ++ (q.toList ++ []) := by simp
    have hrange := isRange_byteLength hsource
    rwa [← String.toList_append, byteLength_toList, byteLength_toList] at hrange
  · intro h
    obtain ⟨p, q, hp, rfl⟩ := exists_of_isValid h.start_valid
    rw [← String.ofList_toList (s := source), hp, charAt?_byteLength]
    rfl

end

end LexFront.Text
