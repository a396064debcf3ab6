import LexFront.Proofs.Cursor.Accepted
import LexFront.Proofs.Text.Offset

/-! Where moves lead. `Cursor.Reaches` holds of the cursors that a cursor becomes by moves of any kind.
From a place that cuts the source they lead to places further on that cut it too, so that whatever
is read on the way is there. -/
namespace LexFront.Cursor
open Text

/-- The cursors that moves lead to: single moves, moves over an expected character, and runs of
characters that a test accepts, whatever the test remembers. -/
inductive Reaches (c : Cursor) : Cursor → Prop
  | refl : Reaches c c
  | advance {d e : Cursor} (before : Reaches c d) (move : d.advance? = some e) : Reaches c e
  | eat {d e : Cursor} {x : Char} {found : Bool} (before : Reaches c d)
      (move : d.eat? x = some (found, e)) : Reaches c e
  | pass {d e : Cursor} {σ : Type} {test : σ → Char → Bool × σ} {state final : σ}
      (before : Reaches c d) (move : d.advanceWith? test state = some (final, e)) : Reaches c e

/-- The text from the cursor to the end of its source. -/
def rest? (c : Cursor) : Option String := slice? c.source c.position c.source.utf8ByteSize

theorem Reaches.trans {c d e : Cursor} (h : c.Reaches d) (h' : d.Reaches e) : c.Reaches e := by
  induction h' with
  | refl => exact h
  | advance _ move ih => exact .advance ih move
  | eat _ move ih => exact .eat ih move
  | pass _ move ih => exact .pass ih move

/-! ## Failing moves -/

theorem isSome_advance?_iff {c : Cursor} (hc : c.current.isSome) :
    c.advance?.isSome ↔ IsRange c.source c.nextPosition c.source.utf8ByteSize := by
  have hsome : ¬ c.current.isNone = true := by simpa using Option.isSome_iff_ne_none.1 hc
  rw [advance?, if_neg hsome, Option.isSome_map, isSome_charAt?_iff]

theorem isSome_sliceFrom?_iff {c : Cursor} {i : Nat} :
    (c.sliceFrom? i).isSome ↔ IsRange c.source i c.position :=
  isSome_slice?_iff

/-! ## Places that cut the source -/

section
variable {p q m r : List Char} {d e : Cursor}

@[simp] theorem rest?_between : (between p q).rest? = some (String.ofList q) := by
  have h := slice?_byteLength p q []
  rw [List.append_nil] at h
  exact h

theorem exists_advanceWith?_between {σ : Type} (test : σ → Char → Bool × σ) (state : σ)
    (p q : List Char) : ∃ final m r, q = m ++ r ∧
      (between p q).advanceWith? test state = some (final, between (p ++ m) r) := by
  obtain ⟨m, r, final, rfl, h⟩ := exists_acceptsUpTo test state q
  exact ⟨final, m, r, rfl, h.advanceWith?_between p⟩

/-- **Moves lead on**: whatever moves are made from a place that cuts the source, they end behind some
more characters. -/
theorem Reaches.exists_between (h : (between p q).Reaches d) :
    ∃ m r, q = m ++ r ∧ d = between (p ++ m) r := by
  -- on the moves: each takes some characters, or none, off the front of what is left
  induction h with
  | refl => exact ⟨[], q, rfl, by simp⟩
  | advance _ move ih =>
    obtain ⟨m, r, rfl, rfl⟩ := ih
    cases r with
    | nil =>
      cases move
      exact ⟨m, [], rfl, rfl⟩
    | cons x r =>
      rw [advance?_between_cons] at move
      cases move
      exact ⟨m ++ [x], r, by simp, by simp⟩
  | @eat _ _ y _ _ move ih =>
    obtain ⟨m, r, rfl, rfl⟩ := ih
    cases r with
    | nil =>
      cases move
      exact ⟨m, [], rfl, rfl⟩
    | cons x r =>
      rw [eat?_between_cons] at move
      split at move
      · cases move
        exact ⟨m ++ [x], r, by simp, by simp⟩
      · cases move
        exact ⟨m, x :: r, rfl, rfl⟩
  | @pass _ _ _ test state _ _ move ih =>
    obtain ⟨m, r, rfl, rfl⟩ := ih
    obtain ⟨_, n, r, rfl, hrun⟩ := exists_advanceWith?_between test state (p ++ m) r
    rw [hrun] at move
    cases move
    exact ⟨m ++ n, r, by simp, by simp⟩

theorem reaches_between (p m r : List Char) :
    (between p (m ++ r)).Reaches (between (p ++ m) r) := by
  induction m generalizing p with
  | nil =>
    rw [List.append_nil]
    exact .refl
  | cons x m ih =>
    have hmove : (between p (x :: m ++ r)).Reaches (between (p ++ [x]) (m ++ r)) :=
      .advance .refl (advance?_between_cons p (m ++ r) x)
    have hrest := ih (p ++ [x])
    rw [List.append_assoc, List.singleton_append] at hrest
    exact hmove.trans hrest

theorem Reaches.source_eq (h : (between p q).Reaches d) : d.source = String.ofList (p ++ q) := by
  obtain ⟨m, r, rfl, rfl⟩ := h.exists_between
  rw [source_between, List.append_assoc]

/-- Behind a character that moves have led to, the source can be indexed. -/
theorem Reaches.isRange_next (h : (between p q).Reaches d) (hd : d.current.isSome) :
    IsRange (String.ofList (p ++ q)) d.nextPosition (String.ofList (p ++ q)).utf8ByteSize := by
  obtain ⟨m, r, rfl, rfl⟩ := h.exists_between
  cases r with
  | nil => cases hd
  | cons x r =>
    rw [← h.source_eq, ← isSome_advance?_iff hd, advance?_between_cons]
    rfl

/-- Between two places that moves have led to, one after the other, the source can be indexed. -/
theorem Reaches.isRange_position (h : (between p q).Reaches d) (h' : d.Reaches e) :
    IsRange (String.ofList (p ++ q)) d.position e.position := by
  obtain ⟨m, r, rfl, rfl⟩ := h.exists_between
  obtain ⟨n, r, rfl, rfl⟩ := h'.exists_between
  apply isRange_byteLength (q := r)
  simp

end

end LexFront.Cursor
