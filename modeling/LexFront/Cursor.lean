import LexFront.Text.Bytes
import LexFront.Text.CharClass

/-! A cursor moves over a source text one character at a time. It keeps the byte offset of the
current character, the offset behind it, and the character itself. Reading the text at an offset
answers `none` where the offset does not cut the text, and so does every operation that reads;
`none` for the current character means the end of the text instead.

`Cursor.headroom` bounds the moves that are left. Loops over a cursor end because it falls. -/
namespace LexFront

/-- A place in a source text. -/
structure Cursor where
  source : String
  /-- The offset of the current character. -/
  position : Nat
  /-- The offset behind the current character; one past the end of the text at the end. -/
  nextPosition : Nat
  /-- The character at `position`, if there is one. -/
  current : Option Char
  deriving DecidableEq, Repr

namespace Cursor

/-- How far the cursor moves over a character, or would move over the end. -/
def stride : Option Char → Nat
  | some c => c.utf8Size
  | none => 1

/-- The cursor at an offset, on the character there. -/
def place (source : String) (position : Nat) (current : Option Char) : Cursor where
  source := source
  position := position
  nextPosition := position + stride current
  current := current

/-- The cursor on the first character of a source. -/
def start (source : String) : Cursor := place source 0 source.toList.head?

/-- The character behind the current one. -/
def peek (c : Cursor) : Option Char := (Text.charAt? c.source c.nextPosition).join

/-- Moves to the next character; stays at the end. -/
def advance? (c : Cursor) : Option Cursor :=
  if c.current.isNone then some c
  else (Text.charAt? c.source c.nextPosition).map (place c.source c.nextPosition)

/-- Moves over the current character if it is `x`, and says whether it was. -/
def eat? (c : Cursor) (x : Char) : Option (Bool × Cursor) :=
  if c.current = some x then c.advance?.map (true, ·) else some (false, c)

/-- The text from an offset up to the current character. -/
def sliceFrom? (c : Cursor) (start : Nat) : Option String :=
  Text.slice? c.source start c.position

/-! ## Moves that are left -/

/-- A bound on the moves that are left. -/
def headroom (c : Cursor) : Nat := c.source.utf8ByteSize + 1 - c.nextPosition

theorem stride_pos (c : Option Char) : 0 < stride c := by
  cases c with
  | none => exact Nat.one_pos
  | some c => exact c.utf8Size_pos

/-- A move off a character uses up headroom. -/
theorem headroom_lt_of_advance? {c d : Cursor} (h : c.advance? = some d)
    (hc : c.current.isSome) : d.headroom < c.headroom := by
  have hsome : c.current.isNone = false := by
    cases hcur : c.current <;> simp_all
  rw [advance?, hsome] at h
  simp only [Bool.false_eq_true, if_false] at h
  obtain ⟨x, hx, rfl⟩ := Option.map_eq_some_iff.1 h
  have hle := Text.le_of_charAt?_eq_some hx
  have hstride := stride_pos x
  simp only [headroom, place]
  omega

theorem headroom_le_of_advance? {c d : Cursor} (h : c.advance? = some d) :
    d.headroom ≤ c.headroom := by
  by_cases hc : c.current.isSome
  · exact Nat.le_of_lt (headroom_lt_of_advance? h hc)
  · have hnone : c.current.isNone = true := by simpa using hc
    rw [advance?, if_pos hnone] at h
    cases h
    exact Nat.le_refl _

theorem headroom_le_of_eat? {c d : Cursor} {x : Char} {found : Bool}
    (h : c.eat? x = some (found, d)) : d.headroom ≤ c.headroom := by
  rw [eat?] at h
  split at h
  · obtain ⟨e, he, heq⟩ := Option.map_eq_some_iff.1 h
    cases heq
    exact headroom_le_of_advance? he
  · cases h
    exact Nat.le_refl _

/-! ## Runs of characters -/

/-- Moves on as long as the test accepts the current character. The test is asked once for each
character and hands its state on to the next call. -/
def advanceWith? {σ : Type} (test : σ → Char → Bool × σ) (state : σ) (c : Cursor) :
    Option (σ × Cursor) :=
  match _hc : c.current with
  | none => some (state, c)
  | some x =>
    match test state x with
    | (false, state') => some (state', c)
    | (true, state') =>
      match _h : c.advance? with
      | none => none
      | some d => advanceWith? test state' d
termination_by c.headroom
decreasing_by exact headroom_lt_of_advance? _h (by simp [_hc])

/-- Moves on as long as the current character satisfies `p`. -/
def advanceWhile? (p : Char → Bool) (c : Cursor) : Option Cursor :=
  (c.advanceWith? (fun (_ : Unit) x => (p x, ())) ()).map Prod.snd

theorem headroom_le_of_advanceWith? {σ : Type} {test : σ → Char → Bool × σ} {state final : σ}
    {c d : Cursor} (h : c.advanceWith? test state = some (final, d)) :
    d.headroom ≤ c.headroom := by
  fun_induction advanceWith? test state c with
  | case1 => cases h; exact Nat.le_refl _
  | case2 => cases h; exact Nat.le_refl _
  | case3 => cases h
  | case4 state c x hc state' ht e he ih =>
    exact Nat.le_trans (ih h) (headroom_le_of_advance? he)

theorem headroom_le_of_advanceWhile? {p : Char → Bool} {c d : Cursor}
    (h : c.advanceWhile? p = some d) : d.headroom ≤ c.headroom := by
  obtain ⟨⟨u, e⟩, he, rfl⟩ := Option.map_eq_some_iff.1 h
  exact headroom_le_of_advanceWith? he

/-- A run that accepts its first character uses up headroom. -/
theorem headroom_lt_of_advanceWhile? {p : Char → Bool} {c d : Cursor} {x : Char}
    (h : c.advanceWhile? p = some d) (hc : c.current = some x) (hx : p x = true) :
    d.headroom < c.headroom := by
  obtain ⟨⟨u, e⟩, he, rfl⟩ := Option.map_eq_some_iff.1 h
  rw [advanceWith?] at he
  split at he
  · rename_i hnone
    rw [hc] at hnone
    cases hnone
  · rename_i y hy
    rw [hc] at hy
    cases hy
    simp only [hx] at he
    split at he
    · cases he
    · rename_i f hf
      exact Nat.lt_of_le_of_lt (headroom_le_of_advanceWith? he)
        (headroom_lt_of_advance? hf (by simp [hc]))

end Cursor

end LexFront
