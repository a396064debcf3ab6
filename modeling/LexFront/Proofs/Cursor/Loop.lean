import LexFront.Proofs.Cursor.Reach
import LexFront.Scanner.Basic

/-! Loops, told turn by turn. `EndsIn body n a b` holds when the loop with a body, entered in the state
`a`, comes to an end with `b` and goes on `n` times before. It asks for that many turns one by one,
so a loop without an end has none. The runs of a cursor and the search for the end of a block are
such loops, and make at most as many turns as there are characters left. -/
namespace LexFront

/-- What a turn of a loop comes to: one more turn, or the end. -/
inductive Turn (α β : Type) where
  | again (state : α)
  | leave (result : β)

/-- Goes on with `f` unless a turn was the last. -/
def Turn.follow {α β : Type} (f : α → Option β) : Turn α β → Option β
  | .again a => f a
  | .leave b => some b

/-- The loop with a body comes to an end, behind `n` turns that go on. A body without an answer has
come upon an offset that does not cut the text; the loop has no end then. -/
inductive EndsIn {α β : Type} (body : α → Option (Turn α β)) : Nat → α → β → Prop
  | leave {a : α} {b : β} (turn : body a = some (.leave b)) : EndsIn body 0 a b
  | again {n : Nat} {a a' : α} {b : β} (turn : body a = some (.again a'))
      (rest : EndsIn body n a' b) : EndsIn body (n + 1) a b

/-- A function that follows the turns of a loop yields what the loop ends with. -/
theorem EndsIn.eq_some {α β : Type} {body : α → Option (Turn α β)} {f : α → Option β} {n : Nat}
    {a : α} {b : β} (h : EndsIn body n a b) (hf : ∀ a, f a = (body a).bind (Turn.follow f)) :
    f a = some b := by
  induction h with
  | leave turn =>
    rw [hf, turn]
    rfl
  | again turn _ ih =>
    rw [hf, turn]
    exact ih

namespace Cursor

section
variable {σ : Type} (test : σ → Char → Bool × σ)

/-- One turn of a run of characters. -/
def passTurn : σ × Cursor → Option (Turn (σ × Cursor) (σ × Cursor))
  | (state, c) =>
    match c.current with
    | none => some (.leave (state, c))
    | some x =>
      if (test state x).1 then c.advance?.map fun d => .again ((test state x).2, d)
      else some (.leave ((test state x).2, c))

theorem advanceWith?_eq_follow (state : σ) (c : Cursor) :
    c.advanceWith? test state =
      (passTurn test (state, c)).bind (Turn.follow fun a => a.2.advanceWith? test a.1) := by
  rw [advanceWith?]
  split
  · rename_i hc
    simp only [passTurn, hc]
    rfl
  · rename_i x hc
    split
    · rename_i hx
      simp only [passTurn, hc, hx]
      rfl
    · rename_i hx
      simp only [passTurn, hc, hx, if_true]
      split
      · rename_i hadvance
        rw [hadvance]
        rfl
      · rename_i d hadvance
        rw [hadvance]
        rfl

/-- **A run ends** within as many turns as there are characters left. -/
theorem exists_endsIn_pass (state : σ) (p q : List Char) :
    ∃ n out, n ≤ q.length ∧ EndsIn (passTurn test) n (state, between p q) out ∧
      (between p q).advanceWith? test state = some out := by
  obtain ⟨n, out, hn, hends⟩ : ∃ n out, n ≤ q.length ∧
      EndsIn (passTurn test) n (state, between p q) out := by
    induction q generalizing p state with
    | nil => exact ⟨0, _, Nat.le_refl _, .leave rfl⟩
    | cons x q ih =>
      by_cases hx : (test state x).1
      · obtain ⟨n, out, hn, hends⟩ := ih (test state x).2 (p ++ [x])
        refine ⟨n + 1, out, Nat.succ_le_succ hn, .again ?_ hends⟩
        simp [passTurn, hx]
      · refine ⟨0, _, Nat.zero_le _, .leave (b := ((test state x).2, between p (x :: q))) ?_⟩
        simp [passTurn, hx]
  exact ⟨n, out, hn, hends, hends.eq_some fun a => advanceWith?_eq_follow test a.1 a.2⟩

end

end Cursor

namespace Scanner
open Cursor

/-- One turn of the search for the end of a block. -/
def blockTurn (c : Cursor) : Option (Turn Cursor (Bool × Cursor)) :=
  match c.current with
  | none => some (.leave (false, c))
  | some x =>
    c.advance?.bind fun d =>
      if x = '*' ∧ c.peek = some '-' then d.advance?.map fun e => .leave (true, e)
      else some (.again d)

theorem skipBlock?_eq_follow (c : Cursor) :
    skipBlock? c = (blockTurn c).bind (Turn.follow skipBlock?) := by
  rw [skipBlock?, blockTurn]
  split
  · rename_i hc
    simp only [hc]
    rfl
  · rename_i x hc
    simp only [hc]
    split
    · rename_i hadvance
      rw [hadvance]
      rfl
    · rename_i d hadvance
      rw [hadvance, Option.bind_some]
      split
      · cases d.advance? <;> rfl
      · rfl

/-- **The search for the end of a block ends** within as many turns as there are characters left. -/
theorem exists_endsIn_block (p q : List Char) :
    ∃ n out, n ≤ q.length ∧ EndsIn blockTurn n (between p q) out ∧
      skipBlock? (between p q) = some out := by
  obtain ⟨n, out, hn, hends⟩ : ∃ n out, n ≤ q.length ∧
      EndsIn blockTurn n (between p q) out := by
    induction q generalizing p with
    | nil => exact ⟨0, _, Nat.le_refl _, .leave rfl⟩
    | cons x q ih =>
      by_cases hx : x = '*' ∧ q.head? = some '-'
      · obtain ⟨rfl, hq⟩ := hx
        obtain ⟨t, rfl⟩ := List.head?_eq_some_iff.1 hq
        exact ⟨0, (true, between (p ++ ['*'] ++ ['-']) t), Nat.zero_le _, .leave (by simp [blockTurn])⟩
      · obtain ⟨n, out, hn, hends⟩ := ih (p ++ [x])
        refine ⟨n + 1, out, Nat.succ_le_succ hn, .again ?_ hends⟩
        simp [blockTurn, hx]
  exact ⟨n, out, hn, hends, hends.eq_some skipBlock?_eq_follow⟩

end Scanner

end LexFront
