import LexFront.Cursor.View

/-! Accepted characters. A test is asked about characters one after the other and may remember what it was
asked before. `AcceptsUpTo` says by its answers alone which part of a text it accepts and where it stops;
a run of a cursor goes over that part. -/
namespace LexFront.Cursor

section
variable {σ : Type}

/-- Asked about some characters one after the other, the test accepts each of them. -/
inductive Accepts (test : σ → Char → Bool × σ) : σ → List Char → σ → Prop
  | nil (state : σ) : Accepts test state [] state
  | cons {state next final : σ} {x : Char} {m : List Char} (answer : test state x = (true, next))
      (rest : Accepts test next m final) : Accepts test state (x :: m) final

/-- **The test accepts a part and stops there**: nothing is left to ask about, or it rejects the next
character, which is the last it is asked about. -/
inductive AcceptsUpTo (test : σ → Char → Bool × σ) (state : σ) (m : List Char) :
    List Char → σ → Prop
  | atEnd {final : σ} (accepted : Accepts test state m final) : AcceptsUpTo test state m [] final
  | atRejected {next final : σ} {x : Char} {r : List Char} (accepted : Accepts test state m next)
      (answer : test next x = (false, final)) : AcceptsUpTo test state m (x :: r) final

variable {test : σ → Char → Bool × σ} {state next final : σ} {x : Char} {m n r : List Char}

/-! ## Accepted parts -/

/-- A part that is accepted behind another is accepted from where the other leaves the test. -/
theorem Accepts.of_append (h : Accepts test state m next) (h' : Accepts test state (m ++ n) final) :
    Accepts test next n final := by
  induction h with
  | nil => exact h'
  | cons answer _ ih =>
    cases h' with
    | cons answer' rest' =>
      rw [answer] at answer'
      cases answer'
      exact ih rest'

theorem AcceptsUpTo.cons (answer : test state x = (true, next))
    (h : AcceptsUpTo test next m r final) : AcceptsUpTo test state (x :: m) r final := by
  cases h with
  | atEnd accepted => exact .atEnd (.cons answer accepted)
  | atRejected accepted rejected => exact .atRejected (.cons answer accepted) rejected

theorem exists_acceptsUpTo (test : σ → Char → Bool × σ) (state : σ) (q : List Char) :
    ∃ m r final, q = m ++ r ∧ AcceptsUpTo test state m r final := by
  induction q generalizing state with
  | nil => exact ⟨[], [], state, rfl, .atEnd (.nil state)⟩
  | cons x q ih =>
    rcases answer : test state x with ⟨yes, next⟩
    cases yes with
    | false => exact ⟨[], x :: q, next, rfl, .atRejected (.nil state) answer⟩
    | true =>
      obtain ⟨m, r, final, rfl, h⟩ := ih next
      exact ⟨x :: m, r, final, rfl, h.cons answer⟩

/-- **Where a test stops is as far as it accepts**: what it accepts of the text lies in that part. -/
theorem AcceptsUpTo.prefix_of_accepts (h : AcceptsUpTo test state m r final)
    (hn : Accepts test state n next) (htext : n <+: m ++ r) : n <+: m := by
  rcases List.prefix_or_prefix_of_prefix htext (List.prefix_append m r) with hshort | ⟨k, rfl⟩
  · exact hshort
  · -- what is accepted beyond `m` would begin with the character at which the test stops
    rw [List.prefix_append_right_inj] at htext
    cases h with
    | atEnd =>
      obtain rfl := List.prefix_nil.1 htext
      simp
    | atRejected accepted rejected =>
      cases accepted.of_append hn with
      | nil => simp
      | cons answer _ =>
        obtain ⟨rfl, -⟩ := List.cons_prefix_cons.1 htext
        rw [rejected] at answer
        cases answer

/-! ## Runs -/

theorem Accepts.advanceWith?_between (h : Accepts test state m next) (p r : List Char) :
    (between p (m ++ r)).advanceWith? test state =
      (between (p ++ m) r).advanceWith? test next := by
  induction h generalizing p with
  | nil => rw [List.nil_append, List.append_nil]
  | @cons _ _ _ x m answer _ ih =>
    calc (between p (x :: m ++ r)).advanceWith? test _
      _ = (between (p ++ [x]) (m ++ r)).advanceWith? test _ := by
        rw [List.cons_append, advanceWith?_between_cons, answer, if_pos rfl]
      _ = (between (p ++ (x :: m)) r).advanceWith? test _ := by
        rw [ih, List.append_assoc, List.singleton_append]

/-- **A run goes up to where the test stops.** -/
theorem AcceptsUpTo.advanceWith?_between (h : AcceptsUpTo test state m r final) (p : List Char) :
    (between p (m ++ r)).advanceWith? test state = some (final, between (p ++ m) r) := by
  cases h with
  | atEnd accepted => rw [accepted.advanceWith?_between, advanceWith?_between_nil]
  | atRejected accepted rejected =>
    rw [accepted.advanceWith?_between, advanceWith?_between_cons, rejected, if_neg Bool.false_ne_true]

end

end LexFront.Cursor
