import LexFront.Proofs.Cursor.Representation

/-! Maximal runs. A run of a cursor takes the longest part that its test accepts. How often it asks is told
by a test that takes the questions down. -/
namespace LexFront.Cursor
open Text

section
variable {σ : Type}

/-- The test that answers alike and takes down the characters it is asked about, in order. -/
def noting (test : σ → Char → Bool × σ) (memory : σ × List Char) (x : Char) :
    Bool × (σ × List Char) :=
  ((test memory.1 x).1, ((test memory.1 x).2, memory.2 ++ [x]))

variable {test : σ → Char → Bool × σ} {state next final : σ} {x : Char} {m r : List Char}

theorem noting_eq {yes : Bool} (asked : List Char) (h : test state x = (yes, next)) :
    noting test (state, asked) x = (yes, (next, asked ++ [x])) := by
  rw [noting, h]

theorem Accepts.noting (h : Accepts test state m final) (asked : List Char) :
    Accepts (noting test) (state, asked) m (final, asked ++ m) := by
  induction h generalizing asked with
  | nil =>
    rw [List.append_nil]
    exact .nil _
  | @cons _ _ _ x _ answer _ ih =>
    have hrest := ih (asked ++ [x])
    rw [List.append_assoc, List.singleton_append] at hrest
    exact .cons (noting_eq asked answer) hrest

/-- Taking the questions down changes nothing. They are the accepted characters and the rejected one. -/
theorem AcceptsUpTo.noting (h : AcceptsUpTo test state m r final) :
    AcceptsUpTo (noting test) (state, []) m r (final, m ++ r.head?.toList) := by
  cases h with
  | atEnd accepted =>
    have hnoting := accepted.noting []
    exact .atEnd (by simpa using hnoting)
  | atRejected accepted rejected =>
    exact .atRejected (accepted.noting []) (noting_eq _ rejected)

end

/-- **A run takes the longest part that its test accepts**, from any cursor that a program comes to hold
and for any test, whatever it remembers. Behind the run the cursor stands on the first rejected character
or at the end, and what is sliced from the old place are the accepted characters. The test is asked about
these and the rejected one, if there is one, in order and once each. For a test that remembers nothing, the
part ends at the first character that does not satisfy it. -/
theorem Held.run_maximal {source : String} {cs : List Cursor} {c : Cursor} (h : Held source cs)
    (hc : c ∈ cs) :
    ∃ p q, Shows source p q c ∧
      (∀ (σ : Type) (test : σ → Char → Bool × σ) (state : σ), ∃ m r final d asked,
        q = m ++ r ∧ AcceptsUpTo test state m r final ∧
        (∀ n next, n <+: q → Accepts test state n next → n <+: m) ∧
        c.advanceWith? test state = some (final, d) ∧
        Shows source (p ++ m) r d ∧
        d.sliceFrom? c.position = some (String.ofList m) ∧
        c.advanceWith? (noting test) (state, []) = some ((final, asked), d) ∧
        asked = m ++ r.head?.toList ∧ asked <+: q ∧
        asked.length = m.length + if r = [] then 0 else 1) ∧
      ∀ accepts : Char → Bool, ∃ d, c.advanceWhile? accepts = some d ∧
        Shows source (p ++ q.takeWhile accepts) (q.dropWhile accepts) d ∧
        d.sliceFrom? c.position = some (String.ofList (q.takeWhile accepts)) := by
  obtain ⟨p, q, hcut, rfl⟩ := h.exists_between hc
  have hshows : ∀ m r, q = m ++ r → Shows source (p ++ m) r (between (p ++ m) r) := by
    intro m r hq
    apply shows_between
    rw [hcut, hq, List.append_assoc]
  refine ⟨p, q, shows_between hcut, ?_, ?_⟩
  · intro σ test state
    obtain ⟨m, r, final, rfl, hstop⟩ := exists_acceptsUpTo test state q
    refine ⟨m, r, final, between (p ++ m) r, _, rfl, hstop, ?_, hstop.advanceWith?_between p,
      hshows m r rfl, sliceFrom?_between p m r, hstop.noting.advanceWith?_between p, rfl, ?_, ?_⟩
    · intro n next hn haccepts
      exact hstop.prefix_of_accepts haccepts hn
    · rw [List.prefix_append_right_inj]
      cases r with
      | nil => exact List.prefix_rfl
      | cons x r => exact ⟨r, rfl⟩
    · cases r with
      | nil => simp
      | cons x r => simp
  · intro accepts
    refine ⟨_, advanceWhile?_between accepts p q, ?_, sliceFrom?_between p _ _⟩
    exact hshows _ _ List.takeWhile_append_dropWhile.symm

/-- The second of two like characters is rejected, by a test that counts. It is asked about both. -/
theorem Held.run_maximal_counted :
    ∃ c d, Held "é--x" [c] ∧ c ∈ [c] ∧ c.position = 2 ∧
      c.advanceWith? (noting (countingTest 1)) (0, []) = some ((2, ['-', '-']), d) ∧
      d.current = some '-' ∧ d.sliceFrom? 2 = some "-" := by
  have hheld : Held "é--x" [between ['é'] ['-', '-', 'x']] := by
    have hstart : Held "é--x" [between [] ['é', '-', '-', 'x']] := .fresh
    exact hstart.move (i := 0) rfl (.advance .refl (by simp))
  have hrun : (between ['é'] ['-', '-', 'x']).advanceWith? (noting (countingTest 1)) (0, []) =
      some ((2, ['-', '-']), between ['é', '-'] ['-', 'x']) := by
    simp [advanceWith?_between_cons, noting, countingTest]
  have hmem : between ['é'] ['-', '-', 'x'] ∈ [between ['é'] ['-', '-', 'x']] :=
    List.mem_singleton.2 rfl
  obtain ⟨p, q, hshows, hmaximal, -⟩ := hheld.run_maximal hmem
  obtain ⟨m, r, final, d, asked, rfl, -, -, -, hbehind, hslice, hasked, -⟩ :=
    hmaximal Nat (countingTest 1) 0
  rw [hrun] at hasked
  cases hasked
  -- the offsets in front of and behind the run leave it the first of the two characters
  obtain ⟨rfl, -⟩ : p = ['é'] ∧ _ :=
    append_inj_of_byteLength hshows.cut.symm hshows.position.symm
  obtain ⟨hm, -⟩ : ['é', '-'] = ['é'] ++ m ∧ _ :=
    append_inj_of_byteLength hbehind.cut hbehind.position
  obtain rfl : ['-'] = m := (List.cons.inj hm).2
  exact ⟨_, _, hheld, hmem, rfl, hrun, rfl, hslice⟩

end LexFront.Cursor
