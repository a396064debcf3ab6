import LexFront.Proofs.Scanner.Reachable
import Mathlib.Algebra.GroupWithZero.Nat

/-! Scanners that report to one handler do not disturb each other. What each of them answers is what
it answers in a session of its own, and the handler they share holds a merge of the reports that
their own handlers hold, at every point of the session. -/
namespace LexFront

/-- What concerns one of several scanners, in order: the members that are marked with its index. -/
def share {α : Type} (i : Nat) (xs : List (Nat × α)) : List α :=
  (xs.filter (·.1 = i)).map Prod.snd

/-- A list merged from others: each member can be said to come from one of them, so that what comes
from each is all of it, in order. -/
def IsMerge {α : Type} (parts : List (List α)) (xs : List α) : Prop :=
  ∃ told : List (Nat × α), told.map Prod.snd = xs ∧ (∀ e ∈ told, e.1 < parts.length) ∧
    ∀ i part, parts[i]? = some part → share i told = part

section
variable {α : Type} {i j n : Nat} {xs ys : List (Nat × α)}

theorem share_cons (e : Nat × α) :
    share i (e :: xs) = if e.1 = i then e.2 :: share i xs else share i xs := by
  by_cases h : e.1 = i <;> simp [share, h]

theorem countP_lt_succ :
    xs.countP (·.1 < n + 1) = xs.countP (·.1 < n) + (share n xs).length := by
  induction xs with
  | nil => rfl
  | cons e xs ih =>
    simp only [List.countP_cons, share_cons, decide_eq_true_eq, ih]
    by_cases heq : e.1 = n
    · simp [heq]
      omega
    · have hlt : e.1 < n + 1 ↔ e.1 < n := by omega
      simp [heq, hlt]
      omega

theorem countP_lt_eq_sum_share (n : Nat) :
    xs.countP (·.1 < n) = ((List.range n).map fun i => (share i xs).length).sum := by
  induction n with
  | zero => simp
  | succ n ih =>
    rw [countP_lt_succ, ih, List.range_succ, List.map_append, List.sum_append]
    simp

/-- A list is as long as the shares of all scanners together. -/
theorem length_eq_sum_share (h : ∀ e ∈ xs, e.1 < n) :
    xs.length = ((List.range n).map fun i => (share i xs).length).sum := by
  have hall : xs.countP (·.1 < n) = xs.length := by
    rw [List.countP_eq_length]
    simpa using h
  rw [← hall, countP_lt_eq_sum_share]

theorem IsMerge.length_eq {parts : List (List α)} {as : List α} (h : IsMerge parts as) :
    as.length = (parts.map List.length).sum := by
  obtain ⟨told, rfl, hbound, hparts⟩ := h
  have heq : parts = (List.range parts.length).map (share · told) := by
    apply List.ext_getElem?
    intro i
    by_cases hi : i < parts.length
    · rw [List.getElem?_map, List.getElem?_range hi, List.getElem?_eq_getElem hi, Option.map_some,
        hparts i parts[i] (List.getElem?_eq_getElem hi)]
    · simp [hi]
  calc (told.map Prod.snd).length
    _ = told.length := List.length_map _
    _ = ((List.range parts.length).map fun i => (share i told).length).sum :=
      length_eq_sum_share hbound
    _ = (((List.range parts.length).map (share · told)).map List.length).sum := by
      rw [List.map_map]
      rfl
    _ = (parts.map List.length).sum := by rw [← heq]

end

namespace Session

/-- A session of one of the scanners, with a handler of its own. -/
def only (s : Session) (i : Nat) (h : Handler) : Session := ⟨s.scanners[i]?.toList, h⟩

/-- **What it is to work apart**: in a session of fresh scanners that were given some commands,
`alone` are the sessions that they have each on its own, given its own commands. The answers are
those given there, the handler holds a merge of what was reported there, and counts them all. -/
structure Apart (fresh : List Scanner) (cs : List (Nat × Command)) (answers : List (Answer × Nat))
    (t : Session) (alone : List Session) : Prop where
  run : (start fresh).run? cs = some (answers, t)
  answered : answers.length = cs.length
  length_alone : alone.length = fresh.length
  run_alone : ∀ i s, fresh[i]? = some s → ∃ own u, alone[i]? = some u ∧
    (start [s]).run? ((share i cs).map (0, ·)) = some (own, u) ∧
    own.map Prod.fst = share i ((cs.map Prod.fst).zip (answers.map Prod.fst))
  merged : IsMerge (alone.map (·.handler.diagnostics)) t.handler.diagnostics
  count_eq : t.handler.errorCount = (alone.map (·.handler.errorCount)).sum

section
variable {s t u : Session} {i j : Nat} {c : Command} {a : Answer} {cs ds : List (Nat × Command)}
  {answers answers' : List (Answer × Nat)}

theorem run?_append (h : s.run? cs = some (answers, t)) (h' : t.run? ds = some (answers', u)) :
    s.run? (cs ++ ds) = some (answers ++ answers', u) := by
  induction cs generalizing s answers with
  | nil =>
    cases h
    exact h'
  | cons c cs ih =>
    obtain ⟨⟨a, v⟩, hstep, h⟩ := Option.bind_eq_some_iff.1 h
    obtain ⟨⟨as, w⟩, hrun, h⟩ := Option.bind_eq_some_iff.1 h
    cases h
    simp only [List.cons_append, run?, hstep, Option.bind_eq_bind, Option.bind_some, ih hrun]
    rfl

end

end Session

end LexFront
