import LexFront.Proofs.Lexeme
import LexFront.Scanner.Basic

/-! Symbols by their first character. The scanner finds a symbol through two tables and three
routines of its own; the rules only speak of the longest spelling. `SpelledFrom x ms` lists all
spellings with a given first character, which is all that the two have to agree on. -/
namespace LexFront
open Text

/-- Each spelling that starts with `x` is one of `ms`. -/
def SpelledFrom (x : Char) (ms : List (List Char)) : Prop :=
  ∀ m, IsSpelling m → m.head? = some x → m ∈ ms

/-- The first characters of symbols. -/
def symbolLeads : List Char :=
  Scanner.loneSymbols.map Prod.fst ++ Scanner.equalSymbols.map Prod.fst ++ ['-', '.', '~']

/-- A property of all spellings can be checked kind by kind. -/
private theorem forall_isSpelling {P : List Char → Prop}
    (h : ∀ k ∈ TokenKind.all, ∀ m, k.spelling? = some m → P m) : ∀ m, IsSpelling m → P m := by
  rintro m ⟨k, hk⟩
  exact h k (TokenKind.mem_all k) m hk

/-- A symbol starts with a character that starts no string, word or number. -/
theorem IsSpelling.lead {m : List Char} (h : IsSpelling m) :
    ∃ x ∈ m.head?, x ∈ symbolLeads ∧ x ≠ '"' ∧ isIdentStart x = false ∧ isDigit x = false := by
  have hall : ∀ m, IsSpelling m → m.head?.any (fun x => x ∈ symbolLeads ∧ x ≠ '"' ∧
      isIdentStart x = false ∧ isDigit x = false) = true := forall_isSpelling (by decide)
  obtain ⟨x, hx, hlead⟩ := (Option.any_eq_true _ _).1 (hall m h)
  exact ⟨x, hx, of_decide_eq_true hlead⟩

theorem IsSpelling.ne_nil {m : List Char} (h : IsSpelling m) : m ≠ [] := by
  obtain ⟨x, hx, _⟩ := h.lead
  rintro rfl
  cases hx

theorem IsSpelling.head?_eq {x : Char} {m q : List Char} (h : IsSpelling m) (hm : m <+: x :: q) :
    m.head? = some x := by
  obtain ⟨t, ht⟩ := hm
  cases m with
  | nil => exact absurd rfl h.ne_nil
  | cons y m => rw [(List.cons.inj ht).1, List.head?_cons]

theorem IsSpelling.isBlank_eq_false {m : List Char} (h : IsSpelling m) :
    ∀ c ∈ m, isBlank c = false := by
  have hall : ∀ m, IsSpelling m → m.all (!isBlank ·) = true := forall_isSpelling (by decide)
  simpa using hall m h

theorem IsSpelling.not_comment {m : List Char} (h : IsSpelling m) :
    ¬ ['-', '-'] <+: m ∧ ¬ ['-', '*'] <+: m := by
  refine forall_isSpelling (P := fun m => ¬ ['-', '-'] <+: m ∧ ¬ ['-', '*'] <+: m) ?_ m h
  decide

/-- The three points are the only symbol of more than two characters. -/
theorem IsSpelling.length_le_two_or {m : List Char} (h : IsSpelling m) :
    m.length ≤ 2 ∨ m = ['.', '.', '.'] := by
  refine forall_isSpelling (P := fun m => m.length ≤ 2 ∨ m = ['.', '.', '.']) ?_ m h
  decide

theorem IsSpelling.take {m : List Char} {i : Nat} (h : IsSpelling m) (hi : 2 ≤ i) :
    IsSpelling (m.take i) := by
  rcases h.length_le_two_or with hlength | rfl
  · rwa [List.take_of_length_le (Nat.le_trans hlength hi)]
  · by_cases htwo : i = 2
    · subst htwo
      exact ⟨.operator .concat, rfl⟩
    · rwa [List.take_of_length_le (by simp only [List.length_cons, List.length_nil]; omega)]

/-- The tilde is the one first character of symbols that is no symbol alone. -/
theorem isSpelling_singleton_iff {x : Char} (hx : x ∈ symbolLeads) :
    IsSpelling [x] ↔ x ≠ '~' := by
  constructor
  · rintro h rfl
    refine forall_isSpelling (P := (· ≠ ['~'])) ?_ ['~'] h rfl
    decide
  · intro hne
    have hall : symbolLeads.all (fun x => x = '~' ∨ ∃ k ∈ TokenKind.all, k.spelling? = some [x]) =
        true := by decide
    obtain ⟨k, _, hk⟩ := (of_decide_eq_true (List.all_eq_true.1 hall x hx)).resolve_left hne
    exact ⟨k, hk⟩

theorem TokenKind.spelling?_inj {k k' : TokenKind} {m : List Char} (h : k.spelling? = some m)
    (h' : k'.spelling? = some m) : k = k' := by
  have hall : ∀ k ∈ TokenKind.all, ∀ m, k.spelling? = some m →
      ∀ k' ∈ TokenKind.all, k'.spelling? = some m → k = k' := by decide +kernel
  exact hall k (mem_all k) m h k' (mem_all k') h'

theorem spelledFrom_nil {x : Char} (hx : x ∉ symbolLeads) : SpelledFrom x [] := by
  intro m hm hhead
  obtain ⟨y, hy, hlead, _⟩ := hm.lead
  rw [Option.mem_def, hhead] at hy
  cases hy
  exact absurd hlead hx

theorem mem_of_lookup {α β : Type} [BEq α] [LawfulBEq α] {a : α} {b : β} {l : List (α × β)}
    (h : l.lookup a = some b) : (a, b) ∈ l := by
  obtain ⟨l₁, l₂, rfl, _⟩ := List.lookup_eq_some_iff.1 h
  simp

theorem lookup_eq_none_iff_not_mem {α β : Type} [BEq α] [LawfulBEq α] {a : α} {l : List (α × β)} :
    l.lookup a = none ↔ a ∉ l.map Prod.fst := by
  rw [List.lookup_eq_none_iff]
  constructor
  · intro h hmem
    obtain ⟨e, he, rfl⟩ := List.mem_map.1 hmem
    have hne := h e he
    simp at hne
  · intro h e he
    rw [bne_iff_ne]
    exact fun hkey => h (hkey ▸ List.mem_map_of_mem he)

section
variable {x : Char}

theorem spelling?_of_lone {k : TokenKind} (h : Scanner.loneSymbols.lookup x = some k) :
    k.spelling? = some [x] := by
  have hall : ∀ e ∈ Scanner.loneSymbols, e.2.spelling? = some [e.1] := by decide
  exact hall _ (mem_of_lookup h)

theorem spelledFrom_lone {k : TokenKind} (h : Scanner.loneSymbols.lookup x = some k) :
    SpelledFrom x [[x]] := by
  have hall : ∀ e ∈ Scanner.loneSymbols, ∀ k ∈ TokenKind.all, ∀ m, k.spelling? = some m →
      m.head? = some e.1 → m ∈ [[e.1]] := by decide
  exact forall_isSpelling (hall _ (mem_of_lookup h))

theorem spelling?_of_equal {op compound : Operator}
    (h : Scanner.equalSymbols.lookup x = some (op, compound)) :
    (TokenKind.operator op).spelling? = some [x] ∧
      (TokenKind.operator compound).spelling? = some [x, '='] := by
  have hall : ∀ e ∈ Scanner.equalSymbols, (TokenKind.operator e.2.1).spelling? = some [e.1] ∧
      (TokenKind.operator e.2.2).spelling? = some [e.1, '='] := by decide
  exact hall _ (mem_of_lookup h)

theorem spelledFrom_equal {ops : Operator × Operator}
    (h : Scanner.equalSymbols.lookup x = some ops) : SpelledFrom x [[x], [x, '=']] := by
  have hall : ∀ e ∈ Scanner.equalSymbols, ∀ k ∈ TokenKind.all, ∀ m, k.spelling? = some m →
      m.head? = some e.1 → m ∈ [[e.1], [e.1, '=']] := by decide
  exact forall_isSpelling (hall _ (mem_of_lookup h))

end

theorem spelledFrom_minus : SpelledFrom '-' [['-'], ['-', '='], ['-', '>']] :=
  forall_isSpelling (by decide)

theorem spelledFrom_dot : SpelledFrom '.' [['.'], ['.', '.'], ['.', '.', '.']] :=
  forall_isSpelling (by decide)

theorem spelledFrom_tilde : SpelledFrom '~' [['~', '=']] :=
  forall_isSpelling (by decide)

/-- The longest spelling is to be found among those with the right first character. -/
theorem SpelledFrom.longest {x : Char} {q m : List Char} {ms : List (List Char)} {k : TokenKind}
    (h : SpelledFrom x ms) (hk : k.spelling? = some m) (hm : m <+: x :: q)
    (hmax : ∀ n ∈ ms, n <+: x :: q → n.length ≤ m.length) : Longest IsSpelling m (x :: q) where
  starts := hm
  holds := ⟨k, hk⟩
  bound := fun n hn hspelled => hmax n (h n hspelled (hspelled.head?_eq hn)) hn

theorem SpelledFrom.none {x : Char} {q : List Char} {ms : List (List Char)}
    (h : SpelledFrom x ms) (hms : ∀ n ∈ ms, ¬ n <+: x :: q) :
    ∀ m, m <+: x :: q → ¬ IsSpelling m :=
  fun m hm hspelled => hms m (h m hspelled (hspelled.head?_eq hm)) hm

end LexFront
