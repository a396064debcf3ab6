import LexFront.Proofs.Lexeme.Symbol

/-! Reading a lexeme off a text. `Lexeme.read` decides on one or two characters how to go on, as a
scanner does, but works on the characters that are left and knows no offsets. `reads_iff` says that
it computes the token rules: there is one lexeme that a text starts with, and `read` finds it. -/
namespace LexFront
open Text

namespace Lexeme

/-- A symbol with or without an equals sign. -/
def ofEqual (x : Char) (q : List Char) (op compound : Operator) : Lexeme :=
  if q.head? = some '=' then plain (.operator compound) [x, '='] else plain (.operator op) [x]

/-- What a minus sign in front of `q` starts. -/
def ofMinus (q : List Char) : Lexeme :=
  if q.head? = some '-' then plain .comment ('-' :: q.takeWhile (· != '\n'))
  else if q.head? = some '*' then
    match throughCloser q with
    | some t => plain .commentBlock ('-' :: t)
    | none => ⟨.commentBlock, '-' :: q, '-' :: q, some .openComment⟩
  else if q.head? = some '=' then plain (.operator .subAssign) ['-', '=']
  else if q.head? = some '>' then plain (.delimiter .arrow) ['-', '>']
  else plain (.operator .sub) ['-']

/-- What a point in front of `q` starts. -/
def ofDot (q : List Char) : Lexeme :=
  if q.head? = some '.' then
    if q.tail.head? = some '.' then plain (.delimiter .dots) ['.', '.', '.']
    else plain (.operator .concat) ['.', '.']
  else plain (.delimiter .dot) ['.']

/-- A character that starts no token. -/
def ofIllegal (x : Char) : Lexeme := ⟨.illegal, [x], [x], some .unexpected⟩

/-- What a tilde in front of `q` starts. -/
def ofTilde (q : List Char) : Lexeme :=
  if q.head? = some '=' then plain (.operator .notEqual) ['~', '='] else ofIllegal '~'

/-- The string that a quote in front of `q` starts. -/
def ofQuote (q : List Char) : Lexeme :=
  if '"' ∈ q then
    ⟨.stringDelim, '"' :: q.takeWhile (· != '"') ++ ['"'], q.takeWhile (· != '"'), none⟩
  else ⟨.stringDelim, '"' :: q, q, some .openString⟩

/-- The word that `x` in front of `q` starts. -/
def ofWord (x : Char) (q : List Char) : Lexeme :=
  plain (.ofWord (String.ofList (x :: q.takeWhile isIdentContinue)))
    (x :: q.takeWhile isIdentContinue)

/-- Whether `q` goes on with a point and a digit. -/
def HasFraction (q : List Char) : Prop :=
  q.head? = some '.' ∧ q.tail.head?.any isDigit = true

instance (q : List Char) : Decidable (HasFraction q) := inferInstanceAs (Decidable (_ ∧ _))

/-- The number that `r` starts with: its digits and, where `q` behind them goes on with a fraction
and numbers may have one, the point and the digits there. -/
def numeral (mode : NumberMode) (r : List Char) : List Char :=
  let q := r.dropWhile isDigit
  if mode = .fractional ∧ HasFraction q then
    r.takeWhile isDigit ++ '.' :: q.tail.takeWhile isDigit
  else r.takeWhile isDigit

/-- The lexeme that a text starts with. -/
def read (mode : NumberMode) : List Char → Lexeme
  | [] => endOfInput
  | x :: q =>
    match Scanner.loneSymbols.lookup x with
    | some kind => plain kind [x]
    | none =>
      match Scanner.equalSymbols.lookup x with
      | some (op, compound) => ofEqual x q op compound
      | none =>
        if x = '-' then ofMinus q
        else if x = '.' then ofDot q
        else if x = '~' then ofTilde q
        else if x = '"' then ofQuote q
        else if isIdentStart x then ofWord x q
        else if isDigit x then plain .literal (numeral mode (x :: q))
        else ofIllegal x

end Lexeme

/-! ## What is read follows the rules -/

section
variable {mode : NumberMode} {x : Char} {q m : List Char} {k : TokenKind}

/-- A symbol that starts with no minus sign cannot be taken for a comment. -/
theorem reads_symbol (hx : x ≠ '-') (hk : k.spelling? = some m)
    (hm : Longest IsSpelling m (x :: q)) : Reads mode (x :: q) (.plain k m) := by
  refine .symbol ?_ ?_ hk hm
  · intro h
    exact hx (List.cons_prefix_cons.1 h).1.symm
  · intro h
    exact hx (List.cons_prefix_cons.1 h).1.symm

theorem reads_lone (h : Scanner.loneSymbols.lookup x = some k) :
    Reads mode (x :: q) (.plain k [x]) := by
  have hx : x ≠ '-' := by
    rintro rfl
    cases h
  refine reads_symbol hx (spelling?_of_lone h)
    ((spelledFrom_lone h).longest (spelling?_of_lone h) ⟨q, rfl⟩ ?_)
  simp

theorem reads_ofEqual {op compound : Operator}
    (h : Scanner.equalSymbols.lookup x = some (op, compound)) :
    Reads mode (x :: q) (.ofEqual x q op compound) := by
  have hx : x ≠ '-' := by
    rintro rfl
    cases h
  obtain ⟨hop, hcompound⟩ := spelling?_of_equal h
  rw [Lexeme.ofEqual]
  split
  · rename_i hq
    obtain ⟨t, rfl⟩ := List.head?_eq_some_iff.1 hq
    refine reads_symbol hx hcompound ((spelledFrom_equal h).longest hcompound ⟨t, rfl⟩ ?_)
    simp
  · rename_i hq
    refine reads_symbol hx hop ((spelledFrom_equal h).longest hop ⟨q, rfl⟩ ?_)
    simp [singleton_starts_iff, hq]

/-- Behind a minus sign, a block is closed where its rest ends in the closing marker. -/
theorem isClosedBlock_minus_cons : IsClosedBlock ('-' :: m) ↔ EndsInCloser m := by
  rw [IsClosedBlock, endsInCloser_cons]
  constructor
  · rintro ⟨_, ⟨h, _⟩ | h⟩
    · exact absurd h (by decide)
    · exact h
  · intro h
    exact ⟨Nat.succ_le_succ h.length_le, .inr h⟩

theorem exists_of_isClosedBlock (hm : m <+: '-' :: q) (hclosed : IsClosedBlock m) :
    ∃ t, m = '-' :: t ∧ t <+: q ∧ EndsInCloser t := by
  cases m with
  | nil => exact absurd hclosed (by decide)
  | cons y t =>
    obtain ⟨rfl, ht⟩ := List.cons_prefix_cons.1 hm
    exact ⟨t, rfl, ht, isClosedBlock_minus_cons.1 hclosed⟩

theorem shortest_isClosedBlock_iff :
    Shortest IsClosedBlock m ('-' :: q) ↔ ∃ t, m = '-' :: t ∧ throughCloser q = some t := by
  constructor
  · intro h
    obtain ⟨t, rfl, ht, hcloser⟩ := exists_of_isClosedBlock h.starts h.holds
    refine ⟨t, rfl, throughCloser_eq_some_iff.2 ⟨ht, hcloser, ?_⟩⟩
    intro n hn hends
    have hle := h.bound ('-' :: n) (List.cons_prefix_cons.2 ⟨rfl, hn⟩)
      (isClosedBlock_minus_cons.2 hends)
    exact Nat.le_of_succ_le_succ hle
  · rintro ⟨t, rfl, ht⟩
    have hshort := throughCloser_eq_some_iff.1 ht
    refine ⟨List.cons_prefix_cons.2 ⟨rfl, hshort.starts⟩,
      isClosedBlock_minus_cons.2 hshort.holds, ?_⟩
    intro n hn hclosed
    obtain ⟨u, rfl, hu, hends⟩ := exists_of_isClosedBlock hn hclosed
    exact Nat.succ_le_succ (hshort.bound u hu hends)

theorem never_isClosedBlock_iff :
    (∀ m, m <+: '-' :: q → ¬ IsClosedBlock m) ↔ throughCloser q = none := by
  rw [throughCloser_eq_none_iff]
  constructor
  · intro h n hn hends
    exact h ('-' :: n) (List.cons_prefix_cons.2 ⟨rfl, hn⟩) (isClosedBlock_minus_cons.2 hends)
  · intro h n hn hclosed
    obtain ⟨t, rfl, ht, hends⟩ := exists_of_isClosedBlock hn hclosed
    exact h t ht hends

theorem reads_ofMinus : Reads mode ('-' :: q) (.ofMinus q) := by
  -- behind the two tests for a comment only the three spellings are left
  have symbol : ∀ {k m}, q.head? ≠ some '-' → q.head? ≠ some '*' → k.spelling? = some m →
      m <+: '-' :: q →
      (∀ n ∈ [['-'], ['-', '='], ['-', '>']], n <+: '-' :: q → n.length ≤ m.length) →
      Reads mode ('-' :: q) (.plain k m) := by
    intro k m hline hblock hk hm hmax
    refine .symbol ?_ ?_ hk (spelledFrom_minus.longest hk hm hmax)
    · simpa [singleton_starts_iff] using hline
    · simpa [singleton_starts_iff] using hblock
  rw [Lexeme.ofMinus]
  split
  · rename_i hq
    have h := longest_takeWhile_ne '\n' ('-' :: q)
    rw [List.takeWhile_cons_of_pos (by decide)] at h
    exact .lineComment (by simp [singleton_starts_iff, hq]) h
  · rename_i hline
    split
    · rename_i hq
      have hopens : ['-', '*'] <+: '-' :: q := by simp [singleton_starts_iff, hq]
      split
      · rename_i t ht
        exact .blockComment hopens (shortest_isClosedBlock_iff.2 ⟨t, rfl, ht⟩)
      · rename_i hnone
        exact .openBlockComment hopens (never_isClosedBlock_iff.2 hnone)
    · rename_i hblock
      split
      · rename_i hq
        refine symbol hline hblock rfl (by simp [singleton_starts_iff, hq]) ?_
        simp
      · split
        · rename_i hq
          refine symbol hline hblock rfl (by simp [singleton_starts_iff, hq]) ?_
          simp
        · rename_i hequal hangle
          refine symbol hline hblock rfl ⟨q, rfl⟩ ?_
          simp [singleton_starts_iff, hequal, hangle]

theorem reads_ofDot : Reads mode ('.' :: q) (.ofDot q) := by
  have symbol : ∀ {k m}, k.spelling? = some m → m <+: '.' :: q →
      (∀ n ∈ [['.'], ['.', '.'], ['.', '.', '.']], n <+: '.' :: q → n.length ≤ m.length) →
      Reads mode ('.' :: q) (.plain k m) :=
    fun hk hm hmax => reads_symbol (by decide) hk (spelledFrom_dot.longest hk hm hmax)
  rw [Lexeme.ofDot]
  split
  · rename_i hq
    obtain ⟨t, rfl⟩ := List.head?_eq_some_iff.1 hq
    split
    · rename_i ht
      rw [List.tail_cons] at ht
      refine symbol rfl (by simp [singleton_starts_iff, ht]) ?_
      simp
    · rename_i ht
      rw [List.tail_cons] at ht
      refine symbol rfl ⟨t, rfl⟩ ?_
      simp [singleton_starts_iff, ht]
  · rename_i hq
    refine symbol rfl ⟨q, rfl⟩ ?_
    intro n hn hpre
    cases q with
    | nil => simpa using hpre.length_le
    | cons y q =>
      have hy : '.' ≠ y := fun hy => hq (by rw [hy, List.head?_cons])
      simp only [List.mem_cons, List.not_mem_nil, or_false] at hn
      rcases hn with rfl | rfl | rfl <;> simp_all

theorem reads_ofTilde : Reads mode ('~' :: q) (.ofTilde q) := by
  rw [Lexeme.ofTilde]
  split
  · rename_i hq
    refine reads_symbol (by decide) rfl
      (spelledFrom_tilde.longest (k := .operator .notEqual) rfl ?_ ?_)
    · simp [singleton_starts_iff, hq]
    · simp
  · rename_i hq
    refine .illegal rfl (by decide) (by decide) (by decide) (spelledFrom_tilde.none ?_)
    simpa [singleton_starts_iff] using hq

theorem reads_ofQuote : Reads mode ('"' :: q) (.ofQuote q) := by
  rw [Lexeme.ofQuote]
  split
  · rename_i hq
    obtain ⟨t, ht⟩ := exists_eq_takeWhile_ne_append hq
    refine .string ⟨t, ?_⟩ (longest_takeWhile_ne '"' q).holds
    rw [List.append_assoc, List.singleton_append, List.cons_append, ← ht]
  · rename_i hq
    exact .openString rfl hq

theorem reads_ofWord (hx : isIdentStart x = true) : Reads mode (x :: q) (.ofWord x q) := by
  have hextent := longest_takeWhile isIdentContinue (x :: q)
  rw [List.takeWhile_cons_of_pos (by simp [isIdentContinue, hx])] at hextent
  have hstarts : ∃ y ∈ (x :: q).head?, isIdentStart y = true := ⟨x, rfl, hx⟩
  rw [Lexeme.ofWord, TokenKind.ofWord]
  split
  · rename_i w hw
    exact .keyword hstarts hextent (mem_of_lookup hw)
  · rename_i hfree
    refine .name hstarts hextent ?_
    intro w hw
    exact lookup_eq_none_iff_not_mem.1 hfree (List.mem_map_of_mem hw)

/-! ## Numbers -/

theorem isDigits_takeWhile {r : List Char} (hr : ∃ y ∈ r.head?, isDigit y = true) :
    IsDigits (r.takeWhile isDigit) := by
  refine ⟨?_, (longest_takeWhile isDigit r).holds⟩
  obtain ⟨y, hy, hdigit⟩ := hr
  obtain ⟨t, rfl⟩ := List.head?_eq_some_iff.1 hy
  rw [List.takeWhile_cons_of_pos hdigit]
  exact List.cons_ne_nil _ _

theorem takeWhile_isDigit_of_point {a b : List Char} (ha : ∀ c ∈ a, isDigit c = true) :
    (a ++ '.' :: b).takeWhile isDigit = a ∧ (a ++ '.' :: b).dropWhile isDigit = '.' :: b := by
  have hpoint : ∀ y ∈ ('.' :: b).head?, isDigit y = false := by
    rintro y hy
    cases hy
    decide
  exact ⟨takeWhile_append_of_stop ha hpoint, dropWhile_append_of_stop ha hpoint⟩

/-- A number with a fraction is only to be had where a point and a digit follow the digits. -/
theorem hasFraction_of_starts {r a b : List Char} (ha : ∀ c ∈ a, isDigit c = true)
    (hb : IsDigits b) (h : a ++ '.' :: b <+: r) :
    Lexeme.HasFraction (r.dropWhile isDigit) ∧ r.takeWhile isDigit = a ∧
      b <+: (r.dropWhile isDigit).tail := by
  obtain ⟨t, rfl⟩ := h
  rw [List.append_assoc, List.cons_append]
  obtain ⟨htake, hdrop⟩ := takeWhile_isDigit_of_point (b := b ++ t) ha
  rw [htake, hdrop]
  refine ⟨⟨rfl, ?_⟩, rfl, ⟨t, rfl⟩⟩
  cases b with
  | nil => exact absurd rfl hb.1
  | cons y b => simpa using hb.2 y (by simp)

theorem longest_numeral {r : List Char} (hr : ∃ y ∈ r.head?, isDigit y = true) :
    Longest (IsNumber mode) (Lexeme.numeral mode r) r := by
  have hdigits := isDigits_takeWhile hr
  have hextent := longest_takeWhile isDigit r
  have hsplit := @List.takeWhile_append_dropWhile _ isDigit r
  rw [Lexeme.numeral]
  split
  · rename_i hfraction
    obtain ⟨hmode, hpoint, hdigit⟩ := hfraction
    obtain ⟨t, ht⟩ := List.head?_eq_some_iff.1 hpoint
    rw [ht, List.tail_cons] at hdigit ⊢
    have htail := longest_takeWhile isDigit t
    refine ⟨?_, .inr ⟨hmode, _, _, rfl, hdigits, isDigits_takeWhile ?_⟩, ?_⟩
    · obtain ⟨u, hu⟩ := htail.starts
      rw [ht] at hsplit
      exact ⟨u, by rw [List.append_assoc, List.cons_append, hu, hsplit]⟩
    · exact (Option.any_eq_true _ _).1 hdigit
    · intro n hn hnumber
      rcases hnumber with hplain | ⟨_, a, b, rfl, ha, hb⟩
      · have hle := hextent.bound n hn hplain.2
        rw [List.length_append]
        omega
      · -- its digits in front of the point are the same, and behind it there cannot be more
        obtain ⟨_, htake, hrest⟩ := hasFraction_of_starts ha.2 hb hn
        rw [ht, List.tail_cons] at hrest
        have hle := htail.bound b hrest hb.2
        rw [htake, List.length_append, List.length_append, List.length_cons, List.length_cons]
        omega
  · rename_i hfraction
    refine ⟨hextent.starts, .inl hdigits, ?_⟩
    intro n hn hnumber
    rcases hnumber with hplain | ⟨hmode, a, b, rfl, ha, hb⟩
    · exact hextent.bound n hn hplain.2
    · exact absurd ⟨hmode, (hasFraction_of_starts ha.2 hb hn).1⟩ hfraction

/-! ## What the rules allow is read -/

theorem not_mem_symbolLeads (hlone : Scanner.loneSymbols.lookup x = none)
    (hequal : Scanner.equalSymbols.lookup x = none) (hminus : x ≠ '-') (hdot : x ≠ '.')
    (htilde : x ≠ '~') : x ∉ symbolLeads := by
  rw [lookup_eq_none_iff_not_mem] at hlone hequal
  simp [symbolLeads, hlone, hequal, hminus, hdot, htilde]

/-- **What is read is there**: a text that is not empty starts with the lexeme that is read. -/
theorem reads_read {r : List Char} (hr : r ≠ []) : Reads mode r (.read mode r) := by
  cases r with
  | nil => exact absurd rfl hr
  | cons x q =>
    rw [Lexeme.read]
    -- the first character is asked about in the order of a scanner
    split
    · rename_i hlone
      exact reads_lone hlone
    rename_i hlone
    split
    · rename_i hequal
      exact reads_ofEqual hequal
    rename_i hequal
    split
    · rename_i hx
      subst hx
      exact reads_ofMinus
    split
    · rename_i hx
      subst hx
      exact reads_ofDot
    split
    · rename_i hx
      subst hx
      exact reads_ofTilde
    split
    · rename_i hx
      subst hx
      exact reads_ofQuote
    split
    · rename_i hx
      exact reads_ofWord hx
    split
    · rename_i hx
      have hstarts : ∃ y ∈ (x :: q).head?, isDigit y = true := ⟨x, rfl, hx⟩
      exact .number hstarts (longest_numeral hstarts)
    · rename_i hminus hdot htilde hquote hword hdigit
      refine .illegal rfl hquote (by simpa using hword) (by simpa using hdigit)
        ((spelledFrom_nil ?_).none (by simp))
      exact not_mem_symbolLeads hlone hequal hminus hdot htilde

end

end LexFront
