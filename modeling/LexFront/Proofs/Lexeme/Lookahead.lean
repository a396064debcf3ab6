import LexFront.Proofs.Lexeme.Laws

/-! How much of the text behind a lexeme settles it. A lexeme is the same whatever is added to a
text that goes on for `NumberMode.lookahead` characters behind it: one character ends words, symbols
and line comments, and two are needed to see that a point does not go on with a fraction. So texts
behind a lexeme that start alike, `StartAlike`, may stand for each other. -/
namespace LexFront
open Text

/-- How many characters behind a lexeme settle that it does not go on. -/
def NumberMode.lookahead : NumberMode → Nat
  | .split => 1
  | .fractional => 2

theorem NumberMode.lookahead_pos (mode : NumberMode) : 0 < mode.lookahead := by
  cases mode <;> decide

section
variable {P : List Char → Prop} {m r : List Char}

/-- What is the longest start of a text is so of a longer text, if nothing longer has the property
without a start that has it within the next `k` characters, and those belong to the text. -/
theorem Text.Longest.append {k : Nat} (h : Longest P m r) (hroom : m.length + k ≤ r.length)
    (hgrows : ∀ n, P n → m.length < n.length → ∃ i, m.length < i ∧ i ≤ m.length + k ∧ P (n.take i))
    (q : List Char) : Longest P m (r ++ q) where
  starts := h.starts.trans (List.prefix_append r q)
  holds := h.holds
  bound := by
    intro n hn hP
    by_contra hlt
    rw [Nat.not_le] at hlt
    obtain ⟨i, hi, hik, hPi⟩ := hgrows n hP hlt
    have hlength : (n.take i).length ≤ r.length := by
      rw [List.length_take]
      omega
    have hstarts : n.take i <+: r :=
      List.prefix_of_prefix_length_le ((List.take_prefix i n).trans hn) (List.prefix_append r q)
        hlength
    have hle := h.bound (n.take i) hstarts hPi
    rw [List.length_take] at hle
    omega

/-- One character settles how far a property reaches that every start of a text inherits. -/
theorem Text.Longest.append_of_take (h : Longest P m r) (hroom : m.length < r.length)
    (htake : ∀ n i, P n → P (n.take i)) (q : List Char) : Longest P m (r ++ q) := by
  refine h.append (k := 1) hroom ?_ q
  intro n hn _
  exact ⟨m.length + 1, Nat.lt_succ_self _, Nat.le_refl _, htake n _ hn⟩

end

theorem IsDigits.take {m : List Char} {i : Nat} (h : IsDigits m) (hi : 0 < i) :
    IsDigits (m.take i) := by
  refine ⟨?_, fun c hc => h.2 c (List.mem_of_mem_take hc)⟩
  rw [ne_eq, List.take_eq_nil_iff, not_or]
  exact ⟨Nat.ne_of_gt hi, h.1⟩

theorem IsNumber.append_digit {mode : NumberMode} {m : List Char} {x : Char} (h : IsNumber mode m)
    (hx : isDigit x = true) : IsNumber mode (m ++ [x]) := by
  have hdigits : ∀ {n : List Char}, IsDigits n → IsDigits (n ++ [x]) := by
    intro n hn
    refine ⟨by simp, ?_⟩
    rw [List.forall_mem_append, List.forall_mem_singleton]
    exact ⟨hn.2, hx⟩
  rcases h with h | ⟨rfl, a, b, rfl, ha, hb⟩
  · exact .inl (hdigits h)
  · exact .inr ⟨rfl, a, b ++ [x], by simp, ha, hdigits hb⟩

theorem IsNumber.isDigit_or_point {mode : NumberMode} {m : List Char} (h : IsNumber mode m) :
    ∀ c ∈ m, (isDigit c || c == '.') = true := by
  rcases h with h | ⟨rfl, a, b, rfl, ha, hb⟩
  · intro c hc
    rw [h.2 c hc, Bool.true_or]
  · intro c hc
    rcases List.mem_append.1 hc with hc | hc
    · rw [ha.2 c hc, Bool.true_or]
    · rcases List.mem_cons.1 hc with rfl | hc
      · simp
      · rw [hb.2 c hc, Bool.true_or]

/-- A number goes on from its first characters by one digit, or by a point and a digit. -/
theorem IsNumber.exists_take {mode : NumberMode} {m : List Char} {j : Nat} (h : IsNumber mode m)
    (hj : 0 < j) : ∃ i, j < i ∧ i ≤ j + mode.lookahead ∧ IsNumber mode (m.take i) := by
  have hpos := mode.lookahead_pos
  rcases h with hdigits | ⟨rfl, a, b, rfl, ha, hb⟩
  · exact ⟨j + 1, by omega, by omega, .inl (hdigits.take (by omega))⟩
  · by_cases hle : j < a.length
    · refine ⟨j + 1, by omega, by omega, .inl ?_⟩
      rw [List.take_append_of_le_length hle]
      exact ha.take (by omega)
    · -- behind the digits the point does not count without a digit
      refine ⟨j + 2, by omega, Nat.le_refl _, .inr ⟨rfl, a, b.take (j + 1 - a.length), ?_, ha, ?_⟩⟩
      · have hsub : j + 2 - a.length = j + 1 - a.length + 1 := by omega
        rw [List.take_append, List.take_of_length_le (by omega), hsub, List.take_succ_cons]
      · exact hb.take (by omega)

section
variable {mode : NumberMode} {q r s m : List Char} {l : Lexeme}

/-- A lexeme that some character follows is there whatever is added to the text, if that much is known
of numbers. -/
theorem Reads.append_of_number (h : Reads mode r l) (hroom : l.chars.length < r.length)
    (q : List Char)
    (hnumber : Longest (IsNumber mode) l.chars r → Longest (IsNumber mode) l.chars (r ++ q)) :
    Reads mode (r ++ q) l := by
  have hchars := List.length_pos_iff.2 h.chars_ne_nil
  have hr : r <+: r ++ q := List.prefix_append r q
  -- the first two characters are those of the text before
  have hopens : ∀ {x y : Char}, [x, y] <+: r ++ q → [x, y] <+: r := by
    intro x y hxy
    refine List.prefix_of_prefix_length_le hxy hr ?_
    simp only [List.length_cons, List.length_nil]
    omega
  cases h with
  | lineComment opens extent =>
    refine .lineComment (opens.trans hr) (extent.append_of_take hroom ?_ q)
    exact fun n i hn hx => hn (List.mem_of_mem_take hx)
  | blockComment opens extent => exact .blockComment (opens.trans hr) (extent.append q)
  | openBlockComment => exact absurd hroom (Nat.lt_irrefl _)
  | string quoted inner => exact .string (quoted.trans hr) inner
  | openString => exact absurd hroom (Nat.lt_irrefl _)
  | keyword starts extent reserved =>
    refine .keyword (exists_head?_append starts) (extent.append_of_take hroom ?_ q) reserved
    exact fun n i hn c hc => hn c (List.mem_of_mem_take hc)
  | name starts extent free =>
    refine .name (exists_head?_append starts) (extent.append_of_take hroom ?_ q) free
    exact fun n i hn c hc => hn c (List.mem_of_mem_take hc)
  | number starts extent => exact .number (exists_head?_append starts) (hnumber extent)
  | @symbol k m notLine notBlock spelled extent =>
    refine .symbol (mt hopens notLine) (mt hopens notBlock) spelled (extent.append (k := 1) hroom ?_ q)
    intro n hn _
    exact ⟨m.length + 1, Nat.lt_succ_self _, Nat.le_refl _, hn.take (Nat.succ_le_succ hchars)⟩
  | @illegal x first notQuote notWord notDigit notSymbol =>
    refine .illegal ?_ notQuote notWord notDigit ?_
    · rw [List.head?_append, first, Option.some_or]
    · -- a symbol has a start of at most two characters that is one
      intro m hm hsymbol
      have hlength : (m.take 2).length ≤ r.length := by
        rw [List.length_take]
        have htwo : 1 < r.length := hroom
        omega
      exact notSymbol (m.take 2)
        (List.prefix_of_prefix_length_le ((List.take_prefix 2 m).trans hm) hr hlength)
        (hsymbol.take (Nat.le_refl 2))

/-- **Lookahead**: a lexeme that enough characters follow is there whatever is added to the text. -/
theorem Reads.append (h : Reads mode r l) (hroom : l.chars.length + mode.lookahead ≤ r.length)
    (q : List Char) : Reads mode (r ++ q) l := by
  have hpos := mode.lookahead_pos
  have hchars := List.length_pos_iff.2 h.chars_ne_nil
  refine h.append_of_number (by omega) q ?_
  intro extent
  exact extent.append hroom (fun n hn _ => hn.exists_take hchars) q

/-- One character that is not a point settles what is in front of it. -/
theorem Reads.append_of_ne_point {x : Char} (h : Reads mode (l.chars ++ [x]) l) (hx : x ≠ '.')
    (q : List Char) : Reads mode (l.chars ++ [x] ++ q) l := by
  refine h.append_of_number (by simp) q ?_
  intro extent
  have hdigit : isDigit x = false := by
    rw [← Bool.not_eq_true]
    exact fun hdigit => extent.not_append rfl (extent.holds.append_digit hdigit)
  rw [List.append_assoc]
  refine longest_append_of_stop (p := fun c => isDigit c || c == '.') extent.holds ?_ ?_
  · exact fun n hn => hn.isDigit_or_point
  · simp [hdigit, hx]

/-! ## Texts that start alike -/

/-- A lexeme is still there when the text ends earlier, but not in the lexeme. -/
theorem Reads.of_prefix (h : Reads mode r l) (hs : s <+: r) (hl : l.chars <+: s) :
    Reads mode s l := by
  -- a lexeme is not empty, so `s` starts with the first character of `r`
  have hlead : ∀ {p : Char → Bool}, (∃ x ∈ r.head?, p x = true) → ∃ x ∈ s.head?, p x = true := by
    rintro p ⟨x, hx, hp⟩
    obtain ⟨y, t, rfl⟩ := List.exists_cons_of_ne_nil (hl.ne_nil h.chars_ne_nil)
    obtain ⟨u, rfl⟩ := hs
    exact ⟨x, hx, hp⟩
  cases h with
  | lineComment opens extent =>
    have hlength := extent.bound _ opens (by decide)
    have hopens := List.prefix_of_prefix_length_le opens extent.starts hlength
    exact .lineComment (hopens.trans hl) (extent.of_prefix hs hl)
  | blockComment opens extent =>
    have hlength := Nat.le_of_succ_le extent.holds.1
    have hopens := List.prefix_of_prefix_length_le opens extent.starts hlength
    exact .blockComment (hopens.trans hl) (extent.of_prefix hs hl)
  | openBlockComment opens never =>
    obtain rfl := hs.eq_of_length_le hl.length_le
    exact .openBlockComment opens never
  | string quoted inner => exact .string hl inner
  | openString quoted inner =>
    obtain rfl := hs.eq_of_length_le hl.length_le
    exact .openString quoted inner
  | keyword starts extent reserved => exact .keyword (hlead starts) (extent.of_prefix hs hl) reserved
  | name starts extent free => exact .name (hlead starts) (extent.of_prefix hs hl) free
  | number starts extent => exact .number (hlead starts) (extent.of_prefix hs hl)
  | symbol notLine notBlock spelled extent =>
    exact .symbol (fun h => notLine (h.trans hs)) (fun h => notBlock (h.trans hs)) spelled
      (extent.of_prefix hs hl)
  | illegal first notQuote notWord notDigit notSymbol =>
    exact .illegal (singleton_starts_iff.1 hl) notQuote notWord notDigit
      fun m hm => notSymbol m (hm.trans hs)

/-- Two texts start alike if they have a start in common that is not empty, and is more than a point
if it starts with one. -/
def StartAlike (q r : List Char) : Prop :=
  ∃ m a b, q = m ++ a ∧ r = m ++ b ∧ m ≠ [] ∧ (m.head? = some '.' → 2 ≤ m.length)

theorem StartAlike.head?_eq (h : StartAlike q r) : q.head? = r.head? := by
  obtain ⟨m, a, b, rfl, rfl, hm, _⟩ := h
  obtain ⟨x, m, rfl⟩ := List.exists_cons_of_ne_nil hm
  rfl

theorem StartAlike.append (h : StartAlike q r) (w : List Char) : StartAlike (w ++ q) (w ++ r) := by
  obtain ⟨m, a, b, rfl, rfl, hm, hpoint⟩ := h
  refine ⟨w ++ m, a, b, (List.append_assoc ..).symm, (List.append_assoc ..).symm, by simp [hm], ?_⟩
  cases w with
  | nil => exact hpoint
  | cons x w =>
    have hpos := List.length_pos_iff.2 hm
    intro _
    rw [List.length_append, List.length_cons]
    omega

/-- **Lexemes look ahead no further**: what follows a lexeme may be replaced by what starts alike. -/
theorem Reads.of_startAlike (h : Reads mode (l.chars ++ q) l) (halike : StartAlike q r) :
    Reads mode (l.chars ++ r) l := by
  obtain ⟨m, a, b, rfl, rfl, hm, hpoint⟩ := halike
  have hcut : ∀ {n k : List Char}, m = n ++ k → Reads mode (l.chars ++ n) l := by
    rintro n k rfl
    exact h.of_prefix (by simp) (List.prefix_append _ _)
  obtain ⟨x, m, rfl⟩ := List.exists_cons_of_ne_nil hm
  by_cases hx : x = '.'
  · -- a point and what stands behind it are enough for every number
    have hlength := hpoint (by rw [hx]; rfl)
    have hlookahead : mode.lookahead ≤ 2 := by cases mode <;> decide
    have hread := (hcut (List.append_nil _).symm).append (by simp at hlength ⊢; omega) b
    rwa [List.append_assoc] at hread
  · have hread := (hcut (n := [x]) rfl).append_of_ne_point hx (m ++ b)
    rw [List.append_assoc] at hread
    exact hread

end

/-- One character behind its digits does not settle a number that may have a fraction. -/
example : Lexeme.read .fractional ['1', '.'] = .plain .literal ['1'] ∧
    Lexeme.read .fractional ['1', '.', '5'] = .plain .literal ['1', '.', '5'] := by decide

end LexFront
