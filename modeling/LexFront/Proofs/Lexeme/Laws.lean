import LexFront.Proofs.Lexeme.Read

/-! What the token rules say about a lexeme as a whole. It is not empty, the text starts with it, and
but for the quotes of a string its characters are the text of its token. There is one lexeme that a
text starts with: `reads_iff` makes `Lexeme.read` another way to write the rules. -/
namespace LexFront
open Text

/-! ## Blanks -/

theorem isBlank_eq_true_iff {c : Char} : isBlank c = true ↔ c ∈ [' ', '\t', '\n', '\r'] := by
  simp [isBlank, or_assoc]

theorem not_mem_of_all_not {l : List Char} {p : Char → Bool} {c : Char}
    (hall : l.all (!p ·) = true) (hc : p c = true) : c ∉ l := by
  intro hmem
  have hnot := List.all_eq_true.1 hall c hmem
  rw [hc] at hnot
  cases hnot

theorem isBlank_of_isIdentContinue {c : Char} (hc : isIdentContinue c = true) :
    isBlank c = false := by
  rw [← Bool.not_eq_true, isBlank_eq_true_iff]
  exact not_mem_of_all_not (p := isIdentContinue) (by decide) hc

theorem exists_head?_append {m q : List Char} {p : Char → Bool}
    (h : ∃ x ∈ m.head?, p x = true) : ∃ x ∈ (m ++ q).head?, p x = true := by
  obtain ⟨x, hx, hp⟩ := h
  obtain ⟨t, rfl⟩ := List.head?_eq_some_iff.1 hx
  exact ⟨x, rfl, hp⟩

/-! ## The characters of a lexeme -/

section
variable {mode : NumberMode} {r : List Char} {l : Lexeme}

theorem Reads.starts (h : Reads mode r l) : l.chars <+: r := by
  cases h with
  | lineComment _ extent => exact extent.starts
  | blockComment _ extent => exact extent.starts
  | openBlockComment => exact List.prefix_rfl
  | string quoted _ => exact quoted
  | openString => exact List.prefix_rfl
  | keyword _ extent _ => exact extent.starts
  | name _ extent _ => exact extent.starts
  | number _ extent => exact extent.starts
  | symbol _ _ _ extent => exact extent.starts
  | illegal first => exact singleton_starts_iff.2 first

theorem IsNumber.ne_nil {m : List Char} (h : IsNumber mode m) : m ≠ [] := by
  rcases h with h | ⟨_, a, b, rfl, _⟩
  · exact h.1
  · exact List.append_ne_nil_of_right_ne_nil _ (List.cons_ne_nil _ _)

theorem Reads.chars_ne_nil (h : Reads mode r l) : l.chars ≠ [] := by
  cases h with
  | lineComment opens extent =>
    obtain ⟨t, rfl⟩ := opens
    exact extent.ne_nil rfl (by decide)
  | blockComment _ extent =>
    exact List.ne_nil_of_length_pos (Nat.lt_of_lt_of_le (by decide) extent.holds.1)
  | openBlockComment opens _ =>
    obtain ⟨t, rfl⟩ := opens
    exact List.cons_ne_nil _ _
  | string => exact List.cons_ne_nil _ _
  | openString quoted _ =>
    rw [quoted]
    exact List.cons_ne_nil _ _
  | keyword starts extent _ =>
    obtain ⟨x, hx, hword⟩ := starts
    exact extent.ne_nil hx (by simp [isIdentContinue, hword])
  | name starts extent _ =>
    obtain ⟨x, hx, hword⟩ := starts
    exact extent.ne_nil hx (by simp [isIdentContinue, hword])
  | number _ extent => exact extent.holds.ne_nil
  | symbol _ _ _ extent => exact extent.holds.ne_nil
  | illegal => exact List.cons_ne_nil _ _

theorem Reads.ne_nil (h : Reads mode r l) : r ≠ [] := by
  rintro rfl
  exact h.chars_ne_nil (List.prefix_nil.1 h.starts)

/-- What a text starts with does not depend on what stands behind its first lexeme. -/
theorem Reads.head?_append (h : Reads mode r l) (q q' : List Char) :
    (l.chars ++ q).head? = (l.chars ++ q').head? := by
  obtain ⟨x, m, hx⟩ := List.exists_cons_of_ne_nil h.chars_ne_nil
  rw [hx]
  rfl

theorem Reads.kind_ne_endOfInput (h : Reads mode r l) : l.kind ≠ .endOfInput := by
  cases h with
  | symbol _ _ spelled _ =>
    rintro rfl
    cases spelled
  | _ => exact fun hkind => by cases hkind

theorem Reads.token_ne_endOfInput (h : Reads mode r l) : l.token ≠ .endOfInput :=
  fun htoken => h.kind_ne_endOfInput (congrArg Token.kind htoken)

/-- Only a string has another text than its characters. -/
theorem Reads.text_eq_chars (h : Reads mode r l) (hkind : l.kind ≠ .stringDelim) :
    l.text = l.chars := by
  cases h with
  | string => exact absurd rfl hkind
  | openString => exact absurd rfl hkind
  | _ => rfl

/-- The characters of a string are its text in quotes; without the second quote they are the whole
text in front of the scanner. -/
theorem Reads.chars_of_stringDelim (h : Reads mode r l) (hkind : l.kind = .stringDelim) :
    l.chars = '"' :: l.text ++ ['"'] ∨ l.chars = '"' :: l.text ∧ l.chars = r := by
  cases h with
  | string => exact .inl rfl
  | openString quoted _ => exact .inr ⟨quoted, rfl⟩
  | symbol _ _ spelled _ =>
    have hkind : _ = TokenKind.stringDelim := hkind
    subst hkind
    cases spelled
  | _ => cases hkind

/-- Text without an end takes the rest of the text up. -/
theorem Reads.chars_eq_of_fault {f : Fault} (h : Reads mode r l) (hf : l.fault = some f)
    (hne : f ≠ .unexpected) : l.chars = r := by
  cases h with
  | openBlockComment => rfl
  | openString => rfl
  | illegal =>
    cases hf
    exact absurd rfl hne
  | _ => cases hf

end

/-! ## One lexeme for each text -/

section
variable {mode : NumberMode} {x : Char} {q r m : List Char} {l l' : Lexeme}

/-- What starts no symbol is read as a string, a word, a number or an illegal character. -/
theorem read_of_not_mem_symbolLeads (hx : x ∉ symbolLeads) :
    Lexeme.read mode (x :: q) =
      if x = '"' then .ofQuote q
      else if isIdentStart x then .ofWord x q
      else if isDigit x then .plain .literal (Lexeme.numeral mode (x :: q))
      else .ofIllegal x := by
  simp only [symbolLeads, List.mem_append, not_or] at hx
  obtain ⟨⟨hlone, hequal⟩, hrest⟩ := hx
  simp only [List.mem_cons, List.not_mem_nil, or_false, not_or] at hrest
  rw [Lexeme.read, lookup_eq_none_iff_not_mem.2 hlone, lookup_eq_none_iff_not_mem.2 hequal]
  simp only [hrest, if_false]

theorem read_of_isIdentStart (hx : isIdentStart x = true) :
    Lexeme.read mode (x :: q) = .ofWord x q := by
  have hne : x ∉ '"' :: symbolLeads := not_mem_of_all_not (p := isIdentStart) (by decide) hx
  rw [List.mem_cons, not_or] at hne
  rw [read_of_not_mem_symbolLeads hne.2, if_neg hne.1, if_pos hx]

theorem isIdentStart_of_isDigit (hx : isDigit x = true) : isIdentStart x = false := by
  simp only [isDigit, Bool.and_eq_true, decide_eq_true_eq] at hx
  have hlow : 48 ≤ x.toNat := hx.1
  have hhigh : x.toNat ≤ 57 := hx.2
  have hall : ∀ n < 58, 48 ≤ n → isIdentStart (Char.ofNat n) = false := by decide
  rw [← Char.ofNat_toNat x]
  exact hall x.toNat (Nat.lt_succ_of_le hhigh) hlow

theorem read_of_isDigit (hx : isDigit x = true) :
    Lexeme.read mode (x :: q) = .plain .literal (Lexeme.numeral mode (x :: q)) := by
  have hne : x ∉ '"' :: symbolLeads := not_mem_of_all_not (p := isDigit) (by decide) hx
  rw [List.mem_cons, not_or] at hne
  rw [read_of_not_mem_symbolLeads hne.2, if_neg hne.1, isIdentStart_of_isDigit hx, if_pos hx]
  rfl

theorem ofWord_of_mem {word : String} {w : Keyword} (h : (word, w) ∈ reservedWords) :
    TokenKind.ofWord word = .keyword w := by
  have hall : ∀ e ∈ reservedWords, TokenKind.ofWord e.1 = .keyword e.2 := by decide +kernel
  exact hall _ h

theorem ofWord_of_not_mem {word : String} (h : ∀ w, (word, w) ∉ reservedWords) :
    TokenKind.ofWord word = .literal := by
  refine TokenKind.ofWord_eq_literal_iff.2 (lookup_eq_none_iff_not_mem.2 ?_)
  intro hmem
  obtain ⟨⟨_, w⟩, hw, rfl⟩ := List.mem_map.1 hmem
  exact h w hw

theorem read_of_word (hstarts : ∃ y ∈ r.head?, isIdentStart y = true)
    (hextent : Longest (fun m => ∀ c ∈ m, isIdentContinue c = true) m r) :
    Lexeme.read mode r = .plain (.ofWord (String.ofList m)) m := by
  obtain ⟨x, hx, hword⟩ := hstarts
  obtain ⟨q, rfl⟩ := List.head?_eq_some_iff.1 hx
  have hm := hextent.unique (longest_takeWhile isIdentContinue (x :: q))
  rw [List.takeWhile_cons_of_pos (by simp [isIdentContinue, hword])] at hm
  rw [read_of_isIdentStart hword, Lexeme.ofWord, hm]

/-- Behind an opened block, what is read depends on whether and where it is closed. -/
theorem read_of_block (mode : NumberMode) (hopens : ['-', '*'] <+: r) :
    ∃ q, r = '-' :: q ∧ Lexeme.read mode r =
      match throughCloser q with
      | some t => .plain .commentBlock ('-' :: t)
      | none => ⟨.commentBlock, '-' :: q, '-' :: q, some .openComment⟩ := by
  obtain ⟨q, rfl⟩ := hopens
  exact ⟨'*' :: q, rfl, rfl⟩

private theorem not_starts {p : Char → Bool} (hx : r.head? = some x) (hp : p x = false) :
    ¬ ∃ y ∈ r.head?, p y = true := by
  rintro ⟨y, hy, hpy⟩
  rw [hx] at hy
  cases hy
  rw [hp] at hpy
  cases hpy

/-- Where a spelling fits and no comment starts, nothing but a symbol is there. -/
theorem Reads.exists_symbol (h : Reads mode r l) (hline : ¬ ['-', '-'] <+: r)
    (hblock : ¬ ['-', '*'] <+: r) (hm : m <+: r) (hspelled : IsSpelling m) :
    ∃ k n, l = .plain k n ∧ k.spelling? = some n ∧ Longest IsSpelling n r := by
  -- what starts a spelling starts no string, word or number
  obtain ⟨x, hx, hquote, hword, hdigit⟩ : ∃ x, r.head? = some x ∧ x ≠ '"' ∧
      isIdentStart x = false ∧ isDigit x = false := by
    obtain ⟨x, hx, _, hclass⟩ := hspelled.lead
    obtain ⟨t, rfl⟩ := hm
    exact ⟨x, by rw [List.head?_append, Option.mem_def.1 hx]; rfl, hclass⟩
  cases h with
  | lineComment opens _ => exact absurd opens hline
  | blockComment opens _ => exact absurd opens hblock
  | openBlockComment opens _ => exact absurd opens hblock
  | string quoted _ =>
    obtain ⟨u, rfl⟩ := quoted
    cases hx
    exact absurd rfl hquote
  | openString quoted _ =>
    subst quoted
    cases hx
    exact absurd rfl hquote
  | keyword starts _ _ => exact absurd starts (not_starts hx hword)
  | name starts _ _ => exact absurd starts (not_starts hx hword)
  | number starts _ => exact absurd starts (not_starts hx hdigit)
  | symbol _ _ spelled extent => exact ⟨_, _, rfl, spelled, extent⟩
  | illegal _ _ _ _ notSymbol => exact absurd hspelled (notSymbol _ hm)

/-- Where nothing else may start, the first character is illegal. -/
theorem Reads.eq_ofIllegal (h : Reads mode r l) (hx : r.head? = some x) (hquote : x ≠ '"')
    (hword : isIdentStart x = false) (hdigit : isDigit x = false)
    (hsymbol : ∀ m, m <+: r → ¬ IsSpelling m) : l = .ofIllegal x := by
  -- a minus sign alone is a symbol, so no comment starts here
  have hminus : x ≠ '-' := by
    rintro rfl
    exact hsymbol ['-'] (singleton_starts_iff.2 hx) ⟨.operator .sub, rfl⟩
  have hopens : ∀ {y}, ¬ ['-', y] <+: r := by
    rintro y ⟨u, rfl⟩
    cases hx
    exact hminus rfl
  cases h with
  | lineComment opens _ => exact absurd opens hopens
  | blockComment opens _ => exact absurd opens hopens
  | openBlockComment opens _ => exact absurd opens hopens
  | string quoted _ =>
    obtain ⟨u, rfl⟩ := quoted
    cases hx
    exact absurd rfl hquote
  | openString quoted _ =>
    subst quoted
    cases hx
    exact absurd rfl hquote
  | keyword starts _ _ => exact absurd starts (not_starts hx hword)
  | name starts _ _ => exact absurd starts (not_starts hx hword)
  | number starts _ => exact absurd starts (not_starts hx hdigit)
  | symbol _ _ spelled extent => exact absurd extent.holds (hsymbol _ extent.starts)
  | illegal first =>
    rw [hx] at first
    cases first
    rfl

/-- **What is there is read**: the rules leave no choice. -/
theorem Reads.eq_read (h : Reads mode r l) : l = .read mode r := by
  have hread : Reads mode r (.read mode r) := reads_read h.ne_nil
  cases h with
  | @lineComment m opens extent =>
    obtain ⟨q, rfl⟩ := opens
    rw [extent.unique (longest_takeWhile_ne '\n' _)]
    rfl
  | blockComment opens extent =>
    obtain ⟨q, rfl, hq⟩ := read_of_block mode opens
    obtain ⟨t, rfl, ht⟩ := shortest_isClosedBlock_iff.1 extent
    rw [hq, ht]
  | openBlockComment opens never =>
    obtain ⟨q, rfl, hq⟩ := read_of_block mode opens
    rw [hq, never_isClosedBlock_iff.1 never]
  | @string t quoted inner =>
    obtain ⟨u, rfl⟩ := quoted
    rw [List.append_assoc, List.cons_append, List.singleton_append]
    show _ = Lexeme.ofQuote (t ++ '"' :: u)
    have hne : ∀ c ∈ t, (c != '"') = true := by
      intro c hc
      simpa using ne_of_mem_of_not_mem hc inner
    rw [Lexeme.ofQuote, if_pos (by simp), takeWhile_append_of_stop hne (by simp)]
    rfl
  | openString quoted inner =>
    subst quoted
    show _ = Lexeme.ofQuote _
    rw [Lexeme.ofQuote, if_neg inner]
  | keyword starts extent reserved =>
    rw [read_of_word starts extent, ofWord_of_mem reserved]
  | name starts extent free =>
    rw [read_of_word starts extent, ofWord_of_not_mem free]
  | number starts extent =>
    rw [extent.unique (longest_numeral starts)]
    obtain ⟨x, hx, hdigit⟩ := starts
    obtain ⟨q, rfl⟩ := List.head?_eq_some_iff.1 hx
    rw [read_of_isDigit hdigit]
  | symbol notLine notBlock spelled extent =>
    -- what is read is a symbol too, and no two symbols share an extent
    obtain ⟨k, n, hk, hspelled, hn⟩ :=
      hread.exists_symbol notLine notBlock extent.starts extent.holds
    rw [extent.unique hn] at spelled
    rw [hk, extent.unique hn, TokenKind.spelling?_inj spelled hspelled]
  | illegal first notQuote notWord notDigit notSymbol =>
    exact (hread.eq_ofIllegal first notQuote notWord notDigit notSymbol).symm

/-- **The rules and the reading are one**: a text that is not empty starts with exactly one lexeme,
the one that is read. -/
theorem reads_iff : Reads mode r l ↔ r ≠ [] ∧ l = .read mode r := by
  constructor
  · intro h
    exact ⟨h.ne_nil, h.eq_read⟩
  · rintro ⟨hr, rfl⟩
    exact reads_read hr

/-- The markers of a block comment may share their star. -/
example : Lexeme.read .split ['-', '*', '-', '*', '-'] = .plain .commentBlock ['-', '*', '-'] := by
  decide

/-- Two points in a row are no fraction. -/
example : Lexeme.read .fractional ['1', '.', '.', '2'] = .plain .literal ['1'] := by decide

theorem Reads.unique (h : Reads mode r l) (h' : Reads mode r l') : l = l' := by
  rw [h.eq_read, h'.eq_read]

end

end LexFront
