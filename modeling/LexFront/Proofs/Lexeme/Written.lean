import LexFront.Proofs.Lexeme.Laws

/-! Tokens as they are written. `Lexical mode k m` holds when `m` is the text of a token of kind `k`
that any blank may follow; a block comment without an end is the one token that nothing may follow.
What is written is read back as the same token, and whatever is read could have been written. -/
namespace LexFront
open Text

/-- The text of a block comment that ends with its first `*-` behind the dash. -/
def IsBlockText (m : List Char) : Prop :=
  3 ≤ m.length ∧ ['-', '*'] <+: m ∧ EndsInCloser m ∧
    ∀ i, 1 ≤ i → ['*', '-'] <+: m.drop i → i + 2 = m.length

/-- The text of a block comment that has no `*-` behind the dash. -/
def IsOpenBlockText (m : List Char) : Prop :=
  ['-', '*'] <+: m ∧ ∀ i, 1 ≤ i → ¬ ['*', '-'] <+: m.drop i

/-- A character that is a token of its own where a blank follows: a tilde, or what is not blank and
starts no string, word, number or symbol. -/
def IsStray (x : Char) : Prop :=
  x = '~' ∨ (isBlank x = false ∧ isIdentStart x = false ∧ isDigit x = false ∧ x ≠ '"' ∧
    ∀ m, IsSpelling m → m.head? ≠ some x)

/-- **The texts of a kind**: those that its tokens may have, wherever they stand. -/
inductive Lexical (mode : NumberMode) : TokenKind → List Char → Prop
  | symbol {k : TokenKind} {m : List Char} (spelled : k.spelling? = some m) : Lexical mode k m
  | keyword {w : Keyword} {m : List Char} (reserved : (String.ofList m, w) ∈ reservedWords) :
      Lexical mode (.keyword w) m
  | name {m : List Char} (starts : ∃ x ∈ m.head?, isIdentStart x = true)
      (continues : ∀ c ∈ m, isIdentContinue c = true)
      (free : ∀ w, (String.ofList m, w) ∉ reservedWords) : Lexical mode .literal m
  | number {m : List Char} (digits : IsNumber mode m) : Lexical mode .literal m
  | comment {m : List Char} (opens : ['-', '-'] <+: m) (line : '\n' ∉ m) : Lexical mode .comment m
  | string {m : List Char} (inner : '"' ∉ m) : Lexical mode .stringDelim m
  | block {m : List Char} (block : IsBlockText m) : Lexical mode .commentBlock m
  | illegal {x : Char} (stray : IsStray x) : Lexical mode .illegal [x]

/-- How a text of some kind is written: strings stand in quotes. -/
def TokenKind.write (k : TokenKind) (m : List Char) : List Char :=
  if k = .stringDelim then '"' :: m ++ ['"'] else m

/-! ## The end of a block comment -/

section
variable {m : List Char}

theorem closer_of_isClosedBlock {n : List Char} (hn : n <+: m) (h : IsClosedBlock n) :
    ∃ i, 1 ≤ i ∧ ['*', '-'] <+: m.drop i ∧ i + 2 = n.length := by
  obtain ⟨hlength, a, rfl⟩ := h
  obtain ⟨t, rfl⟩ := hn
  rw [List.length_append] at hlength
  refine ⟨a.length, ?_, ?_, by rw [List.length_append]; rfl⟩
  · simp only [List.length_cons, List.length_nil] at hlength
    omega
  · rw [List.append_assoc, List.drop_left]
    exact List.prefix_append _ _

theorem isClosedBlock_of_closer {i : Nat} (hi : 1 ≤ i) (h : ['*', '-'] <+: m.drop i) :
    ∃ n, n <+: m ∧ IsClosedBlock n ∧ n.length = i + 2 := by
  obtain ⟨t, ht⟩ := h
  have hlength : i + 2 ≤ m.length := by
    have := congrArg List.length ht
    simp only [List.length_append, List.length_cons, List.length_nil, List.length_drop] at this
    omega
  have htake : (m.take i).length = i := List.length_take_of_le (by omega)
  refine ⟨m.take i ++ ['*', '-'], ⟨t, ?_⟩, ⟨?_, List.suffix_append _ _⟩, ?_⟩
  · rw [List.append_assoc, ht, List.take_append_drop]
  · rw [List.length_append, htake]
    exact Nat.add_le_add_right hi 2
  · rw [List.length_append, htake]
    rfl

theorem isBlockText_iff :
    IsBlockText m ↔ ['-', '*'] <+: m ∧ Shortest IsClosedBlock m m := by
  constructor
  · rintro ⟨hlength, hopens, hcloses, hfirst⟩
    refine ⟨hopens, List.prefix_rfl, ⟨hlength, hcloses⟩, ?_⟩
    intro n hn hclosed
    obtain ⟨i, hi, hcloser, hlen⟩ := closer_of_isClosedBlock hn hclosed
    rw [← hlen, hfirst i hi hcloser]
  · rintro ⟨hopens, hshort⟩
    refine ⟨hshort.holds.1, hopens, hshort.holds.2, ?_⟩
    intro i hi hcloser
    obtain ⟨n, hn, hclosed, hlen⟩ := isClosedBlock_of_closer hi hcloser
    rw [← hlen]
    exact Nat.le_antisymm hn.length_le (hshort.bound n hn hclosed)

theorem isOpenBlockText_iff :
    IsOpenBlockText m ↔ ['-', '*'] <+: m ∧ ∀ n, n <+: m → ¬ IsClosedBlock n := by
  refine and_congr_right fun _ => ⟨?_, ?_⟩
  · intro h n hn hclosed
    obtain ⟨i, hi, hcloser, _⟩ := closer_of_isClosedBlock hn hclosed
    exact h i hi hcloser
  · intro h i hi hcloser
    obtain ⟨n, hn, hclosed, _⟩ := isClosedBlock_of_closer hi hcloser
    exact h n hn hclosed

end

/-! ## Written and read back -/

@[simp] theorem TokenKind.write_of_ne {k : TokenKind} (m : List Char) (hk : k ≠ .stringDelim) :
    k.write m = m := by
  rw [write, if_neg hk]

theorem TokenKind.write_of_spelling? {k : TokenKind} {m : List Char} (h : k.spelling? = some m) :
    k.write m = m := by
  apply write_of_ne
  intro hk
  rw [hk] at h
  cases h

section
variable {mode : NumberMode} {m : List Char}

theorem IsDigits.isBlank_eq_false (h : IsDigits m) : ∀ c ∈ m, isBlank c = false := by
  intro c hc
  exact isBlank_of_isIdentContinue (by simp [isIdentContinue, h.2 c hc])

theorem IsDigits.exists_head? (h : IsDigits m) (q : List Char) :
    ∃ x ∈ (m ++ q).head?, isDigit x = true := by
  obtain ⟨x, n, rfl⟩ := List.exists_cons_of_ne_nil h.1
  exact ⟨x, rfl, h.2 x List.mem_cons_self⟩

theorem IsNumber.isBlank_eq_false (h : IsNumber mode m) : ∀ c ∈ m, isBlank c = false := by
  rcases h with h | ⟨_, a, b, rfl, ha, hb⟩
  · exact h.isBlank_eq_false
  · intro c hc
    rcases List.mem_append.1 hc with hc | hc
    · exact ha.isBlank_eq_false c hc
    rcases List.mem_cons.1 hc with rfl | hc
    · decide
    · exact hb.isBlank_eq_false c hc

theorem IsNumber.head?_isDigit (h : IsNumber mode m) : ∃ x ∈ m.head?, isDigit x = true := by
  rcases h with h | ⟨_, a, b, rfl, ha, _⟩
  · rw [← List.append_nil m]
    exact h.exists_head? []
  · exact ha.exists_head? _

theorem word_of_reserved {w : Keyword} (h : (String.ofList m, w) ∈ reservedWords) :
    (∃ x ∈ m.head?, isIdentStart x = true) ∧ ∀ c ∈ m, isIdentContinue c = true := by
  have hall : ∀ e ∈ reservedWords, e.1.toList.head?.any isIdentStart = true ∧
      e.1.toList.all isIdentContinue = true := by decide
  obtain ⟨hstarts, hcontinues⟩ := hall _ h
  rw [String.toList_ofList] at hstarts hcontinues
  exact ⟨(Option.any_eq_true _ _).1 hstarts, List.all_eq_true.1 hcontinues⟩

theorem IsStray.isBlank_eq_false {x : Char} (h : IsStray x) : isBlank x = false := by
  rcases h with rfl | h
  · decide
  · exact h.1

theorem IsStray.unexpected {x : Char} (h : IsStray x) :
    x ≠ '"' ∧ isIdentStart x = false ∧ isDigit x = false ∧ ¬ IsSpelling [x] := by
  rcases h with rfl | ⟨_, hstart, hdigit, hquote, hspelling⟩
  · refine ⟨by decide, by decide, by decide, ?_⟩
    rw [isSpelling_singleton_iff (by decide)]
    exact fun h => h rfl
  · exact ⟨hquote, hstart, hdigit, fun h => hspelling [x] h rfl⟩

end

section
variable {mode : NumberMode} {k : TokenKind} {m q r : List Char} {l : Lexeme}

/-- **What is written is read back**: where a blank follows, and a line feed behind a line comment,
the text of a token is read as that token and no further. -/
theorem Lexical.exists_reads (h : Lexical mode k m) (hstops : ∀ x ∈ q.head?, isBlank x = true)
    (hline : k = .comment → ∀ x ∈ q.head?, x = '\n') :
    ∃ l, Reads mode (k.write m ++ q) l ∧ l.kind = k ∧ l.text = m ∧ l.chars = k.write m := by
  have hblank : ∀ x ∈ q.head?, (!isBlank x) = false := by simpa using hstops
  -- no lexeme but a comment, a string or a lone character has a blank in it
  have hextent : ∀ {P : List Char → Prop}, P m → (∀ n, P n → ∀ c ∈ n, isBlank c = false) →
      Longest P m (m ++ q) := by
    intro P hm hP
    exact longest_append_of_stop hm (by simpa using hP) hblank
  cases h with
  | symbol spelled =>
    have hspelling : IsSpelling m := ⟨k, spelled⟩
    rw [TokenKind.write_of_spelling? spelled]
    refine ⟨.plain k m, .symbol ?_ ?_ spelled ?_, rfl, rfl, rfl⟩
    · exact fun h => hspelling.not_comment.1 (prefix_of_stop h (by simp [isBlank]) hblank)
    · exact fun h => hspelling.not_comment.2 (prefix_of_stop h (by simp [isBlank]) hblank)
    · exact hextent hspelling (fun _ hn => hn.isBlank_eq_false)
  | @keyword w _ reserved =>
    obtain ⟨starts, continues⟩ := word_of_reserved reserved
    exact ⟨.plain (.keyword w) m, .keyword (exists_head?_append starts)
      (hextent continues fun _ hn c hc => isBlank_of_isIdentContinue (hn c hc)) reserved,
      rfl, rfl, rfl⟩
  | name starts continues free =>
    exact ⟨.plain .literal m, .name (exists_head?_append starts)
      (hextent continues fun _ hn c hc => isBlank_of_isIdentContinue (hn c hc)) free,
      rfl, rfl, rfl⟩
  | number digits =>
    exact ⟨.plain .literal m, .number (exists_head?_append digits.head?_isDigit)
      (hextent digits fun _ hn => hn.isBlank_eq_false), rfl, rfl, rfl⟩
  | comment opens line =>
    refine ⟨.plain .comment m, .lineComment (opens.trans (List.prefix_append m q)) ?_,
      rfl, rfl, rfl⟩
    refine longest_append_of_stop (p := (· != '\n')) line ?_ ?_
    · intro n hn c hc
      simpa using ne_of_mem_of_not_mem hc hn
    · simpa using hline rfl
  | string inner =>
    refine ⟨⟨.stringDelim, '"' :: m ++ ['"'], m, none⟩, .string ?_ inner, rfl, rfl, rfl⟩
    exact List.prefix_append _ _
  | block block =>
    obtain ⟨hopens, hshort⟩ := isBlockText_iff.1 block
    exact ⟨.plain .commentBlock m, .blockComment (hopens.trans (List.prefix_append m q))
      (hshort.append q), rfl, rfl, rfl⟩
  | @illegal x stray =>
    obtain ⟨hquote, hstart, hdigit, hspelling⟩ := stray.unexpected
    refine ⟨⟨.illegal, [x], [x], some .unexpected⟩,
      .illegal rfl hquote hstart hdigit ?_, rfl, rfl, rfl⟩
    intro n hn hsymbol
    have hone : n <+: [x] := prefix_of_stop hn (by simpa using hsymbol.isBlank_eq_false) hblank
    rcases List.prefix_cons_iff.1 hone with rfl | ⟨t, rfl, ht⟩
    · exact hsymbol.ne_nil rfl
    · rw [List.prefix_nil.1 ht] at hsymbol
      exact hspelling hsymbol

/-- A block comment without an end is read back where nothing follows. -/
theorem IsOpenBlockText.reads (h : IsOpenBlockText m) :
    Reads mode m ⟨.commentBlock, m, m, some .openComment⟩ := by
  obtain ⟨hopens, hnever⟩ := isOpenBlockText_iff.1 h
  exact .openBlockComment hopens hnever

theorem Lexical.exists_head? (h : Lexical mode k m) :
    ∃ x ∈ (k.write m).head?, isBlank x = false := by
  have hword : ∀ n : List Char, (∃ x ∈ n.head?, isIdentStart x = true) →
      ∃ x ∈ n.head?, isBlank x = false := by
    rintro n ⟨x, hx, hstart⟩
    exact ⟨x, hx, isBlank_of_isIdentContinue (by simp [isIdentContinue, hstart])⟩
  cases h with
  | symbol spelled =>
    have hspelling : IsSpelling m := ⟨k, spelled⟩
    rw [TokenKind.write_of_spelling? spelled]
    obtain ⟨x, hx, _⟩ := hspelling.lead
    exact ⟨x, hx, hspelling.isBlank_eq_false x (List.mem_of_mem_head? hx)⟩
  | keyword reserved => exact hword m (word_of_reserved reserved).1
  | name starts _ _ => exact hword m starts
  | number digits =>
    obtain ⟨x, hx, _⟩ := digits.head?_isDigit
    exact ⟨x, hx, digits.isBlank_eq_false x (List.mem_of_mem_head? hx)⟩
  | comment opens _ =>
    obtain ⟨t, rfl⟩ := opens
    exact ⟨'-', rfl, by decide⟩
  | string _ => exact ⟨'"', rfl, by decide⟩
  | block block =>
    obtain ⟨_, ⟨t, rfl⟩, _⟩ := block
    exact ⟨'-', rfl, by decide⟩
  | @illegal x stray => exact ⟨x, rfl, stray.isBlank_eq_false⟩

/-- **What is read could have been written**: the text of a token belongs to its kind, but for a block
comment without an end. -/
theorem Reads.lexical (h : Reads mode r l) (hstops : ∀ x ∈ r.head?, isBlank x = false) :
    Lexical mode l.kind l.text ∨
      (l.kind = .commentBlock ∧ IsOpenBlockText l.text ∧ l.chars = r) := by
  cases h with
  | @lineComment m opens extent =>
    refine .inl (.comment ?_ extent.holds)
    obtain ⟨t, rfl⟩ := opens
    have hlength := extent.bound ['-', '-'] (List.prefix_append _ _) (by decide)
    exact List.prefix_of_prefix_length_le (List.prefix_append _ _) extent.starts hlength
  | @blockComment m opens extent =>
    refine .inl (.block (isBlockText_iff.2 ⟨?_, ?_⟩))
    · have hlength : 2 ≤ m.length := Nat.le_of_succ_le extent.holds.1
      exact List.prefix_of_prefix_length_le opens extent.starts hlength
    · refine ⟨List.prefix_rfl, extent.holds, ?_⟩
      intro n hn hclosed
      exact extent.bound n (hn.trans extent.starts) hclosed
  | openBlockComment opens never =>
    exact .inr ⟨rfl, isOpenBlockText_iff.2 ⟨opens, never⟩, rfl⟩
  | string _ inner => exact .inl (.string inner)
  | openString _ inner => exact .inl (.string inner)
  | keyword _ _ reserved => exact .inl (.keyword reserved)
  | @name m starts extent free =>
    refine .inl (.name ?_ extent.holds free)
    obtain ⟨x, hx, hstart⟩ := starts
    have hlength := extent.bound [x] (singleton_starts_iff.2 hx) (by simp [isIdentContinue, hstart])
    have hm := List.prefix_of_prefix_length_le (singleton_starts_iff.2 hx) extent.starts hlength
    exact ⟨x, singleton_starts_iff.1 hm, hstart⟩
  | number _ extent => exact .inl (.number extent.holds)
  | symbol _ _ spelled _ => exact .inl (.symbol spelled)
  | @illegal x first notQuote notWord notDigit notSymbol =>
    -- a character that starts symbols but is none alone is the tilde
    refine .inl (.illegal ?_)
    by_cases hlead : x ∈ symbolLeads
    · left
      by_contra hne
      exact notSymbol [x] (singleton_starts_iff.2 first) ((isSpelling_singleton_iff hlead).2 hne)
    · right
      refine ⟨hstops x first, notWord, notDigit, notQuote, ?_⟩
      intro m hm hhead
      exact List.not_mem_nil (spelledFrom_nil hlead m hm hhead)

/-- No token has the kind of the end of input, of a word that nothing is reserved for, or of a type. -/
theorem Lexical.kind_ne (h : Lexical mode k m) :
    k ≠ .endOfInput ∧ k ≠ .keyword .kwRepeat ∧ ∀ t, k ≠ .primitive t := by
  cases h with
  | symbol spelled =>
    refine ⟨?_, ?_, ?_⟩
    · rintro rfl
      cases spelled
    · rintro rfl
      cases spelled
    · rintro t rfl
      cases spelled
  | @keyword w _ reserved =>
    have hall : ∀ e ∈ reservedWords, e.2 ≠ .kwRepeat := by decide
    refine ⟨TokenKind.noConfusion, ?_, fun _ => TokenKind.noConfusion⟩
    intro hw
    exact hall _ reserved (TokenKind.keyword.inj hw)
  | _ => exact ⟨TokenKind.noConfusion, TokenKind.noConfusion, fun _ => TokenKind.noConfusion⟩

end

end LexFront
