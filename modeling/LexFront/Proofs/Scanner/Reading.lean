import LexFront.Cursor.View
import LexFront.Proofs.Lexeme.Laws

/-! The scanner reads lexemes. A scanner whose cursor stands between the characters `p` and `r` returns
the lexeme that `Lexeme.read` finds at the start of `r`, stands behind it afterwards, and tells what
is wrong with it at its offset. No offset is ever read that does not cut the source. -/
namespace LexFront
open Text Cursor

/-! ## What is told about a lexeme -/

namespace Fault

/-- The log event about a fault in a lexeme with some text at some offset. -/
def event (text : String) (offset : Nat) : Fault → Event
  | .unexpected => .illegalCharacter text offset
  | .openString => .unterminatedString offset
  | .openComment => .unterminatedComment offset

/-- The error that a fault in a lexeme with some text is. -/
def diagnostic (text : String) : Fault → Diagnostic
  | .unexpected => Scanner.unexpected text
  | .openString => Scanner.openString
  | .openComment => Scanner.openComment

/-- Whether a scanner that reports reports the fault under some options. -/
def isReported (config : ScanConfig) : Fault → Bool
  | .unexpected => true
  | .openString | .openComment => config.reportUnterminated

end Fault

namespace Lexeme

/-- The log events about a lexeme at an offset. -/
def events (l : Lexeme) (offset : Nat) : List Event :=
  match l.fault with
  | none => []
  | some f => [f.event (String.ofList l.text) offset]

/-- What a scanner with some options reports about a lexeme at a span. -/
def reports (config : ScanConfig) (reporting : Bool) (l : Lexeme) (span : Span) :
    List Diagnostic :=
  match l.fault with
  | none => []
  | some f =>
    if f.isReported config ∧ reporting then [(f.diagnostic (String.ofList l.text)).withSpan span]
    else []

/-- The span of a lexeme behind the characters `p`. -/
def span (l : Lexeme) (p : List Char) : Span := ⟨byteLength p, byteLength (p ++ l.chars)⟩

/-- What a scanner between `p` and `r` yields when it reads the lexeme at the start of `r`. -/
def lexed (s : Scanner) (p r : List Char) (l : Lexeme) : Lexed where
  token := l.token
  cursor := between (p ++ l.chars) (r.drop l.chars.length)
  events := l.events (byteLength p)
  diagnostics := l.reports s.config s.reporting (l.span p)

@[simp] theorem events_plain (k : TokenKind) (m : List Char) (i : Nat) :
    (plain k m).events i = [] := rfl

@[simp] theorem reports_plain (config : ScanConfig) (reporting : Bool) (k : TokenKind)
    (m : List Char) (sp : Span) : (plain k m).reports config reporting sp = [] := rfl

end Lexeme

namespace Scanner

/-- `s` stands at the start of a token, between the characters `p` and `r`. -/
structure Faces (s : Scanner) (p r : List Char) : Prop where
  cursor : s.cursor = between p r
  tokenStart : s.tokenStart = byteLength p

section
variable {s : Scanner} {p q r m : List Char} {c : Cursor} {x : Char} {k : TokenKind}

/-- A lexeme that reaches up to a cursor is the text in front of the cursor. -/
theorem Faces.lexeme? (h : s.Faces p r) (hc : c = between (p ++ m) (r.drop m.length)) :
    s.lexeme? c k = some (Lexeme.lexed s p r (.plain k m)) := by
  rw [Scanner.lexeme?, h.tokenStart, hc, sliceFrom?_between]
  simp [Lexeme.lexed, Lexeme.token]

theorem Faces.lexLone? (h : s.Faces p (x :: q)) :
    s.lexLone? k = some (Lexeme.lexed s p (x :: q) (.plain k [x])) := by
  rw [Scanner.lexLone?, h.cursor, advance?_between_cons]
  exact h.lexeme? rfl

theorem eat?_between (p q : List Char) (y : Char) :
    (between p q).eat? y =
      some (if q.head? = some y then (true, between (p ++ [y]) q.tail)
        else (false, between p q)) := by
  cases q with
  | nil => simp
  | cons z q =>
    by_cases hz : z = y
    · simp [hz]
    · simp [hz]

theorem Faces.lexEqual? {op compound : Operator} (h : s.Faces p (x :: q)) :
    s.lexEqual? op compound =
      some (Lexeme.lexed s p (x :: q) (.ofEqual x q op compound)) := by
  rw [Scanner.lexEqual?, h.cursor, advance?_between_cons, Lexeme.ofEqual]
  simp only [Option.bind_eq_bind, Option.bind_some, eat?_between]
  split
  · exact h.lexeme? (by simp)
  · exact h.lexeme? rfl

theorem Faces.lexIllegal? (h : s.Faces p (x :: q)) :
    s.lexIllegal? = some (Lexeme.lexed s p (x :: q) (.ofIllegal x)) := by
  rw [Scanner.lexIllegal?, h.cursor, advance?_between_cons]
  simp only [Option.bind_eq_bind, Option.bind_some]
  have hlexeme : s.lexeme? (between (p ++ [x]) q) .illegal = _ := h.lexeme? (m := [x]) rfl
  rw [hlexeme]
  simp [Lexeme.lexed, Lexeme.ofIllegal, Lexeme.token, Lexeme.events, Lexeme.reports, Lexeme.span,
    Fault.event, Fault.diagnostic, Fault.isReported, report, h.tokenStart]

theorem Faces.lexLineComment? (h : s.Faces p ('-' :: q)) :
    s.lexLineComment? =
      some (Lexeme.lexed s p ('-' :: q) (.plain .comment ('-' :: q.takeWhile (· != '\n')))) := by
  rw [Scanner.lexLineComment?, h.cursor, advanceWhile?_between]
  refine h.lexeme? ?_
  rw [List.takeWhile_cons_of_pos (by decide), List.dropWhile_cons_of_pos (by decide),
    List.length_cons, List.drop_succ_cons, drop_takeWhile]

theorem skipBlock?_between_cons (p q : List Char) (x : Char) :
    skipBlock? (between p (x :: q)) =
      if x = '*' ∧ q.head? = some '-' then some (true, between (p ++ ['*', '-']) q.tail)
      else skipBlock? (between (p ++ [x]) q) := by
  rw [skipBlock?]
  split
  · rename_i hc
    cases hc
  · rename_i y hy
    cases hy
    split
    · rename_i hadvance
      rw [advance?_between_cons] at hadvance
      cases hadvance
    · rename_i d hadvance
      rw [advance?_between_cons] at hadvance
      cases hadvance
      rw [peek_between_cons]
      split
      · rename_i hclose
        obtain ⟨rfl, hq⟩ := hclose
        obtain ⟨t, rfl⟩ := List.head?_eq_some_iff.1 hq
        simp
      · rfl

/-- The search moves behind the next closing marker, or to the end. -/
theorem skipBlock?_between (p q : List Char) :
    skipBlock? (between p q) =
      some (match throughCloser q with
        | some t => (true, between (p ++ t) (q.drop t.length))
        | none => (false, between (p ++ q) [])) := by
  -- both loops move on by one character until they see the marker
  induction q generalizing p with
  | nil =>
    rw [skipBlock?, throughCloser, List.append_nil]
    rfl
  | cons x q ih =>
    rw [skipBlock?_between_cons, throughCloser]
    split
    · rename_i hclose
      obtain ⟨rfl, hq⟩ := hclose
      obtain ⟨t, rfl⟩ := List.head?_eq_some_iff.1 hq
      rfl
    · rw [ih]
      cases throughCloser q with
      | none => simp
      | some t => simp

theorem Faces.lexBlockComment? (h : s.Faces p ('-' :: q)) (hq : q.head? = some '*') :
    s.lexBlockComment? = some (Lexeme.lexed s p ('-' :: q) (.ofMinus q)) := by
  obtain ⟨t, rfl⟩ := List.head?_eq_some_iff.1 hq
  rw [Scanner.lexBlockComment?, h.cursor, advance?_between_cons]
  simp only [Option.bind_eq_bind, Option.bind_some]
  rw [skipBlock?_between]
  rw [Lexeme.ofMinus, if_neg (by simp), if_pos hq]
  cases hclose : throughCloser ('*' :: t) with
  | some m =>
    have hlexeme : s.lexeme? (between (p ++ ['-'] ++ m) (('*' :: t).drop m.length))
        .commentBlock = _ := h.lexeme? (m := '-' :: m) (by simp)
    simp only [Option.bind_some, hlexeme]
    simp [Lexeme.lexed]
  | none =>
    have hlexeme : s.lexeme? (between (p ++ ['-'] ++ '*' :: t) []) .commentBlock = _ :=
      h.lexeme? (m := '-' :: '*' :: t) (by simp)
    simp only [Option.bind_some, hlexeme]
    simp [Lexeme.lexed, Lexeme.token, Lexeme.events, Lexeme.reports, Lexeme.span,
      Fault.event, Fault.diagnostic, Fault.isReported, report, h.tokenStart]
    cases s.reporting <;> simp

theorem Faces.lexMinus? (h : s.Faces p ('-' :: q)) :
    s.lexMinus? = some (Lexeme.lexed s p ('-' :: q) (.ofMinus q)) := by
  rw [Scanner.lexMinus?, h.cursor, peek_between_cons, advance?_between_cons]
  split
  · rename_i hq
    rw [h.lexLineComment?, Lexeme.ofMinus, if_pos hq]
  · rename_i hline
    split
    · rename_i hq
      exact h.lexBlockComment? hq
    · rename_i hblock
      rw [Lexeme.ofMinus, if_neg hline, if_neg hblock]
      simp only [Option.bind_eq_bind, Option.bind_some, eat?_between]
      split
      · exact h.lexeme? (by simp)
      · simp only [Bool.false_eq_true, if_false, Option.bind_some, eat?_between]
        split
        · exact h.lexeme? (by simp)
        · exact h.lexeme? rfl

theorem Faces.lexDots? (h : s.Faces p ('.' :: q)) :
    s.lexDots? = some (Lexeme.lexed s p ('.' :: q) (.ofDot q)) := by
  rw [Scanner.lexDots?, h.cursor, advance?_between_cons, Lexeme.ofDot]
  simp only [Option.bind_eq_bind, Option.bind_some, eat?_between]
  by_cases hq : q.head? = some '.'
  · obtain ⟨t, rfl⟩ := List.head?_eq_some_iff.1 hq
    simp only [List.head?_cons, if_true, Option.bind_some, eat?_between, List.tail_cons]
    by_cases ht : t.head? = some '.'
    · simp only [ht, if_true]
      exact h.lexeme? (by simp)
    · simp only [ht, if_false, Bool.false_eq_true]
      exact h.lexeme? (by simp)
  · simp only [hq, if_false]
    exact h.lexeme? rfl

theorem Faces.lexTilde? (h : s.Faces p ('~' :: q)) :
    s.lexTilde? = some (Lexeme.lexed s p ('~' :: q) (.ofTilde q)) := by
  rw [Scanner.lexTilde?, h.cursor, peek_between_cons, advance?_between_cons, Lexeme.ofTilde]
  split
  · rename_i hq
    obtain ⟨t, rfl⟩ := List.head?_eq_some_iff.1 hq
    simp only [Option.bind_eq_bind, Option.bind_some, advance?_between_cons]
    exact h.lexeme? (by simp)
  · exact h.lexIllegal?

theorem Faces.lexString? (h : s.Faces p ('"' :: q)) :
    s.lexString? = some (Lexeme.lexed s p ('"' :: q) (.ofQuote q)) := by
  rw [Scanner.lexString?, h.cursor, advance?_between_cons]
  simp only [Option.bind_eq_bind, Option.bind_some, advanceWhile?_between, position_between,
    sliceFrom?_between, eat?_between]
  rw [Lexeme.ofQuote]
  by_cases hq : '"' ∈ q
  · -- the run stops in front of the closing quote, which is then eaten
    obtain ⟨t, ht⟩ := exists_eq_takeWhile_ne_append hq
    have hdrop : q.dropWhile (· != '"') = '"' :: t :=
      List.append_cancel_left (List.takeWhile_append_dropWhile.trans ht)
    have hrest : ('"' :: q).drop ('"' :: q.takeWhile (· != '"') ++ ['"']).length = t := by
      rw [List.cons_append, List.length_cons, List.drop_succ_cons, List.length_append,
        ← List.drop_drop, drop_takeWhile, hdrop]
      rfl
    rw [if_pos hq, hdrop]
    simp only [Lexeme.lexed, hrest]
    simp [Lexeme.token, Lexeme.events, Lexeme.reports]
  · have hall : ∀ c ∈ q, (c != '"') = true := by
      intro c hc
      simpa using ne_of_mem_of_not_mem hc hq
    rw [if_neg hq, List.takeWhile_eq_self_iff.2 hall, List.dropWhile_eq_nil_iff.2 hall]
    simp [Lexeme.lexed, Lexeme.token, Lexeme.events, Lexeme.reports, Lexeme.span, Fault.event,
      Fault.diagnostic, Fault.isReported, report, h.tokenStart]
    cases s.reporting <;> simp

theorem Faces.lexWord? (h : s.Faces p (x :: q)) :
    s.lexWord? = some (Lexeme.lexed s p (x :: q) (.ofWord x q)) := by
  have hcursor : between (p ++ [x] ++ q.takeWhile isIdentContinue) (q.dropWhile isIdentContinue) =
      between (p ++ x :: q.takeWhile isIdentContinue) (q.dropWhile isIdentContinue) := by simp
  rw [Scanner.lexWord?, h.cursor, advance?_between_cons]
  simp only [Option.bind_eq_bind, Option.bind_some, advanceWhile?_between, hcursor, h.tokenStart,
    sliceFrom?_between]
  simp [Lexeme.lexed, Lexeme.ofWord, Lexeme.token, drop_takeWhile]

theorem hasFraction_between (p q : List Char) :
    ((between p q).current = some '.' ∧ (between p q).peek.any isDigit = true) ↔
      Lexeme.HasFraction q := by
  cases q with
  | nil => simp [Lexeme.HasFraction]
  | cons y t => simp [Lexeme.HasFraction]

theorem Faces.lexNumber? {r : List Char} (h : s.Faces p r) :
    s.lexNumber? =
      some (Lexeme.lexed s p r (.plain .literal (Lexeme.numeral s.config.numberMode r))) := by
  rw [Scanner.lexNumber?, h.cursor, advanceWhile?_between]
  simp only [Option.bind_eq_bind, Option.bind_some, hasFraction_between, Lexeme.numeral]
  split
  · rename_i hfraction
    obtain ⟨t, ht⟩ := List.head?_eq_some_iff.1 hfraction.2.1
    rw [ht]
    simp only [advance?_between_cons, Option.bind_some, advanceWhile?_between, List.tail_cons]
    refine h.lexeme? ?_
    rw [List.length_append, ← List.drop_drop, drop_takeWhile, ht, List.length_cons,
      List.drop_succ_cons, drop_takeWhile]
    simp
  · exact h.lexeme? (by rw [drop_takeWhile])

/-- **A scanner reads what is there**: it reads the lexeme that starts the text at its cursor. -/
theorem Faces.lex? {r : List Char} (h : s.Faces p r) :
    s.lex? = some (Lexeme.lexed s p r (.read s.config.numberMode r)) := by
  rw [Scanner.lex?, h.cursor, current_between]
  cases r with
  | nil =>
    rw [Lexeme.read, Lexeme.lexed, Lexeme.chars_endOfInput, List.append_nil]
    rfl
  | cons x q =>
    simp only [List.head?_cons]
    rw [lexFrom?, Lexeme.read]
    -- scanner and rules ask about the first character in the same order
    cases hlone : loneSymbols.lookup x with
    | some kind => exact h.lexLone?
    | none =>
    cases hequal : equalSymbols.lookup x with
    | some ops => exact h.lexEqual?
    | none =>
    dsimp only
    split
    · rename_i hx
      subst hx
      exact h.lexMinus?
    split
    · rename_i hx
      subst hx
      exact h.lexDots?
    split
    · rename_i hx
      subst hx
      exact h.lexTilde?
    split
    · rename_i hx
      subst hx
      exact h.lexString?
    split
    · exact h.lexWord?
    split
    · exact h.lexNumber?
    · exact h.lexIllegal?

end

end Scanner

end LexFront
