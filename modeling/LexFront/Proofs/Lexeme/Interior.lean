import LexFront.Proofs.Lexeme.Lookahead
import LexFront.Proofs.Lexeme.Written

/-! Text that is not looked into. A string, a block comment and a line comment are each a text between
an opener and a closer. Any text in between that does not hold the closer gives a lexeme of the same
kind, with the same text behind it. -/
namespace LexFront
open Text

/-- What goes around text that is not looked into: the quotes of a string, or the markers of a
comment of either form. -/
inductive Enclosure where
  | string
  | block
  | line
  deriving DecidableEq, Repr

namespace Enclosure

def kind : Enclosure → TokenKind
  | .string => .stringDelim
  | .block => .commentBlock
  | .line => .comment

def opener : Enclosure → String
  | .string => "\""
  | .block => "-*"
  | .line => "--"

/-- A line comment has no closer of its own: the line feed behind it is not part of it. -/
def closer : Enclosure → String
  | .string => "\""
  | .block => "*-"
  | .line => ""

/-- A text with what goes around it. -/
def enclose (c : Enclosure) (x : String) : String := c.opener ++ x ++ c.closer

/-- The token that an enclosed text is: the quotes of a string are left out, the markers of a comment
are not. -/
def token (c : Enclosure) (x : String) : Token := ⟨c.kind, if c = .string then x else c.enclose x⟩

/-- Whether a text can be enclosed without closing what goes around it. A block is closed early by a
dash right behind its opener, too, as that may share the star. -/
def Admits : Enclosure → String → Prop
  | .string, x => '"' ∉ x.toList
  | .block, x => x.toList.head? ≠ some '-' ∧ ¬ ['*', '-'] <:+: x.toList
  | .line, x => '\n' ∉ x.toList

instance (c : Enclosure) (x : String) : Decidable (c.Admits x) :=
  match c with
  | .string => inferInstanceAs (Decidable (_ ∉ _))
  | .block => inferInstanceAs (Decidable (_ ∧ _))
  | .line => inferInstanceAs (Decidable (_ ∉ _))

/-- The lexeme that an enclosed text is. -/
def lexeme (c : Enclosure) (x : String) : Lexeme where
  kind := c.kind
  chars := (c.enclose x).toList
  text := (c.token x).text.toList
  fault := none

@[simp] theorem token_lexeme (c : Enclosure) (x : String) : (c.lexeme x).token = c.token x := by
  rw [Lexeme.token, lexeme, String.ofList_toList]
  rfl

@[simp] theorem chars_lexeme (c : Enclosure) (x : String) :
    (c.lexeme x).chars = (c.enclose x).toList := rfl

theorem toList_enclose (c : Enclosure) (x : String) :
    (c.enclose x).toList = c.opener.toList ++ x.toList ++ c.closer.toList := by
  rw [enclose, String.toList_append, String.toList_append]

theorem lexeme_string (x : String) :
    string.lexeme x = ⟨.stringDelim, '"' :: x.toList ++ ['"'], x.toList, none⟩ := by
  rw [lexeme, toList_enclose]
  rfl

theorem lexeme_of_ne {c : Enclosure} (hc : c ≠ .string) (x : String) :
    c.lexeme x = .plain c.kind (c.enclose x).toList := by
  rw [lexeme, token, if_neg hc]
  rfl

/-- Enclosed texts start alike, as an opener is not empty and does not start with a point. -/
theorem startAlike_enclose (c : Enclosure) (x y : String) (q : List Char) :
    StartAlike ((c.enclose x).toList ++ q) ((c.enclose y).toList ++ q) := by
  refine ⟨c.opener.toList, x.toList ++ c.closer.toList ++ q, y.toList ++ c.closer.toList ++ q, ?_,
    ?_, ?_, ?_⟩
  · simp only [toList_enclose, List.append_assoc]
  · simp only [toList_enclose, List.append_assoc]
  · cases c <;> decide
  · cases c <;> decide

end Enclosure

/-! ## The closer of a block -/

/-- A text without `*-` still has none when a star follows: the first is the closer. -/
theorem eq_length_of_closer {y : List Char} {i : Nat} (hy : ¬ ['*', '-'] <:+: y)
    (h : ['*', '-'] <+: (y ++ ['*', '-']).drop i) : i = y.length := by
  induction y generalizing i with
  | nil =>
    have hlength := h.length_le
    simp only [List.nil_append, List.length_drop, List.length_cons, List.length_nil] at hlength ⊢
    omega
  | cons c y ih =>
    cases i with
    | zero =>
      rw [List.drop_zero] at h
      obtain ⟨rfl, hdash⟩ := List.cons_prefix_cons.1 h
      cases y with
      | nil => simp at hdash
      | cons d y =>
        obtain ⟨rfl, _⟩ := List.cons_prefix_cons.1 hdash
        exact absurd ⟨[], y, rfl⟩ hy
    | succ i => rw [ih (fun hin => hy (hin.trans (List.suffix_cons c y).isInfix)) h, List.length_cons]

theorem isBlockText_enclose {y : String} (hy : Enclosure.block.Admits y) :
    IsBlockText (Enclosure.block.enclose y).toList := by
  obtain ⟨hhead, hcloser⟩ := hy
  have htext : (Enclosure.block.enclose y).toList =
      '-' :: '*' :: (y.toList ++ ['*', '-']) := Enclosure.toList_enclose _ _
  rw [htext]
  refine ⟨by simp, ⟨_, rfl⟩, ⟨'-' :: '*' :: y.toList, by simp⟩, ?_⟩
  rintro (_ | _ | i) hi h
  · cases hi
  · -- the star of the opener is not followed by a dash
    obtain ⟨_, h⟩ := List.cons_prefix_cons.1 h
    obtain ⟨t, ht⟩ := h
    cases hlist : y.toList with
    | nil => simp [hlist] at ht
    | cons d u =>
      rw [hlist] at ht hhead
      cases ht
      exact absurd rfl hhead
  · have hi := eq_length_of_closer hcloser h
    simp [hi]

/-! ## Reading what is enclosed -/

section
variable {mode : NumberMode} {c : Enclosure} {x y : String} {q r : List Char} {l : Lexeme}

/-- Whether a text may stand behind an enclosure: a line comment ends at the end of its line. -/
def Enclosure.Meets (c : Enclosure) (q : List Char) : Prop :=
  c = .line → ∀ x ∈ q.head?, x = '\n'

/-- **An enclosed text is read as one lexeme**, whatever is in it. -/
theorem Enclosure.reads (hy : c.Admits y) (hq : c.Meets q) :
    Reads mode ((c.enclose y).toList ++ q) (c.lexeme y) := by
  have hopens : c.opener.toList <+: (c.enclose y).toList ++ q := by
    rw [toList_enclose, List.append_assoc, List.append_assoc]
    exact List.prefix_append _ _
  cases c with
  | string =>
    rw [lexeme_string, toList_enclose]
    exact .string (List.prefix_append _ _) hy
  | block =>
    rw [lexeme_of_ne (by decide)]
    obtain ⟨_, hshort⟩ := isBlockText_iff.1 (isBlockText_enclose hy)
    exact .blockComment hopens (hshort.append q)
  | line =>
    rw [lexeme_of_ne (by decide)]
    refine .lineComment hopens (longest_append_of_stop (p := (· != '\n')) ?_ ?_ ?_)
    · have hline : '\n' ∉ y.toList := hy
      simp [toList_enclose, opener, closer, hline]
    · intro n hn c hc
      simpa using ne_of_mem_of_not_mem hc hn
    · simpa using hq rfl

theorem Reads.eq_lexeme_string (h : Reads mode r l) (hkind : l.kind = .stringDelim)
    (hchars : l.chars = (Enclosure.string.enclose x).toList) : l = Enclosure.string.lexeme x := by
  rw [Enclosure.lexeme_string]
  rw [Enclosure.toList_enclose] at hchars
  cases h with
  | @string t _ inner =>
    obtain rfl : t = x.toList := List.append_cancel_right (List.cons.inj hchars).2
    rfl
  | @openString t quoted inner =>
    -- the closing quote would be in the text
    have ht : '"' :: t = '"' :: (x.toList ++ ['"']) := quoted.symm.trans hchars
    rw [(List.cons.inj ht).2] at inner
    simp at inner
  | symbol _ _ spelled _ =>
    cases hkind
    cases spelled
  | _ => cases hkind

theorem Reads.eq_lexeme_block (h : Reads mode r l) (hkind : l.kind = .commentBlock)
    (hchars : l.chars = (Enclosure.block.enclose x).toList) : l = Enclosure.block.lexeme x := by
  rw [Enclosure.lexeme_of_ne (by decide), ← hchars]
  cases h with
  | blockComment => rfl
  | openBlockComment _ never =>
    -- the whole text ends in the closer
    have hr : r = (Enclosure.block.enclose x).toList := hchars
    refine absurd ?_ (never r List.prefix_rfl)
    rw [hr, Enclosure.toList_enclose]
    refine ⟨?_, List.suffix_append _ _⟩
    simp [Enclosure.opener, Enclosure.closer]
  | symbol _ _ spelled _ =>
    cases hkind
    cases spelled
  | _ => cases hkind

theorem Reads.eq_lexeme_line (h : Reads mode r l) (hkind : l.kind = .comment)
    (hchars : l.chars = (Enclosure.line.enclose x).toList) (hr : r = l.chars ++ q) :
    l = Enclosure.line.lexeme x ∧ ∀ y ∈ q.head?, y = '\n' := by
  rw [Enclosure.lexeme_of_ne (by decide), ← hchars]
  cases h with
  | @lineComment m _ extent =>
    obtain rfl : r = m ++ q := hr
    refine ⟨rfl, ?_⟩
    intro y hy
    by_contra hne
    -- the comment would go on with this character
    refine extent.not_append hy ?_
    simpa [Ne.symm hne] using extent.holds
  | symbol _ _ spelled _ =>
    cases hkind
    cases spelled
  | _ => cases hkind

/-- **What takes up an enclosed text is the lexeme that encloses it**, and its end is where it should
be. -/
theorem Reads.eq_lexeme (h : Reads mode ((c.enclose x).toList ++ q) l) (hkind : l.kind = c.kind)
    (hchars : l.chars = (c.enclose x).toList) : l = c.lexeme x ∧ c.Meets q := by
  cases c with
  | string => exact ⟨h.eq_lexeme_string hkind hchars, fun hc => by cases hc⟩
  | block => exact ⟨h.eq_lexeme_block hkind hchars, fun hc => by cases hc⟩
  | line =>
    obtain ⟨hl, hq⟩ := h.eq_lexeme_line hkind hchars (by rw [hchars])
    exact ⟨hl, fun _ => hq⟩

end

end LexFront
