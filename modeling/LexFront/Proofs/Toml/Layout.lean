import LexFront.Proofs.Text.Extent
import LexFront.Toml.Document
import Mathlib.Data.List.Forall2

/-! The layout of a document. A line with blanks and a comment says nothing, and each line may end in
either way; so a document says what its other lines say, in their order. That holds of lines that
say one thing each, whatever line comes next. -/
namespace LexFront.Toml

/-! ## Lines that say nothing -/

/-- How a line ends. -/
inductive LineEnd where
  /-- By a line feed. -/
  | feed
  /-- By a carriage return with a line feed. -/
  | returnFeed
  deriving DecidableEq, Repr

/-- The characters that end a line. -/
def LineEnd.chars : LineEnd → List Char
  | feed => ['\n']
  | returnFeed => ['\r', '\n']

/-- Whether a character is one of the controls of ASCII. -/
def IsControl (c : Char) : Prop := c.toNat < 0x20 ∨ c.toNat = 0x7F

/-- **A line that says nothing**: spaces and tabs, and behind them perhaps a comment, which may hold any
characters but controls other than the tab. -/
inductive Idle : List Char → Prop
  | blank {bs : List Char} (blanks : ∀ c ∈ bs, c = ' ' ∨ c = '\t') : Idle bs
  | comment {bs body : List Char} (blanks : ∀ c ∈ bs, c = ' ' ∨ c = '\t')
      (text : ∀ c ∈ body, c = '\t' ∨ ¬IsControl c) : Idle (bs ++ '#' :: body)

/-- **A text that lays out some lines**: it has them in order, each with an end of either kind, and in
front of them, between them and behind them any lines that say nothing. -/
inductive LaidOut : List (List Char) → List Char → Prop
  | nil : LaidOut [] []
  | idle {ls : List (List Char)} {l cs : List Char} (e : LineEnd) (line : Idle l)
      (rest : LaidOut ls cs) : LaidOut ls (l ++ (e.chars ++ cs))
  | line {ls : List (List Char)} {cs : List Char} (l : List Char) (e : LineEnd)
      (rest : LaidOut ls cs) : LaidOut (l :: ls) (l ++ (e.chars ++ cs))

theorem laidOut_flatMap (ls : List (List Char)) : LaidOut ls (ls.flatMap (· ++ ['\n'])) := by
  induction ls with
  | nil => exact .nil
  | cons l ls ih =>
    rw [List.flatMap_cons, List.append_assoc]
    exact .line l .feed ih

section
variable {l bs s : List Char} {e : LineEnd}

theorem isBlank_iff {c : Char} : isBlank c = true ↔ c = ' ' ∨ c = '\t' := by
  simp [isBlank]

theorem isText_iff {c : Char} : isText c = true ↔ c = '\t' ∨ ¬IsControl c := by
  simp [isText, IsControl]

theorem idle_of_all (h : bs.all isBlank = true) : Idle bs :=
  .blank fun c hc => isBlank_iff.1 (List.all_eq_true.1 h c hc)

theorem idle_comment_of_all {body : List Char} (h : bs.all isBlank = true)
    (hbody : body.all isText = true) : Idle (bs ++ '#' :: body) :=
  .comment (fun c hc => isBlank_iff.1 (List.all_eq_true.1 h c hc)) fun c hc =>
    isText_iff.1 (List.all_eq_true.1 hbody c hc)

theorem head?_chars {x : Char} (h : x ∈ (e.chars ++ s).head?) :
    isBlank x = false ∧ isText x = false ∧ x ≠ '#' := by
  cases e <;> cases h <;> decide

/-- What holds of the first character holds of whatever a text starts with. -/
theorem forall_head?_cons {P : Char → Prop} {x : Char} (h : P x) : ∀ y ∈ (x :: s).head?, P y := by
  intro y hy
  cases hy
  exact h

theorem skipBlanks_append (hbs : ∀ c ∈ bs, isBlank c = true)
    (hs : ∀ x ∈ s.head?, isBlank x = false) : skipBlanks (bs ++ s) = s :=
  Text.dropWhile_append_of_stop hbs hs

theorem skipBlanks_eq (hs : ∀ x ∈ s.head?, isBlank x = false) : skipBlanks s = s := by
  have h : skipBlanks ([] ++ s) = s := skipBlanks_append (by simp) hs
  rwa [List.nil_append] at h

theorem skipComment_eq (hs : ∀ x ∈ s.head?, x ≠ '#') : skipComment s = s := by
  cases s with
  | nil => rfl
  | cons c s =>
    have hc : c ≠ '#' := hs c rfl
    simp [skipComment, hc]

/-- Where blanks and a comment are skipped and a line ends, the next line begins. -/
theorem endLine?_of_skip (h : skipComment (skipBlanks l) = e.chars ++ s) : endLine? l = some s := by
  rw [endLine?, h]
  cases e <;> rfl

theorem endLine?_idle (h : Idle l) : endLine? (l ++ (e.chars ++ s)) = some s := by
  have hhead : ∀ x ∈ (e.chars ++ s).head?, isBlank x = false ∧ isText x = false ∧ x ≠ '#' :=
    fun _ => head?_chars
  cases h with
  | blank blanks =>
    apply endLine?_of_skip (e := e)
    rw [skipBlanks_append (fun c hc => isBlank_iff.2 (blanks c hc)) fun x hx => (hhead x hx).1,
      skipComment_eq fun x hx => (hhead x hx).2.2]
  | @comment bs body blanks text =>
    apply endLine?_of_skip (e := e)
    have hmark : ∀ x ∈ ('#' :: (body ++ (e.chars ++ s))).head?, isBlank x = false :=
      forall_head?_cons (by decide)
    rw [List.append_assoc, List.cons_append,
      skipBlanks_append (fun c hc => isBlank_iff.2 (blanks c hc)) hmark, skipComment,
      Text.dropWhile_append_of_stop (fun c hc => isText_iff.2 (text c hc)) fun x hx => (hhead x hx).2.1]

theorem endLine?_chars : endLine? (e.chars ++ s) = some s := by
  have hnil : Idle [] := .blank (by simp)
  exact endLine?_idle hnil

end

/-! ## Lines that say something -/

/-- **A line that says one thing**, whatever line comes next. -/
structure Tells (l : List Char) (statement : Statement) : Prop where
  not_idle : ∀ (e : LineEnd) (s : List Char), endLine? (l ++ (e.chars ++ s)) = none
  reads : ∀ (e : LineEnd) (s : List Char),
    statement? (skipBlanks (l ++ (e.chars ++ s))) = some (statement, e.chars ++ s)

section
variable {l s : List Char} {e : LineEnd} {statement : Statement}

theorem line?_idle (h : Idle l) : line? (l ++ (e.chars ++ s)) = some (none, s) := by
  rw [line?, endLine?_idle h]

theorem line?_tells (h : Tells l statement) : line? (l ++ (e.chars ++ s)) = some (some statement, s) := by
  rw [line?, h.not_idle, h.reads e s]
  simp only [Option.bind_eq_bind, Option.bind_some, endLine?_chars]
  rfl

theorem statements?_of_line? {said : Option Statement}
    (h : line? (l ++ (e.chars ++ s)) = some (said, s)) :
    statements? (l ++ (e.chars ++ s)) = (statements? s).map (said.toList ++ ·) := by
  have hshort : s.length < (l ++ (e.chars ++ s)).length := by
    have hend : 0 < e.chars.length := by cases e <;> decide
    rw [List.length_append, List.length_append]
    omega
  rw [statements?.eq_def]
  split
  next hnil =>
    rw [hnil] at hshort
    exact absurd hshort (Nat.not_lt_zero _)
  · rw [h]
    exact if_pos hshort

/-- **A document says what its lines say**, however it is laid out. -/
theorem statements?_laidOut {ls : List (List Char)} {cs : List Char} {said : List Statement}
    (h : LaidOut ls cs) (hsaid : List.Forall₂ Tells ls said) : statements? cs = some said := by
  induction h generalizing said with
  | nil =>
    cases hsaid
    rw [statements?]
  | idle e line rest ih =>
    rw [statements?_of_line? (line?_idle line), ih hsaid]
    rfl
  | line l e rest ih =>
    cases hsaid with
    | cons hline htail =>
      rw [statements?_of_line? (line?_tells hline), ih htail]
      rfl

/-! ## The byte order mark -/

theorem head?_append_ne {x : Char} (hl : l.head? ≠ some x) (hs : s.head? ≠ some x) :
    (l ++ s).head? ≠ some x := by
  cases l with
  | nil => exact hs
  | cons y l => exact hl

theorem Idle.head?_ne_mark (h : Idle l) : l.head? ≠ some '\ufeff' := by
  have hblanks : ∀ bs : List Char, (∀ c ∈ bs, c = ' ' ∨ c = '\t') → bs.head? ≠ some '\ufeff' := by
    intro bs hbs hmark
    have h := hbs '\ufeff' (List.mem_of_head? hmark)
    revert h
    decide
  cases h with
  | blank blanks => exact hblanks _ blanks
  | comment blanks text => exact head?_append_ne (hblanks _ blanks) (by simp)

/-- A document has no byte order mark in front if its lines have none. -/
theorem dropMark_laidOut {ls : List (List Char)} {cs : List Char} (h : LaidOut ls cs)
    (hls : ∀ l ∈ ls, l.head? ≠ some '\ufeff') : dropMark cs = cs := by
  have hend : ∀ (e : LineEnd) (s : List Char), (e.chars ++ s).head? ≠ some '\ufeff' := by
    intro e s
    cases e <;> simp [LineEnd.chars]
  have hhead : cs.head? ≠ some '\ufeff' := by
    cases h with
    | nil => simp
    | idle e line rest => exact head?_append_ne line.head?_ne_mark (hend e _)
    | line l e rest => exact head?_append_ne (hls l List.mem_cons_self) (hend e _)
  rw [dropMark.eq_def]
  split
  · exact absurd rfl hhead
  · rfl

end

end LexFront.Toml
