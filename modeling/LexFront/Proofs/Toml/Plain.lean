import LexFront.Proofs.Toml.Layout

/-! Plain lines: a header with a bare key, and a bare key with a string or a truth value behind an equals
sign. Each says one thing, whatever line comes next. -/
namespace LexFront.Toml

/-- A key that is written without quotes. -/
structure IsBare (name : List Char) : Prop where
  ne_nil : name ≠ []
  bare : ∀ c ∈ name, isBareKey c = true

/-- A character that stands for itself in double quotes. -/
def isPlain (c : Char) : Bool := isText c && c != '"' && c != '\\'

/-- A text that stands in double quotes as it is. -/
structure IsPlain (text : List Char) : Prop where
  ne_nil : text ≠ []
  plain : ∀ c ∈ text, isPlain c = true

/-- The line that opens a table under a key. -/
def headerLine (name : List Char) : List Char := '[' :: (name ++ [']'])

/-- The line that gives a key a value. -/
def settingLine (name value : List Char) : List Char := name ++ (' ' :: '=' :: ' ' :: value)

/-- A text in double quotes, without escapes. -/
def enquote (text : List Char) : List Char := '"' :: (text ++ ['"'])

/-- How a truth value is written. -/
def truthText (b : Bool) : List Char := if b then "true".toList else "false".toList

section
variable {name text t : List Char}

/-! ## Keys -/

theorem ne_of_isBareKey {c d : Char} (hc : isBareKey c = true) (hd : isBareKey d = false) : c ≠ d := by
  rintro rfl
  rw [hc] at hd
  cases hd

theorem isBlank_of_isBareKey {c : Char} (h : isBareKey c = true) : isBlank c = false := by
  by_contra hblank
  rw [Bool.not_eq_false, isBlank_iff] at hblank
  rcases hblank with hspace | htab
  · exact ne_of_isBareKey h (by decide) hspace
  · exact ne_of_isBareKey h (by decide) htab

theorem exists_head?_bare (h : IsBare name) (t : List Char) :
    ∃ x, (name ++ t).head? = some x ∧ isBareKey x = true := by
  obtain ⟨x, rest, rfl⟩ := List.exists_cons_of_ne_nil h.ne_nil
  exact ⟨x, rfl, h.bare x List.mem_cons_self⟩

theorem skipBlanks_bare (h : IsBare name) : skipBlanks (name ++ t) = name ++ t := by
  obtain ⟨x, hx, hbare⟩ := exists_head?_bare h t
  apply skipBlanks_eq
  intro y hy
  rw [hx, Option.mem_some_iff] at hy
  subst hy
  exact isBlank_of_isBareKey hbare

theorem keyPart?_bare (h : IsBare name) (ht : ∀ x ∈ t.head?, isBareKey x = false) :
    keyPart? (name ++ t) = some (String.ofList name, t) := by
  rw [keyPart?, Text.takeWhile_append_of_stop h.bare ht, Text.dropWhile_append_of_stop h.bare ht]
  obtain ⟨x, rest, rfl⟩ := List.exists_cons_of_ne_nil h.ne_nil
  rfl

theorem keyParts?_bare (h : IsBare name) (ht : ∀ x ∈ t.head?, isBareKey x = false)
    (hpoint : (skipBlanks t).head? ≠ some '.') :
    keyParts? (name ++ t) = some ([String.ofList name], skipBlanks t) := by
  rw [keyParts?, skipBlanks_bare h, keyPart?_bare h ht]
  simp only [Option.bind_eq_bind, Option.bind_some]
  split
  next rest hrest =>
    rw [hrest] at hpoint
    exact absurd rfl hpoint
  · rfl

/-- A bare key is read with the blanks behind it. -/
theorem key?_bare (h : IsBare name) (ht : ∀ x ∈ t.head?, isBareKey x = false)
    (hpoint : (skipBlanks t).head? ≠ some '.') :
    key? (name ++ t) = some (⟨[], String.ofList name⟩, skipBlanks t) := by
  rw [key?, keyParts?_bare h ht hpoint]
  rfl

/-! ## Values -/

theorem isPlain_iff {c : Char} : isPlain c = true ↔ isText c = true ∧ c ≠ '"' ∧ c ≠ '\\' := by
  simp [isPlain, and_assoc]

theorem basicBody?_cons {c : Char} {s : List Char} (h : isPlain c = true) :
    basicBody? (c :: s) = (basicBody? s).map (push c) := by
  obtain ⟨htext, hquote, hslash⟩ := isPlain_iff.1 h
  rw [basicBody?]
  · simp [htext, hslash]
  · exact hquote
  all_goals
    intros
    exact absurd ‹c = '\\'› hslash

theorem basicBody?_plain (h : ∀ c ∈ text, isPlain c = true) :
    basicBody? (text ++ '"' :: t) = some (text, t) := by
  induction text with
  | nil => rfl
  | cons c text ih =>
    rw [List.cons_append, basicBody?_cons (h c List.mem_cons_self),
      ih fun d hd => h d (List.mem_cons_of_mem _ hd)]
    rfl

theorem value?_enquote (h : IsPlain text) (depth : Nat) :
    value? (depth + 1) (enquote text ++ t) = some (.string (String.ofList text), t) := by
  have hquoted : enquote text ++ t = '"' :: (text ++ '"' :: t) := by simp [enquote]
  have hstring : string? ('"' :: (text ++ '"' :: t)) = shortString? ('"' :: (text ++ '"' :: t)) := by
    -- its first character is no quote, so it is not one of those in three quotes
    obtain ⟨x, rest, rfl⟩ := List.exists_cons_of_ne_nil h.ne_nil
    have hx : x ≠ '"' := (isPlain_iff.1 (h.plain x List.mem_cons_self)).2.1
    rw [string?]
    · intro s hs
      exact hx (List.cons.inj (List.cons.inj hs).2).1
    · intro s hs
      cases hs
  have hread : shortString? ('"' :: (text ++ '"' :: t)) = some (String.ofList text, t) := by
    rw [shortString?, basicBody?_plain h.plain]
    rfl
  calc value? (depth + 1) (enquote text ++ t)
      = value? (depth + 1) ('"' :: (text ++ '"' :: t)) := by rw [hquoted]
    _ = (string? ('"' :: (text ++ '"' :: t))).map fun p => (.string p.1, p.2) := rfl
    _ = some (.string (String.ofList text), t) := by rw [hstring, hread]; rfl

theorem value?_truthText (b : Bool) (depth : Nat) :
    value? (depth + 1) (truthText b ++ t) = some (.boolean b, t) := by
  cases b <;> rfl

/-! ## Lines -/

/-- What starts with something else than a blank, a comment or the end of a line says something. -/
theorem endLine?_cons {x : Char} {s : List Char} (hblank : isBlank x = false) (hmark : x ≠ '#')
    (hfeed : x ≠ '\n') (hreturn : x ≠ '\r') : endLine? (x :: s) = none := by
  have hskip : skipComment (skipBlanks (x :: s)) = x :: s := by
    rw [skipBlanks_eq (forall_head?_cons hblank), skipComment_eq (forall_head?_cons hmark)]
  rw [endLine?, hskip]
  simp [lineBreak?, hfeed, hreturn]

theorem tells_header (h : IsBare name) :
    Tells (headerLine name) (.header ⟨[], String.ofList name⟩) where
  not_idle := fun e s => endLine?_cons (by decide) (by decide) (by decide) (by decide)
  reads := by
    intro e s
    have hline : skipBlanks (headerLine name ++ (e.chars ++ s)) =
        '[' :: (name ++ ']' :: (e.chars ++ s)) := by
      simp [headerLine, skipBlanks, isBlank]
    have hkey : key? (name ++ ']' :: (e.chars ++ s)) =
        some (⟨[], String.ofList name⟩, ']' :: (e.chars ++ s)) :=
      key?_bare h (forall_head?_cons (by decide)) (by simp [skipBlanks, isBlank])
    rw [hline]
    -- the key does not start with a bracket, so this opens one table and not the next of an array
    obtain ⟨x, rest, rfl⟩ := List.exists_cons_of_ne_nil h.ne_nil
    have hx : x ≠ '[' := ne_of_isBareKey (h.bare x List.mem_cons_self) (by decide)
    rw [statement?]
    · rw [hkey]
      rfl
    · intro t ht
      exact hx (List.cons.inj ht).1

/-- A setting is read up to what follows it, if that does not start with a blank. -/
theorem pair?_setting {item : Reader Value} {v : Value} (h : IsBare name)
    (hhead : ∃ x ∈ text.head?, isBlank x = false) (hvalue : item (text ++ t) = some (v, t))
    (ht : ∀ x ∈ t.head?, isBlank x = false) :
    pair? item (settingLine name text ++ t) = some ((⟨[], String.ofList name⟩, v), t) := by
  have hkey : key? (name ++ (' ' :: '=' :: ' ' :: (text ++ t))) =
      some (⟨[], String.ofList name⟩, '=' :: ' ' :: (text ++ t)) :=
    key?_bare h (forall_head?_cons (by decide)) (by simp [skipBlanks, isBlank])
  have htext : skipBlanks (' ' :: (text ++ t)) = text ++ t := by
    obtain ⟨y, hy, hblank⟩ := hhead
    obtain ⟨u, rfl⟩ := List.head?_eq_some_iff.1 hy
    have hspace : ∀ c ∈ [' '], isBlank c = true := List.forall_mem_singleton.2 (by decide)
    exact skipBlanks_append hspace (forall_head?_cons hblank)
  have hline : settingLine name text ++ t = name ++ (' ' :: '=' :: ' ' :: (text ++ t)) := by
    rw [settingLine, List.append_assoc]
    rfl
  rw [hline, pair?, hkey]
  simp only [Option.bind_eq_bind, Option.bind_some, expect?, if_true, htext, hvalue, skipBlanks_eq ht]
  rfl

theorem statement?_of_ne {x : Char} {s : List Char} (hx : x ≠ '[') :
    statement? (x :: s) = (pair? (value? depthLimit) (x :: s)).map fun p => (.pair p.1.1 p.1.2, p.2) := by
  rw [statement?]
  · cases pair? (value? depthLimit) (x :: s) <;> rfl
  · intro t ht
    exact hx (List.cons.inj ht).1
  · intro t ht
    exact hx (List.cons.inj ht).1

/-- A bare key, an equals sign and a value say that the key has the value. -/
theorem tells_setting {v : Value} (h : IsBare name) (hhead : ∃ x ∈ text.head?, isBlank x = false)
    (hvalue : ∀ t, value? depthLimit (text ++ t) = some (v, t)) :
    Tells (settingLine name text) (.pair ⟨[], String.ofList name⟩ v) where
  not_idle := by
    intro e s
    obtain ⟨x, rest, rfl⟩ := List.exists_cons_of_ne_nil h.ne_nil
    have hbare := h.bare x List.mem_cons_self
    exact endLine?_cons (isBlank_of_isBareKey hbare) (ne_of_isBareKey hbare (by decide))
      (ne_of_isBareKey hbare (by decide)) (ne_of_isBareKey hbare (by decide))
  reads := by
    intro e s
    have hend : ∀ x ∈ (e.chars ++ s).head?, isBlank x = false := fun x hx => (head?_chars hx).1
    have hpair := pair?_setting h hhead (hvalue (e.chars ++ s)) hend
    rw [settingLine, List.append_assoc] at hpair ⊢
    rw [skipBlanks_bare h]
    obtain ⟨x, rest, rfl⟩ := List.exists_cons_of_ne_nil h.ne_nil
    have hx : x ≠ '[' := ne_of_isBareKey (h.bare x List.mem_cons_self) (by decide)
    rw [List.cons_append] at hpair ⊢
    rw [statement?_of_ne hx, hpair]
    rfl

end

end LexFront.Toml
