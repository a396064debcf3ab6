import LexFront.Proofs.Text.Extent
import LexFront.Text.Lines

/-! Lines and rows. `Lined cs ls` says what the lines of a text are without going through it character
by character, and `lined_iff` that these are the ones that are found. Rows are put together to a text
by a line feed behind each, and can be counted in it and read back. -/
namespace LexFront.Text

/-- What a line feed ends: a carriage return right before it does not belong to the line. -/
def chomp (l : List Char) : List Char := if l.getLast? = some '\r' then l.dropLast else l

/-- **The lines of a text**: what stands in front of each line feed, less a carriage return, and what
stands behind the last one, unless that is nothing. -/
inductive Lined : List Char → List (List Char) → Prop
  | nil : Lined [] []
  | last {l : List Char} (ne : l ≠ []) (line : '\n' ∉ l) : Lined l [l]
  | next {l cs : List Char} {ls : List (List Char)} (line : '\n' ∉ l) (tail : Lined cs ls) :
      Lined (l ++ '\n' :: cs) (chomp l :: ls)

/-- Rows as one text, each ended by a line feed. -/
def unlines (rows : List String) : String := String.join (rows.map (· ++ "\n"))

/-- The rows that a text is made of. -/
def cutRows (text : String) : List String :=
  (text.toList.splitOn '\n').dropLast.map String.ofList

section
variable {c : Char} {l cs : List Char} {ls : List (List Char)}

theorem lines_cons (hc : c ≠ '\n') (hcs : c = '\r' → cs.head? ≠ some '\n') :
    lines (c :: cs) = match lines cs with
      | [] => [[c]]
      | l :: ls => (c :: l) :: ls := by
  rw [lines.eq_def]
  split
  · rename_i h
    cases h
  · rename_i h
    cases h
    exact absurd rfl hc
  · rename_i h
    cases h
    exact absurd rfl (hcs rfl)
  · rename_i h
    cases h
    rfl

theorem lines_of_not_mem (hne : l ≠ []) (hl : '\n' ∉ l) : lines l = [l] := by
  induction l with
  | nil => exact absurd rfl hne
  | cons c l ih =>
    rw [List.mem_cons, not_or] at hl
    obtain ⟨hc, hl⟩ := hl
    have hcs : c = '\r' → l.head? ≠ some '\n' := fun _ hhead => hl (List.mem_of_head? hhead)
    rw [lines_cons (Ne.symm hc) hcs]
    by_cases hnil : l = []
    · rw [hnil]
      rfl
    · rw [ih hnil hl]

theorem chomp_cons (hl : l ≠ []) : chomp (c :: l) = c :: chomp l := by
  obtain ⟨d, l, rfl⟩ := List.exists_cons_of_ne_nil hl
  rw [chomp, chomp, List.getLast?_cons_cons]
  split <;> rfl

theorem lines_append (hl : '\n' ∉ l) : lines (l ++ '\n' :: cs) = chomp l :: lines cs := by
  induction l with
  | nil => rfl
  | cons c l ih =>
    rw [List.mem_cons, not_or] at hl
    obtain ⟨hc, hl⟩ := hl
    by_cases hreturn : c = '\r' ∧ l = []
    · obtain ⟨rfl, rfl⟩ := hreturn
      rfl
    · have hcs : c = '\r' → (l ++ '\n' :: cs).head? ≠ some '\n' := by
        intro hcr
        obtain ⟨d, l, rfl⟩ := List.exists_cons_of_ne_nil fun hnil => hreturn ⟨hcr, hnil⟩
        rintro ⟨⟩
        exact hl List.mem_cons_self
      rw [List.cons_append, lines_cons (Ne.symm hc) hcs, ih hl]
      by_cases hnil : l = []
      · -- the line is this one character, which is no carriage return
        subst hnil
        have hne : c ≠ '\r' := fun hcr => hreturn ⟨hcr, rfl⟩
        simp [chomp, hne]
      · rw [chomp_cons hnil]

/-- Lines that are each ended by a line feed are found again. -/
theorem lines_flatMap (h : ∀ l ∈ ls, '\n' ∉ l ∧ chomp l = l) :
    lines (ls.flatMap (· ++ ['\n'])) = ls := by
  induction ls with
  | nil => rfl
  | cons l ls ih =>
    obtain ⟨hfeed, hchomp⟩ := h l List.mem_cons_self
    rw [List.flatMap_cons, List.append_assoc, List.singleton_append, lines_append hfeed, hchomp,
      ih fun m hm => h m (List.mem_cons_of_mem l hm)]

/-- **The lines that are found are the lines of the text**, and no others are. -/
theorem lined_iff : Lined cs ls ↔ ls = lines cs := by
  constructor
  · intro h
    induction h with
    | nil => rfl
    | last ne line => rw [lines_of_not_mem ne line]
    | next line _ ih => rw [lines_append line, ih]
  · rintro rfl
    -- on the length of the text: each line feed leaves a shorter one behind it
    induction hn : cs.length using Nat.strong_induction_on generalizing cs with
    | _ n ih =>
      by_cases hfeed : '\n' ∈ cs
      · obtain ⟨t, ht⟩ := exists_eq_takeWhile_ne_append hfeed
        have hline := (longest_takeWhile_ne '\n' cs).holds
        rw [ht] at hn ⊢
        rw [lines_append hline]
        refine .next hline (ih t.length ?_ rfl)
        rw [← hn, List.length_append, List.length_cons]
        omega
      · by_cases hnil : cs = []
        · subst hnil
          exact .nil
        · rw [lines_of_not_mem hnil hfeed]
          exact .last hnil hfeed

theorem not_mem_chomp {x : Char} (hl : x ∉ l) : x ∉ chomp l := by
  rw [chomp]
  split
  · exact fun hx => hl (List.dropLast_subset l hx)
  · exact hl

theorem Lined.not_mem (h : Lined cs ls) : ∀ l ∈ ls, '\n' ∉ l := by
  induction h with
  | nil => simp
  | last _ line => simpa using line
  | next line _ ih => exact List.forall_mem_cons.2 ⟨not_mem_chomp line, ih⟩

/-- One carriage return goes with the line feed behind it, one at the end of the text stays. -/
example : lines ['a', '\r', '\r', '\n', '\n', 'b', '\r'] = [['a', '\r'], [], ['b', '\r']] := by
  decide

end

/-! ## Rows -/

section
variable {rows : List String}

theorem toList_unlines : (unlines rows).toList = rows.flatMap fun row => row.toList ++ ['\n'] := by
  rw [unlines, String.toList_join, List.flatMap_map]
  simp only [String.toList_append]
  rfl

/-- Rows without line feeds are as many as the line feeds of the text. -/
theorem count_unlines (h : ∀ row ∈ rows, '\n' ∉ row.toList) :
    (unlines rows).toList.count '\n' = rows.length := by
  rw [toList_unlines]
  induction rows with
  | nil => rfl
  | cons row rows ih =>
    obtain ⟨hrow, hrows⟩ := List.forall_mem_cons.1 h
    rw [List.flatMap_cons, List.count_append, List.count_append, ih hrows,
      List.count_eq_zero_of_not_mem hrow, List.length_cons, Nat.zero_add, Nat.add_comm]
    rfl

/-- Rows without line feeds are read back from their text. -/
theorem cutRows_unlines (h : ∀ row ∈ rows, '\n' ∉ row.toList) :
    cutRows (unlines rows) = rows := by
  have hsplit : (rows.flatMap fun row => row.toList ++ ['\n']).splitOn '\n' =
      rows.map String.toList ++ [[]] := by
    induction rows with
    | nil => rfl
    | cons row rows ih =>
      obtain ⟨hrow, hrows⟩ := List.forall_mem_cons.1 h
      rw [List.flatMap_cons, List.append_assoc, List.singleton_append,
        List.splitOn_append_cons_self_of_not_mem hrow, ih hrows]
      rfl
  have hself : String.ofList ∘ String.toList = id := funext fun _ => String.ofList_toList
  rw [cutRows, toList_unlines, hsplit, List.dropLast_concat, List.map_map, hself, List.map_id]

end

end LexFront.Text
