import Mathlib.Data.List.TakeWhile

/-! How far into a text something reaches: the longest and the shortest of the texts it starts
with that have a property. Both are unique, so a rule that names one leaves nothing open.
`longest_takeWhile` and `throughCloser_eq_some_iff` tie the two loops of the scanner to them. -/
namespace LexFront.Text

/-- `m` is the longest text with the property `P` that `r` starts with. -/
structure Longest (P : List Char → Prop) (m r : List Char) : Prop where
  starts : m <+: r
  holds : P m
  bound : ∀ n, n <+: r → P n → n.length ≤ m.length

/-- `m` is the shortest text with the property `P` that `r` starts with. -/
structure Shortest (P : List Char → Prop) (m r : List Char) : Prop where
  starts : m <+: r
  holds : P m
  bound : ∀ n, n <+: r → P n → m.length ≤ n.length

private theorem starts_unique {m n r : List Char} (hm : m <+: r) (hn : n <+: r)
    (h : m.length = n.length) : m = n :=
  (List.prefix_of_prefix_length_le hm hn (Nat.le_of_eq h)).eq_of_length h

theorem Longest.unique {P m n r} (hm : Longest P m r) (hn : Longest P n r) : m = n :=
  starts_unique hm.starts hn.starts
    (Nat.le_antisymm (hn.bound m hm.starts hm.holds) (hm.bound n hn.starts hn.holds))

theorem Shortest.unique {P m n r} (hm : Shortest P m r) (hn : Shortest P n r) : m = n :=
  starts_unique hm.starts hn.starts
    (Nat.le_antisymm (hm.bound n hn.starts hn.holds) (hn.bound m hm.starts hm.holds))

theorem Shortest.append {P : List Char → Prop} {m r : List Char} (h : Shortest P m r)
    (q : List Char) : Shortest P m (r ++ q) where
  starts := h.starts.trans (List.prefix_append r q)
  holds := h.holds
  bound := by
    intro n hn hP
    rcases List.prefix_or_prefix_of_prefix hn (List.prefix_append r q) with hnr | hrn
    · exact h.bound n hnr hP
    · exact Nat.le_trans h.starts.length_le hrn.length_le

theorem Longest.of_prefix {P : List Char → Prop} {m r s : List Char} (h : Longest P m r)
    (hs : s <+: r) (hm : m <+: s) : Longest P m s :=
  ⟨hm, h.holds, fun n hn hP => h.bound n (hn.trans hs) hP⟩

theorem Shortest.of_prefix {P : List Char → Prop} {m r s : List Char} (h : Shortest P m r)
    (hs : s <+: r) (hm : m <+: s) : Shortest P m s :=
  ⟨hm, h.holds, fun n hn hP => h.bound n (hn.trans hs) hP⟩

/-- The longest start with a property does not have it any more with the next character. -/
theorem Longest.not_append {P : List Char → Prop} {m q : List Char} {x : Char}
    (h : Longest P m (m ++ q)) (hx : q.head? = some x) : ¬ P (m ++ [x]) := by
  intro hP
  obtain ⟨t, rfl⟩ := List.head?_eq_some_iff.1 hx
  have hle := h.bound (m ++ [x]) (by simp) hP
  rw [List.length_append] at hle
  exact Nat.not_succ_le_self _ hle

theorem singleton_starts_iff {x : Char} {r : List Char} : [x] <+: r ↔ r.head? = some x := by
  cases r with
  | nil => simp
  | cons y r => simp [List.cons_prefix_cons, eq_comm]

theorem Longest.ne_nil {P : List Char → Prop} {m r : List Char} {x : Char} (h : Longest P m r)
    (hx : r.head? = some x) (hP : P [x]) : m ≠ [] :=
  List.ne_nil_of_length_pos (h.bound [x] (singleton_starts_iff.2 hx) hP)

/-! ## Runs of one class -/

/-- A run of accepted characters reaches as far as any text of accepted characters. -/
theorem longest_takeWhile (p : Char → Bool) (r : List Char) :
    Longest (fun m => ∀ c ∈ m, p c = true) (r.takeWhile p) r where
  starts := List.takeWhile_prefix p
  holds := fun _ hc => List.mem_takeWhile_imp hc
  bound := by
    rintro n ⟨t, rfl⟩ hn
    rw [List.takeWhile_append_of_pos hn, List.length_append]
    exact Nat.le_add_right _ _

theorem longest_takeWhile_ne (x : Char) (r : List Char) :
    Longest (x ∉ ·) (r.takeWhile (· != x)) r := by
  have h := longest_takeWhile (· != x) r
  have hiff : ∀ m : List Char, (∀ c ∈ m, (c != x) = true) ↔ x ∉ m := by
    intro m
    simp only [bne_iff_ne, ne_eq]
    exact ⟨fun hm hx => hm x hx rfl, fun hx c hc hcx => hx (hcx ▸ hc)⟩
  exact ⟨h.starts, (hiff _).1 h.holds, fun n hn hx => h.bound n hn ((hiff n).2 hx)⟩

theorem drop_takeWhile (p : Char → Bool) (r : List Char) :
    r.drop (r.takeWhile p).length = r.dropWhile p := by
  have h := @List.drop_left _ (r.takeWhile p) (r.dropWhile p)
  rwa [List.takeWhile_append_dropWhile] at h

theorem head?_dropWhile {p : Char → Bool} {r q : List Char} {x : Char}
    (h : r.dropWhile p = x :: q) : p x = false := by
  have hx := List.head?_dropWhile_not p r
  rw [h] at hx
  simpa using hx

/-- The characters up to the first `x`, where there is one. -/
theorem exists_eq_takeWhile_ne_append {x : Char} {q : List Char} (h : x ∈ q) :
    ∃ t, q = q.takeWhile (· != x) ++ x :: t := by
  have hsplit := @List.takeWhile_append_dropWhile _ (· != x) q
  cases hq : q.dropWhile (· != x) with
  | nil =>
    rw [hq, List.append_nil] at hsplit
    have hx := (longest_takeWhile_ne x q).holds
    rw [hsplit] at hx
    exact absurd h hx
  | cons y t =>
    have hy : y = x := by simpa using head?_dropWhile hq
    rw [hq, hy] at hsplit
    exact ⟨t, hsplit.symm⟩

theorem takeWhile_append_of_stop {p : Char → Bool} {m q : List Char}
    (hm : ∀ c ∈ m, p c = true) (hq : ∀ x ∈ q.head?, p x = false) :
    (m ++ q).takeWhile p = m := by
  rw [List.takeWhile_append_of_pos hm]
  cases q with
  | nil => simp
  | cons x q => simp [hq x rfl]

theorem dropWhile_append_of_stop {p : Char → Bool} {m q : List Char}
    (hm : ∀ c ∈ m, p c = true) (hq : ∀ x ∈ q.head?, p x = false) :
    (m ++ q).dropWhile p = q := by
  rw [List.dropWhile_append_of_pos hm]
  cases q with
  | nil => rfl
  | cons x q => simp [hq x rfl]

/-- A start made of accepted characters does not reach over the first other character. -/
theorem prefix_of_stop {p : Char → Bool} {n m q : List Char} (hn : n <+: m ++ q)
    (hall : ∀ c ∈ n, p c = true) (hq : ∀ x ∈ q.head?, p x = false) : n <+: m := by
  rcases List.prefix_or_prefix_of_prefix hn (List.prefix_append m q) with h | ⟨t, rfl⟩
  · exact h
  · cases t with
    | nil => simp
    | cons y t =>
      obtain ⟨q', rfl⟩ := (List.prefix_append_right_inj m).1 hn
      have hy := hall y (by simp)
      rw [hq y (by simp)] at hy
      cases hy

/-- The longest start of a text with a property of texts of accepted characters is the longest where
another character follows the text. -/
theorem Longest.append_of_stop {P : List Char → Prop} {p : Char → Bool} {m r q : List Char}
    (h : Longest P m r) (hall : ∀ n, P n → ∀ c ∈ n, p c = true) (hq : ∀ x ∈ q.head?, p x = false) :
    Longest P m (r ++ q) where
  starts := h.starts.trans (List.prefix_append r q)
  holds := h.holds
  bound := fun n hn hP => h.bound n (prefix_of_stop hn (hall n hP) hq) hP

/-- What has a property of texts of accepted characters is the longest such start in front of the
first other character. -/
theorem longest_append_of_stop {P : List Char → Prop} {p : Char → Bool} {m q : List Char}
    (hm : P m) (hall : ∀ n, P n → ∀ c ∈ n, p c = true) (hq : ∀ x ∈ q.head?, p x = false) :
    Longest P m (m ++ q) := by
  have hself : Longest P m m := ⟨List.prefix_rfl, hm, fun _ hn _ => hn.length_le⟩
  exact hself.append_of_stop hall hq

/-! ## The end of a block -/

/-- The text through the next `*-`, if there is one. -/
def throughCloser : List Char → Option (List Char)
  | [] => none
  | x :: q =>
    if x = '*' ∧ q.head? = some '-' then some ['*', '-'] else (throughCloser q).map (x :: ·)

/-- Whether a text ends in `*-`. -/
def EndsInCloser (m : List Char) : Prop := ['*', '-'] <:+ m

instance (m : List Char) : Decidable (EndsInCloser m) := inferInstanceAs (Decidable (_ <:+ _))

/-- One more character in front makes a text end in `*-` only as the star of a lone dash. -/
theorem endsInCloser_cons {x : Char} {m : List Char} :
    EndsInCloser (x :: m) ↔ (x = '*' ∧ m = ['-']) ∨ EndsInCloser m := by
  simp only [EndsInCloser, List.suffix_cons_iff, List.cons.injEq]
  constructor
  · rintro (⟨hx, hm⟩ | h)
    · exact .inl ⟨hx.symm, hm.symm⟩
    · exact .inr h
  · rintro (⟨hx, hm⟩ | h)
    · exact .inl ⟨hx.symm, hm.symm⟩
    · exact .inr h

theorem not_endsInCloser_nil : ¬ EndsInCloser [] := by decide

theorem shortest_of_throughCloser {q t : List Char} (h : throughCloser q = some t) :
    Shortest EndsInCloser t q := by
  induction q generalizing t with
  | nil => cases h
  | cons x q ih =>
    rw [throughCloser] at h
    split at h
    · rename_i hx
      obtain ⟨rfl, hq⟩ := hx
      obtain ⟨q', rfl⟩ := List.head?_eq_some_iff.1 hq
      cases h
      refine ⟨⟨q', rfl⟩, List.suffix_rfl, ?_⟩
      intro n _ hn
      exact hn.length_le
    · rename_i hx
      obtain ⟨t', ht', rfl⟩ := Option.map_eq_some_iff.1 h
      have hshort := ih ht'
      refine ⟨List.cons_prefix_cons.2 ⟨rfl, hshort.starts⟩,
        endsInCloser_cons.2 (.inr hshort.holds), ?_⟩
      intro n hn hclosed
      cases n with
      | nil => exact absurd hclosed not_endsInCloser_nil
      | cons y n =>
        obtain ⟨rfl, hnq⟩ := List.cons_prefix_cons.1 hn
        rcases endsInCloser_cons.1 hclosed with ⟨rfl, rfl⟩ | hclosed
        · -- the first two characters would close the block
          obtain ⟨q', rfl⟩ := hnq
          exact absurd ⟨rfl, rfl⟩ hx
        · exact Nat.succ_le_succ (hshort.bound n hnq hclosed)

theorem not_endsInCloser_of_throughCloser {q : List Char} (h : throughCloser q = none) :
    ∀ n, n <+: q → ¬ EndsInCloser n := by
  induction q with
  | nil =>
    intro n hn
    rw [List.prefix_nil.1 hn]
    exact not_endsInCloser_nil
  | cons x q ih =>
    rw [throughCloser] at h
    split at h
    · cases h
    · rename_i hx
      intro n hn hclosed
      cases n with
      | nil => exact not_endsInCloser_nil hclosed
      | cons y n =>
        obtain ⟨rfl, hnq⟩ := List.cons_prefix_cons.1 hn
        rcases endsInCloser_cons.1 hclosed with ⟨rfl, rfl⟩ | hclosed
        · obtain ⟨q', rfl⟩ := hnq
          exact hx ⟨rfl, rfl⟩
        · exact ih (Option.map_eq_none_iff.1 h) n hnq hclosed

/-- The block ends where the shortest text in `*-` does. -/
theorem throughCloser_eq_some_iff {q t : List Char} :
    throughCloser q = some t ↔ Shortest EndsInCloser t q := by
  constructor
  · exact shortest_of_throughCloser
  · intro h
    cases hq : throughCloser q with
    | none => exact absurd h.holds (not_endsInCloser_of_throughCloser hq t h.starts)
    | some u => rw [(shortest_of_throughCloser hq).unique h]

/-- The block has no end exactly when no text in `*-` starts it. -/
theorem throughCloser_eq_none_iff {q : List Char} :
    throughCloser q = none ↔ ∀ n, n <+: q → ¬ EndsInCloser n := by
  constructor
  · exact not_endsInCloser_of_throughCloser
  · intro h
    cases hq : throughCloser q with
    | none => rfl
    | some t =>
      have ht := shortest_of_throughCloser hq
      exact absurd ht.holds (h t ht.starts)

end LexFront.Text
