import LexFront.Toml.Document
import Mathlib.Data.List.Nodup

/-! No table of a document has a key twice. Tables grow by single entries and by new values under
old keys, and both keep their keys distinct; so the order of the entries never tells which value a
key has. -/
namespace LexFront.Toml

/-- Whether no table within a value has a key twice. -/
inductive Value.Distinct : Value → Prop
  | string (text : String) : Distinct (.string text)
  | integer (number : Int) : Distinct (.integer number)
  | float (literal : String) : Distinct (.float literal)
  | boolean (truth : Bool) : Distinct (.boolean truth)
  | dateTime (literal : String) : Distinct (.dateTime literal)
  | array {items : List Value} (each : ∀ v ∈ items, Distinct v) : Distinct (.array items)
  | table {form : TableForm} {es : Entries} (keys : (es.map Prod.fst).Nodup)
      (each : ∀ e ∈ es, Distinct e.2) : Distinct (.table form es)
  | tables {items : List Entries} (keys : ∀ es ∈ items, (es.map Prod.fst).Nodup)
      (each : ∀ es ∈ items, ∀ e ∈ es, Distinct e.2) : Distinct (.tables items)

/-- Whether neither a table nor a table within its values has a key twice. -/
structure Entries.Distinct (es : Entries) : Prop where
  keys : (es.map Prod.fst).Nodup
  each : ∀ e ∈ es, e.2.Distinct

namespace Value

theorem distinct_table_iff {form : TableForm} {es : Entries} :
    (table form es).Distinct ↔ Entries.Distinct es :=
  ⟨fun | .table keys each => ⟨keys, each⟩, fun ⟨keys, each⟩ => .table keys each⟩

theorem distinct_tables_iff {items : List Entries} :
    (tables items).Distinct ↔ ∀ es ∈ items, Entries.Distinct es :=
  ⟨fun | .tables keys each => fun es hes => ⟨keys es hes, each es hes⟩,
    fun h => .tables (fun es hes => (h es hes).keys) (fun es hes => (h es hes).each)⟩

end Value

namespace Entries
variable {es es' : Entries} {k : String} {v : Value} {f : Entries → Option Entries}

/-! ## Lookup -/

theorem get?_eq_none_iff : es.get? k = none ↔ k ∉ es.map Prod.fst := by
  simp only [get?, List.lookup_eq_none_iff, List.mem_map]
  grind

/-- With distinct keys, the value under a key is the one that stands there. -/
theorem get?_eq_some_iff (h : (es.map Prod.fst).Nodup) : es.get? k = some v ↔ (k, v) ∈ es := by
  induction es with
  | nil => simp [get?]
  | cons e es ih =>
    obtain ⟨l, w⟩ := e
    rw [List.map_cons, List.nodup_cons] at h
    specialize ih h.2
    have hl : (l, v) ∉ es := fun hm => h.1 (List.mem_map.2 ⟨(l, v), hm, rfl⟩)
    by_cases hk : k = l
    · subst hk
      simp [get?, hl, eq_comm]
    · simpa [get?, List.lookup_cons, hk, beq_eq_false_iff_ne.2 hk] using ih

/-! ## Growing a table -/

theorem distinct_nil : Distinct [] := ⟨List.nodup_nil, by simp⟩

theorem Distinct.value (h : es.Distinct) (hk : es.get? k = some v) : v.Distinct :=
  h.each _ ((get?_eq_some_iff h.keys).1 hk)

theorem Distinct.append (h : es.Distinct) (hk : es.get? k = none) (hv : v.Distinct) :
    Distinct (es ++ [(k, v)]) where
  keys := by
    rw [List.map_append, List.map_singleton, List.nodup_append']
    exact ⟨h.keys, List.nodup_singleton k,
      List.disjoint_singleton.2 (get?_eq_none_iff.1 hk)⟩
  each := by
    rintro e he
    rcases List.mem_append.1 he with he | he
    · exact h.each e he
    · obtain rfl := List.mem_singleton.1 he
      exact hv

theorem map_fst_replace : (es.replace k v).map Prod.fst = es.map Prod.fst := by
  rw [replace, List.map_map]
  refine List.map_congr_left fun e _ => ?_
  by_cases he : e.1 = k <;> simp [he]

theorem Distinct.replace (h : es.Distinct) (hv : v.Distinct) : (es.replace k v).Distinct where
  keys := by simpa only [map_fst_replace] using h.keys
  each := by
    intro e he
    obtain ⟨d, hd, rfl⟩ := List.mem_map.1 he
    split
    · exact hv
    · exact h.each d hd

/-- Whether a change of a table keeps keys distinct. -/
def Keeps (f : Entries → Option Entries) : Prop :=
  ∀ ⦃es es' : Entries⦄, es.Distinct → f es = some es' → es'.Distinct

theorem Keeps.overLast? (hf : Keeps f) {items items' : List Entries}
    (h : ∀ es ∈ items, es.Distinct) (ho : Entries.overLast? f items = some items') :
    ∀ es ∈ items', es.Distinct := by
  induction items generalizing items' with
  | nil => simp [Entries.overLast?] at ho
  | cons es rest ih =>
    obtain ⟨hes, hrest⟩ := List.forall_mem_cons.1 h
    cases rest with
    | nil =>
      obtain ⟨es', he, rfl⟩ := Option.map_eq_some_iff.1 ho
      exact List.forall_mem_singleton.2 (hf hes he)
    | cons es₂ rest =>
      obtain ⟨rest', hr, rfl⟩ := Option.map_eq_some_iff.1 ho
      exact List.forall_mem_cons.2 ⟨hes, ih hrest hr⟩

section
variable {form form' : TableForm} {inner inner' : Entries} {items items' : List Entries}

theorem Distinct.append_table (h : es.Distinct) (hk : es.get? k = none) (hf : Keeps f)
    (hi : f [] = some inner) : Distinct (es ++ [(k, .table form inner)]) :=
  h.append hk (Value.distinct_table_iff.2 (hf distinct_nil hi))

theorem Distinct.replace_table (h : es.Distinct) (hk : es.get? k = some (.table form inner))
    (hf : Keeps f) (hi : f inner = some inner') : (es.replace k (.table form' inner')).Distinct :=
  h.replace (Value.distinct_table_iff.2 (hf (Value.distinct_table_iff.1 (h.value hk)) hi))

theorem Distinct.replace_tables (h : es.Distinct) (hk : es.get? k = some (.tables items))
    (hf : Keeps f) (hi : Entries.overLast? f items = some items') :
    (es.replace k (.tables items')).Distinct :=
  h.replace (Value.distinct_tables_iff.2
    (hf.overLast? (Value.distinct_tables_iff.1 (h.value hk)) hi))

end

theorem keeps_insertNew? (hv : v.Distinct) : Keeps (insertNew? · k v) := by
  intro es es' h he
  simp only [insertNew?] at he
  split at he
  · cases he
  next hk =>
    cases he
    exact h.append hk hv

theorem keeps_openTable? : Keeps (openTable? k) := by
  intro es es' h he
  unfold openTable? at he
  split at he
  next hk =>
    cases he
    exact h.append hk (.table List.nodup_nil (by simp))
  next inner hk =>
    cases he
    exact h.replace (Value.distinct_table_iff.2 (Value.distinct_table_iff.1 (h.value hk)))
  · cases he

theorem keeps_openArrayTable? : Keeps (openArrayTable? k) := by
  intro es es' h he
  unfold openArrayTable? at he
  split at he
  next hk =>
    cases he
    exact h.append hk (Value.distinct_tables_iff.2 (List.forall_mem_singleton.2 distinct_nil))
  next items hk =>
    cases he
    refine h.replace (Value.distinct_tables_iff.2 fun es hes => ?_)
    rcases List.mem_append.1 hes with hes | hes
    · exact Value.distinct_tables_iff.1 (h.value hk) es hes
    · exact List.mem_singleton.1 hes ▸ distinct_nil
  · cases he

theorem Keeps.under? (hf : Keeps f) (path : List String) : Keeps (Entries.under? f path) := by
  induction path with
  | nil => exact hf
  | cons p ps ih =>
    intro es es' h he
    simp only [Entries.under?] at he
    split at he
    next hp =>
      obtain ⟨inner, hi, he⟩ := Option.bind_eq_some_iff.1 he
      cases he
      exact h.append_table hp ih hi
    · cases he
    next hp =>
      obtain ⟨inner', hi, he⟩ := Option.bind_eq_some_iff.1 he
      cases he
      exact h.replace_table hp ih hi
    next hp =>
      obtain ⟨items', hi, he⟩ := Option.bind_eq_some_iff.1 he
      cases he
      exact h.replace_tables hp ih hi
    · cases he

theorem keeps_insertDotted? (hv : v.Distinct) (parents : List String) :
    Keeps (insertDotted? k v parents) := by
  -- on the tables that are left to go through; each of them is new, or one value is replaced
  induction parents with
  | nil => exact keeps_insertNew? hv
  | cons p ps ih =>
    intro es es' h he
    simp only [insertDotted?] at he
    split at he
    next hp =>
      obtain ⟨inner, hi, he⟩ := Option.bind_eq_some_iff.1 he
      cases he
      exact h.append_table hp ih hi
    next hp =>
      obtain ⟨inner', hi, he⟩ := Option.bind_eq_some_iff.1 he
      cases he
      exact h.replace_table hp ih hi
    next hp =>
      split at he
      · cases he
      · obtain ⟨inner', hi, he⟩ := Option.bind_eq_some_iff.1 he
        cases he
        exact h.replace_table hp ih hi
    next hp =>
      split at he
      · cases he
      · obtain ⟨items', hi, he⟩ := Option.bind_eq_some_iff.1 he
        cases he
        exact h.replace_tables hp ih hi
    · cases he

end Entries

/-- What every step of a loop keeps, the loop keeps. -/
theorem foldlM_keeps {σ α : Type} {P : σ → Prop} {step : σ → α → Option σ} {l : List α}
    (hstep : ∀ a ∈ l, ∀ s s', P s → step s a = some s' → P s') {s s' : σ} (hs : P s)
    (h : l.foldlM step s = some s') : P s' := by
  induction l generalizing s with
  | nil =>
    cases h
    exact hs
  | cons a l ih =>
    rw [List.foldlM_cons] at h
    obtain ⟨t, ht, h⟩ := Option.bind_eq_some_iff.1 h
    obtain ⟨ha, hl⟩ := List.forall_mem_cons.1 hstep
    exact ih hl (ha s t hs ht) h

theorem Entries.distinct_ofPairs? {pairs : List (Key × Value)} {es : Entries}
    (h : ∀ p ∈ pairs, p.2.Distinct) (he : Entries.ofPairs? pairs = some es) : es.Distinct :=
  foldlM_keeps (fun p hp _ _ hs hstep => keeps_insertDotted? (h p hp) _ hs hstep) distinct_nil he

/-! ## Reading -/

/-- Whether a reader's values have distinct keys. -/
def YieldsDistinct (item : Reader Value) : Prop :=
  ∀ ⦃s : List Char⦄ ⦃v : Value⦄ ⦃rest : List Char⦄, item s = some (v, rest) → v.Distinct

theorem distinct_integer? {negative : Bool} {n : Nat} {v : Value}
    (h : integer? negative n = some v) : v.Distinct := by
  unfold integer? at h
  split at h <;> split at h <;> cases h
  · exact .integer _
  · exact .integer _

theorem yieldsDistinct_basedInteger? (base : Nat) (p : Char → Bool) :
    YieldsDistinct (basedInteger? base p) := by
  intro s v rest h
  obtain ⟨⟨ds, r⟩, -, h⟩ := Option.bind_eq_some_iff.1 h
  obtain ⟨w, hw, h⟩ := Option.bind_eq_some_iff.1 h
  cases h
  exact distinct_integer? hw

theorem yieldsDistinct_number? : YieldsDistinct number? := by
  intro s v rest h
  unfold number? at h
  split at h
  · exact yieldsDistinct_basedInteger? _ _ h
  · exact yieldsDistinct_basedInteger? _ _ h
  · exact yieldsDistinct_basedInteger? _ _ h
  · split at h
    · cases h
      exact .float _
    · cases h
      exact .float _
    · obtain ⟨⟨ds, r⟩, -, h⟩ := Option.bind_eq_some_iff.1 h
      dsimp only at h
      split at h
      · obtain ⟨⟨⟨fs, e⟩, r⟩, -, h⟩ := Option.bind_eq_some_iff.1 h
        dsimp only at h
        split at h
        · cases h
        · cases h
          exact .float _
      · obtain ⟨w, hw, h⟩ := Option.bind_eq_some_iff.1 h
        cases h
        exact distinct_integer? hw

theorem yieldsDistinct_dateTime? : YieldsDistinct dateTime? := by
  intro s v rest h
  unfold dateTime? at h
  split at h
  · cases h
    exact .dateTime _
  · obtain ⟨r, -, h⟩ := Option.map_eq_some_iff.1 h
    cases h
    exact .dateTime _

theorem yieldsDistinct_scalar? : YieldsDistinct scalar? := by
  intro s v rest h
  unfold scalar? at h
  split at h
  · obtain ⟨r, -, h⟩ := Option.map_eq_some_iff.1 h
    cases h
    exact .string _
  · obtain ⟨r, -, h⟩ := Option.map_eq_some_iff.1 h
    cases h
    exact .string _
  · cases h
    exact .boolean _
  · cases h
    exact .boolean _
  · split at h
    next hd =>
      cases h
      exact yieldsDistinct_dateTime? hd
    · exact yieldsDistinct_number? h

section
variable {item : Reader Value} (hitem : YieldsDistinct item)
include hitem

theorem distinct_arrayItems? {s rest : List Char} {vs : List Value}
    (h : arrayItems? item s = some (vs, rest)) : ∀ v ∈ vs, v.Distinct := by
  fun_induction arrayItems? item s generalizing vs rest with
  | case1 s ih =>
    obtain ⟨start, -, h⟩ := Option.bind_eq_some_iff.1 h
    split at h
    · cases h
      simp
    · obtain ⟨⟨v, r⟩, hv, h⟩ := Option.bind_eq_some_iff.1 h
      obtain ⟨next, -, h⟩ := Option.bind_eq_some_iff.1 h
      split at h
      · split at h
        next hlt =>
          obtain ⟨⟨us, r⟩, hus, h⟩ := Option.bind_eq_some_iff.1 h
          cases h
          exact List.forall_mem_cons.2 ⟨hitem hv, ih _ hlt hus⟩
        · cases h
      · cases h
        exact List.forall_mem_singleton.2 (hitem hv)
      · cases h

theorem distinct_pair? {s rest : List Char} {p : Key × Value}
    (h : pair? item s = some (p, rest)) : p.2.Distinct := by
  obtain ⟨⟨key, r⟩, -, h⟩ := Option.bind_eq_some_iff.1 h
  obtain ⟨r, -, h⟩ := Option.bind_eq_some_iff.1 h
  obtain ⟨⟨v, r⟩, hv, h⟩ := Option.bind_eq_some_iff.1 h
  cases h
  exact hitem hv

theorem distinct_inlinePairs? {s rest : List Char} {ps : List (Key × Value)}
    (h : inlinePairs? item s = some (ps, rest)) : ∀ p ∈ ps, p.2.Distinct := by
  fun_induction inlinePairs? item s generalizing ps rest with
  | case1 s ih =>
    obtain ⟨⟨p, r⟩, hp, h⟩ := Option.bind_eq_some_iff.1 h
    dsimp only at h
    split at h
    · split at h
      next hlt =>
        obtain ⟨⟨qs, r⟩, hqs, h⟩ := Option.bind_eq_some_iff.1 h
        cases h
        exact List.forall_mem_cons.2 ⟨distinct_pair? hitem hp, ih _ hlt hqs⟩
      · cases h
    · cases h
      exact List.forall_mem_singleton.2 (distinct_pair? hitem hp)
    · cases h

theorem yieldsDistinct_inlineTable? : YieldsDistinct (inlineTable? item) := by
  intro s v rest h
  unfold inlineTable? at h
  split at h
  · cases h
    exact .table List.nodup_nil (by simp)
  · obtain ⟨⟨pairs, r⟩, hp, h⟩ := Option.bind_eq_some_iff.1 h
    obtain ⟨es, he, h⟩ := Option.bind_eq_some_iff.1 h
    cases h
    exact Value.distinct_table_iff.2
      (Entries.distinct_ofPairs? (distinct_inlinePairs? hitem hp) he)

end

theorem yieldsDistinct_value? (depth : Nat) : YieldsDistinct (value? depth) := by
  -- on the depth: the values within arrays and braces come from the reader one level down
  induction depth with
  | zero => exact yieldsDistinct_scalar?
  | succ depth ih =>
    intro s v rest h
    unfold value? at h
    split at h
    next hd => cases hd
    next hd =>
      cases hd
      obtain ⟨⟨vs, r⟩, hvs, h⟩ := Option.map_eq_some_iff.1 h
      cases h
      exact .array (distinct_arrayItems? ih hvs)
    next hd =>
      cases hd
      exact yieldsDistinct_inlineTable? ih h
    · exact yieldsDistinct_scalar? h

/-- Whether the value that a statement gives has distinct keys, if it gives one. -/
def Statement.Distinct : Statement → Prop
  | .pair _ v => v.Distinct
  | _ => True

theorem distinct_statement? {s rest : List Char} {st : Statement}
    (h : statement? s = some (st, rest)) : st.Distinct := by
  unfold statement? at h
  split at h
  · obtain ⟨⟨key, r⟩, -, h⟩ := Option.bind_eq_some_iff.1 h
    obtain ⟨r, -, h⟩ := Option.bind_eq_some_iff.1 h
    obtain ⟨r, -, h⟩ := Option.bind_eq_some_iff.1 h
    cases h
    trivial
  · obtain ⟨⟨key, r⟩, -, h⟩ := Option.bind_eq_some_iff.1 h
    obtain ⟨r, -, h⟩ := Option.bind_eq_some_iff.1 h
    cases h
    trivial
  · obtain ⟨⟨⟨key, v⟩, r⟩, hp, h⟩ := Option.bind_eq_some_iff.1 h
    cases h
    exact distinct_pair? (yieldsDistinct_value? depthLimit) hp

theorem distinct_line? {s rest : List Char} {st? : Option Statement}
    (h : line? s = some (st?, rest)) : ∀ st ∈ st?.toList, st.Distinct := by
  unfold line? at h
  split at h
  · cases h
    simp
  · obtain ⟨⟨st, r⟩, hst, h⟩ := Option.bind_eq_some_iff.1 h
    obtain ⟨r, -, h⟩ := Option.bind_eq_some_iff.1 h
    cases h
    exact List.forall_mem_singleton.2 (distinct_statement? hst)

theorem distinct_statements? {s : List Char} {sts : List Statement}
    (h : statements? s = some sts) : ∀ st ∈ sts, st.Distinct := by
  fun_induction statements? s generalizing sts with
  | case1 =>
    cases h
    simp
  | case2 | case4 => cases h
  | case3 _ _ st rest hl hlt ih =>
    obtain ⟨sts, hs, rfl⟩ := Option.map_eq_some_iff.1 h
    exact List.forall_mem_append.2 ⟨distinct_line? hl, ih hs⟩

/-! ## Documents -/

theorem Outline.distinct_add? {o o' : Outline} {st : Statement} (hst : st.Distinct)
    (h : o.root.Distinct) (ho : o.add? st = some o') : o'.root.Distinct := by
  cases st with
  | header k =>
    obtain ⟨root, hr, ho⟩ := Option.bind_eq_some_iff.1 ho
    cases ho
    exact Entries.keeps_openTable?.under? k.parents h hr
  | arrayHeader k =>
    obtain ⟨root, hr, ho⟩ := Option.bind_eq_some_iff.1 ho
    cases ho
    exact Entries.keeps_openArrayTable?.under? k.parents h hr
  | pair k v =>
    obtain ⟨root, hr, ho⟩ := Option.bind_eq_some_iff.1 ho
    cases ho
    exact (Entries.keeps_insertDotted? hst k.parents).under? o.opened h hr

/-- A document's table gives no key twice, and neither does a table in it. -/
theorem parse?_distinct {text : String} {es : Entries} (h : parse? text = some es) :
    es.Distinct := by
  obtain ⟨sts, hs, h⟩ := Option.bind_eq_some_iff.1 h
  obtain ⟨o, ho, rfl⟩ := Option.map_eq_some_iff.1 h
  have hsts := distinct_statements? hs
  refine foldlM_keeps (P := fun o => o.root.Distinct) (fun st hst _ _ => ?_) Entries.distinct_nil ho
  exact Outline.distinct_add? (hsts st hst)

end LexFront.Toml
