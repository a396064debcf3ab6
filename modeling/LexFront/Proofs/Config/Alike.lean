import LexFront.Proofs.Config.Meaning
import Mathlib.Data.List.Forall2

/-! Documents that differ in the order of entries, or in entries under keys that no option has, are
the same configuration. -/
namespace LexFront

namespace Toml

/-- Whether two tables have the same keys in the same order, with values that `R` relates. -/
inductive Entries.Pointwise (R : Value → Value → Prop) : Entries → Entries → Prop
  | nil : Pointwise R [] []
  | cons {key : String} {v w : Value} {es fs : Entries} (head : R v w)
    (tail : Pointwise R es fs) : Pointwise R ((key, v) :: es) ((key, w) :: fs)

/-- Whether two values differ at most in the order of entries, at any depth, and in the way tables
and arrays of tables are written. -/
inductive Value.Rearranged : Value → Value → Prop
  | refl (v : Value) : Rearranged v v
  | array {v w : Value} {vs ws : List Value} (left : v.items? = some vs)
    (right : w.items? = some ws) (each : List.Forall₂ Rearranged vs ws) : Rearranged v w
  | table {form form' : TableForm} {es mid fs : Entries} (order : es.Perm mid)
    (each : Entries.Pointwise Rearranged mid fs) : Rearranged (.table form es) (.table form' fs)

/-- The entries under some keys. -/
def Entries.only (keys : List String) (es : Entries) : Entries := es.filter (·.1 ∈ keys)

/-- Whether `R` relates what two tables have under some keys, in whatever order. Entries under
other keys do not count. -/
def Entries.AlikeUnder (keys : List String) (R : Value → Value → Prop) (es fs : Entries) : Prop :=
  ∃ mid, (es.only keys).Perm mid ∧ Pointwise R mid (fs.only keys)

/-- Whether each value of one place has its like at the other. -/
structure Matched (R : Value → Value → Prop) (place place' : Value → Prop) : Prop where
  right : ∀ v, place v → ∃ w, place' w ∧ R v w
  left : ∀ w, place' w → ∃ v, place v ∧ R v w

namespace Matched
variable {R : Value → Value → Prop} {place place' : Value → Prop}

theorem exists_iff {P : Value → Prop} (h : Matched R place place')
    (hR : ∀ v w, R v w → (P v ↔ P w)) : (∃ v, place v ∧ P v) ↔ ∃ w, place' w ∧ P w := by
  constructor
  · rintro ⟨v, hv, hP⟩
    obtain ⟨w, hw, hvw⟩ := h.right v hv
    exact ⟨w, hw, (hR v w hvw).1 hP⟩
  · rintro ⟨w, hw, hP⟩
    obtain ⟨v, hv, hvw⟩ := h.left w hw
    exact ⟨v, hv, (hR v w hvw).2 hP⟩

theorem means_iff {α : Type} {Denotes : Value → α → Prop} {default x : α}
    (h : Matched R place place') (hR : ∀ v w, R v w → (Denotes v x ↔ Denotes w x)) :
    Means place Denotes default x ↔ Means place' Denotes default x := by
  have hvalue : (∃ v, place v) ↔ ∃ w, place' w := by
    simpa using h.exists_iff fun _ _ _ => Iff.of_eq (Eq.refl True)
  have hnone : (∀ v, ¬place v) ↔ ∀ w, ¬place' w := by
    rw [← not_exists, ← not_exists, hvalue]
  exact or_congr (h.exists_iff hR) (and_congr_left' hnone)

end Matched

namespace Entries
variable {R : Value → Value → Prop} {es mid fs : Entries} {key : String} {keys : List String}

theorem Pointwise.matched (h : Pointwise R es fs) : Matched R (es.Under key) (fs.Under key) where
  right := by
    induction h with
    | nil => rintro v ⟨⟩
    | cons head tail ih =>
      rintro v (_ | ⟨_, hv⟩)
      · exact ⟨_, .head _, head⟩
      · obtain ⟨w, hw, hvw⟩ := ih v hv
        exact ⟨w, .tail _ hw, hvw⟩
  left := by
    induction h with
    | nil => rintro v ⟨⟩
    | cons head tail ih =>
      rintro w (_ | ⟨_, hw⟩)
      · exact ⟨_, .head _, head⟩
      · obtain ⟨v, hv, hvw⟩ := ih w hw
        exact ⟨v, .tail _ hv, hvw⟩

theorem under_perm (h : es.Perm mid) : es.Under key = mid.Under key :=
  funext fun _ => propext h.mem_iff

theorem under_only (h : key ∈ keys) : (es.only keys).Under key = es.Under key :=
  funext fun _ => propext (List.mem_filter.trans (by simp [h, Under]))

theorem AlikeUnder.matched (h : es.AlikeUnder keys R fs) (hkey : key ∈ keys) :
    Matched R (es.Under key) (fs.Under key) := by
  obtain ⟨mid, order, each⟩ := h
  have h : Matched R (Entries.Under mid key) ((fs.only keys).Under key) := each.matched
  rwa [← under_perm order, under_only hkey, under_only hkey] at h

theorem Pointwise.length_eq (h : Pointwise R es fs) : es.length = fs.length := by
  induction h with
  | nil => rfl
  | cons _ _ ih => rw [List.length_cons, List.length_cons, ih]

end Entries

theorem matched_getElem? {R : Value → Value → Prop} {vs ws : List Value} (h : List.Forall₂ R vs ws)
    (i : Nat) : Matched R (vs[i]? = some ·) (ws[i]? = some ·) := by
  induction h generalizing i with
  | nil => exact ⟨fun _ h => (by cases h), fun _ h => (by cases h)⟩
  | cons head _ ih =>
    cases i with
    | zero =>
      refine ⟨fun v hv => ⟨_, rfl, ?_⟩, fun w hw => ⟨_, rfl, ?_⟩⟩
      · cases hv
        exact head
      · cases hw
        exact head
    | succ i => simpa only [List.getElem?_cons_succ] using ih i

namespace Value
variable {v w : Value}

theorem vacant_iff_of_items? {items : List Value} (h : v.items? = some items) :
    v.Vacant ↔ items = [] := by
  refine ⟨?_, fun hi => .inr (hi ▸ h)⟩
  rintro (⟨form, rfl⟩ | hnil)
  · cases h
  · exact Option.some.inj (h.symm.trans hnil)

theorem vacant_table_iff {form : TableForm} {es : Entries} :
    (table form es).Vacant ↔ es.length = 0 := by
  simp [Vacant, items?]

theorem Rearranged.vacant_iff (h : v.Rearranged w) : v.Vacant ↔ w.Vacant := by
  cases h with
  | refl => rfl
  | array left right each =>
    rw [vacant_iff_of_items? left, vacant_iff_of_items? right, ← List.length_eq_zero_iff,
      ← List.length_eq_zero_iff, each.length_eq]
  | table order each =>
    rw [vacant_table_iff, vacant_table_iff, order.length_eq, each.length_eq]

theorem Rearranged.eq_boolean_iff {b : Bool} (h : v.Rearranged w) :
    v = .boolean b ↔ w = .boolean b := by
  cases h with
  | refl => rfl
  | array left right each =>
    constructor
    · rintro rfl
      cases left
    · rintro rfl
      cases right
  | table order each => exact ⟨fun h => (by cases h), fun h => (by cases h)⟩

end Value

end Toml

open Toml (Value Entries Means Matched)

theorem NumberMode.not_namedBy_of_items? {m : NumberMode} {v : Value} {items : List Value}
    (h : v.items? = some items) : ¬NamedBy v m := by
  rintro (_ | _) <;> cases h

theorem NumberMode.namedBy_table_iff_under {m : NumberMode} {form : Toml.TableForm} {es : Entries} :
    NamedBy (.table form es) m ↔ es.length = 1 ∧ ∃ v, es.Under m.word v ∧ v.Vacant := by
  rw [namedBy_table_iff]
  constructor
  · rintro ⟨v, rfl, vacant⟩
    exact ⟨rfl, v, .head _, vacant⟩
  · rintro ⟨hone, v, hv, vacant⟩
    obtain ⟨e, rfl⟩ := List.length_eq_one_iff.1 hone
    exact ⟨v, by rw [List.mem_singleton.1 hv], vacant⟩

theorem Toml.Value.Rearranged.namedBy_iff {v w : Value} {m : NumberMode} (h : v.Rearranged w) :
    NumberMode.NamedBy v m ↔ NumberMode.NamedBy w m := by
  cases h with
  | refl => rfl
  | array left right =>
    exact iff_of_false (NumberMode.not_namedBy_of_items? left)
      (NumberMode.not_namedBy_of_items? right)
  | @table _ _ es mid fs order each =>
    have hlen := order.length_eq.trans each.length_eq
    have hvalue : Matched Rearranged (es.Under m.word) (fs.Under m.word) :=
      Entries.under_perm order ▸ each.matched
    rw [NumberMode.namedBy_table_iff_under, NumberMode.namedBy_table_iff_under, hlen,
      hvalue.exists_iff fun _ _ hvw => hvw.vacant_iff]

namespace ScanConfig

/-- The keys of the options. -/
def knownKeys : List String := ["number_mode", "report_unterminated"]

/-- Whether two values of `scanner` differ at most in the order of entries and, if they are tables,
in entries under keys that no option has. -/
inductive SameScanner : Value → Value → Prop
  | known {form form' : Toml.TableForm} {es fs : Entries}
    (same : es.AlikeUnder knownKeys Value.Rearranged fs) :
    SameScanner (.table form es) (.table form' fs)
  | rearranged {v w : Value} (same : v.Rearranged w) : SameScanner v w

/-- Whether two documents differ at most in the order of entries and in entries under keys that
no option has, beside the table `scanner` or in it. -/
def SameSettings (es fs : Entries) : Prop := es.AlikeUnder ["scanner"] SameScanner fs

variable {c : ScanConfig}

theorem fields_iff {mode mode' report report' : Value → Prop}
    (hmode : Matched Value.Rearranged mode mode')
    (hreport : Matched Value.Rearranged report report') :
    Fields mode report c ↔ Fields mode' report' c := by
  have hm : Means mode NumberMode.NamedBy .split c.numberMode ↔
      Means mode' NumberMode.NamedBy .split c.numberMode :=
    hmode.means_iff fun _ _ h => h.namedBy_iff
  have hr : Means report (fun v b => v = .boolean b) true c.reportUnterminated ↔
      Means report' (fun v b => v = .boolean b) true c.reportUnterminated :=
    hreport.means_iff fun _ _ h => h.eq_boolean_iff
  exact ⟨fun h => ⟨hm.1 h.mode, hr.1 h.report⟩, fun h => ⟨hm.2 h.mode, hr.2 h.report⟩⟩

theorem SameScanner.givenBy_iff {v w : Value} (h : SameScanner v w) :
    GivenBy v c ↔ GivenBy w c := by
  -- each case only has to match the places of the two options
  cases h with
  | known same =>
    rw [givenBy_table_iff, givenBy_table_iff]
    exact fields_iff (same.matched (by decide)) (same.matched (by decide))
  | rearranged same =>
    cases same with
    | refl => rfl
    | array left right each =>
      rw [givenBy_iff_of_items? left, givenBy_iff_of_items? right]
      exact fields_iff (Toml.matched_getElem? each 0) (Toml.matched_getElem? each 1)
    | table order each =>
      rw [givenBy_table_iff, givenBy_table_iff, Entries.under_perm order, Entries.under_perm order]
      exact fields_iff each.matched each.matched

theorem SameSettings.givenIn_iff {es fs : Entries} (h : SameSettings es fs) :
    GivenIn es c ↔ GivenIn fs c :=
  (h.matched (by decide)).means_iff fun _ _ hvw => hvw.givenBy_iff

theorem ofToml_eq {text : String} {es : Entries} (h : Toml.parse? text = some es) :
    ofToml text = (ofEntries? es).elim (.error .parse) .ok := by
  unfold ofToml
  rw [h, Option.bind_some]
  cases ofEntries? es <;> rfl

/-- The options that a document gives are those that its entries under the known keys give, in
whatever order and whatever else it holds; without such options it is refused. -/
theorem ofToml_depends_on_known_keys :
    (∀ text es, Toml.parse? text = some es →
      (∀ c, ofToml text = .ok c ↔ GivenIn es c) ∧
      (ofToml text = .error .parse ↔ ¬∃ c, GivenIn es c)) ∧
    ∀ text text' es es', Toml.parse? text = some es → Toml.parse? text' = some es' →
      SameSettings es es' → ofToml text = ofToml text' := by
  constructor
  · intro text es h
    rw [ofToml_eq h]
    simp only [← ofEntries?_eq_some_iff (Toml.parse?_distinct h)]
    cases ofEntries? es <;> simp
  · intro text text' es es' h h' hsame
    have heq : ofEntries? es = ofEntries? es' := Option.ext fun c => by
      simp only [ofEntries?_eq_some_iff (Toml.parse?_distinct h),
        ofEntries?_eq_some_iff (Toml.parse?_distinct h'), hsame.givenIn_iff]
    rw [ofToml_eq h, ofToml_eq h', heq]

set_option maxRecDepth 100000 in
/-- The same two settings, once more with foreign keys and the other way round. -/
theorem ofToml_depends_on_known_keys_reordered :
    ∃ es es' : Entries,
      Toml.parse? "[scanner]\nnumber_mode = \"fractional\"\nreport_unterminated = false\n" =
        some es ∧
      Toml.parse?
        "a = 1\n[scanner]\nreport_unterminated = false\nb = 2\nnumber_mode = \"fractional\"\n" =
        some es' ∧
      SameSettings es es' ∧
      ofToml "[scanner]\nnumber_mode = \"fractional\"\nreport_unterminated = false\n" =
        .ok ⟨.fractional, false⟩ ∧
      ofToml
        "a = 1\n[scanner]\nreport_unterminated = false\nb = 2\nnumber_mode = \"fractional\"\n" =
        .ok ⟨.fractional, false⟩ := by
  let es : Entries := [("scanner", .table .header
    [("number_mode", .string "fractional"), ("report_unterminated", .boolean false)])]
  let es' : Entries := [("a", .integer 1), ("scanner", .table .header
    [("report_unterminated", .boolean false), ("b", .integer 2),
      ("number_mode", .string "fractional")])]
  have h : Toml.parse? "[scanner]\nnumber_mode = \"fractional\"\nreport_unterminated = false\n" =
      some es := by
    with_unfolding_all rfl
  have h' : Toml.parse?
      "a = 1\n[scanner]\nreport_unterminated = false\nb = 2\nnumber_mode = \"fractional\"\n" =
      some es' := by
    with_unfolding_all rfl
  have hsame : SameSettings es es' :=
    ⟨_, .refl _, .cons (.known ⟨_, .swap _ _ _, .cons (.refl _) (.cons (.refl _) .nil)⟩) .nil⟩
  have hgiven : GivenIn es ⟨.fractional, false⟩ :=
    .inl ⟨_, .head _, .table
      ⟨.inl ⟨_, .head _, .word .fractional⟩, .inl ⟨_, .tail _ (.head _), rfl⟩⟩⟩
  have hok := ((ofToml_depends_on_known_keys.1 _ es h).1 _).2 hgiven
  have heq := ofToml_depends_on_known_keys.2 _ _ es es' h h' hsame
  exact ⟨es, es', h, h', hsame, hok, heq.symm.trans hok⟩

end ScanConfig

end LexFront
