import LexFront.Config.Document
import LexFront.Proofs.Toml.Distinct

/-! What a document says about the options, told without an order: a setting is what stands under
its key, wherever that is. Reading a document finds just that, since no key stands twice. -/
namespace LexFront

namespace Toml

/-- The items of an array, in brackets or of tables. -/
def Value.items? : Value → Option (List Value)
  | .array items => some items
  | .tables items => some (items.map (.table .header))
  | _ => none

/-- An empty table or an empty array. -/
def Value.Vacant (v : Value) : Prop := (∃ form, v = .table form []) ∨ v.items? = some []

/-- Whether a value stands under a key. -/
def Entries.Under (es : Entries) (key : String) (v : Value) : Prop := (key, v) ∈ es

/-- Whether `x` is what a place means: what the value there denotes, or a default where there is
none. -/
def Means {α : Type} (place : Value → Prop) (Denotes : Value → α → Prop) (default x : α) : Prop :=
  (∃ v, place v ∧ Denotes v x) ∨ (∀ v, ¬place v) ∧ x = default

theorem Value.isVacant_iff {v : Value} : v.isVacant = true ↔ v.Vacant := by
  rcases v with _ | _ | _ | _ | _ | items | ⟨form, es⟩ | items
  case array => cases items <;> simp [isVacant, Vacant, items?]
  case table => cases es <;> simp [isVacant, Vacant, items?]
  case tables => cases items <;> simp [isVacant, Vacant, items?]
  all_goals simp [isVacant, Vacant, items?]

theorem Value.truth?_eq_some_iff {v : Value} {b : Bool} : v.truth? = some b ↔ v = .boolean b := by
  cases v <;> simp [truth?]

/-- With distinct keys, the place under a key is what lookup finds. -/
theorem Entries.under_eq {es : Entries} (h : (es.map Prod.fst).Nodup) (key : String) :
    es.Under key = (es.get? key = some ·) :=
  funext fun _ => propext (get?_eq_some_iff h).symm

/-- Reading a value, or taking the default where there is none, finds what the place means. -/
theorem means_iff {α : Type} {Denotes : Value → α → Prop} {default x : α} {read : Value → Option α}
    {o : Option Value} (h : ∀ v, o = some v → (read v = some x ↔ Denotes v x)) :
    o.elim (some default) read = some x ↔ Means (o = some ·) Denotes default x := by
  cases o with
  | none => simp [Means, eq_comm]
  | some v => simp [Means, h]

end Toml

open Toml (Value Entries Means means_iff)

/-! ## Modes -/

/-- Whether a value names a mode: by its word, or as the only key of a table with nothing under
it. -/
inductive NumberMode.NamedBy : Value → NumberMode → Prop
  | word (m : NumberMode) : NamedBy (.string m.word) m
  | key (m : NumberMode) {form : Toml.TableForm} {v : Value} (vacant : v.Vacant) :
    NamedBy (.table form [(m.word, v)]) m

namespace NumberMode
variable {m : NumberMode}

theorem ofWord?_eq_some_iff {w : String} : ofWord? w = some m ↔ w = m.word := by
  refine ⟨fun h => ?_, fun h => h ▸ ofWord?_word m⟩
  unfold ofWord? at h
  split at h
  next hw =>
    cases h
    exact hw
  · split at h
    next hw =>
      cases h
      exact hw
    · cases h

theorem namedBy_string_iff {w : String} : NamedBy (.string w) m ↔ w = m.word :=
  ⟨fun | .word _ => rfl, fun h => h ▸ .word m⟩

theorem namedBy_table_iff {form : Toml.TableForm} {es : Entries} :
    NamedBy (.table form es) m ↔ ∃ v : Value, es = [(m.word, v)] ∧ v.Vacant :=
  ⟨fun | .key _ vacant => ⟨_, rfl, vacant⟩, fun ⟨_, hes, vacant⟩ => hes ▸ .key m vacant⟩

theorem ofValue?_eq_some_iff {v : Value} : ofValue? v = some m ↔ NamedBy v m := by
  unfold ofValue?
  split
  next w => rw [namedBy_string_iff, ofWord?_eq_some_iff]
  next w v =>
    rw [namedBy_table_iff]
    simp [ofWord?_eq_some_iff, Value.isVacant_iff, and_comm]
  next h₁ h₂ =>
    constructor
    · intro h
      cases h
    · rintro (_ | _)
      · exact absurd rfl (h₁ _)
      · exact absurd rfl (h₂ _ _ _)

end NumberMode

/-! ## Options -/

namespace ScanConfig

/-- Whether options are what two places mean: a mode is split by default, and reports are on by
default. -/
structure Fields (mode report : Value → Prop) (c : ScanConfig) : Prop where
  mode : Means mode NumberMode.NamedBy .split c.numberMode
  report : Means report (fun v b => v = .boolean b) true c.reportUnterminated

/-- Whether a value gives options: a table by its keys, an array by its first two items, and a date
or time the default ones. -/
inductive GivenBy : Value → ScanConfig → Prop
  | table {form : Toml.TableForm} {es : Entries} {c : ScanConfig}
    (fields : Fields (es.Under "number_mode") (es.Under "report_unterminated") c) :
    GivenBy (.table form es) c
  | array {v : Value} {items : List Value} {c : ScanConfig} (isArray : v.items? = some items)
    (fields : Fields (items[0]? = some ·) (items[1]? = some ·) c) : GivenBy v c
  | dateTime (literal : String) : GivenBy (.dateTime literal) .default

/-- Whether a document gives options: under its key `scanner`, or the default ones. -/
def GivenIn (es : Entries) (c : ScanConfig) : Prop :=
  Means (es.Under "scanner") GivenBy .default c

variable {c : ScanConfig}

theorem givenBy_table_iff {form : Toml.TableForm} {es : Entries} :
    GivenBy (.table form es) c ↔
      Fields (es.Under "number_mode") (es.Under "report_unterminated") c :=
  ⟨fun | .table fields => fields, .table⟩

theorem givenBy_dateTime_iff {literal : String} : GivenBy (.dateTime literal) c ↔ c = .default := by
  refine ⟨?_, fun h => h ▸ .dateTime literal⟩
  rintro (_ | ⟨isArray, _⟩ | _)
  · cases isArray
  · rfl

theorem givenBy_iff_of_items? {v : Value} {items : List Value} (h : v.items? = some items) :
    GivenBy v c ↔ Fields (items[0]? = some ·) (items[1]? = some ·) c := by
  refine ⟨?_, .array h⟩
  rintro (⟨fields⟩ | ⟨isArray, fields⟩ | _)
  · cases h
  · cases h.symm.trans isArray
    exact fields
  · cases h

theorem ofFields?_eq_elim (mode report : Option Value) :
    ofFields? mode report = (mode.elim (some .split) NumberMode.ofValue?).bind fun m =>
      (report.elim (some true) Value.truth?).bind fun b => some ⟨m, b⟩ := by
  cases mode <;> cases report <;> rfl

theorem ofFields?_eq_some_iff {mode report : Option Value} :
    ofFields? mode report = some c ↔ Fields (mode = some ·) (report = some ·) c := by
  have hmode (m : NumberMode) : mode.elim (some .split) NumberMode.ofValue? = some m ↔
      Means (mode = some ·) NumberMode.NamedBy .split m :=
    means_iff fun _ _ => NumberMode.ofValue?_eq_some_iff
  have hreport (b : Bool) : report.elim (some true) Value.truth? = some b ↔
      Means (report = some ·) (fun v b => v = .boolean b) true b :=
    means_iff fun _ _ => Value.truth?_eq_some_iff
  simp only [ofFields?_eq_elim, Option.bind_eq_some_iff, hmode, hreport]
  constructor
  · rintro ⟨m, hm, b, hb, ⟨⟩⟩
    exact ⟨hm, hb⟩
  · rintro ⟨hm, hb⟩
    exact ⟨_, hm, _, hb, rfl⟩

theorem ofValue?_eq_some_iff {v : Value} (hv : v.Distinct) :
    ofValue? v = some c ↔ GivenBy v c := by
  cases v with
  | table form es =>
    have hes := (Value.distinct_table_iff.1 hv).keys
    rw [givenBy_table_iff, Entries.under_eq hes, Entries.under_eq hes]
    exact ofFields?_eq_some_iff
  | array items =>
    rw [givenBy_iff_of_items? rfl]
    exact ofFields?_eq_some_iff
  | tables items =>
    rw [givenBy_iff_of_items? rfl, List.getElem?_map, List.getElem?_map]
    exact ofFields?_eq_some_iff
  | dateTime literal =>
    rw [givenBy_dateTime_iff]
    exact ⟨fun h => (Option.some.inj h).symm, fun h => h ▸ rfl⟩
  -- no other value gives options
  | _ =>
    refine ⟨fun h => (by cases h), ?_⟩
    rintro (_ | ⟨isArray, _⟩ | _)
    cases isArray

theorem ofEntries?_eq_some_iff {es : Entries} (h : es.Distinct) :
    ofEntries? es = some c ↔ GivenIn es c := by
  unfold GivenIn
  rw [Entries.under_eq h.keys]
  rw [← means_iff fun _ hs => ofValue?_eq_some_iff (h.value hs)]
  unfold ofEntries?
  cases es.get? "scanner" <;> rfl

end ScanConfig

end LexFront
