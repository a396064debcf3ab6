import LexFront.Diagnostic.Code
import LexFront.Text.CharClass
import Mathlib.Data.List.Basic

/-! Codes told by their texts. A code is written as its family with the digits of its number right
behind it. The digits at the end of the text are those of the number as long as the family does not
end in one itself, so the text has both parts of the code. -/
namespace LexFront.DiagnosticCode
open Text

/-- **How a code writes its number**: in decimal, with at least four digits. The first of them is a
zero only where there are four. -/
structure Padded (ds : List Char) (n : Nat) : Prop where
  digits : ∀ d ∈ ds, isDigit d = true
  four : 4 ≤ ds.length
  value : Nat.ofDigitChars 10 ds 0 = n
  lead : ds.head? = some '0' → ds.length = 4

/-- Whether the family of a code ends in something else than a digit, or is empty. -/
def Separable (c : DiagnosticCode) : Prop := ∀ x ∈ c.family.toList.getLast?, isDigit x = false

/-! ## The digits of a number -/

theorem isDigit_of_mem_toDigits {n : Nat} {d : Char} (h : d ∈ Nat.toDigits 10 n) :
    isDigit d = true := by
  have hdigit := Nat.isDigit_of_mem_toDigits (by decide) (by decide) h
  simpa [Char.isDigit, isDigit, Char.le_def] using hdigit

/-- Only zero is written with a zero in front. -/
theorem head?_toDigits {n : Nat} (h : n ≠ 0) : (Nat.toDigits 10 n).head? ≠ some '0' := by
  -- the first digit is that of the number without its last digit
  induction n using Nat.strongRecOn with
  | ind n ih =>
    rw [Nat.toDigits_eq_if (by decide)]
    split
    · rw [List.head?_cons, ne_eq, Option.some.injEq, Nat.digitChar_eq_zero]
      exact h
    · rw [List.head?_append_of_ne_nil _ Nat.toDigits_ne_nil]
      exact ih (n / 10) (by omega) (by omega)

theorem padded_digits (n : Nat) : Padded (text.digits n) n where
  digits := by
    intro d hd
    rcases List.mem_append.1 hd with hpad | hdigit
    · rw [List.eq_of_mem_replicate hpad]
      decide
    · exact isDigit_of_mem_toDigits hdigit
  four := by
    rw [text.digits, List.length_leftpad]
    exact Nat.le_max_left _ _
  value := by
    rw [text.digits, List.leftpad, Nat.ofDigitChars_append, Nat.ofDigitChars_replicate_zero,
      Nat.mul_zero, Nat.ofDigitChars_ten_toDigits]
  lead := by
    intro hzero
    rw [text.digits, List.length_leftpad]
    by_cases hlong : 4 < (Nat.toDigits 10 n).length
    · -- a number of more than four digits is not filled up, and does not start with a zero
      have hn : n ≠ 0 := by
        rintro rfl
        rw [Nat.toDigits_zero] at hlong
        simp at hlong
      rw [text.digits, List.leftpad, Nat.sub_eq_zero_of_le (Nat.le_of_lt hlong)] at hzero
      exact absurd hzero (head?_toDigits hn)
    · exact Nat.max_eq_left (Nat.not_lt.1 hlong)

/-! ## Where the number begins -/

/-- Nothing lies between two cuts of a text if everything behind the first is of a class and the second
stands behind no character of it. -/
theorem eq_nil_of_cut {p : Char → Bool} {f m d e : List Char} (h : d = m ++ e)
    (hlast : ∀ x ∈ (f ++ m).getLast?, p x = false) (hd : ∀ x ∈ d, p x = true) : m = [] := by
  rcases List.eq_nil_or_concat m with hnil | ⟨n, x, rfl⟩
  · exact hnil
  · have hx : p x = false := hlast x (by simp)
    rw [hd x (by simp [h])] at hx
    cases hx

/-- A text is cut in one way only between something that does not end in a class and characters of
that class. -/
theorem append_inj_of_class {p : Char → Bool} {f g d e : List Char} (h : f ++ d = g ++ e)
    (hf : ∀ x ∈ f.getLast?, p x = false) (hg : ∀ x ∈ g.getLast?, p x = false)
    (hd : ∀ x ∈ d, p x = true) (he : ∀ x ∈ e, p x = true) : f = g ∧ d = e := by
  rcases List.append_eq_append_iff.1 h with ⟨m, rfl, hcut⟩ | ⟨m, rfl, hcut⟩
  · obtain rfl := eq_nil_of_cut hcut hg hd
    exact ⟨(List.append_nil f).symm, hcut⟩
  · obtain rfl := eq_nil_of_cut hcut hf he
    exact ⟨List.append_nil g, hcut.symm⟩

theorem toList_text (c : DiagnosticCode) :
    c.text.toList = c.family.toList ++ text.digits c.number := by
  rw [text, String.toList_append, String.toList_ofList]

/-- **The text of a code identifies it**, among all codes whose families do not end in a digit. It is
the family with the number behind it, in four or more digits. -/
theorem text_identifies :
    (∀ c d : DiagnosticCode, c.Separable → d.Separable →
      (c.text = d.text ↔ c.family = d.family ∧ c.number = d.number)) ∧
    ∀ c : DiagnosticCode, ∃ ds, c.text = c.family ++ String.ofList ds ∧ Padded ds c.number := by
  constructor
  · intro c d hc hd
    constructor
    · intro h
      have hlist : c.family.toList ++ text.digits c.number =
          d.family.toList ++ text.digits d.number := by
        rw [← toList_text, ← toList_text, h]
      obtain ⟨hfamily, hdigits⟩ := append_inj_of_class hlist hc hd
        (padded_digits c.number).digits (padded_digits d.number).digits
      have hnumber : c.number = d.number := by
        rw [← (padded_digits c.number).value, hdigits, (padded_digits d.number).value]
      exact ⟨String.toList_inj.1 hfamily, hnumber⟩
    · rintro ⟨hfamily, hnumber⟩
      rw [text, text, hfamily, hnumber]
  · intro c
    exact ⟨text.digits c.number, rfl, padded_digits c.number⟩

/-- The greatest number of 32 bits, behind a family with a digit inside. -/
theorem text_identifies_greatest :
    Separable ⟨"E1-", 4294967295⟩ ∧ Separable ⟨"E", 11⟩ ∧
      (⟨"E1-", 4294967295⟩ : DiagnosticCode).text ≠ (⟨"E", 11⟩ : DiagnosticCode).text := by
  have hc : Separable ⟨"E1-", 4294967295⟩ := by
    rintro x ⟨⟩
    decide
  have hd : Separable ⟨"E", 11⟩ := by
    rintro x ⟨⟩
    decide
  refine ⟨hc, hd, fun h => ?_⟩
  have hnumber := ((text_identifies.1 _ _ hc hd).1 h).2
  cases hnumber

/-- A digit at the end of a family cannot be told from those of a number. -/
example : (⟨"E", 11001⟩ : DiagnosticCode).text = (⟨"E1", 1001⟩ : DiagnosticCode).text := by decide

end LexFront.DiagnosticCode
