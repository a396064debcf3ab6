import LexFront.Text.Quoted
import LexFront.Toml.StringLiteral

/-! Reading quoted text back. Behind a backslash stands a letter, or a code point that a closing brace
ends; everything else in the quotes stands for itself. Which characters are concealed does not
matter, since a character is read the same in either form. -/
namespace LexFront.Text

/-- Where a reader of quoted text is. -/
inductive QuoteState where
  /-- In front of a character. -/
  | plain
  /-- Behind a backslash. -/
  | escaped
  /-- Within a code point, behind digits that make up `value`. -/
  | code (value : Nat)

/-- The text in front of the closing quote, which ends what is read. -/
def unescape? : QuoteState → List Char → Option (List Char)
  | .plain, ['"'] => some []
  | .plain, '\\' :: s => unescape? .escaped s
  | .plain, c :: s => if c = '"' then none else (unescape? .plain s).map (c :: ·)
  | .escaped, '"' :: s => (unescape? .plain s).map ('"' :: ·)
  | .escaped, '\\' :: s => (unescape? .plain s).map ('\\' :: ·)
  | .escaped, '0' :: s => (unescape? .plain s).map ('\x00' :: ·)
  | .escaped, 't' :: s => (unescape? .plain s).map ('\t' :: ·)
  | .escaped, 'r' :: s => (unescape? .plain s).map ('\r' :: ·)
  | .escaped, 'n' :: s => (unescape? .plain s).map ('\n' :: ·)
  | .escaped, 'u' :: '\x7b' :: s => unescape? (.code 0) s
  | .code n, '\x7d' :: s => (unescape? .plain s).map (Char.ofNat n :: ·)
  | .code n, d :: s => do
    let digit ← Toml.hexDigit? d
    unescape? (.code (16 * n + digit)) s
  | _, _ => none

/-- The text that stands in quotes. -/
def unquote? : List Char → Option (List Char)
  | '"' :: s => unescape? .plain s
  | _ => none

section
variable {s : List Char} {c : Char} {n d : Nat}

theorem hexDigit?_digitChar (h : d < 16) : Toml.hexDigit? d.digitChar = some d := by
  have hall : ∀ e < 16, Toml.hexDigit? e.digitChar = some e := by decide
  exact hall d h

theorem unescape?_digitChar (h : d < 16) :
    unescape? (.code n) (d.digitChar :: s) = unescape? (.code (16 * n + d)) s := by
  have hbrace : d.digitChar ≠ '\x7d' := Nat.digitChar_ne _ (by decide)
  rw [unescape?]
  · rw [hexDigit?_digitChar h]
    rfl
  · exact hbrace

theorem unescape?_toDigits : unescape? (.code 0) (Nat.toDigits 16 n ++ s) = unescape? (.code n) s := by
  -- the last digit is read behind those of the number without it
  induction n using Nat.strongRecOn generalizing s with
  | ind n ih =>
    rw [Nat.toDigits_eq_if (by decide)]
    split
    next h => rw [List.singleton_append, unescape?_digitChar h, Nat.mul_zero, Nat.zero_add]
    next h =>
      rw [List.append_assoc, ih (n / 16) (by omega), List.singleton_append,
        unescape?_digitChar (Nat.mod_lt n (by decide)), Nat.div_add_mod]

theorem unescape?_code : unescape? .plain
    (['\\', 'u', '\x7b'] ++ Nat.toDigits 16 c.toNat ++ ['\x7d'] ++ s) =
      (unescape? .plain s).map (c :: ·) := by
  have hread : unescape? .plain ('\\' :: 'u' :: '\x7b' :: (Nat.toDigits 16 c.toNat ++ '\x7d' :: s)) =
      unescape? (.code c.toNat) ('\x7d' :: s) := unescape?_toDigits
  simpa [unescape?] using hread

theorem unescape?_self (hquote : c ≠ '"') (hslash : c ≠ '\\') :
    unescape? .plain (c :: s) = (unescape? .plain s).map (c :: ·) := by
  rw [unescape?]
  · exact if_neg hquote
  · exact fun h => absurd h hquote
  · exact hslash

/-- **A character is read** from how it stands inside quotes. -/
theorem unescape?_escape :
    unescape? .plain (escape c ++ s) = (unescape? .plain s).map (c :: ·) := by
  rw [escape]
  split
  next h => rw [h]; rfl
  next hquote =>
  split
  next h => rw [h]; rfl
  next hslash =>
  split
  next h => rw [h]; rfl
  split
  next h => rw [h]; rfl
  split
  next h => rw [h]; rfl
  split
  next h => rw [h]; rfl
  split
  · exact unescape?_code
  · exact unescape?_self hquote hslash

end

/-- **Quoted text is read back.** -/
theorem unquote?_quote (t : String) : unquote? (quote t).toList = some t.toList := by
  have hbody : ∀ cs : List Char, unescape? .plain (cs.flatMap escape ++ ['"']) = some cs := by
    intro cs
    induction cs with
    | nil => rfl
    | cons c cs ih =>
      rw [List.flatMap_cons, List.append_assoc, unescape?_escape, ih]
      rfl
  rw [quote, String.toList_ofList]
  exact hbody t.toList

end LexFront.Text
