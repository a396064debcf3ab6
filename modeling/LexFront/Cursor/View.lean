import LexFront.Cursor

/-! Cursors seen from the text around them. `Cursor.between p q` stands behind the characters `p` and
in front of `q`; each operation is told by what it does to the two parts. -/
namespace LexFront

/-- The number of bytes that characters take. -/
def Text.byteLength (cs : List Char) : Nat := (String.ofList cs).utf8ByteSize

namespace Text

@[simp] theorem byteLength_nil : byteLength [] = 0 := rfl

@[simp] theorem byteLength_append (p q : List Char) :
    byteLength (p ++ q) = byteLength p + byteLength q := by
  rw [byteLength, String.ofList_append, String.utf8ByteSize_append]
  rfl

@[simp] theorem byteLength_singleton (x : Char) : byteLength [x] = x.utf8Size := by
  simp [byteLength]

@[simp] theorem byteLength_cons (x : Char) (q : List Char) :
    byteLength (x :: q) = x.utf8Size + byteLength q := by
  rw [← List.singleton_append, byteLength_append, byteLength_singleton]

theorem charAt?_byteLength (p q : List Char) :
    charAt? (String.ofList (p ++ q)) (byteLength p) = some q.head? := by
  rw [String.ofList_append, byteLength, charAt?_append, String.toList_ofList]

theorem charAt?_eq_none_of_lt {s : String} {i : Nat} (h : s.utf8ByteSize < i) :
    charAt? s i = none := by
  cases hx : charAt? s i with
  | none => rfl
  | some x =>
    have := le_of_charAt?_eq_some hx
    omega

theorem slice?_byteLength (p x q : List Char) :
    slice? (String.ofList (p ++ (x ++ q))) (byteLength p) (byteLength (p ++ x)) =
      some (String.ofList x) := by
  rw [slice?_eq_some_iff]
  refine ⟨String.ofList p, String.ofList q, ?_, rfl, ?_⟩
  · simp only [String.ofList_append, String.append_assoc]
  · simp only [byteLength, String.ofList_append]

end Text

namespace Cursor
open Text

/-- The cursor between two parts of a text. -/
def between (p q : List Char) : Cursor := place (String.ofList (p ++ q)) (byteLength p) q.head?

theorem start_eq_between (source : String) : start source = between [] source.toList := by
  simp [start, between]

@[simp] theorem source_between (p q : List Char) :
    (between p q).source = String.ofList (p ++ q) := rfl

@[simp] theorem position_between (p q : List Char) : (between p q).position = byteLength p := rfl

@[simp] theorem current_between (p q : List Char) : (between p q).current = q.head? := rfl

@[simp] theorem nextPosition_between_cons (p q : List Char) (x : Char) :
    (between p (x :: q)).nextPosition = byteLength (p ++ [x]) := by
  simp [between, place, stride]

@[simp] theorem nextPosition_between_nil (p : List Char) :
    (between p []).nextPosition = byteLength p + 1 := rfl

@[simp] theorem peek_between_cons (p q : List Char) (x : Char) :
    (between p (x :: q)).peek = q.head? := by
  have h := charAt?_byteLength (p ++ [x]) q
  rw [List.append_assoc, List.singleton_append] at h
  rw [peek, nextPosition_between_cons, source_between, h]
  rfl

@[simp] theorem peek_between_nil (p : List Char) : (between p []).peek = none := by
  have h : charAt? (String.ofList (p ++ [])) (byteLength p + 1) = none := by
    apply charAt?_eq_none_of_lt
    rw [List.append_nil]
    exact Nat.lt_succ_self _
  rw [peek, nextPosition_between_nil, source_between, h]
  rfl

@[simp] theorem advance?_between_nil (p : List Char) :
    (between p []).advance? = some (between p []) := rfl

@[simp] theorem advance?_between_cons (p q : List Char) (x : Char) :
    (between p (x :: q)).advance? = some (between (p ++ [x]) q) := by
  have h := charAt?_byteLength (p ++ [x]) q
  have happ : p ++ x :: q = p ++ [x] ++ q := by simp
  rw [advance?, if_neg (by simp), nextPosition_between_cons, source_between, happ, h]
  rfl

@[simp] theorem eat?_between_nil (p : List Char) (x : Char) :
    (between p []).eat? x = some (false, between p []) := rfl

@[simp] theorem eat?_between_cons (p q : List Char) (x y : Char) :
    (between p (y :: q)).eat? x =
      some (if y = x then (true, between (p ++ [y]) q) else (false, between p (y :: q))) := by
  by_cases h : y = x
  · simp [eat?, h]
  · simp [eat?, h]

@[simp] theorem sliceFrom?_between (p x q : List Char) :
    (between (p ++ x) q).sliceFrom? (byteLength p) = some (String.ofList x) := by
  have h := slice?_byteLength p x q
  rw [← List.append_assoc] at h
  rw [sliceFrom?, source_between, position_between, h]

section
variable {σ : Type} (test : σ → Char → Bool × σ) (state : σ)

@[simp] theorem advanceWith?_between_nil (p : List Char) :
    (between p []).advanceWith? test state = some (state, between p []) := by
  rw [advanceWith?]
  rfl

/-- A run asks about the current character and goes on with the next if it is accepted. -/
theorem advanceWith?_between_cons (p q : List Char) (x : Char) :
    (between p (x :: q)).advanceWith? test state =
      if (test state x).1 then (between (p ++ [x]) q).advanceWith? test (test state x).2
      else some ((test state x).2, between p (x :: q)) := by
  rw [advanceWith?]
  split
  · rename_i h
    cases h
  · rename_i y hy
    cases hy
    split
    · rename_i state' h
      simp [h]
    · rename_i state' h
      split
      · rename_i hadvance
        rw [advance?_between_cons] at hadvance
        cases hadvance
      · rename_i d hadvance
        rw [advance?_between_cons] at hadvance
        cases hadvance
        simp [h]

end

/-- A run takes the longest accepted part over. -/
@[simp] theorem advanceWhile?_between (f : Char → Bool) (p q : List Char) :
    (between p q).advanceWhile? f = some (between (p ++ q.takeWhile f) (q.dropWhile f)) := by
  induction q generalizing p with
  | nil => simp [advanceWhile?]
  | cons x q ih =>
    have h := ih (p ++ [x])
    rw [advanceWhile?] at h ⊢
    rw [advanceWith?_between_cons]
    by_cases hx : f x = true
    · simp only [hx, if_true, h]
      simp [hx]
    · simp [hx]

end Cursor

end LexFront
