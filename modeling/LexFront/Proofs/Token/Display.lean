import LexFront.Proofs.Text.Extent
import LexFront.Proofs.Text.Quoted
import LexFront.Token.Basic

/-! Tokens told by how they are written. The name of a kind has no blank in it, and each kind has a name of
its own; what stands behind the first blank is the text in quotes, and is read back. -/
namespace LexFront
open Text

/-- The kind with a given name. -/
def TokenKind.ofName? (name : String) : Option TokenKind := all.find? fun k => k.name == name

/-- The token that is written in a message. -/
def Token.ofDisplay? (message : String) : Option Token := do
  let kind ← TokenKind.ofName? (String.ofList (message.toList.takeWhile (· != ' ')))
  let text ← unquote? ((message.toList.dropWhile (· != ' ')).drop 1)
  return ⟨kind, String.ofList text⟩

theorem TokenKind.ofName?_name (k : TokenKind) : ofName? k.name = some k := by
  have hall : ∀ k ∈ all, ofName? k.name = some k := by decide
  exact hall k (mem_all k)

theorem TokenKind.blank_not_mem_name (k : TokenKind) : ' ' ∉ k.name.toList := by
  have hall : ∀ k ∈ all, ' ' ∉ k.name.toList := by decide
  exact hall k (mem_all k)

namespace Token

/-- **A token is read back** from how it is written. -/
theorem ofDisplay?_display (t : Token) : ofDisplay? t.display = some t := by
  have hwritten : t.display.toList = t.kind.name.toList ++ ' ' :: (quote t.text).toList := by
    simp [display]
  have hname : ∀ c ∈ t.kind.name.toList, (c != ' ') = true := by
    intro c hc
    rw [bne_iff_ne]
    rintro rfl
    exact t.kind.blank_not_mem_name hc
  have hblank : ∀ c ∈ (' ' :: (quote t.text).toList).head?, (c != ' ') = false := by
    rintro _ ⟨⟩
    rfl
  rw [ofDisplay?, hwritten, takeWhile_append_of_stop hname hblank,
    dropWhile_append_of_stop hname hblank, String.ofList_toList, TokenKind.ofName?_name,
    List.drop_one, List.tail_cons, unquote?_quote]
  simp

/-- **How a token is written tells the token**: two tokens are written alike only if they are of one kind
and have one text, whatever characters are in it. -/
theorem display_eq_iff (t u : Token) : t.display = u.display ↔ t.kind = u.kind ∧ t.text = u.text := by
  constructor
  · intro h
    have hread : some t = some u := by
      rw [← ofDisplay?_display t, h, ofDisplay?_display]
    rw [Option.some.inj hread]
    exact ⟨rfl, rfl⟩
  · rintro ⟨hkind, htext⟩
    rw [display, display, hkind, htext]

end Token

end LexFront
