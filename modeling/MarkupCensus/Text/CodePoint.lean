namespace MarkupCensus

/-- A Unicode code point, surrogates included. -/
abbrev CodePoint := Fin 0x110000

/-- A sequence of code points. A string literal may spell a lone surrogate, which no `String` holds. -/
abbrev Text := List CodePoint

namespace CodePoint

theorem char_lt (c : Char) : c.toNat < 0x110000 := by
  have h := c.valid
  simp only [UInt32.isValidChar, Nat.isValidChar] at h
  have e : c.toNat = c.val.toNat := rfl
  omega

def ofChar (c : Char) : CodePoint := ⟨c.toNat, char_lt c⟩

/-- Surrogates are halves of UTF-16 pairs and stand for no character of their own. -/
def isSurrogate (c : CodePoint) : Bool := 0xD800 ≤ c.val && c.val ≤ 0xDFFF

def toChar? (c : CodePoint) : Option Char :=
  if c.isSurrogate then none else some (Char.ofNat c.val)

@[simp] theorem toChar?_ofChar (c : Char) : (ofChar c).toChar? = some c := by
  have h := c.valid
  simp only [UInt32.isValidChar, Nat.isValidChar] at h
  have e : c.toNat = c.val.toNat := rfl
  have hs : (ofChar c).isSurrogate = false := by
    simp only [isSurrogate, ofChar, e]
    have : ¬ (0xD800 ≤ c.val.toNat ∧ c.val.toNat ≤ 0xDFFF) := by omega
    simpa using this
  have hv : (ofChar c).val = c.toNat := rfl
  simp only [toChar?, hs, Bool.false_eq_true, if_false, hv, Char.ofNat_toNat]

end CodePoint

namespace Text

def ofString (s : String) : Text := s.toList.map CodePoint.ofChar

def toString? (t : Text) : Option String := (t.mapM CodePoint.toChar?).map String.ofList

def hasSurrogate (t : Text) : Bool := t.any CodePoint.isSurrogate

end Text

end MarkupCensus
