import Mathlib.Tactic.IntervalCases
import MarkupCensus.Text.Utf8

namespace MarkupCensus.Utf8

/-- Bytes are cut after a lead byte and the continuation bytes that it asks for. -/
theorem pieces_of_lead {b : UInt8} {l : Lead} {bs rest : List UInt8} {v k : Nat}
    (hl : lead? b = some l)
    (hc : continuation l.count l.low l.high l.bits bs = (some v, k, rest)) :
    pieces (b :: bs) = ⟨some (Char.ofNat v), 1 + k⟩ :: pieces rest := by
  rw [pieces, hl]
  simp only [hc, Option.map_some]

theorem continuation_cons {x : Nat} {low high : UInt8} (hx : x < 64) (hlow : low.toNat ≤ x + 128)
    (hhigh : x + 128 ≤ high.toNat) (n bits : Nat) (bs : List UInt8) :
    continuation (n + 1) low high bits (UInt8.ofNat (x + 128) :: bs) =
      ((continuation n 0x80 0xBF (bits * 64 + x) bs).1,
        (continuation n 0x80 0xBF (bits * 64 + x) bs).2.1 + 1,
        (continuation n 0x80 0xBF (bits * 64 + x) bs).2.2) := by
  have hb : (UInt8.ofNat (x + 128)).toNat = x + 128 :=
    UInt8.toNat_ofNat_of_lt' (show x + 128 < 256 by omega)
  have hrange : low ≤ UInt8.ofNat (x + 128) ∧ UInt8.ofNat (x + 128) ≤ high := by
    rw [UInt8.le_iff_toNat_le, UInt8.le_iff_toNat_le, hb]
    exact ⟨hlow, hhigh⟩
  rw [continuation, if_pos hrange, hb, Nat.add_sub_cancel]

/-- After the first continuation byte any other may follow. -/
theorem continuation_next {x : Nat} (hx : x < 64) (n bits : Nat) (bs : List UInt8) :
    continuation (n + 1) 0x80 0xBF bits (UInt8.ofNat (x + 128) :: bs) =
      ((continuation n 0x80 0xBF (bits * 64 + x) bs).1,
        (continuation n 0x80 0xBF (bits * 64 + x) bs).2.1 + 1,
        (continuation n 0x80 0xBF (bits * 64 + x) bs).2.2) := by
  have hlow : (0x80 : UInt8).toNat ≤ x + 128 := Nat.le_add_left 128 x
  have hhigh : x + 128 ≤ (0xBF : UInt8).toNat := show x + 128 ≤ 191 by omega
  exact continuation_cons hx hlow hhigh n bits bs

theorem continuation_zero (low high : UInt8) (bits : Nat) (bs : List UInt8) :
    continuation 0 low high bits bs = (some bits, 0, bs) := rfl

theorem lead?_one {k : Nat} (h : k < 128) :
    lead? (UInt8.ofNat k) = some { count := 0, bits := k } := by
  have hk : (UInt8.ofNat k).toNat = k := UInt8.toNat_ofNat_of_lt' (show k < 256 by omega)
  have hlt : UInt8.ofNat k < 0x80 := by
    rw [UInt8.lt_iff_toNat_lt, hk]
    exact h
  rw [lead?, if_pos hlt, hk]

theorem lead?_two {k : Nat} (hlow : 2 ≤ k) (hhigh : k < 32) :
    lead? (UInt8.ofNat (k + 192)) = some { count := 1, bits := k } := by
  interval_cases k <;> rfl

theorem lead?_three {k : Nat} (h : k < 16) : lead? (UInt8.ofNat (k + 224)) =
    some { count := 2, low := if k = 0 then 0xA0 else 0x80, high := if k = 13 then 0x9F else 0xBF,
           bits := k } := by
  interval_cases k <;> rfl

theorem lead?_four {k : Nat} (h : k < 5) : lead? (UInt8.ofNat (k + 240)) =
    some { count := 3, low := if k = 0 then 0x90 else 0x80, high := if k = 4 then 0x8F else 0xBF,
           bits := k } := by
  interval_cases k <;> rfl

section Widths

variable {v : Nat} (bs : List UInt8)

theorem pieces_one (h : v < 0x80) :
    pieces (UInt8.ofNat v :: bs) = ⟨some (Char.ofNat v), 1⟩ :: pieces bs :=
  pieces_of_lead (lead?_one h) rfl

theorem pieces_two (hlow : 0x80 ≤ v) (hhigh : v < 0x800) :
    pieces (UInt8.ofNat (v / 64 % 32 + 192) :: UInt8.ofNat (v % 64 + 128) :: bs) =
      ⟨some (Char.ofNat v), 2⟩ :: pieces bs := by
  have hc := continuation_next (show v % 64 < 64 by omega) 0 (v / 64 % 32) bs
  have hv : v / 64 % 32 * 64 + v % 64 = v := by omega
  rw [continuation_zero, hv] at hc
  exact pieces_of_lead (lead?_two (by omega) (by omega)) hc

/-- The lead bytes at the ends of the range leave out what two bytes can spell, and the surrogates. -/
theorem pieces_three (hlow : 0x800 ≤ v) (hhigh : v < 0x10000) (hs : v < 0xD800 ∨ 0xDFFF < v) :
    pieces (UInt8.ofNat (v / 4096 % 16 + 224) :: UInt8.ofNat (v / 64 % 64 + 128) ::
        UInt8.ofNat (v % 64 + 128) :: bs) = ⟨some (Char.ofNat v), 3⟩ :: pieces bs := by
  have hfirst : (if v / 4096 % 16 = 0 then (0xA0 : UInt8) else 0x80).toNat ≤ v / 64 % 64 + 128 := by
    split
    · change 160 ≤ _; omega
    · change 128 ≤ _; omega
  have hlast : v / 64 % 64 + 128 ≤ (if v / 4096 % 16 = 13 then (0x9F : UInt8) else 0xBF).toNat := by
    split
    · change _ ≤ 159; omega
    · change _ ≤ 191; omega
  have hc := continuation_cons (by omega) hfirst hlast 1 (v / 4096 % 16)
    (UInt8.ofNat (v % 64 + 128) :: bs)
  have hv : (v / 4096 % 16 * 64 + v / 64 % 64) * 64 + v % 64 = v := by omega
  rw [continuation_next (by omega), continuation_zero, hv] at hc
  exact pieces_of_lead (lead?_three (by omega)) hc

theorem pieces_four (hlow : 0x10000 ≤ v) (hhigh : v < 0x110000) :
    pieces (UInt8.ofNat (v / 262144 % 8 + 240) :: UInt8.ofNat (v / 4096 % 64 + 128) ::
        UInt8.ofNat (v / 64 % 64 + 128) :: UInt8.ofNat (v % 64 + 128) :: bs) =
      ⟨some (Char.ofNat v), 4⟩ :: pieces bs := by
  have hfirst : (if v / 262144 % 8 = 0 then (0x90 : UInt8) else 0x80).toNat ≤
      v / 4096 % 64 + 128 := by
    split
    · change 144 ≤ _; omega
    · change 128 ≤ _; omega
  have hlast : v / 4096 % 64 + 128 ≤
      (if v / 262144 % 8 = 4 then (0x8F : UInt8) else 0xBF).toNat := by
    split
    · change _ ≤ 143; omega
    · change _ ≤ 191; omega
  have hc := continuation_cons (by omega) hfirst hlast 2 (v / 262144 % 8)
    (UInt8.ofNat (v / 64 % 64 + 128) :: UInt8.ofNat (v % 64 + 128) :: bs)
  have hv : ((v / 262144 % 8 * 64 + v / 4096 % 64) * 64 + v / 64 % 64) * 64 + v % 64 = v := by omega
  rw [continuation_next (by omega), continuation_next (by omega), continuation_zero, hv] at hc
  exact pieces_of_lead (lead?_four (by omega)) hc

end Widths

theorem pieces_encodeChar (c : Char) (bs : List UInt8) :
    ∃ k, pieces (String.utf8EncodeChar c ++ bs) = ⟨some c, k⟩ :: pieces bs := by
  have hvalid := c.valid
  simp only [UInt32.isValidChar, Nat.isValidChar] at hvalid
  have hchar : Char.ofNat c.val.toNat = c := Char.ofNat_toNat c
  rw [String.utf8EncodeChar.eq_1]
  generalize c.val.toNat = v at hvalid hchar
  split_ifs with h1 h2 h3
  · exact ⟨1, hchar ▸ pieces_one bs (by omega)⟩
  · exact ⟨2, hchar ▸ pieces_two bs (by omega) (by omega)⟩
  · exact ⟨3, hchar ▸ pieces_three bs (by omega) (by omega) (by omega)⟩
  · exact ⟨4, hchar ▸ pieces_four bs (by omega) (by omega)⟩

/-- Text in UTF-8 is read as it was written. -/
theorem decode_encode (cs : List Char) : decode (encode cs) = cs := by
  induction cs with
  | nil => rw [encode, List.flatMap_nil, decode, pieces, List.map_nil]
  | cons c cs ih =>
    obtain ⟨k, hk⟩ := pieces_encodeChar c (encode cs)
    have hcons : encode (c :: cs) = String.utf8EncodeChar c ++ encode cs := List.flatMap_cons
    rw [hcons, decode, hk, List.map_cons, Option.getD_some]
    exact congrArg (c :: ·) ih

/-- Pieces are read if none of them is ill-formed. -/
theorem characters_eq_ok_iff {bs : List UInt8} {n : Nat} {ps : List Piece} {cs : List Char} :
    characters bs n ps = .ok cs ↔ ps.map Piece.char? = cs.map some := by
  induction ps generalizing n cs with
  | nil =>
    cases cs <;> simp [characters]
  | cons p ps ih =>
    obtain ⟨_ | c, width⟩ := p
    · cases cs <;> simp [characters]
    · rw [characters, List.map_cons]
      cases hread : characters bs (n + width) ps with
      | error e =>
        constructor
        · intro h
          cases h
        · intro h
          obtain ⟨d, ds, rfl, -, hds⟩ := List.map_eq_cons_iff.1 h.symm
          cases hread.symm.trans (ih.2 hds.symm)
      | ok ds =>
        have hds := ih.1 hread
        rw [hds]
        change Except.ok (c :: ds) = Except.ok cs ↔ (c :: ds).map some = cs.map some
        rw [Except.ok.injEq, List.map_inj_right fun _ _ => Option.some.inj]

theorem decode_of_decodeStrict {bs : List UInt8} {cs : List Char} (h : decodeStrict bs = .ok cs) :
    decode bs = cs := by
  have hpieces := congrArg (List.map fun o => o.getD replacement) (characters_eq_ok_iff.1 h)
  rw [List.map_map, List.map_map] at hpieces
  exact hpieces.trans (List.map_id cs)

end MarkupCensus.Utf8
