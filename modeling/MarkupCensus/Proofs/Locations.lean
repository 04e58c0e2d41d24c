import Mathlib
import MarkupCensus.Tree.Usage

namespace MarkupCensus

namespace Utf8

/-- A byte inside a character, after its first. -/
def isContinuation (b : UInt8) : Bool := 0x80 ≤ b && b ≤ 0xBF

/-- No character goes on into these bytes. -/
def isFresh (bs : List UInt8) : Bool := bs.head?.all fun b => !isContinuation b

theorem lead?_range {b : UInt8} {l : Lead} (h : lead? b = some l) :
    0x80 ≤ l.low ∧ l.high ≤ 0xBF := by
  unfold lead? at h
  repeat' split at h
  all_goals cases h
  all_goals simp

/-- Continuation bytes are read up to fresh bytes at most. -/
theorem continuation_append {ys : List UInt8} (hys : isFresh ys) (n : Nat) (low high : UInt8)
    (hlow : 0x80 ≤ low) (hhigh : high ≤ 0xBF) (bits : Nat) (xs : List UInt8) :
    continuation n low high bits (xs ++ ys) =
      ((continuation n low high bits xs).1, (continuation n low high bits xs).2.1,
        (continuation n low high bits xs).2.2 ++ ys) := by
  induction n generalizing low high bits xs with
  | zero => rfl
  | succ n ih =>
    cases xs with
    | nil =>
      cases ys with
      | nil => rfl
      | cons y ys =>
        -- the range asked for is one of continuation bytes, and `y` is none
        have hy : ¬(low ≤ y ∧ y ≤ high) := by
          rintro ⟨hl, hh⟩
          have hc : isContinuation y = true := by
            simp [isContinuation, UInt8.le_trans hlow hl, UInt8.le_trans hh hhigh]
          simp [isFresh, hc] at hys
        simp [continuation, hy]
    | cons x xs =>
      have hrest := ih 0x80 0xBF (by decide) (by decide) (bits * 64 + (x.toNat - 0x80)) xs
      simp only [List.cons_append, continuation]
      split
      · rw [hrest]
      · rfl

/-- Bytes may be cut where a character starts, also if they are ill-formed. -/
theorem pieces_append {ys : List UInt8} (hys : isFresh ys) (xs : List UInt8) :
    pieces (xs ++ ys) = pieces xs ++ pieces ys := by
  fun_induction pieces xs with
  | case1 => rfl
  | case2 b rest hb ih => rw [List.cons_append, pieces, hb, ih, List.cons_append]
  | case3 b rest l hb r ih =>
    obtain ⟨hlow, hhigh⟩ := lead?_range hb
    have hr := continuation_append hys l.count l.low l.high hlow hhigh l.bits rest
    rw [List.cons_append, pieces, hb]
    simp only [hr, List.cons_append]
    rw [ih]

theorem decode_append {ys : List UInt8} (hys : isFresh ys) (xs : List UInt8) :
    decode (xs ++ ys) = decode xs ++ decode ys := by
  rw [decode, pieces_append hys, List.map_append, decode, decode]

theorem decode_ne_nil {bs : List UInt8} (h : bs ≠ []) : decode bs ≠ [] := by
  cases bs with
  | nil => exact absurd rfl h
  | cons b rest =>
    rw [decode, pieces]
    split <;> simp

theorem units16_eq_sum (cs : List Char) :
    units16 cs = (cs.map fun c => if c.toNat < 0x10000 then 1 else 2).sum := by
  rw [units16, ← List.foldl_map, List.sum_eq_foldl]

theorem units16_append (as bs : List Char) : units16 (as ++ bs) = units16 as + units16 bs := by
  simp only [units16_eq_sum, List.map_append, List.sum_append]

theorem units16_pos {cs : List Char} (h : cs ≠ []) : 0 < units16 cs := by
  cases cs with
  | nil => exact absurd rfl h
  | cons c cs =>
    rw [units16_eq_sum, List.map_cons, List.sum_cons]
    split <;> omega

end Utf8

namespace Source

/-- A character of the source starts at the offset, or the source ends there. -/
def isBoundary (src : Source) (offset : Nat) : Bool := Utf8.isFresh (src.drop offset)

theorem take_eq_append_slice (src : Source) {a b : Nat} (h : a ≤ b) :
    src.take b = src.take a ++ src.slice a b := by
  have hb : a + (b - a) = b := by omega
  rw [slice, ← hb, List.take_add, hb]

/-- On one line the bytes before an offset go on into those before a later one. -/
theorem linePart_eq_append (src : Source) {a b : Nat} (h : a ≤ b) (hline : 0x0A ∉ src.slice a b) :
    src.linePart b = src.linePart a ++ src.slice a b := by
  have hall : ∀ c ∈ (src.slice a b).reverse, (c != 0x0A) = true := by
    intro c hc
    have : c ≠ 0x0A := fun he => hline (he ▸ List.mem_reverse.1 hc)
    simpa using this
  rw [linePart, take_eq_append_slice src h, List.reverse_append, List.takeWhile_append_of_pos hall,
    List.reverse_append, List.reverse_reverse, linePart]

theorem row_eq_add (src : Source) {a b : Nat} (h : a ≤ b) :
    src.row b = src.row a + (src.slice a b).count 0x0A := by
  rw [row, take_eq_append_slice src h, List.count_append, row]

end Source

namespace Location

/-- One place comes before another: on an earlier line, or on the same line further left. -/
def Before (a b : Location) : Prop := a.line < b.line ∨ a.line = b.line ∧ a.column < b.column

instance (a b : Location) : Decidable (Before a b) :=
  inferInstanceAs (Decidable (a.line < b.line ∨ a.line = b.line ∧ a.column < b.column))

theorem Before.ne {a b : Location} (h : a.Before b) : a ≠ b := by
  rintro rfl
  rcases h with h | ⟨_, h⟩ <;> omega

end Location

/-- Locations follow the offsets of a source, from any offset at which a character starts. -/
theorem Source.location_before {src : Source} {a b : Nat} (ha : src.isBoundary a) (hab : a < b)
    (hb : b ≤ src.length) (file : String) :
    (src.location file a).Before (src.location file b) := by
  have hrow := src.row_eq_add hab.le
  by_cases hline : 0x0A ∈ src.slice a b
  · have hpos := List.count_pos_iff.2 hline
    left
    simp only [location]
    omega
  · -- the columns differ by the units of the bytes between the offsets
    have hne : src.slice a b ≠ [] := by
      have hlen : (src.slice a b).length = b - a := by
        simp only [slice, List.length_take, List.length_drop]
        omega
      intro he
      rw [he, List.length_nil] at hlen
      omega
    have hfresh : Utf8.isFresh (src.slice a b) := by
      rw [slice, Utf8.isFresh, List.head?_take, if_neg (by omega)]
      exact ha
    have hcol := Utf8.units16_pos (Utf8.decode_ne_nil hne)
    have hsame := List.count_eq_zero.2 hline
    right
    simp only [location, src.linePart_eq_append hab.le hline, Utf8.decode_append hfresh,
      Utf8.units16_append]
    omega

end MarkupCensus
