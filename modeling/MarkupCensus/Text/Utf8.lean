namespace MarkupCensus.Utf8

/-- A maximal run of bytes that is read as one unit: a character, or an ill-formed run of `width`
bytes that stands for none. -/
structure Piece where
  char? : Option Char
  width : Nat
deriving DecidableEq, Repr

/-- What a lead byte announces: the number of continuation bytes, the range of the first of them,
and the leading bits of the code point. -/
structure Lead where
  count : Nat
  low : UInt8 := 0x80
  high : UInt8 := 0xBF
  bits : Nat

def lead? (b : UInt8) : Option Lead :=
  if b < 0x80 then some { count := 0, bits := b.toNat }
  else if b < 0xC2 then none
  else if b < 0xE0 then some { count := 1, bits := b.toNat - 0xC0 }
  else if b = 0xE0 then some { count := 2, low := 0xA0, bits := 0 }
  else if b = 0xED then some { count := 2, high := 0x9F, bits := 0xD }
  else if b < 0xF0 then some { count := 2, bits := b.toNat - 0xE0 }
  else if b = 0xF0 then some { count := 3, low := 0x90, bits := 0 }
  else if b < 0xF4 then some { count := 3, bits := b.toNat - 0xF0 }
  else if b = 0xF4 then some { count := 3, high := 0x8F, bits := 4 }
  else none

/-- Reads continuation bytes: the code point they complete, if they do, how many there are, and the
bytes left over. -/
def continuation : Nat → UInt8 → UInt8 → Nat → List UInt8 → Option Nat × Nat × List UInt8
  | 0, _, _, bits, rest => (some bits, 0, rest)
  | _ + 1, _, _, _, [] => (none, 0, [])
  | n + 1, low, high, bits, b :: rest =>
    if low ≤ b ∧ b ≤ high then
      let r := continuation n 0x80 0xBF (bits * 64 + (b.toNat - 0x80)) rest
      (r.1, r.2.1 + 1, r.2.2)
    else (none, 0, b :: rest)

theorem continuation_length (n : Nat) (low high : UInt8) (bits : Nat) (bs : List UInt8) :
    (continuation n low high bits bs).2.1 + (continuation n low high bits bs).2.2.length
      = bs.length := by
  induction n generalizing low high bits bs with
  | zero => simp [continuation]
  | succ n ih =>
    cases bs with
    | nil => simp [continuation]
    | cons b rest =>
      simp only [continuation]
      split
      · simp only [List.length_cons, ← ih 0x80 0xBF (bits * 64 + (b.toNat - 0x80)) rest]
        omega
      · simp

/-- Cuts bytes into characters and ill-formed runs; each run is as long as some well-formed
sequence agrees with it. -/
def pieces : List UInt8 → List Piece
  | [] => []
  | b :: rest =>
    match lead? b with
    | none => ⟨none, 1⟩ :: pieces rest
    | some l =>
      let r := continuation l.count l.low l.high l.bits rest
      ⟨r.1.map Char.ofNat, 1 + r.2.1⟩ :: pieces r.2.2
termination_by bs => bs.length
decreasing_by
  · simp
  · have := continuation_length l.count l.low l.high l.bits rest
    simp only [List.length_cons]
    omega

def replacement : Char := Char.ofNat 0xFFFD

/-- Decodes bytes, with one replacement character for each ill-formed run. -/
def decode (bs : List UInt8) : List Char := (pieces bs).map fun p => p.char?.getD replacement

/-- An ill-formed run where bytes had to be text: where it starts, its first byte and its width, and
whether the bytes end with it. -/
structure IllFormed where
  offset : Nat
  first : UInt8
  width : Nat
  last : Bool
deriving DecidableEq, Repr

namespace IllFormed

def reason (e : IllFormed) : String :=
  if (lead? e.first).isNone then "invalid start byte"
  else if e.last then "unexpected end of data"
  else "invalid continuation byte"

/-- What could not be decoded: one byte, or those from one position to another. -/
def place (e : IllFormed) : String :=
  let n := toString e.offset
  if e.width = 1 then
    "byte 0x" ++ String.ofList (Nat.toDigits 16 e.first.toNat) ++ " in position " ++ n
  else "bytes in position " ++ n ++ "-" ++ toString (e.offset + e.width - 1)

def message (e : IllFormed) : String :=
  "'utf-8' codec can't decode " ++ e.place ++ ": " ++ e.reason

end IllFormed

/-- The characters of pieces that start at an offset of some bytes, up to the first ill-formed run. -/
def characters (bs : List UInt8) : Nat → List Piece → Except IllFormed (List Char)
  | _, [] => .ok []
  | offset, ⟨some c, width⟩ :: ps => (characters bs (offset + width) ps).map (c :: ·)
  | offset, ⟨none, width⟩ :: ps =>
    .error { offset := offset, first := bs.getD offset 0, width := width, last := ps.isEmpty }

def decodeStrict (bs : List UInt8) : Except IllFormed (List Char) := characters bs 0 (pieces bs)

def decode? (bs : List UInt8) : Option (List Char) := (decodeStrict bs).toOption

def encode (cs : List Char) : List UInt8 := cs.flatMap String.utf8EncodeChar

def units16 (cs : List Char) : Nat :=
  cs.foldl (fun n c => n + (if c.toNat < 0x10000 then 1 else 2)) 0

end MarkupCensus.Utf8
