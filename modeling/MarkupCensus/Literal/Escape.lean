import MarkupCensus.Number.Numeral
import MarkupCensus.Text.CodePoint

namespace MarkupCensus.Escape

def codePoint (n : Int) : Except LiteralFault CodePoint :=
  if n < -0x80000000 || 0x80000000 ≤ n then .error .oversizedCodePoint
  else if 0 ≤ n then
    if h : n.toNat < 0x110000 then .ok ⟨n.toNat, h⟩ else .error .notCodePoint
  else .error .notCodePoint

def hexadecimal (cs : List Char) : Except LiteralFault Text :=
  match Numeral.integer? 16 cs with
  | some n => (codePoint n).map ([·])
  | none => .error (.notInteger 16 (String.ofList cs))

def simple? : Char → Option Char
  | 'n' => some '\n'
  | 't' => some '\t'
  | 'r' => some '\r'
  | 'b' => some (Char.ofNat 8)
  | 'f' => some (Char.ofNat 12)
  | 'v' => some (Char.ofNat 11)
  | '0' => some (Char.ofNat 0)
  | _ => none

def isLineTerminator (c : Char) : Bool :=
  c == '\n' || c == '\r' || c.toNat == 0x2028 || c.toNat == 0x2029

def isOctalDigit (c : Char) : Bool := '0' ≤ c && c ≤ '7'

/-- What the characters after the backslash stand for: nothing where a line is continued, a code
point by its number, a control character by its letter, and themselves otherwise. -/
def body : List Char → Except LiteralFault Text
  | [] => .ok []
  | c :: cs =>
    if isLineTerminator c then .ok []
    else if c = 'x' && cs.length = 2 then hexadecimal cs
    else if c = 'u' then
      hexadecimal (if cs.head? = some '{' then (cs.drop 1).dropLast else cs)
    else match cs, simple? c with
      | [], some d => .ok [CodePoint.ofChar d]
      | _, _ =>
        if (c :: cs).all isOctalDigit then
          (codePoint (Numeral.ofDigits 8 ((c :: cs).filterMap Digit.hexValue?))).map ([·])
        else .ok ((c :: cs).map CodePoint.ofChar)

/-- Decodes an escape sequence, whose first character is the backslash. -/
def decode (sequence : List Char) : Except LiteralFault Text := body (sequence.drop 1)

end MarkupCensus.Escape
