import MarkupCensus.Grammar.Module
import MarkupCensus.Tree.Check

namespace MarkupCensus.Grammar

open Reader

/-- Reads a part whose parts are nested at most as deep as the given number. -/
def part : Nat → Parts
  | 0 => fun _ => failure
  | depth + 1 => step (part depth)

def interpreterLine : Reader Unit := do
  if (← tokenStarts "#!") then
    skip
    skipWhile fun c => c != '\n'

def program (depth : Nat) : Reader Node := node "program" do
  interpreterLine
  let ss ← statements (part depth)
  skip
  guardThat (← peek).isNone
  return ss

end MarkupCensus.Grammar

namespace MarkupCensus

/-- Stands for a byte of an ill-formed run: it is in no name and no sign, but comments, strings and
text may hold it. -/
def Grammar.strayByte : Char := Char.ofNat 1

def Source.chars (src : Source) : List Char :=
  (Utf8.pieces src).flatMap fun p =>
    match p.char? with
    | some c => [c]
    | none => List.replicate p.width Grammar.strayByte

def Source.parse (src : Source) : Except ParseFailure Node :=
  let inp := Grammar.Input.ofChars src.chars
  match Grammar.program (8 * inp.chars.size + 16) inp 0 with
  | some (root, _) => .ok root
  | none => .error (.malformed none)

end MarkupCensus
