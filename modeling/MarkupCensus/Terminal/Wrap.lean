import MarkupCensus.Terminal.Markup
import MarkupCensus.Text.Blank
import MarkupCensus.Text.Split

namespace MarkupCensus.Terminal

def columns : Nat := 80

/-- The words of a line, each with the blanks after it, the first one also with those before it. -/
def words : Nat → List Char → List (List Char)
  | 0, _ => []
  | fuel + 1, cs =>
    let lead := cs.takeWhile Blank.isBlank
    let rest := cs.dropWhile Blank.isBlank
    let body := rest.takeWhile fun c => !Blank.isBlank c
    let rest := rest.dropWhile fun c => !Blank.isBlank c
    if body.isEmpty then []
    else (lead ++ body ++ rest.takeWhile Blank.isBlank) :: words fuel (rest.dropWhile Blank.isBlank)

def trimEnd (cs : List Char) : List Char := (cs.reverse.dropWhile Blank.isBlank).reverse

/-- Cuts a word that fits on no line into pieces of at most the given width. -/
def chop (width : Nat) : List Char → Nat → List Char → List (List Char)
  | piece, _, [] => [piece.reverse]
  | piece, used, c :: rest =>
    let w := Cells.ofChar c
    if width < used + w then piece.reverse :: chop width [c] w rest
    else chop width (c :: piece) (used + w) rest

/-- Lines that are complete, last first, the line being filled, and its cells. -/
structure Filling where
  done : List (List Char) := []
  current : List Char := []
  used : Nat := 0

/-- Puts a word on the current line, or on a new one if it does not fit. -/
def Filling.add (width : Nat) (f : Filling) (word : List Char) : Filling :=
  let body := Cells.width (trimEnd word)
  if f.used + body ≤ width then
    { f with current := f.current ++ word, used := f.used + Cells.width word }
  else if width < body then
    let pieces := chop width [] 0 word
    let before := if f.current.isEmpty then f.done else f.current :: f.done
    let last := pieces.getLastD []
    { done := pieces.dropLast.reverse ++ before, current := last, used := Cells.width last }
  else if f.used == 0 || f.current.isEmpty then { f with current := f.current ++ word }
  else { done := f.current :: f.done, current := word, used := Cells.width word }

/-- Cuts a text to a number of cells, or fills it up with spaces. -/
def fit (width : Nat) : List Char → List Char
  | [] => List.replicate width ' '
  | c :: rest =>
    let w := Cells.ofChar c
    if w ≤ width then c :: fit (width - w) rest else List.replicate width ' '

/-- Blanks that go beyond the width are dropped at the end of a line. -/
def dropOverhang (width : Nat) (cs : List Char) : List Char :=
  let blanks := (cs.reverse.takeWhile Blank.isBlank).length
  cs.take (cs.length - min blanks (cs.length - width))

def wrapLine (width : Nat) (cs : List Char) : List (List Char) :=
  match words (cs.length + 1) cs with
  | [] => [cs]
  | ws =>
    let f := ws.foldl (Filling.add width) {}
    (f.current :: f.done).reverse

def wrap (width : Nat) (cs : List Char) : List (List Char) :=
  ((Split.split '\n' cs).flatMap (wrapLine width)).map fun line =>
    let line := dropOverhang width line
    if width < Cells.width line then fit width line else line

def printLines (lines : List (List Char)) : String :=
  String.ofList (lines.flatMap fun l => l ++ ['\n'])

def message (markup : String) : String := printLines (wrap columns (render markup))

end MarkupCensus.Terminal
