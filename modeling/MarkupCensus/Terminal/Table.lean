import MarkupCensus.Terminal.Wrap

namespace MarkupCensus.Terminal

/-- A table of two columns: markup on the left, numbers on the right. -/
structure Table where
  title : String
  left : String
  right : String
  rows : List (String × Nat)

/-- A line in the middle of a width; an odd space goes to the right. -/
def centre (width : Nat) (cs : List Char) : List Char :=
  let cs := trimEnd cs
  let free := width - Cells.width cs
  List.replicate (free / 2) ' ' ++ cs ++ List.replicate (free - free / 2) ' '

/-- A text on the left of a width. One that is too long ends in an ellipsis. -/
def alignLeft (width : Nat) (cs : List Char) : List Char :=
  if width < Cells.width cs then fit (width - 1) cs ++ ['…'] else fit width cs

def alignRight (width : Nat) (cs : List Char) : List Char :=
  List.replicate (width - Cells.width cs) ' ' ++ cs

namespace Table

def rightWidth (t : Table) : Nat :=
  (t.rows.map fun r => (toString r.2).length).foldl max (Cells.width t.right.toList)

/-- The left column takes what its longest cell needs, and no more than the terminal leaves. -/
def leftWidth (t : Table) : Nat :=
  let longest := (t.rows.map fun r => Cells.width (render r.1)).foldl max (Cells.width t.left.toList)
  min longest (columns - 7 - t.rightWidth)

def rule (t : Table) (first middle last bar : Char) : List Char :=
  first :: List.replicate (t.leftWidth + 2) bar ++ middle
    :: List.replicate (t.rightWidth + 2) bar ++ [last]

def row (t : Table) (bar : Char) (left right : List Char) : List Char :=
  bar :: ' ' :: alignLeft t.leftWidth left ++ ' ' :: bar :: ' ' :: alignRight t.rightWidth right
    ++ [' ', bar]

def lines (t : Table) : List (List Char) :=
  let width := t.leftWidth + t.rightWidth + 7
  (wrap width t.title.toList).map (centre width)
    ++ [t.rule '┏' '┳' '┓' '━',
        t.row '┃' t.left.toList t.right.toList,
        t.rule '┡' '╇' '┩' '━']
    ++ t.rows.map (fun r => t.row '│' (render r.1) (toString r.2).toList)
    ++ [t.rule '└' '┴' '┘' '─']

def print (t : Table) : String := printLines t.lines

end Table

end MarkupCensus.Terminal
