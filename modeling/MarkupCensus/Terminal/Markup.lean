import MarkupCensus.Terminal.Cells

namespace MarkupCensus.Terminal

/-- Whether a character after an opening bracket makes it the start of a style. -/
def opensStyle (c : Char) : Bool :=
  ('a' ≤ c && c ≤ 'z') || c == '#' || c == '/' || c == '@'

def style? : List Char → Option (List Char × List Char)
  | '[' :: c :: rest =>
    if opensStyle c then
      match rest.span fun d => d != ']' && d != '[' with
      | (inside, ']' :: after) => some ('[' :: c :: inside ++ [']'], after)
      | _ => none
    else none
  | _ => none

def isSlash (c : Char) : Bool := c == '\\'

def escapeStyles : Nat → List Char → List Char
  | 0, cs => cs
  | fuel + 1, cs =>
    let slashes := cs.takeWhile isSlash
    let rest := cs.dropWhile isSlash
    match style? rest with
    | some (style, after) => slashes ++ slashes ++ '\\' :: style ++ escapeStyles fuel after
    | none =>
      match rest with
      | c :: rest => slashes ++ c :: escapeStyles fuel rest
      | [] => slashes

/-- A single backslash at the end is doubled, so that it escapes nothing that follows. -/
def closeSlash (cs : List Char) : List Char :=
  match cs.reverse with
  | '\\' :: '\\' :: _ => cs
  | '\\' :: _ => cs ++ ['\\']
  | _ => cs

def escape (s : String) : String :=
  String.ofList (closeSlash (escapeStyles (s.length + 1) s.toList))

/-- The text that markup stands for on a terminal without styles. Two backslashes before a style make
one, and an odd one keeps the style as text. Before any other bracket one backslash is dropped. -/
def renderStyles : Nat → List Char → List Char
  | 0, cs => cs
  | fuel + 1, cs =>
    let slashes := cs.takeWhile isSlash
    let rest := cs.dropWhile isSlash
    match style? rest with
    | some (style, after) =>
      slashes.take (slashes.length / 2)
        ++ (if slashes.length % 2 == 1 then style else []) ++ renderStyles fuel after
    | none =>
      match rest with
      | '[' :: rest => slashes.dropLast ++ '[' :: renderStyles fuel rest
      | c :: rest => slashes ++ c :: renderStyles fuel rest
      | [] => slashes

def dropControls (cs : List Char) : List Char :=
  cs.filter fun c =>
    let n := c.toNat
    !(n == 7 || n == 8 || n == 11 || n == 12 || n == 13)

/-- Tabs become spaces up to the next multiple of eight cells. -/
def expandTabs : Nat → List Char → List Char
  | _, [] => []
  | column, c :: rest =>
    if c == '\t' then
      let gap := 8 - column % 8
      List.replicate gap ' ' ++ expandTabs (column + gap) rest
    else if c == '\n' then c :: expandTabs 0 rest
    else c :: expandTabs (column + Cells.ofChar c) rest

def render (markup : String) : List Char :=
  expandTabs 0 (dropControls (renderStyles (markup.length + 1) markup.toList))

def unwrapped (markup : String) : String := String.ofList (render markup ++ ['\n'])

end MarkupCensus.Terminal
