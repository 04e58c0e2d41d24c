import MarkupCensus.Pattern.Basic
import MarkupCensus.Text.CodePoint

namespace MarkupCensus.Pattern

/-- How far a match has come: the offset in the text, and the stretch each group took last. -/
structure State where
  offset : Nat
  groups : List (Nat × Nat × Nat) := []

def State.group? (s : State) (g : Nat) : Option (Nat × Nat) := s.groups.lookup g

/-- A matcher goes on from a state with what is to follow, and gives the first way to the end. -/
abbrev Matcher := State → (State → Option State) → Option State

namespace Category

def isAsciiWord (n : Nat) : Bool :=
  n == 0x5F || (0x30 ≤ n && n ≤ 0x39) || (0x41 ≤ n && n ≤ 0x5A) || (0x61 ≤ n && n ≤ 0x7A)

def contains (ascii : Bool) : Category → Nat → Bool
  | .digit, n => if ascii then 0x30 ≤ n && n ≤ 0x39 else (Digit.value? n).isSome
  | .space, n => if ascii then n == 0x20 || (0x9 ≤ n && n ≤ 0xD) else Blank.isBlankCode n
  | .word, n => if ascii then isAsciiWord n else WordChar.isWord n

end Category

def asciiLower (n : Nat) : Nat := if 0x41 ≤ n && n ≤ 0x5A then n + 0x20 else n

def asciiVariants (n : Nat) : List Nat :=
  let l := asciiLower n
  if 0x61 ≤ l && l ≤ 0x7A then [l, l - 0x20] else [n]

namespace Flags

def lower (f : Flags) (n : Nat) : Nat := if f.ascii then asciiLower n else Case.lower n

def variants (f : Flags) (n : Nat) : List Nat :=
  if f.ascii then asciiVariants n else Case.variants n

def memberTest (f : Flags) (n : Nat) : Member → Bool
  | .single m =>
    n == m || (f.ignoreCase && (f.ascii || Case.isCased m) && (f.variants n).contains m)
  | .range low high =>
    (low ≤ n && n ≤ high) || (f.ignoreCase && (f.variants n).any fun v => low ≤ v && v ≤ high)
  | .category c negated =>
    c.contains f.ascii (if f.ignoreCase then f.lower n else n) != negated

end Flags

def Anchor.holds (f : Flags) (text : Array Nat) (i : Nat) : Anchor → Bool
  | .lineStart => i == 0 || (f.multiline && text[i - 1]? == some 0x0A)
  | .lineEnd =>
    i == text.size || (text[i]? == some 0x0A && (f.multiline || i + 1 == text.size))
  | .textStart => i == 0
  | .textEnd => i == text.size
  | .wordEdge => text.size != 0 && isEdge
  | .noWordEdge => text.size != 0 && !isEdge
where
  /-- Whether exactly one of the neighbours of an offset is a word character. -/
  isEdge : Bool :=
    let before := i != 0 && (text[i - 1]?).any (Category.word.contains f.ascii)
    let after := (text[i]?).any (Category.word.contains f.ascii)
    before != after

def step (text : Array Nat) (test : Nat → Bool) : Matcher := fun s k =>
  match text[s.offset]? with
  | some n => if test n then k { s with offset := s.offset + 1 } else none
  | none => none

/-- Rounds of a greedy or reluctant repetition. After the least number of rounds, a round that starts
where the one before it started is the last. -/
def rounds (body : Matcher) (greedy : Bool) (least : Nat) (most : Option Nat) :
    Nat → Nat → Option Nat → Matcher
  | 0, _, _ => fun _ _ => none
  | fuel + 1, count, last => fun s k =>
    if count < least then body s fun s => rounds body greedy least most fuel (count + 1) last s k
    else
      let more := fun (_ : Unit) =>
        if most.any (· ≤ count) || last == some s.offset then none
        else body s fun s' => rounds body greedy least most fuel (count + 1) (some s.offset) s' k
      if greedy then (more ()).orElse fun _ => k s else (k s).orElse more

def commits (body : Matcher) (least : Nat) (most : Option Nat) :
    Nat → Nat → Option Nat → State → Option State
  | 0, _, _, _ => none
  | fuel + 1, count, last, s =>
    if count < least then (body s some).bind (commits body least most fuel (count + 1) last)
    else if most.any (· ≤ count) || last == some s.offset then some s
    else match body s some with
      | some s' => commits body least most fuel (count + 1) (some s.offset) s'
      | none => some s

/-- Whether a text repeats the stretch `[a, b)` at an offset. -/
def repeats (f : Flags) (text : Array Nat) (a b i : Nat) : Bool :=
  (List.range (b - a)).all fun j =>
    match text[a + j]?, text[i + j]? with
    | some x, some y => if f.ignoreCase then f.lower x == f.lower y else x == y
    | _, _ => false

/-- The matcher that an expression stands for. -/
def Expr.matcher (text : Array Nat) : Flags → Expr → Matcher
  | _, .empty => fun s k => k s
  | f, .anyChar => step text fun n => f.dotAll || n != 0x0A
  | f, .set negated ms => step text fun n => ms.any (f.memberTest n) != negated
  | f, .anchor a => fun s k => if a.holds f text s.offset then k s else none
  | f, .seq a b => fun s k => a.matcher text f s fun s => b.matcher text f s k
  | f, .alt a b => fun s k => (a.matcher text f s k).orElse fun _ => b.matcher text f s k
  | f, .repetition .possessive least most body => fun s k =>
    (commits (body.matcher text f) least most (least + text.size + 2) 0 none s).bind k
  | f, .repetition greed least most body => fun s k =>
    rounds (body.matcher text f) (greed == .greedy) least most (least + text.size + 2) 0 none s k
  | f, .capture g body => fun s k =>
    body.matcher text f s fun t => k { t with groups := (g, s.offset, t.offset) :: t.groups }
  | f, .scoped on off body => body.matcher text (f.scope on off)
  | f, .backref g => fun s k =>
    match s.group? g with
    | some (a, b) =>
      if repeats f text a b s.offset then k { s with offset := s.offset + (b - a) } else none
    | none => none
  | f, .ahead negated body => fun s k =>
    match body.matcher text f s some with
    | some t => if negated then none else k { t with offset := s.offset }
    | none => if negated then k s else none
  | f, .behind negated width body => fun s k =>
    if s.offset < width then if negated then k s else none
    else match body.matcher text f { s with offset := s.offset - width } some with
      | some t => if negated then none else k { t with offset := s.offset }
      | none => if negated then k s else none
  | f, .conditional g yes no => fun s k =>
    if (s.group? g).isSome then yes.matcher text f s k else no.matcher text f s k
  | f, .atomic body => fun s k => (body.matcher text f s some).bind k

/-- Whether a pattern matches some stretch of a text. -/
def isFoundIn (p : MarkupCensus.Pattern) (t : Text) : Bool :=
  let text := (t.map Fin.val).toArray
  (List.range (text.size + 1)).any fun i => (p.expr.matcher text p.flags { offset := i } some).isSome

end MarkupCensus.Pattern
