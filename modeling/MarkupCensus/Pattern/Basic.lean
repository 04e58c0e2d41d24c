import MarkupCensus.Text.Blank
import MarkupCensus.Text.Case
import MarkupCensus.Text.Digit
import MarkupCensus.Text.WordChar

namespace MarkupCensus.Pattern

/-- Classes of characters that have a name of their own. -/
inductive Category where
  | digit
  | space
  | word
deriving DecidableEq, Repr

/-- Places that an expression can ask for without reading anything. -/
inductive Anchor where
  | lineStart
  | lineEnd
  | textStart
  | textEnd
  | wordEdge
  | noWordEdge
deriving DecidableEq, Repr

inductive Member where
  | single (n : Nat)
  | range (low high : Nat)
  | category (c : Category) (negated : Bool)
deriving DecidableEq, Repr

/-- Switches that change how an expression is read or matched. -/
structure Flags where
  ignoreCase : Bool := false
  multiline : Bool := false
  dotAll : Bool := false
  verbose : Bool := false
  ascii : Bool := false
  unicode : Bool := false
deriving DecidableEq, Repr

namespace Flags

def zip (f : Bool → Bool → Bool) (a b : Flags) : Flags where
  ignoreCase := f a.ignoreCase b.ignoreCase
  multiline := f a.multiline b.multiline
  dotAll := f a.dotAll b.dotAll
  verbose := f a.verbose b.verbose
  ascii := f a.ascii b.ascii
  unicode := f a.unicode b.unicode

def union (a b : Flags) : Flags := zip (· || ·) a b

def inter (a b : Flags) : Flags := zip (· && ·) a b

def without (a b : Flags) : Flags := zip (fun x y => x && !y) a b

def isEmpty (a : Flags) : Bool := a = {}

/-- The switches inside a group that turns some on and some off. The two alphabets exclude each
other. -/
def scope (a on off : Flags) : Flags :=
  let a := if on.ascii || on.unicode then { a with ascii := false, unicode := false } else a
  (a.union on).without off

end Flags

inductive Greed where
  /-- As many as possible, fewer if that fails. -/
  | greedy
  /-- As few as possible, more if that fails. -/
  | reluctant
  /-- As many as possible, and no fewer. -/
  | possessive
deriving DecidableEq, Repr

/-- An expression that matches stretches of text. -/
inductive Expr where
  | empty
  | anyChar
  | set (negated : Bool) (members : List Member)
  | anchor (a : Anchor)
  | seq (first second : Expr)
  | alt (first second : Expr)
  | repetition (greed : Greed) (least : Nat) (most : Option Nat) (body : Expr)
  | capture (group : Nat) (body : Expr)
  | scoped (on off : Flags) (body : Expr)
  | backref (group : Nat)
  | ahead (negated : Bool) (body : Expr)
  | behind (negated : Bool) (width : Nat) (body : Expr)
  | conditional (group : Nat) (yes no : Expr)
  | atomic (body : Expr)
deriving Repr, Inhabited

namespace Expr

def single (n : Nat) : Expr := .set false [.single n]

def isAnchor : Expr → Bool
  | .anchor _ => true
  | _ => false

def isRepetition : Expr → Bool
  | .repetition .. => true
  | _ => false

def ofList (es : List Expr) : Expr := es.foldr .seq .empty

/-- The least and the greatest number of characters, if bounded, that an expression matches, given
those of the groups it refers to. -/
def width (groups : Nat → Nat × Option Nat) : Expr → Nat × Option Nat
  | .empty => (0, some 0)
  | .anyChar => (1, some 1)
  | .set _ _ => (1, some 1)
  | .anchor _ => (0, some 0)
  | .seq a b =>
    let (la, ha) := a.width groups
    let (lb, hb) := b.width groups
    (la + lb, do return (← ha) + (← hb))
  | .alt a b =>
    let (la, ha) := a.width groups
    let (lb, hb) := b.width groups
    (min la lb, do return max (← ha) (← hb))
  | .repetition _ least most body =>
    let (l, h) := body.width groups
    (l * least,
      match h, most with
      | some 0, _ => some 0
      | some h, some m => some (h * m)
      | none, some 0 => some 0
      | _, _ => none)
  | .capture _ body => body.width groups
  | .scoped _ _ body => body.width groups
  | .backref g => groups g
  | .ahead _ _ => (0, some 0)
  | .behind _ _ _ => (0, some 0)
  | .conditional _ yes no =>
    let (ly, hy) := yes.width groups
    let (ln, hn) := no.width groups
    (min ly ln, do return max (← hy) (← hn))
  | .atomic body => body.width groups

end Expr

end MarkupCensus.Pattern

namespace MarkupCensus

/-- A regular expression: its text, its meaning, and the switches that hold throughout. -/
structure Pattern where
  source : String
  flags : Pattern.Flags
  expr : Pattern.Expr
deriving Repr

end MarkupCensus
