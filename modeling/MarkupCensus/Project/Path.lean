import MarkupCensus.Text.Case
import MarkupCensus.Text.Split

namespace MarkupCensus

/-- A path, as its parts. A relative path without parts is the working directory. -/
structure Path where
  absolute : Bool := false
  parts : List String := []
deriving DecidableEq, Repr, Inhabited

namespace Path

/-- Reads a path; empty parts and single dots say nothing. -/
def ofString (s : String) : Path where
  absolute := s.toList.head? == some '/'
  parts := ((Split.split '/' s.toList).map String.ofList).filter fun p => p != "" && p != "."

def toString (p : Path) : String :=
  let joined := String.ofList (Split.join '/' (p.parts.map String.toList))
  if p.absolute then "/" ++ joined else if p.parts.isEmpty then "." else joined

def name (p : Path) : String := p.parts.getLast?.getD ""

def parent (p : Path) : Path := { p with parts := p.parts.dropLast }

/-- Where a path starts that is met in a directory. -/
def startFrom (p : Path) (here : List String) : List String := if p.absolute then [] else here

def append (p : Path) (parts : List String) : Path := { p with parts := p.parts ++ parts }

/-- The order of paths: part by part, and a path before those below it. -/
def precedes : List String → List String → Bool
  | [], _ => true
  | _ :: _, [] => false
  | a :: as, b :: bs => if a = b then precedes as bs else a ≤ b

end Path

/-- The extension of a file name: from its last dot on, which neither starts nor ends the name. -/
def extension (name : List Char) : List Char :=
  let after := (name.reverse.takeWhile (· != '.')).reverse
  let stem := name.length - after.length
  if 1 < stem && !after.isEmpty then '.' :: after else []

def sourceExtensions : List String :=
  [".js", ".jsx", ".mjs", ".cjs", ".ts", ".tsx", ".mts", ".cts"]

def declarationEndings : List String := [".d.ts", ".d.mts", ".d.cts"]

/-- Whether a file of the given name, whose case does not matter, may hold markup. -/
def isSourceName (name : String) : Bool :=
  let lower := Case.lowerCase name.toList
  !(declarationEndings.any fun e => e.toList.isSuffixOf lower)
    && sourceExtensions.contains (String.ofList (extension lower))

end MarkupCensus
