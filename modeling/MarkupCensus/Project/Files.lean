import MarkupCensus.OrderedMap
import MarkupCensus.Project.Path

namespace MarkupCensus

/-- What a directory holds under a name. -/
inductive Entry where
  | file (bytes : List UInt8)
  /-- A link to another path, relative to the directory it stands in. -/
  | link (target : String)
  | directory (entries : List (String × Entry))
deriving Inhabited, Repr

/-- The names that lead from the root to a location, without links and steps up. -/
abbrev Place := List String

inductive WriteFault where
  /-- A file stands where a directory is needed. -/
  | parentIsFile
  | throughFile
  /-- A directory stands where the file is to be. -/
  | isDirectory
  | unreachable
  | tooManyLinks
deriving DecidableEq, Repr

namespace Entry

def entries : Entry → List (String × Entry)
  | .directory es => es
  | _ => []

def isDirectoryEntry : Entry → Bool
  | .directory _ => true
  | _ => false

/-- What is found at the end of some names, without following links. -/
def at? : List String → Entry → Option Entry
  | [], e => some e
  | name :: rest, e => (OrderedMap.get? e.entries name).bind (at? rest)

/-- Follows the parts of a path through directories. At a link, `jump` goes on with the rest. The path
leads to something that exists or, where a file is to be made, to where it is to be. -/
def walk (tree : Entry) (create : Bool) (jump : Place → List String → Except WriteFault Place) :
    Place → List String → Except WriteFault Place
  | p, [] => if (tree.at? p).isSome then .ok p else .error .unreachable
  | p, part :: rest =>
    match tree.at? p with
    | some (.directory _) =>
      if part == ".." then tree.walk create jump p.dropLast rest
      else match tree.at? (p ++ [part]) with
        | some (.link target) =>
          let path := Path.ofString target
          jump (path.startFrom p) (path.parts ++ rest)
        | some _ => tree.walk create jump (p ++ [part]) rest
        | none => if create && rest.isEmpty then .ok (p ++ [part]) else .error .unreachable
    | some _ => .error .throughFile
    | none => .error .unreachable

/-- Follows a path through directories and at most so many links. -/
def reachWithin (tree : Entry) (create : Bool) : Nat → Place → List String → Except WriteFault Place
  | 0 => tree.walk create fun _ _ => .error .tooManyLinks
  | n + 1 => tree.walk create (tree.reachWithin create n)

/-- Resolves the steps up and the links of a path, of which nothing needs to exist. -/
def resolveParts (tree : Entry) (jump : Place → List String → Place) : Place → List String → Place
  | p, [] => p
  | p, part :: rest =>
    if part == ".." then tree.resolveParts jump p.dropLast rest
    else match tree.at? (p ++ [part]) with
      | some (.link target) =>
        let path := Path.ofString target
        jump (path.startFrom p) (path.parts ++ rest)
      | _ => tree.resolveParts jump (p ++ [part]) rest

def resolveWithin (tree : Entry) : Nat → Place → List String → Place
  | 0 => tree.resolveParts (· ++ ·)
  | n + 1 => tree.resolveParts (tree.resolveWithin n)

/-- Puts an entry at the end of some names, with the directories on the way. -/
def insertAt (e : Entry) : List String → Entry → Entry
  | [], _ => e
  | name :: rest, tree =>
    .directory (OrderedMap.alter tree.entries name fun o => insertAt e rest (o.getD (.directory [])))

mutual

def leaves (above : List String) : Entry → List (List String)
  | .directory es => leavesOf above es
  | _ => [above]

def leavesOf (above : List String) : List (String × Entry) → List (List String)
  | [] => []
  | (name, e) :: es => leaves (above ++ [name]) e ++ leavesOf above es

end

/-- The files of a tree that are not in an older one, or not with the same bytes. -/
def newFiles (old new : Entry) : List (List String × List UInt8) :=
  (leaves [] new).filterMap fun parts =>
    match at? parts new, at? parts old with
    | some (.file bytes), some (.file before) =>
      if bytes = before then none else some (parts, bytes)
    | some (.file bytes), _ => some (parts, bytes)
    | _, _ => none

end Entry

/-- What a command sees of the files: all that is below the root, and where it works. -/
structure FileSystem where
  root : Entry
  working : Place := []
  /-- How many links a path may lead through. -/
  linkLimit : Nat := 40
deriving Inhabited, Repr

namespace FileSystem

def reach (files : FileSystem) (create : Bool) (path : Path) : Except WriteFault Place :=
  files.root.reachWithin create files.linkLimit (path.startFrom files.working) path.parts

/-- What a path leads to. -/
def find? (files : FileSystem) (path : Path) : Option Entry :=
  (files.reach false path).toOption.bind fun place => files.root.at? place

def read? (files : FileSystem) (path : Path) : Option (List UInt8) :=
  match files.find? path with
  | some (.file bytes) => some bytes
  | _ => none

def isFile (files : FileSystem) (path : Path) : Bool := (files.read? path).isSome

def isDirectory (files : FileSystem) (path : Path) : Bool :=
  (files.find? path).any Entry.isDirectoryEntry

def isPresent (files : FileSystem) (path : Path) : Bool := (files.find? path).isSome

def resolve (files : FileSystem) (path : Path) : Place :=
  files.root.resolveWithin files.linkLimit (path.startFrom files.working) path.parts

/-- How a file is called in a report: by its path below the root of the scan, if it is there. -/
def displayName (files : FileSystem) (root : Option Path) (path : Path) : String :=
  match root.map files.resolve with
  | some base =>
    let place := files.resolve path
    if base.isPrefixOf place then Path.toString { parts := place.drop base.length }
    else path.toString
  | none => path.toString

def makeDirectory (files : FileSystem) (path : Path) : Except WriteFault FileSystem :=
  match path.parts.getLast? with
  | none | some ".." => (files.reach false path).map fun _ => files
  | some name => do
    let above ← files.reach false path.parent
    match files.root.at? above with
    | some (.directory _) =>
      if (files.root.at? (above ++ [name])).isSome then .ok files
      else .ok { files with root := .insertAt (.directory []) (above ++ [name]) files.root }
    | _ => .error .throughFile

/-- Makes a directory and, where they are missing, those above it. -/
def makeDirectories (files : FileSystem) (path : Path) : Except WriteFault FileSystem := do
  let made ← match files.makeDirectory path with
    | .error .unreachable =>
      if 0 < path.parts.length then
        (files.makeDirectories path.parent).bind (·.makeDirectory path)
      else .error .unreachable
    | made => made
  if made.isDirectory path then .ok made else .error .parentIsFile
termination_by path.parts.length
decreasing_by
  simp only [Path.parent, List.length_dropLast]
  omega

def write (files : FileSystem) (path : Path) (bytes : List UInt8) : Except WriteFault FileSystem := do
  let place ← files.reach true path
  match files.root.at? place with
  | some (.directory _) => .error .isDirectory
  | _ => .ok { files with root := .insertAt (.file bytes) place files.root }

end FileSystem

end MarkupCensus
