import MarkupCensus.Command.Arguments
import MarkupCensus.Command.Run
import MarkupCensus.Config.EnvFile
import MarkupCensus.Grammar.Program
import MarkupCensus.Text.CharacterName

open MarkupCensus

/-- Reads the files whose paths are given. What cannot be read is left out. -/
def readProject (working : Place) (paths : List String) : IO FileSystem := do
  let root ← paths.foldlM (fun (root : Entry) (name : String) => do
    let path := Path.ofString name
    match ← (IO.FS.readBinFile name).toBaseIO with
    | .ok bytes =>
      return Entry.insertAt (.file bytes.toList) (path.startFrom working ++ path.parts) root
    | .error _ => return root) (Entry.insertAt (.directory []) working (.directory []))
  return { root := root, working := working }

def readEnvironment (files : FileSystem) : IO Environment :=
  let text := ((files.read? (Path.ofString ".env")).map Utf8.decode).getD []
  (Environment.scanVariables ++ EnvFile.references text).foldlM (fun env name => do
    match ← IO.getEnv name with
    | some value => return OrderedMap.set env name value
    | none => return env) []

def writeFiles (files : List (Place × List UInt8)) : IO Unit :=
  files.forM fun (place, bytes) => do
    let path : Path := { absolute := true, parts := place }
    IO.FS.createDirAll path.parent.toString
    IO.FS.writeBinFile path.toString (ByteArray.mk bytes.toArray)

def usage : String :=
  "Usage: component-census scan [OPTIONS] [ROOT] | version\n" ++
  "The paths of the project's files are read from standard input, one to a line.\n"

/-- The parts that a command takes from others, as this program has them. -/
def world (files : FileSystem) (environment : Environment) : Command.World where
  files := files
  environment := environment
  parse := Source.parse
  arguments := Command.Invocation.ofArguments
  extend := EnvFile.extend
  console := Terminal.plain
  characters := CharacterName.lookup?

/-- Runs a command on the files whose paths stand on the lines of the standard input. -/
def main (args : List String) : IO UInt32 := do
  let paths ← (← IO.getStdin).lines
  let working := (Path.ofString ((← IO.getEnv "PWD").getD "/")).parts
  let files ← readProject working (".env" :: paths.toList)
  let out := Command.run (world files (← readEnvironment files)) args
  writeFiles (files.root.newFiles out.files.root)
  IO.print (out.stdout.toString?.getD "")
  IO.eprint out.stderr
  if let some crash := out.crash then IO.eprintln crash.message
  if out.code == 2 then IO.eprint usage
  return out.code.toUInt32
