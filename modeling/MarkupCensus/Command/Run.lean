import MarkupCensus.Command.Options
import MarkupCensus.Document
import MarkupCensus.Project.Discovery
import MarkupCensus.Scan.Batch
import MarkupCensus.Terminal.Console

namespace MarkupCensus.Command

/-- What ends a command that it does not handle itself. -/
inductive Crash where
  | fault (fault : Fault)
  /-- The pattern asks for too many rounds. -/
  | pattern (fault : ConfigFault)
  | environment (fault : EnvFault)
  | document (fault : Document.Unwritable)
  /-- The encoding of the standard output lacks a character. -/
  | unencodable
  | output (fault : WriteFault)
deriving DecidableEq, Repr

def Crash.message : Crash → String
  | fault f => f.message
  | pattern f => f.message
  | environment .illFormed => "The file .env is not well-formed text"
  | environment (.refused name) => "The file .env sets what cannot be a variable: " ++ name
  | document .overlongInteger => "An integer has too many digits to be written"
  | document .loneSurrogate => "A lone surrogate cannot be written"
  | unencodable => "The standard output cannot encode a character"
  | output .parentIsFile => "The output's directory is a file"
  | output .throughFile => "The output's path leads through a file"
  | output .isDirectory => "The output is a directory"
  | output .unreachable => "The output's directory cannot be reached"
  | output .tooManyLinks => "The output's path leads through too many links"

/-- What a command leaves behind. -/
structure Outcome where
  code : Nat := 0
  stdout : Text := []
  stderr : String := ""
  crash : Option Crash := none
  files : FileSystem

/-- What a command runs in: the files, the environment, and the parts that it takes from others. -/
structure World where
  files : FileSystem
  environment : Environment
  parse : Source → Except ParseFailure Node
  /-- The reader of the command line. -/
  arguments : List String → Invocation
  /-- The loader of variables from the bytes of a file `.env`, if there is one. -/
  extend : Environment → Option (List UInt8) → Except EnvFault Environment
  console : Terminal.Console
  /-- The characters that a pattern may give by name. -/
  characters : String → Option Nat

open Terminal (Console)

/-- The environment with the variables of the file `.env` in the working directory. -/
def World.loaded (w : World) : Except EnvFault Environment :=
  w.extend w.environment (w.files.read? (Path.ofString ".env"))

/-- What stands on the standard output after some texts have been printed, one after another up to the
first that cannot be. -/
def printed : List (Option Text) → Text × Option Crash
  | [] => ([], none)
  | none :: _ => ([], some .unencodable)
  | some t :: rest => (t ++ (printed rest).1, (printed rest).2)

/-- Ends a command with some texts and an exit code, or with a crash if one of them cannot be printed. -/
def endPrinting (code : Nat) (texts : List (Option Text)) (stderr : String) (files : FileSystem) :
    Outcome where
  code := if (printed texts).2.isSome then 1 else code
  stdout := (printed texts).1
  stderr := stderr
  crash := (printed texts).2
  files := files

def endCrashing (crash : Crash) (stderr : String) (files : FileSystem) : Outcome where
  code := 1
  stderr := stderr
  crash := some crash
  files := files

def errorMessage (c : Console) (text : String) : Option Text :=
  c.print ("[red]Error: " ++ c.escape text ++ "[/red]")

def abortMessage (c : Console) (file : String) (fault : Fault) : Option Text :=
  c.print ("[red]✗ Scan aborted in " ++ c.escape file ++ ": " ++ c.escape fault.message ++ "[/red]")

def summaryLimit : Nat := 15

/-- The table of a summary. It is printed as it is, whatever glyphs the encoding in use has. -/
def countTable (c : Console) (counts : List Count) : Terminal.Table where
  title := "📊 Top components (" ++ toString counts.length ++ " total)"
  left := "Component"
  right := "Instances"
  rows := (counts.take summaryLimit).map fun count => (c.escape count.1, count.2)

/-- What is printed after a report has been written to a file. -/
def summary (c : Console) (b : Batch) (output : Path) : List (Option Text) :=
  let failed := b.troubles.length
  [c.table (countTable c b.report.counts),
   c.print ("[green]✓ Scanned " ++ toString b.scanned ++ " file(s)[/green] → "
     ++ c.escape output.toString)]
  ++ if failed = 0 then []
    else [c.print ("[yellow]⚠ " ++ toString failed ++ " file(s) could not be parsed[/yellow]")]

def batchFiles (files : FileSystem) (base : Path) (paths : List Path) : List BatchFile :=
  paths.map fun p => { name := files.displayName (some base) p, bytes := files.read? p }

def baseOf (files : FileSystem) (root : Path) : Path :=
  if files.isFile root then root.parent else root

/-- Writes a document to a file as far as it can be written: the files after it, and what went wrong. -/
def writeOutput (files : FileSystem) (output : Path) (d : Document) : FileSystem × Option Crash :=
  match files.makeDirectories output.parent with
  | .error fault => (files, some (.output fault))
  | .ok made =>
    match made.write output (Utf8.encode d.write.1.toList) with
    | .error fault => (made, some (.output fault))
    | .ok files => (files, d.write.2.map .document)

/-- Ends a scan: prints its document, or writes it and prints a summary. -/
def finish (w : World) (o : Options) (stderr : String) (p : Processor) (b : Batch) : Outcome :=
  let d := Document.ofProcessed (p.run b.report)
  match o.output with
  | none =>
    match d.text? with
    | none => endCrashing (.document .overlongInteger) stderr w.files
    | some text => endPrinting 0 [w.console.echo text] stderr w.files
  | some output =>
    let path := Path.ofString output
    match writeOutput w.files path d with
    | (files, some crash) => endCrashing crash stderr files
    | (files, none) => endPrinting 0 (summary w.console b path) stderr files

def scanProject (w : World) (o : Options) (config : ScanConfig) (p : Processor) (exclude : List String) :
    Outcome :=
  let root := Path.ofString o.root
  let found := Search.run { root := root, exclude := exclude, includeTests := o.includeTests } w.files
  let b := scanFiles config w.parse [] (batchFiles w.files (baseOf w.files root) found)
  let progress := o.output.isSome && !o.noProgress
  let stderr := w.console.report progress (b.troubles.map Trouble.message)
  match b.abort with
  | some (file, fault@(.shape ..)) =>
    endPrinting 1 [abortMessage w.console file fault] stderr w.files
  | some (_, fault) => endCrashing (.fault fault) stderr w.files
  | none => finish w o stderr p b

/-- Runs a scan: the configuration and the processor are checked in this order. -/
def runChecked (w : World) (o : Options) (env : EnvironmentDefaults) : Outcome :=
  match (o.scanOptions env).build w.characters with
  | .error e =>
    if e.fault = .repeatTooLarge then endCrashing (.pattern e) "" w.files
    else endPrinting 1 [errorMessage w.console e.message] "" w.files
  | .ok config =>
    match Processor.ofName? o.processor with
    | none =>
      endPrinting 1 [errorMessage w.console (Processor.unknownMessage o.processor)] "" w.files
    | some p => scanProject w o config p (o.exclude ++ env.exclude)

def runScan (w : World) (o : Options) : Outcome :=
  if !w.files.isPresent (Path.ofString o.root) then
    endPrinting 1 [errorMessage w.console ("Path does not exist: " ++ o.root)] "" w.files
  else
    match w.loaded with
    | .error fault => endCrashing (.environment fault) "" w.files
    | .ok env => runChecked w o env.defaults

def versionText : String := "component-census 1.0.0"

/-- Runs a command line, unless its reader ends it. -/
def run (w : World) (args : List String) : Outcome :=
  match w.arguments args with
  | .ended code stdout stderr => { code := code, stdout := stdout, stderr := stderr, files := w.files }
  | .request .version => endPrinting 0 [w.console.print versionText] "" w.files
  | .request (.scan o) => runScan w o

end MarkupCensus.Command
