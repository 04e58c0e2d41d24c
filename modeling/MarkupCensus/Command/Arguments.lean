import MarkupCensus.Command.Options

namespace MarkupCensus.Command

structure Arguments extends Options where
  operands : List String := []
  help : Bool := false

/-- What an option does with its value, or without one. -/
inductive Effect where
  | withValue (f : Arguments → String → Arguments)
  | alone (f : Arguments → Arguments)

def helpEffect? : String → Option Effect
  | "--help" => some (.alone fun a => { a with help := true })
  | _ => none

def scanEffect? : String → Option Effect
  | "--components" | "-c" =>
    some (.withValue fun a v => { a with components := a.components ++ [v] })
  | "--include-subcomponents" => some (.alone fun a => { a with subComponents := some true })
  | "--no-include-subcomponents" => some (.alone fun a => { a with subComponents := some false })
  | "--imported-from" => some (.withValue fun a v => { a with importedFrom := some v })
  | "--imported-from-pattern" =>
    some (.withValue fun a v => { a with importedFromPattern := some v })
  | "--exclude" | "-e" => some (.withValue fun a v => { a with exclude := a.exclude ++ [v] })
  | "--include-tests" => some (.alone fun a => { a with includeTests := true })
  | "--processor" | "-p" => some (.withValue fun a v => { a with processor := v })
  | "--output" | "-o" => some (.withValue fun a v => { a with output := some v })
  | "--no-progress" => some (.alone fun a => { a with noProgress := true })
  | name => helpEffect? name

/-- An argument that starts with two dashes: its name, and its value after an equals sign. -/
def splitLong (arg : List Char) : String × Option String :=
  match arg.span (· != '=') with
  | (name, '=' :: value) => (String.ofList name, some (String.ofList value))
  | (name, _) => (String.ofList name, none)

section Reader

variable (effect? : String → Option Effect)

def readLong (a : Arguments) (arg : List Char) (rest : List String) :
    Option (Arguments × List String) :=
  match splitLong arg with
  | (name, value) =>
    match effect? name, value, rest with
    | some (.withValue f), some v, _ => some (f a v, rest)
    | some (.withValue f), none, v :: rest => some (f a v, rest)
    | some (.alone f), none, _ => some (f a, rest)
    | _, _, _ => none

/-- Reads an argument of one dash and a letter, whose value may be attached. -/
def readShort (a : Arguments) (letter : Char) (attached : List Char) (rest : List String) :
    Option (Arguments × List String) :=
  match effect? (String.ofList ['-', letter]), attached, rest with
  | some (.withValue f), [], v :: rest => some (f a v, rest)
  | some (.withValue f), c :: cs, _ => some (f a (String.ofList (c :: cs)), rest)
  | _, _, _ => none

/-- Reads the arguments of a command. Nothing comes of an option that is unknown, that lacks its value
or that takes none. -/
def readArguments : Nat → Arguments → List String → Option Arguments
  | 0, _, _ => none
  | _ + 1, a, [] => some a
  | fuel + 1, a, arg :: rest =>
    match arg.toList with
    | ['-', '-'] => some { a with operands := a.operands ++ rest }
    | '-' :: '-' :: _ =>
      (readLong effect? a arg.toList rest).bind fun (a, rest) => readArguments fuel a rest
    | '-' :: letter :: attached =>
      (readShort effect? a letter attached rest).bind fun (a, rest) => readArguments fuel a rest
    | _ => readArguments fuel { a with operands := a.operands ++ [arg] } rest

end Reader

namespace Invocation

def refused : Invocation := .ended 2 [] ""

/-- The text of the help is left out. -/
def help : Invocation := .ended 0 [] ""

/-- Reads a command by its options and the number of operands it takes at most. Who asks for help gets
it, however many operands there are. -/
def ofCommand (effect? : String → Option Effect) (operands : Nat) (request : Arguments → Request)
    (args : List String) : Invocation :=
  match readArguments effect? (args.length + 1) {} args with
  | none => refused
  | some a =>
    if a.help then help
    else if operands < a.operands.length then refused
    else .request (request a)

def ofScan : List String → Invocation :=
  ofCommand scanEffect? 1 fun a => .scan { a.toOptions with root := a.operands.headD a.root }

def ofVersion : List String → Invocation := ofCommand helpEffect? 0 fun _ => .version

/-- Reads a command line: options of the program itself, then a command with its arguments. -/
def ofArguments (args : List String) : Invocation :=
  let rest := args.dropWhile (· == "--help")
  let asked := rest.length < args.length
  let (isOption, rest) : Bool × List String :=
    match rest with
    | "--" :: rest => (false, rest)
    | arg :: _ => (arg.toList.head? == some '-' && arg != "-", rest)
    | [] => (false, [])
  if isOption then refused
  else if asked then help
  else match rest with
    | "scan" :: args => ofScan args
    | "version" :: args => ofVersion args
    | _ => refused

end Invocation

end MarkupCensus.Command
