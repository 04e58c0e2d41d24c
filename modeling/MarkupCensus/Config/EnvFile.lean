import MarkupCensus.Config.Environment
import MarkupCensus.Text.Utf8

namespace MarkupCensus.EnvFile

def isInlineBlank (c : Char) : Bool := Blank.isBlank c && c != '\n' && c != '\r'

/-- All line ends become line feeds, and a mark at the start is dropped. -/
def normalize (cs : List Char) : List Char :=
  let rec lines : List Char → List Char
    | '\r' :: '\n' :: rest => '\n' :: lines rest
    | '\r' :: rest => '\n' :: lines rest
    | c :: rest => c :: lines rest
    | [] => []
  lines (match cs with
    | c :: rest => if c.toNat == 0xFEFF then rest else cs
    | [] => [])

/-- The end of a quoted text: the first quote without a backslash before it, else the last quote. -/
def splitQuoted (quote : Char) : List Char → Option (List Char × List Char)
  | [] => none
  | '\\' :: c :: rest =>
    if c = quote then
      match splitQuoted quote rest with
      | some (inside, after) => some ('\\' :: c :: inside, after)
      | none => some (['\\'], rest)
    else (splitQuoted quote (c :: rest)).map fun (inside, after) => ('\\' :: inside, after)
  | c :: rest =>
    if c = quote then some ([], rest)
    else (splitQuoted quote rest).map fun (inside, after) => (c :: inside, after)

def singleEscape? : Char → Option Char
  | '\\' => some '\\'
  | '\'' => some '\''
  | _ => none

def doubleEscape? : Char → Option Char
  | '\\' => some '\\'
  | '\'' => some '\''
  | '"' => some '"'
  | 'a' => some '\x07'
  | 'b' => some '\x08'
  | 'f' => some '\x0c'
  | 'n' => some '\n'
  | 'r' => some '\r'
  | 't' => some '\t'
  | 'v' => some '\x0b'
  | _ => none

def unescape (escape? : Char → Option Char) : List Char → List Char
  | '\\' :: c :: rest =>
    match escape? c with
    | some d => d :: unescape escape? rest
    | none => '\\' :: unescape escape? (c :: rest)
  | c :: rest => c :: unescape escape? rest
  | [] => []

def startsComment (cs : List Char) : Bool :=
  cs.head?.any Blank.isBlank && (cs.dropWhile Blank.isBlank).head? == some '#'

def dropComment : List Char → List Char
  | [] => []
  | c :: rest => if startsComment (c :: rest) then [] else c :: dropComment rest

def trimEnd (cs : List Char) : List Char := (cs.reverse.dropWhile Blank.isBlank).reverse

def isLineEnd (c : Char) : Bool := c == '\n' || c == '\r'

def readValue (cs : List Char) : Option (List Char × List Char) :=
  match cs with
  | '\'' :: rest => (splitQuoted '\'' rest).map fun (v, r) => (unescape singleEscape? v, r)
  | '"' :: rest => (splitQuoted '"' rest).map fun (v, r) => (unescape doubleEscape? v, r)
  | _ =>
    let (line, rest) := cs.span fun c => !isLineEnd c
    some (trimEnd (dropComment line), rest)

/-- Drops a leading word `export` that blanks follow. -/
def dropExport (cs : List Char) : List Char :=
  let after := cs.drop 6
  if cs.take 6 == "export".toList && after.head?.any isInlineBlank then
    after.dropWhile isInlineBlank
  else cs

/-- Reads a key, which a line with a comment alone does not have. -/
def readKey (cs : List Char) : Option (Option (List Char) × List Char) :=
  match cs with
  | '#' :: _ => some (none, cs)
  | '\'' :: rest =>
    match rest.span (· != '\'') with
    | (c :: key, '\'' :: after) => some (some (c :: key), after)
    | _ => none
  | _ =>
    match cs.span fun c => c != '=' && c != '#' && !Blank.isBlank c with
    | ([], _) => none
    | (key, after) => some (some key, after)

/-- Drops blanks and a comment up to the end of the line, if nothing else stands there. -/
def endLine (cs : List Char) : Option (List Char) :=
  let cs :=
    match cs.dropWhile isInlineBlank with
    | '#' :: rest => rest.dropWhile fun c => !isLineEnd c
    | _ => cs
  match cs.dropWhile isInlineBlank with
  | [] => some []
  | c :: rest => if isLineEnd c then some rest else none

def dropLine (cs : List Char) : List Char := (cs.dropWhile fun c => !isLineEnd c).drop 1

abbrev Binding := String × Option String

/-- Reads a binding; a part that cannot be read leaves the rest of its line out. -/
def readBinding (cs : List Char) : Option Binding × List Char :=
  match readKey (dropExport cs) with
  | none => (none, dropLine (dropExport cs))
  | some (key, after) =>
    let cs := after.dropWhile isInlineBlank
    let read :=
      match cs with
      | '=' :: rest =>
        let rest := rest.dropWhile isInlineBlank
        match readValue rest with
        | some (v, r) => (some (some v), r)
        | none => (none, rest)
      | _ => (some none, cs)
    match read with
    | (none, rest) => (none, dropLine rest)
    | (some value, rest) =>
      match endLine rest with
      | none => (none, dropLine rest)
      | some rest => (key.map fun k => (String.ofList k, value.map String.ofList), rest)

def readBindings : Nat → List Char → List Binding
  | 0, _ => []
  | fuel + 1, cs =>
    match cs.dropWhile Blank.isBlank with
    | [] => []
    | cs =>
      let (b, rest) := readBinding cs
      b.toList ++ readBindings fuel rest

/-- A reference to a variable: what stands between its braces, and the text after it. -/
def reference? : List Char → Option (List Char × Option (List Char) × List Char)
  | '$' :: '\x7b' :: rest =>
    match rest.span fun c => c != '\x7d' && c != ':' with
    | (name, '\x7d' :: after) => some (name, none, after)
    | (name, ':' :: '-' :: rest) =>
      match rest.span (· != '\x7d') with
      | (default, '\x7d' :: after) => some (name, some default, after)
      | _ => none
    | _ => none
  | _ => none

def references : List Char → List String
  | [] => []
  | c :: rest => ((reference? (c :: rest)).map fun r => String.ofList r.1).toList ++ references rest

def expand (lookup : String → Option (Option String)) : Nat → List Char → List Char
  | 0, cs => cs
  | fuel + 1, cs =>
    match reference? cs with
    | some (name, default, after) =>
      let value :=
        match lookup (String.ofList name) with
        | some v => (v.map String.toList).getD []
        | none => default.getD []
      value ++ expand lookup fuel after
    | none =>
      match cs with
      | [] => []
      | c :: rest => c :: expand lookup fuel rest

/-- The values of the keys, each expanded by the environment and the keys before it. -/
def resolve (env : Environment) (bindings : List Binding) : OrderedMap (Option String) :=
  bindings.foldl
    (fun (known : OrderedMap (Option String)) (b : Binding) =>
      let lookup := fun name => ((OrderedMap.get? env name).map some).or (known.get? name)
      known.set b.1 (b.2.map fun v => String.ofList (expand lookup (v.length + 1) v.toList)))
    []

/-- The bindings of a file. -/
def parse (text : List Char) : List Binding :=
  let cs := normalize text
  readBindings (cs.length + 1) cs

/-- Whether an environment takes a variable. -/
def isVariable (name value : String) : Bool :=
  !name.toList.contains '=' && !name.toList.contains '\x00' && !value.toList.contains '\x00'

/-- Adds the variables of a file to an environment, which keeps those it has. -/
def load (env : Environment) (text : List Char) : Except EnvFault Environment :=
  (resolve env (parse text)).foldlM
    (fun (e : Environment) (b : String × Option String) =>
      match b.2 with
      | none => .ok e
      | some v =>
        if (OrderedMap.get? env b.1).isSome then .ok e
        else if isVariable b.1 v then .ok (OrderedMap.set e b.1 v)
        else .error (.refused b.1))
    env

/-- Adds the variables of a file, if there is one and it can be read. -/
def extend (env : Environment) : Option (List UInt8) → Except EnvFault Environment
  | none => .ok env
  | some bytes =>
    match Utf8.decode? bytes with
    | none => .error .illFormed
    | some text => load env text

end MarkupCensus.EnvFile
