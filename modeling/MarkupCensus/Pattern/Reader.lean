import MarkupCensus.Number.Numeral
import MarkupCensus.Pattern.Basic
import MarkupCensus.Pattern.Fault

namespace MarkupCensus.Pattern

/-- What has been read of a pattern, and what the rest may refer to. -/
structure Progress where
  /-- The characters that have a name. -/
  characters : String → Option Nat
  offset : Nat := 0
  rest : List Char
  flags : Flags := {}
  names : List (String × Nat) := []
  /-- The widths of the groups, of which the first is the whole pattern; open ones have none yet. -/
  widths : List (Option (Nat × Option Nat)) := [none]
  /-- The number of groups before the outermost look-behind that is being read. -/
  behindFrom : Option Nat := none
  /-- Groups that conditions ask for by number, with the offset of the first such condition. -/
  asked : List (Nat × Nat) := []
  varying : Bool := false

abbrev Reader := StateT Progress (Except Fault)

namespace Reader

def failAt {α : Type} (cause : Cause) (offset : Nat) : Reader α :=
  throw (.malformed cause offset)

def fail {α : Type} (cause : Cause) (back : Nat) : Reader α := do
  failAt cause ((← get).offset - back)

def token : List Char → List Char
  | '\\' :: c :: _ => ['\\', c]
  | c :: _ => [c]
  | [] => []

def peek : Reader (List Char) := return token (← get).rest

/-- A pattern may not end in a backslash that escapes nothing. -/
def moveTo (offset : Nat) (rest : List Char) : Reader Unit :=
  if rest == ['\\'] then failAt .danglingEscape offset
  else modify fun p => { p with offset := offset, rest := rest }

def next : Reader (List Char) := do
  let p ← get
  let t := token p.rest
  moveTo (p.offset + t.length) (p.rest.drop t.length)
  return t

def accept (c : Char) : Reader Bool := do
  if (← peek) == [c] then
    let _ ← next
    return true
  else return false

def takeUpTo (test : Char → Bool) : Nat → Reader (List Char)
  | 0 => return []
  | n + 1 => do
    match ← peek with
    | [c] =>
      if test c then
        let _ ← next
        return c :: (← takeUpTo test n)
      else return []
    | _ => return []

def takeAll (test : Char → Bool) : Reader (List Char) := do takeUpTo test (← get).rest.length

def isHex (c : Char) : Bool := (Digit.hexValue? c).isSome

def isOctal (c : Char) : Bool := '0' ≤ c && c ≤ '7'

def isLetter (c : Char) : Bool := ('a' ≤ c && c ≤ 'z') || ('A' ≤ c && c ≤ 'Z')

def isIdentifier : List Char → Bool
  | [] => false
  | c :: cs =>
    WordChar.isWord c.toNat && (Digit.value? c.toNat).isNone
      && cs.all fun d => WordChar.isWord d.toNat

def takeUntil (closer : Char) (what : String) : Nat → List Char → Reader (List Char)
  | 0, taken => return taken
  | fuel + 1, taken => do
    let t ← next
    if t.isEmpty then
      if taken.isEmpty then fail (.missing what) 0
      else fail (.unterminatedName closer) taken.length
    else if t == [closer] then
      if taken.isEmpty then fail (.missing what) 1 else return taken
    else takeUntil closer what fuel (taken ++ t)

def readName (closer : Char) (what : String) : Reader (List Char) := do
  takeUntil closer what ((← get).rest.length + 1) []

def text (cs : List Char) : String := String.ofList cs

def fixedHex (mark : Char) (count : Nat) : Reader Nat := do
  let ds ← takeUpTo isHex count
  let written := '\\' :: mark :: ds
  if ds.length != count then fail (.incompleteEscape (text written)) written.length
  else
    let n := Numeral.ofDigits 16 (ds.filterMap Digit.hexValue?)
    if n < 0x110000 then return n else fail (.badEscape (text written)) written.length

def namedCharacter : Reader Nat := do
  if !(← accept '\x7b') then fail .missingBrace 0
  else
    let name ← readName '\x7d' "character name"
    match (← get).characters (text name) with
    | some n => return n
    | none => fail (.unknownCharacter (text name)) (name.length + 4)

def controlEscape? : Char → Option Nat
  | 'a' => some 0x07
  | 'f' => some 0x0C
  | 'n' => some 0x0A
  | 'r' => some 0x0D
  | 't' => some 0x09
  | 'v' => some 0x0B
  | '\\' => some 0x5C
  | _ => none

def categoryEscape? : Char → Option Member
  | 'd' => some (.category .digit false)
  | 'D' => some (.category .digit true)
  | 's' => some (.category .space false)
  | 'S' => some (.category .space true)
  | 'w' => some (.category .word false)
  | 'W' => some (.category .word true)
  | _ => none

def anchorEscape? : Char → Option Anchor
  | 'A' => some .textStart
  | 'Z' => some .textEnd
  | 'b' => some .wordEdge
  | 'B' => some .noWordEdge
  | _ => none

def octalValue (ds : List Char) : Nat := Numeral.ofDigits 8 (ds.filterMap Digit.hexValue?)

/-- An octal escape stands for one byte at most. -/
def octal (ds : List Char) : Reader Nat :=
  let n := octalValue ds
  if 0o377 < n then fail (.octalTooLarge (text ('\\' :: ds))) (ds.length + 1) else return n

def characterEscape (c : Char) : Reader Nat := do
  if c == 'x' then fixedHex 'x' 2
  else if c == 'u' then fixedHex 'u' 4
  else if c == 'U' then fixedHex 'U' 8
  else if c == 'N' then namedCharacter
  else if isLetter c || c.isDigit then fail (.badEscape (text ['\\', c])) 2
  else return c.toNat

def setEscape (c : Char) : Reader Member := do
  if c == 'b' then return .single 0x08
  else if let some n := controlEscape? c then return .single n
  else if let some m := categoryEscape? c then return m
  else if isOctal c then return .single (← octal (c :: (← takeUpTo isOctal 2)))
  else return .single (← characterEscape c)

def groupWidth? (p : Progress) (g : Nat) : Option (Nat × Option Nat) := (p.widths[g]?).join

/-- Inside a look-behind only groups before it may be referred to. -/
def checkBehind (g : Nat) : Reader Unit := do
  let p ← get
  if let some first := p.behindFrom then
    if (groupWidth? p g).isNone then fail .openGroup 0
    if first ≤ g then fail .groupOfSameLookBehind 0

/-- A reference to a group by number, or an octal escape of three digits. -/
def reference (c : Char) : Reader Expr := do
  let second ← takeUpTo Char.isDigit 1
  let third ← if isOctal c && !second.isEmpty && second.all isOctal then takeUpTo isOctal 1 else pure []
  if !third.isEmpty then return .single (← octal (c :: second ++ third))
  else
    let ds := c :: second
    let g := Numeral.digitsValue ds
    let p ← get
    if p.widths.length ≤ g then fail (.unknownGroup g) ds.length
    else if (groupWidth? p g).isNone then fail .openGroup (ds.length + 1)
    else
      checkBehind g
      return .backref g

def escape (c : Char) : Reader Expr := do
  if let some a := anchorEscape? c then return .anchor a
  else if let some m := categoryEscape? c then return .set false [m]
  else if let some n := controlEscape? c then return .single n
  else if c == '0' then return .single (octalValue (← takeUpTo isOctal 2))
  else if c.isDigit then reference c
  else return .single (← characterEscape c)

def setMember : List Char → Reader Member
  | ['\\', c] => setEscape c
  | c :: _ => return .single c.toNat
  | [] => return .single 0

def setMembers (start : Nat) : Nat → List Member → Reader (List Member)
  | 0, ms => return ms
  | fuel + 1, ms => do
    let this ← next
    if this.isEmpty then failAt .unterminatedSet start
    else if this == [']'] && !ms.isEmpty then return ms
    else
      let m ← setMember this
      if ← accept '-' then
        let that ← next
        if that.isEmpty then failAt .unterminatedSet start
        else if that == [']'] then return ms ++ [m, .single '-'.toNat]
        else
          match m, ← setMember that with
          | .single low, .single high =>
            if high < low then fail (.badRange (text this) (text that)) (this.length + 1 + that.length)
            else setMembers start fuel (ms ++ [.range low high])
          | _, _ => fail (.badRange (text this) (text that)) (this.length + 1 + that.length)
      else setMembers start fuel (ms ++ [m])

def readSet : Reader Expr := do
  let start := (← get).offset - 1
  let negated ← accept '^'
  return .set negated (← setMembers start ((← get).rest.length + 1) [])

/-- The bounds of a repetition in braces, or nothing if the brace is an ordinary character. -/
def braces : Reader (Option (Nat × Option Nat)) := do
  let before ← get
  if (← peek) == ['\x7d'] then return none
  let low ← takeAll Char.isDigit
  let high ← if ← accept ',' then takeAll Char.isDigit else pure low
  if !(← accept '\x7d') then
    moveTo before.offset before.rest
    return none
  let least := Numeral.digitsValue low
  let most := if high.isEmpty then none else some (Numeral.digitsValue high)
  if 0xFFFFFFFF ≤ least || most.any (0xFFFFFFFF ≤ ·) then throw .repeatTooLarge
  if most.any (· < least) then failAt .repeatOrder before.offset
  return some (least, most)

def bounds (c : Char) : Reader (Option (Nat × Option Nat)) :=
  if c == '?' then return some (0, some 1)
  else if c == '*' then return some (0, none)
  else if c == '+' then return some (1, none)
  else braces

def readGreed : Reader Greed := do
  if ← accept '?' then return .reluctant
  else if ← accept '+' then return .possessive
  else return .greedy

/-- Repeats the last of the items read so far; the items are held last first. -/
def repeatLast (c : Char) (items : List Expr) : Reader (List Expr) := do
  let here := (← get).offset
  match ← bounds c with
  | none => return .single c.toNat :: items
  | some (least, most) =>
    match items with
    | [] => failAt .nothingToRepeat (here - 1)
    | item :: earlier =>
      if item.isAnchor then failAt .nothingToRepeat (here - 1)
      else if item.isRepetition then failAt .repeatedTwice (here - 1)
      else return .repetition (← readGreed) least most item :: earlier

def flagOf? : Char → Option Flags
  | 'i' => some { ignoreCase := true }
  | 'm' => some { multiline := true }
  | 's' => some { dotAll := true }
  | 'x' => some { verbose := true }
  | 'a' => some { ascii := true }
  | 'u' => some { unicode := true }
  | _ => none

def isFlag (c : Char) : Bool := c == 'L' || (flagOf? c).isSome

def isAlphabetic (t : List Char) : Bool :=
  t.all fun c => WordChar.isWord c.toNat && c != '_' && (Digit.value? c.toNat).isNone

/-- Reads switches to turn on, the first being given, and the character that ends them. -/
def flagsOn : Nat → Flags → Char → Reader (Flags × Char)
  | 0, on, c => return (on, c)
  | fuel + 1, on, c => do
    match flagOf? c with
    | none => fail .localeFlag 0
    | some f =>
      let on := on.union f
      if (f.ascii || f.unicode) && on.ascii && on.unicode then fail .alphabetsOn 0
      let t ← next
      match t with
      | [] => fail .missingFlagsEnd 0
      | [d] =>
        if d == ')' || d == '-' || d == ':' then return (on, d)
        else if isFlag d then flagsOn fuel on d
        else fail (if isAlphabetic t then .unknownFlag else .missingFlagsEnd) 1
      | _ => fail .missingFlagsEnd t.length

/-- Reads switches to turn off, up to the colon, the first being given. -/
def flagsOff : Nat → Flags → Char → Reader Flags
  | 0, off, _ => return off
  | fuel + 1, off, c => do
    match flagOf? c with
    | none => fail .alphabetOff 0
    | some f =>
      if f.ascii || f.unicode then fail .alphabetOff 0
      let off := off.union f
      let t ← next
      match t with
      | [] => fail .missingColon 0
      | [':'] => return off
      | [d] =>
        if isFlag d then flagsOff fuel off d
        else fail (if isAlphabetic t then .unknownFlag else .missingColon) 1
      | _ => fail .missingColon t.length

/-- Reads the switches of a group: none for a group that sets those of the whole pattern. -/
def readFlags (c : Char) : Reader (Option (Flags × Flags)) := do
  let fuel := (← get).rest.length + 1
  let (on, c) ← if c == '-' then pure ({}, '-') else flagsOn fuel {} c
  if c == ')' then
    modify fun p => { p with flags := p.flags.union on }
    return none
  else if c == ':' then return some (on, {})
  else
    let t ← next
    match t with
    | [] => fail .missingFlag 0
    | [d] =>
      if isFlag d then
        let off ← flagsOff fuel {} d
        if (on.inter off).isEmpty then return some (on, off) else fail .flagBothWays 1
      else fail (if isAlphabetic t then .unknownFlag else .missingFlag) 1
    | _ => fail .missingFlag t.length

/-- Opens a group, whose number is the count of those before it. -/
def openGroup (name : Option (List Char)) : Reader Nat := do
  let p ← get
  let g := p.widths.length
  match name with
  | none => set { p with widths := p.widths ++ [none] }
  | some cs =>
    if let some earlier := p.names.lookup (text cs) then
      fail (.groupNameTaken (text cs) g earlier) (cs.length + 1)
    set { p with widths := p.widths ++ [none], names := (text cs, g) :: p.names }
  return g

def widthOf (e : Expr) : Reader (Nat × Option Nat) := do
  let p ← get
  return e.width fun g => (groupWidth? p g).getD (0, some 0)

def closeGroup (g : Nat) (e : Expr) : Reader Unit := do
  let w ← widthOf e
  modify fun p => { p with widths := p.widths.set g (some w) }

def skipComment (start : Nat) : Nat → Reader Unit
  | 0 => return
  | fuel + 1 => do
    let t ← next
    if t.isEmpty then failAt .unterminatedComment start
    else if t == [')'] then return
    else skipComment start fuel

def skipLine : Nat → Reader Unit
  | 0 => return
  | fuel + 1 => do
    let t ← next
    if t.isEmpty || t == ['\n'] then return else skipLine fuel

def closeParen (start : Nat) : Reader Unit := do
  if !(← accept ')') then failAt .unterminatedGroup start

def groupName (closer : Char) : Reader (List Char) := do
  let name ← readName closer "group name"
  if !isIdentifier name then fail (.badGroupName (text name)) (name.length + 1)
  return name

def namedReference : Reader Expr := do
  let name ← groupName ')'
  let p ← get
  match p.names.lookup (text name) with
  | none => fail (.unknownGroupName (text name)) (name.length + 1)
  | some g =>
    if (groupWidth? p g).isNone then fail .openGroup (name.length + 1)
    checkBehind g
    return .backref g

def conditionGroup : Reader Nat := do
  let name ← readName ')' "group name"
  let back := name.length + 1
  let p ← get
  let g ←
    if isIdentifier name then
      match p.names.lookup (text name) with
      | none => fail (.unknownGroupName (text name)) back
      | some g => pure g
    else
      match Numeral.integer? 10 name with
      | some (.ofNat 0) => fail .badGroupNumber back
      | some (.ofNat g) =>
        if 1073741823 ≤ g then fail (.unknownGroup g) back
        if (p.asked.lookup g).isNone then
          set { p with asked := p.asked ++ [(g, p.offset - back)] }
        pure g
      | _ => fail (.badGroupName (text name)) back
  checkBehind g
  return g

def isVerboseBlank (t : List Char) : Bool :=
  match t with
  | [c] => c == ' ' || (0x9 ≤ c.toNat && c.toNat ≤ 0xD)
  | _ => false

/-- What stands in parentheses: an expression, or only a change to the switches or a comment. -/
inductive Group where
  | expr (e : Expr)
  | nothing
  | flags

mutual

def alternatives (fuel : Nat) (verbose top : Bool) : Reader Expr :=
  match fuel with
  | 0 => return .empty
  | fuel + 1 => do
    let first ← items fuel verbose top []
    moreAlternatives fuel verbose top first
termination_by structural fuel

def moreAlternatives (fuel : Nat) (verbose top : Bool) (first : Expr) : Reader Expr :=
  match fuel with
  | 0 => return first
  | fuel + 1 => do
    if ← accept '|' then
      let now ← get
      let verbose := if top then now.flags.verbose else verbose
      let second ← items fuel verbose false []
      return .alt first (← moreAlternatives fuel verbose top second)
    else return first
termination_by structural fuel

/-- Reads a sequence of items, which are held last first. Only at the start of a pattern may its
switches be set. -/
def items (fuel : Nat) (verbose first : Bool) (read : List Expr) : Reader Expr :=
  match fuel with
  | 0 => return .ofList read.reverse
  | fuel + 1 => do
    let this ← peek
    if this.isEmpty || this == ['|'] || this == [')'] then return .ofList read.reverse
    let _ ← next
    if verbose && isVerboseBlank this then items fuel verbose first read
    else if verbose && this == ['#'] then
      skipLine ((← get).rest.length + 1)
      items fuel verbose first read
    else match this with
      | ['\\', c] => items fuel verbose first ((← escape c) :: read)
      | ['['] => items fuel verbose first ((← readSet) :: read)
      | ['.'] => items fuel verbose first (.anyChar :: read)
      | ['^'] => items fuel verbose first (.anchor .lineStart :: read)
      | ['$'] => items fuel verbose first (.anchor .lineEnd :: read)
      | ['('] =>
        let start := (← get).offset - 1
        match ← group fuel verbose start with
        | .expr e => items fuel verbose first (e :: read)
        | .nothing => items fuel verbose first read
        | .flags =>
          if !first || !read.isEmpty then failAt .lateFlags start
          items fuel (← get).flags.verbose first read
      | [c] =>
        if c == '*' || c == '+' || c == '?' || c == '\x7b' then
          items fuel verbose first (← repeatLast c read)
        else items fuel verbose first (.single c.toNat :: read)
      | _ => return .ofList read.reverse
termination_by structural fuel

def group (fuel : Nat) (verbose : Bool) (start : Nat) : Reader Group :=
  match fuel with
  | 0 => return .nothing
  | fuel + 1 => do
    if !(← accept '?') then captured fuel verbose start none
    else
      let t ← next
      match t with
      | [] => fail .unexpectedEnd 0
      | ['P'] =>
        if ← accept '<' then captured fuel verbose start (some (← groupName '>'))
        else if ← accept '=' then return .expr (← namedReference)
        else
          let t ← next
          if t.isEmpty then fail .unexpectedEnd 0
          else fail (.unknownExtension (text ('?' :: 'P' :: t))) (t.length + 2)
      | [':'] => plain fuel verbose start {} {}
      | ['#'] =>
        skipComment start ((← get).rest.length + 1)
        return .nothing
      | ['='] => lookAhead fuel verbose start false
      | ['!'] => lookAhead fuel verbose start true
      | ['<'] =>
        let t ← next
        match t with
        | [] => fail .unexpectedEnd 0
        | ['='] => lookBehind fuel verbose start false
        | ['!'] => lookBehind fuel verbose start true
        | _ => fail (.unknownExtension (text ('?' :: '<' :: t))) (t.length + 2)
      | ['('] =>
        let g ← conditionGroup
        let yes ← items fuel verbose false []
        let no ←
          if ← accept '|' then
            let no ← items fuel verbose false []
            if (← peek) == ['|'] then fail .thirdBranch 0
            pure no
          else pure .empty
        closeParen start
        return .expr (.conditional g yes no)
      | ['>'] =>
        let e ← alternatives fuel verbose false
        closeParen start
        return .expr (.atomic e)
      | [c] =>
        if isFlag c || c == '-' then
          match ← readFlags c with
          | none => return .flags
          | some (on, off) => plain fuel verbose start on off
        else fail (.unknownExtension (text ['?', c])) 2
      | _ => fail (.unknownExtension (text ('?' :: t))) (t.length + 1)
termination_by structural fuel

def captured (fuel : Nat) (verbose : Bool) (start : Nat) (name : Option (List Char)) :
    Reader Group :=
  match fuel with
  | 0 => return .nothing
  | fuel + 1 => do
    let g ← openGroup name
    let e ← alternatives fuel verbose false
    closeParen start
    closeGroup g e
    return .expr (.capture g e)
termination_by structural fuel

def plain (fuel : Nat) (verbose : Bool) (start : Nat) (on off : Flags) : Reader Group :=
  match fuel with
  | 0 => return .nothing
  | fuel + 1 => do
    let e ← alternatives fuel ((verbose || on.verbose) && !off.verbose) false
    closeParen start
    return .expr (.scoped on off e)
termination_by structural fuel

def lookAhead (fuel : Nat) (verbose : Bool) (start : Nat) (negated : Bool) : Reader Group :=
  match fuel with
  | 0 => return .nothing
  | fuel + 1 => do
    let e ← alternatives fuel verbose false
    closeParen start
    return .expr (.ahead negated e)
termination_by structural fuel

def lookBehind (fuel : Nat) (verbose : Bool) (start : Nat) (negated : Bool) : Reader Group :=
  match fuel with
  | 0 => return .nothing
  | fuel + 1 => do
    let outer := (← get).behindFrom
    modify fun p => { p with behindFrom := some (p.behindFrom.getD p.widths.length) }
    let e ← alternatives fuel verbose false
    modify fun p => { p with behindFrom := outer }
    closeParen start
    let (low, high) ← widthOf e
    if high != some low then modify fun p => { p with varying := true }
    return .expr (.behind negated low e)
termination_by structural fuel

end

def whole (fuel : Nat) : Reader (Expr × Flags) := do
  let p ← get
  moveTo p.offset p.rest
  let e ← alternatives fuel false true
  let p ← get
  if p.flags.ascii && p.flags.unicode then throw .bothAlphabets
  if !p.rest.isEmpty then fail .unbalanced 0
  if let some (g, offset) := p.asked.find? fun a => p.widths.length ≤ a.1 then
    failAt (.unknownGroup g) offset
  if p.varying then throw .varyingLookBehind
  return (e, p.flags)

end Reader

/-- Reads the text of a pattern, which may give characters by name. -/
def ofString (characters : String → Option Nat) (source : String) :
    Except Fault MarkupCensus.Pattern :=
  let rest := source.toList
  let start : Progress := { characters := characters, rest := rest }
  match (Reader.whole (4 * rest.length + 8)).run start with
  | .ok ((e, flags), _) => .ok { source := source, flags := flags, expr := e }
  | .error fault => .error fault

end MarkupCensus.Pattern
