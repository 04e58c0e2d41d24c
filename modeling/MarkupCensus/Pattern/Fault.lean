import MarkupCensus.Text.Quoted

namespace MarkupCensus.Pattern

/-- What is wrong with the text of a pattern. -/
inductive Cause where
  | danglingEscape
  | incompleteEscape (written : String)
  | badEscape (written : String)
  | octalTooLarge (written : String)
  | missingBrace
  | missing (what : String)
  | unterminatedName (closer : Char)
  | unknownCharacter (name : String)
  | unterminatedSet
  | badRange (low high : String)
  | repeatOrder
  | nothingToRepeat
  | repeatedTwice
  | unexpectedEnd
  | unknownExtension (written : String)
  | unterminatedComment
  | unterminatedGroup
  | badGroupName (name : String)
  | badGroupNumber
  | unknownGroupName (name : String)
  | groupNameTaken (name : String) (group earlier : Nat)
  | unknownGroup (group : Nat)
  | openGroup
  | groupOfSameLookBehind
  | thirdBranch
  | lateFlags
  | localeFlag
  | alphabetsOn
  | alphabetOff
  | flagBothWays
  | unknownFlag
  | missingFlag
  | missingFlagsEnd
  | missingColon
  | unbalanced
deriving DecidableEq, Repr

def Cause.message : Cause → String
  | danglingEscape => "bad escape (end of pattern)"
  | incompleteEscape w => "incomplete escape " ++ w
  | badEscape w => "bad escape " ++ w
  | octalTooLarge w => "octal escape value " ++ w ++ " outside of range 0-0o377"
  | missingBrace => "missing \x7b"
  | missing what => "missing " ++ what
  | unterminatedName closer => "missing " ++ String.ofList [closer] ++ ", unterminated name"
  | unknownCharacter name => "undefined character name " ++ Quoted.quote name
  | unterminatedSet => "unterminated character set"
  | badRange low high => "bad character range " ++ low ++ "-" ++ high
  | repeatOrder => "min repeat greater than max repeat"
  | nothingToRepeat => "nothing to repeat"
  | repeatedTwice => "multiple repeat"
  | unexpectedEnd => "unexpected end of pattern"
  | unknownExtension w => "unknown extension " ++ w
  | unterminatedComment => "missing ), unterminated comment"
  | unterminatedGroup => "missing ), unterminated subpattern"
  | badGroupName name => "bad character in group name " ++ Quoted.quote name
  | badGroupNumber => "bad group number"
  | unknownGroupName name => "unknown group name " ++ Quoted.quote name
  | groupNameTaken name group earlier =>
    "redefinition of group name " ++ Quoted.quote name ++ " as group " ++ toString group
      ++ "; was group " ++ toString earlier
  | unknownGroup group => "invalid group reference " ++ toString group
  | openGroup => "cannot refer to an open group"
  | groupOfSameLookBehind => "cannot refer to group defined in the same lookbehind subpattern"
  | thirdBranch => "conditional backref with more than two branches"
  | lateFlags => "global flags not at the start of the expression"
  | localeFlag => "bad inline flags: cannot use 'L' flag with a str pattern"
  | alphabetsOn => "bad inline flags: flags 'a', 'u' and 'L' are incompatible"
  | alphabetOff => "bad inline flags: cannot turn off flags 'a', 'u' and 'L'"
  | flagBothWays => "bad inline flags: flag turned on and off"
  | unknownFlag => "unknown flag"
  | missingFlag => "missing flag"
  | missingFlagsEnd => "missing -, : or )"
  | missingColon => "missing :"
  | unbalanced => "unbalanced parenthesis"

inductive Fault where
  /-- The text is wrong at an offset. -/
  | malformed (cause : Cause) (offset : Nat)
  /-- Only stretches of one length can be looked behind. -/
  | varyingLookBehind
  /-- A repetition has more rounds than can be counted. -/
  | repeatTooLarge
  /-- Both alphabets are asked for. -/
  | bothAlphabets
deriving DecidableEq, Repr

/-- The line and column of an offset, if the text has more than one line. -/
def place (text : List Char) (offset : Nat) : String :=
  if text.contains '\n' then
    let before := text.take offset
    let column := (before.reverse.takeWhile (· != '\n')).length + 1
    " (line " ++ toString (before.count '\n' + 1) ++ ", column " ++ toString column ++ ")"
  else ""

def Fault.message (source : String) : Fault → String
  | .malformed cause offset =>
    cause.message ++ " at position " ++ toString offset ++ place source.toList offset
  | .varyingLookBehind => "look-behind requires fixed-width pattern"
  | .repeatTooLarge => "the repetition number is too large"
  | .bothAlphabets => "ASCII and UNICODE flags are incompatible"

end MarkupCensus.Pattern
