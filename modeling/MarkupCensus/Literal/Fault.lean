import MarkupCensus.Text.Quoted

namespace MarkupCensus

/-- Why a literal has no value, or an attribute no name. -/
inductive LiteralFault where
  /-- The text is no decimal numeral. -/
  | notDecimal (text : String)
  /-- The text has no reading in the base, which is 0 where a mark in the text gives it. -/
  | notInteger (base : Nat) (text : String)
  /-- The integer is no code point. -/
  | notCodePoint
  /-- The integer is not even of the size that is compared with the code points. -/
  | oversizedCodePoint
  /-- There is no name to read. -/
  | missingName
  /-- The numeral has more decimal digits than are read. -/
  | overlongNumeral (digits : Nat)
deriving DecidableEq, Repr

/-- The number of decimal digits that an integer may have to be read or written. -/
def digitLimit : Nat := 4300

namespace LiteralFault

def message : LiteralFault → String
  | notDecimal text => "could not convert string to float: " ++ Quoted.quote text
  | notInteger base text =>
    "invalid literal for int() with base " ++ toString base ++ ": " ++ Quoted.quote text
  | notCodePoint => "chr() arg not in range(0x110000)"
  | oversizedCodePoint => "Python int too large to convert to C int"
  | missingName => "list index out of range"
  | overlongNumeral digits =>
    "Exceeds the limit (" ++ toString digitLimit ++ " digits) for integer string conversion: value has "
      ++ toString digits ++ " digits; use sys.set_int_max_str_digits() to increase the limit"

end LiteralFault

end MarkupCensus
