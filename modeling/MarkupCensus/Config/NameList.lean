import MarkupCensus.Text.Blank
import MarkupCensus.Text.Split

namespace MarkupCensus.NameList

/-- The names in one value: its parts between commas, trimmed, the empty ones dropped. -/
def ofValue (value : List Char) : List (List Char) :=
  ((Split.split ',' value).map Blank.trim).filter fun name => !name.isEmpty

def ofValues (values : List String) : List String :=
  (values.flatMap fun v => ofValue v.toList).map String.ofList

end MarkupCensus.NameList
