namespace MarkupCensus

abbrev RangeSet := List (Nat × Nat)

namespace RangeSet

def contains (s : RangeSet) (n : Nat) : Bool := s.any fun r => r.1 ≤ n && n ≤ r.2

end RangeSet

end MarkupCensus
