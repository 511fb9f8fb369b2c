import GoScan.Pattern.CharSet
import GoScan.Unicode.Ranges

/-!
The members of a set of characters, as ranges of code points.
-/

namespace GoScan

open Unicode (CodeRange CodeRanges)

/-- The members of a property. -/
def Property.ranges (p : Property) : CodeRanges := Unicode.rangesOf p.holds

namespace CharSet

/-- The properties that the set is made from, some of them more than once. -/
def properties : CharSet → List Property
  | property p => [p]
  | union a b | inter a b | diff a b => a.properties ++ b.properties
  | compl a | caseless a => a.properties
  | _ => []

/-- The members of the set and perhaps surrogates, given the members of the properties. -/
def ranges (known : Property → CodeRanges) : CharSet → CodeRanges
  | empty => []
  | range low high => if low ≤ high then [⟨low.toNat, high.toNat⟩] else []
  | property p => known p
  | union a b => (a.ranges known).union (b.ranges known)
  | inter a b => (a.ranges known).inter (b.ranges known)
  | diff a b => (a.ranges known).inter (b.ranges known).complement
  | compl a => (a.ranges known).complement
  | caseless a => (a.ranges known).caseless

/-- The members of the set, given the members of the properties. -/
def members (known : Property → CodeRanges) (s : CharSet) : CodeRanges :=
  (s.ranges known).flatMap CodeRange.withoutSurrogates

end CharSet

end GoScan
