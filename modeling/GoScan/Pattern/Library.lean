import GoScan.Pattern.Flags

/-!
What the meaning of a pattern depends on besides the pattern itself.
-/

namespace GoScan

/-- The characters with a property, by what is written of the property between braces, and the words in
which a pattern is refused. -/
class PatternLibrary where
  property? : List Char → Option CharSet
  refusal : List Char → PatternError → String

end GoScan
