import GoScan.Pattern.Basic

/-!
A pattern as it is written: groups keep their numbers and counted repetitions their counts. Written
out, with each repetition in full, it is the pattern that is matched.
-/

namespace GoScan

inductive Outline where
  | empty
  | set (s : CharSet)
  /-- A set where ASCII is meant, which is not the same part as the set of these characters. -/
  | asciiSet (s : CharSet)
  | anchor (a : Anchor)
  /-- A group that remembers what it matched. -/
  | group (number : Nat) (inside : Outline)
  | cat (parts : List Outline)
  | alt (branches : List Outline)
  | repeated (greedy : Bool) (low : Nat) (high : Option Nat) (inside : Outline)
deriving Repr

namespace Outline

mutual

/-- Whatever it matches is empty. -/
def onlyEmpty : Outline → Bool
  | empty | anchor _ => true
  | set _ | asciiSet _ => false
  | group _ o => o.onlyEmpty
  | cat os | alt os => allOnlyEmpty os
  | repeated _ _ high o => high = some 0 || o.onlyEmpty

def allOnlyEmpty : List Outline → Bool
  | [] => true
  | o :: os => o.onlyEmpty && allOnlyEmpty os

end

mutual

/-- The pattern, every repetition written out. -/
def pattern : Outline → Pattern
  | empty => .empty
  | set s | asciiSet s => .set s
  | anchor a => .anchor a
  | group _ o => o.pattern
  | cat os => .seq (patterns os)
  | alt os => .oneOf (patterns os)
  | repeated greedy low high o =>
    -- Rounds that can only be empty add nothing to the first.
    if o.onlyEmpty then o.pattern.counted greedy (min low 1) (some (min (high.getD 1) 1))
    else o.pattern.counted greedy low high

def patterns : List Outline → List Pattern
  | [] => []
  | o :: os => o.pattern :: patterns os

end

end Outline

end GoScan
