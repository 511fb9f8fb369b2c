import GoScan.Unicode.CaseFolding
import GoScan.Unicode.Properties

/-!
Sets of code points as ranges in order, no two of which touch, and the code points at which a
property of characters can change.
-/

namespace GoScan.Unicode

structure CodeRange where
  low : Nat
  high : Nat
deriving DecidableEq, Repr

abbrev CodeRanges := List CodeRange

def lastCodePoint : Nat := 0x10FFFF

namespace CodeRange

def single (n : Nat) : CodeRange := ⟨n, n⟩

def holds (r : CodeRange) (n : Nat) : Bool := r.low ≤ n && n ≤ r.high

/-- The parts below and above the surrogates, which are no characters. -/
def withoutSurrogates (r : CodeRange) : CodeRanges :=
  [⟨r.low, min r.high 0xD7FF⟩, ⟨max r.low 0xE000, r.high⟩].filter fun p => p.low ≤ p.high

end CodeRange

namespace CodeRanges

/-- Joins ranges that touch; the ranges come in the order of where they start. -/
def join (ranges : CodeRanges) : CodeRanges :=
  let step (joined : CodeRanges) (r : CodeRange) : CodeRanges :=
    match joined with
    | last :: before =>
      if r.low ≤ last.high + 1 then ⟨last.low, max last.high r.high⟩ :: before else r :: joined
    | [] => [r]
  (ranges.foldl step []).reverse

/-- The ranges that cover what any of the given ones covers. -/
def normalize (ranges : CodeRanges) : CodeRanges :=
  join (ranges.mergeSort fun a b => a.low ≤ b.low)

def union (a b : CodeRanges) : CodeRanges := normalize (a ++ b)

/-- What is left out from `next` on. -/
def complementFrom (next : Nat) : CodeRanges → CodeRanges
  | [] => if next ≤ lastCodePoint then [⟨next, lastCodePoint⟩] else []
  | r :: ranges =>
    if next < r.low then ⟨next, r.low - 1⟩ :: complementFrom (r.high + 1) ranges
    else complementFrom (r.high + 1) ranges

def complement (a : CodeRanges) : CodeRanges := complementFrom 0 a

def inter (a b : CodeRanges) : CodeRanges := complement (union (complement a) (complement b))

def holds (a : CodeRanges) (n : Nat) : Bool := a.any (·.holds n)

end CodeRanges

/-- Where the category can change within the runs: at every character of an alternating run. -/
def runChanges : List Run → List Nat
  | r :: next :: runs =>
    let here := if r.even = r.odd then [r.first] else List.range' r.first (next.first - r.first)
    here ++ runChanges (next :: runs)
  | runs => runs.map Run.first

/-- All code points at which some property can differ from the one before, in order. -/
def changes : List Nat :=
  let inTables := runChanges (categoryPages.flatMap Prod.snd)
  let inIntervals := (otherAlphabetic ++ otherGraphemeExtend).flatMap fun (low, high) => [low, high + 1]
  let inBlanks := whiteSpace.flatMap fun c => [c.toNat, c.toNat + 1]
  let all := List.range 0x80 ++ inTables ++ inIntervals ++ inBlanks ++ [0x200C, 0x200E, 0xD800, 0xE000]
  (CodeRanges.normalize (all.map .single)).flatMap fun r => List.range' r.low (r.high + 1 - r.low)

/-- The characters that satisfy `p`, which must not change between two `changes`. -/
def rangesOf (p : Char → Bool) : CodeRanges :=
  let pieces := changes.zipWith (fun low next => ⟨low, next - 1⟩)
    (changes.drop 1 ++ [lastCodePoint + 1])
  CodeRanges.join (pieces.filter fun r => r.low.isValidChar && p (Char.ofNat r.low))

/-- The code points that have case variants. -/
def casedCodePoints : List Nat :=
  foldRuns.flatMap fun r =>
    let steps := List.range ((r.last - r.first) / r.stride + 1)
    steps.map (r.first + r.stride * ·) ++ steps.map (r.target + r.stride * ·)

/-- The ranges with all case variants of their members. -/
def CodeRanges.caseless (a : CodeRanges) : CodeRanges :=
  let cased := casedCodePoints.filter a.holds
  a.union (cased.flatMap fun n => (variants (Char.ofNat n)).map fun c => .single c.toNat)

end GoScan.Unicode
