/-!
UTF-8 read byte by byte: a range of characters as sequences of byte ranges, in order, each of which
stands for all characters that have one byte out of each range.
-/

namespace GoScan.Text

structure ByteRange where
  low : UInt8
  high : UInt8
deriving DecidableEq, Hashable, Repr

abbrev ByteSequence := List ByteRange

/-- The last character before a place where the range has to be cut: between characters of
different lengths, and where the bytes behind the first one that differs do not cover all. -/
def lastBeforeCut? (low high : Nat) : Option Nat :=
  let byLength := [0x7F, 0x7FF, 0xFFFF].find? fun last => low ≤ last && last < high
  let byBlock (size : Nat) : Option Nat :=
    if low / size = high / size then none
    else if low % size ≠ 0 then some (low / size * size + size - 1)
    else if high % size ≠ size - 1 then some (high / size * size - 1)
    else none
  byLength <|> if high ≤ 0x7F then none else [0x40, 0x1000, 0x40000].findSome? byBlock

/-- The sequences for the characters from `low` to `high`, none of them a surrogate. -/
def byteSequences (low high : Nat) : List ByteSequence :=
  match lastBeforeCut? low high with
  | some last =>
    if low ≤ last ∧ last < high then byteSequences low last ++ byteSequences (last + 1) high
    else []
  | none =>
    let bytes (n : Nat) := String.utf8EncodeChar (Char.ofNat n)
    [(bytes low).zipWith .mk (bytes high)]
termination_by high - low

end GoScan.Text
