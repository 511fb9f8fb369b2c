import GoScan.Position

/-!
The newlines of a text, found once, so that a position costs no second reading of the text before
its line.
-/

namespace GoScan

structure LineIndex where
  /-- Byte offsets of the newlines, in order. -/
  newlines : List Nat
  /-- Bytes of the text. -/
  size : Nat
deriving Repr

namespace LineIndex

/-- Offsets of the newlines of a text that starts at byte `offset`. -/
def newlineOffsets (offset : Nat) : List Char → List Nat
  | [] => []
  | c :: cs =>
    if c = '\n' then offset :: newlineOffsets (offset + c.utf8Size) cs
    else newlineOffsets (offset + c.utf8Size) cs

def ofText (text : List Char) : LineIndex := ⟨newlineOffsets 0 text, Text.byteCount text⟩

def lineCount (index : LineIndex) : Nat := index.newlines.length + 1

/-- Byte offset at which line `line` starts. -/
def lineStart? (index : LineIndex) : Nat → Option Nat
  | 0 => none
  | 1 => some 0
  | line + 2 => index.newlines[line]?.map (· + 1)

/-- The number of newlines before byte `offset`. -/
def newlinesBefore (index : LineIndex) (offset : Nat) : Nat :=
  (index.newlines.takeWhile (· < offset)).length

/-- The position of byte `offset`, with the column counted in `text`, of which the index is taken
to be. -/
def position? (index : LineIndex) (text : List Char) (offset : Nat) : Option Position :=
  if index.size ≤ offset then none
  else
    let line := index.newlinesBefore offset + 1
    let start := (index.lineStart? line).getD 0
    match Text.splitAtByte? text start with
    | none => none
    | some (_, rest) => match Text.splitAtByte? rest (offset - start) with
      | none => none
      | some (front, _) => some ⟨offset, line, front.length + 1⟩

end LineIndex

end GoScan
