import GoScan.Unicode.CategoryRunsUpper
import GoScan.Unicode.Intervals

/-!
Properties of single characters. ASCII is answered without the tables, by `asciiCategory`.
-/

namespace GoScan.Unicode

/-- The last of the rows, sorted by key, whose key is at most `n`. -/
def lastUpTo {α : Type} (key : α → Nat) (n : Nat) : List α → Option α
  | [] => none
  | row :: rows => if key row ≤ n then lastUpTo key n rows <|> some row else none

def asciiCategory (n : Nat) : Category :=
  if n < 0x20 then .cc
  else if n = 0x20 then .zs
  else if 0x30 ≤ n ∧ n ≤ 0x39 then .nd
  else if 0x41 ≤ n ∧ n ≤ 0x5A then .lu
  else if 0x61 ≤ n ∧ n ≤ 0x7A then .ll
  else match n with
    | 0x24 => .sc
    | 0x28 | 0x5B | 0x7B => .ps
    | 0x29 | 0x5D | 0x7D => .pe
    | 0x2B | 0x3C | 0x3D | 0x3E | 0x7C | 0x7E => .sm
    | 0x2D => .pd
    | 0x5E | 0x60 => .sk
    | 0x5F => .pc
    | 0x7F => .cc
    | _ => .po

def tableCategory (n : Nat) : Category :=
  match lastUpTo Prod.fst n categoryPages with
  | none => .cn
  | some (_, runs) => ((lastUpTo Run.first n runs).map (·.category n)).getD .cn

def category (c : Char) : Category :=
  if c.toNat < 0x80 then asciiCategory c.toNat
  else tableCategory c.toNat

def inIntervals (rows : List (Nat × Nat)) (c : Char) : Bool :=
  rows.any fun (low, high) => low ≤ c.toNat && c.toNat ≤ high

def isLetter (c : Char) : Bool := (category c).isLetter

def isAlphabetic (c : Char) : Bool :=
  (category c).isLetter || category c = .nl || inIntervals otherAlphabetic c

def isAlphanumeric (c : Char) : Bool := isAlphabetic c || (category c).isNumber

def isJoinControl (c : Char) : Bool := c = '\u200C' || c = '\u200D'

/-- A character of a word in the sense of a pattern's `\w`. -/
def isPatternWord (c : Char) : Bool :=
  isAlphabetic c || (category c).isMark || category c = .nd || category c = .pc || isJoinControl c

def whiteSpace : List Char :=
  ['\t', '\n', '\x0B', '\x0C', '\r', ' ', '\u0085', '\u00A0', '\u1680',
   '\u2000', '\u2001', '\u2002', '\u2003', '\u2004', '\u2005', '\u2006', '\u2007', '\u2008',
   '\u2009', '\u200A', '\u2028', '\u2029', '\u202F', '\u205F', '\u3000']

def isWhiteSpace (c : Char) : Bool := whiteSpace.contains c

/-- The character combines with the one before it. -/
def isGraphemeExtend (c : Char) : Bool :=
  category c = .mn || category c = .me || inIntervals otherGraphemeExtend c

/-- A letter that shows as nothing: the fillers in place of a missing part of a Hangul syllable. -/
def isFiller (c : Char) : Bool :=
  c = '\u115F' || c = '\u1160' || c = '\u3164' || c = '\uFFA0'

/-- Of the separators only the ASCII space is printable. -/
def isPrintable (c : Char) : Bool :=
  c = ' ' || !((category c).isOther || (category c).isSeparator || isFiller c)

end GoScan.Unicode
