import GoScan.Unicode.Properties
import GoScan.Unicode.CaseFolding

/-!
Sets of characters as a pattern writes them: ranges, Unicode properties, and what set operations
and caseless matching make of them.
-/

namespace GoScan

inductive Property where
  | category (c : Unicode.Category)
  | letter | casedLetter | mark | number | punctuation | symbol | separator | other
  | alphabetic | whiteSpace | word | graphemeExtend | joinControl
deriving DecidableEq, Repr

namespace Property

def holds : Property → Char → Bool
  | category k, c => Unicode.category c = k
  | letter, c => Unicode.isLetter c
  | casedLetter, c =>
    match Unicode.category c with
    | .lu | .ll | .lt => true
    | _ => false
  | mark, c => (Unicode.category c).isMark
  | number, c => (Unicode.category c).isNumber
  | punctuation, c => (Unicode.category c).isPunctuation
  | symbol, c => (Unicode.category c).isSymbol
  | separator, c => (Unicode.category c).isSeparator
  | other, c => (Unicode.category c).isOther
  | alphabetic, c => Unicode.isAlphabetic c
  | whiteSpace, c => Unicode.isWhiteSpace c
  | word, c => Unicode.isPatternWord c
  | graphemeExtend, c => Unicode.isGraphemeExtend c
  | joinControl, c => Unicode.isJoinControl c

end Property

inductive CharSet where
  | empty
  | range (low high : Char)
  | property (p : Property)
  | union (a b : CharSet)
  | inter (a b : CharSet)
  | diff (a b : CharSet)
  | compl (a : CharSet)
  /-- All case variants of the members. -/
  | caseless (a : CharSet)
deriving DecidableEq, Repr

namespace CharSet

def contains : CharSet → Char → Bool
  | empty, _ => false
  | range low high, c => low ≤ c && c ≤ high
  | property p, c => p.holds c
  | union a b, c => a.contains c || b.contains c
  | inter a b, c => a.contains c && b.contains c
  | diff a b, c => a.contains c && !b.contains c
  | compl a, c => !a.contains c
  | caseless a, c => (Unicode.variants c).any a.contains

def single (c : Char) : CharSet := range c c

def any : CharSet := compl empty

/-- Members of one of the two but not of both. -/
def symmDiff (a b : CharSet) : CharSet := union (diff a b) (diff b a)

def ofChars : List Char → CharSet
  | [] => empty
  | [c] => single c
  | c :: cs => union (single c) (ofChars cs)

/-- The members, and those letters of ASCII that differ from a member in case only. -/
def asciiCaseless (s : CharSet) : CharSet :=
  let lower := (List.range 26).map fun i => Char.ofNat ('a'.toNat + i)
  let cased := lower.filter fun c => s.contains c || s.contains c.toUpper
  union s (ofChars (cased ++ cased.map Char.toUpper))

def asciiDigits : CharSet := range '0' '9'

def asciiSpaces : CharSet := union (range '\t' '\r') (single ' ')

def asciiWords : CharSet :=
  union (range '0' '9') (union (range 'A' 'Z') (union (single '_') (range 'a' 'z')))

/-- The sets of ASCII characters that have names. -/
def ofAsciiClass? : String → Option CharSet
  | "alnum" => union (range '0' '9') (union (range 'A' 'Z') (range 'a' 'z'))
  | "alpha" => union (range 'A' 'Z') (range 'a' 'z')
  | "ascii" => range '\x00' '\x7F'
  | "blank" => ofChars ['\t', ' ']
  | "cntrl" => union (range '\x00' '\x1F') (single '\x7F')
  | "digit" => asciiDigits
  | "graph" => range '!' '~'
  | "lower" => range 'a' 'z'
  | "print" => range ' ' '~'
  | "punct" =>
    union (range '!' '/') (union (range ':' '@') (union (range '[' '\x60') (range '\x7B' '~')))
  | "space" => asciiSpaces
  | "upper" => range 'A' 'Z'
  | "word" => asciiWords
  | "xdigit" => union (range '0' '9') (union (range 'A' 'F') (range 'a' 'f'))
  | _ => none

@[simp] theorem contains_single (c d : Char) : (single c).contains d = (d == c) := by
  rw [Bool.eq_iff_iff]
  simp [single, contains, Char.le_def, Char.ext_iff, UInt32.le_iff_toNat_le,
    ← UInt32.toNat_inj]
  omega

end CharSet

end GoScan
