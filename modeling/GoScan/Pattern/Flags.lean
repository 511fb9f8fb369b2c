import GoScan.Pattern.CharSet

/-!
What reading a pattern can run into, the flags in force while it is read, and the blanks that a
verbose pattern may hold between its parts.
-/

namespace GoScan

inductive PatternError where
  | unclosedGroup | unopenedGroup
  | unclosedClass | badClassItem | badRange
  | nothingToRepeat | badCount
  | badEscape | badCodePoint | badProperty | badBoundary
  /-- The part is about all characters where only ASCII is meant. -/
  | beyondAscii
  /-- The part could match bytes that are no text. -/
  | notText
  | badFlags | badGroupName | lookAround
  | tooDeep | tooLarge
deriving DecidableEq, Repr

namespace PatternError

/-- What is wrong with the pattern, in short. -/
def message : PatternError → String
  | unclosedGroup => "unclosed group"
  | unopenedGroup => "unopened group"
  | unclosedClass => "unclosed character class"
  | badClassItem => "an anchor is no member of a character class"
  | badRange => "invalid character class range"
  | nothingToRepeat => "repetition operator missing expression"
  | badCount => "invalid repetition count"
  | badEscape => "unrecognized escape sequence"
  | badCodePoint => "invalid code point"
  | badProperty => "Unicode property not found"
  | badBoundary => "unrecognized word boundary"
  | beyondAscii => "Unicode not allowed here"
  | notText => "pattern can match invalid UTF-8"
  | badFlags => "invalid flags"
  | badGroupName => "invalid capture group name"
  | lookAround => "look-around is not supported"
  | tooDeep => "pattern nests too deeply"
  | tooLarge => "Compiled regex exceeds size limit of 10485760 bytes."

end PatternError

structure Flags where
  caseless : Bool
  multiLine : Bool
  dotAll : Bool
  /-- Repetitions are lazy, and a question mark makes them greedy. -/
  swapGreed : Bool
  /-- A carriage return ends a line, too. -/
  returns : Bool
  /-- White space and comments are not part of the pattern. -/
  verbose : Bool
  /-- Classes, word boundaries and case are those of ASCII. -/
  ascii : Bool
deriving DecidableEq, Repr

namespace Flags

def none : Flags := ⟨false, false, false, false, false, false, false⟩

def set? (f : Flags) (letter : Char) (value : Bool) : Option Flags :=
  match letter with
  | 'i' => some { f with caseless := value }
  | 'm' => some { f with multiLine := value }
  | 's' => some { f with dotAll := value }
  | 'U' => some { f with swapGreed := value }
  | 'R' => some { f with returns := value }
  | 'x' => some { f with verbose := value }
  | 'u' => some { f with ascii := !value }
  | _ => Option.none

/-- The set that stands for `s` under these flags. -/
def fold (f : Flags) (s : CharSet) : CharSet :=
  if !f.caseless then s
  else if f.ascii then s.asciiCaseless
  else .caseless s

/-- The complement of `s`; that of a set of bytes in ASCII has bytes in it that are no text. -/
def complement (f : Flags) (s : CharSet) : Except PatternError CharSet :=
  if f.ascii then .error .notText else .ok (.compl s)

/-- `s` under these flags, then its complement if asked for. -/
def foldThenNegate (f : Flags) (negated : Bool) (s : CharSet) : Except PatternError CharSet :=
  if negated then f.complement (f.fold s) else .ok (f.fold s)

end Flags

namespace Blank

/-- Past white space and comments; `comment` tells that the text starts inside one. -/
def skip (comment : Bool) : List Char → List Char
  | [] => []
  | c :: cs =>
    if comment then skip (c != '\n') cs
    else if Unicode.isWhiteSpace c then skip false cs
    else if c = '#' then skip true cs
    else c :: cs

/-- Past the blanks that stand next, if the pattern is verbose. -/
def drop (verbose : Bool) (cs : List Char) : List Char := if verbose then skip false cs else cs

/-- The first character past the white space, and past one number sign, whatever ends its comment. -/
def peekPast (sign : Bool) : List Char → Option Char
  | [] => none
  | c :: cs =>
    if Unicode.isWhiteSpace c then peekPast sign cs
    else if c = '#' && !sign then peekPast true cs
    else some c

/-- The character that decides whether a hyphen makes a range. -/
def peek (verbose : Bool) (cs : List Char) : Option Char :=
  if verbose then peekPast false cs <|> cs.head? else cs.head?

/-- The characters that satisfy `p`, with blanks between them if the pattern is verbose, and the
text from the first other one. -/
def span (verbose : Bool) (p : Char → Bool) (comment : Bool) : List Char → List Char × List Char
  | [] => ([], [])
  | c :: cs =>
    if comment then span verbose p (c != '\n') cs
    else if verbose && Unicode.isWhiteSpace c then span verbose p false cs
    else if verbose && c = '#' then span verbose p true cs
    else if p c then
      let found := span verbose p false cs
      (c :: found.1, found.2)
    else ([], c :: cs)

end Blank

end GoScan
