import GoScan.Pattern.Basic
import GoScan.Pattern.Library

/-!
Escape sequences: what a backslash makes of the characters after it, and the pattern that matches
a given text and nothing else.
-/

namespace GoScan

/-- What a single element of a pattern stands for, outside and inside a character class. -/
inductive Element where
  | char (c : Char)
  | set (s : CharSet)
  | anchor (a : Anchor)

/-- Not a character beyond ASCII where ASCII is meant. -/
def Element.isWithin (flags : Flags) : Element → Bool
  | char c => !flags.ascii || c.toNat < 0x80
  | _ => true

namespace Escape

/-- The characters that mean something by themselves in some place of a pattern. -/
def isMeta (c : Char) : Bool :=
  ['\\', '.', '+', '*', '?', '(', ')', '|', '[', ']', '{', '}', '^', '$', '#', '&', '-', '~'].contains c

/-- A backslash before the character makes it stand for itself: any in ASCII that is no letter, no
digit and no angle bracket. -/
def isPlain (c : Char) : Bool := c.toNat < 0x80 && !c.isAlphanum && c != '<' && c != '>'

def hexValue? (c : Char) : Option Nat :=
  if '0' ≤ c ∧ c ≤ '9' then some (c.toNat - '0'.toNat)
  else if 'a' ≤ c ∧ c ≤ 'f' then some (c.toNat - 'a'.toNat + 10)
  else if 'A' ≤ c ∧ c ≤ 'F' then some (c.toNat - 'A'.toNat + 10)
  else none

/-- The character with the code point written in these digits. -/
def ofHex? (digits : List Char) : Except PatternError Element :=
  match digits.mapM hexValue? with
  | none | some [] => .error .badCodePoint
  | some values =>
    let n := values.foldl (16 * · + ·) 0
    if n.isValidChar then .ok (.char (Char.ofNat n)) else .error .badCodePoint

/-- Takes `count` characters, with blanks between them if the pattern is verbose. -/
def takeDigits (verbose : Bool) : Nat → List Char → Option (List Char × List Char)
  | 0, cs => some ([], cs)
  | _ + 1, [] => none
  | count + 1, c :: cs =>
    (takeDigits verbose count (Blank.drop verbose cs)).map fun taken => (c :: taken.1, taken.2)

/-- The text up to the closing brace and the text after it. -/
def braced? (verbose : Bool) (cs : List Char) : Option (List Char × List Char) :=
  match Blank.span verbose (· != '}') false cs with
  | (inside, '}' :: rest) => some (inside, rest)
  | _ => none

def codePoint (verbose : Bool) (digits : Nat) (cs : List Char) :
    Except PatternError (Element × List Char) :=
  let taken := match Blank.drop verbose cs with
    | '{' :: cs => braced? verbose cs
    | cs => takeDigits verbose digits cs
  match taken with
  | none => .error .badCodePoint
  | some (written, rest) => (ofHex? written).map (·, rest)

/-- Two digits without braces write a byte where ASCII is meant. -/
def twoDigits (flags : Flags) (cs : List Char) : Except PatternError (Element × List Char) :=
  let braced := (Blank.drop flags.verbose cs).head? = some '{'
  match codePoint flags.verbose 2 cs with
  | .error e => .error e
  | .ok (element, rest) =>
    if braced || element.isWithin flags then .ok (element, rest) else .error .notText

/-- The set that is written of a property. -/
def propertySet [PatternLibrary] (flags : Flags) (negated : Bool) (written : List Char) :
    Except PatternError CharSet :=
  if flags.ascii then .error .beyondAscii
  else
    match PatternLibrary.property? written with
    | none => .error .badProperty
    | some s => flags.foldThenNegate negated s

def property [PatternLibrary] (flags : Flags) (negated : Bool) (cs : List Char) :
    Except PatternError (Element × List Char) :=
  let taken := match Blank.drop flags.verbose cs with
    | '{' :: cs => braced? flags.verbose cs
    | c :: cs => some ([c], cs)
    | [] => none
  match taken with
  | none => .error .badProperty
  | some (written, rest) => (propertySet flags negated written).map (.set ·, rest)

/-- The word boundary of the kind with this name. -/
def boundaryKind? : String → Option WordAnchor
  | "start" => some .start
  | "end" => some .stop
  | "start-half" => some .startHalf
  | "end-half" => some .stopHalf
  | _ => none

/-- A word boundary, plain or of the kind named between braces. What follows an opening brace and
is neither a letter nor a hyphen is no kind: the brace then belongs to what comes next. -/
def boundary (flags : Flags) (cs : List Char) : Except PatternError (Element × List Char) :=
  let isKindChar (c : Char) : Bool := c.isAlpha || c = '-'
  match cs with
  | '{' :: inside =>
    match Blank.drop flags.verbose inside with
    | [] => .error .badBoundary
    | c :: rest =>
      if !isKindChar c then .ok (.anchor (.word flags.ascii .boundary), cs)
      else
        match Blank.span flags.verbose isKindChar false (c :: rest) with
        | (kind, '}' :: rest) =>
          match boundaryKind? (String.ofList kind) with
          | some kind => .ok (.anchor (.word flags.ascii kind), rest)
          | none => .error .badBoundary
        | _ => .error .badBoundary
  | _ => .ok (.anchor (.word flags.ascii .boundary), cs)

/-- One of the classes that have a letter: `ascii` where ASCII is meant, else `all`. -/
def letterClass (flags : Flags) (negated : Bool) (all ascii : CharSet) : Except PatternError Element :=
  let s := if flags.ascii then ascii else all
  (if negated then flags.complement s else .ok s).map .set

def digits (flags : Flags) (negated : Bool) : Except PatternError Element :=
  letterClass flags negated (.property (.category .nd)) .asciiDigits

def spaces (flags : Flags) (negated : Bool) : Except PatternError Element :=
  letterClass flags negated (.property .whiteSpace) .asciiSpaces

def words (flags : Flags) (negated : Bool) : Except PatternError Element :=
  letterClass flags negated (.property .word) .asciiWords

/-- Reads what follows a backslash. -/
def read [PatternLibrary] (flags : Flags) : List Char → Except PatternError (Element × List Char)
  | [] => .error .badEscape
  | c :: cs =>
    match c with
    | 'x' => twoDigits flags cs
    | 'u' => codePoint flags.verbose 4 cs
    | 'U' => codePoint flags.verbose 8 cs
    | 'p' => property flags false cs
    | 'P' => property flags true cs
    | 'd' => (digits flags false).map (·, cs)
    | 'D' => (digits flags true).map (·, cs)
    | 's' => (spaces flags false).map (·, cs)
    | 'S' => (spaces flags true).map (·, cs)
    | 'w' => (words flags false).map (·, cs)
    | 'W' => (words flags true).map (·, cs)
    | 'a' => .ok (.char '\x07', cs)
    | 'f' => .ok (.char '\x0C', cs)
    | 't' => .ok (.char '\t', cs)
    | 'n' => .ok (.char '\n', cs)
    | 'r' => .ok (.char '\r', cs)
    | 'v' => .ok (.char '\x0B', cs)
    | 'A' => .ok (.anchor .textStart, cs)
    | 'z' => .ok (.anchor .textEnd, cs)
    | 'B' => .ok (.anchor (.word flags.ascii .notBoundary), cs)
    | 'b' => boundary flags cs
    | '<' => .ok (.anchor (.word flags.ascii .start), cs)
    | '>' => .ok (.anchor (.word flags.ascii .stop), cs)
    | c => if isPlain c then .ok (.char c, cs) else .error .badEscape

/-- The pattern that matches `text`: a backslash before each character that would mean something. -/
def literal : List Char → List Char
  | [] => []
  | c :: cs => if isMeta c then '\\' :: c :: literal cs else c :: literal cs

end Escape

end GoScan
