/-!
Text that speaks to a terminal, and the plain text that is left where no terminal reads it: escape
sequences and control characters go, blanks and all other characters stay.
-/

namespace GoScan.Text.Terminal

/-- The part of an escape sequence that the next character belongs to. -/
inductive Part where
  /-- No sequence: ordinary text. -/
  | text
  /-- Behind the escape character, and behind blanks and signs that follow it. -/
  | escape | longEscape
  /-- Up to the letter or sign that ends a control sequence. -/
  | control
  /-- The start of a device string, its parameters, and the signs behind them. -/
  | device | parameters | signs
  /-- Up to the mark that ends a string. -/
  | string
  /-- A command to the system around the terminal, which a bell ends too. -/
  | command
deriving DecidableEq, Repr

def isBlank (c : Char) : Bool := c = '\t' || c = '\n' || c = '\x0C' || c = '\r'

/-- An ASCII character between `low` and `high`. -/
def within (low high c : Char) : Bool := low ≤ c && c ≤ high

/-- A character that ordinary text keeps. -/
def isKept (c : Char) : Bool := isBlank c || within ' ' '~' c || 0x80 ≤ c.toNat

/-- The one-byte mark that ends a string is among the bytes of the character. -/
def holdsEndMark (c : Char) : Bool := (String.utf8EncodeChar c).contains 0x9C

namespace Part

/-- The part that follows an ordinary character. -/
def following (p : Part) (c : Char) : Part :=
  match p with
  | text => text
  | escape =>
    if within ' ' '/' c then longEscape
    else if c = 'P' then device
    else if c = '[' then control
    else if c = ']' then command
    else if c = 'X' || c = '^' || c = '_' then string
    else if within '0' '~' c then text
    else escape
  | longEscape => if within '0' '~' c then text else longEscape
  | control => if within '@' '~' c then text else control
  | device =>
    if within ' ' '/' c then signs
    else if within '0' '?' c then parameters
    else if within '@' '~' c then string
    else device
  | parameters =>
    if within ' ' '/' c then signs
    else if within '<' '~' c then string
    else parameters
  | signs => if within '0' '~' c then string else signs
  | string => if holdsEndMark c then text else string
  | command => if c = '\x07' then text else command

/-- The part that follows `c`: an escape character starts a sequence anywhere, and two control
characters end one anywhere. -/
def after (p : Part) (c : Char) : Part :=
  if c = '\x1B' then escape
  else if c = '\x18' || c = '\x1A' then text
  else p.following c

/-- Blanks within this part are not part of the sequence. -/
def passesBlanks : Part → Bool
  | escape | longEscape | control => true
  | _ => false

end Part

/-- Where reading stands. Behind a blank that stood inside a sequence text is shown up to the next
control character, which takes the sequence up again. -/
structure State where
  part : Part
  showing : Bool

namespace State

def start : State := ⟨.text, true⟩

def shows (s : State) (c : Char) : Bool :=
  if s.showing then isKept c else s.part.passesBlanks && isBlank c

def next (s : State) (c : Char) : State :=
  if s.shows c then ⟨if c.toNat < 0x80 then s.part else .text, true⟩
  else
    let part := s.part.after c
    ⟨part, part = .text⟩

end State

def plainFrom (s : State) : List Char → List Char
  | [] => []
  | c :: cs => if s.shows c then c :: plainFrom (s.next c) cs else plainFrom (s.next c) cs

/-- The text without what only a terminal would understand. -/
def plain (text : String) : String := String.ofList (plainFrom .start text.toList)

/-- Text that a terminal sets off from what surrounds it. -/
def emphasized (text : String) : String := "\x1B[1m" ++ text ++ "\x1B[0m"

end GoScan.Text.Terminal
