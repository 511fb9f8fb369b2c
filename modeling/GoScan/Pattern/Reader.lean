import GoScan.Pattern.Automaton
import GoScan.Pattern.Bracket

/-!
From the written form of a pattern to its outline, and from there to the pattern. A written pattern
is read from left to right with a stack of the groups that are open; flags count from where they
are set to the end of the group around them.
-/

namespace GoScan

/-- An outline that has been read, and how deep its parts nest in the written form. -/
structure Piece where
  outline : Outline
  depth : Nat

namespace Piece

def leaf (o : Outline) : Piece := ⟨o, 0⟩

/-- The piece as a group, which has a number if it remembers what it matched. -/
def grouped (p : Piece) (number : Option Nat) : Piece :=
  ⟨number.elim p.outline (.group · p.outline), p.depth + 1⟩

def maxDepth (pieces : List Piece) : Nat := pieces.foldl (fun d p => max d p.depth) 0

end Piece

/-- An element of a sequence; a setting of flags matches nothing and cannot be repeated. -/
inductive Item where
  | piece (p : Piece)
  | setting

namespace Item

def piece? : Item → Option Piece
  | piece p => some p
  | setting => none

/-- The items, last first, one after another. -/
def sequence (items : List Item) : Piece :=
  let pieces := items.reverse.filterMap piece?
  let inside := Piece.maxDepth pieces
  let outline := match pieces with
    | [p] => p.outline
    | _ => .cat (pieces.map Piece.outline)
  ⟨outline, if 2 ≤ items.length then inside + 1 else inside⟩

end Item

/-- A group under way: the alternatives that are finished and the items of the present one, each
last first. -/
structure Level where
  branches : List Piece
  items : List Item

namespace Level

def start : Level := ⟨[], []⟩

def add (l : Level) (o : Outline) : Level := { l with items := .piece (.leaf o) :: l.items }

def addPiece (l : Level) (p : Piece) : Level := { l with items := .piece p :: l.items }

/-- Ends the present alternative. -/
def bar (l : Level) : Level := ⟨Item.sequence l.items :: l.branches, []⟩

def close (l : Level) : Piece :=
  match l.branches with
  | [] => Item.sequence l.items
  | _ =>
    let branches := l.bar.branches.reverse
    ⟨.alt (branches.map Piece.outline), Piece.maxDepth branches + 1⟩

end Level

namespace Pattern

/-- The most levels that a written pattern may nest. -/
def maxDepth : Nat := 250

end Pattern

namespace Reader

/-- A group that is open: what stands around it, and its number if it remembers what it matched. -/
structure Open where
  flags : Flags
  level : Level
  number : Option Nat

structure State where
  flags : Flags
  level : Level
  /-- The open groups, innermost first. -/
  outer : List Open
  /-- Names of groups, which must differ. -/
  names : List (List Char)
  /-- The number of groups so far that remember what they matched. -/
  groups : Nat

def State.start : State := ⟨.none, .start, [], [], 0⟩

abbrev Reading (α : Type) := Except PatternError (α × List Char)

/-- The digits of a count; white space around it is free. -/
def readCount (verbose : Bool) (cs : List Char) : Except PatternError (Option Nat) × List Char :=
  let (digits, rest) := Blank.span verbose Char.isDigit false (cs.dropWhile Unicode.isWhiteSpace)
  let rest := rest.dropWhile Unicode.isWhiteSpace
  let n := digits.foldl (fun n d => 10 * n + (d.toNat - '0'.toNat)) 0
  if digits.isEmpty then (.ok none, rest)
  else if n < UInt32.size then (.ok (some n), rest)
  else (.error .badCount, rest)

/-- Reads `n}`, `n,}` or `n,m}`: the least and the greatest number of times. -/
def readCounts (verbose : Bool) (cs : List Char) : Reading (Nat × Option Nat) :=
  match readCount verbose (Blank.drop verbose cs) with
  | (.error e, _) => .error e
  | (.ok none, _) => .error .badCount
  | (.ok (some low), '}' :: rest) => .ok ((low, some low), rest)
  | (.ok (some low), ',' :: rest) =>
    match Blank.drop verbose rest with
    | '}' :: rest => .ok ((low, none), rest)
    | rest =>
      match readCount verbose rest with
      | (.ok (some high), '}' :: rest) =>
        if low ≤ high then .ok ((low, some high), rest) else .error .badCount
      | _ => .error .badCount
  | _ => .error .badCount

/-- The question mark that makes a repetition lazy. -/
def readLazy (cs : List Char) : Bool × List Char :=
  match cs with
  | '?' :: rest => (true, rest)
  | _ => (false, cs)

/-- Repeats the last item. -/
def State.repeated (s : State) (lazily : Bool) (low : Nat) (high : Option Nat) :
    Except PatternError State :=
  match s.level.items with
  | .piece p :: items =>
    let greedy := lazily == s.flags.swapGreed
    let repeated := ⟨.repeated greedy low high p.outline, p.depth + 1⟩
    .ok { s with level := { s.level with items := .piece repeated :: items } }
  | _ => .error .nothingToRepeat

/-- Reads the name of a group up to the closing angle bracket. -/
def readName (cs : List Char) : Reading (List Char) :=
  match cs.span (· != '>') with
  | (first :: name, '>' :: rest) =>
    if (first = '_' ∨ Unicode.isAlphabetic first) ∧
        name.all fun c => c = '_' || c = '.' || c = '[' || c = ']' || Unicode.isAlphanumeric c then
      .ok (first :: name, rest)
    else .error .badGroupName
  | _ => .error .badGroupName

/-- Reads flags up to the colon that opens a group (`false`) or the bracket that ends the setting
(`true`). `seen` holds the letters so far, `negated` tells of a hyphen, and `dangling` that it came
last. -/
def readFlags (seen : List Char) (negated dangling : Bool) (flags : Flags) :
    List Char → Reading (Flags × Bool)
  | [] => .error .unclosedGroup
  | c :: cs =>
    if c = ':' then if dangling then .error .badFlags else .ok ((flags, false), cs)
    else if c = ')' then
      if dangling || seen.isEmpty then .error .badFlags else .ok ((flags, true), cs)
    else if c = '-' then
      if negated then .error .badFlags else readFlags seen true true flags cs
    else if seen.contains c then .error .badFlags
    else match flags.set? c (!negated) with
      | none => .error .badFlags
      | some flags => readFlags (c :: seen) negated false flags cs

namespace State

/-- Opens a group in which `flags` are in force. -/
def enter (s : State) (flags : Flags) (number : Option Nat) : State :=
  { s with flags := flags, level := .start, outer := ⟨s.flags, s.level, number⟩ :: s.outer }

/-- Opens a group that remembers what it matched. -/
def enterNumbered (s : State) : State :=
  let number := s.groups + 1
  { s.enter s.flags (some number) with groups := number }

/-- Reads what follows the opening bracket of a group. -/
def openGroup (s : State) (cs : List Char) : Reading State :=
  let named (cs : List Char) : Reading State :=
    match readName cs with
    | .error e => .error e
    | .ok (name, rest) =>
      if s.names.contains name then .error .badGroupName
      else .ok ({ s.enterNumbered with names := name :: s.names }, rest)
  match Blank.drop s.flags.verbose cs with
  | '?' :: '=' :: _ | '?' :: '!' :: _ | '?' :: '<' :: '=' :: _ | '?' :: '<' :: '!' :: _ =>
    .error .lookAround
  | '?' :: 'P' :: '<' :: rest | '?' :: '<' :: rest => named rest
  | '?' :: rest =>
    match readFlags [] false false s.flags rest with
    | .error e => .error e
    | .ok ((flags, true), rest) =>
      .ok ({ s with flags := flags, level := { s.level with items := .setting :: s.level.items } }, rest)
    | .ok ((flags, false), rest) => .ok (s.enter flags none, rest)
  | rest => .ok (s.enterNumbered, rest)

def closeGroup (s : State) : Except PatternError State :=
  match s.outer with
  | [] => .error .unopenedGroup
  | group :: outer =>
    let level := group.level.addPiece (s.level.close.grouped group.number)
    .ok { s with flags := group.flags, level := level, outer := outer }

def add (s : State) (o : Outline) : State := { s with level := s.level.add o }

end State

def ofSet (flags : Flags) (s : CharSet) : Outline := if flags.ascii then .asciiSet s else .set s

/-- The outline of a single element under the flags in force. -/
def ofElement (flags : Flags) : Element → Outline
  | .char c => ofSet flags (flags.fold (.single c))
  | .set s => ofSet flags s
  | .anchor a => .anchor a

/-- Where ASCII is meant, any byte could be one that is no text. -/
def dot (flags : Flags) : Except PatternError CharSet :=
  if flags.ascii then .error .notText
  else if flags.dotAll then .ok .any
  else if flags.returns then .ok (.compl (.ofChars ['\n', '\r']))
  else .ok (.compl (.single '\n'))

def caret (flags : Flags) : Anchor :=
  if !flags.multiLine then .textStart
  else if flags.returns then .returnLineStart else .lineStart

def dollar (flags : Flags) : Anchor :=
  if !flags.multiLine then .textEnd
  else if flags.returns then .returnLineEnd else .lineEnd

variable [PatternLibrary]

/-- Reads one part of a pattern, which starts with `c`. -/
def step (s : State) (c : Char) (cs : List Char) : Reading State :=
  match c with
  | '(' => s.openGroup cs
  | ')' => s.closeGroup.map (·, cs)
  | '|' => .ok ({ s with level := s.level.bar }, cs)
  | '[' =>
    (Bracket.read s.flags cs).map fun (found, rest) =>
      ({ s with level := s.level.addPiece ⟨ofSet s.flags found.set, found.depth⟩ }, rest)
  | '?' =>
    let (lazily, rest) := readLazy cs
    (s.repeated lazily 0 (some 1)).map (·, rest)
  | '*' =>
    let (lazily, rest) := readLazy cs
    (s.repeated lazily 0 none).map (·, rest)
  | '+' =>
    let (lazily, rest) := readLazy cs
    (s.repeated lazily 1 none).map (·, rest)
  | '{' =>
    match readCounts s.flags.verbose cs with
    | .error e => .error e
    | .ok ((low, high), rest) =>
      let (lazily, rest) := readLazy (Blank.drop s.flags.verbose rest)
      (s.repeated lazily low high).map (·, rest)
  | '\\' => (Escape.read s.flags cs).map fun (element, rest) => (s.add (ofElement s.flags element), rest)
  | '.' => (dot s.flags).map fun any => (s.add (.set any), cs)
  | '^' => .ok (s.add (.anchor (caret s.flags)), cs)
  | '$' => .ok (s.add (.anchor (dollar s.flags)), cs)
  | c => .ok (s.add (ofElement s.flags (.char c)), cs)

/-- Reads part after part. Each has at least one character, so that `fuel` may be their number. -/
def run : (fuel : Nat) → State → List Char → Except PatternError State
  | 0, s, _ => .ok s
  | fuel + 1, s, cs =>
    match Blank.drop s.flags.verbose cs with
    | [] => .ok s
    | c :: cs =>
      match step s c cs with
      | .error e => .error e
      | .ok (s, rest) => run fuel s rest

end Reader

variable [PatternLibrary]

/-- The outline that `text` writes. -/
def Outline.read (text : List Char) : Except PatternError Outline :=
  match Reader.run text.length .start text with
  | .error e => .error e
  | .ok s =>
    if !s.outer.isEmpty then .error .unclosedGroup
    else
      let whole := s.level.close
      if Pattern.maxDepth < whole.depth then .error .tooDeep else .ok whole.outline

namespace Pattern

/-- The pattern that `text` writes. -/
def read (text : List Char) : Except PatternError Pattern :=
  match Outline.read text with
  | .error e => .error e
  | .ok o => if o.fits then .ok o.pattern else .error .tooLarge

/-- The written form of a pattern that has to match at the start of the text. The text is put in
as it is, so that brackets in it can pair with those around it. -/
def anchored (text : List Char) : List Char := ['^', '(', '?', ':'] ++ text ++ [')']

end Pattern

end GoScan
