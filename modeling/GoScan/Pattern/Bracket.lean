import GoScan.Pattern.Escape

/-!
Character classes in brackets: single characters, ranges, escapes and further classes, with the
set operations `&&`, `--` and `~~`, which bind less than standing side by side and group to the
left.
-/

namespace GoScan

inductive SetOperator where
  | inter | diff | symmDiff

namespace SetOperator

def apply : SetOperator → CharSet → CharSet → CharSet
  | inter, a, b => .inter a b
  | diff, a, b => .diff a b
  | symmDiff, a, b => .symmDiff a b

end SetOperator

/-- A set that has been read, and how deep the classes nest in it. -/
structure Nested where
  set : CharSet
  depth : Nat

/-- A class whose closing bracket has not been read. -/
structure Bracket where
  negated : Bool
  /-- What stands to the left of the last operator, and the operator. -/
  left : Option (Nested × SetOperator)
  /-- What stands to its right so far: the union, the number of its members. -/
  right : Nested
  count : Nat

namespace Bracket

def start (negated : Bool) : Bracket := ⟨negated, none, ⟨.empty, 0⟩, 0⟩

def add (b : Bracket) (item : Nested) : Bracket :=
  { b with
    right := ⟨if b.count = 0 then item.set else .union b.right.set item.set, max b.right.depth item.depth⟩
    count := b.count + 1 }

def addSet (b : Bracket) (s : CharSet) : Bracket := b.add ⟨s, 0⟩

/-- All that has been read of the class, as one set. Operands are folded before the operation. -/
def total (b : Bracket) (flags : Flags) : Nested :=
  let right := ⟨b.right.set, if 2 ≤ b.count then b.right.depth + 1 else b.right.depth⟩
  match b.left with
  | none => right
  | some (left, op) =>
    ⟨op.apply (flags.fold left.set) (flags.fold right.set), max left.depth right.depth + 1⟩

def operator (b : Bracket) (flags : Flags) (op : SetOperator) : Bracket :=
  ⟨b.negated, some (b.total flags, op), ⟨.empty, 0⟩, 0⟩

def close (b : Bracket) (flags : Flags) : Except PatternError Nested :=
  let inside := b.total flags
  (flags.foldThenNegate b.negated inside.set).map (⟨·, inside.depth + 1⟩)

/-- Reads what follows an opening bracket up to the first ordinary member: the negation, hyphens,
and a closing bracket that comes first and so is a member. -/
def readOpening (verbose : Bool) (cs : List Char) : Except PatternError (Bracket × List Char) :=
  let cs := Blank.drop verbose cs
  let (negated, cs) := match cs with
    | '^' :: rest => (true, Blank.drop verbose rest)
    | _ => (false, cs)
  let (hyphens, cs) := Blank.span verbose (· = '-') false cs
  let b := hyphens.foldl (fun b c => b.addSet (.single c)) (start negated)
  match cs with
  | [] => .error .unclosedClass
  | c :: rest =>
    if c = ']' ∧ hyphens.isEmpty then
      match Blank.drop verbose rest with
      | [] => .error .unclosedClass
      | rest => .ok (b.addSet (.single ']'), rest)
    else .ok (b, cs)

variable [PatternLibrary]

/-- Reads a named ASCII class such as `[:alpha:]` past its opening bracket. -/
def asciiClass? (flags : Flags) : List Char → Option (Except PatternError CharSet × List Char)
  | ':' :: cs =>
    let (negated, cs) := match cs with
      | '^' :: rest => (true, rest)
      | _ => (false, cs)
    match cs.span (· != ':') with
    | (name, ':' :: ']' :: rest) =>
      (CharSet.ofAsciiClass? (String.ofList name)).map fun s => (flags.foldThenNegate negated s, rest)
    | _ => none
  | _ => none

def readAny (flags : Flags) : List Char → Except PatternError (Element × List Char)
  | [] => .error .unclosedClass
  | '\\' :: cs => Escape.read flags cs
  | c :: cs => .ok (.char c, cs)

def readElement (flags : Flags) (cs : List Char) : Except PatternError (Element × List Char) :=
  match readAny flags cs with
  | .error e => .error e
  | .ok (element, rest) =>
    if element.isWithin flags then .ok (element, rest) else .error .beyondAscii

/-- Reads one member: a range, or a single element. A hyphen before a closing bracket or another
hyphen makes no range. -/
def readMember (flags : Flags) (cs : List Char) : Except PatternError (CharSet × List Char) := do
  let (first, rest) ← readElement flags cs
  match Blank.drop flags.verbose rest with
  | [] => .error .unclosedClass
  | c :: rest =>
    let next := Blank.peek flags.verbose rest
    if c = '-' ∧ next ≠ some ']' ∧ next ≠ some '-' then
      match first, ← readElement flags (Blank.drop flags.verbose rest) with
      | .char low, (.char high, rest) =>
        if low ≤ high then .ok (.range low high, rest) else .error .badRange
      | _, _ => .error .badRange
    else
      match first with
      | .char a => .ok (.single a, c :: rest)
      | .set s => .ok (s, c :: rest)
      | .anchor _ => .error .badClassItem

/-- Reads to the end of the outermost class, of which `b` is the innermost class under way and
`outer` the ones around it. Each step reads a character, so that `fuel` may be their number. -/
def readRest (flags : Flags) :
    (fuel : Nat) → (b : Bracket) → (outer : List Bracket) → List Char →
      Except PatternError (Nested × List Char)
  | 0, _, _, _ => .error .unclosedClass
  | fuel + 1, b, outer, cs =>
    match Blank.drop flags.verbose cs with
    | [] => .error .unclosedClass
    | '[' :: cs =>
      match asciiClass? flags cs with
      | some (.error e, _) => .error e
      | some (.ok s, rest) => readRest flags fuel (b.addSet s) outer rest
      | none =>
        match readOpening flags.verbose cs with
        | .error e => .error e
        | .ok (inner, rest) => readRest flags fuel inner (b :: outer) rest
    | ']' :: cs =>
      match b.close flags, outer with
      | .error e, _ => .error e
      | .ok closed, [] => .ok (closed, cs)
      | .ok closed, around :: outer => readRest flags fuel (around.add closed) outer cs
    | '&' :: '&' :: cs => readRest flags fuel (b.operator flags .inter) outer cs
    | '-' :: '-' :: cs => readRest flags fuel (b.operator flags .diff) outer cs
    | '~' :: '~' :: cs => readRest flags fuel (b.operator flags .symmDiff) outer cs
    | cs =>
      match readMember flags cs with
      | .error e => .error e
      | .ok (s, rest) => readRest flags fuel (b.addSet s) outer rest

/-- Reads a class past its opening bracket. -/
def read (flags : Flags) (cs : List Char) : Except PatternError (Nested × List Char) :=
  match readOpening flags.verbose cs with
  | .error e => .error e
  | .ok (b, rest) => readRest flags (rest.length + 1) b [] rest

end Bracket

end GoScan
