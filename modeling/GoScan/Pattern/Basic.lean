import GoScan.Pattern.CharSet

/-!
Patterns, and the ways in which one can begin to match at a place. Choice is ordered: what stands
first is preferred, a greedy repetition prefers another round and a lazy one prefers to stop.

`Pattern.lead` gives all ways to begin, in order of preference. Those that read a character say what
is left to match after it; at most one reads nothing.
-/

namespace GoScan

/-- A condition on the two sides of a place: a word character stands there, or none does. -/
inductive WordAnchor where
  | boundary | notBoundary
  | start | stop
  /-- No word character before, or none after; the other side is free. -/
  | startHalf | stopHalf
deriving DecidableEq, Repr

def WordAnchor.holds : WordAnchor → (left right : Bool) → Bool
  | boundary, left, right => left != right
  | notBoundary, left, right => left == right
  | start, left, right => !left && right
  | stop, left, right => left && !right
  | startHalf, left, _ => !left
  | stopHalf, _, right => !right

/-- A condition on a place in the text. -/
inductive Anchor where
  | textStart | textEnd
  | lineStart | lineEnd
  /-- The line conditions where a carriage return ends a line too, alone or before a newline. -/
  | returnLineStart | returnLineEnd
  /-- By the words of ASCII, or by those of all characters. -/
  | word (ascii : Bool) (a : WordAnchor)
deriving DecidableEq, Repr

/-- A place between two characters, one of which is missing at either end of the text. -/
structure Gap where
  left : Option Char
  right : Option Char

def isWordIn (ascii : Bool) (c : Char) : Bool :=
  if ascii then c.isAlphanum || c = '_' else Unicode.isPatternWord c

def Anchor.holds : Anchor → Gap → Bool
  | textStart, g => g.left.isNone
  | textEnd, g => g.right.isNone
  | lineStart, g => g.left.all (· = '\n')
  | lineEnd, g => g.right.all (· = '\n')
  | returnLineStart, g => g.left.all fun c => c = '\n' || c = '\r' && g.right != some '\n'
  | returnLineEnd, g => g.right.all fun c => c = '\r' || c = '\n' && g.left != some '\r'
  | word ascii a, g => a.holds (g.left.any (isWordIn ascii)) (g.right.any (isWordIn ascii))

inductive Pattern where
  | empty
  | set (s : CharSet)
  | anchor (a : Anchor)
  | cat (p q : Pattern)
  | alt (p q : Pattern)
  /-- Any number of rounds, each of which reads something. -/
  | star (greedy : Bool) (p : Pattern)
  /-- One round, which may read nothing and is then the last, and any number of further rounds. -/
  | plus (greedy : Bool) (p : Pattern)
deriving DecidableEq, Repr

/-- What is still to be matched, one pattern after another. -/
abbrev Rest := List Pattern

/-- A way to begin: read a character of `set`, then match `rest`. -/
structure Branch where
  set : CharSet
  rest : Rest

/-- A way to begin, or the way that reads nothing. -/
inductive Way where
  | read (b : Branch)
  | pass

namespace Way

def isPass : Way → Bool
  | pass => true
  | read _ => false

end Way

/-- Ways in order of preference, of which at most one reads nothing. -/
abbrev Lead := List Way

namespace Lead

def passes (l : Lead) : Bool := l.any Way.isPass

/-- `first`, and `second` in place of the way that reads nothing. -/
def andThen (first second : Lead) : Lead :=
  first.flatMap fun
    | .pass => second
    | way => [way]

/-- `first` preferred to `second`. Of two ways that read nothing the first stays. -/
def orElse (first second : Lead) : Lead :=
  if first.passes then first ++ second.filter (!·.isPass) else first ++ second

/-- The ways preferred to the one that reads nothing. -/
def reads : Lead → List Branch
  | .read b :: ways => b :: reads ways
  | _ => []

end Lead

namespace Pattern

/-- The ways in which `p` can begin at gap `g`, when `rest` has to follow. -/
def lead (g : Gap) : Pattern → Rest → Lead
  | empty, _ => [.pass]
  | set s, rest => [.read ⟨s, rest⟩]
  | anchor a, _ => if a.holds g then [.pass] else []
  | cat p q, rest =>
    let first := lead g p (q :: rest)
    if first.passes then first.andThen (lead g q rest) else first
  | alt p q, rest => (lead g p rest).orElse (lead g q rest)
  | star greedy p, rest =>
    let round := (lead g p (star greedy p :: rest)).filter (!·.isPass)
    if greedy then round ++ [.pass] else .pass :: round
  | plus greedy p, rest => lead g p (star greedy p :: rest)

/-- The ways in which a sequence can begin. -/
def leadAll (g : Gap) : Rest → Lead
  | [] => [.pass]
  | p :: rest =>
    let first := lead g p rest
    if first.passes then first.andThen (leadAll g rest) else first

/-- The pattern can match at the start of the text only. -/
def atStartOnly : Pattern → Bool
  | anchor .textStart => true
  | cat p _ => p.atStartOnly
  | alt p q => p.atStartOnly && q.atStartOnly
  | _ => false

/-- The patterns one after another. -/
def seq (ps : List Pattern) : Pattern :=
  match ps.reverse with
  | [] => empty
  | last :: before => before.foldl (fun p q => cat q p) last

/-- Any of the patterns, preferring those in front. -/
def oneOf (ps : List Pattern) : Pattern :=
  match ps.reverse with
  | [] => empty
  | last :: before => before.foldl (fun p q => alt q p) last

def optional (greedy : Bool) (p : Pattern) : Pattern :=
  if greedy then alt p empty else alt empty p

/-- The pattern can match without reading, at some place. -/
def mayPass : Pattern → Bool
  | set _ => false
  | cat p q => p.mayPass && q.mayPass
  | alt p q => p.mayPass || q.mayPass
  | plus _ p => p.mayPass
  | _ => true

/-- `p` any number of times. A first round that reads nothing is preferred where it stands among
the ways to begin `p`. -/
def many (greedy : Bool) (p : Pattern) : Pattern :=
  if p.mayPass then optional greedy (plus greedy p) else star greedy p

/-- `p` up to `n` times, the last of them around `inner`: each round stands inside the one before. -/
def nest (greedy : Bool) (p inner : Pattern) : Nat → Pattern
  | 0 => inner
  | n + 1 => nest greedy p (optional greedy (cat p inner)) n

/-- `p` at most `n` times. -/
def atMost (greedy : Bool) (p : Pattern) : Nat → Pattern
  | 0 => empty
  | n + 1 => nest greedy p (optional greedy p) n

/-- `p` exactly `n` times, then `last`. -/
def times (p last : Pattern) : Nat → Pattern
  | 0 => last
  | n + 1 => times p (cat p last) n

/-- `p` at least `low` times, and at most `high` times if there is a bound. -/
def counted (greedy : Bool) (p : Pattern) (low : Nat) (high : Option Nat) : Pattern :=
  match low, high with
  | 0, none => many greedy p
  | low + 1, none => times p (plus greedy p) low
  | 0, some high => atMost greedy p high
  | low + 1, some high =>
    if high ≤ low + 1 then times p p low else times p (atMost greedy p (high - low - 1)) (low + 1)

end Pattern

end GoScan
