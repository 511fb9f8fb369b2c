import GoScan.Pattern.Basic

/-!
Search for a pattern in a text. All matches under way are followed at once, as threads in order of
preference: earlier starts first, then the order of choices in the pattern. Once a thread has
matched, those behind it are given up. Each character is looked at once.
-/

namespace GoScan

/-- The characters from `start` up to `stop`, counted from the start of the text. -/
structure Span where
  start : Nat
  stop : Nat
deriving DecidableEq, Repr

/-- A match under way: where it started and what is left to match. -/
structure Thread where
  start : Nat
  rest : Rest

namespace Pattern

/-- The ways on for the threads at gap `g`, preferred first, and the match that ends here: behind
the first thread that has matched nothing is followed. -/
def ways (g : Gap) (place : Nat) : List Thread → List (Nat × Branch) × Option Span
  | [] => ([], none)
  | t :: threads =>
    let lead := leadAll g t.rest
    let here := lead.reads.map (t.start, ·)
    if lead.passes then (here, some ⟨t.start, place⟩)
    else
      let later := ways g place threads
      (here ++ later.1, later.2)

/-- The thread joins the others unless one of them has the same left to match. -/
def join (threads : List Thread) (t : Thread) : List Thread :=
  if threads.any (·.rest = t.rest) then threads else threads ++ [t]

/-- The threads that go on after reading `c`. -/
def advance (c : Char) (branches : List (Nat × Branch)) : List Thread :=
  ((branches.filter (·.2.set.contains c)).map fun (start, b) => ⟨start, b.rest⟩).foldl join []

/-- The search at `place`, behind the character `left`: the threads under way, the best match
so far, and the text ahead. While there is no match a new thread starts at each place. -/
def searchFrom (p : Pattern) (left : Option Char) (place : Nat) (threads : List Thread)
    (best : Option Span) : List Char → Option Span
  | [] =>
    let started := if best.isNone then threads ++ [⟨place, [p]⟩] else threads
    (ways ⟨left, none⟩ place started).2 <|> best
  | c :: cs =>
    let started := if best.isNone then threads ++ [⟨place, [p]⟩] else threads
    let (branches, hit) := ways ⟨left, some c⟩ place started
    let best := hit <|> best
    let threads := advance c branches
    if threads.isEmpty && (best.isSome || p.atStartOnly) then best
    else searchFrom p (some c) (place + 1) threads best cs

/-- The leftmost match, and of those the preferred one. -/
def find? (p : Pattern) (text : List Char) : Option Span := searchFrom p none 0 [] none text

end Pattern

end GoScan
