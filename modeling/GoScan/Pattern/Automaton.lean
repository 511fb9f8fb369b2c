import GoScan.Pattern.Shape
import GoScan.Text.ByteRanges
import Std.Data.HashMap

/-!
The memory that the automata of a pattern take: one reads a text byte by byte from a match's start
to its end, the other from its end to its start. A pattern fits if neither takes more than a limit.

Counted rounds are built one by one, and so is every set of characters. The automaton that reads
towards the start shares states through a table of limited size, for which the numbers of its
states matter.
-/

namespace GoScan

open Text (ByteRange ByteSequence byteSequences)
open Unicode (CodeRanges)

/-- What an automaton consists of: its states, the transitions of those that have a list of them,
and the ways that lead to a state without reading. -/
structure Tally where
  states : Nat
  transitions : Nat
  ways : Nat
deriving DecidableEq, Repr

namespace Tally

/-- The most memory that an automaton may take, in bytes. -/
def limit : Nat := 10 * 1024 * 1024

def bytes (t : Tally) : Nat := 32 * t.states + 8 * t.transitions + 4 * t.ways

def fits (t : Tally) : Bool := t.bytes ≤ limit

def zero : Tally := ⟨0, 0, 0⟩

def ofStates (n : Nat) : Tally := ⟨n, 0, 0⟩

instance : Add Tally where
  add t u := ⟨t.states + u.states, t.transitions + u.transitions, t.ways + u.ways⟩

def sum (ts : List Tally) : Tally := ts.foldl (· + ·) zero

def times (n : Nat) (t : Tally) : Tally := ⟨n * t.states, n * t.transitions, n * t.ways⟩

end Tally

/-- How a repetition is built: rounds without a choice, some states, rounds that each have a choice
before them, and what closes it. -/
structure Rounds where
  plain : Nat
  between : Nat
  optional : Nat
  last : Tally

/-- A state with two ways on. -/
def Rounds.fork : Tally := ⟨1, 0, 2⟩

/-- The rounds of a repetition; `reads` tells that a round cannot be empty. -/
def Rounds.of (reads : Bool) (low : Nat) (high : Option Nat) : Rounds :=
  match low, high with
  | 0, none => if reads then ⟨0, 0, 1, .zero⟩ else ⟨1, 0, 0, fork + fork + .ofStates 1⟩
  | low, none => ⟨low, 0, 0, fork⟩
  | 0, some 1 => ⟨0, 0, 1, .ofStates 1⟩
  | low, some high =>
    ⟨low, if low = high then 0 else if low = 0 then 2 else 1, high - low, .zero⟩

namespace Automaton

/-- The groups of neighbouring sequences that start with one range, without that range. -/
def branches (sequences : List ByteSequence) : List (ByteRange × List ByteSequence) :=
  sequences.foldr (fun sequence groups =>
    match sequence, groups with
    | r :: rest, (first, rests) :: groups =>
      if r = first then (first, rest :: rests) :: groups
      else (r, [rest]) :: (first, rests) :: groups
    | r :: rest, [] => [(r, [rest])]
    | [], groups => groups) []

/-- What can be left to read inside a set, after up to `depth` bytes. -/
def leftToRead : (depth : Nat) → List (List ByteSequence) → List (List ByteSequence)
  | 0, _ => []
  | depth + 1, nodes =>
    let next := nodes.flatMap fun node => (branches node).map Prod.snd
    nodes ++ leftToRead depth (next.filter (· ≠ [[]]))

def sequencesOf (members : CodeRanges) : List ByteSequence :=
  members.flatMap fun r => byteSequences r.low r.high

def isAscii (members : CodeRanges) : Bool := members.all (·.high < 0x80)

/-- A set of single bytes, in either direction. -/
def asciiSet (members : CodeRanges) : Tally := ⟨2, members.length, 0⟩

/-- A set read forwards: a state for each way in which it can go on. -/
def setForwards (members : CodeRanges) : Tally :=
  let nodes := (leftToRead 4 [sequencesOf members]).eraseDups
  .ofStates 1 + .sum (nodes.map fun node => ⟨1, (branches node).length, 0⟩)

/-- A state that reads a byte of `range` and goes on to the state `next`. -/
structure Shared where
  next : Nat
  range : ByteRange
  number : Nat

/-- The place of such a state in the table. -/
def Shared.place (next : Nat) (range : ByteRange) : Nat :=
  let mix (hash value : UInt64) : UInt64 := (hash ^^^ value) * 0x100000001B3
  let values := [UInt64.ofNat next, range.low.toUInt64, range.high.toUInt64]
  (values.foldl mix 0xCBF29CE484222325).toNat % 1000

/-- A set read backwards, behind the states of `t`: every sequence of bytes is built from its first
byte, with the states that stand in the table and a new one where none stands. A new one takes
the place of what stood there. -/
def setBackwards (members : CodeRanges) (t : Tally) : Tally :=
  let step (built : Tally × Std.HashMap Nat Shared × Nat) (r : ByteRange) :=
    let (t, table, next) := built
    let place := Shared.place next r
    match table[place]?.filter fun s => s.next = next && s.range = r with
    | some shared => (t, table, shared.number)
    | none => (t + .ofStates 1, table.insert place ⟨next, r, t.states⟩, t.states)
  let add (built : Tally × Std.HashMap Nat Shared) (sequence : ByteSequence) :=
    let (t, table, _) := sequence.foldl step (built.1, built.2, t.states + 1)
    (t + ⟨0, 0, 1⟩, table)
  ((sequencesOf members).foldl add (t + .ofStates 2, ∅)).1

/-- The words in front of and between the empty ones. -/
def segments : List (List UInt8) → List (List (List UInt8))
  | [] => [[]]
  | [] :: words => [] :: segments words
  | word :: words =>
    match segments words with
    | [] => [[word]]
    | first :: others => (word :: first) :: others

/-- The states that tell words apart, where some have been read up to here; words are at most
`depth` bytes long. A word that ends here cuts those before it from those after it. -/
def wordsFrom : (depth : Nat) → List (List UInt8) → Tally
  | 0, _ => .zero
  | depth + 1, words =>
    if words.all List.isEmpty then .zero
    else
      let endsHere := (words.dropWhile List.isEmpty).countP List.isEmpty
        + if words.head? = some [] then 1 else 0
      let parts := (segments words).filter (!·.isEmpty)
      let part (words : List (List UInt8)) : Tally :=
        let firsts := (words.filterMap List.head?).eraseDups
        let rests (b : UInt8) := (words.filter (·.head? = some b)).map List.tail
        ⟨1, if firsts.length = 1 then 0 else firsts.length, 0⟩
          + .sum (firsts.map fun b => wordsFrom depth (rests b))
      let ways := parts.length + endsHere
      .sum (parts.map part) + if ways = 1 then .zero else ⟨1, 0, ways⟩

/-- A choice between words. -/
def words (words : List (List UInt8)) : Tally :=
  .ofStates 1 + wordsFrom (words.foldl (fun n word => max n word.length) 1) words

end Automaton

namespace Shape

def literal? : Shape → Option (List UInt8)
  | literal text => some (text.flatMap String.utf8EncodeChar)
  | _ => none

/-- A round of the shape cannot be empty. -/
def reads (s : Shape) : Bool := s.least?.any (0 < ·)

/-- The part of the automaton that reads forwards. -/
def forwards : Shape → Tally
  | empty | anchor _ => .ofStates 1
  | literal text => .ofStates (text.flatMap String.utf8EncodeChar).length
  | set _ members =>
    if Automaton.isAscii members then Automaton.asciiSet members else Automaton.setForwards members
  | group _ s => s.forwards + .ofStates 2
  | cat ss => .sum (ss.map fun s => s.forwards)
  | alt ss =>
    match ss.mapM literal? with
    | some words => Automaton.words words
    | none => .sum (ss.map fun s => s.forwards) + ⟨2, 0, ss.length⟩
  | repeated _ low high s =>
    let rounds := Rounds.of s.reads low high
    s.forwards.times (rounds.plain + rounds.optional) + .ofStates rounds.between
      + Rounds.fork.times rounds.optional + rounds.last

/-- Builds a part of an automaton behind what is there already, as long as all fits. -/
abbrev Builder := Tally → Option Tally

namespace Builder

def ofFunction (build : Tally → Tally) : Builder := fun t => some (build t) |>.filter Tally.fits

/-- Adds a part whose size does not depend on what is there. -/
def add (part : Tally) : Builder := ofFunction (· + part)

def inTurn (builders : List Builder) : Builder := fun t => builders.foldlM (fun t build => build t) t

def iterate (build : Builder) : Nat → Builder
  | 0, t => some t
  | n + 1, t =>
    match build t with
    | some t => iterate build n t
    | none => none

end Builder

/-- The part of the automaton that reads backwards. -/
def backwards : Shape → Builder
  | empty | anchor _ => .add (.ofStates 1)
  | literal text => .add (.ofStates (text.flatMap String.utf8EncodeChar).length)
  | set _ members =>
    if Automaton.isAscii members then .add (Automaton.asciiSet members)
    else .ofFunction (Automaton.setBackwards members)
  | group _ s => s.backwards
  | cat ss => .inTurn (ss.map fun s => s.backwards).reverse
  | alt ss =>
    match ss.mapM literal? with
    | some words => .add (Automaton.words (words.map List.reverse))
    | none =>
      let each := ss.map fun s => s.backwards
      .inTurn (each.take 2 ++ [.add (.ofStates 2)] ++ each.drop 2 ++ [.add ⟨0, 0, ss.length⟩])
  | repeated _ low high s =>
    let rounds := Rounds.of s.reads low high
    let round : Builder := s.backwards
    .inTurn [round.iterate rounds.plain, .add (.ofStates rounds.between),
      Builder.iterate (.inTurn [.add Rounds.fork, round]) rounds.optional, .add rounds.last]

/-- What stands before the shape: bytes are skipped unless a match is bound to the place where
reading starts. -/
def entry (bound : Bool) : Tally := if bound then .ofStates 1 else ⟨3, 1, 2⟩

/-- Both automata fit. The one that reads forwards remembers where the whole match starts and
ends; either has a last state. -/
def fits (s : Shape) : Bool :=
  (entry (s.anchored false) + s.forwards + .ofStates 3).fits
    && (s.backwards (entry (s.anchored true))).any fun t => (t + .ofStates 1).fits

end Shape

/-- More than a set takes in an automaton: a single range takes up to ten states with their
transitions, and no property takes half of what is counted for it. -/
def CharSet.roughBytes : CharSet → Nat
  | empty => 0
  | range _ _ => 2048
  | property _ => 2 ^ 17
  | union a b | inter a b | diff a b => a.roughBytes + b.roughBytes
  | compl a => a.roughBytes + 2048
  | caseless (range low high) => if low = high then 2048 else 2 ^ 17
  | caseless a => a.roughBytes + 2 ^ 17

namespace Outline

mutual

/-- More than the outline takes in either automaton. -/
def roughBytes : Outline → Nat
  | empty | anchor _ => 64
  | set s | asciiSet s => s.roughBytes + 64
  | group _ o => o.roughBytes + 64
  | cat os => roughSum os + 64
  | alt os => roughSum os + 64
  | repeated _ low high o => max 1 (max low (high.getD 0)) * (o.roughBytes + 64) + 128

def roughSum : List Outline → Nat
  | [] => 0
  | o :: os => o.roughBytes + 8 + roughSum os

end

/-- The automata of the pattern fit. Most patterns are so small that they need not be built. -/
def fits (o : Outline) : Bool :=
  o.roughBytes + 512 ≤ Tally.limit ||
    let known := o.properties.eraseDups.map fun p => (p, p.ranges)
    (o.shape fun p => (known.lookup p).getD []).fits

end Outline

end GoScan
