import GoScan.Pattern.Members
import GoScan.Pattern.Outline

/-!
The simplest shape of a written pattern, from which its automaton is built: neighbouring literals
are one, sequences and choices do not stand directly inside their like, a choice between single
characters is a set, and what all choices start with stands before them.
-/

namespace GoScan

inductive Shape where
  | empty
  | literal (text : List Char)
  /-- Members of the ranges: none at all, or at least two. `ascii` tells a set where ASCII is meant, of
  at least two. -/
  | set (ascii : Bool) (members : Unicode.CodeRanges)
  | anchor (a : Anchor)
  | group (number : Nat) (inside : Shape)
  | cat (parts : List Shape)
  | alt (branches : List Shape)
  | repeated (greedy : Bool) (low : Nat) (high : Option Nat) (inside : Shape)
deriving BEq, Repr

namespace Shape

/-- Whatever it matches is empty. -/
def onlyEmpty : Shape → Bool
  | empty | anchor _ => true
  | literal _ | set _ _ => false
  | cat ss | alt ss => (ss.map fun s => s.onlyEmpty).all id
  | group _ s | repeated _ _ _ s => s.onlyEmpty

/-- The least number of characters in a match, counting one for a set or a literal; none if there
is a part that nothing matches. -/
def least? : Shape → Option Nat
  | empty | anchor _ => some 0
  | literal _ => some 1
  | set _ members => if members.isEmpty then none else some 1
  | group _ s => s.least?
  | cat ss =>
    let each := ss.map fun s => s.least?
    (each.mapM id).map (·.foldl (· + ·) 0)
  | alt ss =>
    let each := ss.map fun s => s.least?
    (each.mapM id).map fun ns => ns.min?.getD 0
  | repeated _ low _ s => s.least?.map (low * ·)

/-- By its anchors, a match can only stand at the start of the text, or at its end. -/
def anchored (atEnd : Bool) : Shape → Bool
  | anchor a => a = if atEnd then .textEnd else .textStart
  | group _ s => s.anchored atEnd
  | cat ss =>
    let parts := ss.map fun s => (s.anchored atEnd, s.onlyEmpty)
    let inwards := if atEnd then parts.reverse else parts
    inwards.foldr (fun (here, free) later => here || free && later) false
  | alt ss => (ss.map fun s => s.anchored atEnd).all id
  | repeated _ low _ s => low ≠ 0 && s.anchored atEnd
  | _ => false

def ofMembers (ascii : Bool) (members : Unicode.CodeRanges) : Shape :=
  match members with
  | [] => set false []
  | [r] => if r.low = r.high then literal [Char.ofNat r.low] else set ascii members
  | _ => set ascii members

/-- Puts `s` in front of parts that are in order already. -/
def consPart (s : Shape) (parts : List Shape) : List Shape :=
  match s, parts with
  | empty, _ => parts
  | literal text, literal more :: parts => literal (text ++ more) :: parts
  | _, _ => s :: parts

/-- The parts one after another. -/
def sequence (parts : List Shape) : Shape :=
  let flat := parts.flatMap fun
    | cat ss => ss
    | s => [s]
  match flat.foldr consPart [] with
  | [] => empty
  | [s] => s
  | ss => cat ss

/-- The single characters, if all branches are such. -/
def characters? (branches : List Shape) : Option Unicode.CodeRanges :=
  branches.mapM fun
    | literal [c] => some (.single c.toNat)
    | _ => none

/-- The members together, if all branches are sets. -/
def members? (branches : List Shape) : Option Unicode.CodeRanges :=
  (branches.mapM fun
    | set _ members => some members
    | _ => none).map List.flatten

def parts? : Shape → Option (List Shape)
  | cat ss => some ss
  | _ => none

/-- The longest beginning that the two have in common. -/
def commonStart : List Shape → List Shape → List Shape
  | s :: ss, t :: ts => if s == t then s :: commonStart ss ts else []
  | _, _ => []

/-- What all of at least two sequences start with. -/
def sharedStart (branches : List Shape) : List Shape :=
  match branches.mapM parts? with
  | some (first :: second :: others) => (second :: others).foldl commonStart first
  | _ => []

/-- The branches as alternatives. What they start with in common is taken out, which leaves less
and less of them, so that `fuel` may be their size. -/
def choice : (fuel : Nat) → List Shape → Shape
  | 0, branches => alt branches
  | fuel + 1, branches =>
    let flat := branches.flatMap fun
      | alt ss => ss
      | s => [s]
    match flat with
    | [] => set false []
    | [s] => s
    | _ =>
      match characters? flat <|> members? flat with
      | some ranges => ofMembers false (Unicode.CodeRanges.normalize ranges)
      | none =>
        match sharedStart flat with
        | [] => alt flat
        | start =>
          let ends := flat.map fun s => sequence ((s.parts?.getD []).drop start.length)
          sequence (start ++ [choice fuel ends])

/-- Counted rounds; a round that can only be empty is not repeated. -/
def rounds (greedy : Bool) (low : Nat) (high : Option Nat) (s : Shape) : Shape :=
  let low := if s.onlyEmpty then min low 1 else low
  let high := if s.onlyEmpty then some (min (high.getD 1) 1) else high
  if low = 0 ∧ high = some 0 then empty
  else if low = 1 ∧ high = some 1 then s
  else repeated greedy low high s

end Shape

namespace Outline

/-- The number of parts. -/
def size : Outline → Nat
  | group _ o | repeated _ _ _ o => o.size + 1
  | cat os | alt os => os.foldl (fun n o => n + o.size) 1
  | _ => 1

/-- The properties that the sets of the outline are made from. -/
def properties : Outline → List Property
  | set s | asciiSet s => s.properties
  | group _ o | repeated _ _ _ o => o.properties
  | cat os | alt os => os.flatMap fun o => o.properties
  | _ => []

/-- The simplest shape, given the members of the properties. -/
def shape (known : Property → Unicode.CodeRanges) : Outline → Shape
  | empty => .empty
  | set s => .ofMembers false (s.members known)
  | asciiSet s => .ofMembers true (s.members known)
  | anchor a => .anchor a
  | group n o => .group n (o.shape known)
  | cat os => .sequence (os.map fun o => o.shape known)
  | alt os => .choice (os.foldl (fun n o => n + o.size) 1) (os.map fun o => o.shape known)
  | repeated greedy low high o => .rounds greedy low high (o.shape known)

end Outline

end GoScan
