import GoScan.Failure
import GoScan.Pattern.Reader
import GoScan.Pattern.Search

/-!
Token tables. An entry has a name, a class and a pattern; the first entry that matches at the
start of the text wins, however long its match.
-/

namespace GoScan

/-- An entry as it is written. -/
structure Definition where
  name : String
  pattern : String
  tokenClass : TokenClass
deriving DecidableEq, Repr

/-- The entry for exactly this text, which is also its name. -/
def Definition.literal (text : String) (tokenClass : TokenClass) : Definition :=
  ⟨text, String.ofList (Escape.literal text.toList), tokenClass⟩

/-- An entry with its pattern read, bound to the start of the text. -/
structure Entry extends Definition where
  compiled : Pattern
deriving DecidableEq, Repr

/-- An entry and the span that its pattern found. What the entry takes is the text up to the end of
the span. -/
structure Match where
  entry : Entry
  span : Span
deriving DecidableEq, Repr

structure Grammar where
  entries : List Entry
deriving DecidableEq, Repr

/-- A character that continues a word. -/
def isWordChar (c : Char) : Bool := Unicode.isAlphanumeric c || c = '_'

/-- No word goes on at the start of this text. -/
def atBoundary : List Char → Bool
  | [] => true
  | c :: _ => !isWordChar c

namespace Definition

variable [PatternLibrary]

/-- What is reported when the pattern is refused as it is read, with what is written around it. -/
def refusal (d : Definition) (e : PatternError) : Failure :=
  ⟨.invalidPattern d.name (PatternLibrary.refusal (Pattern.anchored d.pattern.toList) e), .null⟩

/-- The pattern is bound to the start by what is written around it. -/
def compile (d : Definition) : Except Failure Entry :=
  match Pattern.read (Pattern.anchored d.pattern.toList) with
  | .ok compiled => .ok { d with compiled := compiled }
  | .error e => .error (d.refusal e)

end Definition

namespace Entry

/-- The pattern in the written form that was read. -/
def written (e : Entry) : String := String.ofList (Pattern.anchored e.pattern.toList)

/-- What the pattern finds; finding nothing but an empty span is not finding it. -/
def find? (e : Entry) (text : List Char) : Option Span :=
  (e.compiled.find? text).filter fun span => span.start != span.stop

/-- Keywords and constants must end where no word goes on. -/
def endsWell (e : Entry) (text : List Char) (span : Span) : Bool :=
  !e.tokenClass.needsBoundary || atBoundary (text.drop span.stop)

end Entry

/-- A try of entries in turn: those whose find was refused for the word going on, and the match. -/
structure Attempt where
  refused : List Entry
  found : Option Match

namespace Grammar

def compile [PatternLibrary] (definitions : List Definition) : Except Failure Grammar :=
  (definitions.mapM Definition.compile).map Grammar.mk

def size (g : Grammar) : Nat := g.entries.length

def isEmpty (g : Grammar) : Bool := g.entries.isEmpty

def tryEntries (text : List Char) : List Entry → Attempt
  | [] => ⟨[], none⟩
  | e :: entries =>
    match e.find? text with
    | none => tryEntries text entries
    | some span =>
      if e.endsWell text span then ⟨[], some ⟨e, span⟩⟩
      else
        let later := tryEntries text entries
        ⟨e :: later.refused, later.found⟩

def attempt (g : Grammar) (text : List Char) : Attempt := tryEntries text g.entries

/-- The first entry that matches at the start of `text`. -/
def match? (g : Grammar) (text : List Char) : Option Match := (g.attempt text).found

end Grammar

end GoScan
