import GoScan.Event
import GoScan.Go
import GoScan.IdentTable

/-!
A scan of one text. It goes forward token by token; the first place where no entry matches ends it
for good. Identifiers are numbered in a table that is passed in and handed back, so that scans can
use one table in turn.
-/

namespace GoScan

structure Scanner where
  /-- The text not yet read, and where it starts. -/
  rest : List Char
  position : Position
  lists : TokenLists
  failure : Option Failure
  locale : Locale
deriving Repr

inductive Outcome where
  | token (t : Token)
  | finished
  | failed (f : Failure)
deriving DecidableEq, Repr

/-- What a call on a scanner gives: the answer, the scanner and the table after it, and what it
reports. -/
structure Step (ι α : Type) where
  answer : α
  scanner : Scanner
  table : ι
  events : Array Event

variable {ι : Type} [Interner ι]

/-- The kind of an entry's token: the entry's name, and for an identifier its number. -/
def Entry.kind (e : Entry) (text : String) (table : ι) : String × ι :=
  match e.tokenClass with
  | .id =>
    let (id, table) := Interner.intern table text
    (e.name ++ toString id, table)
  | _ => (e.name, table)

namespace Scanner

def ofText (text : String) : Scanner := ⟨text.toList, .start, .empty, none, .en⟩

def withLocale (s : Scanner) (locale : Locale) : Scanner := { s with locale := locale }

/-- The bytes read so far. -/
def offset (s : Scanner) : Nat := s.position.offset

def atEnd (s : Scanner) : Bool := s.rest.isEmpty

/-- The bytes of the whole text. -/
def sourceSize (s : Scanner) : Nat := s.offset + Text.byteCount s.rest

/-- Up to the last word character, bar or dollar sign of the first line that has one. -/
def snippetPattern : Pattern := (Pattern.read ".*[\\w|$]".toList).toOption.getD .empty

def trimSpaces (cs : List Char) : List Char :=
  ((cs.dropWhile (· = ' ')).reverse.dropWhile (· = ' ')).reverse

/-- The part of the text that a failure at its start quotes. -/
def snippet (text : List Char) : String :=
  match snippetPattern.find? text with
  | none => ""
  | some span => String.ofList (trimSpaces ((text.take span.stop).drop span.start))

/-- The next token, also one to skip. -/
def next (g : Grammar) (s : Scanner) (table : ι) : Step ι Outcome :=
  match s.failure with
  | some f => ⟨.failed f, s, table, #[]⟩
  | none =>
    if s.rest.isEmpty then ⟨.finished, s, table, #[]⟩
    else
      let attempt := g.attempt s.rest
      let refusals := (attempt.refused.map Event.refused).toArray
      match attempt.found with
      | none =>
        let f : Failure := ⟨.unrecognisedInput (snippet s.rest), s.position⟩
        ⟨.failed f, { s with failure := some f }, table, refusals.push (.halted f)⟩
      | some found =>
        let lexeme := s.rest.take found.span.stop
        let text := String.ofList lexeme
        let (kind, table) := found.entry.kind text table
        let token : Token := ⟨kind, text, found.entry.tokenClass, s.position⟩
        let scanner :=
          { s with
            rest := s.rest.drop found.span.stop
            position := s.position.advanceAll lexeme
            lists := s.lists.push token }
        ⟨.token token, scanner, table, refusals.push (.read token)⟩

/-- The next token that is recorded, in at most `fuel` calls of `next`. -/
def seek (g : Grammar) : (fuel : Nat) → Array Event → Scanner → ι → Step ι Outcome
  | 0, events, s, table => ⟨.finished, s, table, events⟩
  | fuel + 1, events, s, table =>
    match s.next g table with
    | ⟨answer, s, table, more⟩ =>
      match answer with
      | .token t =>
        if t.isSkip then seek g fuel (events ++ more) s table
        else ⟨.token t, s, table, events ++ more⟩
      | answer => ⟨answer, s, table, events ++ more⟩

/-- The next recorded token; after a failure there is none. -/
def nextRecorded (g : Grammar) (s : Scanner) (table : ι) : Step ι Outcome :=
  if s.failure.isSome then ⟨.finished, s, table, #[]⟩
  else seek g (s.rest.length + 1) #[] s table

/-- Runs to the end, in at most `fuel` calls of `next`. -/
def run (g : Grammar) : (fuel : Nat) → Array Event → Scanner → ι → Step ι (Option Failure)
  | 0, events, s, table => ⟨none, s, table, events⟩
  | fuel + 1, events, s, table =>
    match s.next g table with
    | ⟨answer, s, table, more⟩ =>
      match answer with
      | .token _ => run g fuel (events ++ more) s table
      | .finished => ⟨none, s, table, (events ++ more).push (.completed s.lists)⟩
      | .failed f => ⟨some f, s, table, (events ++ more).push (.failed f s.locale)⟩

/-- Runs to the end of the text or to the failure that ends the scan. Every token has a character,
so that one call more than there are characters is enough. -/
def analyze (g : Grammar) (s : Scanner) (table : ι) : Step ι (Option Failure) :=
  run g (s.rest.length + 1) #[] s table

/-- What `nextRecorded` still gives, in at most `fuel` calls; nothing follows a failure. -/
def drain (g : Grammar) :
    (fuel : Nat) → Array Event → Array Outcome → Scanner → ι → Step ι (Array Outcome)
  | 0, events, outcomes, s, table => ⟨outcomes, s, table, events⟩
  | fuel + 1, events, outcomes, s, table =>
    match s.nextRecorded g table with
    | ⟨answer, s, table, more⟩ =>
      match answer with
      | .finished => ⟨outcomes, s, table, events ++ more⟩
      | answer => drain g fuel (events ++ more) (outcomes.push answer) s table

/-- All that `nextRecorded` still gives before it is finished. -/
def collect (g : Grammar) (s : Scanner) (table : ι) : Step ι (Array Outcome) :=
  drain g (s.rest.length + 2) #[] #[] s table

end Scanner

/-- The tokens of Go source text, with identifiers numbered from zero. -/
def tokenize (source : String) : Except Failure TokenLists :=
  let step := (Scanner.ofText source).analyze Go.grammar .empty
  match step.answer with
  | none => .ok step.scanner.lists
  | some f => .error f

end GoScan
