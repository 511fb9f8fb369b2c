import GoScan.Grammar
import GoScan.Token

/-!
What a scan reports to the log while it runs.
-/

namespace GoScan

inductive LogLevel where
  | trace | debug | info | warn
deriving DecidableEq, Repr

namespace LogLevel

def name : LogLevel → String
  | trace => "TRACE"
  | debug => "DEBUG"
  | info => "INFO"
  | warn => "WARN"

def rank : LogLevel → Nat
  | trace => 0
  | debug => 1
  | info => 2
  | warn => 3

/-- A log kept at `threshold` has the reports of this level. -/
def shownAt (level threshold : LogLevel) : Bool := threshold.rank ≤ level.rank

end LogLevel

inductive Event where
  /-- The entry's find is refused because a word goes on behind it. -/
  | refused (entry : Entry)
  | read (token : Token)
  /-- The scan stops here. -/
  | halted (failure : Failure)
  /-- A run to the end ends in this failure. -/
  | failed (failure : Failure) (locale : Locale)
  /-- A run to the end has recorded these tokens. -/
  | completed (lists : TokenLists)

namespace Event

def level : Event → LogLevel
  | refused _ | read _ => .trace
  | halted _ | failed _ _ | completed _ => .debug

/-- The part of the program that reports. -/
def target : Event → String
  | refused _ => "golex::lexer::grammar"
  | _ => "golex::lexer::lexer"

def message : Event → String
  | refused entry =>
    entry.tokenClass.name ++ " " ++ Text.quoted entry.name
      ++ " rejected: followed by a word character"
  | read token => token.display
  | halted failure =>
    "scan halted at offset " ++ toString failure.position.offset ++ ": " ++ failure.display
  | failed failure locale => failure.message locale
  | completed lists =>
    "lexed " ++ toString lists.size ++ " tokens (" ++ toString lists.keywords.size ++ " keywords, "
      ++ toString lists.operators.size ++ " operators, " ++ toString lists.identifiers.size
      ++ " identifiers, " ++ toString lists.constants.size ++ " constants, "
      ++ toString lists.punctuation.size ++ " punctuation)"

/-- The report in full: level, target and message. -/
def line (e : Event) : String := e.level.name ++ " " ++ e.target ++ " " ++ e.message

end Event

/-- The lines of a log kept at `threshold`. -/
def logLines (threshold : LogLevel) (events : Array Event) : List String :=
  (events.toList.filter (·.level.shownAt threshold)).map Event.line

end GoScan
