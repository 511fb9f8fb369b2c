import GoScan.Position
import GoScan.Text.Quoted
import GoScan.Text.Lines
import GoScan.Vocabulary

/-!
What a scan or a table can fail with, the messages about it, and the excerpt of the source that
shows where it happened.
-/

namespace GoScan

inductive Fault where
  /-- No entry matches; `snippet` is the start of the text that none does. -/
  | unrecognisedInput (snippet : String)
  | invalidPattern (name message : String)
deriving DecidableEq, Repr

structure Failure where
  fault : Fault
  position : Position
deriving DecidableEq, Repr

namespace Fault

def name : Fault → String
  | unrecognisedInput _ => "UnrecognisedInput"
  | invalidPattern _ _ => "InvalidPattern"

def snippet : Fault → String
  | unrecognisedInput snippet => snippet
  | invalidPattern _ _ => ""

/-- What to look at, if there is anything to show. -/
def tip? : Fault → Option String
  | unrecognisedInput snippet =>
    if snippet.isEmpty then none
    else some ("No token pattern matches the start of `" ++ snippet ++ "`")
  | invalidPattern name _ => some ("Check the regular expression of token `" ++ name ++ "`")

/-- The fault without its place. -/
def cause : Fault → String
  | unrecognisedInput snippet => "unrecognised input: " ++ Text.quoted snippet
  | invalidPattern name message =>
    "invalid pattern for token " ++ Text.quoted name ++ ": " ++ message

end Fault

namespace Failure

def message (f : Failure) (locale : Locale) : String :=
  match f.fault, locale with
  | .unrecognisedInput snippet, .en =>
    "unrecognised input at line " ++ toString f.position.line ++ ", column "
      ++ toString f.position.column ++ ": " ++ snippet
  | .unrecognisedInput snippet, .ru =>
    "ошибка на позиции " ++ toString f.position.line ++ " " ++ toString f.position.column ++ ": "
      ++ snippet
  | .invalidPattern name message, .en =>
    "invalid pattern for token " ++ Text.quoted name ++ ": " ++ message
  | .invalidPattern name message, .ru =>
    "некорректный шаблон токена " ++ Text.quoted name ++ ": " ++ message

/-- The message where no locale is chosen. -/
def display (f : Failure) : String := f.message .en

end Failure

/-- A line of the source, its number, and the characters before the position in it. -/
structure LineExcerpt where
  number : Nat
  text : List Char
  before : Nat
deriving DecidableEq, Repr

/-- The line of `source` in which position `p` lies. -/
def LineExcerpt.at? (source : List Char) (p : Position) : Option LineExcerpt :=
  match p.line with
  | 0 => none
  | line + 1 => (Text.lines source)[line]?.map fun text => ⟨p.line, text, p.column - 1⟩

namespace LineExcerpt

def isIndent (c : Char) : Bool := c = ' ' || c = '\t'

def dropTrailingSpace (cs : List Char) : List Char :=
  (cs.reverse.dropWhile Unicode.isWhiteSpace).reverse

/-- The line without its indentation, under a bar, with a caret under the position. -/
def render (e : LineExcerpt) : List Char :=
  let number := (toString e.number).toList
  let bar := List.replicate (number.length + 1) ' ' ++ ['|']
  let indent := (e.text.takeWhile isIndent).length
  let shown := dropTrailingSpace (e.text.dropWhile isIndent)
  bar ++ ['\n']
    ++ number ++ [' ', '|', ' '] ++ shown ++ ['\n']
    ++ bar ++ [' '] ++ List.replicate (e.before - indent) '-' ++ ['^', '\n']

end LineExcerpt

/-- The report of a failure to a terminal: its name and tip, the file, and the line if it has one. -/
def Failure.report (f : Failure) (source : List Char) (file : String) : String :=
  let tip := match f.fault.tip? with
    | none => ""
    | some tip => " (" ++ tip ++ ")"
  let excerpt := ((LineExcerpt.at? source f.position).map LineExcerpt.render).getD []
  "Error: " ++ f.fault.name ++ tip ++ "\n-> " ++ file ++ "\n" ++ String.ofList excerpt

end GoScan
