/-!
The lines of a text. A line ends with a newline, or a carriage return and a newline, neither of
which belongs to it; what follows the last newline is a line unless it is empty.
-/

namespace GoScan.Text

/-- Without the carriage return at its end, if it has one. -/
def dropReturn : List Char → List Char
  | [] => []
  | ['\r'] => []
  | c :: cs => c :: dropReturn cs

/-- The pieces between the marks, one more than there are marks. -/
def split (mark : Char) : List Char → List (List Char)
  | [] => [[]]
  | c :: cs =>
    if c = mark then [] :: split mark cs
    else match split mark cs with
      | [] => [[c]]
      | piece :: rest => (c :: piece) :: rest

/-- The lines of the pieces between newlines. -/
def linesOfPieces : List (List Char) → List (List Char)
  | [] => []
  | [last] => if last.isEmpty then [] else [last]
  | piece :: rest => dropReturn piece :: linesOfPieces rest

def lines (text : List Char) : List (List Char) := linesOfPieces (split '\n' text)

end GoScan.Text
