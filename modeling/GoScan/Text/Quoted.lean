import GoScan.Unicode.Properties

/-!
Quoted text. Between double quotes a quote and a backslash are escaped, and so is every character
that would not show by itself: the written form stays on one line.
-/

namespace GoScan.Text

/-- Lower-case hexadecimal digits, without padding. -/
def hexadecimal (n : Nat) : List Char := Nat.toDigits 16 n

def escapeChar (c : Char) : List Char :=
  match c with
  | '\x00' => ['\\', '0']
  | '\t' => ['\\', 't']
  | '\r' => ['\\', 'r']
  | '\n' => ['\\', 'n']
  | '"' => ['\\', '"']
  | '\\' => ['\\', '\\']
  | c =>
    if Unicode.isPrintable c && !Unicode.isGraphemeExtend c then [c]
    else ['\\', 'u', '{'] ++ hexadecimal c.toNat ++ ['}']

def quote (text : List Char) : List Char := '"' :: text.flatMap escapeChar ++ ['"']

def quoted (text : String) : String := String.ofList (quote text.toList)

end GoScan.Text
