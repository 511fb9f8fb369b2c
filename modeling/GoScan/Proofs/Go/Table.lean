import GoScan.Go
import GoScan.Proofs.Pattern.Definite

/-!
# The table of Go source text, spelled out

The patterns of the table as they are read from their written form, in groups: `grammar_eq`.
-/

namespace GoScan.Go

open Pattern CharSet

/-! ## Patterns of literals and names -/

def digitSet : CharSet := .property (.category .nd)

/-- The set of these characters, the first of which is `c`. -/
def anyOf (c : Char) (cs : List Char) : CharSet := cs.foldl (fun s c => .union s (.single c)) (.single c)

def char (c : Char) : Pattern := set (.single c)

def digit : Pattern := set digitSet

/-- Digits and underscores. -/
def run : Pattern := star true (set (.union digitSet (.single '_')))

def sign : Pattern := optional true (set (anyOf '+' ['-']))

def exponent : Pattern := seq [set (anyOf 'e' ['E']), sign, digit, run]

def hexSet : CharSet := .union (.union (.union (.single '_') digitSet) (.range 'a' 'f')) (.range 'A' 'F')

def hexMark : Pattern := set (anyOf 'x' ['X'])

def imaginaryBody : Pattern :=
  seq
    [alt
      (seq [digit, run, optional true (seq [char '.', run]), optional true exponent])
      (seq [char '.', digit, run, optional true exponent]),
      char 'i']

def hexFloat : Pattern :=
  seq
    [char '0', hexMark, star true (set hexSet), optional true (char '.'), star true (set hexSet),
      set (anyOf 'p' ['P']), sign, digit, run]

def pointFloat : Pattern := seq [digit, run, char '.', run, optional true exponent]

def exponentFloat : Pattern := seq [digit, run, set (anyOf 'e' ['E']), sign, digit, run]

def leadingPointFloat : Pattern := seq [char '.', digit, run, optional true exponent]

def floatBody : Pattern := oneOf [hexFloat, pointFloat, exponentFloat, leadingPointFloat]

def hexInteger : Pattern := seq [char '0', hexMark, plus true (set hexSet)]

/-- Binary, octal and decimal. -/
def plainIntegers : List Pattern :=
  [seq [char '0', set (anyOf 'b' ['B']), plus true (set (anyOf '_' ['0', '1']))],
   seq [char '0', optional true (set (anyOf 'o' ['O'])),
    plus true (set (.union (.single '_') (.range '0' '7')))],
   seq [digit, run]]

def integerBody : Pattern := oneOf (hexInteger :: plainIntegers)

def hexDigit : Pattern := set (.union (.range '0' '9') (.union (.range 'A' 'F') (.range 'a' 'f')))

def octalDigit : Pattern := set (.range '0' '7')

def runeBody : Pattern :=
  seq
    [char '\'',
     alt
      (seq
        [char '\\',
         oneOf
          [set (anyOf 'a' ['b', 'f', 'n', 'r', 't', 'v', '\\', '\'', '"']),
           seq (.replicate 3 octalDigit),
           seq (char 'x' :: .replicate 2 hexDigit),
           seq (char 'u' :: .replicate 4 hexDigit),
           seq (char 'U' :: .replicate 8 hexDigit)]])
      (set (.compl (anyOf '\'' ['\\', '\n']))),
     char '\'']

def stringBody : Pattern :=
  seq
    [char '"',
     star true
      (alt (set (.compl (anyOf '"' ['\\', '\n']))) (seq [char '\\', set (.compl (.single '\n'))])),
     char '"']

def rawStringBody : Pattern := seq [char '\x60', star true (set (.compl (.single '\x60'))), char '\x60']

def nameStart : CharSet := .union (.single '_') (.property .letter)

def nameSet : CharSet := .union nameStart digitSet

def nameBody : Pattern := seq [set nameStart, star true (set nameSet)]

/-! ## Entries in groups -/

/-- The definition with its pattern, bound to the start. -/
def entry (d : Definition) (body : Pattern) : Entry := ⟨d, cat (anchor .textStart) body⟩

def blank : Entry := entry ⟨"whitespace", "\\s+", .skip⟩ (plus true (set (.property .whiteSpace)))

def lineComment : Entry :=
  entry ⟨"line_comment", "//[^\\n]*", .skip⟩
    (seq [char '/', char '/', star true (set (.compl (.single '\n')))])

def blockComment : Entry :=
  entry ⟨"block_comment", "(?s)/\\*.*?\\*/", .skip⟩
    (seq [char '/', char '*', star false (set .any), char '*', char '/'])

/-- The entry for exactly this text. -/
def literal (text : String) (tokenClass : TokenClass) : Entry :=
  entry (.literal text tokenClass) (word text.toList)

/-- Keywords and the constants that have names. -/
def words : List Entry := keywords.map (literal · .keyword) ++ namedConstants.map (literal · .constant)

def imaginary : Entry := entry ⟨"imaginary_lit", imaginaryPattern, .constant⟩ imaginaryBody

def float : Entry := entry ⟨"float_lit", floatPattern, .constant⟩ floatBody

def integer : Entry := entry ⟨"int_lit", integerPattern, .constant⟩ integerBody

def rune : Entry := entry ⟨"rune_lit", runePattern, .constant⟩ runeBody

def string : Entry := entry ⟨"string_lit", "\"(?:[^\"\\\\\\n]|\\\\.)*\"", .constant⟩ stringBody

def rawString : Entry := entry ⟨"raw_string_lit", "\x60[^\x60]*\x60", .constant⟩ rawStringBody

/-- Operators and punctuation. -/
def marks : List Entry := operators.map (literal · .operator) ++ punctuation.map (literal · .punctuation)

def name : Entry := entry identifier nameBody

def skips : List Entry := [blank, lineComment, blockComment]

def numbers : List Entry := [imaginary, float, integer]

/-- Literals between quotes. -/
def quoted : List Entry := [rune, string, rawString]

def entries : List Entry := skips ++ (words ++ (numbers ++ (quoted ++ (marks ++ [name]))))

/-- The table has these entries. -/
theorem grammar_eq : grammar = ⟨entries⟩ := by decide +kernel

end GoScan.Go
