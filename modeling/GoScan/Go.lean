import GoScan.Grammar
import GoScan.Pattern.PropertyName

/-!
The token table of Go source text. Longer operators stand before their beginnings, and words with
a meaning of their own before identifiers.
-/

namespace GoScan.Go

def keywords : List String :=
  ["break", "case", "chan", "const", "continue", "default", "defer", "else", "fallthrough",
   "for", "func", "goto", "go", "if", "import", "interface", "map", "package", "range",
   "return", "select", "struct", "switch", "type", "var"]

def namedConstants : List String := ["true", "false", "nil", "iota"]

def operators : List String :=
  ["<<=", ">>=", "&^=", "+=", "-=", "*=", "/=", "%=", "&=", "|=", "^=", "<<", ">>", "&^", "&&",
   "||", "<-", "++", "--", "==", "!=", "<=", ">=", ":=", "=", "+", "-", "*", "/", "%", "&",
   "|", "^", "~", "!", "<", ">"]

def punctuation : List String :=
  ["...", "(", ")", "[", "]", "\x7b", "\x7d", ",", ";", ":", "."]

def skipped : List Definition :=
  [⟨"whitespace", "\\s+", .skip⟩,
   ⟨"line_comment", "//[^\\n]*", .skip⟩,
   ⟨"block_comment", "(?s)/\\*.*?\\*/", .skip⟩]

/-- Imaginary literals. -/
def imaginaryPattern : String :=
  "(?:\\d[\\d_]*(?:\\.[\\d_]*)?(?:[eE][+-]?\\d[\\d_]*)?|\\.\\d[\\d_]*(?:[eE][+-]?\\d[\\d_]*)?)i"

/-- Floating-point literals: hexadecimal, with a point after digits, with an exponent only, with a
point first. -/
def floatPattern : String :=
  "0[xX][_\\da-fA-F]*\\.?[_\\da-fA-F]*[pP][+-]?\\d[\\d_]*|\\d[\\d_]*\\.[\\d_]*(?:[eE][+-]?\\d[\\d_]*)?|\\d[\\d_]*[eE][+-]?\\d[\\d_]*|\\.\\d[\\d_]*(?:[eE][+-]?\\d[\\d_]*)?"

/-- Integer literals: hexadecimal, binary, octal, decimal. -/
def integerPattern : String :=
  "0[xX][_\\da-fA-F]+|0[bB][_01]+|0[oO]?[_0-7]+|\\d[\\d_]*"

def runePattern : String :=
  "'(?:\\\\(?:[abfnrtv\\\\'\"]|[0-7]\x7b3\x7d|x[[:xdigit:]]\x7b2\x7d|u[[:xdigit:]]\x7b4\x7d|U[[:xdigit:]]\x7b8\x7d)|[^'\\\\\\n])'"

def literals : List Definition :=
  [⟨"imaginary_lit", imaginaryPattern, .constant⟩,
   ⟨"float_lit", floatPattern, .constant⟩,
   ⟨"int_lit", integerPattern, .constant⟩,
   ⟨"rune_lit", runePattern, .constant⟩,
   ⟨"string_lit", "\"(?:[^\"\\\\\\n]|\\\\.)*\"", .constant⟩,
   ⟨"raw_string_lit", "\x60[^\x60]*\x60", .constant⟩]

def identifier : Definition := ⟨"id", "[_\\p\x7bL\x7d][_\\p\x7bL\x7d\\p\x7bNd\x7d]*", .id⟩

def definitions : List Definition :=
  skipped ++ keywords.map (.literal · .keyword) ++ namedConstants.map (.literal · .constant)
    ++ literals ++ operators.map (.literal · .operator)
    ++ punctuation.map (.literal · .punctuation) ++ [identifier]

/-- The table of Go source text. -/
def grammar : Grammar := (Grammar.compile definitions).toOption.getD ⟨[]⟩

end GoScan.Go
