/-!
The fixed vocabularies: classes of tokens and languages of messages, with their names.
-/

namespace GoScan

inductive TokenClass where
  | keyword | operator | id | constant | punctuation | skip
deriving DecidableEq, Repr

inductive Locale where
  | en | ru
deriving DecidableEq, Repr

/-- A name that is not in its vocabulary. -/
inductive UnknownName where
  | tokenClass (name : String)
  | locale (name : String)
deriving DecidableEq, Repr

def UnknownName.message : UnknownName → String
  | tokenClass name => "unknown token class `" ++ name ++ "`"
  | locale name => "unknown locale `" ++ name ++ "`, expected `en` or `ru`"

namespace TokenClass

/-- The classes whose tokens are recorded. -/
def recorded : List TokenClass := [keyword, operator, id, constant, punctuation]

def name : TokenClass → String
  | keyword => "keyword"
  | operator => "operator"
  | id => "id"
  | constant => "constant"
  | punctuation => "punctuation"
  | skip => "skip"

def ofName : String → Except UnknownName TokenClass
  | "keyword" => .ok keyword
  | "operator" => .ok operator
  | "id" => .ok id
  | "constant" => .ok constant
  | "punctuation" => .ok punctuation
  | "skip" => .ok skip
  | other => .error (.tokenClass other)

/-- Keywords and constants must not be followed by a word character. -/
def needsBoundary : TokenClass → Bool
  | keyword | constant => true
  | _ => false

theorem ofName_name (c : TokenClass) : ofName c.name = .ok c := by
  cases c <;> rfl

end TokenClass

namespace Locale

def name : Locale → String
  | en => "en"
  | ru => "ru"

/-- ASCII capitals do not matter, and the error names the locale without them. -/
def ofName (written : String) : Except UnknownName Locale :=
  match String.ofList (written.toList.map Char.toLower) with
  | "en" => .ok en
  | "ru" => .ok ru
  | other => .error (.locale other)

end Locale

end GoScan
