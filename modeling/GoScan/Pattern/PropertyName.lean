import GoScan.Pattern.Library

/-!
Names of character properties, as patterns use them, and the library of those that are known here.
-/

namespace GoScan

/-- Property names are compared without case, spaces, underscores, hyphens, characters outside
ASCII and an `is` in front; only `isc` keeps its own, since `c` alone names another property. -/
def looseName (name : List Char) : String :=
  let bare (cs : List Char) := String.ofList
    ((cs.filter fun c => c.toNat < 0x80 && !(c = ' ' || c = '_' || c = '-')).map Char.toLower)
  match name with
  | i :: s :: rest =>
    if (i = 'i' ∨ i = 'I') ∧ (s = 's' ∨ s = 'S') then
      if bare rest = "c" then "isc" else bare rest
    else bare name
  | _ => bare name

namespace CharSet

def ofCategoryName? : String → Option CharSet
  | "l" | "letter" => property .letter
  | "lc" | "casedletter" => property .casedLetter
  | "lu" | "uppercaseletter" => property (.category .lu)
  | "ll" | "lowercaseletter" => property (.category .ll)
  | "lt" | "titlecaseletter" => property (.category .lt)
  | "lm" | "modifierletter" => property (.category .lm)
  | "lo" | "otherletter" => property (.category .lo)
  | "m" | "mark" | "combiningmark" => property .mark
  | "mn" | "nonspacingmark" => property (.category .mn)
  | "mc" | "spacingmark" => property (.category .mc)
  | "me" | "enclosingmark" => property (.category .me)
  | "n" | "number" => property .number
  | "nd" | "decimalnumber" | "digit" => property (.category .nd)
  | "nl" | "letternumber" => property (.category .nl)
  | "no" | "othernumber" => property (.category .no)
  | "p" | "punctuation" | "punct" => property .punctuation
  | "pc" | "connectorpunctuation" => property (.category .pc)
  | "pd" | "dashpunctuation" => property (.category .pd)
  | "ps" | "openpunctuation" => property (.category .ps)
  | "pe" | "closepunctuation" => property (.category .pe)
  | "pi" | "initialpunctuation" => property (.category .pi)
  | "pf" | "finalpunctuation" => property (.category .pf)
  | "po" | "otherpunctuation" => property (.category .po)
  | "s" | "symbol" => property .symbol
  | "sm" | "mathsymbol" => property (.category .sm)
  | "sc" | "currencysymbol" => property (.category .sc)
  | "sk" | "modifiersymbol" => property (.category .sk)
  | "so" | "othersymbol" => property (.category .so)
  | "z" | "separator" => property .separator
  | "zs" | "spaceseparator" => property (.category .zs)
  | "zl" | "lineseparator" => property (.category .zl)
  | "zp" | "paragraphseparator" => property (.category .zp)
  | "c" | "other" => property .other
  | "cc" | "control" | "cntrl" => property (.category .cc)
  | "cf" | "format" => property (.category .cf)
  | "co" | "privateuse" => property (.category .co)
  | "cn" | "unassigned" => property (.category .cn)
  | "any" => any
  | "assigned" => compl (property (.category .cn))
  | "ascii" => range '\x00' '\x7F'
  | _ => none

def ofPropertyName? (name : List Char) : Option CharSet :=
  match looseName name with
  | "alpha" | "alphabetic" => property .alphabetic
  | "wspace" | "whitespace" | "space" => property .whiteSpace
  | "grext" | "graphemeextend" => property .graphemeExtend
  | "joinc" | "joincontrol" => property .joinControl
  | other => ofCategoryName? other

/-- The set of a property written `name=value`; only the general category takes a value. -/
def ofPropertyValue? (name value : List Char) : Option CharSet :=
  match looseName name with
  | "gc" | "generalcategory" => ofCategoryName? (looseName value)
  | _ => none

/-- The text before the first `mark` and the text after it. -/
def cutAt? (mark : List Char) : List Char → Option (List Char × List Char)
  | [] => none
  | c :: cs =>
    if mark.isPrefixOf (c :: cs) then some ([], (c :: cs).drop mark.length)
    else (cutAt? mark cs).map fun cut => (c :: cut.1, cut.2)

/-- The set of a property as it stands between braces: a name, or a name and a value. -/
def ofWritten? (written : List Char) : Option CharSet :=
  match cutAt? ['!', '='] written with
  | some (name, value) => (ofPropertyValue? name value).map .compl
  | none =>
    match cutAt? [':'] written <|> cutAt? ['='] written with
    | some (name, value) => ofPropertyValue? name value
    | none => ofPropertyName? written

end CharSet

instance : PatternLibrary := ⟨CharSet.ofWritten?, fun _ e => e.message⟩

end GoScan
