/-!
General categories of characters, and the rows of the table that assigns them.
-/

namespace GoScan.Unicode

inductive Category where
  | lu | ll | lt | lm | lo
  | mn | mc | me
  | nd | nl | no
  | pc | pd | ps | pe | pi | pf | po
  | sm | sc | sk | so
  | zs | zl | zp
  | cc | cf | cs | co | cn
deriving DecidableEq, Repr

namespace Category

def isLetter : Category → Bool
  | lu | ll | lt | lm | lo => true
  | _ => false

def isMark : Category → Bool
  | mn | mc | me => true
  | _ => false

def isNumber : Category → Bool
  | nd | nl | no => true
  | _ => false

def isPunctuation : Category → Bool
  | pc | pd | ps | pe | pi | pf | po => true
  | _ => false

def isSymbol : Category → Bool
  | sm | sc | sk | so => true
  | _ => false

def isSeparator : Category → Bool
  | zs | zl | zp => true
  | _ => false

def isOther : Category → Bool
  | cc | cf | cs | co | cn => true
  | _ => false

end Category

/-- A run lasts until the next one starts. Its characters take the categories `even` and
`odd` in turn, as capitals and small letters do in many blocks. -/
structure Run where
  first : Nat
  even : Category
  odd : Category

def Run.all (first : Nat) (c : Category) : Run := ⟨first, c, c⟩

def Run.alternating (first : Nat) (even odd : Category) : Run := ⟨first, even, odd⟩

def Run.category (r : Run) (n : Nat) : Category :=
  if (n - r.first) % 2 = 0 then r.even else r.odd

end GoScan.Unicode
