import Std.Data.TreeMap

/-!
Numbers for names: each new name takes the next number, and keeps it. A scan asks no more of its
table than that it gives a number for a text, so that it can use any `Interner`.
-/

namespace GoScan

/-- A table that is asked for the number of a text, and what it is after that. -/
class Interner (ι : Type) where
  intern : ι → String → Nat × ι

/-- Backquotes around or inside an identifier are not part of its name. -/
def normalize (text : String) : String := String.ofList (text.toList.filter (· != '\x60'))

structure IdentTable where
  ids : Std.TreeMap String Nat compare
  /-- The names by number. -/
  names : Array String

namespace IdentTable

def empty : IdentTable := ⟨{}, #[]⟩

/-- The number of a text's name, given out if need be. -/
def intern (t : IdentTable) (text : String) : Nat × IdentTable :=
  let name := normalize text
  match t.ids[name]? with
  | some id => (id, t)
  | none => (t.names.size, ⟨t.ids.insert name t.names.size, t.names.push name⟩)

def get? (t : IdentTable) (text : String) : Option Nat := t.ids[normalize text]?

def name? (t : IdentTable) (id : Nat) : Option String := t.names[id]?

def size (t : IdentTable) : Nat := t.names.size

def isEmpty (t : IdentTable) : Bool := t.names.isEmpty

/-- Each number with its name. -/
def toList (t : IdentTable) : List (Nat × String) :=
  t.names.toList.zipIdx.map fun (name, id) => (id, name)

end IdentTable

@[default_instance]
instance : Interner IdentTable := ⟨IdentTable.intern⟩

end GoScan
