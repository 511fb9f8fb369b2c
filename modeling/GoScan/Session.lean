import GoScan.Scanner

/-!
Several scans side by side, and the identifier tables they use: a scan has a table of its own or
uses one that others use too. All are called by name, and what has not been made yet is empty.
-/

namespace GoScan

inductive ScanTable where
  | own (table : IdentTable)
  | shared (name : String)

/-- A scan under way, its token table and its identifier table. -/
structure OpenScan where
  scanner : Scanner
  grammar : Grammar
  table : ScanTable

def OpenScan.empty : OpenScan := ⟨.ofText "", Go.grammar, .own .empty⟩

inductive TableName where
  | plain (name : String)
  | shared (name : String)

structure Session where
  scans : Std.TreeMap String OpenScan compare
  plain : Std.TreeMap String IdentTable compare
  shared : Std.TreeMap String IdentTable compare

namespace Session

def empty : Session := ⟨{}, {}, {}⟩

def table (s : Session) : TableName → IdentTable
  | .plain name => s.plain[name]?.getD .empty
  | .shared name => s.shared[name]?.getD .empty

def setTable (s : Session) (name : TableName) (t : IdentTable) : Session :=
  match name with
  | .plain name => { s with plain := s.plain.insert name t }
  | .shared name => { s with shared := s.shared.insert name t }

def scan (s : Session) (name : String) : OpenScan := s.scans[name]?.getD .empty

/-- The identifier table that a scan uses now. -/
def scanTable (s : Session) (name : String) : IdentTable :=
  match (s.scan name).table with
  | .own table => table
  | .shared shared => s.table (.shared shared)

/-- Begins a scan, on the shared table if one is named. -/
def start (s : Session) (name source : String) (shared : Option String) (grammar : Grammar) :
    Session :=
  let table := match shared with
    | none => ScanTable.own .empty
    | some shared => .shared shared
  { s with scans := s.scans.insert name ⟨.ofText source, grammar, table⟩ }

def close (s : Session) (name : String) : Session := { s with scans := s.scans.erase name }

def setScanner (s : Session) (name : String) (scanner : Scanner) : Session :=
  { s with scans := s.scans.insert name { s.scan name with scanner := scanner } }

/-- A call on the scanner of a scan. The table after it goes back to where it came from. -/
def call {α : Type} (s : Session) (name : String)
    (f : Grammar → Scanner → IdentTable → Step IdentTable α) : α × Array Event × Session :=
  let current := s.scan name
  let step := f current.grammar current.scanner (s.scanTable name)
  let kept := { s with scans := s.scans.erase name }
  let after := match current.table with
    | .own _ =>
      { kept with
        scans := kept.scans.insert name ⟨step.scanner, current.grammar, .own step.table⟩ }
    | .shared shared =>
      { kept.setTable (.shared shared) step.table with
        scans := kept.scans.insert name ⟨step.scanner, current.grammar, .shared shared⟩ }
  (step.answer, step.events, after)

def intern (s : Session) (name : TableName) (text : String) : Nat × Session :=
  let (id, table) := (s.table name).intern text
  (id, s.setTable name table)

/-- Scans a text to its end on a plain table. -/
def scanOn (s : Session) (name source : String) (grammar : Grammar) :
    (TokenLists × Option Failure) × Array Event × Session :=
  let step := (Scanner.ofText source).analyze grammar (s.table (.plain name))
  ((step.scanner.lists, step.answer), step.events, s.setTable (.plain name) step.table)

/-- Copies a shared table as it is now to a plain one. -/
def snapshot (s : Session) (shared copy : String) : Session :=
  s.setTable (.plain copy) (s.table (.shared shared))

end Session

end GoScan
