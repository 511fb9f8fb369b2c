import GoScan.Session
import GoScan.Proofs.Go.Table
import GoScan.Proofs.Ident.Numbering
import GoScan.Proofs.Scan.Lexemes
import Std.Data.String.ToNat

/-!
# Scans that share a table

Scans on one table take turns with each other and with direct calls on the table; a call is one step.

* `Scanner.next_numbering`: what a call of `next` hands to the table, and what becomes of it;
* `Session.table_perform`: a step numbers at most one text, and leaves the scans on their table;
* `Session.exists_number_of_mem_history`: the number in the kind of a token is kept;
* `shared_table_of_calls`: the names of the table in any interleaving, and the kinds of identifiers.
-/

namespace GoScan

/-- The token, if it is an identifier. -/
def Outcome.identifier? : Outcome → Option Token
  | .token t => if t.tokenClass = .id then some t else none
  | .finished | .failed _ => none

theorem Grammar.entry_mem_of_lexeme? {g : Grammar} {text : List Char} {l : Lexeme}
    (h : g.lexeme? text = some l) : l.entry ∈ g.entries := by
  obtain ⟨m, found, rfl⟩ := Option.map_eq_some_iff.1 h
  rw [Grammar.match?_eq_findSome?] at found
  obtain ⟨e, mem, taken⟩ := List.exists_of_findSome?_eq_some found
  obtain ⟨span, -, rfl⟩ := Option.map_eq_some_iff.1 taken
  exact mem

/-- A call hands the table the text of an identifier, which is named for its entry and for the number
of its text; for all else the table stays as it is. -/
theorem Scanner.next_numbering {ι : Type} [Interner ι] (g : Grammar) (s : Scanner) (table : ι) :
    (∃ t e, (s.next g table).answer.identifier? = some t ∧ e ∈ g.entries ∧ e.tokenClass = .id ∧
      t.kind = e.name ++ toString (Interner.intern table t.text).1 ∧
      (s.next g table).table = (Interner.intern table t.text).2) ∨
    ((s.next g table).answer.identifier? = none ∧ (s.next g table).table = table) := by
  have form := nextStep g s table
  generalize s.next g table = step at form ⊢
  cases form with
  | failed | finished | halted => exact .inr ⟨rfl, rfl⟩
  | @read l _ _ taken =>
    by_cases named : l.entry.tokenClass = .id
    · left
      refine ⟨l.token table s.position, l.entry, ?_, Grammar.entry_mem_of_lexeme? taken, named, ?_⟩
      · simp [Outcome.identifier?, Lexeme.token, named]
      · simp [Lexeme.token, Lexeme.tableAfter, Entry.kind, named]
    · right
      refine ⟨by simp [Outcome.identifier?, Lexeme.token, named], ?_⟩
      unfold Lexeme.tableAfter Entry.kind
      split
      · exact absurd ‹_› named
      · rfl

/-- A call on a scan, or on the shared table itself. -/
inductive SharedCall where
  | next (scan : String)
  | table (c : TableCall)
deriving DecidableEq, Repr

inductive SharedAnswer where
  | outcome (o : Outcome)
  | number (n : Option Nat)
deriving DecidableEq, Repr

/-- The identifier that a scan has given. -/
def SharedAnswer.identifier? : SharedAnswer → Option Token
  | outcome o => o.identifier?
  | number _ => none

/-- A call with its answer. -/
structure SharedStep where
  call : SharedCall
  answer : SharedAnswer
deriving DecidableEq, Repr

namespace SharedStep

def identifier? (step : SharedStep) : Option Token := step.answer.identifier?

/-- The text that was handed to the table to be numbered. -/
def interned? (step : SharedStep) : Option String :=
  match step.call with
  | .next _ => step.identifier?.map Token.text
  | .table c => c.interned?

end SharedStep

/-- The scan uses the shared table, and its entries for identifiers have one name. -/
structure OpenScan.Shares (o : OpenScan) (name idName : String) : Prop where
  table : o.table = .shared name
  named : ∀ e ∈ o.grammar.entries, e.tokenClass = .id → e.name = idName

namespace Session

variable {s : Session} {name idName : String}

/-- A step: the answer, and the session after it. -/
def perform (s : Session) (name : String) : SharedCall → SharedAnswer × Session
  | .next scan =>
    let (answer, _, s) := s.call scan fun g scanner table => scanner.next g table
    (.outcome answer, s)
  | .table (.intern text) =>
    let (id, s) := s.intern (.shared name) text
    (.number (some id), s)
  | .table (.get text) => (.number ((s.table (.shared name)).get? text), s)
  | .table .size => (.number (some (s.table (.shared name)).size), s)

/-- The session after the steps in turn. -/
def after (s : Session) (name : String) (cs : List SharedCall) : Session :=
  cs.foldl (fun s c => (s.perform name c).2) s

/-- The steps in turn, each with its answer. -/
def history (s : Session) (name : String) : List SharedCall → List SharedStep
  | [] => []
  | c :: cs => ⟨c, (s.perform name c).1⟩ :: history (s.perform name c).2 name cs

theorem table_setTable (s : Session) (name : String) (t : IdentTable) :
    (s.setTable (.shared name) t).table (.shared name) = t := by
  simp [setTable, table]

/-- A call on a scan that uses a shared table: it finds the table as it is, and leaves it to the others
as it makes it. -/
theorem call_of_shared {α : Type} {scan : String}
    (f : Grammar → Scanner → IdentTable → Step IdentTable α)
    (h : (s.scan scan).table = .shared name) :
    let step := f (s.scan scan).grammar (s.scan scan).scanner (s.table (.shared name))
    (s.call scan f).1 = step.answer ∧ (s.call scan f).2.2.table (.shared name) = step.table ∧
      ∀ other, (s.call scan f).2.2.scan other =
        if other = scan then ⟨step.scanner, (s.scan scan).grammar, .shared name⟩ else s.scan other := by
  intro step
  have found : s.scanTable scan = s.table (.shared name) := by rw [scanTable, h]
  have answer : s.call scan f = (step.answer, step.events,
      { ({ s with scans := s.scans.erase scan } : Session).setTable (.shared name) step.table with
        scans := (s.scans.erase scan).insert scan
          ⟨step.scanner, (s.scan scan).grammar, .shared name⟩ }) := by
    simp only [call, found, h]
    rfl
  rw [answer]
  refine ⟨rfl, ?_, fun other => ?_⟩
  · simp [setTable, table]
  · unfold Session.scan
    simp only [Std.TreeMap.getElem?_insert, Std.TreeMap.getElem?_erase, Std.compare_eq_iff_eq]
    by_cases same : other = scan
    · simp [same]
    · simp [same, Ne.symm same]

/-- A step leaves each scan its grammar and its table. -/
theorem shares_perform {c : SharedCall} (user : ∀ scan, c = .next scan → (s.scan scan).Shares name idName)
    {scan : String} (h : (s.scan scan).Shares name idName) :
    ((s.perform name c).2.scan scan).Shares name idName := by
  cases c with
  | next called =>
    have scans := (call_of_shared (fun g scanner table => scanner.next g table)
      (user called rfl).table).2.2 scan
    simp only [perform]
    rw [scans]
    split
    · exact ⟨rfl, (user called rfl).named⟩
    · exact h
  | table c => cases c <;> exact h

/-- A step numbers the text that is handed to the table, if one is, and no other. -/
theorem table_perform {c : SharedCall} (user : ∀ scan, c = .next scan → (s.scan scan).Shares name idName) :
    (s.perform name c).2.table (.shared name) =
      (s.table (.shared name)).internAll (SharedStep.mk c (s.perform name c).1).interned?.toList := by
  cases c with
  | next scan =>
    obtain ⟨answer, table, -⟩ := call_of_shared (fun g scanner table => scanner.next g table)
      (user scan rfl).table
    simp only [perform, SharedStep.interned?, SharedStep.identifier?, SharedAnswer.identifier?]
    rw [answer, table]
    rcases Scanner.next_numbering (s.scan scan).grammar (s.scan scan).scanner
      (s.table (.shared name)) with ⟨t, e, given, -, -, -, after⟩ | ⟨given, after⟩
    · rw [given, after]
      rfl
    · rw [given, after]
      rfl
  | table c =>
    cases c with
    | intern text => exact table_setTable s name _
    | get text => rfl
    | size => rfl

/-- An identifier is named for the number that its text has after the step. -/
theorem kind_perform {c : SharedCall} (user : ∀ scan, c = .next scan → (s.scan scan).Shares name idName)
    {t : Token} (given : (s.perform name c).1.identifier? = some t) :
    ∃ id, t.kind = idName ++ toString id ∧
      ((s.perform name c).2.table (.shared name)).get? t.text = some id := by
  cases c with
  | next scan =>
    obtain ⟨answer, table, -⟩ := call_of_shared (fun g scanner table => scanner.next g table)
      (user scan rfl).table
    simp only [perform, SharedAnswer.identifier?] at given ⊢
    rw [answer] at given
    rw [table]
    rcases Scanner.next_numbering (s.scan scan).grammar (s.scan scan).scanner
      (s.table (.shared name)) with ⟨t', e, given', mem, isId, kind, after⟩ | ⟨given', -⟩
    · rw [given'] at given
      obtain rfl := Option.some.inj given
      rw [(user scan rfl).named e mem isId] at kind
      refine ⟨_, kind, ?_⟩
      rw [after]
      exact IdentTable.get?_intern _ _
    · rw [given'] at given
      exact absurd given.symm (Option.some_ne_none t)
  | table c => cases c <;> exact absurd given.symm (Option.some_ne_none t)

variable {cs : List SharedCall}

/-- Scans that share the table when the calls begin share it at the first call, and behind it. -/
theorem users_cons {c : SharedCall}
    (users : ∀ scan, .next scan ∈ c :: cs → (s.scan scan).Shares name idName) :
    (∀ scan, c = .next scan → (s.scan scan).Shares name idName) ∧
      ∀ scan, .next scan ∈ cs → ((s.perform name c).2.scan scan).Shares name idName := by
  have user : ∀ scan, c = .next scan → (s.scan scan).Shares name idName := by
    intro scan here
    exact users scan (here ▸ List.mem_cons_self)
  constructor
  · exact user
  · intro scan mem
    exact shares_perform user (users scan (List.mem_cons_of_mem c mem))

/-- The texts handed to the table are numbered one after another, whoever hands them in. -/
theorem table_after (users : ∀ scan, .next scan ∈ cs → (s.scan scan).Shares name idName) :
    (s.after name cs).table (.shared name) =
      (s.table (.shared name)).internAll ((s.history name cs).filterMap SharedStep.interned?) := by
  induction cs generalizing s with
  | nil => rfl
  | cons c cs ih =>
    obtain ⟨user, later⟩ := users_cons users
    have numbered := ih later
    have onward : s.after name (c :: cs) = (s.perform name c).2.after name cs := rfl
    rw [onward, numbered, table_perform user, ← IdentTable.internAll_append, history,
      List.filterMap_cons]
    cases (SharedStep.mk c (s.perform name c).1).interned? <;> rfl

/-- An identifier given at any time is named for the number that its text has at the end. -/
theorem exists_number_of_mem_history
    (users : ∀ scan, .next scan ∈ cs → (s.scan scan).Shares name idName) {t : Token}
    (given : t ∈ (s.history name cs).filterMap SharedStep.identifier?) :
    ∃ id, t.kind = idName ++ toString id ∧
      ((s.after name cs).table (.shared name)).get? t.text = some id := by
  induction cs generalizing s with
  | nil => exact absurd given List.not_mem_nil
  | cons c cs ih =>
    obtain ⟨user, users'⟩ := users_cons users
    obtain ⟨step, mem, here⟩ := List.mem_filterMap.1 given
    rcases List.mem_cons.1 mem with rfl | mem
    · obtain ⟨id, kind, number⟩ := kind_perform user here
      refine ⟨id, kind, ?_⟩
      have onward : s.after name (c :: cs) = (s.perform name c).2.after name cs := rfl
      rw [onward, table_after users']
      exact IdentTable.get?_internAll number _
    · exact ih users' (List.mem_filterMap.2 ⟨step, mem, here⟩)

end Session

/-- Scans on one shared table, whose entries for identifiers have one name, in any interleaving with
each other and with calls on the table. The names of the table are those known before, then those of
the texts handed in, each where it comes first. Identifiers, whichever scan gave them and when, have
one kind if and only if they have one name. -/
theorem shared_table_of_calls (earlier : List TableCall) (s : Session) (name idName : String)
    (cs : List SharedCall)
    (made : s.table (.shared name) = IdentTable.empty.after earlier)
    (users : ∀ scan, .next scan ∈ cs → (s.scan scan).Shares name idName) :
    let known := (s.table (.shared name)).names.toList
    let steps := s.history name cs
    let given := steps.filterMap SharedStep.identifier?
    ((s.after name cs).table (.shared name)).names.toList =
        known ++ IdentTable.newNames known (steps.filterMap SharedStep.interned?) ∧
      ∀ t ∈ given, ∀ t' ∈ given, (t.kind = t'.kind ↔ normalize t.text = normalize t'.text) := by
  intro known steps given
  have before : (s.table (.shared name)).Consistent := made ▸ IdentTable.consistent_after earlier
  have consistent : ((s.after name cs).table (.shared name)).Consistent := by
    rw [Session.table_after users]
    exact before.internAll _
  refine ⟨?_, fun t mem t' mem' => ?_⟩
  · rw [Session.table_after users]
    exact IdentTable.names_internAll before _
  · obtain ⟨id, kind, number⟩ := Session.exists_number_of_mem_history users mem
    obtain ⟨id', kind', number'⟩ := Session.exists_number_of_mem_history users mem'
    rw [kind, kind', String.append_right_inj, ← consistent.number_eq_iff number number']
    exact Nat.repr_inj

theorem Go.name_of_id : ∀ e ∈ Go.grammar.entries, e.tokenClass = .id → e.name = "id" := by
  rw [Go.grammar_eq]
  decide

/-- Two scans and a direct call hand in the same name, and one of the scans fails. -/
theorem shared_table_of_two_scans :
    let s := (Session.empty.start "a" "x y" (some "t") Go.grammar).start "b" "y ?" (some "t") Go.grammar
    let cs : List SharedCall :=
      [.next "a", .table (.intern "\x60y\x60"), .next "b", .next "b", .next "b", .table .size,
        .next "a", .next "a"]
    let given := (s.history "t" cs).filterMap SharedStep.identifier?
    s.table (.shared "t") = IdentTable.empty.after [] ∧
      (∀ scan, .next scan ∈ cs → (s.scan scan).Shares "t" "id") ∧
      ((s.after "t" cs).table (.shared "t")).names.toList = ["x", "y"] ∧
      ∀ t ∈ given, ∀ t' ∈ given, (t.kind = t'.kind ↔ normalize t.text = normalize t'.text) := by
  intro s cs given
  have made : s.table (.shared "t") = IdentTable.empty.after [] := rfl
  have users : ∀ scan, .next scan ∈ cs → (s.scan scan).Shares "t" "id" := by
    intro scan mem
    have called : scan = "a" ∨ scan = "b" ∨ scan = "a" := by simpa [cs] using mem
    rcases called with rfl | rfl | rfl <;> exact ⟨rfl, Go.name_of_id⟩
  have handed_in : (s.history "t" cs).filterMap SharedStep.interned? = ["x", "\x60y\x60", "y", "y"] := by
    simp only [s, cs]
    rw [Go.grammar_eq]
    decide +kernel
  obtain ⟨names, kinds⟩ := shared_table_of_calls [] s "t" "id" cs made users
  rw [handed_in] at names
  exact ⟨made, users, names.trans (by decide +kernel), kinds⟩

end GoScan
