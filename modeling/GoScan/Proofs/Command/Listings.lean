import GoScan.Command.Run
import GoScan.Proofs.Command.Arguments
import GoScan.Proofs.Ident.Places

/-!
# Each file is listed by itself

Where the log is not asked for, a file adds to the output the listing of its tokens, and to the errors
a complaint if it cannot be read or scanned.

* `Scanner.analyze_withLocale`: the locale has no part in what a run records;
* `scanFile_eq`: what a file adds, and the identifiers that it leaves in the table;
* `scanFiles_own`: without shared numbers each file adds what it adds alone;
* `files_compose`: so a command line with several files does what it does with each of them in turn.
-/

namespace GoScan

theorem Scanner.stopped_withLocale (s : Scanner) (l : Locale) :
    (s.withLocale l).stopped = s.stopped.withLocale l := by
  by_cases atEnd : s.rest = [] <;> simp [stopped, withLocale, failureHere, atEnd]

/-- The locale has no part in what a run to the end records. -/
theorem Scanner.analyze_withLocale {ι : Type} [Interner ι] (g : Grammar) (source : String)
    (l : Locale) (table : ι) :
    let run := ((ofText source).withLocale l).analyze g table
    let run' := (ofText source).analyze g table
    run.answer = run'.answer ∧ run.scanner.lists = run'.scanner.lists ∧ run.table = run'.table := by
  obtain ⟨ls, rest, scans, stops⟩ := exists_scans g source.toList
  obtain ⟨events, ended⟩ := analyze_eq (s := (ofText source).withLocale l) table scans stops rfl
  obtain ⟨events', ended'⟩ := analyze_eq (s := ofText source) table scans stops rfl
  have same : ((ofText source).withLocale l).after table ls =
      ((ofText source).after table ls).withLocale l := rfl
  rw [same, stopped_withLocale] at ended
  dsimp only
  rw [ended, ended']
  exact ⟨rfl, rfl, rfl⟩

namespace Command

/-- Tokens to be listed under the name of their file. -/
structure Listing where
  file : String
  tokens : List Token

/-- The options have the token shown. -/
def Options.shows (o : Options) (t : Token) : Bool := o.tokenClass.all (t.tokenClass = ·)

namespace Listing

/-- The lines of the listing. -/
def text (l : Listing) : String :=
  "-> " ++ l.file ++ "\n" ++ String.join (l.tokens.map fun t => t.display ++ "\n")

/-- The listing of the tokens that are to be shown. -/
def shown (o : Options) (l : Listing) : Listing := { l with tokens := l.tokens.filter o.shows }

/-- The listing with the identifiers numbered by the places of their texts among the names. -/
def numbered (names : List String) (l : Listing) : Listing :=
  { l with tokens := l.tokens.map (Token.numbered names) }

/-- The texts of the identifiers in the listing. -/
def identifiers (l : Listing) : List String := identifierTexts l.tokens

end Listing

/-! ## What one file adds -/

/-- The tokens of the file, if it can be read: those that a scan on its own records. -/
def listing? (file : String) (contents : Except ReadError String) : Option Listing :=
  contents.toOption.map fun source => ⟨file, Go.recorded source⟩

/-- What is to be said if the file cannot be read or scanned. -/
def complaint (file : String) : Except ReadError String → String
  | .error e => "Error: cannot read " ++ file ++ ": " ++ e.message ++ "\n"
  | .ok source => (Go.scan source).answer.elim "" fun f => f.report source.toList file

/-- The file can be read, and scanned to its end. -/
def passes : Except ReadError String → Bool
  | .error _ => false
  | .ok source => (Go.scan source).answer.isNone

/-- What the file adds, if its listing is shown with the identifiers numbered as they are to be. -/
def Options.report (o : Options) (number : Listing → Listing) (file : String)
    (contents : Except ReadError String) : FileReport where
  ok := passes contents
  output := (listing? file contents).elim "" fun l => ((number l).shown o).text
  errors := complaint file contents

theorem Options.report_text (o : Options) (number : Listing → Listing) (file source : String) :
    o.report number file (.ok source) =
      ⟨(Go.scan source).answer.isNone, ((number ⟨file, Go.recorded source⟩).shown o).text,
        (Go.scan source).answer.elim "" fun f => f.report source.toList file⟩ := rfl

variable {o : Options} {table : IdentTable}

/-- Without the verbose option nothing is logged. -/
theorem fileLog_of_quiet (quiet : o.verbose = false) (file : String) (events : Array Event) :
    fileLog o file events = "" := by
  have unseen (e : Event) : e.level.shownAt .warn = false := by cases e <;> rfl
  simp only [fileLog, logThreshold, quiet, unseen, Bool.false_eq_true, if_false, List.filter_false]
  rfl

/-- What is selected of the tokens that a run records is what the options have shown. -/
theorem selected_analyze (o : Options) (source : String) (table : IdentTable) :
    let lists := ((Scanner.ofText source).analyze Go.grammar table).scanner.lists
    (selected o lists).toList = lists.all.toList.filter o.shows := by
  obtain ⟨ls, rest, scans, stops⟩ := exists_scans Go.grammar source.toList
  obtain ⟨all, ofClass, -⟩ := Scanner.analyze_ofText table scans stops
  dsimp only
  unfold selected
  cases asked : o.tokenClass with
  | none =>
    have each (t : Token) : o.shows t = true := by rw [Options.shows, asked, Option.all_none]
    rw [List.filter_eq_self.2 fun t _ => each t]
  | some c =>
    have one (t : Token) : o.shows t = decide (t.tokenClass = c) := by
      rw [Options.shows, asked, Option.all_some]
    rw [ofClass, all, funext one]

theorem identifiers_listing? (file source : String) :
    (listing? file (.ok source)).toList.flatMap Listing.identifiers =
      identifierTexts (Go.recorded source) := List.append_nil _

/-- A file that is scanned leaves its identifiers in the table. It is listed with the numbers that they
have there at any later time. -/
theorem scanFile_eq (quiet : o.verbose = false) (h : table.Consistent) (later : List String)
    (file : String) (contents : Except ReadError String) :
    let after := table.internAll ((listing? file contents).toList.flatMap Listing.identifiers)
    scanFile o file contents table =
      (o.report (Listing.numbered (after.internAll later).names.toList) file contents, after) := by
  cases contents with
  | error e => rfl
  | ok source =>
    obtain ⟨answer, lists, table'⟩ := Scanner.analyze_withLocale Go.grammar source o.locale table
    have numbered := Go.recorded_analyze h source later
    have chosen := selected_analyze o source table
    dsimp only at answer lists table' numbered chosen
    -- The table changes neither how the scan ends nor which identifiers it finds.
    rw [Go.answer_analyze] at answer
    rw [Go.table_analyze h source] at table' numbered
    simp only [scanFile, answer, lists, table', fileLog_of_quiet quiet, chosen, numbered,
      identifiers_listing?, String.empty_append]
    rw [Options.report_text]
    cases (Go.scan source).answer <;> rfl

/-- On its own a file has its identifiers numbered in the order in which they first occur in it. -/
theorem Listing.numbered_alone (file source : String) :
    let l : Listing := ⟨file, Go.recorded source⟩
    l.numbered l.identifiers.eraseDups = l := by
  dsimp only [numbered, identifiers]
  rw [Go.recorded_eq_numbered]

theorem scanFile_alone (quiet : o.verbose = false) (file : String)
    (contents : Except ReadError String) :
    (scanFile o file contents .empty).1 = o.report id file contents := by
  cases contents with
  | error e => rfl
  | ok source =>
    have plain : ∀ text ∈ identifierTexts (Go.recorded source), normalize text = text := by
      intro text mem
      exact Go.normalize_identifierText mem
    have names := IdentTable.names_of_plain plain
    have own := Listing.numbered_alone file source
    dsimp only [Listing.identifiers] at own
    rw [scanFile_eq quiet IdentTable.consistent_empty [], ← IdentTable.internAll_append,
      List.append_nil, identifiers_listing?, names, Options.report_text, Options.report_text, own]
    rfl

/-! ## Files in turn -/

theorem scanFiles_own (own : o.sharedIds = false) (quiet : o.verbose = false)
    (read : String → Except ReadError String) (files : List String) :
    scanFiles o read files .empty = files.map fun file => o.report id file (read file) := by
  induction files with
  | nil => rfl
  | cons file files ih =>
    rw [List.map_cons, ← scanFile_alone quiet, ← ih]
    simp only [scanFiles, own, Bool.false_eq_true, if_false]

theorem run_of_asked {args : List String} (asked : readArguments args = .ok (.tokenize o))
    (read : String → Except ReadError String) : run args read = tokenize o read := by
  rw [run, asked]

theorem tokenize_own (own : o.sharedIds = false) (quiet : o.verbose = false)
    (read : String → Except ReadError String) :
    tokenize o read =
      ⟨if ∀ file ∈ o.files, passes (read file) then 0 else 1,
        String.join (o.files.map fun file => (o.report id file (read file)).output),
        String.join (o.files.map fun file => complaint file (read file))⟩ := by
  simp only [tokenize, scanFiles_own own quiet, List.map_map, List.all_map, List.all_eq_true]
  rfl

end Command

end GoScan
