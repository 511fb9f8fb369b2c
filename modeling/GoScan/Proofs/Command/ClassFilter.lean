import GoScan.Proofs.Command.Listings

/-!
# The class asked for only chooses among the lines

A run prints headers and the lines of tokens. Which class is asked for has no part in what is scanned or
in what is said of files that cannot be: it leaves out lines of tokens, and nothing else.

* `scanFile_withClass`: one file ends alike, and leaves the same table, whatever class is asked for;
* `exists_listings`: there is one list of what is recorded, from which every class takes its own;
* `class_filters`: so a run that asks for a class prints the lines of the run that does not, but those
  of tokens of other classes.
-/

namespace GoScan.Command

/-- A line of what a run prints. -/
inductive Line where
  | header (file : String)
  | token (t : Token)

namespace Line

def text : Line → String
  | header file => "-> " ++ file ++ "\n"
  | token t => t.display ++ "\n"

/-- The line stays if tokens of the class are to be shown: headers do, whatever the class. -/
def stays (c : TokenClass) : Line → Bool
  | header _ => true
  | token t => decide (t.tokenClass = c)

end Line

namespace Listing

def lines (l : Listing) : List Line := .header l.file :: l.tokens.map .token

theorem text_eq_join_lines (l : Listing) : l.text = String.join (l.lines.map Line.text) := by
  rw [lines, List.map_cons, String.join_cons, List.map_map]
  rfl

theorem lines_shown {o : Options} {c : TokenClass} (asked : o.tokenClass = some c) (l : Listing) :
    (l.shown o).lines = l.lines.filter (Line.stays c) := by
  have shows : o.shows = fun t => decide (t.tokenClass = c) := by
    funext t
    rw [Options.shows, asked, Option.all_some]
  rw [lines, lines, shown, shows, List.filter_cons_of_pos rfl, List.filter_map]
  rfl

theorem shown_all {o : Options} (all : o.tokenClass = none) (l : Listing) : l.shown o = l := by
  have shows (t : Token) : o.shows t = true := by rw [Options.shows, all, Option.all_none]
  rw [shown, List.filter_eq_self.2 fun t _ => shows t]

/-- The listing of all that a scan of the file with some table records. -/
def Records (read : String → Except ReadError String) (l : Listing) : Prop :=
  ∃ (source : String) (table : IdentTable), read l.file = .ok source ∧
    l.tokens = ((Scanner.ofText source).analyze Go.grammar table).scanner.lists.all.toList

theorem Records.ne_skip {read : String → Except ReadError String} {l : Listing} (records : l.Records read) :
    ∀ t ∈ l.tokens, t.tokenClass ≠ .skip := by
  obtain ⟨source, table, -, tokens⟩ := records
  obtain ⟨ls, rest, scans, stops⟩ := exists_scans Go.grammar source.toList
  obtain ⟨all, -⟩ := Scanner.analyze_ofText table scans stops
  intro t mem skip
  rw [tokens, all] at mem
  have emitted := (List.mem_filter.1 mem).2
  simp [Token.isSkip, skip] at emitted

/-- Tokens that are skipped are not recorded, so that nothing but the header is shown for their class. -/
theorem Records.text_shown_skip {read : String → Except ReadError String} {l : Listing}
    (records : l.Records read) {o : Options} (asked : o.tokenClass = some .skip) :
    (l.shown o).text = "-> " ++ l.file ++ "\n" := by
  have hidden : l.tokens.filter o.shows = [] := by
    rw [List.filter_eq_nil_iff]
    intro t listed
    have other := records.ne_skip t listed
    simp [Options.shows, asked, other]
  rw [shown, hidden]
  exact String.append_empty

end Listing

/-- The options with another class asked for, or with none. -/
def Options.withClass (o : Options) (c : Option TokenClass) : Options := { o with tokenClass := c }

/-- Whatever class is asked for, a file leaves the same table, and the same is said of it. -/
theorem scanFile_withClass (o : Options) (c : Option TokenClass) (file : String)
    (contents : Except ReadError String) (table : IdentTable) :
    (scanFile (o.withClass c) file contents table).2 = (scanFile o file contents table).2 ∧
      (scanFile (o.withClass c) file contents table).1.ok = (scanFile o file contents table).1.ok ∧
      (scanFile (o.withClass c) file contents table).1.errors =
        (scanFile o file contents table).1.errors := by
  cases contents with
  | error e => exact ⟨rfl, rfl, rfl⟩
  | ok source =>
    have locale : (o.withClass c).locale = o.locale := rfl
    have log : fileLog (o.withClass c) = fileLog o := rfl
    simp only [scanFile, locale, log]
    cases (((Scanner.ofText source).withLocale o.locale).analyze Go.grammar table).answer with
    | none => exact ⟨rfl, rfl, rfl⟩
    | some f => exact ⟨rfl, rfl, rfl⟩

/-- A file that is scanned is listed, what the options have shown of it. -/
theorem output_scanFile (o : Options) (file source : String) (table : IdentTable) :
    let recorded := ((Scanner.ofText source).analyze Go.grammar table).scanner.lists.all.toList
    (scanFile o file (.ok source) table).1.output = (Listing.shown o ⟨file, recorded⟩).text := by
  obtain ⟨-, lists, -⟩ := Scanner.analyze_withLocale Go.grammar source o.locale table
  have chosen := selected_analyze o source table
  dsimp only at lists chosen ⊢
  rw [Listing.shown, ← chosen, ← lists, scanFile]
  cases (((Scanner.ofText source).withLocale o.locale).analyze Go.grammar table).answer <;> rfl

/-- Whatever class is asked for, the files end alike, and the same is said of them. -/
theorem scanFiles_withClass (o : Options) (c : Option TokenClass)
    (read : String → Except ReadError String) (files : List String) (table : IdentTable) :
    (scanFiles (o.withClass c) read files table).map (·.ok) =
        (scanFiles o read files table).map (·.ok) ∧
      (scanFiles (o.withClass c) read files table).map (·.errors) =
        (scanFiles o read files table).map (·.errors) := by
  induction files generalizing table with
  | nil => exact ⟨rfl, rfl⟩
  | cons file files ih =>
    obtain ⟨tables, oks, errors⟩ := scanFile_withClass o c file (read file) table
    have shared : (o.withClass c).sharedIds = o.sharedIds := rfl
    simp only [scanFiles, List.map_cons, tables, oks, errors, shared, ih, and_self]

/-- There is one list of what the files that can be read record, from which each class is shown. -/
theorem exists_listings (o : Options) (read : String → Except ReadError String) (files : List String)
    (table : IdentTable) :
    ∃ ls : List Listing,
      (∀ c, String.join ((scanFiles (o.withClass c) read files table).map (·.output)) =
        String.join (ls.map fun l => (l.shown (o.withClass c)).text)) ∧
      ls.map Listing.file = files.filter (fun file => (read file).toOption.isSome) ∧
      ∀ l ∈ ls, l.Records read := by
  induction files generalizing table with
  | nil => exact ⟨[], fun _ => rfl, rfl, by simp⟩
  | cons file files ih =>
    -- The table that the first file leaves does not depend on the class.
    obtain ⟨ls, outputs, names, each⟩ :=
      ih (if o.sharedIds then (scanFile o file (read file) table).2 else .empty)
    have one_by_one (c : Option TokenClass) :
        String.join ((scanFiles (o.withClass c) read (file :: files) table).map (·.output)) =
          (scanFile (o.withClass c) file (read file) table).1.output ++
            String.join (ls.map fun l => (l.shown (o.withClass c)).text) := by
      obtain ⟨tables, -⟩ := scanFile_withClass o c file (read file) table
      have shared : (o.withClass c).sharedIds = o.sharedIds := rfl
      rw [← outputs, ← tables, ← shared, scanFiles, List.map_cons, String.join_cons]
    cases contents : read file with
    | error e =>
      have unread : ¬(read file).toOption.isSome := by simp [contents, Except.toOption]
      refine ⟨ls, ?_, ?_, each⟩
      · intro c
        have nothing : (scanFile (o.withClass c) file (.error e) table).1.output = "" := rfl
        rw [one_by_one, contents, nothing, String.empty_append]
      · rw [List.filter_cons, if_neg unread, names]
    | ok source =>
      let recorded := ((Scanner.ofText source).analyze Go.grammar table).scanner.lists.all.toList
      have can_read : (read file).toOption.isSome := by rw [contents]; rfl
      refine ⟨⟨file, recorded⟩ :: ls, ?_, ?_, ?_⟩
      · intro c
        rw [one_by_one, contents, output_scanFile, List.map_cons, String.join_cons]
      · rw [List.filter_cons, if_pos can_read, List.map_cons, names]
      · exact List.forall_mem_cons.2 ⟨⟨source, table, contents, rfl⟩, each⟩

/-- What listings print are their lines. -/
theorem join_text (ls : List Listing) :
    String.join (ls.map Listing.text) = String.join ((ls.flatMap Listing.lines).map Line.text) := by
  induction ls with
  | nil => rfl
  | cons l ls ih =>
    rw [List.map_cons, String.join_cons, ih, l.text_eq_join_lines, List.flatMap_cons, List.map_append,
      String.join_append]

/-- Two command lines that ask for the same, one of them with a class. The runs end with one code and say
the same of files that cannot be read or scanned. What the one prints are lines, headers of the files that
can be read with all that is recorded of each behind them, and the other prints of these lines those that
stay for the class. For the class of tokens that are skipped these are the headers. -/
theorem class_filters (plainArgs classArgs : List String) (options : Options) (c : TokenClass)
    (read : String → Except ReadError String) (all : options.tokenClass = none)
    (asked : readArguments plainArgs = .ok (.tokenize options))
    (asked_class : readArguments classArgs = .ok (.tokenize { options with tokenClass := some c })) :
    let plain := run plainArgs read
    let filtered := run classArgs read
    (filtered.code = plain.code ∧ filtered.errors = plain.errors) ∧
    ∃ ls : List Listing,
      (ls.map Listing.file = options.files.filter (fun file => (read file).toOption.isSome) ∧
        ∀ l ∈ ls, l.Records read) ∧
      plain.output = String.join ((ls.flatMap Listing.lines).map Line.text) ∧
      filtered.output =
        String.join (((ls.flatMap Listing.lines).filter (Line.stays c)).map Line.text) ∧
      (c = .skip → filtered.output = String.join (ls.map fun l => "-> " ++ l.file ++ "\n")) := by
  intro plain filtered
  have plain_eq : plain = tokenize options read := run_of_asked asked read
  have filtered_eq : filtered = tokenize (options.withClass (some c)) read :=
    run_of_asked asked_class read
  obtain ⟨oks, errors⟩ := scanFiles_withClass options (some c) read options.files .empty
  obtain ⟨ls, outputs, files, records⟩ := exists_listings options read options.files .empty
  have whole : options.withClass none = options := by rw [Options.withClass, ← all]
  have plain_output : plain.output = String.join (ls.map Listing.text) := by
    have shown : (ls.map fun l => (l.shown options).text) = ls.map Listing.text := by
      simp only [Listing.shown_all all]
    have output := outputs none
    rw [whole, shown] at output
    rw [plain_eq]
    exact output
  have filtered_output : filtered.output =
      String.join ((ls.map (Listing.shown (options.withClass (some c)))).map Listing.text) := by
    rw [filtered_eq, List.map_map]
    exact outputs (some c)
  have chosen : (ls.map (Listing.shown (options.withClass (some c)))).flatMap Listing.lines =
      (ls.flatMap Listing.lines).filter (Line.stays c) := by
    have each : (fun l : Listing => (l.shown (options.withClass (some c))).lines) =
        fun l => l.lines.filter (Line.stays c) := funext fun l => Listing.lines_shown rfl l
    rw [List.flatMap_map, List.filter_flatMap, each]
  refine ⟨⟨?_, ?_⟩, ls, ⟨files, records⟩, ?_, ?_, ?_⟩
  · have all_ok (o : Options) : (tokenize o read).code =
        if ((scanFiles o read o.files .empty).map (·.ok)).all id then 0 else 1 := by
      rw [List.all_map]
      rfl
    have same_files : (options.withClass (some c)).files = options.files := rfl
    rw [plain_eq, filtered_eq, all_ok, all_ok, same_files, oks]
  · rw [plain_eq, filtered_eq]
    exact congrArg String.join errors
  · rw [plain_output, join_text]
  · rw [filtered_output, join_text, chosen]
  · rintro rfl
    rw [filtered_output, List.map_map]
    exact congrArg String.join (List.map_congr_left fun l mem => (records l mem).text_shown_skip rfl)

/-- A file on which the scan fails, one that is missing, and one behind them: the headers remain. -/
theorem class_filters_skip :
    let read : String → Except ReadError String := fun file =>
      if file = "a.go" then .ok "x 1 ?" else if file = "b.go" then .ok "y x" else .error .notFound
    let plain := run ["--shared-ids", "a.go", "no.go", "b.go"] read
    let filtered := run ["--class=skip", "--shared-ids", "a.go", "no.go", "b.go"] read
    filtered.code = plain.code ∧ filtered.errors = plain.errors ∧
      filtered.output = "-> a.go\n-> b.go\n" := by
  intro read plain filtered
  let options : Options := ⟨["a.go", "no.go", "b.go"], none, true, .en, false⟩
  have asked : readArguments ["--shared-ids", "a.go", "no.go", "b.go"] = .ok (.tokenize options) := by cbv
  have asked_class : readArguments ["--class=skip", "--shared-ids", "a.go", "no.go", "b.go"] =
      .ok (.tokenize { options with tokenClass := some .skip }) := by cbv
  obtain ⟨⟨code, errors⟩, ls, ⟨files, -⟩, -, -, headers⟩ :=
    class_filters _ _ options .skip read rfl asked asked_class
  have names : ls.map Listing.file = ["a.go", "b.go"] := by
    rw [files]
    decide
  have output : filtered.output =
      String.join ((ls.map Listing.file).map fun file => "-> " ++ file ++ "\n") := by
    rw [List.map_map]
    exact headers rfl
  rw [names] at output
  exact ⟨code, errors, output⟩

end GoScan.Command
