import GoScan.Proofs.Command.Listings

/-!
# Shared numbers change the numbers only

Files that share one identifier table add the same to the output and to the errors as files with a table
each, but for the numbers of identifiers.

* `scanFiles_shared`: one file after another is listed with the numbers that the table has at the end;
* `tokenize_shared`: so a run prints the listings numbered by the names of all files;
* `shared_ids_renumber`: what two runs with and without shared numbers have in common, and that the
  shared numbers tell texts apart in all files at once.
-/

namespace GoScan.Command

/-- What there is to list of the files that can be read. -/
def listings (read : String → Except ReadError String) (files : List String) : List Listing :=
  files.filterMap fun file => listing? file (read file)

/-- The texts of the identifiers in the listings, each where it comes first. -/
def identifierNames (ls : List Listing) : List String := (ls.flatMap Listing.identifiers).eraseDups

variable {o : Options} {read : String → Except ReadError String} {files : List String}

theorem listings_cons (read : String → Except ReadError String) (file : String)
    (files : List String) :
    listings read (file :: files) = (listing? file (read file)).toList ++ listings read files := by
  rw [listings, List.filterMap_cons]
  cases listing? file (read file) <;> rfl

theorem exists_of_mem_listings {l : Listing} (mem : l ∈ listings read files) :
    ∃ file source, l = ⟨file, Go.recorded source⟩ := by
  obtain ⟨file, -, found⟩ := List.mem_filterMap.1 mem
  obtain ⟨source, -, rfl⟩ := Option.map_eq_some_iff.1 found
  exact ⟨file, source, rfl⟩

/-- The outputs of the files are the listings, one behind another. -/
theorem join_outputs (o : Options) (number : Listing → Listing)
    (read : String → Except ReadError String) (files : List String) :
    String.join (files.map fun file => (o.report number file (read file)).output) =
      String.join ((listings read files).map fun l => ((number l).shown o).text) := by
  induction files with
  | nil => rfl
  | cons file files ih =>
    rw [List.map_cons, String.join_cons, ih, listings_cons, Options.report]
    cases listing? file (read file) <;> simp

/-- Files that share a table are listed with the numbers that the table has at the end. -/
theorem scanFiles_shared (shared : o.sharedIds) (quiet : o.verbose = false) {table : IdentTable}
    (h : table.Consistent) (read : String → Except ReadError String) (files : List String) :
    let last := table.internAll ((listings read files).flatMap Listing.identifiers)
    scanFiles o read files table =
      files.map fun file => o.report (Listing.numbered last.names.toList) file (read file) := by
  induction files generalizing table with
  | nil => rfl
  | cons file files ih =>
    -- The numbers of this file are read off the last table, when the later files have had theirs.
    have first := scanFile_eq quiet h ((listings read files).flatMap Listing.identifiers) file
      (read file)
    have later := ih (h.internAll ((listing? file (read file)).toList.flatMap Listing.identifiers))
    dsimp only at first later ⊢
    rw [listings_cons, List.flatMap_append, IdentTable.internAll_append, scanFiles, first,
      List.map_cons, ← later]
    simp only [shared, if_true]

theorem names_listings (read : String → Except ReadError String) (files : List String) :
    (IdentTable.empty.internAll ((listings read files).flatMap Listing.identifiers)).names.toList =
      identifierNames (listings read files) := by
  apply IdentTable.names_of_plain
  intro text mem
  obtain ⟨l, among, named⟩ := List.mem_flatMap.1 mem
  obtain ⟨file, source, rfl⟩ := exists_of_mem_listings among
  exact Go.normalize_identifierText named

theorem tokenize_shared (shared : o.sharedIds) (quiet : o.verbose = false)
    (read : String → Except ReadError String) :
    let ls := listings read o.files
    tokenize o read =
      ⟨if ∀ file ∈ o.files, passes (read file) then 0 else 1,
        String.join (ls.map fun l => ((l.numbered (identifierNames ls)).shown o).text),
        String.join (o.files.map fun file => complaint file (read file))⟩ := by
  have reports := scanFiles_shared shared quiet IdentTable.consistent_empty read o.files
  dsimp only at reports ⊢
  rw [← join_outputs, ← names_listings]
  simp only [tokenize, reports, List.map_map, List.all_map, List.all_eq_true]
  rfl

/-- Two command lines that ask for the same, one of them with shared numbers. The runs end with one code
and say the same of files that cannot be read or scanned. They print the same listings but for the
numbers of identifiers: in the one each file counts for itself, in the other the numbers are those of
the texts in all listings, each where it first occurs. So with shared numbers identifiers anywhere are
of one kind exactly if they have one text. -/
theorem shared_ids_renumber (plainArgs sharedArgs : List String) (options : Options)
    (read : String → Except ReadError String) (own : options.sharedIds = false)
    (quiet : options.verbose = false)
    (asked : readArguments plainArgs = .ok (.tokenize options))
    (asked_shared : readArguments sharedArgs = .ok (.tokenize { options with sharedIds := true })) :
    let plain := run plainArgs read
    let shared := run sharedArgs read
    let ls := listings read options.files
    let names := identifierNames ls
    (plain.code = shared.code ∧ plain.errors = shared.errors) ∧
    (plain.output = String.join (ls.map fun l => (l.shown options).text) ∧
      shared.output = String.join (ls.map fun l => ((l.numbered names).shown options).text) ∧
      ∀ l ∈ ls, l.numbered l.identifiers.eraseDups = l) ∧
    ∀ l ∈ ls, ∀ l' ∈ ls, ∀ t ∈ (l.numbered names).tokens, ∀ t' ∈ (l'.numbered names).tokens,
      t.tokenClass = .id → t'.tokenClass = .id → (t.kind = t'.kind ↔ t.text = t'.text) := by
  intro plain shared ls names
  have plain_eq : plain = tokenize options read := run_of_asked asked read
  have shared_eq : shared = tokenize { options with sharedIds := true } read :=
    run_of_asked asked_shared read
  rw [tokenize_own own quiet, join_outputs] at plain_eq
  rw [tokenize_shared (o := { options with sharedIds := true }) rfl quiet] at shared_eq
  refine ⟨?_, ⟨?_, ?_, ?_⟩, ?_⟩
  · rw [plain_eq, shared_eq]
    exact ⟨rfl, rfl⟩
  · rw [plain_eq]
    rfl
  · rw [shared_eq]
    rfl
  · intro l mem
    obtain ⟨file, source, rfl⟩ := exists_of_mem_listings mem
    exact Listing.numbered_alone file source
  · intro l mem l' mem' t among t' among' id id'
    obtain ⟨u, held, rfl⟩ := List.mem_map.1 among
    obtain ⟨u', -, rfl⟩ := List.mem_map.1 among'
    rw [Token.tokenClass_numbered] at id id'
    rw [Token.text_numbered, Token.text_numbered]
    apply Token.kind_numbered_eq_iff id id'
    have listed : u.text ∈ l.identifiers := by
      refine List.mem_map_of_mem (List.mem_filter.2 ⟨held, ?_⟩)
      rw [id]
      rfl
    exact List.mem_eraseDups.2 (List.mem_flatMap.2 ⟨l, mem, listed⟩)

/-- A file on which the scan fails, one that is missing, and one that has the same names. -/
theorem shared_ids_renumber_failing :
    let read : String → Except ReadError String := fun file =>
      if file = "a.go" then .ok "x y ?" else if file = "b.go" then .ok "y x" else .error .notFound
    let options : Options := ⟨["a.go", "no.go", "b.go"], none, false, .en, false⟩
    let plain := run ["a.go", "no.go", "b.go"] read
    let shared := run ["--shared-ids", "a.go", "no.go", "b.go"] read
    options.sharedIds = false ∧ options.verbose = false ∧
      readArguments ["a.go", "no.go", "b.go"] = .ok (.tokenize options) ∧
      readArguments ["--shared-ids", "a.go", "no.go", "b.go"] =
        .ok (.tokenize { options with sharedIds := true }) ∧
      plain.code = shared.code ∧ plain.errors = shared.errors ∧
      plain.output = "-> a.go\n1:1 id id0 \"x\"\n1:3 id id1 \"y\"\n" ++
        "-> b.go\n1:1 id id0 \"y\"\n1:3 id id1 \"x\"\n" ∧
      shared.output = "-> a.go\n1:1 id id0 \"x\"\n1:3 id id1 \"y\"\n" ++
        "-> b.go\n1:1 id id1 \"y\"\n1:3 id id0 \"x\"\n" := by
  intro read options plain shared
  have asked : readArguments ["a.go", "no.go", "b.go"] = .ok (.tokenize options) := by cbv
  have asked_shared : readArguments ["--shared-ids", "a.go", "no.go", "b.go"] =
      .ok (.tokenize { options with sharedIds := true }) := by cbv
  obtain ⟨⟨code, errors⟩, ⟨output, output', -⟩, -⟩ :=
    shared_ids_renumber _ _ options read rfl rfl asked asked_shared
  have first : Go.recorded "x y ?" =
      [⟨"id0", "x", .id, ⟨0, 1, 1⟩⟩, ⟨"id1", "y", .id, ⟨2, 1, 3⟩⟩] := by
    rw [Go.recorded, Go.scan, Go.grammar_eq]
    decide +kernel
  have last : Go.recorded "y x" =
      [⟨"id0", "y", .id, ⟨0, 1, 1⟩⟩, ⟨"id1", "x", .id, ⟨2, 1, 3⟩⟩] := by
    rw [Go.recorded, Go.scan, Go.grammar_eq]
    decide +kernel
  have listed : listings read options.files =
      [⟨"a.go", Go.recorded "x y ?"⟩, ⟨"b.go", Go.recorded "y x"⟩] := rfl
  rw [first, last] at listed
  rw [listed] at output output'
  refine ⟨rfl, rfl, asked, asked_shared, code, errors, output.trans ?_, output'.trans ?_⟩
  · decide +kernel
  · decide +kernel

end GoScan.Command
