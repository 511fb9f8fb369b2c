import GoScan.Proofs.Ident.Renumbering
import GoScan.Proofs.Scan.Drivers
import GoScan.Proofs.Text.Quoting

/-!
# What the kinds of identifiers tell

The kind of an identifier is the name of its entry with the number of its text put behind it. Nothing
stands between the two, so that a name that ends in digits can take part of a number.

* `append_number_eq`: where a name with a number behind it is another name with another number;
* `Scanner.exists_scans_performAll`: whatever is called, lexemes have been read and their texts numbered;
* `Scanner.kinds_of_identifiers`: kinds tell names of entries and names of identifiers, unless the name of one
  entry is that of the other with digits behind it.
-/

namespace GoScan

/-- The second text is the first with digits behind it. -/
def ContinuesInDigits (short long : String) : Prop :=
  ∃ digits : List Char, digits ≠ [] ∧ (∀ c ∈ digits, c.isDigit) ∧
    long.toList = short.toList ++ digits

theorem not_continuesInDigits_self (name : String) : ¬ContinuesInDigits name name := by
  rintro ⟨digits, some_digit, -, same⟩
  have size := congrArg List.length same
  rw [List.length_append] at size
  apply some_digit
  apply List.eq_nil_of_length_eq_zero
  omega

/-- If one name goes on with what the other number begins with, then names and numbers are the same, or
these are digits behind the other name. -/
theorem append_number_split {short long : String} {i j : Nat} {middle : List Char}
    (name : long.toList = short.toList ++ middle)
    (number : (toString i).toList = middle ++ (toString j).toList) :
    (short = long ∧ i = j) ∨ (i ≠ j ∧ ContinuesInDigits short long) := by
  by_cases nothing : middle = []
  · left
    rw [nothing, List.append_nil] at name
    rw [nothing, List.nil_append] at number
    exact ⟨String.toList_inj.1 name.symm, Nat.repr_inj.1 (String.toList_inj.1 number)⟩
  · right
    constructor
    · rintro rfl
      have size := congrArg List.length number
      rw [List.length_append] at size
      apply nothing
      apply List.eq_nil_of_length_eq_zero
      omega
    · refine ⟨middle, nothing, ?_, name⟩
      intro c mem
      apply Text.isDigit_of_mem_toString (n := i)
      rw [number]
      exact List.mem_append_left _ mem

/-- A name with a number behind it is another name with another number only if one of the names is the
other with digits behind it. -/
theorem append_number_eq {name name' : String} {i j : Nat}
    (same : name ++ toString i = name' ++ toString j) :
    (name = name' ∧ i = j) ∨
      (i ≠ j ∧ (ContinuesInDigits name name' ∨ ContinuesInDigits name' name)) := by
  have chars := congrArg String.toList same
  rw [String.toList_append, String.toList_append, List.append_eq_append_iff] at chars
  rcases chars with ⟨middle, longer, number⟩ | ⟨middle, longer, number⟩
  · rcases append_number_split longer number with equal | ⟨differ, digits⟩
    · exact .inl equal
    · exact .inr ⟨differ, .inl digits⟩
  · rcases append_number_split longer number with ⟨names, numbers⟩ | ⟨differ, digits⟩
    · exact .inl ⟨names.symm, numbers.symm⟩
    · exact .inr ⟨differ.symm, .inr digits⟩

theorem Entry.Labels.exists_number {e : Entry} {table : IdentTable} {t : Token}
    (labels : e.Labels table t) (id : t.tokenClass = .id) :
    ∃ n, table.get? t.text = some n ∧ t.kind = e.name ++ toString n := by
  have named : e.tokenClass = .id := labels.1.symm.trans id
  have kind := labels.2
  rwa [if_pos named] at kind

/-! ## What has been read and numbered -/

namespace Scanner

variable {ι : Type} [Interner ι]

/-- Whatever is called, what is recorded are the tokens of lexemes read one after another, and the table
has numbered these. -/
theorem exists_scans_performAll (g : Grammar) (source : String) (table : ι) (cs : List Call) :
    ∃ ls rest, Scans g source.toList ls rest ∧
      (performAll g cs (ofText source, table)).1.lists.all.toList = Lexeme.recorded table .start ls ∧
      (performAll g cs (ofText source, table)).2 = Lexeme.tablesAfter table ls := by
  obtain ⟨k, -, amount⟩ := exists_calls (g := g) table cs (ofText source)
  obtain ⟨l, all_calls⟩ := amount cs.length
  rw [List.take_length] at all_calls
  obtain ⟨ls, rest, scans, stops⟩ := exists_scans g source.toList
  have lists_after (ms : List Lexeme) :
      ((ofText source).after table ms).lists.all.toList = Lexeme.recorded table .start ms :=
    (TokenLists.all_foldl_push .empty _).trans (List.nil_append _)
  rcases Nat.lt_or_ge ls.length (k cs.length) with past | within
  · obtain ⟨j, more⟩ := Nat.exists_eq_add_of_lt past
    obtain ⟨-, scanner, numbered⟩ := calls_past (s := ofText source) table scans stops rfl j
    refine ⟨ls, rest, scans, ?_, ?_⟩
    · rw [all_calls, more, Nat.add_assoc]
      change (calls g (ls.length + (j + 1)) (ofText source) table).scanner.lists.all.toList = _
      rw [scanner, lists_stopped, lists_after]
    · rw [all_calls, more, Nat.add_assoc]
      exact numbered
  · obtain ⟨middle, first, -⟩ := scans.split (k cs.length)
    obtain ⟨events, state⟩ := calls_within (s := ofText source) table scans rfl within
    refine ⟨ls.take (k cs.length), middle, first, ?_, ?_⟩
    · rw [all_calls, state]
      exact lists_after _
    · rw [all_calls, state]

/-- Each identifier that is recorded has the number that its text has in the table now. -/
theorem labels_performAll (g : Grammar) (source : String) (before : IdentTable) (cs : List Call) :
    let now := performAll g cs (ofText source, before)
    ∀ t ∈ now.1.lists.all, ∃ e, g.entryAt? source t.position.offset = some e ∧ e.Labels now.2 t := by
  intro now t mem
  obtain ⟨ls, rest, scans, recorded, numbered⟩ := exists_scans_performAll g source before cs
  have whole : source.toList = [] ++ source.toList := rfl
  have same : List.Forall₂ (SameButNumber g source (Lexeme.tablesAfter before ls)
      (Lexeme.tablesAfter before ls)) (Lexeme.tokens before .start ls) (Lexeme.tokens before .start ls) :=
    Lexeme.forall₂_tokens scans whole rfl
  rw [← Array.mem_toList_iff, recorded] at mem
  obtain ⟨place, within, rfl⟩ := List.mem_iff_getElem.1 (List.mem_filter.1 mem).1
  obtain ⟨e, found, labels, -⟩ := ((List.forall₂_iff_get.1 same).2 place within within).entry
  rw [← numbered] at labels
  exact ⟨e, found, labels⟩

/-- Whatever is called, the kind of an identifier is the name of the entry that matches at its place, with
the number that its text has in the table behind it. So, unless the name of one entry is that of the other
with digits behind it, two identifiers are of one kind exactly if they have one name and their entries
have. If the entries have different names, two identifiers of one kind never have the same name. -/
theorem kinds_of_identifiers (g : Grammar) (source : String) (earlier : List TableCall)
    (cs : List Call) :
    let now := performAll g cs (ofText source, IdentTable.empty.after earlier)
    ∀ t ∈ now.1.lists.all, ∀ u ∈ now.1.lists.all, t.tokenClass = .id → u.tokenClass = .id →
      ∃ e f, g.entryAt? source t.position.offset = some e ∧ e.Labels now.2 t ∧
        g.entryAt? source u.position.offset = some f ∧ f.Labels now.2 u ∧
        (¬ContinuesInDigits e.name f.name → ¬ContinuesInDigits f.name e.name →
          (t.kind = u.kind ↔ e.name = f.name ∧ normalize t.text = normalize u.text)) ∧
        (e.name ≠ f.name → t.kind = u.kind → normalize t.text ≠ normalize u.text) := by
  intro now t t_mem u u_mem t_id u_id
  have consistent : now.2.Consistent := by
    obtain ⟨ls, -, -, -, numbered⟩ :=
      exists_scans_performAll g source (IdentTable.empty.after earlier) cs
    have table : now.2 = Lexeme.tablesAfter (IdentTable.empty.after earlier) ls := numbered
    rw [table, Lexeme.tablesAfter_eq_internAll _ .start]
    exact (IdentTable.consistent_after earlier).internAll _
  obtain ⟨e, e_found, e_labels⟩ := labels_performAll g source _ cs t t_mem
  obtain ⟨f, f_found, f_labels⟩ := labels_performAll g source _ cs u u_mem
  refine ⟨e, f, e_found, e_labels, f_found, f_labels, ?_⟩
  obtain ⟨i, t_number, t_kind⟩ := e_labels.exists_number t_id
  obtain ⟨j, u_number, u_kind⟩ := f_labels.exists_number u_id
  have names := consistent.number_eq_iff t_number u_number
  rw [t_kind, u_kind, ← names]
  constructor
  · intro apart apart'
    constructor
    · intro same
      rcases append_number_eq same with equal | ⟨-, digits⟩
      · exact equal
      · exact absurd digits (not_or.2 ⟨apart, apart'⟩)
    · rintro ⟨name, number⟩
      rw [name, number]
  · intro differ same
    rcases append_number_eq same with ⟨name, -⟩ | ⟨numbers, -⟩
    · exact absurd name differ
    · rwa [ne_eq, ← names]

/-- An identifier with quotes around it and one without are of one kind, for one entry matches both. -/
theorem kinds_of_identifiers_quoted :
    ∃ g t u, Grammar.compile [⟨"blank", " ", .skip⟩, ⟨"id", "\x60[a-z]+\x60|[a-z]+", .id⟩] = .ok g ∧
      t ∈ (performAll g [.analyze] (ofText "y x \x60x\x60", IdentTable.empty.after [])).1.lists.all ∧
      u ∈ (performAll g [.analyze] (ofText "y x \x60x\x60", IdentTable.empty.after [])).1.lists.all ∧
      t.tokenClass = .id ∧ u.tokenClass = .id ∧ t.text ≠ u.text ∧ t.kind = u.kind := by
  let ds : List Definition := [⟨"blank", " ", .skip⟩, ⟨"id", "\x60[a-z]+\x60|[a-z]+", .id⟩]
  let g : Grammar := (Grammar.compile ds).toOption.getD ⟨[]⟩
  have accepted : Grammar.compile ds = .ok g := by decide +kernel
  let now := performAll g [.analyze] (ofText "y x \x60x\x60", IdentTable.empty.after [])
  have recorded : now.1.lists.all.toList =
      [⟨"id0", "y", .id, ⟨0, 1, 1⟩⟩, ⟨"id1", "x", .id, ⟨2, 1, 3⟩⟩, ⟨"id1", "\x60x\x60", .id, ⟨4, 1, 5⟩⟩] := by
    decide +kernel
  have t_mem : ⟨"id1", "x", .id, ⟨2, 1, 3⟩⟩ ∈ now.1.lists.all := by
    rw [← Array.mem_toList_iff, recorded]
    simp
  have u_mem : ⟨"id1", "\x60x\x60", .id, ⟨4, 1, 5⟩⟩ ∈ now.1.lists.all := by
    rw [← Array.mem_toList_iff, recorded]
    simp
  have at_t : (g.entryAt? "y x \x60x\x60" 2).map (·.name) = some "id" := by decide +kernel
  have at_u : (g.entryAt? "y x \x60x\x60" 4).map (·.name) = some "id" := by decide +kernel
  obtain ⟨e, f, e_found, -, f_found, -, kinds, -⟩ :=
    kinds_of_identifiers g "y x \x60x\x60" [] [.analyze] _ t_mem _ u_mem rfl rfl
  rw [e_found] at at_t
  rw [f_found] at at_u
  have e_name : e.name = "id" := Option.some.inj at_t
  have f_name : f.name = "id" := Option.some.inj at_u
  rw [e_name, f_name] at kinds
  have one_kind := (kinds (not_continuesInDigits_self _) (not_continuesInDigits_self _)).2
    ⟨rfl, by decide⟩
  exact ⟨g, _, _, accepted, t_mem, u_mem, rfl, rfl, by decide, one_kind⟩

/-- Identifiers with different names may be of one kind: number 10 of the entry `id` and number 0 of the
entry `id1`. And one name may be of two kinds, where two entries match it. -/
theorem not_kinds_of_identifiers :
    (¬∀ (ds : List Definition) (g : Grammar) (source : String) (t u : Token),
      Grammar.compile ds = .ok g →
        t ∈ ((ofText source).analyze g IdentTable.empty).scanner.lists.all →
        u ∈ ((ofText source).analyze g IdentTable.empty).scanner.lists.all →
        t.tokenClass = .id → u.tokenClass = .id → t.kind = u.kind →
        normalize t.text = normalize u.text) ∧
    ¬∀ (ds : List Definition) (g : Grammar) (source : String) (t u : Token),
      Grammar.compile ds = .ok g →
        t ∈ ((ofText source).analyze g IdentTable.empty).scanner.lists.all →
        u ∈ ((ofText source).analyze g IdentTable.empty).scanner.lists.all →
        t.tokenClass = .id → u.tokenClass = .id → normalize t.text = normalize u.text →
        t.kind = u.kind := by
  constructor
  · intro told
    let ds : List Definition := [⟨"id1", "x", .id⟩, ⟨"id", "[a-j]", .id⟩]
    let g : Grammar := (Grammar.compile ds).toOption.getD ⟨[]⟩
    have accepted : Grammar.compile ds = .ok g := by decide +kernel
    have first : ⟨"id10", "x", .id, ⟨0, 1, 1⟩⟩ ∈
        ((ofText "xabcdefghij").analyze g IdentTable.empty).scanner.lists.all := by decide +kernel
    have tenth : ⟨"id10", "j", .id, ⟨10, 1, 11⟩⟩ ∈
        ((ofText "xabcdefghij").analyze g IdentTable.empty).scanner.lists.all := by decide +kernel
    exact absurd (told ds g _ _ _ accepted first tenth rfl rfl rfl) (by decide)
  · intro shared
    let ds : List Definition := [⟨"quoted", "\x60x\x60", .id⟩, ⟨"id", "x", .id⟩]
    let g : Grammar := (Grammar.compile ds).toOption.getD ⟨[]⟩
    have accepted : Grammar.compile ds = .ok g := by decide +kernel
    have first : ⟨"id0", "x", .id, ⟨0, 1, 1⟩⟩ ∈
        ((ofText "x\x60x\x60").analyze g IdentTable.empty).scanner.lists.all := by decide +kernel
    have second : ⟨"quoted0", "\x60x\x60", .id, ⟨1, 1, 2⟩⟩ ∈
        ((ofText "x\x60x\x60").analyze g IdentTable.empty).scanner.lists.all := by decide +kernel
    exact absurd (shared ds g _ _ _ accepted first second rfl rfl (by decide)) (by decide)

end Scanner

end GoScan
