import GoScan.Proofs.Command.ClassFilter
import GoScan.Proofs.Position.Excerpt
import GoScan.Proofs.Scan.Failing
import GoScan.Proofs.Text.Quoting

/-!
# A token is shown on a line of its own, which tells what it is

The line of a token ends with its quoted text, and what stands before that is told apart by the digits of
the position and the name of the class. So a kind may be any text.

* `Token.display_inj`: from the line to the token, but for its offset;
* `Go.isPrintable_display`: the lines of Go tokens have no line ends in them;
* `Text.split_lines`: so the lines that are printed are the lines of the tokens;
* `Command.lines_show_tokens`: both together, for all that the program lists.
-/

namespace GoScan

/-! ## From the line to the token -/

/-- Two texts that begin at one place and go on to their first mark are one text. -/
theorem append_mark_inj {mark : Char} {a b x y : List Char} (free : mark ∉ a) (free' : mark ∉ b)
    (same : a ++ mark :: x = b ++ mark :: y) : a = b ∧ x = y := by
  have nothing {middle more behind : List Char} (free : mark ∉ middle)
      (rest : mark :: more = middle ++ mark :: behind) : middle = [] := by
    cases middle with
    | nil => rfl
    | cons c middle =>
      rw [(List.cons.inj rest).1] at free
      exact absurd List.mem_cons_self free
  rcases List.append_eq_append_iff.1 same with ⟨middle, rfl, rest⟩ | ⟨middle, rfl, rest⟩
  · obtain rfl := nothing (fun mem => free' (List.mem_append_right a mem)) rest
    exact ⟨(List.append_nil a).symm, (List.cons.inj rest).2⟩
  · obtain rfl := nothing (fun mem => free (List.mem_append_right b mem)) rest
    exact ⟨List.append_nil b, (List.cons.inj rest).2.symm⟩

theorem not_mem_toString {c : Char} (no_digit : c.isDigit = false) (n : Nat) :
    c ∉ (toString n).toList := by
  intro mem
  rw [Text.isDigit_of_mem_toString mem] at no_digit
  exact Bool.false_ne_true no_digit.symm

theorem TokenClass.name_inj {c d : TokenClass} (same : c.name = d.name) : c = d := by
  have read := TokenClass.ofName_name d
  rw [← same, TokenClass.ofName_name] at read
  exact Except.ok.inj read

namespace Token

variable {t u : Token}

theorem toList_display (t : Token) : t.display.toList =
    (toString t.position.line).toList ++ ':' :: ((toString t.position.column).toList ++
      ' ' :: (t.tokenClass.name.toList ++ ' ' :: (t.kind.toList ++ ' ' :: Text.quote t.text.toList))) := by
  simp [display, Text.quoted]

/-- Tokens that are shown alike have the same line, column, class, kind and text. -/
theorem display_inj (same : t.display = u.display) :
    t.position.line = u.position.line ∧ t.position.column = u.position.column ∧
      t.tokenClass = u.tokenClass ∧ t.kind = u.kind ∧ t.text = u.text := by
  have no_blank (c : TokenClass) : ' ' ∉ c.name.toList := by cases c <;> decide
  have chars := congrArg String.toList same
  rw [toList_display, toList_display] at chars
  obtain ⟨line, chars⟩ :=
    append_mark_inj (not_mem_toString rfl _) (not_mem_toString rfl _) chars
  obtain ⟨column, chars⟩ :=
    append_mark_inj (not_mem_toString rfl _) (not_mem_toString rfl _) chars
  obtain ⟨tokenClass, chars⟩ := append_mark_inj (no_blank _) (no_blank _) chars
  obtain ⟨kind, text⟩ := Text.append_quote_inj chars
  exact ⟨Nat.repr_inj.1 (String.toList_inj.1 line), Nat.repr_inj.1 (String.toList_inj.1 column),
    TokenClass.name_inj (String.toList_inj.1 tokenClass), String.toList_inj.1 kind,
    String.toList_inj.1 text⟩

/-- A line is printable if the kind of its token is. -/
theorem isPrintable_of_mem_display (kind : ∀ c ∈ t.kind.toList, Unicode.isPrintable c) {c : Char}
    (mem : c ∈ t.display.toList) : Unicode.isPrintable c := by
  have named (k : TokenClass) (mem : c ∈ k.name.toList) : Unicode.isPrintable c := by
    have all_printable : k.name.toList.all Unicode.isPrintable := by cases k <;> decide
    exact List.all_eq_true.1 all_printable c mem
  have marks : Unicode.isPrintable ':' ∧ Unicode.isPrintable ' ' := by decide
  rw [toList_display] at mem
  simp only [List.mem_append, List.mem_cons] at mem
  rcases mem with line | rfl | column | rfl | name | rfl | inKind | rfl | text
  · exact Text.isPrintable_of_mem_toString line
  · exact marks.1
  · exact Text.isPrintable_of_mem_toString column
  · exact marks.2
  · exact named _ name
  · exact marks.2
  · exact kind c inKind
  · exact marks.2
  · exact Text.isPrintable_of_mem_quote text

end Token

/-! ## Tokens of Go source text -/

/-- A kind is the name of its entry, alone or with a number behind it. -/
theorem Entry.kind_cases {ι : Type} [Interner ι] (e : Entry) (text : String) (table : ι) :
    (e.kind text table).1 = e.name ∨ ∃ n : Nat, (e.kind text table).1 = e.name ++ toString n := by
  unfold kind
  split
  · exact .inr ⟨_, rfl⟩
  · exact .inl rfl

namespace Scanner

/-- Each recorded token is called by the name of an entry, alone or with a number behind it. -/
def Named (g : Grammar) (s : Scanner) : Prop :=
  ∀ t ∈ s.lists.all, ∃ e ∈ g.entries, t.kind = e.name ∨ ∃ n : Nat, t.kind = e.name ++ toString n

namespace Named

variable {ι : Type} [Interner ι] {g : Grammar} {s : Scanner}

theorem ofText (g : Grammar) (source : String) : Named g (ofText source) := by
  simp [Named, Scanner.ofText, TokenLists.empty]

theorem next (h : Named g s) (table : ι) : Named g (s.next g table).scanner := by
  have form := nextStep g s table
  generalize s.next g table = step at form ⊢
  cases form with
  | failed | finished | halted => exact h
  | @read l _ _ taken =>
    intro t mem
    rcases TokenLists.mem_of_mem_push mem with old | rfl
    · exact h t old
    · exact ⟨l.entry, Grammar.entry_mem_of_lexeme? taken,
        Entry.kind_cases l.entry (String.ofList l.chars) table⟩

theorem invariant (g : Grammar) : Invariant ι g fun _ => Named g where
  next h table := h.next table
  withLocale h _ := h

/-- Whatever the calls and the tables. -/
theorem takeTurns (g : Grammar) (source : String) (turns : List (Call × ι)) :
    Named g (takeTurns g turns (.ofText source)) :=
  (invariant g).takeTurns [] (ofText g source) turns

end Named

end Scanner

namespace Go

theorem isPrintable_name : ∀ e ∈ entries, e.name.toList.all Unicode.isPrintable := by decide +kernel

/-- Whatever the calls and the tables, the lines of tokens have no line ends in them. -/
theorem isPrintable_display {ι : Type} [Interner ι] {source : String} (turns : List (Call × ι)) {t : Token}
    (recorded : t ∈ (takeTurns grammar turns (.ofText source)).lists.all) {c : Char}
    (mem : c ∈ t.display.toList) : Unicode.isPrintable c := by
  obtain ⟨e, listed, named⟩ := Scanner.Named.takeTurns grammar source turns t recorded
  rw [grammar_eq] at listed
  have name := List.all_eq_true.1 (isPrintable_name e listed)
  refine Token.isPrintable_of_mem_display ?_ mem
  intro d inKind
  rcases named with plain | ⟨n, numbered⟩
  · rw [plain] at inKind
    exact name d inKind
  · rw [numbered, String.toList_append] at inKind
    rcases List.mem_append.1 inKind with here | digit
    · exact name d here
    · exact Text.isPrintable_of_mem_toString digit

end Go

/-! ## Lines that are printed -/

/-- Lines with a newline behind each of them are the pieces between the newlines, and nothing follows. -/
theorem Text.split_lines {lines : List (List Char)} (free : ∀ line ∈ lines, '\n' ∉ line) :
    split '\n' (lines.flatMap (· ++ ['\n'])) = lines ++ [[]] := by
  induction lines with
  | nil => rfl
  | cons line lines ih =>
    obtain ⟨here, others⟩ := List.forall_mem_cons.1 free
    rw [List.flatMap_cons, List.append_assoc, List.singleton_append, split_append_mark,
      split_of_not_mem here, ih others]
    rfl

namespace Command

namespace Listing

/-- What stands behind the header of the listing. -/
def body (l : Listing) : String := String.join (l.tokens.map fun t => t.display ++ "\n")

theorem text_eq (l : Listing) : l.text = "-> " ++ l.file ++ "\n" ++ l.body := rfl

/-- If no line has a line end in it, the lines of the listing are those of its tokens. -/
theorem split_body {l : Listing} (oneLine : ∀ t ∈ l.tokens, '\n' ∉ t.display.toList) :
    Text.split '\n' l.body.toList = l.tokens.map (fun t => t.display.toList) ++ [[]] := by
  have lines : l.body.toList = (l.tokens.map fun t => t.display.toList).flatMap (· ++ ['\n']) := by
    simp [body, String.toList_join, List.flatMap_map]
  rw [lines, Text.split_lines]
  intro line mem
  obtain ⟨t, listed, rfl⟩ := List.mem_map.1 mem
  exact oneLine t listed

/-- The listing of what the options have shown of a file. -/
def Lists (o : Options) (read : String → Except ReadError String) (l : Listing) : Prop :=
  ∃ (source : String) (table : IdentTable), read l.file = .ok source ∧
    l.tokens = (selected o ((Scanner.ofText source).analyze Go.grammar table).scanner.lists).toList

theorem Records.shown {o : Options} {read : String → Except ReadError String} {l : Listing}
    (records : l.Records read) : (l.shown o).Lists o read := by
  obtain ⟨source, table, text, tokens⟩ := records
  have chosen := selected_analyze o source table
  dsimp only at chosen
  refine ⟨source, table, text, ?_⟩
  rw [chosen, ← tokens]
  rfl

end Listing

theorem Listing.Lists.not_newline_mem_display {o : Options} {read : String → Except ReadError String}
    {l : Listing} (lists : l.Lists o read) : ∀ t ∈ l.tokens, '\n' ∉ t.display.toList := by
  obtain ⟨source, table, -, tokens⟩ := lists
  intro t listed newline
  have chosen := selected_analyze o source table
  dsimp only at chosen
  rw [tokens, chosen] at listed
  have recorded := Array.mem_toList_iff.1 (List.mem_filter.1 listed).1
  -- A run to the end is a history of one call.
  have printable := Go.isPrintable_display [(.analyze, table)] recorded newline
  exact (Text.not_control_of_isPrintable printable).2.1 rfl

/-- Any two tokens that are shown alike have one line, column, class, kind and text, whatever kinds and
texts they have. Whatever the calls and the tables, the lines of Go tokens have no control characters in
them, line ends among them. So what a run prints are the listings of the files that can be read, in their
order, and in each the lines behind the header are those of the tokens that are listed, in their order. -/
theorem lines_show_tokens :
    (∀ t u : Token, t.display = u.display →
      t.position.line = u.position.line ∧ t.position.column = u.position.column ∧
        t.tokenClass = u.tokenClass ∧ t.kind = u.kind ∧ t.text = u.text) ∧
    (∀ (source : String) (turns : List (Call × IdentTable)),
      ∀ t ∈ (takeTurns Go.grammar turns (.ofText source)).lists.all,
        ∀ c ∈ t.display.toList, Unicode.category c ≠ .cc ∧ c ≠ '\n' ∧ c ≠ '\r') ∧
    ∀ (args : List String) (o : Options) (read : String → Except ReadError String),
      readArguments args = .ok (.tokenize o) →
      ∃ ls : List Listing, (run args read).output = String.join (ls.map Listing.text) ∧
        ls.map Listing.file = o.files.filter (fun file => (read file).toOption.isSome) ∧
        ∀ l ∈ ls, l.Lists o read ∧ l.text = "-> " ++ l.file ++ "\n" ++ l.body ∧
          Text.split '\n' l.body.toList = l.tokens.map (fun t => t.display.toList) ++ [[]] := by
  refine ⟨fun t u => Token.display_inj, ?_, ?_⟩
  · intro source turns t recorded c mem
    exact Text.not_control_of_isPrintable (Go.isPrintable_display turns recorded mem)
  · intro args o read asked
    obtain ⟨ls, outputs, names, records⟩ := exists_listings o read o.files .empty
    refine ⟨ls.map (Listing.shown o), ?_, ?_, ?_⟩
    · rw [run_of_asked asked, List.map_map]
      exact outputs o.tokenClass
    · rw [List.map_map, ← names]
      rfl
    · intro l mem
      obtain ⟨whole, among, rfl⟩ := List.mem_map.1 mem
      have lists : (whole.shown o).Lists o read := (records whole among).shown
      exact ⟨lists, (whole.shown o).text_eq, Listing.split_body lists.not_newline_mem_display⟩

/-- A text of two lines is shown on one. -/
theorem lines_show_tokens_raw :
    let source := "x = \x60a\n\"\x60"
    let token : Token := ⟨"raw_string_lit", "\x60a\n\"\x60", .constant, ⟨4, 1, 5⟩⟩
    let elsewhere : Token := { token with position := ⟨0, 1, 5⟩ }
    token ∈ (takeTurns Go.grammar [(.analyze, IdentTable.empty)] (.ofText source)).lists.all ∧
      '\n' ∈ token.text.toList ∧ '\n' ∉ token.display.toList ∧
      token.display = elsewhere.display ∧ token.text = elsewhere.text ∧
      ∃ ls : List Listing, ls.map Listing.file = ["a.go"] ∧
        (run ["-c", "constant", "a.go"] fun _ => .ok source).output = String.join (ls.map Listing.text) := by
  intro source token elsewhere
  obtain ⟨display_inj, oneLine, listings⟩ := lines_show_tokens
  have recorded : token ∈
      (takeTurns Go.grammar [(.analyze, IdentTable.empty)] (.ofText source)).lists.all := by
    rw [Go.grammar_eq]
    decide +kernel
  have same : token.display = elsewhere.display := rfl
  obtain ⟨-, -, -, -, text⟩ := display_inj token elsewhere same
  have asked : readArguments ["-c", "constant", "a.go"] =
      .ok (.tokenize ⟨["a.go"], some .constant, false, .en, false⟩) := by cbv
  obtain ⟨ls, output, files, -⟩ := listings _ _ (fun _ => .ok source) asked
  refine ⟨recorded, by decide, ?_, same, text, ls, files, output⟩
  intro newline
  exact (oneLine source _ token recorded _ newline).2.1 rfl

end Command

end GoScan
