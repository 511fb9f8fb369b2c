import GoScan.Proofs.Go.Marks
import GoScan.Proofs.Scan.Snippet

/-!
# Where a scan of Go source text can fail

A longer entry may be refused for the word that goes on behind it, or for want of its end, and then another
has to stand in. With most characters one does whatever follows: the blanks take white space, the name takes
a letter, and for each character that begins an operator the character alone is an operator too.

* `lexeme?_of_opens`: at such a character something is read, whatever follows;
* `glyph_eq_foreign`: with a character that is none of these, no digit and no quote, nothing begins;
* `glyph_of_lexeme?_eq_none`: so where nothing is read there is such a character, a digit or a quote;
* `failure_not_at_opening`: so a scan fails at a digit, at a quote or at such another character.
-/

namespace GoScan

namespace Go

open Pattern

variable {cs : List Char} {c : Char}

/-- With such a character something begins, whatever follows it. -/
def opens (c : Char) : Bool :=
  Unicode.isWhiteSpace c || isNameStart c || ('.' :: '/' :: markChars).contains c

def quoteChars : List Char := ['\'', '"', '\x60']

/-- Where a name can begin, all that can belong to it is taken. -/
theorem length?_name (start : isNameStart c) :
    name.length? (c :: cs) = some ((c :: cs).takeWhile isNameChar).length := by
  have shape : name.body = cat (set nameStart) (star true (set nameSet)) := rfl
  have free : name.tokenClass.needsBoundary = false := rfl
  have begins : nameStart.contains c := by
    rw [isNameStart] at start
    simpa [nameStart, CharSet.contains, Property.holds, beq_eq_decide] using start
  have belongs : isNameChar c := by rw [isNameChar, start, Bool.true_or]
  rw [Entry.length?_eq_some, shape, free, preferred?_cat, preferred?_set_cons, if_pos begins,
    preferred?_star_set, contains_nameSet, List.takeWhile_cons_of_pos belongs]
  simp

/-- Each character with which a mark begins is a mark by itself. -/
theorem exists_mark_of_char (mem : c ∈ '.' :: '/' :: markChars) : ∃ e ∈ marks, e.name.toList = [c] := by
  have each : ('.' :: '/' :: markChars).all fun c => String.singleton c ∈ markTexts := by decide
  have listed := List.all_eq_true.1 each c mem
  obtain ⟨e, inside, name⟩ := exists_mark (of_decide_eq_true listed)
  exact ⟨e, inside, by rw [name, String.toList_singleton]⟩

theorem lexeme?_of_opens (h : opens c) (cs : List Char) : (grammar.lexeme? (c :: cs)).isSome := by
  rw [opens, Bool.or_eq_true, Bool.or_eq_true] at h
  rcases h with (blank | start) | mark
  · rw [lexeme?_blank blank]
    rfl
  · have head : (c :: cs).head? = some c := rfl
    rw [lexeme?_of_letter head (glyph_of_isNameStart start), firstOf_cons, length?_name start]
    simp
  · obtain ⟨e, mem, single⟩ := exists_mark_of_char (by simpa using mark)
    have front : e.name.toList <+: c :: cs := by
      rw [single]
      exact ⟨cs, rfl⟩
    obtain ⟨l, taken⟩ := exists_lexeme_of_mark mem front
    rw [taken]
    rfl

theorem glyph_eq_foreign (digit : Unicode.category c ≠ .nd) (quote : c ∉ quoteChars)
    (closed : opens c = false) : glyph c = .foreign := by
  simp only [opens, isNameStart, quoteChars, Bool.or_eq_false_iff, List.contains_cons, List.mem_cons,
    decide_eq_false_iff_not, beq_eq_false_iff_ne, List.not_mem_nil, or_false, not_or] at closed quote
  have other : c ∉ markChars := by simpa using closed.2.2.2
  simp [glyph, closed, quote, digit, other]

/-- Where nothing is read there is a digit, a quote or a character that begins nothing. -/
theorem glyph_of_lexeme?_eq_none (nothing : grammar.lexeme? (c :: cs) = none) :
    glyph c = .digit ∨ glyph c = .quote ∨ glyph c = .foreign := by
  have closed : opens c = false := by
    cases h : opens c with
    | false => rfl
    | true =>
      have read := lexeme?_of_opens h cs
      rw [nothing] at read
      exact absurd read Bool.false_ne_true
  by_cases digit : Unicode.category c = .nd
  · exact .inl (glyph_of_digit digit)
  by_cases quote : c ∈ quoteChars
  · have quotes : quoteChars.all fun q => glyph q = .quote := by decide
    exact .inr (.inl (of_decide_eq_true (List.all_eq_true.1 quotes c quote)))
  · exact .inr (.inr (glyph_eq_foreign digit quote closed))

/-- Something is read where the first character opens, and nothing where it is none that opens and
neither a digit nor a quote. -/
theorem match?_isSome_iff (digit : Unicode.category c ≠ .nd) (quote : c ∉ quoteChars) (cs : List Char) :
    (grammar.match? (c :: cs)).isSome ↔ opens c := by
  have same : (grammar.lexeme? (c :: cs)).isSome = (grammar.match? (c :: cs)).isSome := Option.isSome_map
  rw [← same]
  constructor
  · intro found
    by_contra closed
    exact not_foreign_of_lexeme? found (glyph_eq_foreign digit quote (Bool.not_eq_true _ ▸ closed))
  · intro h
    exact lexeme?_of_opens h cs

end Go

/-- A text is refused where a run over it ends with a failure. -/
theorem failure_of_tokenize {source : String} {f : Failure} (refused : tokenize source = .error f) :
    (takeTurns Go.grammar [(.analyze, IdentTable.empty)] (.ofText source)).failure = some f := by
  have answer := Scanner.answer_analyze (g := Go.grammar) IdentTable.empty (.ofText source)
  change ((Scanner.ofText source).analyze Go.grammar IdentTable.empty).scanner.failure = some f
  rw [← answer]
  rw [tokenize] at refused
  split at refused
  · cases refused
  · rename_i here
    rw [here, Except.error.inj refused]

/-- Whatever follows a character that is neither a digit nor a quote, something is read if and only if it is
white space, or a name or a mark can begin with it. So where a text is refused stands another character. -/
theorem failure_not_at_opening :
    (∀ c : Char, Unicode.category c ≠ .nd → c ∉ Go.quoteChars → ∀ cs : List Char,
      (Go.grammar.match? (c :: cs)).isSome ↔ Go.opens c) ∧
    ∀ (source : String) (f : Failure), tokenize source = .error f →
      ∃ snippet front c rest, f.fault = .unrecognisedInput snippet ∧
        Text.splitAtByte? source.toList f.position.offset = some (front, c :: rest) ∧
        Go.opens c = false := by
  refine ⟨fun c digit quote cs => Go.match?_isSome_iff digit quote cs, ?_⟩
  intro source f refused
  have failed := failure_of_tokenize refused
  obtain ⟨front, cut, more, stuck, fault⟩ := Scanner.stuck_of_failure Go.grammar source _ f failed
  obtain ⟨c, rest, whole⟩ := List.exists_cons_of_ne_nil more
  rw [whole] at cut stuck
  refine ⟨_, front, c, rest, fault, cut, ?_⟩
  cases h : Go.opens c with
  | false => rfl
  | true =>
    have read := Go.lexeme?_of_opens h rest
    rw [stuck] at read
    exact absurd read Bool.false_ne_true

/-- A comment that is not closed is read from its slash on; the number before a letter is refused. -/
theorem failure_not_at_opening_digit :
    (Go.grammar.match? "/*".toList).isSome ∧ Go.opens '/' ∧
      ∃ f, tokenize "/* 1x" = .error f ∧ ∃ front c rest,
        Text.splitAtByte? "/* 1x".toList f.position.offset = some (front, c :: rest) ∧
          Go.opens c = false := by
  obtain ⟨alone, elsewhere⟩ := failure_not_at_opening
  have slash : Go.opens '/' := by decide
  have text : "/*".toList = ['/', '*'] := rfl
  have refused : (tokenize "/* 1x").toOption.isNone := by
    rw [tokenize_eq_entries]
    decide +kernel
  refine ⟨?_, slash, ?_⟩
  · rw [text]
    exact (alone '/' (by decide) (by decide) ['*']).2 slash
  · cases h : tokenize "/* 1x" with
    | ok lists =>
      rw [h] at refused
      exact absurd refused Bool.false_ne_true
    | error f =>
      obtain ⟨-, front, c, rest, -, cut, closed⟩ := elsewhere _ f h
      exact ⟨f, rfl, front, c, rest, cut, closed⟩

end GoScan
