import GoScan.Proofs.Go.Delimiters
import GoScan.Proofs.Go.Numbers
import GoScan.Proofs.Go.Openings

/-!
# Whether a failure quotes the text that no entry matches

What is quoted comes from the first line with a quotable character, and that need not be the line of the
failure. If it is, the text is quoted from the failure on up to the last quotable character of the line. With
less behind it, what stands there may still match: what refused it may have been a word that goes on behind
the quoted part.

* `Text.quotation_prefix_iff`: when the text left is quoted from its start;
* `length?_number`: what the entries for numbers take, they take wherever no word follows;
* `match?_quotation`: so the quoted part matches only as a whole, before a character that belongs to words and
  is not quotable;
* `quotes_offending_text`: what is known of the text that a failure quotes;
* `not_quotes_offending_text`: it may stand elsewhere, and it may match.
-/

namespace GoScan

variable {text : List Char}

namespace Text

/-- What is not kept does not satisfy `p`. -/
theorem exists_behind_upToLast (p : Char → Bool) (text : List Char) :
    ∃ tail, text = upToLast p text ++ tail ∧ ∀ c ∈ tail, p c = false := by
  refine ⟨text.rtakeWhile (!p ·), List.rdropWhile_append_rtakeWhile.symm, ?_⟩
  intro c mem
  simpa using List.mem_rtakeWhile_imp mem

/-- A text whose line has a quotable character is quoted from its start, if that is no space. -/
theorem quotation_of_line (has : (text.takeWhile (· ≠ '\n')).any isQuotable) (head : text.head? ≠ some ' ') :
    quotation text = upToLast isQuotable (text.takeWhile (· ≠ '\n')) := by
  obtain ⟨pieces, lines⟩ := exists_split '\n' text
  have front := (upToLast_begins isQuotable (text.takeWhile (· ≠ '\n'))).trans (List.takeWhile_prefix _)
  have first : (split '\n' text).find? (·.any isQuotable) = some (text.takeWhile (· ≠ '\n')) := by
    rw [lines]
    exact List.find?_cons_of_pos has
  rw [quotation, first]
  change (upToLast isQuotable _).dropWhile (· = ' ') = _
  cases kept : upToLast isQuotable (text.takeWhile (· ≠ '\n')) with
  | nil => rfl
  | cons c cs =>
    rw [kept] at front
    obtain ⟨behind, whole⟩ := front
    have other : c ≠ ' ' := by
      rintro rfl
      exact head (by rw [← whole]; rfl)
    exact List.dropWhile_cons_of_neg (by simpa using other)

theorem upToLast_ne_nil {p : Char → Bool} (has : text.any p) : upToLast p text ≠ [] := by
  intro nothing
  obtain ⟨tail, whole, outside⟩ := exists_behind_upToLast p text
  rw [nothing, List.nil_append] at whole
  obtain ⟨c, mem, here⟩ := List.any_eq_true.1 has
  rw [outside c (whole ▸ mem)] at here
  exact Bool.false_ne_true here

/-- The text is quoted from its start if and only if its line has a quotable character. -/
theorem quotation_prefix_iff (head : text.head? ≠ some ' ') :
    quotation text ≠ [] ∧ quotation text <+: text ↔ (text.takeWhile (· ≠ '\n')).any isQuotable := by
  constructor
  · rintro ⟨nonempty, behind, whole⟩
    obtain ⟨oneLine, -, last⟩ := quotation_spec text
    have quotable := last _ (List.getLast?_eq_some_getLast nonempty)
    have inLine : ∀ c ∈ quotation text, decide (c ≠ '\n') := by
      intro c mem
      have other : c ≠ '\n' := by
        rintro rfl
        exact oneLine mem
      simpa using other
    rw [← whole, List.takeWhile_append_of_pos inLine, List.any_append, Bool.or_eq_true]
    exact .inl (List.any_eq_true.2 ⟨_, List.getLast_mem nonempty, quotable⟩)
  · intro has
    rw [quotation_of_line has head]
    exact ⟨upToLast_ne_nil has, (upToLast_begins _ _).trans (List.takeWhile_prefix _)⟩

/-- Behind the quoted part stands no quotable character. -/
theorem next_quotation (has : (text.takeWhile (· ≠ '\n')).any isQuotable) (head : text.head? ≠ some ' ') :
    ∃ more, text = quotation text ++ more ∧ Next (!isQuotable ·) more := by
  obtain ⟨tail, line, outside⟩ := exists_behind_upToLast isQuotable (text.takeWhile (· ≠ '\n'))
  rw [← quotation_of_line has head] at line
  refine ⟨tail ++ text.dropWhile (· ≠ '\n'), ?_, ?_⟩
  · rw [← List.append_assoc, ← line, List.takeWhile_append_dropWhile]
  · apply next_append
    · intro c mem
      rw [outside c mem]
      rfl
    · intro c first
      have newline := List.head?_dropWhile_not (· ≠ '\n') text
      rw [Option.mem_def.1 first] at newline
      have here : c = '\n' := by simpa using newline
      simp [here, blanks_not_quotable.1]

end Text

namespace Go

open Pattern

variable {T a b more : List Char} {c : Char} {e : Entry} {l : Lexeme} {s : CharSet}

/-- The set is seen to hold characters of words only. -/
def onlyWords : CharSet → Bool
  | .union a b => onlyWords a && onlyWords b
  | .property p => p = .category .nd
  | s => s.within isPlain

theorem isWordChar_of_onlyWords (h : onlyWords s) (inside : s.contains c) : isWordChar c := by
  induction s with
  | union a b iha ihb =>
    obtain ⟨first, second⟩ := Bool.and_eq_true_iff.1 h
    rcases Bool.or_eq_true_iff.1 inside with here | there
    · exact iha first here
    · exact ihb second there
  | property p =>
    obtain rfl := of_decide_eq_true h
    exact isWordChar_of_runSet (runSet_of_digitSet inside)
  | _ => exact isWordChar_of_isPlain (CharSet.of_within h inside)

/-- Where a number may end it goes on with characters of words only. -/
theorem definite_numbers : ∀ e ∈ numbers, definite onlyWords (pairs 3 [([e.body], [e.body])]) ∧
    ([e.body], [e.body]) ∈ pairs 3 [([e.body], [e.body])] := by
  decide +kernel

theorem length?_number (mem : e ∈ numbers) (found : e.length? (T ++ a) = some T.length)
    (ends : atBoundary b) : e.length? (T ++ b) = some T.length := by
  obtain ⟨definite, here⟩ := definite_numbers e mem
  refine length?_of_definite definite here ?_ found ends
  intro c s outside words
  cases inside : s.contains c with
  | false => rfl
  | true => exact absurd (outside.symm.trans (isWordChar_of_onlyWords words inside)) Bool.false_ne_true

theorem isSome_firstOf {es : List Entry} {n : Nat} (mem : e ∈ es) (found : e.length? text = some n) :
    (firstOf es text).isSome := by
  cases read : firstOf es text with
  | some l => rfl
  | none => exact absurd (found.symm.trans (firstOf_eq_none.1 read e mem)) (Option.some_ne_none n)

/-- What a group of literals takes ends before no word, and is read again wherever no word follows. -/
theorem reread_of_group {es : List Entry}
    (group : ∀ b, grammar.lexeme? (l.chars ++ b) = firstOf es (l.chars ++ b))
    (bound : ∀ e ∈ es, e.tokenClass.needsBoundary)
    (keeps : ∀ e ∈ es, e.length? (l.chars ++ a) = some l.chars.length → ∀ b, atBoundary b →
      e.length? (l.chars ++ b) = some l.chars.length)
    (taken : grammar.lexeme? (l.chars ++ a) = some l) :
    atBoundary a ∧ ∀ b, atBoundary b → (grammar.lexeme? (l.chars ++ b)).isSome := by
  rw [group] at taken
  obtain ⟨mem, found, -⟩ := of_firstOf_eq_some taken
  refine ⟨atBoundary_of_length? found (bound _ mem), ?_⟩
  intro b ends
  rw [group]
  exact isSome_firstOf mem (keeps _ mem found b ends)

/-- So it is with a number and with a literal between quotes. -/
theorem reread_of_boundary (start : glyph c = .digit ∨ glyph c = .quote) (first : l.chars.head? = some c)
    (taken : grammar.lexeme? (l.chars ++ a) = some l) :
    atBoundary a ∧ ∀ b, atBoundary b → (grammar.lexeme? (l.chars ++ b)).isSome := by
  obtain ⟨cs, chars⟩ := List.head?_eq_some_iff.1 first
  rcases start with digit | quote
  · have group (b : List Char) : grammar.lexeme? (l.chars ++ b) = firstOf numbers (l.chars ++ b) := by
      rw [chars, List.cons_append, lexeme?_of_digit digit]
    exact reread_of_group group (by decide) (fun _ mem found _ => length?_number mem found) taken
  · have group (b : List Char) : grammar.lexeme? (l.chars ++ b) = firstOf quoted (l.chars ++ b) := by
      rw [chars, List.cons_append, lexeme?_of_quote _ quote]
    exact reread_of_group group (by decide) (fun _ mem found _ => length?_quoted mem found) taken

/-- Of a text at which nothing is read, what is read at a front of it is the whole front, and a word goes on
behind it. -/
theorem whole_of_stuck (stuck : grammar.lexeme? (T ++ more) = none) (taken : grammar.lexeme? T = some l) :
    l.chars = T ∧ ∃ d ds, more = d :: ds ∧ isWordChar d := by
  obtain ⟨nonempty, whole⟩ := Grammar.lexeme?_eq_some taken
  obtain ⟨c, cs, chars⟩ := List.exists_cons_of_ne_nil nonempty
  generalize T.drop l.chars.length = a at whole
  subst whole
  have start : glyph c = .digit ∨ glyph c = .quote := by
    rw [chars, List.cons_append, List.cons_append] at stuck
    rw [chars, List.cons_append] at taken
    have known := not_foreign_of_lexeme? (Option.isSome_of_eq_some taken)
    rcases glyph_of_lexeme?_eq_none stuck with digit | quote | foreign
    · exact .inl digit
    · exact .inr quote
    · exact absurd foreign known
  obtain ⟨ends, reread⟩ := reread_of_boundary start (by rw [chars]; rfl) taken
  have goesOn : ¬atBoundary (a ++ more) := by
    intro free
    have again := reread _ free
    rw [← List.append_assoc, stuck] at again
    exact Bool.false_ne_true again
  cases a with
  | cons d ds => exact absurd ends goesOn
  | nil =>
    refine ⟨(List.append_nil _).symm, ?_⟩
    cases more with
    | nil => exact absurd rfl goesOn
    | cons d ds => exact ⟨d, ds, rfl, by simpa [atBoundary] using goesOn⟩

theorem head?_ne_space (stuck : grammar.lexeme? text = none) : text.head? ≠ some ' ' := by
  intro space
  obtain ⟨cs, rfl⟩ := List.head?_eq_some_iff.1 space
  rw [lexeme?_blank (by decide)] at stuck
  exact Option.some_ne_none _ stuck

/-- Of a text at which nothing is read, what is quoted from its start matches nothing, unless a word goes on
behind it with a character that is not quotable. Then it may match as a whole. -/
theorem match?_quotation (stuck : grammar.lexeme? text = none) (front : Text.quotation text <+: text) :
    grammar.match? (Text.quotation text) = none ∨
    ∃ e d more, grammar.match? (Text.quotation text) = some ⟨e, ⟨0, (Text.quotation text).length⟩⟩ ∧
      text = Text.quotation text ++ d :: more ∧ isWordChar d ∧ isQuotable d = false := by
  cases taken : grammar.lexeme? (Text.quotation text) with
  | none => exact .inl (match?_eq_none taken)
  | some l =>
    have head := head?_ne_space stuck
    have nonempty : Text.quotation text ≠ [] := by
      intro nothing
      rw [nothing] at taken
      obtain ⟨some_read, whole⟩ := Grammar.lexeme?_eq_some taken
      exact some_read (List.append_eq_nil_iff.1 whole.symm).1
    obtain ⟨more, whole, next⟩ := Text.next_quotation ((Text.quotation_prefix_iff head).1 ⟨nonempty, front⟩) head
    rw [whole] at stuck
    obtain ⟨same, d, ds, rfl, word⟩ := whole_of_stuck stuck taken
    have matched := match?_of_lexeme? taken
    rw [same] at matched
    exact .inr ⟨l.entry, d, ds, matched, whole, word, by simpa using next⟩

end Go

theorem tokenize_of_answer {source : String} {f : Failure}
    (answer : ((Scanner.ofText source).analyze Go.grammar IdentTable.empty).answer = some f) :
    tokenize source = .error f := by
  simp only [tokenize, answer]

/-- The text that a failure quotes stands at the place of the failure if and only if there is a quotable
character in the rest of that line. Then it matches nothing, unless the text goes on behind it with a character
that belongs to words and is not quotable; before such a character it may match, as a whole. -/
theorem quotes_offending_text (source : String) (f : Failure) (refused : tokenize source = .error f) :
    ∃ snippet front rest, f.fault = .unrecognisedInput snippet ∧
      Text.splitAtByte? source.toList f.position.offset = some (front, rest) ∧
      (snippet ≠ "" ∧ snippet.toList <+: rest ↔ (rest.takeWhile (· ≠ '\n')).any isQuotable) ∧
      (snippet.toList <+: rest → Go.grammar.match? snippet.toList = none ∨
        ∃ e d more, Go.grammar.match? snippet.toList = some ⟨e, ⟨0, snippet.toList.length⟩⟩ ∧
          rest = snippet.toList ++ d :: more ∧ isWordChar d ∧ isQuotable d = false) := by
  have failed := failure_of_tokenize refused
  obtain ⟨front, cut, -, stuck, fault⟩ := Scanner.stuck_of_failure Go.grammar source _ f failed
  refine ⟨_, front, _, fault, cut, ?_, ?_⟩
  · rw [← Text.quotation_prefix_iff (Go.head?_ne_space stuck), Scanner.snippet_eq, String.toList_ofList]
    simp
  · rw [Scanner.snippet_eq, String.toList_ofList]
    exact Go.match?_quotation stuck

/-- The number does not match before the letter, and the letter belongs to what is quoted. -/
theorem quotes_offending_text_number :
    ∃ f, tokenize "x 1a ²" = .error f ∧
      ∃ snippet front rest, f.fault = .unrecognisedInput snippet ∧
        Text.splitAtByte? "x 1a ²".toList f.position.offset = some (front, rest) ∧
        snippet.toList <+: rest ∧ snippet ≠ "" ∧ Go.grammar.match? snippet.toList = none := by
  have answer : ((Scanner.ofText "x 1a ²").analyze Go.grammar IdentTable.empty).answer =
      some ⟨.unrecognisedInput "1a", ⟨2, 1, 3⟩⟩ := by
    rw [Go.grammar_eq]
    decide +kernel
  have refused := tokenize_of_answer answer
  have place : Text.splitAtByte? "x 1a ²".toList 2 = some (['x', ' '], ['1', 'a', ' ', '²']) := by decide
  obtain ⟨snippet, front, rest, fault, cut, begins, unmatched⟩ := quotes_offending_text _ _ refused
  obtain ⟨-, same⟩ := Prod.mk.inj (Option.some.inj (place.symm.trans cut))
  obtain rfl : "1a" = snippet := Fault.unrecognisedInput.inj fault
  have here : "1a" ≠ "" ∧ "1a".toList <+: rest := begins.2 (by rw [← same]; decide +kernel)
  refine ⟨_, refused, "1a", front, rest, fault, cut, here.2, here.1, ?_⟩
  rcases unmatched here.2 with nothing | ⟨e, d, more, -, whole, word, -⟩
  · exact nothing
  · -- the number would have to go on with the blank
    have blank : d = ' ' := by
      rw [← same] at whole
      exact ((List.cons.inj (List.cons.inj (List.cons.inj whole).2).2).1).symm
    rw [blank, Go.not_isWordChar_space] at word
    exact absurd word Bool.false_ne_true

/-- A failure may quote what stands below it, and it may quote a number that matches by itself. -/
theorem not_quotes_offending_text :
    (¬∀ (source : String) (f : Failure) (snippet : String), tokenize source = .error f →
      f.fault = .unrecognisedInput snippet → snippet ≠ "" →
        ∃ front rest, Text.splitAtByte? source.toList f.position.offset = some (front, rest) ∧
          snippet.toList <+: rest) ∧
    ¬∀ (source : String) (f : Failure) (snippet : String), tokenize source = .error f →
      f.fault = .unrecognisedInput snippet → snippet ≠ "" → Go.grammar.match? snippet.toList = none := by
  constructor
  · intro stands
    have answer : ((Scanner.ofText "@\nfoo").analyze Go.grammar IdentTable.empty).answer =
        some ⟨.unrecognisedInput "foo", ⟨0, 1, 1⟩⟩ := by
      rw [Go.grammar_eq]
      decide +kernel
    have place : Text.splitAtByte? "@\nfoo".toList 0 = some ([], "@\nfoo".toList) := by decide
    obtain ⟨front, rest, cut, begins⟩ := stands _ _ "foo" (tokenize_of_answer answer) rfl (by decide)
    obtain ⟨-, same⟩ := Prod.mk.inj (Option.some.inj (place.symm.trans cut))
    rw [← same] at begins
    exact absurd begins (by decide)
  · intro unmatched
    have answer : ((Scanner.ofText "1²").analyze Go.grammar IdentTable.empty).answer =
        some ⟨.unrecognisedInput "1", ⟨0, 1, 1⟩⟩ := by
      rw [Go.grammar_eq]
      decide +kernel
    have nothing := unmatched _ _ "1" (tokenize_of_answer answer) rfl (by decide)
    rw [Go.grammar_eq] at nothing
    exact absurd nothing (by decide +kernel)

end GoScan
