import GoScan.Proofs.Go.Delimiters
import GoScan.Proofs.Go.Openings

/-!
# What is not closed

A string must be closed in its line and a raw string anywhere; where one is not, nothing else begins with
its quote, and a scan stops there. A comment that is not closed is not noticed: its slash is an operator too.

* `match?_of_unclosedLiteral`: with a quote that is not closed nothing begins;
* `match?_of_unclosedComment`: a comment that is not closed is read as a slash;
* `unclosed_literals_reported`: so a scan that comes to such a literal reads nothing of it and fails at its
  quote;
* `not_unclosed_reported`: a scan that comes to such a comment goes on.
-/

namespace GoScan

namespace Go

open Text (closingQuote? firstAt?)

variable {text cs : List Char}

/-- The text begins with a quote that is not closed before the end of the line, where a backslash takes the
next character with it, or with a backtick that is not closed at all. -/
inductive UnclosedLiteral : List Char → Prop
  | string {cs : List Char} : (∀ n, closingQuote? false cs = some n → '\n' ∈ cs.take n) →
      UnclosedLiteral ('"' :: cs)
  | rawString {cs : List Char} : '\x60' ∉ cs → UnclosedLiteral ('\x60' :: cs)

/-- The text begins with a comment that is not closed. -/
inductive UnclosedComment : List Char → Prop
  | mk {cs : List Char} : ¬['*', '/'] <:+: cs → UnclosedComment ('/' :: '*' :: cs)

theorem firstAt?_eq_none {w : List Char} (nowhere : ¬w <:+: text) : firstAt? w text = none := by
  apply Option.eq_none_iff_forall_ne_some.2
  intro n found
  obtain ⟨here, -⟩ := Text.firstAt?_eq_some.1 found
  exact nowhere (here.isInfix.trans (List.drop_suffix n text).isInfix)

/-- No entry takes a string that is not closed in its line. -/
theorem length?_of_unclosedString
    (unclosed : ∀ n, closingQuote? false cs = some n → '\n' ∈ cs.take n) :
    ∀ e ∈ quoted, e.length? ('"' :: cs) = none := by
  have no_string : string.length? ('"' :: cs) = none := by
    rw [length?_string]
    cases closes : closingQuote? false cs with
    | none => rfl
    | some n =>
      have inside : inLine cs n = false := by simpa [inLine] using unclosed n closes
      simp [inside, Option.filter]
  intro e mem
  obtain rfl | rfl | rfl : e = rune ∨ e = string ∨ e = rawString := by simpa [quoted] using mem
  · rfl
  · exact no_string
  · rfl

/-- No entry takes a raw string that is not closed. -/
theorem length?_of_unclosedRawString (unclosed : '\x60' ∉ cs) :
    ∀ e ∈ quoted, e.length? ('\x60' :: cs) = none := by
  have no_rawString : rawString.length? ('\x60' :: cs) = none := by
    have nowhere : ¬['\x60'] <:+: cs := by
      intro inside
      exact unclosed (inside.subset List.mem_cons_self)
    rw [length?_rawString, firstAt?_eq_none nowhere]
    rfl
  intro e mem
  obtain rfl | rfl | rfl : e = rune ∨ e = string ∨ e = rawString := by simpa [quoted] using mem
  · rfl
  · rfl
  · exact no_rawString

theorem lexeme?_of_unclosedLiteral (unclosed : UnclosedLiteral text) : grammar.lexeme? text = none := by
  cases unclosed with
  | string unclosed =>
    rw [lexeme?_of_quote _ (by decide)]
    exact firstOf_eq_none.2 (length?_of_unclosedString unclosed)
  | rawString unclosed =>
    rw [lexeme?_of_quote _ (by decide)]
    exact firstOf_eq_none.2 (length?_of_unclosedRawString unclosed)

theorem match?_of_unclosedLiteral (unclosed : UnclosedLiteral text) : grammar.match? text = none :=
  match?_eq_none (lexeme?_of_unclosedLiteral unclosed)

/-! ## Comments -/

/-- The operator that a comment begins with. -/
def slash : Entry := literal "/" .operator

theorem eq_slash_of_name : ∀ e ∈ marks, e.name.toList = ['/'] → e = slash := by decide

/-- Of a comment that is not closed the slash is read, whatever the comment holds. -/
theorem match?_of_unclosedComment (unclosed : UnclosedComment text) :
    grammar.match? text = some ⟨slash, ⟨0, 1⟩⟩ := by
  obtain ⟨open_end⟩ := unclosed
  rename_i cs
  have no_comment : blockComment.length? ('/' :: '*' :: cs) = none := by
    rw [length?_comment, firstAt?_eq_none open_end]
    rfl
  have opens_here : opens '/' := by decide
  obtain ⟨l, taken⟩ := Option.isSome_iff_exists.1 (lexeme?_of_opens opens_here ('*' :: cs))
  have whole := (Grammar.lexeme?_eq_some taken).2
  have matched := match?_of_lexeme? taken
  rw [whole] at taken no_comment
  obtain ⟨isOperator, chars, -⟩ := slash_of_unclosed taken whole.symm no_comment
  obtain ⟨listed, found⟩ := of_lexeme? taken
  have mem : l.entry ∈ marks := mem_marks_of_class _ listed (.inl isOperator)
  have name : l.entry.name.toList = ['/'] := by rw [← chars_eq_name_of_mark mem found, chars]
  rw [eq_slash_of_name _ mem name, chars] at matched
  exact matched

end Go

open Scanner (ofText)

variable {ι : Type} [Interner ι]

/-- Nothing matches where a string opens that is not closed in its line, or a raw string that is not closed.
A scan that has come there, whatever the calls, reads no token any more; the next call fails at the place of
the quote in the source. Where a comment opens that is not closed an operator is read. -/
theorem unclosed_literals_reported (text : List Char) :
    (Go.UnclosedLiteral text → Go.grammar.match? text = none ∧
      ∀ (source : String) (history : List (Call × ι)),
        let s := takeTurns Go.grammar history (ofText source)
        s.rest = text →
          (∀ later : List (Call × ι), tokensReported Go.grammar later s = []) ∧
          ∀ table : ι, ∃ f snippet front, (s.next Go.grammar table).answer = .failed f ∧
            f.fault = .unrecognisedInput snippet ∧
            Text.splitAtByte? source.toList f.position.offset = some (front, text)) ∧
    (Go.UnclosedComment text → Go.grammar.match? text = some ⟨Go.slash, ⟨0, 1⟩⟩) := by
  refine ⟨?_, Go.match?_of_unclosedComment⟩
  intro unclosed
  have nothing := Go.lexeme?_of_unclosedLiteral unclosed
  refine ⟨Go.match?_of_unclosedLiteral unclosed, ?_⟩
  intro source history s here
  have stops : Go.grammar.Stops s.rest := .inr (here ▸ nothing)
  refine ⟨Scanner.tokensReported_of_stops stops, ?_⟩
  intro table
  have more : s.rest ≠ [] := by
    rw [here]
    cases unclosed <;> exact List.cons_ne_nil _ _
  obtain ⟨f, fails, failed⟩ := Scanner.exists_failed_of_stops table stops more
  have stays := ((Scanner.stays_invariant stops).next ⟨rfl, rfl⟩ table).2
  have further : takeTurns Go.grammar (history ++ [(.next, table)]) (ofText source) =
      (s.next Go.grammar table).scanner := by
    rw [takeTurns, List.foldl_append]
    rfl
  rw [← further] at failed stays
  obtain ⟨front, cut, -, -, fault⟩ := Scanner.stuck_of_failure Go.grammar source _ f failed
  rw [stays, here] at cut
  exact ⟨f, _, front, fails, fault, cut⟩

/-- A backslash takes the second quote, and the third stands in the next line. The slash of a comment that is
opened does not close it. -/
theorem unclosed_literals_reported_escaped :
    (let text := ['"', 'a', '\\', '"', '\n', '"']
      let read := [(.next, IdentTable.empty), (.next, .empty)]
      Go.UnclosedLiteral text ∧ (takeTurns Go.grammar read (ofText "x \"a\\\"\n\"")).rest = text ∧
        Go.grammar.match? text = none ∧
        tokensReported Go.grammar [(.analyze, IdentTable.empty)]
          (takeTurns Go.grammar read (ofText "x \"a\\\"\n\"")) = []) ∧
    Go.UnclosedComment ['/', '*', '/'] ∧ Go.grammar.match? ['/', '*', '/'] = some ⟨Go.slash, ⟨0, 1⟩⟩ := by
  constructor
  · intro text read
    have unclosed : Go.UnclosedLiteral text := by
      apply Go.UnclosedLiteral.string
      intro n closes
      obtain rfl : 4 = n := Option.some.inj closes
      decide
    have here : (takeTurns Go.grammar read (ofText "x \"a\\\"\n\"")).rest = text := by
      rw [Go.grammar_eq]
      decide +kernel
    obtain ⟨nothing, reported⟩ := (unclosed_literals_reported text).1 unclosed
    exact ⟨unclosed, here, nothing, (reported _ read here).1 _⟩
  · have unclosed : Go.UnclosedComment ['/', '*', '/'] := ⟨by decide⟩
    exact ⟨unclosed, (unclosed_literals_reported (ι := IdentTable) _).2 unclosed⟩

/-- A scan does not stop where a comment opens that is not closed, and reads what stands in it. -/
theorem not_unclosed_reported :
    ¬∀ text, Go.UnclosedLiteral text ∨ Go.UnclosedComment text → Go.grammar.match? text = none := by
  intro reported
  have unclosed : Go.UnclosedComment ['/', '*', ' ', 'x'] := ⟨by decide⟩
  have nothing := reported _ (.inr unclosed)
  rw [Go.match?_of_unclosedComment unclosed] at nothing
  exact absurd nothing (Option.some_ne_none _)

end GoScan
