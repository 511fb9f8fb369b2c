import GoScan.Proofs.Go.Words
import GoScan.Proofs.Scan.Failing
import Mathlib.Data.List.Forall2

/-!
# No word goes on in the next token

Keywords and constants are refused where a word goes on behind them. A name is not: it takes all that
can belong to it, and what is left of the word then begins no token of Go source text.

* `Scanner.Reads.takeTurns`: whatever the calls, what they have read are lexemes of the text, one behind
  another;
* `Lexeme.atBoundary_of_needsBoundary`, `Go.atBoundary_of_id`: behind which lexemes no word goes on;
* `words_unsplit`: so the token that follows does not begin inside a word;
* `not_numbers_apart`: a number can follow a number all the same, if it begins with a point.
-/

namespace GoScan

namespace Lexeme

/-- The token has the text of the lexeme and is labelled by its entry; where it stands and what number
a name has is left open. -/
structure Yields (l : Lexeme) (t : Token) : Prop where
  text : t.text.toList = l.chars
  tokenClass : t.tokenClass = l.entry.tokenClass
  kind : l.entry.tokenClass ≠ .id → t.kind = l.entry.name

variable {g : Grammar} {l : Lexeme} {a : List Char}

theorem yields_token {ι : Type} [Interner ι] (l : Lexeme) (table : ι) (p : Position) :
    l.Yields (l.token table p) where
  text := String.toList_ofList
  tokenClass := rfl
  kind other := by rw [token, Entry.kind_of_ne_id other]

/-- In any grammar no word goes on behind a keyword or a constant. -/
theorem atBoundary_of_needsBoundary (taken : g.lexeme? (l.chars ++ a) = some l)
    (needs : l.entry.tokenClass.needsBoundary) : atBoundary a := by
  obtain ⟨m, matched, whole⟩ := Option.map_eq_some_iff.1 taken
  have inside := (Grammar.match?_bounds matched).2
  have chars : (l.chars ++ a).take m.span.stop = l.chars := congrArg chars whole
  have entry : m.entry = l.entry := congrArg entry whole
  rw [Grammar.match?_eq_findSome?] at matched
  obtain ⟨e, -, found⟩ := List.exists_of_findSome?_eq_some matched
  obtain ⟨span, accepted, rfl⟩ := Option.map_eq_some_iff.1 found
  have ends := (Option.filter_eq_some_iff.1 accepted).2
  have stop : span.stop = l.chars.length := by
    have size := congrArg List.length chars
    rwa [List.length_take, Nat.min_eq_left inside] at size
  simp only at entry
  rw [Entry.endsWell, entry, needs, stop, List.drop_left] at ends
  simpa using ends

end Lexeme

/-! ## Two tokens in a row -/

section

variable {g : Grammar} {text rest : List Char} {ls : List Lexeme} {before behind : List Token} {t u : Token}

/-- A token that is read is what the grammar takes at its place, and the reading goes on behind it. -/
theorem Scans.exists_next (h : Scans g text ls rest)
    (row : List.Forall₂ Lexeme.Yields ls (before ++ t :: behind)) :
    ∃ l a ms, g.lexeme? (l.chars ++ a) = some l ∧ l.Yields t ∧ Scans g a ms rest ∧
      List.Forall₂ Lexeme.Yields ms behind := by
  induction before generalizing text ls with
  | nil =>
    obtain ⟨l, ms, here, others, rfl⟩ := List.forall₂_cons_right_iff.1 row
    cases h with
    | next taken tail => exact ⟨l, _, ms, taken, here, tail, others⟩
  | cons x before ih =>
    obtain ⟨_, _, -, others, rfl⟩ := List.forall₂_cons_right_iff.1 row
    cases h with
    | next _ tail => exact ih tail others

theorem Scans.exists_adjacent (h : Scans g text ls rest)
    (row : List.Forall₂ Lexeme.Yields ls (before ++ t :: u :: behind)) :
    ∃ l m a, g.lexeme? (l.chars ++ (m.chars ++ a)) = some l ∧ g.lexeme? (m.chars ++ a) = some m ∧
      l.Yields t ∧ m.Yields u := by
  obtain ⟨l, _, _, taken, first, tail, others⟩ := h.exists_next row
  obtain ⟨m, _, second, -, rfl⟩ := List.forall₂_cons_right_iff.1 others
  cases tail with
  | next taken' _ => exact ⟨l, m, _, taken, taken', first, second⟩

end

namespace Scanner

/-- What is read are lexemes that the grammar takes from the source one behind another, up to the text
left. -/
def Reads (g : Grammar) (source : String) (read : List Token) (s : Scanner) : Prop :=
  ∃ ls, Scans g source.toList ls s.rest ∧ List.Forall₂ Lexeme.Yields ls read

namespace Reads

variable {ι : Type} [Interner ι] {g : Grammar} {source : String} {read : List Token} {s : Scanner}

theorem ofText (g : Grammar) (source : String) : Reads g source [] (ofText source) :=
  ⟨[], .done source.toList, .nil⟩

theorem next (h : Reads g source read s) (table : ι) :
    Reads g source (read ++ (s.next g table).answer.token?.toList) (s.next g table).scanner := by
  obtain ⟨ls, scans, yields⟩ := h
  have form := nextStep g s table
  generalize s.next g table = step at form ⊢
  cases form with
  | failed | finished | halted => exact ⟨ls, scans, by simpa [Outcome.token?] using yields⟩
  | @read l _ _ taken =>
    have whole := (Grammar.lexeme?_eq_some taken).2
    rw [whole] at taken scans
    have further : Scans g source.toList (ls ++ [l]) (s.rest.drop l.chars.length) :=
      scans.append (.next taken (.done _))
    refine ⟨ls ++ [l], by simpa [after] using further, ?_⟩
    exact List.rel_append yields (.cons (l.yields_token table s.position) .nil)

theorem invariant (g : Grammar) (source : String) : Invariant ι g (Reads g source) where
  next h table := h.next table
  withLocale h _ := h

theorem takeTurns (g : Grammar) (source : String) (history : List (Call × ι)) :
    Reads g source (tokensReported g history (.ofText source))
      (takeTurns g history (.ofText source)) :=
  (invariant g source).takeTurns [] (ofText g source) history

/-- Of two tokens in a row the second is what the grammar takes behind the first. -/
theorem exists_adjacent (h : Reads g source read s) {before behind : List Token} {t u : Token}
    (row : read = before ++ t :: u :: behind) :
    ∃ l m a, g.lexeme? (l.chars ++ (m.chars ++ a)) = some l ∧ g.lexeme? (m.chars ++ a) = some m ∧
      l.Yields t ∧ m.Yields u := by
  obtain ⟨ls, scans, yields⟩ := h
  rw [row] at yields
  exact scans.exists_adjacent yields

end Reads

end Scanner

/-! ## Go source text -/

namespace Go

variable {l : Lexeme} {a : List Char} {c : Char}

/-- With a letter or a digit a word begins. -/
theorem isWordChar_of_glyph (h : glyph c = .letter ∨ glyph c = .digit) : isWordChar c := by
  have belongs := nameSet_of_glyph h
  rw [contains_nameSet] at belongs
  exact isWordChar_of_isNameChar belongs

theorem eq_of_glyph_point (h : glyph c = .point) : c = '.' := by
  unfold glyph at h
  repeat' split at h
  all_goals simp_all

theorem eq_name_of_id : ∀ e ∈ entries, e.tokenClass = .id → e = name := by decide

set_option maxRecDepth 2000 in
theorem mem_numbers_of_name : ∀ e ∈ entries, e.name ∈ numbers.map (·.name) → e ∈ numbers := by
  decide

theorem of_lexeme? (taken : grammar.lexeme? (l.chars ++ a) = some l) :
    l.entry ∈ entries ∧ l.entry.length? (l.chars ++ a) = some l.chars.length := by
  rw [lexeme?_eq] at taken
  obtain ⟨mem, found, -⟩ := of_firstOf_eq_some taken
  exact ⟨mem, found⟩

/-- Behind a name no word goes on where the scan goes on. -/
theorem atBoundary_of_id (taken : grammar.lexeme? (l.chars ++ a) = some l)
    (further : (grammar.lexeme? a).isSome) (id : l.entry.tokenClass = .id) : atBoundary a := by
  obtain ⟨mem, found⟩ := of_lexeme? taken
  rw [eq_name_of_id _ mem id] at found
  exact atBoundary_behind_name found (.inr further)

/-- Where no word goes on no name begins, and a number only with a point. -/
theorem of_atBoundary (taken : grammar.lexeme? (l.chars ++ a) = some l)
    (ends : atBoundary (l.chars ++ a)) :
    l.entry.tokenClass ≠ .id ∧ (l.entry ∈ numbers → l.chars.head? = some '.') := by
  obtain ⟨c, cs, chars⟩ := List.exists_cons_of_ne_nil (Grammar.lexeme?_eq_some taken).1
  obtain ⟨mem, found⟩ := of_lexeme? taken
  rw [chars, List.cons_append] at ends found
  have start := Entry.glyph_mem_starts (plain_of_mem _ mem) found
  have outside : isWordChar c = false := by simpa [atBoundary] using ends
  constructor
  · intro id
    rw [eq_name_of_id _ mem id] at start
    have letter : glyph c = .letter := by
      simpa [Group.name] using Group.name.begins name (.head _) _ start
    rw [isWordChar_of_glyph (.inl letter)] at outside
    exact absurd outside (by decide)
  · intro number
    have begins : glyph c = .digit ∨ glyph c = .point := by
      simpa [Group.numbers] using Group.numbers.begins _ number _ start
    rcases begins with digit | point
    · rw [isWordChar_of_glyph (.inr digit)] at outside
      exact absurd outside (by decide)
    · rw [chars, eq_of_glyph_point point]
      rfl

end Go

namespace Token

/-- The token begins with a character of a word. -/
def BeginsInWord (t : Token) : Prop := ∃ c ∈ t.text.toList.head?, isWordChar c

/-- An imaginary, floating-point or integer literal. -/
def IsNumber (t : Token) : Prop := t.tokenClass = .constant ∧ t.kind ∈ Go.numbers.map (·.name)

/-- A number, or a literal between quotes. -/
def IsLiteral (t : Token) : Prop :=
  t.tokenClass = .constant ∧ t.kind ∈ (Go.numbers ++ Go.quoted).map (·.name)

instance (t : Token) : Decidable t.IsNumber := inferInstanceAs (Decidable (_ ∧ _))

instance (t : Token) : Decidable t.IsLiteral := inferInstanceAs (Decidable (_ ∧ _))

theorem not_beginsInWord {l : Lexeme} {t : Token} {a : List Char} (yields : l.Yields t)
    (ends : atBoundary (l.chars ++ a)) : ¬ t.BeginsInWord := by
  rintro ⟨c, first, word⟩
  rw [yields.text] at first
  obtain ⟨cs, chars⟩ := List.head?_eq_some_iff.1 first
  simp [chars, atBoundary, word] at ends

end Token

open Scanner (Reads ofText)

variable {ι : Type} [Interner ι]

/-- In a row of tokens, whatever the calls that read them, no word goes on behind a keyword or a constant
of any grammar, and behind a name of Go source text neither. So no literal of Go has a name right behind
it, or a number other than one that begins with a point. -/
theorem words_unsplit :
    (∀ (g : Grammar) (source : String) (history : List (Call × ι)) (before : List Token) (t u : Token)
        (behind : List Token),
      tokensReported g history (ofText source) = before ++ t :: u :: behind →
      t.tokenClass = .keyword ∨ t.tokenClass = .constant → ¬ u.BeginsInWord) ∧
    ∀ (source : String) (history : List (Call × ι)) (before : List Token) (t u : Token)
        (behind : List Token),
      tokensReported Go.grammar history (ofText source) = before ++ t :: u :: behind →
      (t.tokenClass = .keyword ∨ t.tokenClass = .constant ∨ t.tokenClass = .id → ¬ u.BeginsInWord) ∧
      (t.IsLiteral → u.tokenClass ≠ .id ∧ (u.IsNumber → u.text.toList.head? = some '.')) := by
  have bounded (g : Grammar) {l : Lexeme} {t : Token} {a : List Char}
      (taken : g.lexeme? (l.chars ++ a) = some l) (yields : l.Yields t)
      (reserved : t.tokenClass = .keyword ∨ t.tokenClass = .constant) : atBoundary a := by
    apply Lexeme.atBoundary_of_needsBoundary taken
    rw [yields.tokenClass] at reserved
    rcases reserved with named | named <;> rw [named] <;> rfl
  constructor
  · intro g source history before t u behind row reserved
    obtain ⟨l, m, a, taken, -, yields, yields'⟩ := (Reads.takeTurns g source history).exists_adjacent row
    exact Token.not_beginsInWord yields' (bounded g taken yields reserved)
  · intro source history before t u behind row
    obtain ⟨l, m, a, taken, taken', yields, yields'⟩ :=
      (Reads.takeTurns Go.grammar source history).exists_adjacent row
    constructor
    · intro word
      apply Token.not_beginsInWord (a := a) yields'
      rcases word with keyword | constant | id
      · exact bounded Go.grammar taken yields (.inl keyword)
      · exact bounded Go.grammar taken yields (.inr constant)
      · rw [yields.tokenClass] at id
        exact Go.atBoundary_of_id taken (Option.isSome_of_eq_some taken') id
    · intro literal
      obtain ⟨unnamed, point⟩ :=
        Go.of_atBoundary taken' (bounded Go.grammar taken yields (.inr literal.1))
      rw [yields'.tokenClass, yields'.text]
      refine ⟨unnamed, fun number => point ?_⟩
      apply Go.mem_numbers_of_name _ (Go.of_lexeme? taken').1
      rw [← yields'.kind unnamed]
      exact number.2

/-- Two numbers with nothing between them. -/
theorem tokensReported_points :
    tokensReported Go.grammar [(.next, IdentTable.empty), (.next, IdentTable.empty)] (ofText "1..5") =
      [⟨"float_lit", "1.", .constant, ⟨0, 1, 1⟩⟩, ⟨"float_lit", ".5", .constant, ⟨2, 1, 3⟩⟩] := by
  rw [Go.grammar_eq]
  decide +kernel

theorem words_unsplit_points :
    let t : Token := ⟨"float_lit", "1.", .constant, ⟨0, 1, 1⟩⟩
    let u : Token := ⟨"float_lit", ".5", .constant, ⟨2, 1, 3⟩⟩
    tokensReported Go.grammar [(.next, IdentTable.empty), (.next, IdentTable.empty)] (ofText "1..5") =
        [t, u] ∧ t.IsLiteral ∧ ¬ u.BeginsInWord ∧ u.text.toList.head? = some '.' := by
  intro t u
  have literal : t.IsLiteral := by decide
  have number : u.IsNumber := by decide
  have unsplit := words_unsplit.1 Go.grammar "1..5" _ [] t u [] tokensReported_points (.inr rfl)
  have point := (words_unsplit.2 "1..5" _ [] t u [] tokensReported_points).2 literal
  exact ⟨tokensReported_points, literal, unsplit, point.2 number⟩

/-- A literal can have a number right behind it. -/
theorem not_numbers_apart :
    ¬ ∀ (source : String) (history : List (Call × IdentTable)) (before : List Token) (t u : Token)
        (behind : List Token),
      tokensReported Go.grammar history (ofText source) = before ++ t :: u :: behind →
      t.IsLiteral → ¬ (u.tokenClass = .id ∨ u.IsNumber) := by
  intro apart
  have again := apart "1..5" _ [] _ _ [] tokensReported_points (by decide)
  exact again (.inr (by decide))

end GoScan
