import GoScan.Proofs.Position.Excerpt
import Mathlib.Data.List.DropRight

/-!
# What a failure quotes

The part of the text that a failure quotes is found by a search that may start anywhere and reads greedily
within a line. Line by line it is: of the first line with a quotable character, what stands up to the last
such character.

* `preferred?_lastInLine`: where the search starts, it reads up to the last quotable character of the line;
* `slice_firstStart?`: the first start that leads to anything is that of a line, or the place where the text
  begins;
* `Scanner.snippet_eq`: so the quoted part is `Text.quotation`;
* `Scanner.snippet_of_failure`: whatever the calls, that is what a failed scan quotes of the text left.
-/

namespace GoScan

open Pattern

/-- Up to the last of such characters a failure quotes: one of a word, a bar or a dollar sign. -/
def isQuotable (c : Char) : Bool := Unicode.isPatternWord c || c = '|' || c = '$'

variable {p : Char → Bool} {c : Char} {cs text line : List Char}

namespace Text

/-- The text up to the last character that satisfies `p`, and with it. -/
def upToLast (p : Char → Bool) (text : List Char) : List Char := text.rdropWhile (!p ·)

/-- The first line with a quotable character, up to the last one in it and without the spaces in front. -/
def quotation (text : List Char) : List Char :=
  match (split '\n' text).find? (·.any isQuotable) with
  | none => []
  | some line => (upToLast isQuotable line).dropWhile (· = ' ')

theorem upToLast_cons (p : Char → Bool) (c : Char) (cs : List Char) : upToLast p (c :: cs) =
    if cs.any p then c :: upToLast p cs else if p c then [c] else [] := by
  have none_left : (cs.reverse.dropWhile (!p ·)).isEmpty = !cs.any p := by
    rw [Bool.eq_iff_iff]
    simp
  rw [upToLast, upToLast, List.rdropWhile, List.rdropWhile, List.reverse_cons, List.dropWhile_append,
    none_left]
  cases cs.any p with
  | true => simp
  | false => cases here : p c <;> simp [here]

theorem upToLast_begins (p : Char → Bool) (text : List Char) : upToLast p text <+: text :=
  List.rdropWhile_prefix _ text

/-- What is left ends with a character that satisfies `p`. -/
theorem last_upToLast (h : (upToLast p text).getLast? = some c) : p c := by
  rw [upToLast] at h
  obtain ⟨nonempty, rfl⟩ := List.mem_getLast?_eq_getLast h
  have kept := List.rdropWhile_last_not (!p ·) text nonempty
  simpa using kept

/-- The first piece ends before the first mark. -/
theorem exists_split (mark : Char) (cs : List Char) :
    ∃ pieces, split mark cs = cs.takeWhile (· ≠ mark) :: pieces := by
  induction cs with
  | nil => exact ⟨[], rfl⟩
  | cons c cs ih =>
    obtain ⟨pieces, later⟩ := ih
    by_cases here : c = mark
    · exact ⟨split mark cs, by rw [split, if_pos here, List.takeWhile_cons_of_neg (by simpa using here)]⟩
    · refine ⟨pieces, ?_⟩
      rw [split, if_neg here, later, List.takeWhile_cons_of_pos (by simpa using here)]

/-- A line in which nothing is found has no part in the search. -/
theorem find?_split_cons (nothing : ((c :: cs).takeWhile (· ≠ '\n')).any p = false) :
    (split '\n' (c :: cs)).find? (·.any p) = (split '\n' cs).find? (·.any p) := by
  by_cases newline : c = '\n'
  · rw [split, if_pos newline, List.find?_cons_of_neg (by simp)]
  · obtain ⟨pieces, later⟩ := exists_split '\n' cs
    rw [List.takeWhile_cons_of_pos (by simpa using newline)] at nothing
    have inside : (cs.takeWhile (· ≠ '\n')).any p = false := by
      rw [List.any_cons, Bool.or_eq_false_iff] at nothing
      exact nothing.2
    rw [split, if_neg newline, later, List.find?_cons_of_neg (by rw [nothing]; exact Bool.false_ne_true),
      List.find?_cons_of_neg (by rw [inside]; exact Bool.false_ne_true)]

end Text

/-- What the span covers of a text that stands at `place`. -/
def Span.slice (span : Span) (place : Nat) (text : List Char) : List Char :=
  (text.take (span.stop - place)).drop (span.start - place)

/-- A span behind the first character covers the same of what stands there. -/
theorem Span.slice_cons {span : Span} {place : Nat} (start : place < span.start)
    (stop : span.start ≤ span.stop) (c : Char) (cs : List Char) :
    span.slice place (c :: cs) = span.slice (place + 1) cs := by
  have before : span.start - place = (span.start - (place + 1)) + 1 := by omega
  have behind : span.stop - place = (span.stop - (place + 1)) + 1 := by omega
  rw [slice, slice, before, behind, List.take_succ_cons, List.drop_succ_cons]

namespace Pattern

/-! ## The search -/

variable {left : Option Char} {place : Nat} {s : CharSet}

/-- Any number of characters of a line, and then one of the set. -/
def lastInLine (s : CharSet) : Pattern := cat (star true (set (.compl (.single '\n')))) (set s)

/-- The run takes the whole line and gives back what stands behind the last character of the set. -/
theorem preferred?_lastInLine (newline : s.contains '\n' = false) (left : Option Char) (text : List Char) :
    preferred? left [lastInLine s] text =
      if (text.takeWhile (· ≠ '\n')).any s.contains then
        some (Text.upToLast s.contains (text.takeWhile (· ≠ '\n'))).length
      else none := by
  rw [lastInLine, preferred?_cat]
  induction text generalizing left with
  | nil => rfl
  | cons c cs ih =>
    rw [preferred?_star_greedy rfl, preferred?_set_cons, preferred?_set_cons, ih, preferred?_nil]
    by_cases ends : c = '\n'
    · subst ends
      have outside : (CharSet.single '\n').compl.contains '\n' = false := by simp [CharSet.contains]
      simp [newline, outside]
    · have inside : (CharSet.single '\n').compl.contains c := by simpa [CharSet.contains] using ends
      rw [if_pos inside, List.takeWhile_cons_of_pos (by simpa using ends), Text.upToLast_cons,
        List.any_cons]
      cases (cs.takeWhile (· ≠ '\n')).any s.contains with
      | true => simp
      | false => cases here : s.contains c <;> simp

/-- The search finds what stands up to the last character of the set in the first line that has one. -/
theorem slice_firstStart? (newline : s.contains '\n' = false) (left : Option Char) (place : Nat)
    (text : List Char) :
    (firstStart? (lastInLine s) left place text).map (·.slice place text) =
      ((Text.split '\n' text).find? (·.any s.contains)).map (Text.upToLast s.contains) := by
  induction text generalizing left place with
  | nil =>
    rw [firstStart?, Thread.span?, preferred?_lastInLine newline]
    rfl
  | cons c cs ih =>
    rw [firstStart?, Thread.span?, preferred?_lastInLine newline]
    cases has : ((c :: cs).takeWhile (· ≠ '\n')).any s.contains with
    | true =>
      obtain ⟨pieces, lines⟩ := Text.exists_split '\n' (c :: cs)
      have line : (c :: cs).takeWhile (· ≠ '\n') <+: c :: cs := List.takeWhile_prefix _
      have front := (Text.upToLast_begins s.contains _).trans line
      have first : ((c :: cs).takeWhile (· ≠ '\n') :: pieces).find? (·.any s.contains) =
        some ((c :: cs).takeWhile (· ≠ '\n')) := List.find?_cons_of_pos has
      rw [lines, first, if_pos rfl, Option.map_some, Option.some_or, Option.map_some,
        Option.map_some, Span.slice, Nat.add_sub_cancel_left, Nat.sub_self, List.drop_zero,
        ← List.prefix_iff_eq_take.1 front]
    | false =>
      rw [Text.find?_split_cons has, ← ih (some c) (place + 1), if_neg Bool.false_ne_true, Option.map_none,
        Option.none_or]
      apply Option.map_congr
      intro span found
      obtain ⟨start, stop, -⟩ := firstStart?_bounds found
      exact Span.slice_cons start stop c cs

end Pattern

/-- The characters that a failure quotes up to, as they are written in a pattern. -/
def quotableSet : CharSet := .union (.union (.property .word) (.single '|')) (.single '$')

theorem contains_quotableSet : quotableSet.contains = isQuotable := by
  funext c
  simp [quotableSet, CharSet.contains, Property.holds, isQuotable, beq_eq_decide]

theorem blanks_not_quotable : isQuotable '\n' = false ∧ isQuotable ' ' = false := by decide +kernel

/-- What is dropped in front does not change the last character. -/
theorem getLast?_of_dropWhile (last : (cs.dropWhile p).getLast? = some c) : cs.getLast? = some c := by
  rw [← List.takeWhile_append_dropWhile (p := p) (l := cs), List.getLast?_append, last, Option.some_or]

namespace Text

theorem not_mem_of_mem_split {mark : Char} (mem : line ∈ split mark cs) : mark ∉ line := by
  induction cs generalizing line with
  | nil =>
    rw [List.mem_singleton.1 mem]
    exact List.not_mem_nil
  | cons c cs ih =>
    obtain ⟨pieces, later⟩ := exists_split mark cs
    rw [split] at mem
    by_cases here : c = mark
    · rw [if_pos here] at mem
      rcases List.mem_cons.1 mem with rfl | behind
      · exact List.not_mem_nil
      · exact ih behind
    · rw [if_neg here, later] at mem
      rcases List.mem_cons.1 mem with rfl | behind
      · have free : mark ∉ cs.takeWhile (· ≠ mark) := ih (later ▸ List.mem_cons_self)
        exact fun inside => (List.mem_cons.1 inside).elim (fun same => here same.symm) free
      · exact ih (later ▸ List.mem_cons_of_mem _ behind)

/-- What is quoted stands in a line, begins with no space and ends with a quotable character. -/
theorem quotation_spec (text : List Char) :
    '\n' ∉ quotation text ∧ (∀ c ∈ (quotation text).head?, c ≠ ' ') ∧
      ∀ c ∈ (quotation text).getLast?, isQuotable c := by
  rw [quotation]
  cases found : (split '\n' text).find? (·.any isQuotable) with
  | none => simp
  | some line =>
    refine ⟨?_, ?_, ?_⟩
    · intro mem
      have suffix := List.dropWhile_suffix (l := upToLast isQuotable line) (· = ' ')
      have inside := (upToLast_begins isQuotable line).subset (suffix.subset mem)
      exact not_mem_of_mem_split (List.mem_of_find?_eq_some found) inside
    · intro c first
      have stays := List.head?_dropWhile_not (· = ' ') (upToLast isQuotable line)
      rw [Option.mem_def.1 first] at stays
      simpa using stays
    · intro c last
      exact last_upToLast (getLast?_of_dropWhile last)

end Text

namespace Scanner

theorem snippetPattern_eq : snippetPattern = lastInLine quotableSet := by decide

/-- There is nothing to trim behind a quotable character. -/
theorem trimSpaces_eq (ends : ∀ c ∈ cs.getLast?, isQuotable c) :
    trimSpaces cs = cs.dropWhile (· = ' ') := by
  have trims : trimSpaces cs = (cs.dropWhile (· = ' ')).rdropWhile (· = ' ') := rfl
  rw [trims, List.rdropWhile_eq_self_iff]
  intro nonempty space
  have last : isQuotable ((cs.dropWhile (· = ' ')).getLast nonempty) :=
    ends _ (getLast?_of_dropWhile (List.getLast?_eq_some_getLast nonempty))
  rw [of_decide_eq_true space, blanks_not_quotable.2] at last
  exact Bool.false_ne_true last

/-- What the search finds is what the lines say. -/
theorem snippet_eq (text : List Char) : snippet text = String.ofList (Text.quotation text) := by
  have newline : quotableSet.contains '\n' = false := by
    rw [contains_quotableSet]
    exact blanks_not_quotable.1
  have slice := slice_firstStart? newline none 0 text
  rw [contains_quotableSet, ← find?_eq_firstStart?, ← snippetPattern_eq] at slice
  rw [snippet, Text.quotation]
  cases found : snippetPattern.find? text with
  | none =>
    rw [found, Option.map_none, eq_comm, Option.map_eq_none_iff] at slice
    rw [slice]
  | some span =>
    rw [found, Option.map_some, eq_comm, Option.map_eq_some_iff] at slice
    obtain ⟨line, first, quoted⟩ := slice
    have ends : ∀ c ∈ (Text.upToLast isQuotable line).getLast?, isQuotable c :=
      fun c last => Text.last_upToLast last
    rw [first]
    change String.ofList (trimSpaces (span.slice 0 text)) = _
    rw [← quoted, trimSpaces_eq ends]

variable {ι : Type} [Interner ι]

/-- A failure tells where the scan stands and quotes the text left. -/
theorem failureHere_invariant (g : Grammar) :
    Invariant ι g fun _ s => ∀ f, s.failure = some f → f = s.failureHere where
  next := by
    intro read s tells table
    have form := nextStep g s table
    generalize s.next g table = step at form ⊢
    cases form with
    | failed | finished => exact tells
    | halted =>
      intro f stored
      exact (Option.some.inj stored).symm
    | read unfailed =>
      intro f stored
      exact absurd (stored.symm.trans unfailed) (Option.some_ne_none f)
  withLocale tells l := tells

/-- Where a scan has failed: the text left is not empty, stands at the place of the failure, and is such that
nothing matches at its start. -/
theorem stuck_of_failure (g : Grammar) (source : String) (history : List (Call × ι)) (f : Failure)
    (failed : (takeTurns g history (ofText source)).failure = some f) :
    ∃ front, let rest := (takeTurns g history (ofText source)).rest
      Text.splitAtByte? source.toList f.position.offset = some (front, rest) ∧ rest ≠ [] ∧
        g.lexeme? rest = none ∧ f.fault = .unrecognisedInput (snippet rest) := by
  have follows : Follows source (takeTurns g history (ofText source)) :=
    (Follows.ofText source).takeTurns g history
  have stuck := (stuck_invariant (ι := ι) g).takeTurns [] (s := ofText source) (by simp [ofText]) history
  have tells := (failureHere_invariant (ι := ι) g).takeTurns [] (s := ofText source) (by simp [ofText]) history
  obtain ⟨front, cut, here⟩ := follows.stands
  obtain ⟨place, more⟩ := follows.failed f failed
  refine ⟨front, ?_, more, stuck (by rw [failed]; rfl), congrArg Failure.fault (tells f failed)⟩
  rw [Text.splitAtByte?_eq_some_iff, place, here, Position.offset_advanceAll]
  exact ⟨cut, (Nat.zero_add _).symm⟩

/-- Whatever the history of a scan that has failed, the failure quotes of the text left, the first line with a
quotable character up to the last one in it, but for the spaces in front, or nothing if there is no such
line. So it quotes no newline, and no space at either end. -/
theorem snippet_of_failure (g : Grammar) (source : String) (history : List (Call × ι)) (f : Failure)
    (failed : (takeTurns g history (ofText source)).failure = some f) :
    ∃ front rest snippet, Text.splitAtByte? source.toList f.position.offset = some (front, rest) ∧
      rest = (takeTurns g history (ofText source)).rest ∧
      f.fault = .unrecognisedInput snippet ∧ snippet.toList = Text.quotation rest ∧
      '\n' ∉ snippet.toList ∧ snippet.toList.head? ≠ some ' ' ∧ snippet.toList.getLast? ≠ some ' ' := by
  obtain ⟨front, cut, -, -, fault⟩ := stuck_of_failure g source history f failed
  obtain ⟨oneLine, head, last⟩ := Text.quotation_spec (takeTurns g history (ofText source)).rest
  have whole : (snippet (takeTurns g history (ofText source)).rest).toList =
      Text.quotation (takeTurns g history (ofText source)).rest := by
    rw [snippet_eq, String.toList_ofList]
  refine ⟨front, _, _, cut, rfl, fault, whole, ?_, ?_, ?_⟩
  · rw [whole]
    exact oneLine
  · rw [whole]
    exact fun space => head ' ' space rfl
  · rw [whole]
    intro space
    have quotable := last ' ' space
    rw [blanks_not_quotable.2] at quotable
    exact Bool.false_ne_true quotable

/-- Neither the line of the failure nor the next has anything to quote; the one below has spaces around it. -/
theorem snippet_of_failure_below :
    (takeTurns Go.grammar [(.analyze, IdentTable.empty)] (ofText "x #\n\n  a|b$ ! c ?")).failure =
        some ⟨.unrecognisedInput "a|b$ ! c", ⟨2, 1, 3⟩⟩ ∧
      ∃ front rest, Text.splitAtByte? "x #\n\n  a|b$ ! c ?".toList 2 = some (front, rest) ∧
        "a|b$ ! c".toList = Text.quotation rest := by
  have failed : (takeTurns Go.grammar [(.analyze, IdentTable.empty)]
      (ofText "x #\n\n  a|b$ ! c ?")).failure = some ⟨.unrecognisedInput "a|b$ ! c", ⟨2, 1, 3⟩⟩ := by
    rw [Go.grammar_eq]
    decide +kernel
  obtain ⟨front, rest, snippet, cut, -, fault, quoted, -⟩ := snippet_of_failure Go.grammar _ _ _ failed
  have same : "a|b$ ! c" = snippet := Fault.unrecognisedInput.inj fault
  exact ⟨failed, front, rest, cut, by rw [same, quoted]⟩

end Scanner

end GoScan
