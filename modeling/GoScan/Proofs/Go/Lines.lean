import GoScan.Proofs.Go.Newline
import GoScan.Proofs.Scan.Below

/-!
# Lines below a text

* `noneOpens_of_recorded`: it can be told from the tokens that no comment is opened and left open;
* `analyze_lines`: lines below a text are tokenized as they are alone, with the table that the text
  leaves.
-/

namespace GoScan

open Lexeme (recorded tablesAfter)

/-- The character of the source right behind the token. -/
def Token.next? (t : Token) (source : String) : Option Char :=
  (Text.splitAtByte? source.toList t.stop).bind fun cut => cut.2.head?

variable {ι : Type} [Interner ι] {table : ι}

namespace Go

variable {p : Position} {ls ms : List Lexeme}

theorem recorded_gap_append (w : List Char) :
    recorded table p (gap w ++ ms) = recorded table (p.advanceAll w) ms := by
  rw [Lexeme.recorded_append, Lexeme.recorded_of_skipped (skipped_gap w),
    Lexeme.tablesAfter_of_skipped (skipped_gap w), chars_gap, List.nil_append]

theorem tablesAfter_gap_append (w : List Char) :
    tablesAfter table (gap w ++ ms) = tablesAfter table ms := by
  rw [Lexeme.tablesAfter_append, Lexeme.tablesAfter_of_skipped (skipped_gap w)]

/-- The tokens tell that no comment is opened and left open. -/
theorem noneOpens_of_recorded (table : ι) {a : String} (h : Scans grammar a.toList ls [])
    (free : ∀ t ∈ recorded table .start ls, t.tokenClass = .operator → t.text = "/" →
      t.next? a ≠ some '*') : NoneOpens ls := by
  intro before l behind whole operator slash star
  let here := Position.start.advanceAll (before.flatMap Lexeme.chars)
  have is_recorded : l.isRecorded := by simp [Lexeme.isRecorded, operator]
  have mem : l.token (tablesAfter table before) here ∈ recorded table .start ls := by
    rw [whole, Lexeme.recorded_append, Lexeme.recorded_cons, is_recorded]
    simp [here]
  refine free _ mem operator (by simp [Lexeme.token, slash]) ?_
  have source : a.toList =
      (before.flatMap Lexeme.chars ++ l.chars) ++ behind.flatMap Lexeme.chars := by
    rw [h.text_eq, whole]
    simp
  have stop : (l.token (tablesAfter table before) here).stop =
      Text.byteCount (before.flatMap Lexeme.chars ++ l.chars) := by
    rw [Lexeme.stop_token, ← Position.advanceAll_append, Position.offset_advanceAll]
    exact Nat.zero_add _
  rw [Token.next?, Text.splitAtByte?_eq_some_iff.2 ⟨source, stop.symm⟩]
  exact star

/-- Behind a text, a newline and these blanks is below the text where it is behind the blanks. -/
theorem advanceAll_gap {a : String} {front w v : List Char} (h : front ++ w = a.toList) :
    (Position.start.advanceAll front).advanceAll (w ++ '\n' :: v) =
      (Position.start.advanceAll v).below a := by
  have parts : w ++ '\n' :: v = w ++ (['\n'] ++ v) := rfl
  rw [← Position.advanceAll_append, parts, ← List.append_assoc, ← List.append_assoc, h,
    Position.advanceAll_append, ← Position.start_below, Position.advanceAll_below]

section
variable {a : String} {init : List Lexeme} {w v : List Char}

/-- What is recorded of lexemes that blanks follow, then a newline, other blanks and other lexemes. -/
theorem recorded_lines (h : init.flatMap Lexeme.chars ++ w = a.toList) :
    recorded table .start (init ++ (gap (w ++ '\n' :: v) ++ ms)) =
      recorded table .start (init ++ gap w) ++
        (recorded (tablesAfter table init) .start (gap v ++ ms)).map (Token.below a) := by
  have before : recorded table .start (init ++ gap w) = recorded table .start init := by
    rw [Lexeme.recorded_append, Lexeme.recorded_of_skipped (skipped_gap w), List.append_nil]
  rw [before, Lexeme.recorded_append, recorded_gap_append, recorded_gap_append, advanceAll_gap h,
    Lexeme.recorded_below]

/-- Where these lexemes end. -/
theorem advanceAll_lines (h : init.flatMap Lexeme.chars ++ w = a.toList) :
    Position.start.advanceAll ((init ++ (gap (w ++ '\n' :: v) ++ ms)).flatMap Lexeme.chars) =
      (Position.start.advanceAll ((gap v ++ ms).flatMap Lexeme.chars)).below a := by
  simp only [List.flatMap_append]
  rw [Position.advanceAll_append, Position.advanceAll_append, chars_gap, advanceAll_gap h,
    Position.advanceAll_append, chars_gap, Position.advanceAll_below]

end

end Go

open Scanner (ofText)

/-- When a text is tokenized, and no slash in it is an operator with a star right behind, lines below
it are tokenized as they are alone, with the table that the text leaves, and with their positions
moved below the text. So is a failure in them. -/
theorem analyze_lines {a : String} (b : String)
    (reads : ((ofText a).analyze Go.grammar table).answer = none)
    (free : ∀ t ∈ ((ofText a).analyze Go.grammar table).scanner.lists.all,
      t.tokenClass = .operator → t.text = "/" → t.next? a ≠ some '*') :
    let first := (ofText a).analyze Go.grammar table
    let second := (ofText b).analyze Go.grammar first.table
    let whole := (ofText (a ++ "\n" ++ b)).analyze Go.grammar table
    whole.scanner.lists.all =
        first.scanner.lists.all ++ second.scanner.lists.all.map (Token.below a) ∧
      (∀ c, whole.scanner.lists.ofClass c =
        first.scanner.lists.ofClass c ++ (second.scanner.lists.ofClass c).map (Token.below a)) ∧
      whole.table = second.table ∧
      whole.answer = second.answer.map (Failure.below a) ∧
      whole.scanner.failure = whole.answer := by
  intro first second whole
  obtain ⟨ls, rest, scans, stops⟩ := exists_scans Go.grammar a.toList
  obtain ⟨all, classes, table', answer, -⟩ := Scanner.analyze_ofText table scans stops
  obtain rfl : rest = [] := Scanner.failureAt?_eq_none.1 (answer.symm.trans reads)
  have opens : Go.NoneOpens ls := Go.noneOpens_of_recorded table scans fun t mem =>
    free t (Array.mem_toList_iff.1 (all ▸ mem))
  obtain ⟨init, w, v, ms, rest, rfl, alone, stops', joined⟩ := Go.scans_lines scans opens b.toList
  have lines : (a ++ "\n" ++ b).toList = a.toList ++ '\n' :: b.toList := by simp
  obtain ⟨all₂, classes₂, table₂, answer₂, -⟩ := Scanner.analyze_ofText first.table alone stops'
  obtain ⟨all', classes', table₃, answer', failure⟩ :=
    Scanner.analyze_ofText table (lines ▸ joined) stops'
  have front : init.flatMap Lexeme.chars ++ w = a.toList := by
    rw [scans.text_eq, List.flatMap_append, Go.chars_gap, List.append_nil]
  have handed_on : first.table = tablesAfter table init := by
    rw [Lexeme.tablesAfter_append, Lexeme.tablesAfter_of_skipped (Go.skipped_gap w)] at table'
    exact table'
  have tokens : recorded table .start (init ++ (Go.gap (w ++ '\n' :: v) ++ ms)) =
      recorded table .start (init ++ Go.gap w) ++
        (recorded first.table .start (Go.gap v ++ ms)).map (Token.below a) := by
    rw [handed_on, Go.recorded_lines front]
  refine ⟨?_, fun c => ?_, ?_, ?_, failure⟩
  · apply Array.toList_inj.1
    rw [Array.toList_append, Array.toList_map]
    exact all'.trans (tokens.trans (congr (congrArg _ all.symm) (congrArg _ all₂.symm)))
  · apply Array.toList_inj.1
    rw [Array.toList_append, Array.toList_map, classes', classes, classes₂, tokens,
      List.filter_append, List.filter_map]
    rfl
  · rw [table₂, Go.tablesAfter_gap_append, handed_on, table₃, Lexeme.tablesAfter_append,
      Go.tablesAfter_gap_append]
  · rw [answer', Go.advanceAll_lines front, Scanner.failureAt?_below, answer₂]

theorem analyze_lines_slash :
    let first := (ofText "x /").analyze Go.grammar IdentTable.empty
    let second := (ofText "*y x").analyze Go.grammar first.table
    let whole := (ofText ("x /" ++ "\n" ++ "*y x")).analyze Go.grammar IdentTable.empty
    first.answer = none ∧
      (∀ t ∈ first.scanner.lists.all,
        t.tokenClass = .operator → t.text = "/" → t.next? "x /" ≠ some '*') ∧
      whole.scanner.lists.all =
        first.scanner.lists.all ++ second.scanner.lists.all.map (Token.below "x /") ∧
      whole.answer = second.answer.map (Failure.below "x /") := by
  have accepted : ((ofText "x /").analyze Go.grammar IdentTable.empty).answer = none ∧
      ∀ t ∈ ((ofText "x /").analyze Go.grammar IdentTable.empty).scanner.lists.all,
        t.tokenClass = .operator → t.text = "/" → t.next? "x /" ≠ some '*' := by
    rw [Go.grammar_eq]
    decide +kernel
  obtain ⟨all, -, -, answer, -⟩ := analyze_lines "*y x" accepted.1 accepted.2
  exact ⟨accepted.1, accepted.2, all, answer⟩

end GoScan
