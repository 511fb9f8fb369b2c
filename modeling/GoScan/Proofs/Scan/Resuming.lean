import GoScan.Proofs.Go.Table
import GoScan.Proofs.Scan.Below
import GoScan.Proofs.Scan.Failing

/-!
# A scan can be taken up again behind any token

What a scan has read has no part in how it goes on. A new scan of the text left, on the table as it
stands, gives the same answers at places that are counted from the new start.

* `Position.carries_behind`: what is counted from the start of a text is counted alike behind any
  place;
* `Renews.next`, `Renews.calls`, `Renews.run`: two scans with the same text before them answer alike,
  call by call and to the end;
* `resumes_at_boundary`: so does the new scan, and where it begins at the start of a line only offsets
  and line numbers differ.
-/

namespace GoScan

/-! ## Places -/

namespace Position

/-- Where in a text that goes on at `p` there is what alone would be at `q`. -/
def behind (p q : Position) : Position :=
  ⟨p.offset + q.offset, p.line + (q.line - 1),
    if q.line = 1 then p.column + (q.column - 1) else q.column⟩

/-- What is read from the start on and what is read from the image of the start on have their places
where `f` takes the one to the other. -/
def Carries (f : Position → Position) : Prop :=
  ∀ cs, f (start.advanceAll cs) = (f start).advanceAll cs

/-- Lines and columns are counted from one on, so `f` has to keep step only with such places. -/
theorem carries_of_advance {f : Position → Position}
    (step : ∀ q c, 1 ≤ q.line → 1 ≤ q.column → f (q.advance c) = (f q).advance c) : Carries f := by
  have counted (q : Position) (line : 1 ≤ q.line) (column : 1 ≤ q.column) (cs : List Char) :
      f (q.advanceAll cs) = (f q).advanceAll cs := by
    induction cs generalizing q with
    | nil => rfl
    | cons c cs ih =>
      have line' : 1 ≤ (q.advance c).line := by
        unfold advance
        split
        · exact Nat.le_add_left 1 q.line
        · exact line
      have column' : 1 ≤ (q.advance c).column := by
        unfold advance
        split
        · exact Nat.le_refl 1
        · exact Nat.le_add_left 1 q.column
      have onward := ih (q.advance c) line' column'
      rwa [step q c line column] at onward
  intro cs
  exact counted start (Nat.le_refl 1) (Nat.le_refl 1) cs

theorem carries_behind (p : Position) : Carries p.behind := by
  apply carries_of_advance
  intro q c line column
  unfold advance
  by_cases newline : c = '\n'
  · have further : q.line + 1 ≠ 1 := by omega
    simp only [newline, if_true, behind, further, if_false, mk.injEq, and_true]
    omega
  · by_cases first : q.line = 1
    · simp only [newline, if_false, behind, first, if_true, mk.injEq, true_and]
      omega
    · simp only [newline, if_false, behind, first, mk.injEq, and_true]
      omega

/-- Behind whole lines the columns are the same. -/
theorem carries_lines (bytes lines : Nat) :
    Carries fun q => ⟨bytes + q.offset, lines + q.line, q.column⟩ := by
  intro cs
  exact (advanceAll_shifted bytes lines start cs).symm

/-- Behind whole lines a line starts. -/
theorem advanceAll_of_lines {lines : List Char} (whole : lines = [] ∨ lines.getLast? = some '\n') :
    start.advanceAll lines = ⟨(start.advanceAll lines).offset, lines.count '\n' + 1, 1⟩ := by
  have line : (start.advanceAll lines).line = lines.count '\n' + 1 := by
    rw [line_advanceAll, Nat.add_comm]
    rfl
  have column : (start.advanceAll lines).column = 1 := by
    rcases whole with rfl | last
    · rfl
    · obtain ⟨before, rfl⟩ := List.getLast?_eq_some_iff.1 last
      rw [advanceAll_append]
      rfl
  rw [← line, ← column]

end Position

/-- The token at the place to which `f` takes its own. -/
def Token.move (f : Position → Position) (t : Token) : Token := { t with position := f t.position }

def Failure.move (f : Position → Position) (e : Failure) : Failure := { e with position := f e.position }

def Outcome.move (f : Position → Position) : Outcome → Outcome
  | .token t => .token (t.move f)
  | .finished => .finished
  | .failed e => .failed (e.move f)

variable {ι : Type} [Interner ι] {g : Grammar}

namespace Scanner

/-! ## Two scans with the same text before them -/

/-- The scans have the same text before them, and `f` takes the places of the new one to those of
the other. -/
structure Renews (f : Position → Position) (s new : Scanner) : Prop where
  rest : s.rest = new.rest
  place : ∃ read, new.position = Position.start.advanceAll read ∧
    s.position = (f .start).advanceAll read
  failure : s.failure = new.failure.map (Failure.move f)

namespace Renews

variable {f : Position → Position} {s new : Scanner}

theorem position (h : Renews f s new) (carries : Position.Carries f) : s.position = f new.position := by
  obtain ⟨read, place, here⟩ := h.place
  rw [here, place, carries]

/-- A new scan of the text left. -/
theorem ofText (unfailed : s.failure = none) (here : s.position = f .start) :
    Renews f s (ofText (String.ofList s.rest)) where
  rest := by simp
  place := ⟨[], rfl, here⟩
  failure := unfailed

theorem next (h : Renews f s new) (carries : Position.Carries f) (g : Grammar) (table : ι) :
    (s.next g table).answer = (new.next g table).answer.move f ∧
      (s.next g table).table = (new.next g table).table ∧
      Renews f (s.next g table).scanner (new.next g table).scanner := by
  cases failed : new.failure with
  | some e =>
    have failed' : s.failure = some (e.move f) := by rw [h.failure, failed, Option.map_some]
    rw [next_of_failure table failed, next_of_failure table failed']
    exact ⟨rfl, rfl, h⟩
  | none =>
    have unfailed : s.failure = none := by rw [h.failure, failed, Option.map_none]
    by_cases atEnd : new.rest = []
    · rw [next_of_end table failed atEnd, next_of_end table unfailed (h.rest.trans atEnd)]
      exact ⟨rfl, rfl, h⟩
    · cases taken : g.lexeme? new.rest with
      | none =>
        have taken' : g.lexeme? s.rest = none := h.rest ▸ taken
        have atEnd' : s.rest ≠ [] := h.rest ▸ atEnd
        obtain ⟨events, here⟩ := next_of_stops table failed (.inr taken)
        obtain ⟨events', here'⟩ := next_of_stops table unfailed (.inr taken')
        have moved : s.failureHere = new.failureHere.move f := by
          rw [failureHere, h.rest, h.position carries]
          rfl
        rw [here, here', ending, ending, stopped, stopped, if_neg atEnd, if_neg atEnd', if_neg atEnd,
          if_neg atEnd', moved]
        exact ⟨rfl, rfl, h.rest, h.place, rfl⟩
      | some l =>
        have taken' : g.lexeme? s.rest = some l := h.rest ▸ taken
        obtain ⟨events, here⟩ := next_of_lexeme table failed taken
        obtain ⟨events', here'⟩ := next_of_lexeme table unfailed taken'
        rw [here, here']
        refine ⟨?_, rfl, ?_, ?_, ?_⟩
        · rw [h.position carries]
          rfl
        · rw [after, after, h.rest]
        · obtain ⟨read, place, place'⟩ := h.place
          refine ⟨read ++ [l].flatMap Lexeme.chars, ?_, ?_⟩
          · rw [Position.advanceAll_append, ← place, after]
          · rw [Position.advanceAll_append, ← place', after]
        · rw [failure_after, failure_after]
          exact h.failure

theorem calls (h : Renews f s new) (carries : Position.Carries f) (g : Grammar) (m : Nat) (table : ι) :
    (calls g m s table).answer = (calls g m new table).answer.map (Outcome.move f) ∧
      (calls g m s table).table = (calls g m new table).table ∧
      Renews f (calls g m s table).scanner (calls g m new table).scanner := by
  induction m generalizing s new table with
  | zero => exact ⟨rfl, rfl, h⟩
  | succ m ih =>
    obtain ⟨answer, same_table, onward⟩ := h.next carries g table
    obtain ⟨answers, last_table, last⟩ := ih onward (new.next g table).table
    simp only [Scanner.calls, same_table, List.map_cons]
    exact ⟨by rw [answer, answers], last_table, last⟩

theorem run (h : Renews f s new) (carries : Position.Carries f) (g : Grammar) (fuel : Nat)
    (events events' : Array Event) (table : ι) :
    (run g fuel events s table).answer = (run g fuel events' new table).answer.map (Failure.move f) ∧
      (run g fuel events s table).table = (run g fuel events' new table).table := by
  induction fuel generalizing s new events events' table with
  | zero => exact ⟨rfl, rfl⟩
  | succ fuel ih =>
    obtain ⟨answer, same_table, onward⟩ := h.next carries g table
    rcases first : new.next g table with ⟨outcome, new', table', more⟩
    rcases first' : s.next g table with ⟨outcome', s', table'', more'⟩
    rw [first, first'] at answer same_table onward
    simp only at answer same_table
    rw [Scanner.run, Scanner.run, first, first', answer, same_table]
    cases outcome with
    | token t => exact ih onward (events ++ more') (events' ++ more) table'
    | finished => exact ⟨rfl, rfl⟩
    | failed e => exact ⟨rfl, rfl⟩

theorem analyze (h : Renews f s new) (carries : Position.Carries f) (g : Grammar) (table : ι) :
    (s.analyze g table).answer = (new.analyze g table).answer.map (Failure.move f) ∧
      (s.analyze g table).table = (new.analyze g table).table := by
  unfold Scanner.analyze
  rw [h.rest]
  exact h.run carries g (new.rest.length + 1) #[] #[] table

end Renews

theorem failure_calls {s : Scanner} (table : ι) (k : Nat) (hf : s.failure = none)
    (unfailed : ∀ answer ∈ (calls g k s table).answer, answer.failure? = none) :
    (calls g k s table).scanner.failure = none := by
  induction k generalizing s table with
  | zero => exact hf
  | succ k ih =>
    obtain ⟨first, later⟩ := List.forall_mem_cons.1 unfailed
    have here : (s.next g table).scanner.failure = none := (failure_next table g hf).trans first
    exact ih (s.next g table).table here later

/-- On one table the scans answer alike, call by call and in a run to the end, but that `f` takes the
places of the new one to those of the other; the tables and the texts left stay the same. -/
structure AnswerAlike (g : Grammar) (f : Position → Position) (table : ι) (s new : Scanner) : Prop where
  answers : ∀ m, (calls g m s table).answer = (calls g m new table).answer.map (Outcome.move f)
  tables : ∀ m, (calls g m s table).table = (calls g m new table).table
  rests : ∀ m, (calls g m s table).scanner.rest = (calls g m new table).scanner.rest
  ending : (s.analyze g table).answer = (new.analyze g table).answer.map (Failure.move f)
  final : (s.analyze g table).table = (new.analyze g table).table

theorem Renews.answerAlike {f : Position → Position} {s new : Scanner} (h : Renews f s new)
    (carries : Position.Carries f) (g : Grammar) (table : ι) : AnswerAlike g f table s new where
  answers m := (h.calls carries g m table).1
  tables m := (h.calls carries g m table).2.1
  rests m := (h.calls carries g m table).2.2.rest
  ending := (h.analyze carries g table).1
  final := (h.analyze carries g table).2

/-- A scan without a failure goes on as a new scan of the text left does, on the table as it stands:
entry by entry the same, at places counted on from where it begins, and it ends as that one does. Where
it begins at the start of a line, columns are the same too, and lines differ by those before. -/
theorem resumes_at_boundary (g : Grammar) (source : String) (table : ι) (k : Nat)
    (succeed : ∀ answer ∈ (calls g k (ofText source) table).answer, answer.failure? = none) :
    let run := calls g k (ofText source) table
    let new := ofText (String.ofList run.scanner.rest)
    AnswerAlike g run.scanner.position.behind run.table run.scanner new ∧
    ∀ lines, source.toList = lines ++ run.scanner.rest →
      (lines = [] ∨ lines.getLast? = some '\n') →
      AnswerAlike g (fun q => ⟨run.scanner.offset + q.offset, lines.count '\n' + q.line, q.column⟩)
        run.table run.scanner new := by
  intro run new
  have unfailed : run.scanner.failure = none := failure_calls table k rfl succeed
  constructor
  · have renews : Renews run.scanner.position.behind run.scanner new := .ofText unfailed rfl
    exact renews.answerAlike (Position.carries_behind _) g run.table
  · intro lines cut whole
    obtain ⟨ls, scans, -, place⟩ := exists_scans_calls (g := g) (s := ofText source) rfl table k
    have read : lines = ls.flatMap Lexeme.chars :=
      List.append_cancel_right (cut.symm.trans scans.text_eq)
    have stands : run.scanner.position = Position.start.advanceAll lines := by
      rw [read]
      exact place
    have here : run.scanner.position = ⟨run.scanner.offset + 0, lines.count '\n' + 1, 1⟩ := by
      rw [offset, stands]
      exact Position.advanceAll_of_lines whole
    have renews : Renews (fun q => ⟨run.scanner.offset + q.offset, lines.count '\n' + q.line, q.column⟩)
        run.scanner new := .ofText unfailed here
    exact renews.answerAlike (Position.carries_lines _ _) g run.table

/-- Behind the first line, before a line that has a name of its own and a place where no entry matches. -/
theorem resumes_below_first_line :
    let run := calls Go.grammar 4 (ofText "var a\nif b # c") IdentTable.empty
    (∀ answer ∈ run.answer, answer.failure? = none) ∧
      AnswerAlike Go.grammar (fun q => ⟨6 + q.offset, 1 + q.line, q.column⟩) run.table run.scanner
        (ofText "if b # c") := by
  intro run
  have reached : (∀ answer ∈ run.answer, answer.failure? = none) ∧
      run.scanner.rest = "if b # c".toList ∧ run.scanner.offset = 6 := by
    simp only [run]
    rw [Go.grammar_eq]
    decide +kernel
  obtain ⟨succeed, rest, offset⟩ := reached
  have cut : "var a\nif b # c".toList = "var a\n".toList ++ run.scanner.rest := by
    rw [rest]
    rfl
  have alike := (resumes_at_boundary Go.grammar "var a\nif b # c" IdentTable.empty 4 succeed).2
    "var a\n".toList cut (.inr rfl)
  have text : String.ofList run.scanner.rest = "if b # c" := by rw [rest, String.ofList_toList]
  rw [text, offset] at alike
  exact ⟨succeed, alike⟩

end Scanner

end GoScan
