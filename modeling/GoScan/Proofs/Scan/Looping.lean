import GoScan.Proofs.Scan.Lexemes

/-!
# Loops over `next`

To run to the end and to look for a recorded token are loops over `next`, with no count of their own:
`Loops` goes through them call by call. They end because each token takes a character off the text
left, whatever the entries match.

* `length_rest_of_token`: what a call of `next` that gives a token leaves is shorter;
* `exists_loops`: so no loop makes more calls than there are characters left, and one;
* `run_of_loops`, `seek_of_loops`: as many calls are enough, for with any more the same is done;
* `exists_loops_analyze`, `exists_loops_nextRecorded`: so `analyze` and `nextRecorded` are such loops.

The table has no part in this. It is any `Interner`, also one that others change between two calls.
-/

namespace GoScan

variable {ι : Type} [Interner ι] {g : Grammar}

namespace Scanner

variable {s : Scanner} {table : ι}

/-- A token takes a character at least off the text left. -/
theorem length_rest_of_token {t : Token} {s' : Scanner} {table' : ι} {events : Array Event}
    (here : s.next g table = ⟨.token t, s', table', events⟩) : s'.rest.length < s.rest.length := by
  have form := nextStep g s table
  rw [here] at form
  cases form with
  | @read l _ _ taken =>
    obtain ⟨nonempty, whole⟩ := Grammar.lexeme?_eq_some taken
    have some_taken := List.length_pos_iff.2 nonempty
    have size := congrArg List.length whole
    rw [List.length_append] at size
    simp only [after, List.flatMap_singleton]
    omega

/-- The end of the text is found by a scan that stands there. -/
theorem ended_of_finished_next {s' : Scanner} {table' : ι} {events : Array Event}
    (here : s.next g table = ⟨.finished, s', table', events⟩) : s'.Ended := by
  have form := nextStep g s table
  rw [here] at form
  cases form with
  | finished _ atEnd => exact .inr atEnd

/-- A loop that calls `next` again behind each token of which `on` holds: it goes on behind `n` tokens,
and the call it makes then is the last. -/
inductive Loops (g : Grammar) (on : Token → Prop) : Nat → Scanner → ι → Step ι Outcome → Prop where
  | last {s : Scanner} {table : ι} (leaves : ∀ t, (s.next g table).answer = .token t → ¬ on t) :
      Loops g on 0 s table (s.next g table)
  | again {n : Nat} {s s' : Scanner} {table table' : ι} {t : Token} {more : Array Event}
      {last : Step ι Outcome} (here : s.next g table = ⟨.token t, s', table', more⟩) (goesOn : on t)
      (tail : Loops g on n s' table' last) :
      Loops g on (n + 1) s table { last with events := more ++ last.events }

theorem exists_loops (g : Grammar) (on : Token → Prop) (s : Scanner) (table : ι) :
    ∃ n last, n ≤ s.rest.length ∧ Loops g on n s table last := by
  generalize size : s.rest.length = left
  induction left using Nat.strongRecOn generalizing s table with
  | ind left ih =>
    rcases here : s.next g table with ⟨answer, s', table', more⟩
    by_cases again : ∃ t, answer = .token t ∧ on t
    · obtain ⟨t, rfl, goesOn⟩ := again
      have shorter := length_rest_of_token here
      obtain ⟨n, last, few, tail⟩ := ih _ (size ▸ shorter) s' table' rfl
      exact ⟨n + 1, _, by omega, .again here goesOn tail⟩
    · refine ⟨0, s.next g table, Nat.zero_le left, .last ?_⟩
      intro t answered goesOn
      rw [here] at answered
      exact again ⟨t, answered, goesOn⟩

variable {n fuel : Nat} {last : Step ι Outcome}

/-- A loop that goes on behind every token is left where there is none. -/
theorem Loops.ends (h : Loops g (fun _ => True) n s table last) :
    last.answer = .finished ∨ ∃ f, last.answer = .failed f := by
  induction h with
  | @last s table leaves =>
    cases answer : (s.next g table).answer with
    | token t => exact absurd trivial (leaves t answer)
    | finished => exact .inl rfl
    | failed f => exact .inr ⟨f, rfl⟩
  | again _ _ _ ih => exact ih

/-- A loop that finds the end of the text leaves a scan that stands there. -/
theorem Loops.ended {on : Token → Prop} (h : Loops g on n s table last) (finished : last.answer = .finished) :
    last.scanner.Ended := by
  induction h with
  | @last s table _ =>
    rcases here : s.next g table with ⟨answer, s', table', events⟩
    simp only [here] at finished ⊢
    rw [finished] at here
    exact ended_of_finished_next here
  | again _ _ _ ih => exact ih finished

/-- What a run to the end answers and reports when its last call is made. -/
def concluded (last : Step ι Outcome) : Step ι (Option Failure) :=
  match last.answer with
  | .failed f =>
    ⟨some f, last.scanner, last.table, last.events.push (.failed f last.scanner.locale)⟩
  | _ => ⟨none, last.scanner, last.table, last.events.push (.completed last.scanner.lists)⟩

/-- The number of calls that a run is given has no part in it, if only they are enough. -/
theorem run_of_loops (h : Loops g (fun _ => True) n s table last) (enough : n < fuel)
    (events : Array Event) :
    run g fuel events s table = concluded { last with events := events ++ last.events } := by
  induction h generalizing fuel events with
  | @last s table leaves =>
    obtain ⟨fuel, rfl⟩ := Nat.exists_eq_add_of_lt enough
    rw [run, concluded]
    rcases hnext : s.next g table with ⟨answer, s', table', more⟩
    cases answer with
    | token t => exact absurd trivial (leaves t (by rw [hnext]))
    | finished => rfl
    | failed f => rfl
  | again here _ tail ih =>
    cases fuel with
    | zero => exact absurd enough (Nat.not_lt_zero _)
    | succ fuel =>
      rw [run_of_token _ here, ih (Nat.lt_of_succ_lt_succ enough), Array.append_assoc]

theorem seek_of_loops (h : Loops g (·.isSkip) n s table last) (enough : n < fuel)
    (events : Array Event) :
    seek g fuel events s table = { last with events := events ++ last.events } := by
  induction h generalizing fuel events with
  | @last s table leaves =>
    obtain ⟨fuel, rfl⟩ := Nat.exists_eq_add_of_lt enough
    rw [seek]
    rcases hnext : s.next g table with ⟨answer, s', table', more⟩
    cases answer with
    | token t =>
      have recorded : t.isSkip = false := by simpa [hnext] using leaves t
      simp only [recorded, Bool.false_eq_true, if_false]
    | finished => rfl
    | failed f => rfl
  | again here skip tail ih =>
    cases fuel with
    | zero => exact absurd enough (Nat.not_lt_zero _)
    | succ fuel =>
      rw [seek, here]
      simp only [skip, if_true]
      rw [ih (Nat.lt_of_succ_lt_succ enough), Array.append_assoc]

/-- A run to the end goes on behind every token. -/
theorem exists_loops_analyze (g : Grammar) (s : Scanner) (table : ι) :
    ∃ n last, n ≤ s.rest.length ∧ Loops g (fun _ => True) n s table last ∧
      s.analyze g table = concluded last := by
  obtain ⟨n, last, few, loops⟩ := exists_loops g (fun _ => True) s table
  refine ⟨n, last, few, loops, ?_⟩
  rw [analyze, run_of_loops loops (Nat.lt_succ_of_le few), Array.empty_append]

/-- A recorded token is sought behind every token that is skipped. -/
theorem exists_loops_nextRecorded (g : Grammar) (table : ι) (unfailed : s.failure = none) :
    ∃ n, n ≤ s.rest.length ∧ Loops g (·.isSkip) n s table (s.nextRecorded g table) := by
  obtain ⟨n, last, few, loops⟩ := exists_loops g (·.isSkip) s table
  have sought : s.nextRecorded g table = last := by
    rw [nextRecorded, unfailed, seek_of_loops loops (Nat.lt_succ_of_le few), Array.empty_append]
    rfl
  exact ⟨n, few, sought ▸ loops⟩

end Scanner

end GoScan
