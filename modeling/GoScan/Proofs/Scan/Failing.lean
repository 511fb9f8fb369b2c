import GoScan.Proofs.Scan.Drivers

/-!
# A failure changes nothing else, and nothing changes after it

* `failure_perform`: a scan without a failure has one after a call if and only if the call answers
  with it;
* `takeTurns_of_ended`: at the end and after a failure no call changes anything but the locale;
* `failure_atomic_and_final`: both together, for every history of a scan.

A table may be in other hands between two calls. So each call stands in a history with the table that
it finds.
-/

namespace GoScan

variable {ι : Type} [Interner ι] {g : Grammar}

def Outcome.failure? : Outcome → Option Failure
  | .failed f => some f
  | _ => none

namespace Call

/-- What the call answers; a choice of locale answers nothing. -/
def answer? (g : Grammar) (c : Call) (s : Scanner × ι) : Option Outcome :=
  match c with
  | .next => some (s.1.next g s.2).answer
  | .nextRecorded => some (s.1.nextRecorded g s.2).answer
  | .analyze => some (((s.1.analyze g s.2).answer.map Outcome.failed).getD .finished)
  | .withLocale _ => none

/-- What the call answers when the scan has failed: recorded tokens have run out, all else repeats
the failure. -/
def answerAfter? (f : Failure) : Call → Option Outcome
  | .next | .analyze => some (.failed f)
  | .nextRecorded => some .finished
  | .withLocale _ => none

end Call

/-- The scanner after calls in turn, each with the table that it finds. -/
def takeTurns (g : Grammar) (turns : List (Call × ι)) (s : Scanner) : Scanner :=
  turns.foldl (fun s turn => (turn.1.perform g (s, turn.2)).1) s

/-- The answers to calls in turn, each with the table that it finds. -/
def answers (g : Grammar) : List (Call × ι) → Scanner → List Outcome
  | [], _ => []
  | (c, table) :: turns, s =>
    (c.answer? g (s, table)).toList ++ answers g turns (c.perform g (s, table)).1

/-- The tokens that calls in turn read, each with the table that it finds. -/
def tokensReported (g : Grammar) : List (Call × ι) → Scanner → List Token
  | [], _ => []
  | (c, table) :: turns, s =>
    c.read g (s, table) ++ tokensReported g turns (c.perform g (s, table)).1

namespace Scanner

/-- An invariant of calls holds after every history. -/
theorem Invariant.takeTurns {P : List Token → Scanner → Prop} (read : List Token)
    (kept : Invariant ι g P) {s : Scanner} (h : P read s) (turns : List (Call × ι)) :
    P (read ++ tokensReported g turns s) (takeTurns g turns s) := by
  induction turns generalizing read s with
  | nil => simpa [tokensReported, GoScan.takeTurns] using h
  | cons turn turns ih =>
    obtain ⟨c, table⟩ := turn
    rw [tokensReported, ← List.append_assoc]
    exact ih _ (kept.perform (p := (s, table)) read h c)

variable {s : Scanner} (table : ι)

/-! ## The first failure -/

/-- A call on a scan without a failure gives one and stores it, or leaves the scan without. -/
theorem next_cases (g : Grammar) (hf : s.failure = none) :
    (∃ f, (s.next g table).answer = .failed f ∧
      (s.next g table).state = ({ s with failure := some f }, table)) ∨
    ((s.next g table).answer.failure? = none ∧ (s.next g table).scanner.failure = none) := by
  have form := nextStep g s table
  generalize s.next g table = step at form ⊢
  cases form with
  | failed failed => exact absurd (failed.symm.trans hf) (Option.some_ne_none _)
  | finished => exact .inr ⟨rfl, hf⟩
  | halted => exact .inl ⟨s.failureHere, rfl, rfl⟩
  | read => exact .inr ⟨rfl, hf⟩

theorem failure_next (g : Grammar) (hf : s.failure = none) :
    (s.next g table).scanner.failure = (s.next g table).answer.failure? := by
  rcases next_cases table g hf with ⟨f, answer, state⟩ | ⟨answer, failure⟩
  · have scanner : (s.next g table).scanner = { s with failure := some f } := congrArg Prod.fst state
    rw [answer, scanner]
    rfl
  · rw [answer, failure]

/-- A loop has failed where its last call says so. -/
theorem Loops.failure {table : ι} {on : Token → Prop} {n : Nat} {last : Step ι Outcome}
    (h : Loops g on n s table last) (hf : s.failure = none) :
    last.scanner.failure = last.answer.failure? := by
  induction h with
  | last => exact failure_next _ g hf
  | @again _ s _ table _ _ _ _ here _ _ ih =>
    have onward := failure_next table g hf
    rw [here] at onward
    exact ih onward

/-- A run answers with the failure that its scan ends in. -/
theorem answer_analyze (g : Grammar) (s : Scanner) :
    (s.analyze g table).answer = (s.analyze g table).scanner.failure := by
  cases hf : s.failure with
  | some f =>
    obtain ⟨events, here⟩ := analyze_of_ended (g := g) (s := s) table (.inl (by rw [hf]; rfl))
    rw [here]
  | none =>
    obtain ⟨ls, rest, scans, stops⟩ := exists_scans g s.rest
    obtain ⟨events, here⟩ := analyze_eq table scans stops hf
    rw [here]

/-- A scan that has not failed has failed after a call if the call says so. -/
theorem failure_perform {p : Scanner × ι} (hf : p.1.failure = none) (c : Call) :
    (c.perform g p).1.failure = (c.answer? g p).bind Outcome.failure? := by
  cases c with
  | next => exact failure_next p.2 g hf
  | nextRecorded =>
    obtain ⟨n, -, loops⟩ := exists_loops_nextRecorded g p.2 hf
    exact loops.failure hf
  | analyze =>
    have answer := answer_analyze (g := g) p.2 p.1
    simp only [Call.perform, Call.answer?, Step.state, ← answer]
    cases (p.1.analyze g p.2).answer <;> rfl
  | withLocale l => exact hf

/-- As long as no call has answered with a failure there is none. -/
theorem failure_takeTurns (hf : s.failure = none) {turns : List (Call × ι)}
    (unfailed : ∀ f, .failed f ∉ answers g turns s) : (takeTurns g turns s).failure = none := by
  induction turns generalizing s with
  | nil => exact hf
  | cons turn turns ih =>
    obtain ⟨c, table⟩ := turn
    have here : (c.perform g (s, table)).1.failure = none := by
      rw [failure_perform (p := (s, table)) hf]
      cases answer : c.answer? g (s, table) with
      | none => rfl
      | some outcome =>
        cases outcome with
        | failed f => exact absurd (by simp [answers, answer]) (unfailed f)
        | token t => rfl
        | finished => rfl
    rw [takeTurns, List.foldl_cons]
    exact ih here fun f later => unfailed f (List.mem_append_right _ later)

/-! ## Where nothing matches -/

/-- Where nothing more can be taken from the text a scan reads nothing and stays. -/
theorem stays_invariant {text : List Char} (stops : g.Stops text) :
    Invariant ι g fun read s => read = [] ∧ s.rest = text where
  next := by
    rintro read s ⟨rfl, rfl⟩ table
    cases hf : s.failure with
    | some f =>
      rw [next_of_failure table hf]
      exact ⟨rfl, rfl⟩
    | none =>
      obtain ⟨events, here⟩ := next_of_stops table hf stops
      rw [here, ending]
      by_cases atEnd : s.rest = []
      · exact ⟨by rw [if_pos atEnd]; rfl, rest_stopped s⟩
      · exact ⟨by rw [if_neg atEnd]; rfl, rest_stopped s⟩
  withLocale stays _ := stays

theorem tokensReported_of_stops (stops : g.Stops s.rest) (later : List (Call × ι)) :
    tokensReported g later s = [] :=
  ((stays_invariant stops).takeTurns [] ⟨rfl, rfl⟩ later).1

/-- The next call fails there, if it is not known before that the scan has failed. -/
theorem exists_failed_of_stops (stops : g.Stops s.rest) (more : s.rest ≠ []) :
    ∃ f, (s.next g table).answer = .failed f ∧ (s.next g table).scanner.failure = some f := by
  cases hf : s.failure with
  | some f => exact ⟨f, by rw [next_of_failure table hf], by rw [next_of_failure table hf, hf]⟩
  | none =>
    obtain ⟨events, here⟩ := next_of_stops table hf stops
    rw [here]
    exact ⟨s.failureHere, if_neg more, by rw [stopped, if_neg more]⟩

/-! ## After a failure -/

variable {f : Failure}

theorem answer?_of_failure {p : Scanner × ι} (h : p.1.failure = some f) (c : Call) :
    c.answer? g p = c.answerAfter? f := by
  have ended : p.1.Ended := .inl (by rw [h]; rfl)
  cases c with
  | next =>
    rw [Call.answer?, next_of_failure p.2 h]
    rfl
  | nextRecorded =>
    have here := nextRecorded_of_ended (g := g) p.2 ended
    exact congrArg some (congrArg Prod.fst here)
  | analyze =>
    obtain ⟨events, here⟩ := analyze_of_ended (g := g) p.2 ended
    rw [Call.answer?, here, h]
    rfl
  | withLocale l => rfl

/-- The call that gives a failure leaves it behind, or found it there. -/
theorem failure_of_answer? {p : Scanner × ι} {c : Call} (h : c.answer? g p = some (.failed f)) :
    (c.perform g p).1.failure = some f := by
  cases hf : p.1.failure with
  | none =>
    rw [failure_perform hf, h]
    rfl
  | some f' =>
    have same : f' = f := by
      rw [answer?_of_failure hf] at h
      cases c <;> simp_all [Call.answerAfter?]
    have ended : p.1.Ended := .inl (by rw [hf]; rfl)
    obtain ⟨l, here⟩ := perform_of_ended (g := g) p.2 ended c
    rw [here, ← same]
    exact hf

/-- Once a scan has ended no call changes anything but the locale. -/
theorem takeTurns_of_ended (h : s.Ended) (later : List (Call × ι)) :
    ∃ l, takeTurns g later s = s.withLocale l := by
  induction later generalizing s with
  | nil => exact ⟨s.locale, rfl⟩
  | cons turn later ih =>
    obtain ⟨c, table⟩ := turn
    obtain ⟨l, here⟩ := perform_of_ended (g := g) table h c
    obtain ⟨l', onward⟩ := ih (h.withLocale l)
    refine ⟨l', ?_⟩
    rw [takeTurns, List.foldl_cons, here]
    exact onward

theorem takeTurns_of_failure (h : s.failure = some f) (later : List (Call × ι)) :
    ∃ l, takeTurns g later s = s.withLocale l :=
  takeTurns_of_ended (.inl (Option.isSome_of_eq_some h)) later

/-- Whatever the history of a scan, the first call that finds no entry changes nothing but that the
scan has failed. Once any call has answered with a failure, no call changes the place, the tokens, the
failure or the table that it finds; all calls repeat the failure, but those for recorded tokens, which
have run out. -/
theorem failure_atomic_and_final (g : Grammar) (source : String) (history : List (Call × ι)) :
    let now := takeTurns g history (ofText source)
    ((∀ e, .failed e ∉ answers g history (ofText source)) →
      ∀ (table : ι) (f : Failure), (now.next g table).answer = .failed f →
        (now.next g table).state = ({ now with failure := some f }, table)) ∧
    ∀ (c : Call) (table : ι) (f : Failure), c.answer? g (now, table) = some (.failed f) →
      ∀ later : List (Call × ι),
        let failed := (c.perform g (now, table)).1
        let after := takeTurns g later failed
        (after.rest = failed.rest ∧ after.position = failed.position ∧
          after.lists = failed.lists ∧ after.failure = some f) ∧
        ∀ (further : Call) (found : ι), (further.perform g (after, found)).2 = found ∧
          further.answer? g (after, found) = further.answerAfter? f := by
  intro now
  constructor
  · intro unfailed table f fails
    have hf : now.failure = none := failure_takeTurns rfl unfailed
    rcases next_cases table g hf with ⟨f', answer, state⟩ | ⟨answer, -⟩
    · rw [answer] at fails
      cases fails
      exact state
    · rw [fails] at answer
      exact absurd answer (Option.some_ne_none f)
  · intro c table f fails later failed after
    have stored : failed.failure = some f := failure_of_answer? fails
    obtain ⟨l, here⟩ := takeTurns_of_failure (g := g) stored later
    have unchanged : after = failed.withLocale l := here
    rw [unchanged]
    refine ⟨⟨rfl, rfl, rfl, stored⟩, ?_⟩
    intro further found
    have stillStored : (failed.withLocale l).failure = some f := stored
    have ended : (failed.withLocale l).Ended := .inl (by rw [stillStored]; rfl)
    obtain ⟨l', frozen⟩ := perform_of_ended (g := g) found ended further
    have repeated : further.answer? g (failed.withLocale l, found) = further.answerAfter? f :=
      answer?_of_failure (p := (failed.withLocale l, found)) stillStored further
    exact ⟨congrArg Prod.snd frozen, repeated⟩

end Scanner

end GoScan
