import GoScan.Proofs.Scan.Looping
import GoScan.Proofs.Scan.Tiling
import Mathlib.Order.Monotone.Basic

/-!
# All ways to drive a scan agree

A scan can be driven call by call, by recorded tokens, or to its end, in any order.

* `exists_calls_perform`: a call amounts to calls of `next`, and reads what they give, so that
  `Invariant.perform` has to be shown of `next` only;
* `exists_calls`: whatever the calls, they amount to a number of calls of `next` that never falls;
* `performAll_of_ended_scan`: once the end was seen the scan is as a run to the end leaves it;
* `recordedCalls_eq`: the recorded tokens come in order, then the failure once, then nothing.
-/

namespace GoScan

open Lexeme (tokens tablesAfter)

variable {ι : Type} [Interner ι] {g : Grammar}

/-- The scanner and the table after a step. -/
def Step.state {α : Type} (step : Step ι α) : Scanner × ι := (step.scanner, step.table)

/-- A call on a scanner under way. -/
inductive Call where
  | next
  | nextRecorded
  | analyze
  | withLocale (locale : Locale)
deriving DecidableEq, Repr

/-- The scanner and the table after the call. -/
def Call.perform (g : Grammar) (c : Call) (s : Scanner × ι) : Scanner × ι :=
  match c with
  | .next => (s.1.next g s.2).state
  | .nextRecorded => (s.1.nextRecorded g s.2).state
  | .analyze => (s.1.analyze g s.2).state
  | .withLocale locale => (s.1.withLocale locale, s.2)

/-- The scanner and the table after the calls in turn. -/
def performAll (g : Grammar) (cs : List Call) (s : Scanner × ι) : Scanner × ι :=
  cs.foldl (fun s c => c.perform g s) s

/-! ## Reports -/

def Event.token? : Event → Option Token
  | .read t => some t
  | _ => none

/-- The tokens among the reports. -/
def tokensOf (events : Array Event) : List Token := events.toList.filterMap Event.token?

theorem tokensOf_append (first later : Array Event) :
    tokensOf (first ++ later) = tokensOf first ++ tokensOf later := by
  simp [tokensOf]

theorem tokensOf_push (events : Array Event) (e : Event) :
    tokensOf (events.push e) = tokensOf events ++ e.token?.toList := by
  rw [tokensOf, tokensOf, Array.toList_push, List.filterMap_append]
  cases named : e.token? <;> simp [named]

theorem tokensOf_push_of_none {e : Event} (other : e.token? = none) (events : Array Event) :
    tokensOf (events.push e) = tokensOf events := by
  rw [tokensOf_push, other, Option.toList_none, List.append_nil]

/-- The tokens that the call reports to have read. -/
def Call.read (g : Grammar) (c : Call) (s : Scanner × ι) : List Token :=
  match c with
  | .next => tokensOf (s.1.next g s.2).events
  | .nextRecorded => tokensOf (s.1.nextRecorded g s.2).events
  | .analyze => tokensOf (s.1.analyze g s.2).events
  | .withLocale _ => []

namespace Scanner

variable {s : Scanner} (table : ι) {l : Locale}

@[simp] theorem withLocale_withLocale (s : Scanner) (l l' : Locale) :
    (s.withLocale l).withLocale l' = s.withLocale l' := rfl

theorem Ended.withLocale (h : s.Ended) (l : Locale) : (s.withLocale l).Ended := h

/-- The locale has no part in what a call does. -/
theorem next_withLocale (s : Scanner) (l : Locale) :
    (s.withLocale l).next g table =
      ⟨(s.next g table).answer, (s.next g table).scanner.withLocale l, (s.next g table).table,
        (s.next g table).events⟩ := by
  obtain ⟨rest, position, lists, failure, locale⟩ := s
  cases failure with
  | some f => rfl
  | none =>
    cases rest with
    | nil => rfl
    | cons c cs =>
      simp only [next, withLocale, List.isEmpty_cons, Bool.false_eq_true, if_false]
      cases (g.attempt (c :: cs)).found <;> rfl

theorem calls_withLocale (k : Nat) (s : Scanner) (l : Locale) :
    (calls g k (s.withLocale l) table).state =
      ((calls g k s table).scanner.withLocale l, (calls g k s table).table) := by
  induction k generalizing s table with
  | zero => rfl
  | succ k ih => simpa [calls, Step.state, next_withLocale] using ih _ (s.next g table).scanner

theorem calls_withLocale_self (k : Nat) (s : Scanner) :
    (calls g k s table).scanner.withLocale s.locale = (calls g k s table).scanner :=
  (congrArg Prod.fst (calls_withLocale table k s s.locale)).symm

/-! ## Every call is a number of calls of `next` -/

theorem state_calls_add (j k : Nat) (s : Scanner) :
    (calls g (j + k) s table).state =
      (calls g k (calls g j s table).scanner (calls g j s table).table).state := by
  obtain ⟨-, scanner, table'⟩ := calls_add (g := g) j k s table
  exact Prod.ext scanner table'

theorem tokensRead_succ (k : Nat) (s : Scanner) :
    tokensRead g (k + 1) s table = (s.next g table).answer.token?.toList ++
      tokensRead g k (s.next g table).scanner (s.next g table).table := by
  rw [tokensRead, calls, List.filterMap_cons]
  cases (s.next g table).answer.token? <;> rfl

/-- A call of `next` reports to have read the token that it gives. -/
theorem tokensOf_next (g : Grammar) (s : Scanner) :
    tokensOf (s.next g table).events = (s.next g table).answer.token?.toList := by
  have refused (entries : List Entry) : tokensOf (entries.map Event.refused).toArray = [] := by
    simp [tokensOf, List.filterMap_map, Function.comp_def, Event.token?]
  obtain ⟨rest, position, lists, failure, locale⟩ := s
  cases failure with
  | some f => rfl
  | none =>
    cases rest with
    | nil => rfl
    | cons c cs =>
      simp only [next, List.isEmpty_cons, Bool.false_eq_true, if_false]
      cases (g.attempt (c :: cs)).found with
      | none =>
        dsimp only
        rw [tokensOf_push, refused]
        rfl
      | some found =>
        dsimp only
        rw [tokensOf_push, refused]
        rfl

/-- A loop amounts to the calls of `next` that it makes, and reads what they give. -/
theorem Loops.eq_calls {table : ι} {on : Token → Prop} {n : Nat} {last : Step ι Outcome}
    (h : Loops g on n s table last) :
    last.state = (calls g (n + 1) s table).state ∧
      tokensOf last.events = tokensRead g (n + 1) s table := by
  induction h with
  | last =>
    refine ⟨rfl, ?_⟩
    rw [tokensOf_next, tokensRead_succ]
    exact (List.append_nil _).symm
  | @again n s s' table table' t more last here _ _ ih =>
    obtain ⟨state, read⟩ := ih
    have first : tokensOf more = [t] := by
      have reported := tokensOf_next table g s
      rwa [here] at reported
    constructor
    · rw [calls, here]
      exact state
    · rw [tokensOf_append, first, read, tokensRead_succ _ (n + 1), here]
      rfl

theorem exists_calls_analyze (g : Grammar) (s : Scanner) :
    ∃ j, (s.analyze g table).state = (calls g j s table).state ∧
      tokensOf (s.analyze g table).events = tokensRead g j s table := by
  obtain ⟨n, last, -, loops, run⟩ := exists_loops_analyze g s table
  obtain ⟨state, read⟩ := loops.eq_calls
  -- what a run reports at its end is no token
  have concludes : (concluded last).state = last.state ∧
      tokensOf (concluded last).events = tokensOf last.events := by
    unfold concluded
    split
    · exact ⟨rfl, tokensOf_push_of_none rfl _⟩
    · exact ⟨rfl, tokensOf_push_of_none rfl _⟩
  refine ⟨n + 1, ?_, ?_⟩
  · rw [run, concludes.1, state]
  · rw [run, concludes.2, read]

theorem exists_calls_nextRecorded (g : Grammar) (s : Scanner) :
    ∃ j, (s.nextRecorded g table).state = (calls g j s table).state ∧
      tokensOf (s.nextRecorded g table).events = tokensRead g j s table := by
  cases failed : s.failure with
  | some f => exact ⟨0, by rw [nextRecorded, failed]; rfl, by rw [nextRecorded, failed]; rfl⟩
  | none =>
    obtain ⟨n, -, loops⟩ := exists_loops_nextRecorded g table failed
    exact ⟨n + 1, loops.eq_calls⟩

/-- What is called amounts to calls of `next`, but for the locale, and reads what they give. -/
theorem exists_calls_perform (c : Call) (s : Scanner) :
    ∃ j l, c.perform g (s, table) =
        ((calls g j s table).scanner.withLocale l, (calls g j s table).table) ∧
      c.read g (s, table) = tokensRead g j s table := by
  have same (j : Nat) : (calls g j s table).state =
      ((calls g j s table).scanner.withLocale s.locale, (calls g j s table).table) := by
    rw [calls_withLocale_self]
    rfl
  cases c with
  | next =>
    refine ⟨1, s.locale, same 1, ?_⟩
    rw [Call.read, tokensOf_next, tokensRead_succ]
    exact (List.append_nil _).symm
  | nextRecorded =>
    obtain ⟨j, state, read⟩ := exists_calls_nextRecorded table g s
    exact ⟨j, s.locale, state.trans (same j), read⟩
  | analyze =>
    obtain ⟨j, state, read⟩ := exists_calls_analyze table g s
    exact ⟨j, s.locale, state.trans (same j), read⟩
  | withLocale l => exact ⟨0, l, rfl, rfl⟩

/-- What holds of the tokens read and of the scanner still holds after a call of `next` and after a
choice of locale. -/
structure Invariant (ι : Type) [Interner ι] (g : Grammar) (P : List Token → Scanner → Prop) : Prop where
  next : ∀ {read s}, P read s → ∀ table : ι,
    P (read ++ (s.next g table).answer.token?.toList) (s.next g table).scanner
  withLocale : ∀ {read s}, P read s → ∀ l, P read (s.withLocale l)

namespace Invariant

variable {P : List Token → Scanner → Prop} (read : List Token)

theorem calls (kept : Invariant ι g P) (h : P read s) (k : Nat) :
    P (read ++ tokensRead g k s table) (calls g k s table).scanner := by
  induction k generalizing read s table with
  | zero => simpa [tokensRead, Scanner.calls] using h
  | succ k ih =>
    rw [tokensRead_succ, ← List.append_assoc]
    exact ih (s.next g table).table _ (kept.next h table)

/-- It holds after any call. -/
theorem perform {p : Scanner × ι} (kept : Invariant ι g P) (h : P read p.1) (c : Call) :
    P (read ++ c.read g p) (c.perform g p).1 := by
  obtain ⟨k, l, here, reads⟩ := exists_calls_perform (g := g) p.2 c p.1
  rw [here, reads]
  exact kept.withLocale (kept.calls p.2 read h k) l

end Invariant

/-- Whatever the calls, they amount to a number of calls of `next`, and it never falls. -/
theorem exists_calls (cs : List Call) (s : Scanner) :
    ∃ k : Nat → Nat, Monotone k ∧ ∀ i, ∃ l, performAll g (cs.take i) (s, table) =
      ((calls g (k i) s table).scanner.withLocale l, (calls g (k i) s table).table) := by
  induction cs generalizing s table with
  | nil =>
    refine ⟨fun _ => 0, monotone_const, fun i => ⟨s.locale, ?_⟩⟩
    rw [List.take_nil]
    rfl
  | cons c cs ih =>
    obtain ⟨j, l, first, -⟩ := exists_calls_perform (g := g) table c s
    obtain ⟨k, mono, later⟩ := ih (calls g j s table).table ((calls g j s table).scanner.withLocale l)
    refine ⟨fun i => if i = 0 then 0 else j + k (i - 1), ?_, fun i => ?_⟩
    · refine monotone_nat_of_le_succ fun i => ?_
      cases i with
      | zero => exact Nat.zero_le _
      | succ i => exact Nat.add_le_add_left (mono (Nat.le_succ i)) j
    · cases i with
      | zero => exact ⟨s.locale, rfl⟩
      | succ i =>
        obtain ⟨l', now⟩ := later i
        refine ⟨l', ?_⟩
        have onward := calls_withLocale (g := g) (calls g j s table).table (k i)
          (calls g j s table).scanner l
        have both := state_calls_add (g := g) table j (k i) s
        simp only [Step.state, Prod.mk.injEq] at onward both
        rw [List.take_succ_cons, performAll, List.foldl_cons, first]
        simp only [performAll, onward, Nat.add_one_ne_zero, if_false, Nat.add_sub_cancel, both] at now ⊢
        exact now

/-! ## Recorded tokens -/

/-- The answer, the scanner and the table when the next recorded token is sought among the
lexemes. -/
def sought (s : Scanner) (table : ι) : List Lexeme → Outcome × Scanner × ι
  | [] => (s.ending, s.stopped, table)
  | l :: ls =>
    if l.entry.tokenClass = .skip then sought (s.after table [l]) (l.tableAfter table) ls
    else (.token (l.token table s.position), s.after table [l], l.tableAfter table)

theorem seek_eq {ls : List Lexeme} {rest : List Char} (h : Scans g s.rest ls rest)
    (stops : g.Stops rest) (hf : s.failure = none) {fuel : Nat} (enough : ls.length < fuel)
    (events : Array Event) :
    ((seek g fuel events s table).answer, (seek g fuel events s table).state) = sought s table ls := by
  generalize whole : s.rest = text at h
  induction h generalizing s table fuel events with
  | done =>
    obtain ⟨fuel, rfl⟩ := Nat.exists_eq_add_of_lt enough
    obtain ⟨more, last⟩ := next_of_stops table hf (whole ▸ stops)
    rw [seek, last, sought]
    by_cases atEnd : s.rest = [] <;> simp [ending, atEnd, Step.state]
  | @next l text rest ls taken tail ih =>
    cases fuel with
    | zero => simp at enough
    | succ fuel =>
      obtain ⟨more, first⟩ := next_of_lexeme table hf (whole ▸ taken)
      have further : (s.after table [l]).rest = text := by simp [after, whole]
      rw [seek, first, sought]
      by_cases skip : l.entry.tokenClass = .skip
      · simpa [Token.isSkip, Lexeme.token, skip] using
          ih (l.tableAfter table) stops (s := s.after table [l]) hf (Nat.lt_of_succ_lt_succ enough)
            (events ++ more) further
      · simp [Token.isSkip, Lexeme.token, skip, Step.state]

theorem nextRecorded_eq {ls : List Lexeme} {rest : List Char} (h : Scans g s.rest ls rest)
    (stops : g.Stops rest) (hf : s.failure = none) :
    ((s.nextRecorded g table).answer, (s.nextRecorded g table).state) = sought s table ls := by
  have enough : ls.length < s.rest.length + 1 := by
    have := h.length_le
    omega
  simpa [nextRecorded, hf] using seek_eq table h stops hf enough #[]

theorem nextRecorded_of_ended (h : s.Ended) :
    ((s.nextRecorded g table).answer, (s.nextRecorded g table).state) = (.finished, s, table) := by
  cases hf : s.failure with
  | some f => simp [nextRecorded, hf, Step.state]
  | none =>
    have atEnd : s.rest = [] := h.resolve_left (by simp [hf])
    simp [nextRecorded, hf, seek, next_of_end table hf atEnd, Step.state]

/-- A recorded token was sought and there was none: the scan has ended. -/
theorem ended_of_finished (s : Scanner) (h : (s.nextRecorded g table).answer = .finished) :
    (s.nextRecorded g table).scanner.Ended := by
  cases failed : s.failure with
  | some f =>
    have stays : s.nextRecorded g table = ⟨.finished, s, table, #[]⟩ := by
      rw [nextRecorded, failed]
      rfl
    rw [stays]
    exact .inl (Option.isSome_of_eq_some failed)
  | none =>
    obtain ⟨n, -, loops⟩ := exists_loops_nextRecorded g table failed
    exact loops.ended h

/-- Once a scan has ended no call does anything, but that a locale can be chosen. -/
theorem perform_eq_of_ended (h : s.Ended) (c : Call) :
    c.perform g (s, table) = (s, table) ∨ ∃ l, c = .withLocale l := by
  cases c with
  | next =>
    obtain ⟨answer, here, -⟩ := next_of_ended (g := g) table h
    exact .inl (by simp only [Call.perform, here]; rfl)
  | nextRecorded => exact .inl (Prod.mk.inj (nextRecorded_of_ended (g := g) table h)).2
  | analyze =>
    obtain ⟨events, here⟩ := analyze_of_ended (g := g) table h
    exact .inl (by simp only [Call.perform, here]; rfl)
  | withLocale l => exact .inr ⟨l, rfl⟩

theorem perform_of_ended (h : s.Ended) (c : Call) :
    ∃ l, c.perform g (s, table) = (s.withLocale l, table) := by
  rcases perform_eq_of_ended (g := g) table h c with here | ⟨l, rfl⟩
  · exact ⟨s.locale, here⟩
  · exact ⟨l, rfl⟩

theorem performAll_of_ended {p : Scanner × ι} (h : p.1.Ended) (cs : List Call) :
    ∃ l, performAll g cs p = (p.1.withLocale l, p.2) := by
  induction cs generalizing p with
  | nil => exact ⟨p.1.locale, rfl⟩
  | cons c cs ih =>
    obtain ⟨l, here⟩ := perform_of_ended (g := g) p.2 h c
    obtain ⟨l', later⟩ := ih (p := (p.1.withLocale l, p.2)) (h.withLocale l)
    exact ⟨l', by rw [performAll, List.foldl_cons, here]; exact later⟩

/-- The call reads to the end, or finds that there is no more to be had. -/
def Concludes (g : Grammar) (p : Scanner × ι) (c : Call) : Prop :=
  c = .analyze ∨ c = .nextRecorded ∧ (p.1.nextRecorded g p.2).answer = .finished

theorem ended_of_concludes {p : Scanner × ι} {c : Call} (h : Concludes g p c) :
    (c.perform g p).1.Ended := by
  rcases h with rfl | ⟨rfl, finished⟩
  · cases hf : p.1.failure with
    | some f =>
      have ended : p.1.Ended := .inl (by simp [hf])
      obtain ⟨l, here⟩ := perform_of_ended (g := g) p.2 ended .analyze
      exact here ▸ ended.withLocale l
    | none =>
      obtain ⟨ls, rest, scans, stops⟩ := exists_scans g p.1.rest
      obtain ⟨events, here⟩ := analyze_eq p.2 scans stops hf
      simp only [Call.perform, here]
      exact ended_stopped _
  · exact ended_of_finished p.2 p.1 finished

theorem ended_performAll {p : Scanner × ι} {before behind : List Call} {c : Call}
    (h : Concludes g (performAll g before p) c) :
    (performAll g (before ++ c :: behind) p).1.Ended := by
  have ends := ended_of_concludes h
  obtain ⟨l, later⟩ := performAll_of_ended (g := g) ends behind
  have together : performAll g (before ++ c :: behind) p =
      performAll g behind (c.perform g (performAll g before p)) := by
    simp [performAll]
  rw [together, later]
  exact ends.withLocale l

/-- Calls that have ended a scan leave it as a run to the end does. -/
theorem performAll_of_ended_scan (hf : s.failure = none) {cs : List Call}
    (h : (performAll g cs (s, table)).1.Ended) :
    ∃ l, performAll g cs (s, table) =
      ((s.analyze g table).scanner.withLocale l, (s.analyze g table).table) := by
  obtain ⟨k, -, amounts⟩ := exists_calls (g := g) table cs s
  obtain ⟨l, now⟩ := amounts cs.length
  rw [List.take_length] at now
  obtain ⟨ls, rest, scans, stops⟩ := exists_scans g s.rest
  obtain ⟨events, ended⟩ := analyze_eq table scans stops hf
  obtain ⟨events', ended'⟩ := analyze_calls table scans stops hf (k cs.length)
  rw [now] at h
  obtain ⟨more, here⟩ := analyze_of_ended (g := g) (calls g (k cs.length) s table).table
    (s := (calls g (k cs.length) s table).scanner) h
  rw [here] at ended'
  injection ended' with _ scanner table'
  exact ⟨l, by rw [now, ended, scanner, table']⟩

/-- The answers of so many calls of `nextRecorded` in turn. -/
def recordedCalls (g : Grammar) : Nat → Scanner → ι → List Outcome
  | 0, _, _ => []
  | k + 1, s, table =>
    let step := s.nextRecorded g table
    step.answer :: recordedCalls g k step.scanner step.table

theorem recordedCalls_of_ended (h : s.Ended) (k : Nat) :
    recordedCalls g k s table = List.replicate k .finished := by
  induction k with
  | zero => rfl
  | succ k ih =>
    obtain ⟨answer, scanner, table'⟩ := by
      simpa only [Step.state, Prod.mk.injEq] using nextRecorded_of_ended (g := g) table h
    rw [recordedCalls, answer, scanner, table', ih, List.replicate_succ]

/-- The recorded tokens of the lexemes, and behind them the failure if there is one. -/
def yielded (s : Scanner) (table : ι) (ls : List Lexeme) : List Outcome :=
  ((tokens table s.position ls).filter (!·.isSkip)).map .token ++
    ((s.after table ls).stopped.failure.map .failed).toList

theorem yielded_cons (s : Scanner) (l : Lexeme) (ls : List Lexeme) :
    s.yielded table (l :: ls) =
      (if l.entry.tokenClass = .skip then [] else [.token (l.token table s.position)]) ++
        (s.after table [l]).yielded (l.tableAfter table) ls := by
  have first : (s.after table [l]).position = s.position.advanceAll l.chars := by simp [after]
  rw [yielded, yielded, after_cons, tokens, first, List.filter_cons]
  by_cases skip : l.entry.tokenClass = .skip <;> simp [Token.isSkip, Lexeme.token, skip]

/-- The recorded tokens come first, then the failure if there is one, and then nothing. -/
theorem recordedCalls_eq {ls : List Lexeme} {rest : List Char} (h : Scans g s.rest ls rest)
    (stops : g.Stops rest) (hf : s.failure = none) {k m : Nat} (hk : k ≤ m) :
    recordedCalls g k s table = (s.yielded table ls ++ List.replicate m Outcome.finished).take k := by
  generalize whole : s.rest = text at h
  induction h generalizing s table k m with
  | done text =>
    cases k with
    | zero => rfl
    | succ k =>
      have sought_here := nextRecorded_eq table (Scans.done s.rest) (whole ▸ stops) hf
      simp only [sought, Step.state, Prod.mk.injEq] at sought_here
      obtain ⟨answer, scanner, table'⟩ := sought_here
      rw [recordedCalls, answer, scanner, table', recordedCalls_of_ended _ (ended_stopped s)]
      by_cases atEnd : s.rest = []
      · have answer_here : s.ending = .finished := if_pos atEnd
        have nothing : s.yielded table [] = [] := by simp [yielded, stopped, atEnd, hf, tokens]
        rw [answer_here, nothing, List.nil_append, List.take_replicate, Nat.min_eq_left hk,
          List.replicate_succ]
      · have answer_here : s.ending = .failed s.failureHere := if_neg atEnd
        have failure_only : s.yielded table [] = [.failed s.failureHere] := by
          simp [yielded, stopped, atEnd, tokens]
        rw [answer_here, failure_only, List.singleton_append, List.take_succ_cons, List.take_replicate,
          Nat.min_eq_left (Nat.le_of_succ_le hk)]
  | @next l text rest ls taken tail ih =>
    have further : (s.after table [l]).rest = text := by simp [after, whole]
    have here := nextRecorded_eq table (whole.symm ▸ Scans.next taken tail) stops hf
    have after_it := nextRecorded_eq (l.tableAfter table) (s := s.after table [l])
      (further ▸ tail) stops hf
    cases k with
    | zero => rfl
    | succ k =>
      rw [yielded_cons]
      by_cases skip : l.entry.tokenClass = .skip
      · -- the call reads over the lexeme, as if it were made behind it
        have onward := ih (l.tableAfter table) stops (s := s.after table [l]) hf hk further
        rw [sought, if_pos skip, ← after_it] at here
        simp only [Step.state, Prod.mk.injEq] at here
        simpa [recordedCalls, here, skip] using onward
      · have onward := ih (l.tableAfter table) stops (s := s.after table [l]) hf
          (Nat.le_of_succ_le hk) further
        rw [sought, if_neg skip] at here
        simp only [Step.state, Prod.mk.injEq] at here
        simpa [recordedCalls, here, skip] using onward

/-- To collect is to call until there is nothing. -/
theorem drain_eq (fuel : Nat) (events : Array Event) (outcomes : Array Outcome) (s : Scanner) :
    (drain g fuel events outcomes s table).answer.toList =
      outcomes.toList ++ (recordedCalls g fuel s table).takeWhile (· ≠ .finished) := by
  induction fuel generalizing events outcomes s table with
  | zero => simp [drain, recordedCalls]
  | succ fuel ih =>
    rcases hnext : s.nextRecorded g table with ⟨answer, s', table', more⟩
    rw [drain, recordedCalls, hnext]
    cases answer <;> simp [ih]

theorem ne_finished_of_mem_yielded {ls : List Lexeme} :
    ∀ answer ∈ s.yielded table ls, answer ≠ .finished := by
  intro answer mem
  rcases List.mem_append.1 mem with mem | mem
  · obtain ⟨t, -, rfl⟩ := List.mem_map.1 mem
    exact Outcome.noConfusion
  · obtain ⟨f, -, rfl⟩ := Option.map_eq_some_iff.1 (Option.mem_toList.1 mem)
    exact Outcome.noConfusion

theorem length_yielded_le {ls : List Lexeme} : (s.yielded table ls).length ≤ ls.length + 1 := by
  have recorded := (tokens table s.position ls).length_filter_le (!·.isSkip)
  rw [Lexeme.length_tokens] at recorded
  have failures : ((s.after table ls).stopped.failure.map Outcome.failed).toList.length ≤ 1 := by
    cases (s.after table ls).stopped.failure <;> simp
  rw [yielded, List.length_append, List.length_map]
  exact Nat.add_le_add recorded failures

theorem collect_eq {ls : List Lexeme} {rest : List Char} (h : Scans g s.rest ls rest)
    (stops : g.Stops rest) (hf : s.failure = none) :
    (s.collect g table).answer.toList = s.yielded table ls := by
  have short : (s.yielded table ls).length ≤ s.rest.length + 1 :=
    Nat.le_trans (length_yielded_le table) (by have := h.length_le; omega)
  obtain ⟨more, enough⟩ : ∃ more, s.rest.length + 2 = (s.yielded table ls).length + more + 1 :=
    Nat.exists_eq_add_of_lt (Nat.lt_succ_of_le short)
  rw [collect, drain_eq, recordedCalls_eq table h stops hf (Nat.le_refl _), enough,
    List.take_append, List.take_of_length_le (by omega), List.nil_append]
  rw [List.takeWhile_append_of_pos (by simpa using ne_finished_of_mem_yielded table)]
  simp [Nat.add_assoc, List.replicate_succ]

/-- A run to the end has recorded what `nextRecorded` would give call by call. -/
theorem exists_yielded (g : Grammar) (source : String) (table : ι) :
    ∃ ls rest, Scans g (ofText source).rest ls rest ∧ g.Stops rest ∧
      (ofText source).yielded table ls =
        ((ofText source).analyze g table).scanner.lists.all.toList.map .token ++
          (((ofText source).analyze g table).answer.map .failed).toList := by
  obtain ⟨ls, rest, scans, stops⟩ := exists_scans g (ofText source).rest
  refine ⟨ls, rest, scans, stops, ?_⟩
  obtain ⟨events, ended⟩ := analyze_eq table scans stops rfl
  rw [yielded, ended, lists_stopped, after, TokenLists.all_foldl_push]
  rfl

/-- Calls in any order leave a scan where some number of calls of `next` leaves it, and the number
never falls; calls that conclude it leave it where a run to the end does. What is recorded comes
token by token, then the failure once, then nothing. -/
theorem drivers_agree (g : Grammar) (source : String) (table : ι) :
    let fresh := ofText source
    let ended := fresh.analyze g table
    let recorded := ended.scanner.lists.all.toList.map Outcome.token ++
      (ended.answer.map Outcome.failed).toList
    (∀ cs : List Call, ∃ k : Nat → Nat, Monotone k ∧ ∀ i,
      let now := performAll g (cs.take i) (fresh, table)
      let reached := calls g (k i) fresh table
      now.1.withLocale .en = reached.scanner ∧ now.2 = reached.table) ∧
    (∀ before c behind, Concludes g (performAll g before (fresh, table)) c →
      let now := performAll g (before ++ c :: behind) (fresh, table)
      now.1.withLocale .en = ended.scanner ∧ now.2 = ended.table) ∧
    (∀ n, recordedCalls g n fresh table = (recorded ++ List.replicate n Outcome.finished).take n) ∧
    (fresh.collect g table).answer.toList = recorded := by
  intro fresh ended recorded
  obtain ⟨ls, rest, scans, stops, yields⟩ := exists_yielded g source table
  refine ⟨fun cs => ?_, fun before c behind concludes => ?_, fun n => ?_, ?_⟩
  · obtain ⟨k, mono, amounts⟩ := exists_calls (g := g) table cs fresh
    refine ⟨k, mono, fun i => ?_⟩
    obtain ⟨l, now⟩ := amounts i
    simp only [now, withLocale_withLocale, and_true]
    exact calls_withLocale_self table (k i) fresh
  · have ends : (performAll g (before ++ c :: behind) (fresh, table)).1.Ended :=
      ended_performAll concludes
    obtain ⟨l, now⟩ := performAll_of_ended_scan table rfl ends
    obtain ⟨j, hj, -⟩ := exists_calls_analyze table g fresh
    have same : ended.scanner = (calls g j fresh table).scanner := congrArg Prod.fst hj
    simp only [now, withLocale_withLocale]
    refine ⟨?_, rfl⟩
    exact (congrArg (·.withLocale .en) same).trans
      ((calls_withLocale_self table j fresh).trans same.symm)
  · rw [recordedCalls_eq table scans stops rfl (Nat.le_refl n), yields]
  · rw [collect_eq table scans stops rfl, yields]

end Scanner

end GoScan
