import GoScan.Proofs.Pattern.Preference
import GoScan.Scanner

/-!
# What a scan reads, apart from what it records

A scan takes lexeme after lexeme from its text: `Scans g text ls rest` says that these are `ls` and
that `rest` is left. What it records of them is then determined: `Scanner.after`.

* `lexeme?_eq_some`: a lexeme is a beginning of the text that is not empty;
* `exists_scans`: every text is read to an end;
* `nextStep`: all that a call of `next` can be;
* `analyze_eq`: a run to the end accepts the lexemes of its text and then stops.
-/

namespace GoScan

/-- An entry and what it takes from the text. -/
structure Lexeme where
  entry : Entry
  chars : List Char

/-- The span of the entry's match, if no word goes on behind it. -/
def Entry.take? (e : Entry) (text : List Char) : Option Span :=
  (e.find? text).filter (e.endsWell text)

namespace Grammar

theorem found_tryEntries (text : List Char) (entries : List Entry) :
    (tryEntries text entries).found =
      entries.findSome? fun e => (e.take? text).map (Match.mk e) := by
  induction entries with
  | nil => rfl
  | cons e entries ih =>
    rw [tryEntries, findSome?_cons_eq_or, ← ih, Entry.take?]
    cases e.find? text with
    | none => rfl
    | some span => cases h : e.endsWell text span <;> simp [Option.filter, h]

theorem match?_eq_findSome? (g : Grammar) (text : List Char) :
    g.match? text = g.entries.findSome? fun e => (e.take? text).map (Match.mk e) :=
  found_tryEntries text g.entries

/-- What the first entry that matches takes. -/
def lexeme? (g : Grammar) (text : List Char) : Option Lexeme :=
  (g.match? text).map fun m => ⟨m.entry, text.take m.span.stop⟩

end Grammar

theorem Entry.take?_bounds {e : Entry} {text : List Char} {span : Span} (h : e.take? text = some span) :
    0 < span.stop ∧ span.stop ≤ text.length := by
  obtain ⟨found, -⟩ := Option.filter_eq_some_iff.1 h
  obtain ⟨inside, nonempty⟩ := Option.filter_eq_some_iff.1 found
  have := Pattern.find?_bounds inside
  have : span.start ≠ span.stop := by simpa using nonempty
  omega

variable {g : Grammar}

theorem Grammar.match?_bounds {text : List Char} {m : Match} (h : g.match? text = some m) :
    0 < m.span.stop ∧ m.span.stop ≤ text.length := by
  rw [match?_eq_findSome?] at h
  obtain ⟨e, -, he⟩ := List.exists_of_findSome?_eq_some h
  obtain ⟨span, taken, rfl⟩ := Option.map_eq_some_iff.1 he
  exact Entry.take?_bounds taken

/-- A lexeme is a beginning of the text, and it is not empty. -/
theorem Grammar.lexeme?_eq_some {text : List Char} {l : Lexeme} (h : g.lexeme? text = some l) :
    l.chars ≠ [] ∧ text = l.chars ++ text.drop l.chars.length := by
  obtain ⟨m, found, rfl⟩ := Option.map_eq_some_iff.1 h
  have := match?_bounds found
  constructor
  · intro none_taken
    have := congrArg List.length none_taken
    simp only [List.length_take, List.length_nil] at this
    omega
  · simp [Nat.min_eq_left this.2]

/-- The grammar takes the lexemes from the text, one after another, and leaves `rest`. -/
inductive Scans (g : Grammar) : List Char → List Lexeme → List Char → Prop where
  | done (text : List Char) : Scans g text [] text
  | next {l : Lexeme} {text rest : List Char} {ls : List Lexeme} :
      g.lexeme? (l.chars ++ text) = some l → Scans g text ls rest →
      Scans g (l.chars ++ text) (l :: ls) rest

/-- Nothing more can be taken from the text. -/
def Grammar.Stops (g : Grammar) (text : List Char) : Prop := text = [] ∨ g.lexeme? text = none

namespace Scans

variable {text middle rest rest' : List Char} {ls ms : List Lexeme}

theorem append (first : Scans g text ls middle) (last : Scans g middle ms rest) :
    Scans g text (ls ++ ms) rest := by
  induction first with
  | done => exact last
  | next taken _ ih => exact .next taken (ih last)

/-- A reading may pause behind any of its lexemes. -/
theorem split (h : Scans g text ls rest) (k : Nat) :
    ∃ middle, Scans g text (ls.take k) middle ∧ Scans g middle (ls.drop k) rest := by
  induction h generalizing k with
  | done text => exact ⟨text, by simpa using .done text, by simpa using .done text⟩
  | @next l text rest ls taken tail ih =>
    cases k with
    | zero => exact ⟨_, .done _, .next taken tail⟩
    | succ k =>
      obtain ⟨middle, first, last⟩ := ih k
      exact ⟨middle, .next taken first, last⟩

theorem text_eq (h : Scans g text ls rest) : text = ls.flatMap Lexeme.chars ++ rest := by
  induction h with
  | done => rfl
  | next _ _ ih => simp [← ih]

theorem chars_ne_nil (h : Scans g text ls rest) : ∀ l ∈ ls, l.chars ≠ [] := by
  induction h with
  | done => simp
  | next taken _ ih => simpa using ⟨(Grammar.lexeme?_eq_some taken).1, ih⟩

theorem length_le (h : Scans g text ls rest) : ls.length + rest.length ≤ text.length := by
  induction h with
  | done => simp
  | next taken _ ih =>
    have := List.length_pos_iff.2 (Grammar.lexeme?_eq_some taken).1
    simp only [List.length_cons, List.length_append]
    omega

theorem goes_on (h : Scans g text ls []) : text = [] ∨ (g.lexeme? text).isSome := by
  cases h with
  | done => exact .inl rfl
  | next taken _ => exact .inr (Option.isSome_of_eq_some taken)

end Scans

theorem exists_scans (g : Grammar) (text : List Char) :
    ∃ ls rest, Scans g text ls rest ∧ g.Stops rest := by
  generalize size : text.length = n
  induction n using Nat.strongRecOn generalizing text with
  | ind n ih =>
    cases taken : g.lexeme? text with
    | none => exact ⟨[], text, .done text, .inr taken⟩
    | some l =>
      obtain ⟨nonempty, whole⟩ := Grammar.lexeme?_eq_some taken
      have shorter : (text.drop l.chars.length).length < n := by
        have := List.length_pos_iff.2 nonempty
        have := congrArg List.length whole
        simp only [List.length_append] at this
        omega
      obtain ⟨ls, rest, tail, stops⟩ := ih _ shorter _ rfl
      rw [whole] at taken ⊢
      exact ⟨l :: ls, rest, .next (by simpa using taken) tail, stops⟩

/-! ## What is recorded -/

variable {ι : Type} [Interner ι]

/-- The kind of a token that is no identifier is the name of its entry, and takes no number. -/
theorem Entry.kind_of_ne_id {e : Entry} (other : e.tokenClass ≠ .id) (text : String) (table : ι) :
    e.kind text table = (e.name, table) := by
  rw [kind]
  split
  · exact absurd ‹_› other
  · rfl

namespace Lexeme

/-- The token of a lexeme that stands at `p`, with the number that the table gives. -/
def token (table : ι) (p : Position) (l : Lexeme) : Token :=
  ⟨(l.entry.kind (String.ofList l.chars) table).1, String.ofList l.chars, l.entry.tokenClass, p⟩

/-- The table when the lexeme has its number. -/
def tableAfter (table : ι) (l : Lexeme) : ι := (l.entry.kind (String.ofList l.chars) table).2

/-- The tokens of lexemes one behind another, the first of them at `p`. -/
def tokens (table : ι) (p : Position) : List Lexeme → List Token
  | [] => []
  | l :: ls => l.token table p :: tokens (l.tableAfter table) (p.advanceAll l.chars) ls

/-- The table when all the lexemes have their numbers. -/
def tablesAfter (table : ι) (ls : List Lexeme) : ι := ls.foldl tableAfter table

/-- The lexeme is not one to skip. -/
def isRecorded (l : Lexeme) : Bool := !decide (l.entry.tokenClass = .skip)

/-- The tokens of the lexemes that are recorded. -/
def recorded (table : ι) (p : Position) (ls : List Lexeme) : List Token :=
  (tokens table p ls).filter (!·.isSkip)

variable {table : ι} {p : Position} {l : Lexeme} {ls ms : List Lexeme}

theorem tokens_append : tokens table p (ls ++ ms) =
    tokens table p ls ++ tokens (tablesAfter table ls) (p.advanceAll (ls.flatMap chars)) ms := by
  induction ls generalizing table p with
  | nil => rfl
  | cons l ls ih => simp [tokens, ih, tablesAfter, Position.advanceAll_append]

theorem tablesAfter_append :
    tablesAfter table (ls ++ ms) = tablesAfter (tablesAfter table ls) ms := List.foldl_append

theorem length_tokens : (tokens table p ls).length = ls.length := by
  induction ls generalizing table p with
  | nil => rfl
  | cons l ls ih => simp [tokens, ih]

theorem stop_token : (l.token table p).stop = (p.advanceAll l.chars).offset := by
  simp [Token.stop, token, Position.offset_advanceAll]

theorem isSkip_token : (l.token table p).isSkip = !l.isRecorded := by
  rw [isRecorded, Bool.not_not]
  rfl

theorem tableAfter_of_skipped (h : l.isRecorded = false) : l.tableAfter table = table := by
  have : l.entry.tokenClass = .skip := by simpa [isRecorded] using h
  simp [tableAfter, Entry.kind, this]

theorem tablesAfter_of_skipped (h : ∀ l ∈ ls, l.isRecorded = false) : tablesAfter table ls = table := by
  induction ls with
  | nil => rfl
  | cons l ls ih =>
    obtain ⟨here, later⟩ := List.forall_mem_cons.1 h
    rw [tablesAfter, List.foldl_cons, tableAfter_of_skipped here]
    exact ih later

theorem recorded_cons : recorded table p (l :: ls) =
    (if l.isRecorded then [l.token table p] else []) ++
      recorded (l.tableAfter table) (p.advanceAll l.chars) ls := by
  rw [recorded, tokens, List.filter_cons, isSkip_token]
  cases l.isRecorded <;> rfl

theorem recorded_append : recorded table p (ls ++ ms) =
    recorded table p ls ++ recorded (tablesAfter table ls) (p.advanceAll (ls.flatMap chars)) ms := by
  rw [recorded, tokens_append, List.filter_append]
  rfl

theorem recorded_of_skipped (h : ∀ l ∈ ls, l.isRecorded = false) : recorded table p ls = [] := by
  induction ls generalizing table p with
  | nil => rfl
  | cons l ls ih =>
    obtain ⟨here, later⟩ := List.forall_mem_cons.1 h
    rw [recorded_cons, here, ih later]
    rfl

end Lexeme

open Lexeme (tokens tablesAfter)

namespace Scanner

/-- The scanner when it has read the lexemes. -/
def after (s : Scanner) (table : ι) (ls : List Lexeme) : Scanner :=
  { s with
    rest := s.rest.drop (ls.flatMap Lexeme.chars).length
    position := s.position.advanceAll (ls.flatMap Lexeme.chars)
    lists := (tokens table s.position ls).foldl TokenLists.push s.lists }

/-- The failure of a scan that cannot go on from here. -/
def failureHere (s : Scanner) : Failure := ⟨.unrecognisedInput (snippet s.rest), s.position⟩

/-- The scanner when it is found that there is no further lexeme. -/
def stopped (s : Scanner) : Scanner :=
  if s.rest = [] then s else { s with failure := some s.failureHere }

/-- The answer of a scanner that has no further lexeme. -/
def ending (s : Scanner) : Outcome := if s.rest = [] then .finished else .failed s.failureHere

variable {g : Grammar} {s : Scanner} (table : ι) {l : Lexeme} {ls ms : List Lexeme} {rest : List Char}

@[simp] theorem rest_stopped (s : Scanner) : s.stopped.rest = s.rest := by
  unfold stopped
  split <;> rfl

@[simp] theorem position_stopped (s : Scanner) : s.stopped.position = s.position := by
  unfold stopped
  split <;> rfl

@[simp] theorem lists_stopped (s : Scanner) : s.stopped.lists = s.lists := by
  unfold stopped
  split <;> rfl

@[simp] theorem after_nil : s.after table [] = s := rfl

theorem after_append :
    (s.after table ls).after (tablesAfter table ls) ms = s.after table (ls ++ ms) := by
  simp [after, Lexeme.tokens_append, Position.advanceAll_append]

theorem after_cons :
    (s.after table [l]).after (l.tableAfter table) ls = s.after table (l :: ls) :=
  after_append table

@[simp] theorem failure_after : (s.after table ls).failure = s.failure := rfl

theorem rest_after (h : Scans g s.rest ls rest) : (s.after table ls).rest = rest := by
  simp [after, h.text_eq]

/-! ## Calls of `next` -/

theorem next_of_failure {f : Failure} (h : s.failure = some f) :
    s.next g table = ⟨.failed f, s, table, #[]⟩ := by
  simp [next, h]

theorem next_of_end (h : s.failure = none) (hr : s.rest = []) :
    s.next g table = ⟨.finished, s, table, #[]⟩ := by
  simp [next, h, hr]

theorem next_of_stops (h : s.failure = none) (hr : g.Stops s.rest) :
    ∃ events, s.next g table = ⟨s.ending, s.stopped, table, events⟩ := by
  by_cases atEnd : s.rest = []
  · exact ⟨#[], by rw [next_of_end table h atEnd, ending, stopped, if_pos atEnd, if_pos atEnd]⟩
  · have nothing : (g.attempt s.rest).found = none := by
      simpa [Grammar.lexeme?, Grammar.match?] using hr.resolve_left atEnd
    simp [next, h, atEnd, nothing, failureHere, ending, stopped]

theorem next_of_lexeme (h : s.failure = none) (hl : g.lexeme? s.rest = some l) :
    ∃ events, s.next g table =
      ⟨.token (l.token table s.position), s.after table [l], l.tableAfter table, events⟩ := by
  obtain ⟨m, found, rfl⟩ := Option.map_eq_some_iff.1 hl
  have bounds := Grammar.match?_bounds found
  have hr : s.rest ≠ [] := by
    intro atEnd
    simp only [atEnd, List.length_nil] at bounds
    omega
  have hm : (g.attempt s.rest).found = some m := found
  simp [next, h, hr, hm, after, tokens, Lexeme.token, Lexeme.tableAfter, Nat.min_eq_left bounds.2]

/-- All that a call of `next` can be: the failure again, the end of the text, a first failure, or the
lexeme that stands here. -/
inductive NextStep (g : Grammar) (s : Scanner) (table : ι) : Step ι Outcome → Prop where
  | failed {f : Failure} (failed : s.failure = some f) : NextStep g s table ⟨.failed f, s, table, #[]⟩
  | finished (unfailed : s.failure = none) (atEnd : s.rest = []) :
      NextStep g s table ⟨.finished, s, table, #[]⟩
  | halted {events : Array Event} (unfailed : s.failure = none) (more : s.rest ≠ [])
      (nothing : g.lexeme? s.rest = none) :
      NextStep g s table
        ⟨.failed s.failureHere, { s with failure := some s.failureHere }, table, events⟩
  | read {l : Lexeme} {events : Array Event} (unfailed : s.failure = none)
      (taken : g.lexeme? s.rest = some l) :
      NextStep g s table
        ⟨.token (l.token table s.position), s.after table [l], l.tableAfter table, events⟩

theorem nextStep (g : Grammar) (s : Scanner) (table : ι) : NextStep g s table (s.next g table) := by
  cases hf : s.failure with
  | some f =>
    rw [next_of_failure table hf]
    exact .failed hf
  | none =>
    by_cases atEnd : s.rest = []
    · rw [next_of_end table hf atEnd]
      exact .finished hf atEnd
    · cases taken : g.lexeme? s.rest with
      | none =>
        obtain ⟨events, here⟩ := next_of_stops table hf (.inr taken)
        rw [here, ending, stopped, if_neg atEnd, if_neg atEnd]
        exact .halted hf atEnd taken
      | some l =>
        obtain ⟨events, here⟩ := next_of_lexeme table hf taken
        rw [here]
        exact .read hf taken

/-- The answers of so many calls of `next` in turn. -/
def calls (g : Grammar) : Nat → Scanner → ι → Step ι (List Outcome)
  | 0, s, table => ⟨[], s, table, #[]⟩
  | k + 1, s, table =>
    let first := s.next g table
    let later := calls g k first.scanner first.table
    ⟨first.answer :: later.answer, later.scanner, later.table, first.events ++ later.events⟩

/-- Nothing is read any more. -/
def Ended (s : Scanner) : Prop := s.failure.isSome ∨ s.rest = []

theorem ended_stopped (s : Scanner) : s.stopped.Ended := by
  unfold stopped
  split
  · exact .inr ‹_›
  · exact .inl rfl

theorem next_of_ended (h : s.Ended) : ∃ answer,
    s.next g table = ⟨answer, s, table, #[]⟩ ∧
      answer = (s.failure.map Outcome.failed).getD .finished := by
  cases hf : s.failure with
  | some f => exact ⟨_, next_of_failure table hf, rfl⟩
  | none => exact ⟨_, next_of_end table hf (h.resolve_left (by simp [hf])), rfl⟩

theorem calls_of_ended (h : s.Ended) (k : Nat) :
    calls g k s table =
      ⟨List.replicate k ((s.failure.map Outcome.failed).getD .finished), s, table, #[]⟩ := by
  induction k with
  | zero => rfl
  | succ k ih =>
    obtain ⟨answer, here, rfl⟩ := next_of_ended (g := g) table h
    simp [calls, here, ih, List.replicate_succ]

theorem calls_add (j k : Nat) (s : Scanner) (table : ι) :
    let first := calls g j s table
    let later := calls g k first.scanner first.table
    (calls g (j + k) s table).answer = first.answer ++ later.answer ∧
      (calls g (j + k) s table).scanner = later.scanner ∧
      (calls g (j + k) s table).table = later.table := by
  induction j generalizing s table with
  | zero => simp [calls]
  | succ j ih =>
    obtain ⟨answers, scanner, table'⟩ := ih (s.next g table).scanner (s.next g table).table
    rw [Nat.succ_add]
    exact ⟨by simp [calls, answers], scanner, table'⟩

/-- Each call gives one of the lexemes. -/
theorem calls_of_scans (h : Scans g s.rest ls rest) (hf : s.failure = none) :
    ∃ events, calls g ls.length s table =
      ⟨(tokens table s.position ls).map .token, s.after table ls, tablesAfter table ls, events⟩ := by
  generalize whole : s.rest = text at h
  induction h generalizing s table with
  | done => exact ⟨#[], rfl⟩
  | @next l text rest ls taken tail ih =>
    rw [← whole] at taken
    obtain ⟨events, first⟩ := next_of_lexeme table hf taken
    have further : (s.after table [l]).rest = text := by simp [after, whole]
    obtain ⟨more, later⟩ := ih (s := s.after table [l]) (l.tableAfter table) hf further
    refine ⟨events ++ more, ?_⟩
    simp only [List.length_cons, calls, first, later, after_cons]
    simp [after, tokens, tablesAfter]

/-- Up to the last lexeme the calls give the lexemes. -/
theorem calls_within (h : Scans g s.rest ls rest) (hf : s.failure = none) {k : Nat}
    (hk : k ≤ ls.length) :
    ∃ events, calls g k s table =
      ⟨(tokens table s.position (ls.take k)).map .token, s.after table (ls.take k),
        tablesAfter table (ls.take k), events⟩ := by
  obtain ⟨middle, first, -⟩ := h.split k
  have := calls_of_scans table first hf
  rwa [List.length_take, Nat.min_eq_left hk] at this

theorem ending_of_stopped (hf : s.failure = none) :
    (s.stopped.failure.map Outcome.failed).getD .finished = s.ending := by
  unfold stopped ending
  split
  · rw [hf]
    rfl
  · rfl

/-- Behind the lexemes the calls give the ending again and again. -/
theorem calls_past (h : Scans g s.rest ls rest) (stops : g.Stops rest) (hf : s.failure = none) (k : Nat) :
    (calls g (ls.length + (k + 1)) s table).answer =
        (tokens table s.position ls).map .token ++
          List.replicate (k + 1) (s.after table ls).ending ∧
      (calls g (ls.length + (k + 1)) s table).scanner = (s.after table ls).stopped ∧
      (calls g (ls.length + (k + 1)) s table).table = tablesAfter table ls := by
  obtain ⟨events, first⟩ := calls_of_scans table h hf
  obtain ⟨more, last⟩ := next_of_stops (tablesAfter table ls)
    ((failure_after table).trans hf) ((rest_after table h).symm ▸ stops)
  have later : calls g (k + 1) (s.after table ls) (tablesAfter table ls) =
      ⟨List.replicate (k + 1) (s.after table ls).ending, (s.after table ls).stopped,
        tablesAfter table ls, more ++ #[]⟩ := by
    rw [calls, last, calls_of_ended _ (ended_stopped _), ending_of_stopped ((failure_after table).trans hf)]
    rfl
  have both := calls_add (g := g) ls.length (k + 1) s table
  simp only [first, later] at both
  exact both

/-! ## Runs to the end -/

theorem run_of_token {s' : Scanner} {table' : ι} {t : Token} {fuel : Nat} {events more : Array Event}
    (h : s.next g table = ⟨.token t, s', table', more⟩) :
    run g (fuel + 1) events s table = run g fuel (events ++ more) s' table' := by
  rw [run, h]

theorem run_of_ending {s' : Scanner} {table' : ι} {fuel : Nat} {events more : Array Event}
    (h : s.next g table = ⟨(s'.failure.map Outcome.failed).getD .finished, s', table', more⟩) :
    ∃ all, run g (fuel + 1) events s table = ⟨s'.failure, s', table', all⟩ := by
  rw [run, h]
  cases s'.failure <;> exact ⟨_, rfl⟩

theorem run_eq (h : Scans g s.rest ls rest) (stops : g.Stops rest) (hf : s.failure = none)
    {fuel : Nat} (enough : ls.length < fuel) (events : Array Event) :
    ∃ all, run g fuel events s table =
      ⟨(s.after table ls).stopped.failure, (s.after table ls).stopped, tablesAfter table ls, all⟩ := by
  generalize whole : s.rest = text at h
  induction h generalizing s table fuel events with
  | done =>
    obtain ⟨fuel, rfl⟩ := Nat.exists_eq_add_of_lt enough
    obtain ⟨more, last⟩ := next_of_stops table hf (whole ▸ stops)
    rw [← ending_of_stopped hf] at last
    exact run_of_ending table last
  | @next l text rest ls taken tail ih =>
    cases fuel with
    | zero => simp at enough
    | succ fuel =>
      obtain ⟨more, first⟩ := next_of_lexeme table hf (whole ▸ taken)
      have further : (s.after table [l]).rest = text := by simp [after, whole]
      obtain ⟨all, later⟩ := ih (l.tableAfter table) stops (s := s.after table [l]) hf
        (Nat.lt_of_succ_lt_succ enough) (events ++ more) further
      exact ⟨all, by rw [run_of_token _ first, later, after_cons]; rfl⟩

/-- A run to the end accepts the lexemes of the text and then stops. -/
theorem analyze_eq (h : Scans g s.rest ls rest) (stops : g.Stops rest) (hf : s.failure = none) :
    ∃ events, s.analyze g table =
      ⟨(s.after table ls).stopped.failure, (s.after table ls).stopped, tablesAfter table ls,
        events⟩ :=
  run_eq table h stops hf (by have := h.length_le; omega) #[]

theorem analyze_of_ended (h : s.Ended) :
    ∃ events, s.analyze g table = ⟨s.failure, s, table, events⟩ := by
  obtain ⟨answer, here, rfl⟩ := next_of_ended (g := g) table h
  exact run_of_ending table here

/-- However many calls came before it, a run ends where it ends without them. -/
theorem analyze_calls (h : Scans g s.rest ls rest) (stops : g.Stops rest) (hf : s.failure = none)
    (k : Nat) :
    ∃ events, (calls g k s table).scanner.analyze g (calls g k s table).table =
      ⟨(s.after table ls).stopped.failure, (s.after table ls).stopped, tablesAfter table ls,
        events⟩ := by
  rcases Nat.lt_or_ge ls.length k with past | within
  · obtain ⟨j, rfl⟩ := Nat.exists_eq_add_of_lt past
    obtain ⟨-, scanner, table'⟩ := calls_past table h stops hf j
    rw [Nat.add_assoc, scanner, table']
    exact analyze_of_ended _ (ended_stopped _)
  · obtain ⟨middle, first, last⟩ := h.split k
    obtain ⟨events, now⟩ := calls_within table h hf within
    rw [now]
    have onward := analyze_eq (tablesAfter table (ls.take k))
      ((rest_after table first).symm ▸ last) stops ((failure_after table).trans hf)
    rwa [after_append, ← Lexeme.tablesAfter_append, List.take_append_drop] at onward

end Scanner

end GoScan
