import GoScan.Proofs.Position.Rescan
import GoScan.Proofs.Scan.Failing
import Mathlib.Data.List.Chain

/-!
# The positions of a scan are those of its text

A scan counts its position on from token to token. What it counts is what reading the text from the
start would count, and what the line index of the text knows.

* `Position.located_of_cut`: the place where a text is cut before its end is a place in it;
* `Scanner.Follows.takeTurns`: whatever the calls, a scan follows its text;
* `positions_of_scan`: every answer has its place in the text, and the places go forward.
-/

namespace GoScan

namespace Position

/-- A place in the text: reading from the start and the line index find it alike. -/
structure Located (source : String) (p : Position) : Prop where
  rescanned : ofOffset? source.toList p.offset = some p
  indexed : (LineIndex.ofText source.toList).position? source.toList p.offset = some p
  placed : p.isNull = false

theorem located_of_cut {source : String} {front rest : List Char}
    (cut : source.toList = front ++ rest) (more : rest ≠ []) :
    Located source (start.advanceAll front) := by
  have offset : (start.advanceAll front).offset = Text.byteCount front := by
    rw [offset_advanceAll]
    exact Nat.zero_add _
  have indexed : (LineIndex.ofText source.toList).position? source.toList
      (start.advanceAll front).offset = some (start.advanceAll front) := by
    rw [offset, cut]
    exact LineIndex.position?_cut front more
  refine ⟨LineIndex.position?_ofText source.toList _ ▸ indexed, indexed, ?_⟩
  rw [isNull, line_advanceAll, start]
  simp

/-- The first place stands on an earlier line, or earlier on the same line. -/
def Before (p q : Position) : Prop := p.line < q.line ∨ p.line = q.line ∧ p.column < q.column

instance (p q : Position) : Decidable (p.Before q) := inferInstanceAs (Decidable (_ ∨ _))

theorem Before.trans {p q r : Position} (first : p.Before q) (second : q.Before r) : p.Before r := by
  unfold Before at *
  omega

instance : Trans Before Before Before := ⟨Before.trans⟩

theorem before_advance (p : Position) (c : Char) : p.Before (p.advance c) := by
  unfold advance
  split
  · exact .inl (Nat.lt_succ_self p.line)
  · exact .inr ⟨rfl, Nat.lt_succ_self p.column⟩

theorem before_advanceAll (p : Position) {cs : List Char} (some_read : cs ≠ []) :
    p.Before (p.advanceAll cs) := by
  induction cs generalizing p with
  | nil => exact absurd rfl some_read
  | cons c cs ih =>
    by_cases last : cs = []
    · rw [last]
      exact before_advance p c
    · exact (before_advance p c).trans (ih (p.advance c) last)

end Position

open Position (Located Before)

variable {ι : Type} [Interner ι] {g : Grammar}

/-- The place of a token, or of the failure that stands where there is none. -/
def Outcome.position? : Outcome → Option Position
  | .token t => some t.position
  | .finished => none
  | .failed f => some f.position

/-- Each token stands before the next, and the last before what follows it. -/
theorem Lexeme.isChain_positions (table : ι) (p : Position) {ls : List Lexeme}
    (nonempty : ∀ l ∈ ls, l.chars ≠ []) :
    List.IsChain Before
      ((tokens table p ls).map Token.position ++ [p.advanceAll (ls.flatMap chars)]) := by
  induction ls generalizing table p with
  | nil => exact .singleton p
  | cons l ls ih =>
    obtain ⟨here, later⟩ := List.forall_mem_cons.1 nonempty
    have onward := ih (l.tableAfter table) (p.advanceAll l.chars) later
    rw [List.flatMap_cons, Position.advanceAll_append]
    refine List.isChain_cons.2 ⟨fun q first => ?_, onward⟩
    have : q = p.advanceAll l.chars := by
      cases ls with
      | nil => exact (Option.some.inj first).symm
      | cons l' ls => exact (Option.some.inj first).symm
    rw [this]
    exact Position.before_advanceAll p here

namespace Scanner

/-- The scan stands where its text goes on with what it has not read, and what it has recorded or
failed with has its place in the text. -/
structure Follows (source : String) (s : Scanner) : Prop where
  stands : ∃ front, source.toList = front ++ s.rest ∧ s.position = Position.start.advanceAll front
  recorded : ∀ t ∈ s.lists.all, Located source t.position
  failed : ∀ f, s.failure = some f → f.position = s.position ∧ s.rest ≠ []

namespace Follows

variable {source : String} {s : Scanner} (table : ι)

theorem ofText (source : String) : Follows source (ofText source) where
  stands := ⟨[], rfl, rfl⟩
  recorded := by simp [Scanner.ofText, TokenLists.empty]
  failed := by simp [Scanner.ofText]

theorem withLocale (h : Follows source s) (l : Locale) : Follows source (s.withLocale l) :=
  ⟨h.stands, h.recorded, h.failed⟩

theorem located (h : Follows source s) (more : s.rest ≠ []) : Located source s.position := by
  obtain ⟨front, cut, here⟩ := h.stands
  rw [here]
  exact Position.located_of_cut cut more

/-- A call answers with what stands at the place of the scan, and the scan follows its text on. -/
theorem next (h : Follows source s) (g : Grammar) :
    (∀ p ∈ (s.next g table).answer.position?, p = s.position ∧ s.rest ≠ []) ∧
      Follows source (s.next g table).scanner := by
  have form := nextStep g s table
  generalize s.next g table = step at form ⊢
  cases form with
  | @failed f failed =>
    obtain ⟨place, more⟩ := h.failed f failed
    refine ⟨fun p answered => ?_, h⟩
    have : p = f.position := (Option.some.inj answered).symm
    exact ⟨this.trans place, more⟩
  | finished => exact ⟨fun p answered => absurd answered (Option.not_mem_none p), h⟩
  | halted _ more =>
    refine ⟨fun p answered => ⟨(Option.some.inj answered).symm, more⟩, h.stands, h.recorded, ?_⟩
    intro f stored
    obtain rfl := Option.some.inj stored
    exact ⟨rfl, more⟩
  | @read l _ unfailed taken =>
    obtain ⟨front, cut, place⟩ := h.stands
    obtain ⟨nonempty, whole⟩ := Grammar.lexeme?_eq_some taken
    have more : s.rest ≠ [] := by
      intro atEnd
      rw [atEnd] at whole
      exact nonempty (List.append_eq_nil_iff.1 whole.symm).1
    refine ⟨fun p answered => ⟨(Option.some.inj answered).symm, more⟩, ?_, ?_, ?_⟩
    · refine ⟨front ++ l.chars, ?_, ?_⟩
      · rw [cut, List.append_assoc, List.append_cancel_left_eq]
        simpa [after] using whole
      · rw [Position.advanceAll_append, ← place]
        simp [after]
    · intro t mem
      rcases TokenLists.mem_of_mem_push mem with old | rfl
      · exact h.recorded t old
      · exact h.located more
    · intro f stored
      rw [failure_after, unfailed] at stored
      exact absurd stored.symm (Option.some_ne_none f)

theorem invariant (source : String) (g : Grammar) : Invariant ι g fun _ => Follows source where
  next h table := (h.next table g).2
  withLocale h l := h.withLocale l

theorem calls (h : Follows source s) (g : Grammar) (k : Nat) :
    Follows source (calls g k s table).scanner :=
  (invariant source g).calls table [] h k

theorem perform {p : Scanner × ι} (h : Follows source p.1) (g : Grammar) (c : Call) :
    Follows source (c.perform g p).1 :=
  (invariant source g).perform [] h c

theorem takeTurns (h : Follows source s) (g : Grammar) (turns : List (Call × ι)) :
    Follows source (takeTurns g turns s) :=
  (invariant source g).takeTurns [] h turns

/-- A loop answers with what has its place in the text. -/
theorem loops {on : Token → Prop} {n : Nat} {last : Step ι Outcome} (h : Follows source s)
    (loop : Loops g on n s table last) : ∀ p ∈ last.answer.position?, Located source p := by
  induction loop with
  | last =>
    intro p answered
    obtain ⟨place, more⟩ := (h.next _ g).1 p answered
    rw [place]
    exact h.located more
  | @again _ s _ table _ _ _ _ here _ _ ih =>
    have onward := (h.next table g).2
    rw [here] at onward
    exact ih onward

/-- Whatever the call, its answer has its place in the text. -/
theorem answer {p : Scanner × ι} (h : Follows source p.1) (g : Grammar) (c : Call) :
    ∀ q ∈ (c.answer? g p).bind Outcome.position?, Located source q := by
  intro q answered
  cases c with
  | next =>
    obtain ⟨place, more⟩ := (h.next p.2 g).1 q answered
    rw [place]
    exact h.located more
  | nextRecorded =>
    cases failed : p.1.failure with
    | some f =>
      rw [Call.answer?, nextRecorded, failed] at answered
      exact absurd answered (Option.not_mem_none q)
    | none =>
      obtain ⟨n, -, loop⟩ := exists_loops_nextRecorded g p.2 failed
      exact h.loops p.2 loop q answered
  | analyze =>
    have ended := h.perform g .analyze
    cases result : (p.1.analyze g p.2).answer with
    | none =>
      simp only [Call.answer?, result] at answered
      exact absurd answered (Option.not_mem_none q)
    | some f =>
      simp only [Call.answer?, result] at answered
      have place : q = f.position := (Option.some.inj answered).symm
      obtain ⟨here, more⟩ := ended.failed f ((answer_analyze p.2 g p.1).symm.trans result)
      rw [place, here]
      exact ended.located more
  | withLocale l => exact absurd answered (Option.not_mem_none q)

end Follows

/-- Whatever the history of a scan: what the next call answers, and all that is recorded, has its
place in the text as reading from the start and the line index find it; a call of `next` answers
with what stands where the scan is. In a row of such calls each token stands before the next, and
the last before the failure if there is one. -/
theorem positions_of_scan (g : Grammar) (source : String) :
    (∀ history : List (Call × ι),
      let now := takeTurns g history (ofText source)
      (∀ table : ι, ∀ p ∈ (now.next g table).answer.position?, p.offset = now.offset) ∧
      (∀ (c : Call) (table : ι),
        ∀ p ∈ (c.answer? g (now, table)).bind Outcome.position?, Located source p) ∧
      ∀ t ∈ now.lists.all, Located source t.position) ∧
    ∀ (k : Nat) (table : ι),
      let run := calls g k (ofText source) table
      ((tokensRead g k (ofText source) table).map Token.position ++
        run.scanner.failure.toList.map Failure.position).Pairwise Before := by
  constructor
  · intro history now
    have follows : Follows source now := (Follows.ofText source).takeTurns g history
    refine ⟨?_, fun c table => follows.answer (p := (now, table)) g c, follows.recorded⟩
    intro table p answered
    rw [((follows.next table g).1 p answered).1, offset]
  · intro k table run
    have follows : Follows source run.scanner := (Follows.ofText source).calls table g k
    obtain ⟨ls, scans, tokens, position⟩ :=
      exists_scans_calls (g := g) (s := ofText source) rfl table k
    have chain := Lexeme.isChain_positions table (ofText source).position scans.chars_ne_nil
    rw [← tokens, ← position, List.isChain_iff_pairwise] at chain
    cases hf : run.scanner.failure with
    | none => simpa using (List.pairwise_append.1 chain).1
    | some f =>
      have place : f.position = run.scanner.position := (follows.failed f hf).1
      simpa [place] using chain

end Scanner

end GoScan
