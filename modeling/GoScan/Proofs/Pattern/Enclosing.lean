import GoScan.Proofs.Pattern.ClosingStep
import GoScan.Proofs.Pattern.Literal

/-!
# A pattern inside a group

The reader of a pattern looks at no group but the innermost. So it reads a text in groups as it reads the
text by itself, as long as it closes none of those around, and the bracket behind the text closes the
innermost of these. Three things part the texts that can be put in a group from those that are patterns by
themselves: a bracket too many, a comment that takes the bracket behind it, and the limits.

* `Reader.step_within`: one step, with more groups around;
* `Reader.run_of_ok`, `Reader.run_of_error`: a run over the text and the bracket behind it;
* `Piece.read_anchored_of_ok`, `Piece.read_anchored_of_error`: what is read of the text when it is bound to
  the start of what is searched.
-/

namespace GoScan

namespace Reader

open Escape (Dangling)

variable {cs cs' : List Char} {s t : State}

/-- The state with further groups open around it. -/
def State.within (s : State) (bs : List Open) : State := { s with outer := s.outer ++ bs }

/-- What has been read, with further groups open around it. -/
def withinAll (bs : List Open) (r : Reading State) : Reading State := r.map fun t => (t.1.within bs, t.2)

variable (bs : List Open)

@[simp] theorem flags_within (s : State) : (s.within bs).flags = s.flags := rfl

theorem repeated_within (s : State) (lazily : Bool) (low : Nat) (high : Option Nat) :
    (s.within bs).repeated lazily low high = (s.repeated lazily low high).map (·.within bs) := by
  have level : (s.within bs).level = s.level := rfl
  unfold State.repeated
  rw [level]
  rcases s.level.items with _ | ⟨piece | _, items⟩ <;> rfl

theorem nameGroup_within (s : State) (cs : List Char) :
    (s.within bs).nameGroup cs = withinAll bs (s.nameGroup cs) := by
  have names : (s.within bs).names = s.names := rfl
  unfold State.nameGroup
  rw [names]
  rcases readName cs with e | ⟨name, rest⟩
  · rfl
  · by_cases known : s.names.contains name
    · simp only [known, if_true]
      rfl
    · simp only [known, Bool.false_eq_true, if_false]
      rfl

theorem openGroup_within (s : State) (cs : List Char) :
    (s.within bs).openGroup cs = withinAll bs (s.openGroup cs) := by
  have flagged (cs : List Char) : (s.within bs).flagGroup cs = withinAll bs (s.flagGroup cs) := by
    unfold State.flagGroup
    rw [flags_within]
    rcases readFlags [] false false s.flags cs with e | ⟨⟨flags, _ | _⟩, rest⟩ <;> rfl
  have angled (cs : List Char) : (s.within bs).angleGroup cs = withinAll bs (s.angleGroup cs) := by
    unfold State.angleGroup
    split
    · rfl
    · exact nameGroup_within bs s cs
  have marked (cs : List Char) : (s.within bs).markedGroup cs = withinAll bs (s.markedGroup cs) := by
    cases cs with
    | nil => exact flagged []
    | cons c cs =>
      simp only [State.markedGroup]
      split
      · rfl
      · split
        · exact angled cs
        · split
          · exact nameGroup_within bs s cs.tail
          · exact flagged (c :: cs)
  rw [openGroup_eq, openGroup_eq, flags_within]
  cases Blank.drop s.flags.verbose cs with
  | nil => rfl
  | cons c cs =>
    simp only [State.groupFrom]
    split
    · exact marked cs
    · rfl

theorem closeGroup_within (inner : s.outer ≠ []) :
    (s.within bs).closeGroup = s.closeGroup.map (·.within bs) := by
  have outer : (s.within bs).outer = s.outer ++ bs := rfl
  unfold State.closeGroup
  rw [outer]
  cases groups : s.outer with
  | nil => exact absurd groups inner
  | cons group groups => rfl

variable [PatternLibrary]

/-- What is open around has no part in a step, unless the step closes one of it. -/
theorem step_within {c : Char} (inside : c = ')' → s.outer ≠ []) (cs : List Char) :
    step (s.within bs) c cs = withinAll bs (step s c cs) := by
  have repeated (lazily : Bool) (low : Nat) (high : Option Nat) (rest : List Char) :
      ((s.within bs).repeated lazily low high).map (·, rest) =
        withinAll bs ((s.repeated lazily low high).map (·, rest)) := by
    rw [repeated_within]
    cases s.repeated lazily low high <;> rfl
  unfold step
  split
  · exact openGroup_within bs s cs
  · rw [closeGroup_within bs (inside rfl)]
    cases s.closeGroup <;> rfl
  · rfl
  · rw [flags_within]
    cases Bracket.read s.flags cs <;> rfl
  · exact repeated _ _ _ _
  · exact repeated _ _ _ _
  · exact repeated _ _ _ _
  · rw [flags_within]
    rcases readCounts s.flags.verbose cs with e | ⟨⟨low, high⟩, rest⟩
    · rfl
    · exact repeated _ _ _ _
  · rw [flags_within]
    cases Escape.read s.flags cs <;> rfl
  · rw [flags_within]
    cases dot s.flags <;> rfl
  all_goals rfl

/-! ## Runs -/

theorem step_unopened (alone : s.outer = []) (cs : List Char) : step s ')' cs = .error .unopenedGroup := by
  change s.closeGroup.map _ = _
  rw [State.closeGroup, alone]
  rfl

/-- Where nothing but the bracket is next, it closes a group. -/
theorem run_mark (next : Blank.drop s.flags.verbose cs = [')']) (fuel : Nat) :
    run (fuel + 1) s cs = s.closeGroup := by
  have closes : step s ')' [] = s.closeGroup.map (·, []) := rfl
  simp only [run, next, closes]
  cases s.closeGroup with
  | error e => rfl
  | ok t => exact run_nil fuel t

theorem run_ended (next : Blank.drop s.flags.verbose cs = []) (fuel : Nat) : run fuel s cs = .ok s := by
  cases fuel with
  | zero => rfl
  | succ fuel => simp only [run, next]

theorem run_cons_next {c : Char} {ds : List Char} (next : Blank.drop s.flags.verbose cs = c :: ds)
    (fuel : Nat) : run (fuel + 1) s cs =
      match step s c ds with
      | .error e => .error e
      | .ok (s, rest) => run fuel s rest := by
  cases taken : step s c ds <;> simp only [run, next, taken]

/-- A brace with only the bracket behind it is no count. -/
theorem run_dangling (dangling : Dangling s.flags.verbose cs) (fuel : Nat) :
    run (fuel + 1) s cs = .error .badCount := by
  obtain ⟨inside, rfl, next⟩ := dangling
  have stays : Blank.drop s.flags.verbose ('{' :: inside) = '{' :: inside := by
    cases s.flags.verbose <;> rfl
  have uncounted : readCounts s.flags.verbose inside = .error .badCount := by
    have blanks : [')'].dropWhile Unicode.isWhiteSpace = [')'] := rfl
    have digits : Blank.span s.flags.verbose Char.isDigit false [')'] = ([], [')']) :=
      Blank.span_mark s.flags.verbose Char.isDigit
    unfold readCounts
    rw [next, readCount_eq, blanks, digits]
    rfl
  have refused : step s '{' inside = .error .badCount := by
    simp only [step, uncounted]
  simp only [run, stays, refused]

/-- If a text is read to its end, so is the text with the bracket behind it, and groups around. The
bracket then closes one of them, unless a comment has taken it. -/
theorem run_of_ok {n : Nat} (closed : Closed cs cs') (own : run n s cs = .ok t) (enough : cs.length ≤ n) :
    ∃ shut : Bool, ∀ (bs : List Open) (m : Nat), cs'.length ≤ m → run m (s.within bs) cs' =
      if shut then (t.within bs).closeGroup else .ok (t.within bs) := by
  -- Whether the bracket is left at the end does not depend on the groups around.
  induction n generalizing s cs cs' with
  | zero =>
    obtain rfl := Except.ok.inj own
    cases closed with
    | taken => exact ⟨false, fun bs m _ => run_nil m _⟩
    | mark =>
      refine ⟨true, fun bs m more => ?_⟩
      obtain ⟨m, rfl⟩ := Nat.exists_eq_add_of_le' more
      exact run_mark (Blank.drop_mark _) m
    | cons c cs => simp at enough
  | succ n ih =>
    have left := Blank.drop_closed s.flags.verbose closed
    have dropped := Blank.length_drop_le s.flags.verbose cs
    have dropped' := Blank.length_drop_le s.flags.verbose cs'
    simp only [run] at own
    generalize Blank.drop s.flags.verbose cs = ds at own left dropped
    generalize composed : Blank.drop s.flags.verbose cs' = ds' at left dropped'
    cases left with
    | taken =>
      obtain rfl := Except.ok.inj own
      exact ⟨false, fun bs m _ => run_ended (s := s.within bs) composed m⟩
    | mark =>
      obtain rfl := Except.ok.inj own
      refine ⟨true, fun bs m more => ?_⟩
      obtain ⟨m, rfl⟩ := Nat.exists_eq_add_of_le' (Nat.le_trans dropped' more)
      exact run_mark (s := s.within bs) composed m
    | cons c ds =>
      rcases (step_agree s c (.append ds)).except with
        ⟨s₁, rest, rest', first, first', left, shorter⟩ | ⟨e, e', first, first'⟩ |
        ⟨e, s₁, rest', first, first', stray⟩
      · simp only [first] at own
        have inside : c = ')' → s.outer ≠ [] := by
          rintro rfl alone
          rw [step_unopened alone] at first
          cases first
        have size := left.length_le
        simp only [List.length_cons, List.length_append, List.length_nil] at dropped dropped'
        obtain ⟨shut, later⟩ := ih left own (by omega)
        refine ⟨shut, fun bs m more => ?_⟩
        obtain ⟨m, rfl⟩ : ∃ k, m = k + 1 := ⟨m - 1, by omega⟩
        rw [← later bs m (by omega), run_cons_next (s := s.within bs) composed, step_within bs inside, first']
        rfl
      · simp only [first] at own
        cases own
      · simp only [first] at own
        cases own

/-- If a text is refused, then so is the text with the bracket behind it and groups around, or some group
is not closed. But if the text has a bracket too many, it may close a group that is open around. -/
theorem run_of_error {n : Nat} {e : PatternError} (closed : Closed cs cs') (own : run n s cs = .error e)
    (paired : e ≠ .unopenedGroup) (enough : cs.length ≤ n) {bs : List Open} (around : bs ≠ []) {m : Nat}
    (enough' : cs'.length ≤ m) (ended : run m (s.within bs) cs' = .ok t) : t.outer ≠ [] := by
  have still_open (s : State) : (s.within bs).outer ≠ [] := List.append_ne_nil_of_right_ne_nil _ around
  induction n generalizing s cs cs' m with
  | zero => cases own
  | succ n ih =>
    have left := Blank.drop_closed s.flags.verbose closed
    have dropped := Blank.length_drop_le s.flags.verbose cs
    have dropped' := Blank.length_drop_le s.flags.verbose cs'
    simp only [run] at own
    generalize Blank.drop s.flags.verbose cs = ds at own left dropped
    generalize composed : Blank.drop s.flags.verbose cs' = ds' at left dropped'
    cases left with
    | taken => cases own
    | mark => cases own
    | cons c ds =>
      have inside : c = ')' → s.outer ≠ [] := by
        rintro rfl alone
        simp only [step_unopened alone] at own
        exact paired (Except.error.inj own).symm
      simp only [List.length_cons, List.length_append, List.length_nil] at dropped dropped'
      obtain ⟨m, rfl⟩ : ∃ k, m = k + 1 := ⟨m - 1, by omega⟩
      rw [run_cons_next (s := s.within bs) composed, step_within bs inside] at ended
      rcases (step_agree s c (.append ds)).except with
        ⟨s₁, rest, rest', first, first', left, shorter⟩ | ⟨e', e'', first, first'⟩ |
        ⟨e', s₁, rest', first, first', stray⟩
      · rw [first'] at ended
        simp only [first] at own
        have size := left.length_le
        exact ih left own (by omega) (by omega) ended
      · rw [first'] at ended
        cases ended
      · rw [first'] at ended
        change run m (s₁.within bs) rest' = .ok t at ended
        -- what was missing has been read, so that no bracket is left to close what is open
        rcases stray with atEnd | dangling
        · rw [atEnd, run_nil] at ended
          rw [← Except.ok.inj ended]
          exact still_open s₁
        · cases m with
          | zero =>
            rw [← Except.ok.inj ended]
            exact still_open s₁
          | succ m =>
            rw [run_dangling (s := s₁.within bs) dangling] at ended
            cases ended

/-- What is open where a text is read that has to match at the start. -/
def anchoring : Open := ⟨.none, Level.start.add (.anchor .textStart), none⟩

/-- What is put in front of a text is read as the start of a group. -/
theorem run_anchored_start (text : List Char) :
    run (Pattern.anchored text).length .start (Pattern.anchored text) =
      run (text.length + 3) (State.start.within [anchoring]) (text ++ [')']) := by
  have whole : Pattern.anchored text = '^' :: '(' :: '?' :: ':' :: (text ++ [')']) := rfl
  have fuel : (Pattern.anchored text).length = text.length + 3 + 1 + 1 := by
    rw [whole]
    simp only [List.length_cons, List.length_append, List.length_nil]
  let before : State := State.start.add (.anchor .textStart)
  have start : step .start '^' ('(' :: '?' :: ':' :: (text ++ [')'])) =
      .ok (before, '(' :: '?' :: ':' :: (text ++ [')'])) := rfl
  have opened : step before '(' ('?' :: ':' :: (text ++ [')'])) =
      .ok (State.start.within [anchoring], text ++ [')']) := rfl
  rw [fuel, whole, run_cons rfl start, run_cons rfl opened]

end Reader

/-! ## The text as a whole -/

/-- What has been read at the end of the text, if every group is closed. -/
def Reader.State.whole (s : Reader.State) : Except PatternError Piece :=
  if s.outer = [] then .ok s.level.close else .error .unclosedGroup

theorem Piece.whole_of_closed {s : Reader.State} (closed : s.outer = []) : s.whole = .ok s.level.close := if_pos closed

theorem Piece.whole_of_open {s : Reader.State} (groups : s.outer ≠ []) : s.whole = .error .unclosedGroup := if_neg groups

variable [PatternLibrary]

/-- The piece that `text` writes, however deep it nests. -/
def Piece.read (text : List Char) : Except PatternError Piece :=
  (Reader.run text.length .start text).bind Reader.State.whole

theorem Outline.read_eq (text : List Char) : Outline.read text =
    match Piece.read text with
    | .error e => .error e
    | .ok p => if Pattern.maxDepth < p.depth then .error .tooDeep else .ok p.outline := by
  rw [Outline.read, Piece.read]
  cases Reader.run text.length .start text with
  | error e => rfl
  | ok s =>
    change _ = match s.whole with
      | .error e => _
      | .ok p => _
    cases groups : s.outer <;> simp [groups, Reader.State.whole]

namespace Piece

open Reader

variable {text : List Char} {p : Piece} {e : PatternError}

theorem exists_run (own : read text = .ok p) :
    ∃ t, run text.length .start text = .ok t ∧ t.outer = [] ∧ t.level.close = p := by
  cases ran : run text.length .start text with
  | error e =>
    rw [read, ran] at own
    cases own
  | ok t =>
    rw [read, ran] at own
    change t.whole = .ok p at own
    by_cases closed : t.outer = []
    · rw [whole_of_closed closed] at own
      exact ⟨t, rfl, closed, Except.ok.inj own⟩
    · rw [whole_of_open closed] at own
      cases own

/-- What is read of a text in a group at the start of what is searched. -/
theorem read_anchored (text : List Char) : read (Pattern.anchored text) =
    (run (text.length + 3) (State.start.within [anchoring]) (text ++ [')'])).bind State.whole := by
  rw [read, run_anchored_start]

/-- If a text is read by itself, then a bracket behind it is one too many, and the text is read in a group
at the start of what is searched. But if the text ends with a comment, then the bracket is a part of this,
and the group is not closed. -/
theorem read_anchored_of_ok (own : read text = .ok p) :
    (read (text ++ [')']) = .error .unopenedGroup ∧
      read (Pattern.anchored text) = .ok ⟨.cat [.anchor .textStart, p.outline], p.depth + 2⟩) ∨
    (read (text ++ [')']) = .ok p ∧ read (Pattern.anchored text) = .error .unclosedGroup) := by
  obtain ⟨t, ran, alone, rfl⟩ := exists_run own
  obtain ⟨shut, behind⟩ := run_of_ok (.append text) ran (Nat.le_refl _)
  have bare : run (text ++ [')']).length .start (text ++ [')']) =
      if shut then (t.within []).closeGroup else .ok (t.within []) := behind [] _ (Nat.le_refl _)
  have inGroup := behind [anchoring] (text.length + 3) (by simp)
  have outer (bs : List Open) : (t.within bs).outer = bs := by
    change t.outer ++ bs = bs
    rw [alone, List.nil_append]
  rw [read_anchored, inGroup, read, bare]
  cases shut with
  | false =>
    right
    constructor
    · exact whole_of_closed (outer [])
    · apply whole_of_open
      rw [outer]
      exact List.cons_ne_nil _ _
  | true =>
    left
    simp only [if_true, State.closeGroup, outer]
    constructor
    · rfl
    · change Except.ok (Piece.mk _ (max 0 (t.level.close.depth + 1) + 1)) = _
      rw [Nat.zero_max]
      rfl

/-- If a text is not read by itself, then neither is it in a group, unless it has a bracket too many. -/
theorem read_anchored_of_error (own : read text = .error e) (paired : e ≠ .unopenedGroup) :
    ∃ e', read (Pattern.anchored text) = .error e' := by
  rw [read_anchored]
  cases ran : run text.length .start text with
  | error e' =>
    have same : e' = e := by
      rw [read, ran] at own
      exact Except.error.inj own
    cases composed : run (text.length + 3) (State.start.within [anchoring]) (text ++ [')']) with
    | error e'' => exact ⟨e'', rfl⟩
    | ok t =>
      have groups := run_of_error (.append text) ran (same ▸ paired) (Nat.le_refl _)
        (List.cons_ne_nil anchoring []) (by simp) composed
      exact ⟨_, whole_of_open groups⟩
  | ok t =>
    obtain ⟨shut, behind⟩ := run_of_ok (.append text) ran (Nat.le_refl _)
    rw [behind [anchoring] (text.length + 3) (by simp)]
    cases groups : t.outer with
    | nil =>
      rw [read, ran] at own
      change t.whole = .error e at own
      rw [whole_of_closed groups] at own
      cases own
    | cons group groups' =>
      -- whatever the bracket closes, the group around it stays open
      have outer : (t.within [anchoring]).outer = group :: (groups' ++ [anchoring]) := by
        change t.outer ++ [anchoring] = _
        rw [groups, List.cons_append]
      refine ⟨.unclosedGroup, ?_⟩
      cases shut with
      | false =>
        apply whole_of_open
        rw [outer]
        exact List.cons_ne_nil _ _
      | true =>
        simp only [if_true, State.closeGroup, outer]
        apply whole_of_open
        exact List.append_ne_nil_of_right_ne_nil _ (List.cons_ne_nil _ _)

end Piece

end GoScan
