import GoScan.Proofs.Pattern.Closing

/-!
# Character classes before a closing bracket

A class is the same with a closing bracket behind the text, for a round bracket can neither end a class nor
be a part of what ends one. Where the text ends inside the class, so does the text with the bracket.

* `Bracket.readMember_agree`: one member;
* `Bracket.readRest_agree`: so many members and classes as there are to the end.
-/

namespace GoScan

open Reader (Closed Agree Never)
open Escape (Astray)

variable {cs cs' : List Char}

theorem Blank.peekPast_append (sign : Bool) (cs : List Char) :
    peekPast sign (cs ++ [')']) = (peekPast sign cs).or (some ')') := by
  induction cs generalizing sign with
  | nil => cases sign <;> rfl
  | cons c cs ih =>
    rw [List.cons_append]
    unfold peekPast
    split
    · exact ih sign
    · split
      · exact ih true
      · rfl

/-- What decides whether a hyphen makes a range is the same with the bracket behind it, unless it is the
bracket. -/
theorem Blank.peek_append (verbose : Bool) (cs : List Char) {c : Char} (solid : Unicode.isWhiteSpace c = false)
    (unsigned : c ≠ '#') (other : c ≠ ')') :
    peek verbose (cs ++ [')']) = some c ↔ peek verbose cs = some c := by
  cases verbose with
  | false =>
    cases cs with
    | nil => simpa [peek] using Ne.symm other
    | cons d cs => rfl
  | true =>
    rw [peek, peek, peekPast_append]
    cases own : peekPast false cs with
    | some d => simp
    | none =>
      have apart : cs.head? ≠ some c := by
        intro first
        cases cs with
        | nil => cases first
        | cons d cs =>
          obtain rfl := Option.some.inj first
          simp [peekPast, solid, unsigned] at own
      simp [Ne.symm other, apart]

namespace Bracket

variable {flags : Flags}

/-- What is lost of a part of a class: no more than the bracket is left. -/
def Spent {α : Type} : α → List Char → Prop := fun _ rest' => rest' = [] ∨ rest' = [')']

/-- A caret, if there is one, and the blanks behind it. -/
def negation (verbose : Bool) : List Char → Bool × List Char
  | '^' :: rest => (true, Blank.drop verbose rest)
  | cs => (false, cs)

theorem negation_closed (verbose : Bool) (closed : Closed cs cs') :
    (negation verbose cs').1 = (negation verbose cs).1 ∧
      Closed (negation verbose cs).2 (negation verbose cs').2 ∧
      (negation verbose cs).2.length ≤ cs.length := by
  cases closed with
  | taken => exact ⟨rfl, .taken, Nat.le_refl _⟩
  | mark => exact ⟨rfl, .mark, Nat.le_refl _⟩
  | cons c cs =>
    by_cases caret : c = '^'
    · subst caret
      exact ⟨rfl, Blank.drop_closed verbose (.append cs), Nat.le_succ_of_le (Blank.length_drop_le verbose cs)⟩
    · have plain (cs : List Char) : negation verbose (c :: cs) = (false, c :: cs) := by
        unfold negation
        split
        · cases ‹c :: cs = _›
          exact absurd rfl caret
        · rfl
      rw [plain, plain]
      exact ⟨rfl, .cons c cs, Nat.le_refl _⟩

/-- What is read when hyphens have been passed, and what is left then. -/
def opened (verbose negated : Bool) (hyphens cs : List Char) : Except PatternError (Bracket × List Char) :=
  let b := hyphens.foldl (fun b c => b.addSet (.single c)) (start negated)
  match cs with
  | [] => .error .unclosedClass
  | c :: rest =>
    if c = ']' ∧ hyphens.isEmpty then
      match Blank.drop verbose rest with
      | [] => .error .unclosedClass
      | rest => .ok (b.addSet (.single ']'), rest)
    else .ok (b, cs)

theorem opened_agree (verbose negated : Bool) (hyphens : List Char) (closed : Closed cs cs') :
    Agree Spent cs.length (opened verbose negated hyphens cs).toOption
      (opened verbose negated hyphens cs').toOption := by
  cases closed with
  | taken => exact .refused
  | mark => exact .lost (.inr rfl)
  | cons c cs =>
    simp only [opened]
    split
    · have left := Blank.drop_closed verbose (.append cs)
      have shorter := Blank.length_drop_le verbose cs
      generalize Blank.drop verbose cs = own at left shorter ⊢
      generalize Blank.drop verbose (cs ++ [')']) = composed at left ⊢
      cases left with
      | taken => exact .refused
      | mark => exact .lost (.inr rfl)
      | cons d ds => exact .read (.cons d ds) (Nat.le_succ_of_le shorter)
    · exact .read (.cons c cs) (Nat.le_refl _)

theorem readOpening_agree (verbose : Bool) (closed : Closed cs cs') :
    Agree Spent cs.length (readOpening verbose cs).toOption (readOpening verbose cs').toOption := by
  obtain ⟨negated, left, shorter⟩ := negation_closed verbose (Blank.drop_closed verbose closed)
  obtain ⟨hyphens, left⟩ := Blank.span_closed verbose (· = '-') false rfl left
  have fewer := Blank.length_span_le verbose (· = '-') false (negation verbose (Blank.drop verbose cs)).2
  have dropped := Blank.length_drop_le verbose cs
  have unfolded (cs : List Char) : readOpening verbose cs =
      opened verbose (negation verbose (Blank.drop verbose cs)).1
        (Blank.span verbose (· = '-') false (negation verbose (Blank.drop verbose cs)).2).1
        (Blank.span verbose (· = '-') false (negation verbose (Blank.drop verbose cs)).2).2 := by
    have negates (cs : List Char) : (match cs with
        | '^' :: rest => (true, Blank.drop verbose rest)
        | _ => (false, cs)) = negation verbose cs := by
      unfold negation
      split <;> rfl
    rw [← negates]
    rfl
  rw [unfolded, unfolded, negated, hyphens]
  exact (opened_agree verbose _ _ left).mono (by omega)

/-- The named class behind its colon and the caret. -/
def namedClass? (flags : Flags) (negated : Bool) (cs : List Char) :
    Option (Except PatternError CharSet × List Char) :=
  match cs.span (· != ':') with
  | (name, ':' :: ']' :: rest) =>
    (CharSet.ofAsciiClass? (String.ofList name)).map fun s => (flags.foldThenNegate negated s, rest)
  | _ => none

theorem namedClass?_agree (flags : Flags) (negated : Bool) (closed : Closed cs cs') :
    Agree Never cs.length (namedClass? flags negated cs) (namedClass? flags negated cs') := by
  rcases closed.eq_append_or with rfl | ⟨rfl, rfl⟩
  · have shorter := Blank.length_span_le false (· != ':') false cs
    unfold namedClass?
    rw [Blank.span_eq, Blank.span_eq]
    rcases own : Blank.span false (· != ':') false cs with ⟨name, _ | ⟨c, _ | ⟨d, rest⟩⟩⟩
    · obtain ⟨name', composed⟩ := Blank.span_end rfl own
      rw [composed]
      exact .refused
    · -- the bracket is none that a named class has behind its second colon
      rw [Blank.span_append own]
      simpa using Agree.refused
    · rw [own] at shorter
      rw [Blank.span_append own]
      by_cases ends : c = ':' ∧ d = ']'
      · obtain ⟨rfl, rfl⟩ := ends
        cases named : CharSet.ofAsciiClass? (String.ofList name) with
        | none => simpa [named] using Agree.refused
        | some s =>
          have behind : rest.length ≤ cs.length := Nat.le_of_succ_le (Nat.le_of_succ_le shorter)
          simpa [named] using Agree.read (.append rest) behind
      · split
        · cases ‹(name, c :: d :: rest) = _›
          exact absurd ⟨rfl, rfl⟩ ends
        · split
          · cases ‹(name, c :: (d :: rest ++ [')'])) = _›
            exact absurd ⟨rfl, rfl⟩ ends
          · exact .refused
  · exact .refused

/-- A named class ends before the bracket. -/
theorem asciiClass?_agree (flags : Flags) (closed : Closed cs cs') :
    Agree Never cs.length (asciiClass? flags cs) (asciiClass? flags cs') := by
  cases closed with
  | taken => exact .refused
  | mark => exact .refused
  | cons c cs =>
    by_cases colon : c = ':'
    · subst colon
      have unfolded (cs : List Char) : asciiClass? flags (':' :: cs) =
          namedClass? flags (negation false cs).1 (negation false cs).2 := by
        have negates (cs : List Char) : (match cs with
            | '^' :: rest => (true, rest)
            | _ => (false, cs)) = negation false cs := by
          unfold negation
          split <;> rfl
        rw [← negates]
        rfl
      obtain ⟨negated, left, shorter⟩ := negation_closed false (.append cs)
      rw [unfolded, unfolded, negated]
      exact (namedClass?_agree flags _ left).mono (Nat.le_succ_of_le shorter)
    · have other (cs : List Char) : asciiClass? flags (c :: cs) = none := by
        unfold asciiClass?
        split
        · cases ‹c :: cs = _›
          exact absurd rfl colon
        · rfl
      rw [other, other]
      exact .refused

/-- A set operator. -/
def operator? : List Char → Option (SetOperator × List Char)
  | '&' :: '&' :: cs => some (.inter, cs)
  | '-' :: '-' :: cs => some (.diff, cs)
  | '~' :: '~' :: cs => some (.symmDiff, cs)
  | _ => none

/-- An operator stands before the bracket. -/
theorem operator?_append (cs : List Char) :
    operator? (cs ++ [')']) = (operator? cs).map fun t => (t.1, t.2 ++ [')']) := by
  rcases cs with _ | ⟨c, _ | ⟨d, cs⟩⟩
  · rfl
  · simp [operator?]
  · rw [List.cons_append, List.cons_append]
    by_cases twice : c = d ∧ (c = '&' ∨ c = '-' ∨ c = '~')
    · rcases twice with ⟨rfl, rfl | rfl | rfl⟩ <;> rfl
    · have nothing (cs : List Char) : operator? (c :: d :: cs) = none := by
        unfold operator?
        split
        all_goals first
          | rfl
          | cases ‹c :: d :: cs = _›
            exact absurd ⟨rfl, by decide⟩ twice
      rw [nothing, nothing]
      rfl

theorem length_of_operator? {op : SetOperator} {c : Char} {rest : List Char}
    (read : operator? (c :: cs) = some (op, rest)) : rest.length ≤ cs.length := by
  unfold operator? at read
  split at read
  case h_4 => cases read
  all_goals
    cases ‹c :: cs = _›
    cases read
    exact Nat.le_succ _

variable [PatternLibrary]

theorem readAny_agree (flags : Flags) (closed : Closed cs cs') :
    Agree (Astray flags.verbose) (cs.length - 1) (readAny flags cs).toOption
      (readAny flags cs').toOption := by
  cases closed with
  | taken => exact .refused
  | mark => exact .lost (.inl rfl)
  | cons c cs =>
    rw [List.length_cons, Nat.add_sub_cancel]
    by_cases backslash : c = '\\'
    · subst backslash
      exact Escape.read_agree flags (.append cs)
    · have plain (cs : List Char) : readAny flags (c :: cs) = .ok (.char c, cs) := by
        simp [readAny]
      rw [plain, plain]
      exact .read (.append cs) (Nat.le_refl _)

theorem readElement_agree (flags : Flags) (closed : Closed cs cs') :
    Agree (Astray flags.verbose) (cs.length - 1) (readElement flags cs).toOption
      (readElement flags cs').toOption := by
  unfold readElement
  rcases (readAny_agree flags closed).except with
    ⟨element, rest, rest', own, composed, left, shorter⟩ | ⟨e, e', own, composed⟩ |
    ⟨e, element, rest', own, composed, astray⟩
  · rw [own, composed]
    dsimp only
    split
    · exact .read left shorter
    · exact .refused
  · rw [own, composed]
    exact .refused
  · rw [own, composed]
    dsimp only
    split
    · exact .lost astray
    · exact .refused

/-- The characters from one element to another. -/
def between : Element → Element → Except PatternError CharSet
  | .char low, .char high => if low ≤ high then .ok (.range low high) else .error .badRange
  | _, _ => .error .badRange

/-- The characters of one element. -/
def alone : Element → Except PatternError CharSet
  | .char a => .ok (.single a)
  | .set s => .ok s
  | .anchor _ => .error .badClassItem

/-- The upper end of a range. -/
def rangeTo (flags : Flags) (first : Element) (cs : List Char) : Except PatternError (CharSet × List Char) :=
  match readElement flags cs with
  | .error e => .error e
  | .ok (last, rest) => (between first last).map (·, rest)

/-- What a member is made of when its first element has been read. -/
def memberFrom (flags : Flags) (first : Element) : List Char → Except PatternError (CharSet × List Char)
  | [] => .error .unclosedClass
  | c :: rest =>
    let next := Blank.peek flags.verbose rest
    if c = '-' ∧ next ≠ some ']' ∧ next ≠ some '-' then rangeTo flags first (Blank.drop flags.verbose rest)
    else (alone first).map (·, c :: rest)

theorem readMember_eq (flags : Flags) (cs : List Char) : readMember flags cs =
    match readElement flags cs with
    | .error e => .error e
    | .ok (first, rest) => memberFrom flags first (Blank.drop flags.verbose rest) := by
  unfold readMember
  rcases readElement flags cs with e | ⟨first, rest⟩
  · rfl
  · change (match Blank.drop flags.verbose rest with
      | [] => _
      | c :: rest => _) = memberFrom flags first (Blank.drop flags.verbose rest)
    cases Blank.drop flags.verbose rest with
    | nil => rfl
    | cons c rest =>
      simp only [memberFrom, rangeTo]
      split
      · rcases readElement flags (Blank.drop flags.verbose rest) with e | ⟨last, rest⟩
        · rfl
        · cases first <;> cases last
          case char.char low high =>
            have pushed : (between (.char low) (.char high)).map (·, rest) =
                if low ≤ high then .ok (.range low high, rest) else .error .badRange := by
              rw [between]
              split <;> rfl
            exact pushed.symm
          all_goals rfl
      · cases first <;> rfl

theorem rangeTo_agree (flags : Flags) (first : Element) (closed : Closed cs cs') :
    Agree Spent (cs.length - 1) (rangeTo flags first cs).toOption (rangeTo flags first cs').toOption := by
  unfold rangeTo
  rcases (readElement_agree flags closed).except with
    ⟨last, rest, rest', own, composed, left, shorter⟩ | ⟨e, e', own, composed⟩ |
    ⟨e, last, rest', own, composed, astray⟩
  · rw [own, composed]
    exact .made left shorter _
  · rw [own, composed]
    exact .refused
  · rw [own, composed]
    rcases astray with atEnd | ⟨⟨ascii, boundary⟩, -⟩
    · exact .lost_made (fun _ => .inl atEnd) _
    · -- an anchor is no end of a range
      rw [boundary]
      cases first <;> exact .refused

theorem memberFrom_agree (flags : Flags) (first : Element) (closed : Closed cs cs') :
    Agree Spent cs.length (memberFrom flags first cs).toOption (memberFrom flags first cs').toOption := by
  cases closed with
  | taken => exact .refused
  | mark => exact .lost_made (fun _ => .inr rfl) _
  | cons c cs =>
    have closes := Blank.peek_append flags.verbose cs (c := ']') rfl (by decide) (by decide)
    have hyphen := Blank.peek_append flags.verbose cs (c := '-') rfl (by decide) (by decide)
    simp only [memberFrom, ne_eq, closes, hyphen]
    split
    · have left := Blank.drop_closed flags.verbose (.append cs)
      have dropped := Blank.length_drop_le flags.verbose cs
      refine (rangeTo_agree flags first left).mono ?_
      rw [List.length_cons]
      omega
    · exact .made (.cons c cs) (Nat.le_refl _) _

theorem readMember_agree (flags : Flags) (closed : Closed cs cs') :
    Agree Spent (cs.length - 1) (readMember flags cs).toOption (readMember flags cs').toOption := by
  rw [readMember_eq, readMember_eq]
  rcases (readElement_agree flags closed).except with
    ⟨first, rest, rest', own, composed, left, shorter⟩ | ⟨e, e', own, composed⟩ |
    ⟨e, first, rest', own, composed, astray⟩
  · rw [own, composed]
    have dropped := Blank.length_drop_le flags.verbose rest
    exact (memberFrom_agree flags first (Blank.drop_closed flags.verbose left)).mono
      (Nat.le_trans dropped shorter)
  · rw [own, composed]
    exact .refused
  · rw [own, composed]
    rcases astray with atEnd | ⟨⟨ascii, boundary⟩, inside, brace, -⟩
    · rw [atEnd]
      simp only [Blank.drop_nil]
      exact .refused
    · -- an anchor is no member
      rw [boundary, brace]
      have stays : Blank.drop flags.verbose ('{' :: inside) = '{' :: inside := by
        cases flags.verbose <;> rfl
      simp only [stays, memberFrom]
      exact .refused

/-- One turn of reading to the end of a class, where no blanks are next. -/
def turn (flags : Flags) (fuel : Nat) (b : Bracket) (outer : List Bracket) :
    List Char → Except PatternError (Nested × List Char)
  | [] => .error .unclosedClass
  | c :: cs =>
    if c = '[' then
      match asciiClass? flags cs with
      | some (.error e, _) => .error e
      | some (.ok s, rest) => readRest flags fuel (b.addSet s) outer rest
      | none =>
        match readOpening flags.verbose cs with
        | .error e => .error e
        | .ok (inner, rest) => readRest flags fuel inner (b :: outer) rest
    else if c = ']' then
      match b.close flags, outer with
      | .error e, _ => .error e
      | .ok closed, [] => .ok (closed, cs)
      | .ok closed, around :: outer => readRest flags fuel (around.add closed) outer cs
    else
      match operator? (c :: cs) with
      | some (op, rest) => readRest flags fuel (b.operator flags op) outer rest
      | none =>
        match readMember flags (c :: cs) with
        | .error e => .error e
        | .ok (s, rest) => readRest flags fuel (b.addSet s) outer rest

theorem readRest_succ (flags : Flags) (fuel : Nat) (b : Bracket) (outer : List Bracket) (cs : List Char) :
    readRest flags (fuel + 1) b outer cs = turn flags fuel b outer (Blank.drop flags.verbose cs) := by
  rw [readRest]
  generalize Blank.drop flags.verbose cs = ds
  split
  case h_7 more noOpening noClosing noInter noDiff noSymmDiff =>
    cases ds with
    | nil => exact absurd rfl more
    | cons c ds =>
      have opens : c ≠ '[' := by
        rintro rfl
        exact noOpening ds rfl
      have closes : c ≠ ']' := by
        rintro rfl
        exact noClosing ds rfl
      have none_read : operator? (c :: ds) = none := by
        unfold operator?
        split
        · exact absurd ‹_› (noInter _)
        · exact absurd ‹_› (noDiff _)
        · exact absurd ‹_› (noSymmDiff _)
        · rfl
      cases member : readMember flags (c :: ds) <;>
        simp only [turn, opens, closes, none_read, member, if_false]
  all_goals rfl

theorem turn_mark (fuel : Nat) (b : Bracket) (outer : List Bracket) :
    turn flags fuel b outer [')'] = .error .unclosedClass := by
  have member : readMember flags [')'] = .error .unclosedClass := by
    rw [readMember_eq]
    simp [readElement, readAny, Element.isWithin, memberFrom]
  simp [turn, operator?, member]

/-- Where no more than the bracket is left, the class does not end. -/
theorem readRest_spent {b : Bracket} {outer : List Bracket} (spent : cs = [] ∨ cs = [')']) (fuel : Nat) :
    readRest flags fuel b outer cs = .error .unclosedClass := by
  cases fuel with
  | zero => rfl
  | succ fuel =>
    rw [readRest_succ]
    rcases spent with rfl | rfl
    · rw [Blank.drop_nil, turn]
    · rw [Blank.drop_mark, turn_mark]

/-- A class is the same with the bracket behind the text, if it ends in the text. -/
theorem readRest_agree (flags : Flags) {fuel fuel' : Nat} {b : Bracket} {outer : List Bracket}
    (closed : Closed cs cs') (enough : cs.length < fuel) (enough' : cs'.length < fuel') :
    Agree Never cs.length (readRest flags fuel b outer cs).toOption
      (readRest flags fuel' b outer cs').toOption := by
  -- Each turn leaves less of both texts, so that the fuel never runs out.
  induction fuel generalizing fuel' b outer cs cs' with
  | zero => omega
  | succ fuel ih =>
    cases fuel' with
    | zero => omega
    | succ fuel' =>
      have left := Blank.drop_closed flags.verbose closed
      have dropped := Blank.length_drop_le flags.verbose cs
      have dropped' := Blank.length_drop_le flags.verbose cs'
      rw [readRest_succ, readRest_succ]
      generalize Blank.drop flags.verbose cs = own at left dropped ⊢
      generalize Blank.drop flags.verbose cs' = composed at left dropped' ⊢
      cases left with
      | taken => exact .refused
      | mark =>
        rw [turn_mark]
        exact .refused
      | cons c ds =>
        rw [List.length_cons] at dropped dropped'
        rw [List.length_append, List.length_singleton] at dropped'
        have again {b : Bracket} {outer : List Bracket} {rest rest' : List Char} (left : Closed rest rest')
            (shorter : rest.length ≤ ds.length) : Agree Never cs.length
              (readRest flags fuel b outer rest).toOption (readRest flags fuel' b outer rest').toOption := by
          have size := left.length_le
          exact (ih left (by omega) (by omega)).mono (by omega)
        simp only [turn]
        split
        · have agree := asciiClass?_agree flags (.append ds)
          generalize asciiClass? flags ds = r at agree ⊢
          generalize asciiClass? flags (ds ++ [')']) = r' at agree ⊢
          cases agree with
          | @read made _ _ left shorter =>
            cases made with
            | error e => exact .refused
            | ok s => exact again left shorter
          | lost never => exact never.elim
          | refused =>
            rcases (readOpening_agree flags.verbose (.append ds)).except with
              ⟨inner, rest, rest', own, composed, left, shorter⟩ | ⟨e, e', own, composed⟩ |
              ⟨e, inner, rest', own, composed, spent⟩
            · rw [own, composed]
              exact again left shorter
            · rw [own, composed]
              exact .refused
            · rw [own, composed]
              simp only [readRest_spent spent]
              exact .refused
        · split
          · cases b.close flags with
            | error e => exact .refused
            | ok closed =>
              cases outer with
              | nil => exact .read (.append ds) (by omega)
              | cons around outer => exact again (.append ds) (Nat.le_refl _)
          · rw [← List.cons_append, operator?_append]
            cases op : operator? (c :: ds) with
            | some t => exact again (.append t.2) (length_of_operator? op)
            | none =>
              rcases (readMember_agree flags (.cons c ds)).except with
                ⟨s, rest, rest', own, composed, left, shorter⟩ | ⟨e, e', own, composed⟩ |
                ⟨e, s, rest', own, composed, spent⟩
              · rw [own, List.cons_append, Option.map_none, composed]
                exact again left shorter
              · rw [own, List.cons_append, Option.map_none, composed]
                exact .refused
              · rw [own, List.cons_append, Option.map_none, composed]
                simp only [readRest_spent spent]
                exact .refused

theorem read_agree (flags : Flags) (closed : Closed cs cs') :
    Agree Never cs.length (read flags cs).toOption (read flags cs').toOption := by
  unfold read
  rcases (readOpening_agree flags.verbose closed).except with
    ⟨b, rest, rest', own, composed, left, shorter⟩ | ⟨e, e', own, composed⟩ |
    ⟨e, b, rest', own, composed, spent⟩
  · rw [own, composed]
    exact (readRest_agree flags left (Nat.lt_succ_self _) (Nat.lt_succ_self _)).mono shorter
  · rw [own, composed]
    exact .refused
  · rw [own, composed]
    simp only [readRest_spent spent]
    exact .refused

end Bracket

end GoScan
