import GoScan.Proofs.Pattern.ClosingClass

/-!
# Steps before a closing bracket

One step of the reader reads the same with a closing bracket behind the text. Where the text ends inside of
what the step reads, the step with the bracket does not lead anywhere.

* `Reader.readCounts_agree`, `Reader.openGroup_agree`: what stands behind an opening brace or bracket;
* `Reader.step_agree`: any step.
-/

namespace GoScan

namespace Reader

open Escape (Dangling)

variable {cs cs' : List Char}

/-! ## Counts, names and flags -/

theorem readLazy_closed (closed : Closed cs cs') :
    (readLazy cs').1 = (readLazy cs).1 ∧ Closed (readLazy cs).2 (readLazy cs').2 ∧
      (readLazy cs).2.length ≤ cs.length := by
  cases closed with
  | taken => exact ⟨rfl, .taken, Nat.le_refl _⟩
  | mark => exact ⟨rfl, .mark, Nat.le_refl _⟩
  | cons c cs =>
    by_cases mark : c = '?'
    · subst mark
      exact ⟨rfl, .append cs, Nat.le_succ _⟩
    · have plain (cs : List Char) : readLazy (c :: cs) = (false, c :: cs) := by
        unfold readLazy
        split
        · cases ‹c :: cs = _›
          exact absurd rfl mark
        · rfl
      rw [plain, plain]
      exact ⟨rfl, .cons c cs, Nat.le_refl _⟩

/-- The count that digits write. -/
def countOf (digits : List Char) : Except PatternError (Option Nat) :=
  let n := digits.foldl (fun n d => 10 * n + (d.toNat - '0'.toNat)) 0
  if digits.isEmpty then .ok none else if n < UInt32.size then .ok (some n) else .error .badCount

theorem readCount_eq (verbose : Bool) (cs : List Char) :
    let found := Blank.span verbose Char.isDigit false (cs.dropWhile Unicode.isWhiteSpace)
    readCount verbose cs = (countOf found.1, found.2.dropWhile Unicode.isWhiteSpace) := by
  simp only [readCount, countOf]
  split
  · rfl
  · split <;> rfl

theorem readCount_closed (verbose : Bool) (closed : Closed cs cs') :
    (readCount verbose cs').1 = (readCount verbose cs).1 ∧
      Closed (readCount verbose cs).2 (readCount verbose cs').2 ∧
      (readCount verbose cs).2.length ≤ cs.length := by
  have blanks := dropWhile_closed (p := Unicode.isWhiteSpace) rfl closed
  obtain ⟨digits, left⟩ := Blank.span_closed verbose Char.isDigit false rfl blanks
  have behind := dropWhile_closed (p := Unicode.isWhiteSpace) rfl left
  have fewer (cs : List Char) : (cs.dropWhile Unicode.isWhiteSpace).length ≤ cs.length :=
    (List.dropWhile_suffix _).length_le
  have spanned := Blank.length_span_le verbose Char.isDigit false (cs.dropWhile Unicode.isWhiteSpace)
  rw [readCount_eq, readCount_eq]
  exact ⟨congrArg countOf digits, behind, Nat.le_trans (fewer _) (Nat.le_trans spanned (fewer _))⟩

/-- What follows the comma of a count. -/
def countUpTo (verbose : Bool) (low : Nat) (cs : List Char) : Reading (Nat × Option Nat) :=
  match cs with
  | '}' :: rest => .ok ((low, none), rest)
  | rest =>
    match readCount verbose rest with
    | (.ok (some high), '}' :: rest) =>
      if low ≤ high then .ok ((low, some high), rest) else .error .badCount
    | _ => .error .badCount

/-- The greatest number of times, when there is one. -/
def highest (low : Nat) (counted : Except PatternError (Option Nat) × List Char) : Reading (Nat × Option Nat) :=
  match counted with
  | (.ok (some high), '}' :: rest) =>
    if low ≤ high then .ok ((low, some high), rest) else .error .badCount
  | _ => .error .badCount

theorem highest_agree (low : Nat) (n : Except PatternError (Option Nat)) (closed : Closed cs cs') :
    Agree Never cs.length (highest low (n, cs)).toOption (highest low (n, cs')).toOption := by
  cases closed with
  | taken => rcases n with e | _ | high <;> exact .refused
  | mark => rcases n with e | _ | high <;> exact .refused
  | cons c cs =>
    by_cases ends : c = '}'
    · subst ends
      rcases n with e | _ | high
      · exact .refused
      · exact .refused
      · simp only [highest]
        split
        · exact .read (.append cs) (Nat.le_succ _)
        · exact .refused
    · have other (cs : List Char) : highest low (n, c :: cs) = .error .badCount := by
        unfold highest
        split
        · cases ‹(n, c :: cs) = _›
          exact absurd rfl ends
        · rfl
      rw [other, other]
      exact .refused

theorem countUpTo_agree (verbose : Bool) (low : Nat) (closed : Closed cs cs') :
    Agree Never cs.length (countUpTo verbose low cs).toOption (countUpTo verbose low cs').toOption := by
  have counted (cs : List Char) (open_ : ∀ rest, cs ≠ '}' :: rest) :
      countUpTo verbose low cs = highest low (readCount verbose cs) := by
    unfold countUpTo
    split
    · exact absurd rfl (open_ _)
    · rfl
  have behind (closed : Closed cs cs') (h : ∀ rest, cs ≠ '}' :: rest) (h' : ∀ rest, cs' ≠ '}' :: rest) :
      Agree Never cs.length (countUpTo verbose low cs).toOption (countUpTo verbose low cs').toOption := by
    obtain ⟨same, left, shorter⟩ := readCount_closed verbose closed
    rw [counted cs h, counted cs' h', ← Prod.eta (readCount verbose cs'), same]
    exact (highest_agree low _ left).mono shorter
  cases closed with
  | taken => exact behind .taken (by simp) (by simp)
  | mark => exact behind .mark (by simp) (by simp)
  | cons c cs =>
    by_cases ends : c = '}'
    · subst ends
      exact .read (.append cs) (Nat.le_succ _)
    · exact behind (.cons c cs) (by simp [ends]) (by simp [ends])

theorem readCounts_agree (verbose : Bool) (closed : Closed cs cs') :
    Agree Never cs.length (readCounts verbose cs).toOption (readCounts verbose cs').toOption := by
  obtain ⟨same, left, shorter⟩ := readCount_closed verbose (Blank.drop_closed verbose closed)
  have dropped := Blank.length_drop_le verbose cs
  unfold readCounts
  generalize readCount verbose (Blank.drop verbose cs) = counted at same left shorter ⊢
  generalize readCount verbose (Blank.drop verbose cs') = counted' at same left ⊢
  obtain ⟨n, rest⟩ := counted
  obtain ⟨n', rest'⟩ := counted'
  dsimp only at same left shorter
  subst same
  rcases n' with e | _ | low
  · exact .refused
  · exact .refused
  · cases left with
    | taken => exact .refused
    | mark => exact .refused
    | cons c ds =>
      rw [List.length_cons] at shorter
      by_cases ends : c = '}'
      · subst ends
        exact .read (.append ds) (by omega)
      · by_cases comma : c = ','
        · subst comma
          have behind := Blank.length_drop_le verbose ds
          exact (countUpTo_agree verbose low (Blank.drop_closed verbose (.append ds))).mono (by omega)
        · simpa [ends, comma, Except.toOption] using Agree.refused

/-- A name that has been read up to the closing angle bracket, with what is left from there on. -/
def nameBefore (found : List Char × List Char) : Reading (List Char) :=
  match found with
  | (first :: name, '>' :: rest) =>
    if (first = '_' ∨ Unicode.isAlphabetic first) ∧
        name.all fun c => c = '_' || c = '.' || c = '[' || c = ']' || Unicode.isAlphanumeric c then
      .ok (first :: name, rest)
    else .error .badGroupName
  | _ => .error .badGroupName

theorem readName_agree (closed : Closed cs cs') :
    Agree Never cs.length (readName cs).toOption (readName cs').toOption := by
  rcases closed.eq_append_or with rfl | ⟨rfl, rfl⟩
  · have shorter := Blank.length_span_le false (· != '>') false cs
    have unfolded (cs : List Char) : readName cs = nameBefore (Blank.span false (· != '>') false cs) := by
      rw [← Blank.span_eq]
      rfl
    rw [unfolded, unfolded]
    rcases own : Blank.span false (· != '>') false cs with ⟨name, _ | ⟨c, rest⟩⟩
    · -- without an angle bracket, neither is there one behind the bracket
      obtain ⟨name', composed⟩ := Blank.span_end rfl own
      have unended (name : List Char) : nameBefore (name, []) = .error .badGroupName := by
        cases name <;> rfl
      rw [composed, unended, unended]
      exact .refused
    · rw [own] at shorter
      rw [Blank.span_append own]
      cases name with
      | nil => exact .refused
      | cons first name =>
        by_cases ends : c = '>'
        · subst ends
          simp only [nameBefore]
          split
          · exact .read (.append rest) (Nat.le_of_succ_le shorter)
          · exact .refused
        · simpa [nameBefore, ends, Except.toOption] using Agree.refused
  · exact .refused

/-- Where the text ends among flags, the bracket ends the setting. -/
theorem readFlags_agree (seen : List Char) (negated dangling : Bool) (flags : Flags)
    (closed : Closed cs cs') :
    Agree AtEnd cs.length (readFlags seen negated dangling flags cs).toOption
      (readFlags seen negated dangling flags cs').toOption := by
  rcases closed.eq_append_or with rfl | ⟨rfl, rfl⟩
  · induction cs generalizing seen negated dangling flags with
    | nil =>
      have last : readFlags seen negated dangling flags [')'] =
          if dangling || seen.isEmpty then .error .badFlags else .ok ((flags, true), []) := by
        simp [readFlags]
      rw [List.nil_append, last]
      split
      · exact .refused
      · exact .lost rfl
    | cons c cs ih =>
      have later (seen : List Char) (negated dangling : Bool) (flags : Flags) :=
        (ih seen negated dangling flags (.append cs)).mono (Nat.le_succ _)
      rw [List.cons_append]
      unfold readFlags
      by_cases colon : c = ':'
      · rw [if_pos colon, if_pos colon]
        split
        · exact .refused
        · exact .read (.append cs) (Nat.le_succ _)
      · rw [if_neg colon, if_neg colon]
        by_cases bracket : c = ')'
        · rw [if_pos bracket, if_pos bracket]
          split
          · exact .refused
          · exact .read (.append cs) (Nat.le_succ _)
        · rw [if_neg bracket, if_neg bracket]
          by_cases hyphen : c = '-'
          · rw [if_pos hyphen, if_pos hyphen]
            split
            · exact .refused
            · exact later seen true true flags
          · rw [if_neg hyphen, if_neg hyphen]
            split
            · exact .refused
            · cases flags.set? c (!negated) with
              | none => exact .refused
              | some flags => exact later (c :: seen) negated false flags
  · exact .refused

/-- A group that remembers what it matches under the name that is next. -/
def State.nameGroup (s : State) (cs : List Char) : Reading State :=
  match readName cs with
  | .error e => .error e
  | .ok (name, rest) =>
    if s.names.contains name then .error .badGroupName
    else .ok ({ s.enterNumbered with names := name :: s.names }, rest)

/-- Flags, to be set or for the group. -/
def State.flagGroup (s : State) (cs : List Char) : Reading State :=
  match readFlags [] false false s.flags cs with
  | .error e => .error e
  | .ok ((flags, true), rest) =>
    .ok ({ s with flags := flags, level := { s.level with items := .setting :: s.level.items } }, rest)
  | .ok ((flags, false), rest) => .ok (s.enter flags none, rest)

theorem nameGroup_agree (s : State) (closed : Closed cs cs') :
    Agree Never cs.length (s.nameGroup cs).toOption (s.nameGroup cs').toOption := by
  unfold State.nameGroup
  rcases (readName_agree closed).except with
    ⟨name, rest, rest', own, composed, left, shorter⟩ | ⟨e, e', own, composed⟩ |
    ⟨e, name, rest', own, composed, never⟩
  · rw [own, composed]
    simp only
    split
    · exact .refused
    · exact .read left shorter
  · rw [own, composed]
    exact .refused
  · exact never.elim

theorem flagGroup_agree (s : State) (closed : Closed cs cs') :
    Agree AtEnd cs.length (s.flagGroup cs).toOption (s.flagGroup cs').toOption := by
  unfold State.flagGroup
  rcases (readFlags_agree [] false false s.flags closed).except with
    ⟨⟨flags, sets⟩, rest, rest', own, composed, left, shorter⟩ | ⟨e, e', own, composed⟩ |
    ⟨e, ⟨flags, sets⟩, rest', own, composed, atEnd⟩
  · rw [own, composed]
    cases sets <;> exact .read left shorter
  · rw [own, composed]
    exact .refused
  · rw [own, composed]
    cases sets <;> exact .lost atEnd

/-- What stands behind the angle bracket of a group. -/
def State.angleGroup (s : State) (cs : List Char) : Reading State :=
  if cs.head? = some '=' ∨ cs.head? = some '!' then .error .lookAround else s.nameGroup cs

/-- What stands behind the question mark of a group. -/
def State.markedGroup (s : State) : List Char → Reading State
  | [] => s.flagGroup []
  | c :: cs =>
    if c = '=' ∨ c = '!' then .error .lookAround
    else if c = '<' then s.angleGroup cs
    else if c = 'P' ∧ cs.head? = some '<' then s.nameGroup cs.tail
    else s.flagGroup (c :: cs)

/-- What stands behind the bracket of a group, and the blanks there. -/
def State.groupFrom (s : State) : List Char → Reading State
  | [] => .ok (s.enterNumbered, [])
  | c :: cs => if c = '?' then s.markedGroup cs else .ok (s.enterNumbered, c :: cs)

theorem openGroup_eq (s : State) (cs : List Char) :
    s.openGroup cs = s.groupFrom (Blank.drop s.flags.verbose cs) := by
  unfold State.openGroup
  generalize Blank.drop s.flags.verbose cs = ds
  split
  case h_6 rest noEqual noMark =>
    have named : ¬(rest.head? = some '=' ∨ rest.head? = some '!') := by
      simp only [List.head?_eq_some_iff, not_or, not_exists]
      exact ⟨noEqual, noMark⟩
    change s.nameGroup rest = s.angleGroup rest
    rw [State.angleGroup, if_neg named]
  case h_7 _ rest noEqual noMark _ _ noNamed noAngle =>
    change s.flagGroup rest = s.markedGroup rest
    cases rest with
    | nil => rfl
    | cons c cs =>
      have around : ¬(c = '=' ∨ c = '!') := by
        rintro (rfl | rfl)
        · exact noEqual cs rfl
        · exact noMark cs rfl
      have angle : c ≠ '<' := by
        rintro rfl
        exact noAngle cs rfl
      have named : ¬(c = 'P' ∧ cs.head? = some '<') := by
        rintro ⟨rfl, first⟩
        obtain ⟨rest, rfl⟩ := List.head?_eq_some_iff.1 first
        exact noNamed rest rfl
      rw [State.markedGroup, if_neg around, if_neg angle, if_neg named]
  case h_8 unmarked =>
    cases ds with
    | nil => rfl
    | cons c cs =>
      have plain : c ≠ '?' := by
        rintro rfl
        exact unmarked cs rfl
      rw [State.groupFrom, if_neg plain]
  all_goals rfl

theorem angleGroup_agree (s : State) (closed : Closed cs cs') :
    Agree Never cs.length (s.angleGroup cs).toOption (s.angleGroup cs').toOption := by
  unfold State.angleGroup
  cases closed with
  | taken => exact nameGroup_agree s .taken
  | mark => exact nameGroup_agree s .mark
  | cons c cs =>
    rw [List.head?_cons, List.head?_cons]
    split
    · exact .refused
    · exact nameGroup_agree s (.cons c cs)

theorem markedGroup_agree (s : State) (closed : Closed cs cs') :
    Agree AtEnd cs.length (s.markedGroup cs).toOption (s.markedGroup cs').toOption := by
  cases closed with
  | taken => exact flagGroup_agree s .taken
  | mark => exact flagGroup_agree s .mark
  | cons c cs =>
    simp only [State.markedGroup]
    by_cases around : c = '=' ∨ c = '!'
    · rw [if_pos around, if_pos around]
      exact .refused
    · rw [if_neg around, if_neg around]
      by_cases angle : c = '<'
      · rw [if_pos angle, if_pos angle]
        exact ((angleGroup_agree s (.append cs)).mono (Nat.le_succ _)).of_never
      · rw [if_neg angle, if_neg angle]
        cases cs with
        | nil =>
          have first : ¬(c = 'P' ∧ ([] : List Char).head? = some '<') := by simp
          have first' : ¬(c = 'P' ∧ ([] ++ [')']).head? = some '<') := by simp
          rw [if_neg first, if_neg first']
          exact flagGroup_agree s (.append [c])
        | cons d ds =>
          rw [List.cons_append, List.head?_cons, List.head?_cons]
          split
          · have shorter : ds.length ≤ (c :: d :: ds).length := Nat.le_succ_of_le (Nat.le_succ _)
            exact ((nameGroup_agree s (.append ds)).mono shorter).of_never
          · exact flagGroup_agree s (.append (c :: d :: ds))

theorem openGroup_agree (s : State) (closed : Closed cs cs') :
    Agree AtEnd cs.length (s.openGroup cs).toOption (s.openGroup cs').toOption := by
  have left := Blank.drop_closed s.flags.verbose closed
  have dropped := Blank.length_drop_le s.flags.verbose cs
  rw [openGroup_eq, openGroup_eq]
  refine Agree.mono ?_ dropped
  generalize Blank.drop s.flags.verbose cs = own at left ⊢
  generalize Blank.drop s.flags.verbose cs' = composed at left ⊢
  cases left with
  | taken => exact .read .taken (Nat.le_refl _)
  | mark => exact .read .mark (Nat.le_refl _)
  | cons c cs =>
    simp only [State.groupFrom]
    split
    · exact (markedGroup_agree s (.append cs)).mono (Nat.le_succ _)
    · exact .read (.cons c cs) (Nat.le_refl _)

/-! ## Steps -/

/-- What is lost of a step: all has been read, or the bracket made a brace stand for itself that the next
step reads as the start of a count. -/
def Stray (t : State) (rest' : List Char) : Prop := rest' = [] ∨ Dangling t.flags.verbose rest'

theorem step_agree [PatternLibrary] (s : State) (c : Char) (closed : Closed cs cs') :
    Agree Stray cs.length (step s c cs).toOption (step s c cs').toOption := by
  have repeated (lazily : Bool) (low : Nat) (high : Option Nat) {rest rest' : List Char}
      (left : Closed rest rest') (shorter : rest.length ≤ cs.length) :
      Agree Stray cs.length ((s.repeated lazily low high).map (·, rest)).toOption
        ((s.repeated lazily low high).map (·, rest')).toOption :=
    .made left shorter _
  obtain ⟨lazy, afterLazy, lazyShorter⟩ := readLazy_closed closed
  unfold step
  split
  · exact (openGroup_agree s closed).imp fun _ _ => .inl
  · exact .made closed (Nat.le_refl _) _
  · exact .read closed (Nat.le_refl _)
  · rcases (Bracket.read_agree s.flags closed).except with
      ⟨found, rest, rest', own, composed, left, shorter⟩ | ⟨e, e', own, composed⟩ |
      ⟨e, found, rest', own, composed, never⟩
    · rw [own, composed]
      exact .read left shorter
    · rw [own, composed]
      exact .refused
    · exact never.elim
  · simp only [lazy]
    exact repeated _ _ _ afterLazy lazyShorter
  · simp only [lazy]
    exact repeated _ _ _ afterLazy lazyShorter
  · simp only [lazy]
    exact repeated _ _ _ afterLazy lazyShorter
  · rcases (readCounts_agree s.flags.verbose closed).except with
      ⟨⟨low, high⟩, rest, rest', own, composed, left, shorter⟩ | ⟨e, e', own, composed⟩ |
      ⟨e, counts, rest', own, composed, never⟩
    · obtain ⟨lazy, afterLazy, lazyShorter⟩ := readLazy_closed (Blank.drop_closed s.flags.verbose left)
      have dropped := Blank.length_drop_le s.flags.verbose rest
      rw [own, composed]
      simp only [lazy]
      exact repeated _ _ _ afterLazy (by omega)
    · rw [own, composed]
      exact .refused
    · exact never.elim
  · rcases (Escape.read_agree s.flags closed).except with
      ⟨element, rest, rest', own, composed, left, shorter⟩ | ⟨e, e', own, composed⟩ |
      ⟨e, element, rest', own, composed, astray⟩
    · rw [own, composed]
      exact .read left shorter
    · rw [own, composed]
      exact .refused
    · rw [own, composed]
      exact .lost (astray.imp_right And.right)
  · cases dot s.flags with
    | error e => exact .refused
    | ok any => exact .read closed (Nat.le_refl _)
  all_goals exact .read closed (Nat.le_refl _)

end Reader

end GoScan
