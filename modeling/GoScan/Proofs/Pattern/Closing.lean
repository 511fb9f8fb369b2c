import GoScan.Pattern.Reader
import Mathlib.Data.List.TakeDrop

/-!
# What a closing bracket behind a text changes in what is read of it

A text is read next to the same text with a closing bracket behind it. Whatever part of a pattern is read
of the one is read of the other, and the bracket is still there, or a comment has taken it. If a part of
the one is refused, the other may still go on, but then it has read the bracket as what was missing.

* `Reader.Closed`, `Reader.Agree`: what is left of the texts, and what is read of them;
* `Blank.drop_closed`, `Blank.span_append`: blanks and what stands between them;
* `Escape.read_agree`: escape sequences.
-/

namespace GoScan

namespace Reader

/-- What is left of a text, and of the text with a closing bracket behind it. A comment may have taken
the bracket with the last of the text. -/
inductive Closed : List Char → List Char → Prop where
  | taken : Closed [] []
  | mark : Closed [] [')']
  | cons (c : Char) (cs : List Char) : Closed (c :: cs) (c :: (cs ++ [')']))

theorem Closed.append (cs : List Char) : Closed cs (cs ++ [')']) := by
  cases cs with
  | nil => exact .mark
  | cons c cs => exact .cons c cs

/-- The bracket is behind the text, or it has been taken with the last of it. -/
theorem Closed.eq_append_or {cs cs' : List Char} (closed : Closed cs cs') :
    cs' = cs ++ [')'] ∨ cs = [] ∧ cs' = [] := by
  cases closed with
  | taken => exact .inr ⟨rfl, rfl⟩
  | mark => exact .inl rfl
  | cons c cs => exact .inl rfl

theorem Closed.length_le {cs cs' : List Char} (closed : Closed cs cs') : cs'.length ≤ cs.length + 1 := by
  cases closed <;> simp

/-- What is read of a text next to what is read of it with the bracket behind it. Of the two the first may
fail where the second does not, if what the second then gives is lost. -/
inductive Agree {α : Type} (lost : α → List Char → Prop) (n : Nat) :
    Option (α × List Char) → Option (α × List Char) → Prop where
  | read {a : α} {rest rest' : List Char} (closed : Closed rest rest') (shorter : rest.length ≤ n) :
    Agree lost n (some (a, rest)) (some (a, rest'))
  | refused : Agree lost n none none
  | lost {a : α} {rest' : List Char} (given : lost a rest') : Agree lost n none (some (a, rest'))

/-- Nothing is lost: if the text is refused, so is the text with the bracket behind it. -/
def Never {α : Type} : α → List Char → Prop := fun _ _ => False

/-- Nothing is left, the bracket having been read as a part of what the text lacks. -/
def AtEnd {α : Type} : α → List Char → Prop := fun _ rest' => rest' = []

namespace Agree

variable {α β : Type} {lost : α → List Char → Prop} {n m : Nat} {r r' : Option (α × List Char)}

/-- The three cases for readings that say why they fail. -/
theorem except {ε : Type} {r r' : Except ε (α × List Char)} (h : Agree lost n r.toOption r'.toOption) :
    (∃ a rest rest', r = .ok (a, rest) ∧ r' = .ok (a, rest') ∧ Closed rest rest' ∧ rest.length ≤ n) ∨
      (∃ e e', r = .error e ∧ r' = .error e') ∨
      ∃ e a rest', r = .error e ∧ r' = .ok (a, rest') ∧ lost a rest' := by
  cases r with
  | error e =>
    cases r' with
    | error e' => exact .inr (.inl ⟨e, e', rfl, rfl⟩)
    | ok t' =>
      cases h with
      | lost given => exact .inr (.inr ⟨e, _, _, rfl, rfl, given⟩)
  | ok t =>
    cases r' with
    | error e' => cases h
    | ok t' =>
      cases h with
      | read closed shorter => exact .inl ⟨_, _, _, rfl, rfl, closed, shorter⟩

theorem mono (h : Agree lost n r r') (more : n ≤ m) : Agree lost m r r' := by
  cases h with
  | read closed shorter => exact .read closed (Nat.le_trans shorter more)
  | refused => exact .refused
  | lost given => exact .lost given

/-- What is lost of the one reading is lost of the other. -/
theorem imp {lost' : α → List Char → Prop} (h : Agree lost n r r')
    (given : ∀ a rest', lost a rest' → lost' a rest') : Agree lost' n r r' := by
  cases h with
  | read closed shorter => exact .read closed shorter
  | refused => exact .refused
  | lost here => exact .lost (given _ _ here)

theorem of_never (h : Agree Never n r r') : Agree lost n r r' := h.imp fun _ _ never => never.elim

/-- What does not depend on what is left is the same, or it is refused both times. -/
theorem made {ε : Type} {rest rest' : List Char} (closed : Closed rest rest') (shorter : rest.length ≤ n)
    (e : Except ε α) : Agree lost n (e.map (·, rest)).toOption (e.map (·, rest')).toOption := by
  cases e with
  | error e => exact .refused
  | ok a => exact .read closed shorter

theorem lost_made {ε : Type} {rest' : List Char} (given : ∀ a, lost a rest') (e : Except ε α) :
    Agree lost n none (e.map (·, rest')).toOption := by
  cases e with
  | error e => exact .refused
  | ok a => exact .lost (given a)

/-- What has been read is made into something, or refused. -/
theorem filterMap (f : α → Option β) (h : Agree AtEnd n r r') :
    Agree AtEnd n (r.bind fun t => (f t.1).map (·, t.2)) (r'.bind fun t => (f t.1).map (·, t.2)) := by
  cases h with
  | @read a _ _ closed shorter =>
    cases made : f a with
    | none => simpa [made] using Agree.refused
    | some b => simpa [made] using Agree.read closed shorter
  | refused => exact .refused
  | @lost a _ atEnd =>
    cases made : f a with
    | none => simpa [made] using Agree.refused
    | some b =>
      have left : AtEnd b _ := atEnd
      simpa [made] using Agree.lost left

theorem map {lost' : β → List Char → Prop} (h : Agree lost n r r') (f : α → β)
    (given : ∀ a rest', lost a rest' → lost' (f a) rest') :
    Agree lost' n (r.map fun t => (f t.1, t.2)) (r'.map fun t => (f t.1, t.2)) := by
  cases h with
  | read closed shorter => exact .read closed shorter
  | refused => exact .refused
  | lost here => exact .lost (given _ _ here)

end Agree

end Reader

open Reader (Closed Agree Never AtEnd)

variable {cs cs' : List Char}

/-! ## Blanks -/

theorem dropWhile_closed {p : Char → Bool} (stops : p ')' = false) (closed : Closed cs cs') :
    Closed (cs.dropWhile p) (cs'.dropWhile p) := by
  rcases closed.eq_append_or with rfl | ⟨rfl, rfl⟩
  · rw [List.dropWhile_append]
    split
    · rename_i empty
      rw [List.isEmpty_iff.1 empty, List.dropWhile_cons_of_neg (by simp [stops])]
      exact .mark
    · exact .append _
  · exact .taken

namespace Blank

@[simp] theorem drop_nil (verbose : Bool) : drop verbose [] = [] := by
  cases verbose <;> rfl

@[simp] theorem drop_mark (verbose : Bool) : drop verbose [')'] = [')'] := by
  cases verbose <;> rfl

/-- A character is passed over, or the text starts with it. -/
theorem skip_cons (comment : Bool) (c : Char) :
    (∃ comment', ∀ cs, skip comment (c :: cs) = skip comment' cs) ∨
      ∀ cs, skip comment (c :: cs) = c :: cs := by
  by_cases inside : comment
  · exact .inl ⟨c != '\n', fun cs => by rw [skip, if_pos inside]⟩
  · by_cases blank : Unicode.isWhiteSpace c
    · exact .inl ⟨false, fun cs => by rw [skip, if_neg inside, if_pos blank]⟩
    · by_cases sign : c = '#'
      · exact .inl ⟨true, fun cs => by rw [skip, if_neg inside, if_neg blank, if_pos sign]⟩
      · exact .inr fun cs => by rw [skip, if_neg inside, if_neg blank, if_neg sign]

theorem length_skip_le (comment : Bool) (cs : List Char) : (skip comment cs).length ≤ cs.length := by
  induction cs generalizing comment with
  | nil => exact Nat.le_refl 0
  | cons c cs ih =>
    rcases skip_cons comment c with ⟨comment', past⟩ | starts
    · rw [past]
      exact Nat.le_succ_of_le (ih comment')
    · exact Nat.le_of_eq (congrArg List.length (starts cs))

theorem length_drop_le (verbose : Bool) (cs : List Char) : (drop verbose cs).length ≤ cs.length := by
  cases verbose with
  | false => exact Nat.le_refl _
  | true => exact length_skip_le false cs

theorem skip_closed (comment : Bool) (cs : List Char) :
    Closed (skip comment cs) (skip comment (cs ++ [')'])) := by
  induction cs generalizing comment with
  | nil =>
    cases comment with
    | true => exact .taken
    | false => exact .mark
  | cons c cs ih =>
    rw [List.cons_append]
    rcases skip_cons comment c with ⟨comment', past⟩ | starts
    · rw [past, past]
      exact ih comment'
    · rw [starts, starts]
      exact .cons c cs

theorem drop_closed (verbose : Bool) (closed : Closed cs cs') :
    Closed (drop verbose cs) (drop verbose cs') := by
  cases verbose with
  | false => exact closed
  | true =>
    rcases closed.eq_append_or with rfl | ⟨rfl, rfl⟩
    · exact skip_closed false cs
    · exact .taken

variable {verbose : Bool} {p : Char → Bool} {comment : Bool}

/-- A character is passed over, or it is found, or the span stops at it. -/
theorem span_cons (verbose : Bool) (p : Char → Bool) (comment : Bool) (c : Char) :
    (∃ comment', ∀ cs, span verbose p comment (c :: cs) = span verbose p comment' cs) ∨
      (∀ cs, span verbose p comment (c :: cs) =
        (c :: (span verbose p false cs).1, (span verbose p false cs).2)) ∨
      ∀ cs, span verbose p comment (c :: cs) = ([], c :: cs) := by
  by_cases inside : comment
  · exact .inl ⟨c != '\n', fun cs => by rw [span, if_pos inside]⟩
  · by_cases blank : verbose && Unicode.isWhiteSpace c
    · exact .inl ⟨false, fun cs => by rw [span, if_neg inside, if_pos blank]⟩
    · by_cases sign : verbose && c = '#'
      · exact .inl ⟨true, fun cs => by rw [span, if_neg inside, if_neg blank, if_pos sign]⟩
      · by_cases goesOn : p c
        · exact .inr (.inl fun cs => by
            rw [span, if_neg inside, if_neg blank, if_neg sign, if_pos goesOn])
        · exact .inr (.inr fun cs => by
            rw [span, if_neg inside, if_neg blank, if_neg sign, if_neg goesOn])

theorem length_span_le (verbose : Bool) (p : Char → Bool) (comment : Bool) (cs : List Char) :
    (span verbose p comment cs).2.length ≤ cs.length := by
  induction cs generalizing comment with
  | nil => exact Nat.le_refl 0
  | cons c cs ih =>
    rcases span_cons verbose p comment c with ⟨comment', past⟩ | found | stops
    · rw [past]
      exact Nat.le_succ_of_le (ih comment')
    · rw [found]
      exact Nat.le_succ_of_le (ih false)
    · exact Nat.le_of_eq (congrArg (·.2.length) (stops cs))

/-- Where a span stops at a character it stops there whatever stands behind. -/
theorem span_append {found : List Char} {d : Char} {rest : List Char}
    (own : span verbose p comment cs = (found, d :: rest)) (more : List Char) :
    span verbose p comment (cs ++ more) = (found, d :: (rest ++ more)) := by
  induction cs generalizing comment found with
  | nil => cases own
  | cons c cs ih =>
    rw [List.cons_append]
    rcases span_cons verbose p comment c with ⟨comment', past⟩ | takes | stops
    · rw [past] at own ⊢
      exact ih own
    · rw [takes] at own ⊢
      obtain ⟨rfl, left⟩ := Prod.mk.inj own
      rw [ih (Prod.ext rfl left)]
    · rw [stops] at own ⊢
      cases own
      rfl

theorem span_mark (verbose : Bool) (p : Char → Bool) :
    span verbose p false [')'] = if p ')' then ([')'], []) else ([], [')']) := by
  have noBlank : (verbose && Unicode.isWhiteSpace ')') = false := by cases verbose <;> rfl
  simp [span, noBlank]

/-- A span that takes all of the text, and would take a bracket, takes the bracket behind it, too. -/
theorem span_end (takes : p ')') {found : List Char} (own : span verbose p comment cs = (found, [])) :
    ∃ found', span verbose p comment (cs ++ [')']) = (found', []) := by
  induction cs generalizing comment found with
  | nil =>
    cases comment with
    | true => exact ⟨[], rfl⟩
    | false =>
      rw [List.nil_append, span_mark, if_pos takes]
      exact ⟨_, rfl⟩
  | cons c cs ih =>
    rw [List.cons_append]
    rcases span_cons verbose p comment c with ⟨comment', past⟩ | takes | stops
    · rw [past] at own ⊢
      exact ih own
    · rw [takes] at own ⊢
      obtain ⟨found', all⟩ := ih (Prod.ext rfl (Prod.mk.inj own).2)
      rw [all]
      exact ⟨_, rfl⟩
    · rw [stops] at own
      cases own

theorem span_eq (p : Char → Bool) (cs : List Char) : cs.span p = span false p false cs := by
  rw [List.span_eq_takeWhile_dropWhile]
  induction cs with
  | nil => rfl
  | cons c cs ih =>
    cases goesOn : p c with
    | true => simp [span, goesOn, ← ih]
    | false => simp [span, goesOn]

/-- A span of characters that a bracket is none of finds the same. -/
theorem span_closed (verbose : Bool) (p : Char → Bool) (comment : Bool) (stops : p ')' = false)
    (closed : Closed cs cs') :
    (span verbose p comment cs').1 = (span verbose p comment cs).1 ∧
      Closed (span verbose p comment cs).2 (span verbose p comment cs').2 := by
  rcases closed.eq_append_or with rfl | ⟨rfl, rfl⟩
  · induction cs generalizing comment with
    | nil =>
      cases comment with
      | true => exact ⟨rfl, .taken⟩
      | false =>
        rw [List.nil_append, span_mark, if_neg (by simp [stops])]
        exact ⟨rfl, .mark⟩
    | cons c cs ih =>
      rw [List.cons_append]
      rcases span_cons verbose p comment c with ⟨comment', past⟩ | found | here
      · rw [past, past]
        exact ih comment' (.append cs)
      · obtain ⟨same, left⟩ := ih false (.append cs)
        rw [found, found, same]
        exact ⟨rfl, left⟩
      · rw [here, here]
        exact ⟨rfl, .cons c cs⟩
  · exact ⟨rfl, .taken⟩

end Blank

/-! ## Escape sequences -/

namespace Escape

variable {flags : Flags} {verbose : Bool}

theorem takeDigits_agree (verbose : Bool) (count : Nat) (closed : Closed cs cs') :
    Agree AtEnd cs.length (takeDigits verbose count cs) (takeDigits verbose count cs') := by
  induction count generalizing cs cs' with
  | zero => exact .read closed (Nat.le_refl _)
  | succ count ih =>
    cases closed with
    | taken => exact .refused
    | mark =>
      rw [takeDigits, takeDigits, Blank.drop_nil]
      cases count with
      | zero => exact .lost rfl
      | succ count => exact .refused
    | cons c cs =>
      have later := ih (Blank.drop_closed verbose (.append cs))
      have shorter := Nat.le_succ_of_le (Blank.length_drop_le verbose cs)
      exact (later.mono shorter).map _ fun _ _ atEnd => atEnd

theorem braced?_agree (verbose : Bool) (closed : Closed cs cs') :
    Agree Never cs.length (braced? verbose cs) (braced? verbose cs') := by
  rcases closed.eq_append_or with rfl | ⟨rfl, rfl⟩
  · have shorter := Blank.length_span_le verbose (· != '}') false cs
    rcases own : Blank.span verbose (· != '}') false cs with ⟨inside, _ | ⟨d, rest⟩⟩
    · -- without a closing brace, neither is there one behind the bracket
      obtain ⟨inside', composed⟩ := Blank.span_end rfl own
      rw [braced?, braced?, own, composed]
      exact .refused
    · rw [own] at shorter
      rw [braced?, braced?, own, Blank.span_append own]
      by_cases brace : d = '}'
      · subst brace
        exact .read (.append rest) (Nat.le_of_succ_le shorter)
      · simpa [brace] using Agree.refused
  · exact .refused

/-- The digits of a code point, with or without braces. -/
def written? (verbose : Bool) (digits : Nat) : List Char → Option (List Char × List Char)
  | '{' :: cs => braced? verbose cs
  | cs => takeDigits verbose digits cs

theorem written?_agree (verbose : Bool) (digits : Nat) (closed : Closed cs cs') :
    Agree AtEnd cs.length (written? verbose digits cs) (written? verbose digits cs') := by
  cases closed with
  | taken => exact takeDigits_agree verbose digits .taken
  | mark => exact takeDigits_agree verbose digits .mark
  | cons c cs =>
    by_cases brace : c = '{'
    · subst brace
      exact ((braced?_agree verbose (.append cs)).mono (Nat.le_succ _)).of_never
    · have plain (cs : List Char) : written? verbose digits (c :: cs) = takeDigits verbose digits (c :: cs) := by
        simp [written?, brace]
      rw [plain, plain]
      exact takeDigits_agree verbose digits (.cons c cs)

/-- The character that the digits write. -/
def decoded : Option (List Char × List Char) → Except PatternError (Element × List Char)
  | none => .error .badCodePoint
  | some (written, rest) => (ofHex? written).map (·, rest)

theorem codePoint_eq (verbose : Bool) (digits : Nat) (cs : List Char) :
    codePoint verbose digits cs = decoded (written? verbose digits (Blank.drop verbose cs)) := rfl

theorem codePoint_agree (verbose : Bool) (digits : Nat) (closed : Closed cs cs') :
    Agree AtEnd cs.length (codePoint verbose digits cs).toOption (codePoint verbose digits cs').toOption := by
  have rewritten (cs : List Char) : (codePoint verbose digits cs).toOption =
      (written? verbose digits (Blank.drop verbose cs)).bind fun t =>
        (ofHex? t.1).toOption.map (·, t.2) := by
    rw [codePoint_eq]
    rcases written? verbose digits (Blank.drop verbose cs) with _ | ⟨written, rest⟩
    · rfl
    · cases h : ofHex? written <;> simp [decoded, h, Except.map, Except.toOption]
  rw [rewritten, rewritten]
  have agree := written?_agree verbose digits (Blank.drop_closed verbose closed)
  exact (agree.mono (Blank.length_drop_le verbose cs)).filterMap fun written => (ofHex? written).toOption

/-- The character that two digits write, or those in braces. -/
def decodedTwo? (flags : Flags) (braced : Bool) (written : List Char) : Option Element :=
  (ofHex? written).toOption.filter fun element => braced || element.isWithin flags

theorem toOption_twoDigits (flags : Flags) (cs : List Char) : (twoDigits flags cs).toOption =
    (written? flags.verbose 2 (Blank.drop flags.verbose cs)).bind fun t =>
      (decodedTwo? flags ((Blank.drop flags.verbose cs).head? = some '{') t.1).map (·, t.2) := by
  rw [twoDigits, codePoint_eq]
  rcases written? flags.verbose 2 (Blank.drop flags.verbose cs) with _ | ⟨written, rest⟩
  · rfl
  · cases h : ofHex? written with
    | error e => simp [decoded, decodedTwo?, h, Except.map, Except.toOption]
    | ok element =>
      simp only [decoded, decodedTwo?, h, Except.map, Except.toOption, Option.bind_some, Option.filter_some]
      by_cases taken : (decide ((Blank.drop flags.verbose cs).head? = some '{') || element.isWithin flags) = true
      · simp only [taken, if_true, Option.map_some]
      · simp only [taken, if_false, Option.map_none, Bool.false_eq_true]

theorem twoDigits_agree (flags : Flags) (closed : Closed cs cs') :
    Agree AtEnd cs.length (twoDigits flags cs).toOption (twoDigits flags cs').toOption := by
  have left := Blank.drop_closed flags.verbose closed
  have shorter := Blank.length_drop_le flags.verbose cs
  rw [toOption_twoDigits, toOption_twoDigits]
  refine Agree.mono ?_ shorter
  generalize Blank.drop flags.verbose cs = own at left ⊢
  generalize Blank.drop flags.verbose cs' = composed at left ⊢
  have agree := written?_agree flags.verbose 2 left
  cases left with
  | taken => exact agree.filterMap (decodedTwo? flags false)
  | mark => exact agree.filterMap (decodedTwo? flags false)
  | cons c cs => exact agree.filterMap (decodedTwo? flags (some c = some '{'))

/-- The name of a property, a single letter or between braces. -/
def name? (verbose : Bool) : List Char → Option (List Char × List Char)
  | '{' :: cs => braced? verbose cs
  | c :: cs => some ([c], cs)
  | [] => none

theorem name?_agree (verbose : Bool) (closed : Closed cs cs') :
    Agree AtEnd cs.length (name? verbose cs) (name? verbose cs') := by
  cases closed with
  | taken => exact .refused
  | mark => exact .lost rfl
  | cons c cs =>
    by_cases brace : c = '{'
    · subst brace
      exact ((braced?_agree verbose (.append cs)).mono (Nat.le_succ _)).of_never
    · have letter (cs : List Char) : name? verbose (c :: cs) = some ([c], cs) := by
        simp [name?]
      rw [letter, letter]
      exact .read (.append cs) (Nat.le_succ _)

/-- The set of the characters that have the property of this name. -/
def named [PatternLibrary] (flags : Flags) (negated : Bool) :
    Option (List Char × List Char) → Except PatternError (Element × List Char)
  | none => .error .badProperty
  | some (written, rest) => (propertySet flags negated written).map (.set ·, rest)

theorem property_eq [PatternLibrary] (flags : Flags) (negated : Bool) (cs : List Char) : property flags negated cs =
    named flags negated (name? flags.verbose (Blank.drop flags.verbose cs)) := rfl

theorem property_agree [PatternLibrary] (flags : Flags) (negated : Bool) (closed : Closed cs cs') :
    Agree AtEnd cs.length (property flags negated cs).toOption (property flags negated cs').toOption := by
  let made (written : List Char) : Option Element :=
    (propertySet flags negated written).toOption.map .set
  have rewritten (cs : List Char) : (property flags negated cs).toOption =
      (name? flags.verbose (Blank.drop flags.verbose cs)).bind fun t => (made t.1).map (·, t.2) := by
    rw [property_eq]
    rcases name? flags.verbose (Blank.drop flags.verbose cs) with _ | ⟨written, rest⟩
    · rfl
    · cases h : propertySet flags negated written <;> simp [named, h, made, Except.map, Except.toOption]
  rw [rewritten, rewritten]
  have agree := name?_agree flags.verbose (Blank.drop_closed flags.verbose closed)
  exact (agree.mono (Blank.length_drop_le flags.verbose cs)).filterMap made

/-- A brace with nothing but blanks between it and the bracket. -/
def Dangling (verbose : Bool) (rest' : List Char) : Prop :=
  ∃ inside, rest' = '{' :: inside ∧ Blank.drop verbose inside = [')']

/-- What is lost of an element: all has been read, or the bracket made a brace behind a word boundary
stand for itself. -/
def Astray (verbose : Bool) (e : Element) (rest' : List Char) : Prop :=
  rest' = [] ∨ (∃ ascii, e = .anchor (.word ascii .boundary)) ∧ Dangling verbose rest'

/-- The boundary of the kind that has been read, with what is left from the closing brace on. -/
def kindBefore (ascii : Bool) : List Char × List Char → Except PatternError (Element × List Char)
  | (kind, '}' :: rest) =>
    match boundaryKind? (String.ofList kind) with
    | some kind => .ok (.anchor (.word ascii kind), rest)
    | none => .error .badBoundary
  | _ => .error .badBoundary

theorem kindBefore_agree (ascii : Bool) {found found' : List Char × List Char} (same : found'.1 = found.1)
    (closed : Closed found.2 found'.2) :
    Agree Never found.2.length (kindBefore ascii found).toOption (kindBefore ascii found').toOption := by
  obtain ⟨kind, cs⟩ := found
  obtain ⟨kind', cs'⟩ := found'
  dsimp only at same closed
  subst same
  cases closed with
  | taken => exact .refused
  | mark => exact .refused
  | cons c cs =>
    by_cases ends : c = '}'
    · subst ends
      simp only [kindBefore]
      cases boundaryKind? (String.ofList kind') with
      | none => exact .refused
      | some kind => exact .read (.append cs) (Nat.le_succ _)
    · simpa [kindBefore, ends, Except.toOption] using Agree.refused

theorem boundary_agree (flags : Flags) (closed : Closed cs cs') :
    Agree (Astray flags.verbose) cs.length (boundary flags cs).toOption (boundary flags cs').toOption := by
  cases closed with
  | taken => exact .read .taken (Nat.le_refl _)
  | mark => exact .read .mark (Nat.le_refl _)
  | cons c cs =>
    by_cases brace : c = '{'
    · subst brace
      have left := Blank.drop_closed flags.verbose (.append cs)
      have shorter := Blank.length_drop_le flags.verbose cs
      simp only [boundary]
      generalize Blank.drop flags.verbose cs = own at left shorter ⊢
      generalize composed_eq : Blank.drop flags.verbose (cs ++ [')']) = composed at left ⊢
      cases left with
      | taken => exact .refused
      | mark => exact .lost (.inr ⟨⟨_, rfl⟩, _, rfl, composed_eq⟩)
      | cons d ds =>
        dsimp only
        split
        · exact .read (.cons '{' cs) (Nat.le_refl _)
        · obtain ⟨same, left⟩ := Blank.span_closed flags.verbose (fun c => c.isAlpha || c = '-') false rfl
            (.cons d ds)
          have within := Blank.length_span_le flags.verbose (fun c => c.isAlpha || c = '-') false (d :: ds)
          have more := Nat.le_trans within (Nat.le_succ_of_le shorter)
          exact ((kindBefore_agree flags.ascii same left).mono more).of_never
    · have plain (cs : List Char) :
          boundary flags (c :: cs) = .ok (.anchor (.word flags.ascii .boundary), c :: cs) := by
        simp [boundary, brace]
      rw [plain, plain]
      exact .read (.cons c cs) (Nat.le_refl _)

theorem read_agree [PatternLibrary] (flags : Flags) (closed : Closed cs cs') :
    Agree (Astray flags.verbose) cs.length (read flags cs).toOption (read flags cs').toOption := by
  cases closed with
  | taken => exact .refused
  | mark => exact .lost (.inl rfl)
  | cons c cs =>
    have two := twoDigits_agree flags (.append cs)
    have digits (n : Nat) := codePoint_agree flags.verbose n (.append cs)
    have named (negated : Bool) := property_agree flags negated (.append cs)
    refine Agree.mono ?_ (Nat.le_succ _)
    simp only [read]
    split
    all_goals first
      | exact two.imp fun _ _ => .inl
      | exact (digits _).imp fun _ _ => .inl
      | exact (named _).imp fun _ _ => .inl
      | exact .made (.append cs) (Nat.le_refl _) _
      | exact .read (.append cs) (Nat.le_refl _)
      | skip
    · exact boundary_agree flags (.append cs)
    · split
      · exact .read (.append cs) (Nat.le_refl _)
      · exact .refused

end Escape

end GoScan
