import GoScan.Proofs.Go.Entries
import GoScan.Proofs.Scan.Positions

/-!
# The caret of a report stands under the character at fault

A report takes its line from the line number, cuts off what is blank around it, and counts the caret's
place from the column.

* `Text.exists_line_around`: a place in a text lies in a line, at its column;
* `Text.getElem?_lines`: the lines of a text are what stands between its newlines, but for a carriage
  return at the end;
* `LineExcerpt.getElem?_sourceLine`: the caret is as far to the right as the character;
* `Scanner.caret_under_failure`: so it is for every failure of a scan that is not at a blank.
-/

namespace GoScan

/-! ## Lines -/

namespace Text

/-- The line with this number, counted from one, without the newline behind it. -/
def IsLine (text : List Char) (number : Nat) (line : List Char) : Prop :=
  ∃ before behind, text = before ++ line ++ behind ∧
    (before = [] ∨ before.getLast? = some '\n') ∧ before.count '\n' + 1 = number ∧
    '\n' ∉ line ∧ (behind = [] ∨ behind.head? = some '\n')

variable {mark c : Char} {a b line front rest : List Char} {number : Nat}

theorem split_ne_nil (mark : Char) (cs : List Char) : split mark cs ≠ [] := by
  cases cs with
  | nil => exact List.cons_ne_nil _ _
  | cons c cs =>
    rw [split]
    split
    · exact List.cons_ne_nil _ _
    · cases split mark cs <;> exact List.cons_ne_nil _ _

/-- A mark parts the pieces before it from those behind. -/
theorem split_append_mark (mark : Char) (a b : List Char) :
    split mark (a ++ mark :: b) = split mark a ++ split mark b := by
  induction a with
  | nil =>
    have first : split mark (mark :: b) = [] :: split mark b := by rw [split]; exact if_pos rfl
    exact first
  | cons c a ih =>
    rw [List.cons_append, split, split, ih]
    by_cases here : c = mark
    · rw [if_pos here, if_pos here, List.cons_append]
    · rw [if_neg here, if_neg here]
      cases pieces : split mark a with
      | nil => exact absurd pieces (split_ne_nil mark a)
      | cons piece more => rfl

theorem split_of_not_mem (free : mark ∉ a) : split mark a = [a] := by
  induction a with
  | nil => rfl
  | cons c a ih =>
    have other : c ≠ mark := fun same => free (same ▸ List.mem_cons_self)
    have later := ih fun mem => free (List.mem_cons_of_mem c mem)
    rw [split, if_neg other, later]

theorem length_split (mark : Char) (cs : List Char) :
    (split mark cs).length = cs.count mark + 1 := by
  induction cs with
  | nil => rfl
  | cons c cs ih =>
    rw [split, List.count_cons]
    by_cases here : c = mark
    · simp [here, ih]
    · rw [if_neg here]
      cases pieces : split mark cs with
      | nil => exact absurd pieces (split_ne_nil mark cs)
      | cons piece more =>
        rw [pieces] at ih
        simpa [here] using ih

theorem linesOfPieces_append {pieces more : List (List Char)} (some_more : more ≠ []) :
    linesOfPieces (pieces ++ more) = pieces.map dropReturn ++ linesOfPieces more := by
  induction pieces with
  | nil => rfl
  | cons piece pieces ih =>
    obtain ⟨next, others, whole⟩ := List.exists_cons_of_ne_nil (List.append_ne_nil_of_right_ne_nil pieces some_more)
    rw [List.cons_append, List.map_cons, List.cons_append, ← ih, whole]
    rfl

/-- A newline parts the lines before it from those behind. -/
theorem lines_append_newline (a b : List Char) :
    lines (a ++ '\n' :: b) = (split '\n' a).map dropReturn ++ lines b := by
  rw [lines, split_append_mark, linesOfPieces_append (split_ne_nil '\n' b), lines]

theorem dropReturn_cons_cons (c d : Char) (cs : List Char) :
    dropReturn (c :: d :: cs) = c :: dropReturn (d :: cs) := by
  rw [dropReturn]
  intro _ single
  exact List.cons_ne_nil d cs single

theorem dropReturn_singleton (other : c ≠ '\r') : dropReturn [c] = [c] := by
  rw [dropReturn, dropReturn]
  intro same _
  exact other same

theorem dropReturn_append (other : c ≠ '\r') (a b : List Char) :
    dropReturn (a ++ c :: b) = a ++ c :: dropReturn b := by
  induction a with
  | nil =>
    cases b with
    | nil => exact dropReturn_singleton other
    | cons d b => exact dropReturn_cons_cons c d b
  | cons d a ih =>
    cases a with
    | nil => rw [List.cons_append, List.nil_append, dropReturn_cons_cons, ← List.nil_append (c :: b), ih]; rfl
    | cons d' a => rw [List.cons_append, List.cons_append, dropReturn_cons_cons, ← List.cons_append, ih]; rfl

theorem dropReturn_cases (cs : List Char) : cs = dropReturn cs ∨ cs = dropReturn cs ++ ['\r'] := by
  induction cs with
  | nil => exact .inl rfl
  | cons c cs ih =>
    cases cs with
    | nil =>
      by_cases single : c = '\r'
      · rw [single]
        exact .inr rfl
      · exact .inl (dropReturn_singleton single).symm
    | cons d cs =>
      rw [dropReturn_cons_cons, List.cons_append]
      exact ih.imp (congrArg (c :: ·)) (congrArg (c :: ·))

/-- The lines behind a newline are those of the text that stands there. -/
theorem getElem?_lines_behind (begins : a = [] ∨ a.getLast? = some '\n') (b : List Char) :
    (lines (a ++ b))[a.count '\n']? = (lines b)[0]? := by
  rcases begins with rfl | begins
  · rfl
  · obtain ⟨earlier, rfl⟩ := List.getLast?_eq_some_iff.1 begins
    have size : ((split '\n' earlier).map dropReturn).length = (earlier ++ ['\n']).count '\n' := by
      rw [List.length_map, length_split]
      simp
    rw [List.append_assoc, List.singleton_append, lines_append_newline, ← size,
      List.getElem?_append_right (Nat.le_refl _), Nat.sub_self]

/-- A line that is not empty is among the lines of the text, without the carriage return that it may
end with unless it is the last. -/
theorem getElem?_lines (here : IsLine a number line) (nonempty : line ≠ []) :
    (lines a)[number - 1]? = some line ∨ (lines a)[number - 1]? = some (dropReturn line) := by
  obtain ⟨before, behind, rfl, begins, rfl, free, ends⟩ := here
  have first : (lines (line ++ behind))[0]? = some line ∨
      (lines (line ++ behind))[0]? = some (dropReturn line) := by
    rcases ends with rfl | ends
    · left
      rw [List.append_nil, lines, split_of_not_mem free, linesOfPieces]
      simp [nonempty]
    · right
      obtain ⟨more, rfl⟩ := List.head?_eq_some_iff.1 ends
      rw [lines_append_newline, split_of_not_mem free]
      rfl
  rw [Nat.add_sub_cancel, List.append_assoc, getElem?_lines_behind begins]
  exact first

/-- A character lies in the line of its place, behind as many others as its column says. -/
theorem exists_line_around (front rest : List Char) (other : c ≠ '\n') :
    ∃ start stop, IsLine (front ++ c :: rest) (Position.start.advanceAll front).line (start ++ c :: stop) ∧
      (Position.start.advanceAll front).column = start.length + 1 := by
  -- the line goes on to the next newline
  have further : ∃ stop behind, rest = stop ++ behind ∧ '\n' ∉ stop ∧
      (behind = [] ∨ behind.head? = some '\n') := by
    by_cases again : '\n' ∈ rest
    · obtain ⟨stop, behind, whole, free⟩ := List.eq_append_cons_of_mem again
      exact ⟨stop, '\n' :: behind, whole, free, .inr rfl⟩
    · exact ⟨rest, [], (List.append_nil rest).symm, again, .inl rfl⟩
  obtain ⟨stop, behind, rfl, freeStop, ends⟩ := further
  have free {start : List Char} (h : '\n' ∉ start) : '\n' ∉ start ++ c :: stop := by
    simp [h, Ne.symm other, freeStop]
  rw [Position.line_advanceAll]
  rcases exists_last_line front with first | ⟨before, start, rfl, freeStart⟩
  · refine ⟨front, stop, ⟨[], behind, ?_, .inl rfl, ?_, free first, ends⟩, ?_⟩
    · simp
    · rw [List.count_eq_zero.2 first]
      rfl
    · rw [Position.column_advanceAll first, Nat.add_comm]
      rfl
  · refine ⟨start, stop, ⟨before ++ ['\n'], behind, ?_, .inr ?_, ?_, free freeStart, ends⟩, ?_⟩
    · simp
    · simp
    · have none_behind := List.count_eq_zero.2 freeStart
      simp only [List.count_append, List.count_cons_self, List.count_nil, none_behind, Position.start]
      omega
    · have parts : before ++ '\n' :: start = (before ++ ['\n']) ++ start := by simp
      rw [parts, Position.advanceAll_append, Position.column_advanceAll freeStart,
        Position.advanceAll_append, Nat.add_comm]
      rfl

end Text

/-! ## Excerpts -/

namespace LineExcerpt

/-- What is shown of a line: it is without the spaces and tabs in front, and without the blanks
behind. -/
structure Trims (line shown : List Char) : Prop where
  cut : ∃ indent trail, line = indent ++ shown ++ trail ∧ (∀ c ∈ indent, isIndent c) ∧
    ∀ c ∈ trail, Unicode.isWhiteSpace c
  first : ∀ c ∈ shown.head?, isIndent c = false
  last : ∀ c ∈ shown.getLast?, Unicode.isWhiteSpace c = false

def bar (e : LineExcerpt) : List Char :=
  List.replicate ((toString e.number).toList.length + 1) ' ' ++ ['|']

/-- The line of the source, behind its number. -/
def sourceLine (e : LineExcerpt) : List Char :=
  (toString e.number).toList ++ [' ', '|', ' '] ++ dropTrailingSpace (e.text.dropWhile isIndent)

def caretLine (e : LineExcerpt) : List Char :=
  e.bar ++ [' '] ++ List.replicate (e.before - (e.text.takeWhile isIndent).length) '-' ++ ['^']

theorem render_eq (e : LineExcerpt) :
    e.render = e.bar ++ '\n' :: e.sourceLine ++ '\n' :: e.caretLine ++ ['\n'] := by
  simp [render, bar, sourceLine, caretLine]

theorem isIndent_of_not_blank {c : Char} (shows : Unicode.isWhiteSpace c = false) :
    isIndent c = false := by
  cases indent : isIndent c with
  | false => rfl
  | true =>
    have blanks : [' ', '\t'].all Unicode.isWhiteSpace := by decide
    have mem : c ∈ [' ', '\t'] := by simpa [isIndent] using indent
    rw [List.all_eq_true.1 blanks c mem] at shows
    exact absurd shows (by decide)

section

variable {p : Char → Bool} {c : Char}

theorem dropWhile_append_of_neg (stays : p c = false) (start stop : List Char) :
    (start ++ c :: stop).dropWhile p = start.dropWhile p ++ c :: stop := by
  induction start with
  | nil => rw [List.nil_append, List.dropWhile_cons_of_neg (by simp [stays])]; rfl
  | cons d start ih =>
    rw [List.cons_append, List.dropWhile_cons, List.dropWhile_cons]
    cases p d with
    | true => exact ih
    | false => rfl

theorem takeWhile_append_of_neg (stays : p c = false) (start stop : List Char) :
    (start ++ c :: stop).takeWhile p = start.takeWhile p := by
  induction start with
  | nil => rw [List.nil_append, List.takeWhile_cons_of_neg (by simp [stays])]; rfl
  | cons d start ih =>
    rw [List.cons_append, List.takeWhile_cons, List.takeWhile_cons, ih]

end

variable {e : LineExcerpt} {c : Char} {start stop : List Char}

theorem dropTrailingSpace_append (shows : Unicode.isWhiteSpace c = false) (start stop : List Char) :
    dropTrailingSpace (start ++ c :: stop) = start ++ c :: dropTrailingSpace stop := by
  simp [dropTrailingSpace, dropWhile_append_of_neg shows]

/-- Around a character that is no blank the line is cut on both sides of it. -/
theorem shown_eq (shows : Unicode.isWhiteSpace c = false) (start stop : List Char) :
    dropTrailingSpace ((start ++ c :: stop).dropWhile isIndent) =
      start.dropWhile isIndent ++ c :: dropTrailingSpace stop := by
  rw [dropWhile_append_of_neg (isIndent_of_not_blank shows), dropTrailingSpace_append shows]

theorem trims_shown (shows : Unicode.isWhiteSpace c = false) (start stop : List Char) :
    Trims (start ++ c :: stop) (start.dropWhile isIndent ++ c :: dropTrailingSpace stop) := by
  refine ⟨⟨start.takeWhile isIndent, (stop.reverse.takeWhile Unicode.isWhiteSpace).reverse, ?_, ?_, ?_⟩,
    ?_, ?_⟩
  · have behind : dropTrailingSpace stop ++ (stop.reverse.takeWhile Unicode.isWhiteSpace).reverse =
        stop := by
      rw [dropTrailingSpace, ← List.reverse_append, List.takeWhile_append_dropWhile, List.reverse_reverse]
    calc start ++ c :: stop
        = (start.takeWhile isIndent ++ start.dropWhile isIndent) ++ c :: stop := by
          rw [List.takeWhile_append_dropWhile]
      _ = start.takeWhile isIndent ++ (start.dropWhile isIndent ++ c :: dropTrailingSpace stop) ++
            (stop.reverse.takeWhile Unicode.isWhiteSpace).reverse := by
          rw [List.append_assoc, List.append_assoc, List.append_assoc, List.cons_append, behind]
  · intro d mem
    exact List.mem_takeWhile_imp mem
  · intro d mem
    exact List.mem_takeWhile_imp (List.mem_reverse.1 mem)
  · intro d mem
    cases kept : start.dropWhile isIndent with
    | nil =>
      rw [kept] at mem
      have same : c = d := Option.some.inj mem
      exact same ▸ isIndent_of_not_blank shows
    | cons d' more =>
      have stays := List.head?_dropWhile_not isIndent start
      rw [kept] at mem stays
      have same : d' = d := Option.some.inj mem
      simpa [same] using stays
  · intro d mem
    rw [List.getLast?_append_of_ne_nil _ (List.cons_ne_nil _ _)] at mem
    cases kept : dropTrailingSpace stop with
    | nil =>
      rw [kept] at mem
      have same : c = d := Option.some.inj mem
      exact same ▸ shows
    | cons d' more =>
      have stays := List.head?_dropWhile_not Unicode.isWhiteSpace stop.reverse
      have last : (stop.reverse.dropWhile Unicode.isWhiteSpace).head? = some d := by
        rw [kept, List.getLast?_cons_cons, ← kept, dropTrailingSpace, List.getLast?_reverse] at mem
        exact mem
      simpa [last] using stays

theorem Trims.append_return {line shown : List Char} (h : Trims line shown) :
    Trims (line ++ ['\r']) shown := by
  obtain ⟨indent, trail, rfl, indents, blanks⟩ := h.cut
  refine ⟨⟨indent, trail ++ ['\r'], by simp, indents, ?_⟩, h.first, h.last⟩
  intro d mem
  rcases List.mem_append.1 mem with old | new
  · exact blanks d old
  · rw [List.mem_singleton.1 new]
    decide

theorem eq_length_of_getElem? {front : List Char} {i : Nat} (fresh : c ∉ front)
    (here : (front ++ [c])[i]? = some c) : i = front.length := by
  rcases Nat.lt_trichotomy i front.length with before | same | past
  · rw [List.getElem?_append_left before] at here
    exact absurd (List.mem_of_getElem? here) fresh
  · exact same
  · rw [List.getElem?_eq_none (by simp; omega)] at here
    exact absurd here.symm (Option.some_ne_none c)

/-- Above the caret stands the character at the place, if it is no blank. -/
theorem getElem?_sourceLine (line : e.text = start ++ c :: stop) (place : e.before = start.length)
    (shows : Unicode.isWhiteSpace c = false) {i : Nat} (caret : e.caretLine[i]? = some '^') :
    e.sourceLine[i]? = some c := by
  have far : i = (toString e.number).toList.length + 3 + (start.dropWhile isIndent).length := by
    have fresh : '^' ∉ e.bar ++ [' '] ++
        List.replicate (e.before - (e.text.takeWhile isIndent).length) '-' := by
      simp [bar]
    have at_end := eq_length_of_getElem? fresh caret
    have whole := congrArg List.length (List.takeWhile_append_dropWhile (p := isIndent) (l := start))
    rw [List.length_append] at whole
    rw [line, takeWhile_append_of_neg (isIndent_of_not_blank shows), place] at at_end
    simp only [bar, List.length_append, List.length_replicate, List.length_singleton] at at_end
    omega
  have gutter : ((toString e.number).toList ++ [' ', '|', ' ']).length =
      (toString e.number).toList.length + 3 := List.length_append
  rw [sourceLine, line, shown_eq shows, far, ← gutter,
    List.getElem?_append_right (Nat.le_add_right _ _), Nat.add_sub_cancel_left,
    List.getElem?_append_right (Nat.le_refl _), Nat.sub_self]
  rfl

end LineExcerpt

/-! ## Reports -/

/-- The lines of a report that come before any of the source. -/
def Failure.heading (f : Failure) (file : String) : String :=
  "Error: " ++ f.fault.name ++ ((f.fault.tip?.map fun tip => " (" ++ tip ++ ")").getD "") ++
    "\n-> " ++ file ++ "\n"

theorem Failure.report_of_excerpt {f : Failure} {source : List Char} {e : LineExcerpt}
    (excerpt : LineExcerpt.at? source f.position = some e) (file : String) :
    f.report source file = f.heading file ++ String.ofList e.render := by
  rw [report, heading, excerpt]
  cases f.fault.tip? <;> rfl

/-- Under the heading the report shows the line of the failure, cut on both sides, and a caret that
stands under the character `c`. -/
structure Failure.Shows (f : Failure) (source file : String) (c : Char)
    (sourceLine caretLine : List Char) : Prop where
  report : ∃ blanks : List Char, (∀ d ∈ blanks, d = ' ') ∧
    (f.report source.toList file).toList =
      (f.heading file).toList ++ blanks ++ '|' :: '\n' :: sourceLine ++ '\n' :: caretLine ++ ['\n']
  oneLine : '\n' ∉ sourceLine ∧ '\n' ∉ caretLine
  cut : ∃ line shown, Text.IsLine source.toList f.position.line line ∧ LineExcerpt.Trims line shown ∧
    sourceLine = (toString f.position.line).toList ++ [' ', '|', ' '] ++ shown
  caret : '^' ∈ caretLine
  above : ∀ i : Nat, caretLine[i]? = some '^' → sourceLine[i]? = some c

theorem not_newline_of_mem_toString {n : Nat} {c : Char} (mem : c ∈ (toString n).toList) : c ≠ '\n' := by
  have written : (toString n).toList = Nat.toDigits 10 n := String.toList_ofList
  rw [written] at mem
  have digit : c.isDigit := Nat.isDigit_of_mem_toDigits (by decide) (by decide) mem
  rintro rfl
  exact absurd digit (by decide)

theorem ne_of_not_blank {c d : Char} (shows : Unicode.isWhiteSpace c = false)
    (blank : Unicode.isWhiteSpace d) : c ≠ d := by
  rintro rfl
  exact absurd (shows.symm.trans blank) (by decide)

namespace LineExcerpt

/-- The excerpt at a character that is no blank is the line around it, which may have lost a carriage
return at its end. -/
theorem exists_at? {source front rest : List Char} {c : Char} (cut : source = front ++ c :: rest)
    (shows : Unicode.isWhiteSpace c = false) :
    let p := Position.start.advanceAll front
    ∃ start stop stop', Text.IsLine source p.line (start ++ c :: stop) ∧
      (stop = stop' ∨ stop = stop' ++ ['\r']) ∧
      at? source p = some ⟨p.line, start ++ c :: stop', start.length⟩ := by
  intro p
  have not_newline : c ≠ '\n' := ne_of_not_blank shows (by decide)
  have not_return : c ≠ '\r' := ne_of_not_blank shows (by decide)
  obtain ⟨start, stop, isLine, column⟩ := Text.exists_line_around front rest not_newline
  rw [← cut] at isLine
  have kept : ∃ stop', (Text.lines source)[p.line - 1]? = some (start ++ c :: stop') ∧
      (stop = stop' ∨ stop = stop' ++ ['\r']) := by
    rcases Text.getElem?_lines isLine (by simp) with whole | without
    · exact ⟨stop, whole, .inl rfl⟩
    · rw [Text.dropReturn_append not_return] at without
      exact ⟨Text.dropReturn stop, without, Text.dropReturn_cases stop⟩
  obtain ⟨stop', found, ends⟩ := kept
  refine ⟨start, stop, stop', isLine, ends, ?_⟩
  obtain ⟨line, number⟩ : ∃ line, p.line = line + 1 := by
    rw [Position.line_advanceAll]
    exact ⟨front.count '\n', Nat.add_comm _ _⟩
  rw [number, Nat.add_sub_cancel] at found
  simp only [at?, number, found, Option.map_some, p, column, Nat.add_sub_cancel]

/-- What is shown of a line is a part of it without a newline. -/
theorem newline_not_mem_shown {line shown : List Char} (trims : Trims line shown)
    (free : '\n' ∉ line) (n : Nat) : '\n' ∉ (toString n).toList ++ [' ', '|', ' '] ++ shown := by
  obtain ⟨indent, trail, parts, -, -⟩ := trims.cut
  intro mem
  rcases List.mem_append.1 mem with gutter | shown
  · rcases List.mem_append.1 gutter with digit | bar
    · exact not_newline_of_mem_toString digit rfl
    · exact absurd bar (by decide)
  · apply free
    rw [parts]
    exact List.mem_append_left _ (List.mem_append_right _ shown)

theorem newline_not_mem_caretLine (e : LineExcerpt) : '\n' ∉ e.caretLine := by
  simp [caretLine, bar]

end LineExcerpt

/-- At a character that is no blank the report has a caret under it. -/
theorem Failure.shows_of_cut {f : Failure} {source : String} {front rest : List Char} {c : Char}
    (cut : source.toList = front ++ c :: rest) (place : f.position = Position.start.advanceAll front)
    (shows : Unicode.isWhiteSpace c = false) (file : String) :
    ∃ sourceLine caretLine, f.Shows source file c sourceLine caretLine := by
  obtain ⟨start, stop, stop', isLine, ends, excerpt⟩ := LineExcerpt.exists_at? cut shows
  rw [← place] at isLine excerpt
  let e : LineExcerpt := ⟨f.position.line, start ++ c :: stop', start.length⟩
  let shown := start.dropWhile LineExcerpt.isIndent ++ c :: LineExcerpt.dropTrailingSpace stop'
  have trims : LineExcerpt.Trims (start ++ c :: stop) shown := by
    have shorter := LineExcerpt.trims_shown shows start stop'
    rcases ends with rfl | rfl
    · exact shorter
    · simpa using shorter.append_return
  have line : e.sourceLine = (toString f.position.line).toList ++ [' ', '|', ' '] ++ shown := by
    rw [LineExcerpt.sourceLine, LineExcerpt.shown_eq shows]
  refine ⟨e.sourceLine, e.caretLine, ?_, ⟨?_, e.newline_not_mem_caretLine⟩,
    ⟨_, _, isLine, trims, line⟩, ?_, ?_⟩
  · refine ⟨List.replicate ((toString e.number).toList.length + 1) ' ', ?_, ?_⟩
    · intro d mem
      exact List.eq_of_mem_replicate mem
    · rw [report_of_excerpt excerpt, LineExcerpt.render_eq, String.toList_append, String.toList_ofList,
        LineExcerpt.bar]
      simp [e]
  · obtain ⟨-, -, -, -, -, free, -⟩ := isLine
    rw [line]
    exact LineExcerpt.newline_not_mem_shown trims free f.position.line
  · simp [LineExcerpt.caretLine]
  · intro i caret
    exact LineExcerpt.getElem?_sourceLine rfl rfl shows caret

theorem Go.not_blank_of_stuck {c : Char} {cs : List Char} (stuck : Go.grammar.lexeme? (c :: cs) = none) :
    Unicode.isWhiteSpace c = false := by
  cases blank : Unicode.isWhiteSpace c with
  | false => rfl
  | true =>
    rw [Go.lexeme?_blank blank] at stuck
    exact absurd stuck (Option.some_ne_none _)

namespace Scanner

variable {ι : Type} [Interner ι]

/-- A scan has failed only where no entry matches. -/
theorem stuck_invariant (g : Grammar) :
    Invariant ι g fun _ s => s.failure.isSome → g.lexeme? s.rest = none where
  next := by
    intro read s stuck table
    have form := nextStep g s table
    generalize s.next g table = step at form ⊢
    cases form with
    | failed | finished => exact stuck
    | halted _ _ nothing => exact fun _ => nothing
    | read unfailed =>
      intro failed
      rw [failure_after, unfailed] at failed
      exact absurd failed (by decide)
  withLocale stuck l := stuck

/-- Whatever the history of a scan: when a run to the end fails at a character that is no blank, the
report shows the line of the character and has a caret under it. In Go source text no blank is at
fault. -/
theorem caret_under_failure (g : Grammar) (source file : String) (history : List (Call × ι)) (table : ι)
    (f : Failure) (fails : ((takeTurns g history (ofText source)).analyze g table).answer = some f) :
    ∃ front c rest, Text.splitAtByte? source.toList f.position.offset = some (front, c :: rest) ∧
      (Unicode.isWhiteSpace c = false →
        ∃ sourceLine caretLine, f.Shows source file c sourceLine caretLine) ∧
      (g = Go.grammar → Unicode.isWhiteSpace c = false) := by
  let now := takeTurns g history (ofText source)
  let ended := (now.analyze g table).scanner
  have follows : Follows source ended :=
    ((Follows.ofText source).takeTurns g history).perform (p := (now, table)) g .analyze
  have failed : ended.failure = some f := (answer_analyze table g now).symm.trans fails
  have stuck : g.lexeme? ended.rest = none := by
    have before := (stuck_invariant (ι := ι) g).takeTurns [] (s := ofText source) (by simp [ofText]) history
    have after : ended.failure.isSome → g.lexeme? ended.rest = none :=
      (stuck_invariant g).perform (p := (now, table)) [] before .analyze
    exact after (Option.isSome_of_eq_some failed)
  obtain ⟨front, cut, here⟩ := follows.stands
  obtain ⟨place, more⟩ := follows.failed f failed
  obtain ⟨c, rest, left⟩ := List.exists_cons_of_ne_nil more
  rw [left] at cut stuck
  have position : f.position = Position.start.advanceAll front := place.trans here
  refine ⟨front, c, rest, ?_, ?_, ?_⟩
  · rw [Text.splitAtByte?_eq_some_iff, position, Position.offset_advanceAll]
    exact ⟨cut, (Nat.zero_add _).symm⟩
  · intro shows
    exact Failure.shows_of_cut cut position shows file
  · intro go
    rw [go] at stuck
    exact Go.not_blank_of_stuck stuck

/-- Behind a tab and a character of two bytes, in a line that ends with a blank and a carriage return. -/
theorem caret_under_failure_tab :
    let source := "a\n\t\"ж\" #1 \r\n"
    let f : Failure := ⟨.unrecognisedInput "#1", ⟨8, 2, 6⟩⟩
    ((ofText source).analyze Go.grammar IdentTable.empty).answer = some f ∧
      ∃ sourceLine caretLine, f.Shows source "main.go" '#' sourceLine caretLine := by
  intro source f
  have fails : ((takeTurns Go.grammar [] (ofText source)).analyze Go.grammar IdentTable.empty).answer =
      some f := by
    rw [Go.grammar_eq]
    decide +kernel
  obtain ⟨front, c, rest, cut, shows, go⟩ :=
    caret_under_failure Go.grammar source "main.go" [] IdentTable.empty f fails
  have there : Text.splitAtByte? source.toList 8 =
      some ("a\n\t\"ж\" ".toList, '#' :: "1 \r\n".toList) := by decide
  have same : c = '#' := by
    have both := Option.some.inj (cut.symm.trans there)
    exact (List.cons.inj (Prod.mk.inj both).2).1
  refine ⟨fails, ?_⟩
  rw [← same]
  exact shows (go rfl)

end Scanner

end GoScan
