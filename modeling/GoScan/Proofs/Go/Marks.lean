import GoScan.Proofs.Go.WordEnds

/-!
# Operators and punctuation are read as long as they can be

The first entry that matches wins, and no entry for an operator or a mark of punctuation stands in front
of one that it begins. So the first that matches is the longest, once comments and numbers have had their
turn.

* `of_firstOf_marks`: of the marks that the text begins with, the longest is taken;
* `lexeme?_of_mark`: what else can be taken where a mark stands;
* `marks_longest`: both together, of the whole table.
-/

namespace GoScan.Go

open Pattern

variable {text : List Char} {c : Char} {e : Entry} {es : List Entry} {l : Lexeme}

/-- The texts of operators and punctuation. -/
def markTexts : List String := operators ++ punctuation

/-- No mark stands in the table before one that it begins. -/
theorem marks_pairwise : marks.Pairwise fun e e' => ¬e.name.toList <+: e'.name.toList := by decide

theorem exists_mark {w : String} (listed : w ∈ markTexts) : ∃ e ∈ marks, e.name = w := by
  rcases List.mem_append.1 listed with op | punct
  · exact ⟨literal w .operator, List.mem_append_left _ (List.mem_map_of_mem op), rfl⟩
  · exact ⟨literal w .punctuation, List.mem_append_right _ (List.mem_map_of_mem punct), rfl⟩

theorem name_ne_nil_of_mark : ∀ e ∈ marks, e.name.toList ≠ [] := by decide

/-- A mark is taken wherever the text begins with it. -/
theorem length?_mark (mem : e ∈ marks) : e.length? text =
    if e.name.toList <+: text then some e.name.toList.length else none := by
  have nonempty := name_ne_nil_of_mark e mem
  obtain ⟨w, k, rfl, free⟩ := exists_literal_of_mem_marks mem
  have name : (literal w k).name = w := rfl
  rw [name] at nonempty ⊢
  ext n
  rw [length?_literal, free]
  by_cases front : w.toList <+: text
  · simp only [front, if_true, true_and, Option.some.injEq, Bool.false_eq_true, false_implies, and_true]
    constructor
    · rintro ⟨size, -⟩
      exact size.symm
    · rintro rfl
      exact ⟨rfl, mt List.length_eq_zero_iff.1 nonempty⟩
  · simp [front]

/-- Of the marks that the text begins with the first is taken, and it is the longest. -/
theorem of_firstOf_marks (inside : ∀ e ∈ es, e ∈ marks)
    (ordered : es.Pairwise fun e e' => ¬e.name.toList <+: e'.name.toList)
    (found : firstOf es text = some l) :
    l.entry ∈ es ∧ l.chars = l.entry.name.toList ∧ l.chars <+: text ∧
      ∀ e ∈ es, e.name.toList <+: text → e.name.toList.length ≤ l.chars.length := by
  induction es with
  | nil => exact absurd found.symm (Option.some_ne_none l)
  | cons e es ih =>
    obtain ⟨mark, others⟩ := List.forall_mem_cons.1 inside
    obtain ⟨first, rest⟩ := List.pairwise_cons.1 ordered
    rw [firstOf_cons, length?_mark mark] at found
    by_cases front : e.name.toList <+: text
    · rw [if_pos front, Option.map_some, Option.some_or, ← List.prefix_iff_eq_take.1 front] at found
      obtain rfl := Option.some.inj found
      refine ⟨.head _, rfl, front, ?_⟩
      rintro e' (_ | ⟨_, mem⟩) front'
      · exact Nat.le_refl _
      · -- one of the two begins with the other, and the one in front does not begin the other
        rcases List.prefix_or_prefix_of_prefix front front' with longer | shorter
        · exact absurd longer (first e' mem)
        · exact shorter.length_le
    · rw [if_neg front, Option.map_none, Option.none_or] at found
      obtain ⟨mem, chars, front', longest⟩ := ih others rest found
      refine ⟨.tail _ mem, chars, front', ?_⟩
      rintro e' (_ | ⟨_, mem'⟩) begins
      · exact absurd begins front
      · exact longest e' mem' begins

/-- With such a character an operator or punctuation begins. -/
theorem glyph_of_mark (mem : e ∈ marks) (front : e.name.toList <+: text) :
    ∃ c, text.head? = some c ∧ (glyph c = .mark ∨ glyph c = .point ∨ glyph c = .slash) := by
  have found : e.length? text = some e.name.toList.length := by rw [length?_mark mem, if_pos front]
  obtain ⟨c, cs, -, whole, -⟩ := Entry.exists_opening (plain_of_mem e (Group.marks.listed e mem)) found
  refine ⟨c, by rw [whole]; rfl, ?_⟩
  rw [whole] at found
  have start := Entry.glyph_mem_starts (plain_of_mem e (Group.marks.listed e mem)) found
  simpa [Group.marks] using Group.marks.begins e mem _ start

theorem eq_of_mem_skips : ∀ e ∈ skips, e = blank ∨ e = lineComment ∨ e = blockComment := by decide

theorem class_of_number : ∀ e ∈ numbers, e.tokenClass = .constant := by decide

/-- Where a mark can begin, comments and numbers are tried before it. -/
theorem lexeme?_of_mark (head : text.head? = some c)
    (opens : glyph c = .mark ∨ glyph c = .point ∨ glyph c = .slash) :
    grammar.lexeme? text =
      (firstOf skips text).or ((firstOf numbers text).or (firstOf marks text)) := by
  have words : firstOf words text = none := by
    apply firstOf_words head
    rcases opens with mark | point | slash <;> simp [*]
  have quoted : firstOf quoted text = none := by
    apply firstOf_quoted head
    rcases opens with mark | point | slash <;> simp [*]
  have name : firstOf [name] text = none := by
    apply Group.name.firstOf_eq_none head
    rcases opens with mark | point | slash <;> simp [Group.name, *]
  simp only [lexeme?_eq, entries, firstOf_append, words, quoted, name, Option.none_or, Option.or_none]

/-- Where a mark stands something is read. -/
theorem exists_lexeme_of_mark (mem : e ∈ marks) (front : e.name.toList <+: text) :
    ∃ l, grammar.lexeme? text = some l := by
  obtain ⟨c, head, opens⟩ := glyph_of_mark mem front
  apply Option.ne_none_iff_exists'.1
  intro nothing
  rw [lexeme?_of_mark head opens, Option.or_eq_none_iff, Option.or_eq_none_iff] at nothing
  have refused := firstOf_eq_none.1 nothing.2.2 e mem
  rw [length?_mark mem, if_pos front] at refused
  exact absurd refused (Option.some_ne_none _)

/-- A comment, a number that begins with a point, or what is first among the marks. -/
theorem of_lexeme?_of_mark (head : text.head? = some c)
    (opens : glyph c = .mark ∨ glyph c = .point ∨ glyph c = .slash)
    (taken : grammar.lexeme? text = some l) :
    (l.entry = lineComment ∨ l.entry = blockComment) ∨
      l.entry ∈ numbers ∧ text.head? = some '.' ∨ firstOf marks text = some l := by
  obtain ⟨cs, rfl⟩ := List.head?_eq_some_iff.1 head
  rw [lexeme?_of_mark head opens] at taken
  rcases Option.or_eq_some_iff.1 taken with skipped | ⟨-, later⟩
  · obtain ⟨mem, found, -⟩ := of_firstOf_eq_some skipped
    have start := Entry.glyph_mem_starts (plain_of_mem _ (Group.skips.listed _ mem)) found
    rcases eq_of_mem_skips _ mem with isBlank | isComment
    · have onlyBlank : blank.starts = [.blank] := by decide
      rw [isBlank, onlyBlank, List.mem_singleton] at start
      rw [start] at opens
      exact absurd opens (by decide)
    · exact .inl isComment
  · rcases Option.or_eq_some_iff.1 later with number | ⟨-, mark⟩
    · have start := Group.numbers.glyph_mem_starts head number
      have begins : glyph c = .digit ∨ glyph c = .point := by simpa [Group.numbers] using start
      rcases begins with digit | point
      · rw [digit] at opens
        exact absurd opens (by decide)
      · exact .inr (.inl ⟨(of_firstOf_eq_some number).1, by rw [eq_of_glyph_point point]; rfl⟩)
    · exact .inr (.inr mark)

/-! ## The longest -/

theorem class_of_mark : ∀ e ∈ marks,
    e.tokenClass = .operator ∧ e.name ∈ operators ∨
      e.tokenClass = .punctuation ∧ e.name ∈ punctuation := by
  decide

set_option maxRecDepth 2000 in
theorem mem_marks_of_class : ∀ e ∈ entries,
    e.tokenClass = .operator ∨ e.tokenClass = .punctuation → e ∈ marks := by
  decide

/-- The match is a comment. -/
def IsComment (m : Match) : Prop := m.entry = lineComment ∨ m.entry = blockComment

/-- The match is a number that begins with a point. -/
def IsPointNumber (text : List Char) (m : Match) : Prop :=
  m.entry ∈ numbers ∧ m.span.start = 0 ∧ text.head? = some '.'

/-- The match is the longest of the operators and marks of punctuation that the text begins with. -/
structure IsLongestMark (text : List Char) (m : Match) : Prop where
  listed : m.entry.tokenClass = .operator ∧ m.entry.name ∈ operators ∨
    m.entry.tokenClass = .punctuation ∧ m.entry.name ∈ punctuation
  front : m.entry.name.toList <+: text
  span : m.span = ⟨0, m.entry.name.toList.length⟩
  longest : ∀ w ∈ markTexts, w.toList <+: text → w.toList.length ≤ m.entry.name.toList.length

theorem isLongestMark_of_firstOf (found : firstOf marks text = some l) :
    IsLongestMark text ⟨l.entry, ⟨0, l.chars.length⟩⟩ := by
  obtain ⟨mem, chars, front, longest⟩ := of_firstOf_marks (fun _ mem => mem) marks_pairwise found
  refine ⟨class_of_mark l.entry mem, chars ▸ front, by rw [chars], ?_⟩
  intro w listed begins
  obtain ⟨e, mem', rfl⟩ := exists_mark listed
  exact chars ▸ longest e mem' begins

theorem exists_lexeme_of_match? {m : Match} (found : grammar.match? text = some m) :
    ∃ l, grammar.lexeme? text = some l ∧ m = ⟨l.entry, ⟨0, l.chars.length⟩⟩ := by
  have taken : grammar.lexeme? text = some ⟨m.entry, text.take m.span.stop⟩ := by
    rw [Grammar.lexeme?, found, Option.map_some]
  exact ⟨_, taken, Option.some.inj (found.symm.trans (match?_of_lexeme? taken))⟩

/-- An operator or a mark that is read is the first of them that is there. -/
theorem firstOf_marks_of_class (taken : grammar.lexeme? text = some l)
    (isMark : l.entry.tokenClass = .operator ∨ l.entry.tokenClass = .punctuation) :
    firstOf marks text = some l := by
  have first := taken
  rw [lexeme?_eq] at first
  obtain ⟨listed, length, -⟩ := of_firstOf_eq_some first
  have mem : l.entry ∈ marks := mem_marks_of_class l.entry listed isMark
  have front : l.entry.name.toList <+: text := by
    rw [length?_mark mem] at length
    by_contra elsewhere
    rw [if_neg elsewhere] at length
    exact absurd length.symm (Option.some_ne_none _)
  obtain ⟨c, head, opens⟩ := glyph_of_mark mem front
  rcases of_lexeme?_of_mark head opens taken with (line | block) | number | mark
  · rw [line] at isMark
    exact absurd isMark (by decide)
  · rw [block] at isMark
    exact absurd isMark (by decide)
  · rw [class_of_number _ number.1] at isMark
    exact absurd isMark (by decide)
  · exact mark

/-- Where the text begins with an operator or a mark of punctuation, a comment is read, or a number that
begins with a point, or else the longest of these that the text begins with. An operator or a mark that is
read is never the beginning of a longer one that stands there. -/
theorem marks_longest (text : List Char) :
    (∀ w ∈ markTexts, w.toList <+: text → ∃ m, grammar.match? text = some m ∧
      (IsComment m ∨ IsPointNumber text m ∨ IsLongestMark text m)) ∧
    ∀ m, grammar.match? text = some m →
      m.entry.tokenClass = .operator ∨ m.entry.tokenClass = .punctuation → IsLongestMark text m := by
  constructor
  · intro w listed front
    obtain ⟨e, mem, rfl⟩ := exists_mark listed
    obtain ⟨c, head, opens⟩ := glyph_of_mark mem front
    obtain ⟨l, taken⟩ := exists_lexeme_of_mark mem front
    refine ⟨_, match?_of_lexeme? taken, ?_⟩
    rcases of_lexeme?_of_mark head opens taken with comment | number | mark
    · exact .inl comment
    · exact .inr (.inl ⟨number.1, rfl, number.2⟩)
    · exact .inr (.inr (isLongestMark_of_firstOf mark))
  · intro m found isMark
    obtain ⟨l, taken, rfl⟩ := exists_lexeme_of_match? found
    exact isLongestMark_of_firstOf (firstOf_marks_of_class taken isMark)

/-- A point before a digit where a word goes on behind the number: the point is read alone. -/
theorem marks_longest_point :
    ("." ∈ markTexts ∧ ".".toList <+: ['.', '5', 'x'] ∧
      grammar.match? ['.', '5', 'x'] = some ⟨literal "." .punctuation, ⟨0, 1⟩⟩ ∧
      (literal "." .punctuation).tokenClass = .punctuation) ∧
    (∃ m, grammar.match? ['.', '5', 'x'] = some m ∧
      (IsComment m ∨ IsPointNumber ['.', '5', 'x'] m ∨ IsLongestMark ['.', '5', 'x'] m)) ∧
    IsLongestMark ['.', '5', 'x'] ⟨literal "." .punctuation, ⟨0, 1⟩⟩ := by
  have listed : "." ∈ markTexts := by decide
  have front : ".".toList <+: ['.', '5', 'x'] := ⟨['5', 'x'], rfl⟩
  have here : grammar.match? ['.', '5', 'x'] = some ⟨literal "." .punctuation, ⟨0, 1⟩⟩ := by
    rw [grammar_eq]
    decide +kernel
  obtain ⟨matched, longest⟩ := marks_longest ['.', '5', 'x']
  exact ⟨⟨listed, front, here, rfl⟩, matched "." listed front, longest _ here (.inr rfl)⟩

end GoScan.Go
