import GoScan.Proofs.Position.Excerpt

/-!
# Places, lines and the texts of lines

A line is told apart in three ways: by the newlines found once, by the column, and by cutting the text
into lines.

* `Text.startsChar_iff`, `Position.isSome_ofOffset?`: where a position is to be had;
* `LineIndex.exists_cut_of_lineStart?`: a line starts where the text is cut behind a newline;
* `Text.getElem?_lines_of_firstLine`: the text of a line is what stands there up to the next newline;
* `LineIndex.agrees_with_rescan`, `LineIndex.lines_and_places`: the three are one.
-/

namespace GoScan

variable {text before behind begun rest : List Char} {n k s offset : Nat} {c : Char}

/-! ## Where a position is to be had -/

namespace Text

/-- A character of the text starts at this byte. -/
def StartsChar (text : String) (offset : Nat) : Prop :=
  offset < text.utf8ByteSize ∧ String.Pos.Raw.IsValid text ⟨offset⟩

instance (text : String) (offset : Nat) : Decidable (StartsChar text offset) :=
  inferInstanceAs (Decidable (_ ∧ _))

theorem utf8ByteSize_eq (text : String) : text.utf8ByteSize = byteCount text.toList := by
  rw [← utf8ByteSize_ofList, String.ofList_toList]

theorem startsChar_iff {text : String} : StartsChar text offset ↔
    ∃ front c rest, text.toList = front ++ c :: rest ∧ byteCount front = offset := by
  rw [StartsChar, String.Pos.Raw.isValid_iff_exists_append]
  constructor
  · rintro ⟨inside, front, rest, rfl, place⟩
    have size : byteCount front.toList = offset := by
      rw [← utf8ByteSize_eq]
      exact (congrArg String.Pos.Raw.byteIdx place).symm
    rw [utf8ByteSize_eq, String.toList_append, byteCount_append, size] at inside
    cases more : rest.toList with
    | nil =>
      rw [more, byteCount] at inside
      exact absurd inside (Nat.lt_irrefl offset)
    | cons c cs => exact ⟨front.toList, c, cs, by rw [String.toList_append, more], size⟩
  · rintro ⟨front, c, rest, whole, rfl⟩
    constructor
    · have wide := Char.utf8Size_pos c
      rw [utf8ByteSize_eq, whole, byteCount_append, byteCount]
      omega
    · refine ⟨String.ofList front, String.ofList (c :: rest), ?_, ?_⟩
      · rw [← String.ofList_append, ← whole, String.ofList_toList]
      · rw [String.rawEndPos, utf8ByteSize_ofList]

end Text

theorem Position.isSome_ofOffset? {text : String} :
    (ofOffset? text.toList offset).isSome ↔ Text.StartsChar text offset := by
  rw [Text.startsChar_iff, ofOffset?]
  constructor
  · intro found
    cases cut : Text.splitAtByte? text.toList offset with
    | none => simp [cut] at found
    | some parts =>
      obtain ⟨front, rest⟩ := parts
      cases rest with
      | nil => simp [cut] at found
      | cons c rest => exact ⟨front, c, rest, Text.splitAtByte?_eq_some_iff.1 cut⟩
  · rintro ⟨front, c, rest, cut⟩
    rw [Text.splitAtByte?_eq_some_iff.2 cut]
    rfl

/-! ## Starts of lines -/

namespace LineIndex

/-- A newline of the text, with what stands before it. -/
theorem exists_cut_of_newline {i : Nat} (here : (newlineOffsets n text)[i]? = some k) :
    ∃ before behind, text = before ++ '\n' :: behind ∧ k = n + Text.byteCount before ∧
      before.count '\n' = i := by
  induction text generalizing n i with
  | nil => simp [newlineOffsets] at here
  | cons c cs ih =>
    rw [newlineOffsets] at here
    split at here
    · rename_i newline
      cases i with
      | zero =>
        have first : n = k := Option.some.inj here
        exact ⟨[], cs, by rw [newline]; rfl, first.symm, rfl⟩
      | succ i =>
        obtain ⟨before, behind, rfl, rfl, count⟩ := ih here
        refine ⟨c :: before, behind, rfl, ?_, ?_⟩
        · rw [Text.byteCount, Nat.add_assoc]
        · rw [newline, List.count_cons_self, count]
    · rename_i other
      obtain ⟨before, behind, rfl, rfl, count⟩ := ih here
      refine ⟨c :: before, behind, rfl, ?_, ?_⟩
      · rw [Text.byteCount, Nat.add_assoc]
      · rw [List.count_cons_of_ne other, count]

/-- A line starts where the text is cut at its start or behind a newline. -/
theorem exists_cut_of_lineStart? (start : (ofText text).lineStart? n = some s) :
    ∃ before behind, text = before ++ behind ∧ Text.byteCount before = s ∧
      Position.start.advanceAll before = ⟨s, n, 1⟩ := by
  cases n with
  | zero => exact absurd start.symm (Option.some_ne_none s)
  | succ n =>
    cases n with
    | zero =>
      have zero : 0 = s := Option.some.inj start
      exact ⟨[], text, rfl, zero, by rw [← zero]; rfl⟩
    | succ i =>
      obtain ⟨k, newline, rfl⟩ := Option.map_eq_some_iff.1 start
      obtain ⟨before, behind, rfl, rfl, rfl⟩ := exists_cut_of_newline newline
      have size : Text.byteCount (before ++ ['\n']) = 0 + Text.byteCount before + 1 := by
        rw [Text.byteCount_append, Nat.zero_add]
        rfl
      refine ⟨before ++ ['\n'], behind, by simp, size, ?_⟩
      have offset := Position.offset_advanceAll .start before
      have number := Position.line_advanceAll .start before
      rw [Position.advanceAll_append]
      change (Position.start.advanceAll before).advance '\n' = _
      rw [Position.advance, if_pos rfl, offset, number]
      simp only [Position.start, Position.mk.injEq]
      exact ⟨rfl, by omega, trivial⟩

theorem isSome_lineStart? (index : LineIndex) (n : Nat) :
    (index.lineStart? n).isSome ↔ 1 ≤ n ∧ n ≤ index.lineCount := by
  cases n with
  | zero => simp [lineStart?]
  | succ n =>
    cases n with
    | zero => simp [lineStart?, lineCount]
    | succ i =>
      have known : (index.lineStart? (i + 2)).isSome ↔ i < index.newlines.length := by simp [lineStart?]
      rw [known, lineCount]
      omega

theorem lineStart?_lt {m t : Nat} (order : m < n) (first : (ofText text).lineStart? m = some s)
    (second : (ofText text).lineStart? n = some t) : s < t := by
  have increasing := pairwise_newlineOffsets 0 text
  cases m with
  | zero => exact absurd first.symm (Option.some_ne_none s)
  | succ m =>
    obtain ⟨j, rfl⟩ : ∃ j, n = j + 2 := ⟨n - 2, by omega⟩
    obtain ⟨late, later, rfl⟩ := Option.map_eq_some_iff.1 second
    cases m with
    | zero =>
      have zero : 0 = s := Option.some.inj first
      omega
    | succ i =>
      obtain ⟨soon, sooner, rfl⟩ := Option.map_eq_some_iff.1 first
      obtain ⟨hi, rfl⟩ := List.getElem?_eq_some_iff.1 sooner
      obtain ⟨hj, rfl⟩ := List.getElem?_eq_some_iff.1 later
      have before : i < j := by omega
      exact Nat.succ_lt_succ (List.pairwise_iff_getElem.1 increasing i j hi hj before)

end LineIndex

/-! ## Texts of lines -/

namespace Text

/-- The line that the text begins with: what stands before its first newline, without a carriage return
right before that, or all of it if there is no newline. -/
inductive FirstLine : List Char → List Char → Prop
  | newline {line behind : List Char} : '\n' ∉ line → line.getLast? ≠ some '\r' →
      FirstLine (line ++ '\n' :: behind) line
  | returnNewline {line behind : List Char} : '\n' ∉ line → FirstLine (line ++ '\r' :: '\n' :: behind) line
  | last {line : List Char} : '\n' ∉ line → FirstLine line line

theorem dropReturn_append_return (line : List Char) : dropReturn (line ++ ['\r']) = line := by
  induction line with
  | nil => rfl
  | cons c line ih =>
    obtain ⟨d, ds, whole⟩ := List.exists_cons_of_ne_nil (List.concat_ne_nil '\r' line)
    rw [List.cons_append, whole, dropReturn_cons_cons, ← whole, ih]

theorem exists_firstLine (nonempty : text ≠ []) :
    ∃ line, FirstLine text line ∧ (lines text)[0]? = some line := by
  by_cases newline : '\n' ∈ text
  · obtain ⟨piece, behind, rfl, free⟩ := List.eq_append_cons_of_mem newline
    have first : (lines (piece ++ '\n' :: behind))[0]? = some (dropReturn piece) := by
      rw [lines_append_newline, split_of_not_mem free]
      rfl
    refine ⟨dropReturn piece, ?_, first⟩
    by_cases ends : piece.getLast? = some '\r'
    · obtain ⟨line, rfl⟩ := List.getLast?_eq_some_iff.1 ends
      rw [dropReturn_append_return, List.append_assoc]
      exact .returnNewline fun mem => free (List.mem_append_left _ mem)
    · rcases dropReturn_cases piece with kept | dropped
      · rw [← kept]
        exact .newline free ends
      · rw [dropped] at ends
        exact absurd (by simp) ends
  · refine ⟨text, .last newline, ?_⟩
    rw [lines, split_of_not_mem newline, linesOfPieces]
    simp [nonempty]

end Text

namespace LineIndex

/-! ## The three are one -/

/-- The index and reading from the start have a position for the bytes at which a character starts, and
it is the same line and column. -/
theorem agrees_with_rescan (source : String) (offset : Nat) :
    ((ofText source.toList).position? source.toList offset).map (fun p => (p.line, p.column)) =
      (Position.ofOffset? source.toList offset).map (fun p => (p.line, p.column)) ∧
    (∀ p, (ofText source.toList).position? source.toList offset = some p → p.offset = offset) ∧
    (((ofText source.toList).position? source.toList offset).isSome ↔ Text.StartsChar source offset) ∧
    ((Position.ofOffset? source.toList offset).isSome ↔ Text.StartsChar source offset) := by
  have same := position?_ofText source.toList offset
  refine ⟨by rw [same], ?_, by rw [same]; exact Position.isSome_ofOffset?, Position.isSome_ofOffset?⟩
  intro p here
  have starts : Text.StartsChar source offset := by
    rw [← Position.isSome_ofOffset?]
    exact Option.isSome_of_eq_some (same.symm.trans here)
  obtain ⟨front, c, rest, whole, rfl⟩ := Text.startsChar_iff.1 starts
  have place : (ofText source.toList).position? source.toList (Text.byteCount front) =
      some (Position.start.advanceAll front) := by
    rw [whole]
    exact position?_cut front (List.cons_ne_nil c rest)
  rw [Option.some.inj (here.symm.trans place), Position.offset_advanceAll]
  exact Nat.zero_add _

/-- Where a character of two bytes stands. -/
theorem agrees_with_rescan_wide :
    let source := "ж\nя"
    let p : Position := ⟨3, 2, 1⟩
    (ofText source.toList).position? source.toList 3 = some p ∧ p.offset = 3 := by
  intro source p
  have here : (ofText source.toList).position? source.toList 3 = some p := by decide
  exact ⟨here, (agrees_with_rescan source 3).2.1 p here⟩

/-- What position `p` of byte `offset` says: its line starts where the columns are counted from, and the
text of its line is what stands there. -/
structure Places (text : List Char) (offset : Nat) (p : Position) : Prop where
  counted : 1 ≤ p.line ∧ p.line ≤ (ofText text).lineCount
  line : ∃ before within behind, text = before ++ within ++ behind ∧
    (ofText text).lineStart? p.line = some (Text.byteCount before) ∧
    Text.byteCount before ≤ offset ∧ Text.byteCount before + Text.byteCount within = offset ∧
    '\n' ∉ within ∧ p.column = within.length + 1 ∧
    ∃ line, Text.FirstLine (within ++ behind) line ∧
      LineExcerpt.at? text p = some ⟨p.line, line, p.column - 1⟩

theorem places_cut (front : List Char) (more : rest ≠ []) :
    Places (front ++ rest) (Text.byteCount front) (Position.start.advanceAll front) := by
  obtain ⟨before, within, rfl, ⟨begins, free⟩, start, place⟩ := exists_line_cut front rest
  have counted := (isSome_lineStart? _ _).1 (Option.isSome_of_eq_some start)
  have one : (before ++ within).count '\n' = before.count '\n' := by
    rw [List.count_append, List.count_eq_zero.2 free, Nat.add_zero]
  obtain ⟨line, first, found⟩ := Text.exists_firstLine (List.append_ne_nil_of_right_ne_nil within more)
  have excerpt : (Text.lines (before ++ within ++ rest))[(before ++ within).count '\n']? = some line := by
    rw [one, List.append_assoc, Text.getElem?_lines_behind begins, found]
  rw [place]
  refine ⟨counted, before, within, rest, rfl, start, ?_, ?_, free, rfl, line, first, ?_⟩
  · rw [Text.byteCount_append]
    exact Nat.le_add_right _ _
  · rw [Text.byteCount_append]
  · simp only [LineExcerpt.at?, excerpt, Option.map_some]

/-- A position tells its line and where it starts, the start of a line has a position that tells the
line, and the text of a line is what stands from its start up to the next newline. -/
theorem lines_and_places (source : String) :
    (∀ offset, Text.StartsChar source offset →
      ∃ p, (ofText source.toList).position? source.toList offset = some p ∧ Places source.toList offset p) ∧
    (∀ n, ((ofText source.toList).lineStart? n).isSome ↔ 1 ≤ n ∧ n ≤ (ofText source.toList).lineCount) ∧
    (∀ m n s t, m < n → (ofText source.toList).lineStart? m = some s →
      (ofText source.toList).lineStart? n = some t → s < t) ∧
    ∀ n s, (ofText source.toList).lineStart? n = some s → Text.StartsChar source s →
      (ofText source.toList).position? source.toList s = some ⟨s, n, 1⟩ := by
  refine ⟨?_, isSome_lineStart? _, fun m n s t => lineStart?_lt, ?_⟩
  · intro offset starts
    obtain ⟨front, c, rest, whole, rfl⟩ := Text.startsChar_iff.1 starts
    have more : c :: rest ≠ [] := List.cons_ne_nil c rest
    refine ⟨Position.start.advanceAll front, ?_, ?_⟩
    · rw [whole]
      exact position?_cut front more
    · rw [whole]
      exact places_cut front more
  · intro n s start starts
    obtain ⟨front, c, rest, whole, size⟩ := Text.startsChar_iff.1 starts
    obtain ⟨before, behind, cut, size', place⟩ := exists_cut_of_lineStart? start
    have same : Text.splitAtByte? source.toList s = some (before, behind) :=
      Text.splitAtByte?_eq_some_iff.2 ⟨cut, size'⟩
    have other : Text.splitAtByte? source.toList s = some (front, c :: rest) :=
      Text.splitAtByte?_eq_some_iff.2 ⟨whole, size⟩
    obtain ⟨rfl, rfl⟩ := Prod.mk.inj (Option.some.inj (same.symm.trans other))
    rw [cut, ← size', position?_cut before (List.cons_ne_nil c rest), place, size']

/-- A line that ends with a carriage return and a newline, and an empty one. -/
theorem lines_and_places_return :
    let source := "aж\r\n\nb"
    let index := ofText source.toList
    Text.StartsChar source 1 ∧ Places source.toList 1 ⟨1, 1, 2⟩ ∧
      index.lineStart? 1 = some 0 ∧ index.lineStart? 2 = some 5 ∧ 0 < 5 ∧
      Text.StartsChar source 5 ∧ index.position? source.toList 5 = some ⟨5, 2, 1⟩ := by
  intro source index
  obtain ⟨places, -, increase, back⟩ := lines_and_places source
  have inside : Text.StartsChar source 1 := by decide
  have begins : Text.StartsChar source 5 := by decide
  have first : index.lineStart? 1 = some 0 := rfl
  have second : index.lineStart? 2 = some 5 := by decide
  obtain ⟨p, here, placed⟩ := places 1 inside
  have place : index.position? source.toList 1 = some ⟨1, 1, 2⟩ := by decide
  obtain rfl := Option.some.inj (here.symm.trans place)
  exact ⟨inside, placed, first, second, increase 1 2 0 5 (by decide) first second, begins,
    back 2 5 second begins⟩

end LineIndex

end GoScan
