import GoScan.LineIndex
import Mathlib.Data.List.TakeWhile

/-!
# A line index tells what reading from the start would tell

* `newlineOffsets_append`, `mem_newlineOffsets`: the newlines of a text are those of its parts, and
  each lies within its part;
* `newlinesBefore_cut`, `exists_line_cut`: where a text is cut, the index knows the line and its start;
* `position?_ofText`: the index has a position for the bytes that reading from the start has one
  for, and it is the same.
-/

namespace GoScan

/-- A text ends in the line behind its last newline. -/
theorem Text.exists_last_line (front : List Char) :
    '\n' ∉ front ∨ ∃ before line, front = before ++ '\n' :: line ∧ '\n' ∉ line := by
  by_cases single : '\n' ∈ front
  · -- the last newline is the first one from behind
    obtain ⟨line, before, reversed, free⟩ := List.eq_append_cons_of_mem (List.mem_reverse.2 single)
    refine .inr ⟨before.reverse, line.reverse, ?_, by simpa using free⟩
    simpa using congrArg List.reverse reversed
  · exact .inl single

namespace LineIndex

variable {n k : Nat}

@[simp] theorem size_ofText (text : List Char) : (ofText text).size = Text.byteCount text := rfl

theorem newlineOffsets_append (n : Nat) (a b : List Char) :
    newlineOffsets n (a ++ b) =
      newlineOffsets n a ++ newlineOffsets (n + Text.byteCount a) b := by
  induction a generalizing n with
  | nil => rfl
  | cons c a ih =>
    have onward := ih (n + c.utf8Size)
    simp only [List.cons_append, newlineOffsets, Text.byteCount, onward, Nat.add_assoc]
    split <;> rfl

theorem length_newlineOffsets (n : Nat) (cs : List Char) :
    (newlineOffsets n cs).length = cs.count '\n' := by
  induction cs generalizing n with
  | nil => rfl
  | cons c cs ih =>
    rw [newlineOffsets, List.count_cons]
    by_cases here : c = '\n'
    · simp [here, ih]
    · simp [here, ih]

theorem mem_newlineOffsets {cs : List Char} (h : k ∈ newlineOffsets n cs) :
    n ≤ k ∧ k < n + Text.byteCount cs := by
  induction cs generalizing n with
  | nil => simp [newlineOffsets] at h
  | cons c cs ih =>
    have wide := Char.utf8Size_pos c
    have later (h : k ∈ newlineOffsets (n + c.utf8Size) cs) :
        n ≤ k ∧ k < n + Text.byteCount (c :: cs) := by
      have := ih h
      rw [Text.byteCount]
      omega
    rw [newlineOffsets] at h
    split at h
    · rcases List.mem_cons.1 h with rfl | h
      · rw [Text.byteCount]
        omega
      · exact later h
    · exact later h

theorem pairwise_newlineOffsets (n : Nat) (cs : List Char) :
    (newlineOffsets n cs).Pairwise (· < ·) := by
  induction cs generalizing n with
  | nil => exact .nil
  | cons c cs ih =>
    rw [newlineOffsets]
    split
    · refine List.pairwise_cons.2 ⟨fun k later => ?_, ih (n + c.utf8Size)⟩
      have wide := Char.utf8Size_pos c
      have := (mem_newlineOffsets later).1
      omega
    · exact ih (n + c.utf8Size)

/-! ## Where a text is cut -/

variable {front rest : List Char}

theorem newlines_cut (front rest : List Char) :
    (ofText (front ++ rest)).newlines.takeWhile (· < Text.byteCount front) =
      newlineOffsets 0 front := by
  have before : ∀ k ∈ newlineOffsets 0 front, decide (k < Text.byteCount front) = true := by
    intro k mem
    have := (mem_newlineOffsets mem).2
    exact decide_eq_true (by omega)
  have none_behind : (newlineOffsets (0 + Text.byteCount front) rest).takeWhile
      (· < Text.byteCount front) = [] := by
    cases behind : newlineOffsets (0 + Text.byteCount front) rest with
    | nil => rfl
    | cons k ks =>
      have := (mem_newlineOffsets (behind ▸ List.mem_cons_self)).1
      exact List.takeWhile_cons_of_neg (by simp; omega)
  rw [ofText, newlineOffsets_append, List.takeWhile_append_of_pos before, none_behind,
    List.append_nil]

theorem newlinesBefore_cut (front rest : List Char) :
    (ofText (front ++ rest)).newlinesBefore (Text.byteCount front) = front.count '\n' := by
  rw [newlinesBefore, newlines_cut, length_newlineOffsets]

/-- Behind a newline the next line starts. -/
theorem lineStart?_behind (before behind : List Char) :
    (ofText (before ++ '\n' :: behind)).lineStart? (before.count '\n' + 2) =
      some (Text.byteCount before + 1) := by
  have newlines : (ofText (before ++ '\n' :: behind)).newlines =
      newlineOffsets 0 before ++
        Text.byteCount before :: newlineOffsets (Text.byteCount before + 1) behind := by
    rw [ofText, newlineOffsets_append, newlineOffsets, if_pos rfl, Nat.zero_add]
    rfl
  rw [lineStart?, newlines, ← length_newlineOffsets 0 before,
    List.getElem?_append_right (Nat.le_refl _), Nat.sub_self]
  rfl

/-- The line in which a text is cut: the index knows its number and its start. -/
theorem exists_line_cut (front rest : List Char) :
    ∃ begun line, front = begun ++ line ∧
      ((begun = [] ∨ begun.getLast? = some '\n') ∧ '\n' ∉ line) ∧
      (ofText (front ++ rest)).lineStart? (front.count '\n' + 1) = some (Text.byteCount begun) ∧
      Position.start.advanceAll front =
        ⟨Text.byteCount front, front.count '\n' + 1, line.length + 1⟩ := by
  have place (column : Nat) (h : (Position.start.advanceAll front).column = column) :
      Position.start.advanceAll front =
        ⟨Text.byteCount front, front.count '\n' + 1, column⟩ := by
    have offset := Position.offset_advanceAll .start front
    have number := Position.line_advanceAll .start front
    rw [← h]
    generalize Position.start.advanceAll front = p at offset number
    obtain ⟨o, l, c⟩ := p
    simp only [Position.start, Nat.zero_add] at offset number
    rw [offset, number, Nat.add_comm]
  rcases Text.exists_last_line front with free | ⟨before, line, whole, free⟩
  · refine ⟨[], front, rfl, ⟨.inl rfl, free⟩, ?_, place _ ?_⟩
    · rw [List.count_eq_zero.2 free]
      rfl
    · rw [Position.column_advanceAll free, Nat.add_comm]
      rfl
  · refine ⟨before ++ ['\n'], line, by simp [whole], ⟨.inr (by simp), free⟩, ?_, place _ ?_⟩
    · have count : front.count '\n' + 1 = before.count '\n' + 2 := by
        simp [whole, List.count_eq_zero.2 free]
      rw [count, whole, List.append_assoc, List.cons_append, lineStart?_behind,
        Text.byteCount_append]
      rfl
    · have parts : front = (before ++ ['\n']) ++ line := by simp [whole]
      rw [parts, Position.advanceAll_append, Position.column_advanceAll free,
        Position.advanceAll_append, Nat.add_comm]
      rfl

/-- Where a text is cut before its end, the index tells the place that reading leads to. -/
theorem position?_cut (front : List Char) (more : rest ≠ []) :
    (ofText (front ++ rest)).position? (front ++ rest) (Text.byteCount front) =
      some (Position.start.advanceAll front) := by
  obtain ⟨begun, line, whole, -, start, place⟩ := exists_line_cut front rest
  have inside : ¬(ofText (front ++ rest)).size ≤ Text.byteCount front := by
    have := Nat.pos_of_ne_zero (mt Text.byteCount_eq_zero_iff.1 more)
    rw [size_ofText, Text.byteCount_append]
    omega
  have cut_begun : Text.splitAtByte? (front ++ rest) (Text.byteCount begun) =
      some (begun, line ++ rest) :=
    Text.splitAtByte?_eq_some_iff.2 ⟨by rw [whole, List.append_assoc], rfl⟩
  have cut_line : Text.splitAtByte? (line ++ rest) (Text.byteCount front - Text.byteCount begun) =
      some (line, rest) := by
    refine Text.splitAtByte?_eq_some_iff.2 ⟨rfl, ?_⟩
    rw [whole, Text.byteCount_append]
    omega
  rw [position?, if_neg inside]
  simp only [newlinesBefore_cut, start, Option.getD_some, cut_begun, cut_line, place]

/-- No line starts behind the byte it is asked for. -/
theorem lineStart_le (index : LineIndex) (offset : Nat) :
    (index.lineStart? (index.newlinesBefore offset + 1)).getD 0 ≤ offset := by
  cases lines : index.newlinesBefore offset with
  | zero => exact Nat.zero_le offset
  | succ m =>
    have within : m < (index.newlines.takeWhile (· < offset)).length := by
      rw [newlinesBefore] at lines
      omega
    have known : index.newlines[m]? = some (index.newlines.takeWhile (· < offset))[m] :=
      List.prefix_iff_getElem?.1 (List.takeWhile_prefix _) m within
    have early := List.mem_takeWhile_imp (List.getElem_mem within)
    rw [lineStart?, known]
    exact of_decide_eq_true early

/-- The index has a position for the bytes that reading from the start has one for. -/
theorem position?_ofText (text : List Char) (offset : Nat) :
    (ofText text).position? text offset = Position.ofOffset? text offset := by
  rw [Position.ofOffset?]
  cases cut : Text.splitAtByte? text offset with
  | some parts =>
    obtain ⟨front, rest⟩ := parts
    obtain ⟨rfl, rfl⟩ := Text.splitAtByte?_eq_some_iff.1 cut
    cases rest with
    | nil =>
      rw [List.append_nil, position?, size_ofText, if_pos (Nat.le_refl _)]
    | cons c rest => exact position?_cut front (List.cons_ne_nil c rest)
  | none =>
    rw [position?]
    split
    · rfl
    · have early := lineStart_le (ofText text) offset
      dsimp only
      generalize ((ofText text).lineStart? ((ofText text).newlinesBefore offset + 1)).getD 0 = start
        at early ⊢
      cases cut_line : Text.splitAtByte? text start with
      | none => rfl
      | some begun =>
        cases cut_rest : Text.splitAtByte? begun.2 (offset - start) with
        | none => simp only [cut_rest]
        | some line =>
          -- two cuts, of the text and of what is left, would be one of the text
          obtain ⟨whole, size⟩ := Text.splitAtByte?_eq_some_iff.1 cut_line
          obtain ⟨left, more⟩ := Text.splitAtByte?_eq_some_iff.1 cut_rest
          have both : Text.splitAtByte? text offset = some (begun.1 ++ line.1, line.2) := by
            refine Text.splitAtByte?_eq_some_iff.2 ⟨?_, ?_⟩
            · rw [whole, left, List.append_assoc]
            · rw [Text.byteCount_append]
              omega
          rw [cut] at both
          exact absurd both.symm (Option.some_ne_none _)

end LineIndex

end GoScan
