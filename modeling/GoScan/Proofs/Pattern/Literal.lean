import GoScan.Grammar
import GoScan.Proofs.Pattern.Definite

/-!
# The pattern for a text is read as that text

A backslash before each character that would mean something makes the reader take the characters for
themselves, one in each step. So it reads a group that holds them one behind another, at the start of the
text.

* `Reader.step_literal`: one step reads one character, with its backslash if it has one;
* `Reader.run_literal`: so many steps read so many characters;
* `Outline.read_literal`: what is read of the whole, which no text makes too deep.
-/

namespace GoScan

/-- The outline of a text, as it is read. -/
def Outline.ofText : List Char → Outline
  | [c] => .set (.single c)
  | cs => .cat (cs.map fun c => .set (.single c))

variable {c : Char} {cs : List Char}

namespace Escape

/-- A backslash before a character that means something makes it stand for itself. -/
theorem read_of_isMeta [PatternLibrary] (flags : Flags) (h : isMeta c) (cs : List Char) :
    read flags (c :: cs) = .ok (.char c, cs) := by
  simp only [isMeta, List.contains_iff_mem, List.mem_cons, List.not_mem_nil, or_false] at h
  rcases h with rfl | rfl | rfl | rfl | rfl | rfl | rfl | rfl | rfl | rfl | rfl | rfl | rfl | rfl | rfl | rfl |
    rfl | rfl <;> rfl

theorem length_le_literal (cs : List Char) : cs.length ≤ (literal cs).length := by
  induction cs with
  | nil => exact Nat.le_refl 0
  | cons c cs ih =>
    rw [literal]
    split
    · rw [List.length_cons, List.length_cons, List.length_cons]
      omega
    · simpa using ih

end Escape

namespace Reader

variable {s : State}

/-- The character for itself is the next part. -/
def State.addChar (s : State) (c : Char) : State := s.add (.set (.single c))

theorem ofElement_char (plain : s.flags = .none) (c : Char) :
    ofElement s.flags (.char c) = .set (.single c) := by
  rw [plain]
  rfl

variable [PatternLibrary]

/-- A character that means nothing by itself is taken for itself. -/
theorem step_of_not_isMeta (plain : s.flags = .none) (h : Escape.isMeta c = false) (rest : List Char) :
    step s c rest = .ok (s.addChar c, rest) := by
  unfold step
  split
  -- each of the first twelve cases is a character that means something
  iterate 12 exact absurd h (by decide)
  rw [ofElement_char plain]
  rfl

theorem step_of_isMeta (plain : s.flags = .none) (h : Escape.isMeta c) (rest : List Char) :
    step s '\\' (c :: rest) = .ok (s.addChar c, rest) := by
  change (Escape.read s.flags (c :: rest)).map _ = _
  rw [Escape.read_of_isMeta s.flags h]
  change Except.ok (s.add (ofElement s.flags (.char c)), rest) = _
  rw [ofElement_char plain]
  rfl

theorem run_nil (fuel : Nat) (s : State) : run fuel s [] = .ok s := by
  cases fuel with
  | zero => rfl
  | succ fuel =>
    have nothing : Blank.drop s.flags.verbose [] = [] := by
      rw [Blank.drop]
      split <;> rfl
    rw [run, nothing]

/-- Where blanks count, a step reads what stands next. -/
theorem run_cons (plain : s.flags = .none) {s' : State} {left : List Char}
    (h : step s c cs = .ok (s', left)) (fuel : Nat) : run (fuel + 1) s (c :: cs) = run fuel s' left := by
  have next : Blank.drop s.flags.verbose (c :: cs) = c :: cs := by
    rw [plain]
    rfl
  simp only [run, next, h]

/-- One step reads one character of the text. -/
theorem step_literal (plain : s.flags = .none) (c : Char) (cs rest : List Char) (fuel : Nat) :
    run (fuel + 1) s (Escape.literal (c :: cs) ++ rest) =
      run fuel (s.addChar c) (Escape.literal cs ++ rest) := by
  rw [Escape.literal]
  cases h : Escape.isMeta c with
  | true => exact run_cons plain (step_of_isMeta plain h _) fuel
  | false => exact run_cons plain (step_of_not_isMeta plain h _) fuel

/-- As many steps as there are characters read the text. -/
theorem run_literal (plain : s.flags = .none) (cs rest : List Char) (fuel : Nat) :
    run (cs.length + fuel) s (Escape.literal cs ++ rest) = run fuel (cs.foldl State.addChar s) rest := by
  induction cs generalizing s with
  | nil => rw [List.length_nil, Nat.zero_add, Escape.literal, List.nil_append, List.foldl_nil]
  | cons c cs ih =>
    rw [List.length_cons, Nat.add_right_comm, step_literal plain, List.foldl_cons]
    exact ih plain

end Reader

/-- The characters as the items of a level, last first. -/
def Item.chars (cs : List Char) : List Item :=
  (cs.map fun c => .piece (.leaf (.set (.single c)))).reverse

/-- Characters are one deep at most. -/
theorem Item.sequence_chars (cs : List Char) :
    (sequence (chars cs)).outline = .ofText cs ∧ (sequence (chars cs)).depth ≤ 1 := by
  have pieces : (chars cs).reverse.filterMap piece? = cs.map fun c => .leaf (.set (.single c)) := by
    rw [chars, List.reverse_reverse, List.filterMap_map]
    exact congrFun List.filterMap_eq_map cs
  have flat (cs : List Char) : Piece.maxDepth (cs.map fun c => .leaf (.set (.single c))) = 0 := by
    induction cs with
    | nil => rfl
    | cons c cs ih => exact ih
  constructor
  · rw [sequence, pieces]
    cases cs with
    | nil => rfl
    | cons c cs =>
      cases cs with
      | nil => rfl
      | cons d cs => simp [Outline.ofText, Piece.leaf]
  · rw [sequence, pieces, flat]
    change (if 2 ≤ (chars cs).length then 0 + 1 else 0) ≤ 1
    split <;> decide

namespace Reader

/-- The characters are items of the present level, and nothing else has changed. -/
theorem foldl_addChar (cs : List Char) (s : State) : cs.foldl State.addChar s =
    { s with level := { s.level with items := Item.chars cs ++ s.level.items } } := by
  induction cs generalizing s with
  | nil => rfl
  | cons c cs ih => simp [ih, State.addChar, State.add, Level.add, Item.chars]

/-- What has been read where the group around a text is closed. -/
def closed (cs : List Char) : State :=
  let level : Level := ⟨[], [.piece (.leaf (.anchor .textStart))]⟩
  ⟨.none, level.addPiece ((Item.sequence (Item.chars cs)).grouped none), [], [], 0⟩

theorem run_anchored [PatternLibrary] (cs : List Char) :
    run (Pattern.anchored (Escape.literal cs)).length .start (Pattern.anchored (Escape.literal cs)) =
      .ok (closed cs) := by
  obtain ⟨more, size⟩ := Nat.exists_eq_add_of_le (Escape.length_le_literal cs)
  have whole : Pattern.anchored (Escape.literal cs) =
      '^' :: '(' :: '?' :: ':' :: (Escape.literal cs ++ [')']) := rfl
  have fuel : (Pattern.anchored (Escape.literal cs)).length = cs.length + (more + 2 + 1) + 1 + 1 := by
    rw [whole]
    simp only [List.length_cons, List.length_append, List.length_nil, size]
    omega
  let before : State := State.start.add (.anchor .textStart)
  let inside : State := before.enter .none none
  have start : step .start '^' ('(' :: '?' :: ':' :: (Escape.literal cs ++ [')'])) =
      .ok (before, '(' :: '?' :: ':' :: (Escape.literal cs ++ [')'])) := rfl
  have opened : step before '(' ('?' :: ':' :: (Escape.literal cs ++ [')'])) =
      .ok (inside, Escape.literal cs ++ [')']) := rfl
  have last : step (cs.foldl State.addChar inside) ')' [] = .ok (closed cs, []) := by
    have items : Item.chars cs ++ inside.level.items = Item.chars cs := List.append_nil _
    rw [foldl_addChar, items]
    rfl
  have plain : (cs.foldl State.addChar inside).flags = .none := by
    rw [foldl_addChar]
    rfl
  rw [fuel, whole, run_cons rfl start, run_cons rfl opened, run_literal rfl, run_cons plain last, run_nil]

end Reader

/-- The text is read as a group that holds it, at the start of what is searched. -/
theorem Outline.read_literal [PatternLibrary] (cs : List Char) :
    Outline.read (Pattern.anchored (Escape.literal cs)) =
      .ok (.cat [.anchor .textStart, .ofText cs]) := by
  obtain ⟨outline, depth⟩ := Item.sequence_chars cs
  have level : (Reader.closed cs).level.close =
      ⟨.cat [.anchor .textStart, .ofText cs], (Item.sequence (Item.chars cs)).depth + 1 + 1⟩ := by
    rw [← outline]
    change Piece.mk _ (max 0 ((Item.sequence (Item.chars cs)).depth + 1) + 1) = _
    rw [Nat.zero_max]
    rfl
  have shallow : ¬Pattern.maxDepth < (Item.sequence (Item.chars cs)).depth + 1 + 1 := by
    rw [Pattern.maxDepth]
    omega
  rw [Outline.read, Reader.run_anchored]
  change (if Pattern.maxDepth < (Reader.closed cs).level.close.depth then _ else _) = _
  rw [level, if_neg shallow]

namespace Pattern

theorem patterns_chars (cs : List Char) :
    Outline.patterns (cs.map fun c => .set (.single c)) = cs.map fun c => set (.single c) := by
  induction cs with
  | nil => rfl
  | cons c cs ih => rw [List.map_cons, Outline.patterns, ih, Outline.pattern, List.map_cons]

/-- The pattern of the text is the word that it is. -/
theorem pattern_literal (cs : List Char) :
    (Outline.cat [.anchor .textStart, .ofText cs]).pattern = cat (anchor .textStart) (word cs) := by
  have inside : (Outline.ofText cs).pattern = word cs := by
    cases cs with
    | nil => rfl
    | cons c cs =>
      cases cs with
      | nil => rfl
      | cons d cs =>
        change (Outline.cat ((c :: d :: cs).map fun c => .set (.single c))).pattern = _
        rw [Outline.pattern, patterns_chars, word]
  rw [Outline.pattern, Outline.patterns, Outline.patterns, Outline.patterns, Outline.pattern, inside]
  rfl

end Pattern

end GoScan
