import GoScan.Text.Bytes

/-!
Places in a text: the byte offset, and the line and column counted from one. Columns count
characters.
-/

namespace GoScan

structure Position where
  offset : Nat
  line : Nat
  column : Nat
deriving DecidableEq, Repr, Inhabited

namespace Position

def start : Position := ⟨0, 1, 1⟩

/-- The position of what lies in no text. -/
def null : Position := ⟨0, 0, 0⟩

def isNull (p : Position) : Bool := p.line = 0

/-- The position after the character `c` that stands at `p`. -/
def advance (p : Position) (c : Char) : Position :=
  if c = '\n' then ⟨p.offset + c.utf8Size, p.line + 1, 1⟩
  else ⟨p.offset + c.utf8Size, p.line, p.column + 1⟩

def advanceAll (p : Position) (cs : List Char) : Position := cs.foldl advance p

/-- The position of the character that starts at byte `offset`, found by reading the text up to
it. There is none at the end of the text, past it, or inside a character. -/
def ofOffset? (text : List Char) (offset : Nat) : Option Position :=
  match Text.splitAtByte? text offset with
  | some (front, _ :: _) => some (start.advanceAll front)
  | _ => none

theorem advanceAll_append (p : Position) (a b : List Char) :
    p.advanceAll (a ++ b) = (p.advanceAll a).advanceAll b := List.foldl_append

theorem offset_advanceAll (p : Position) (cs : List Char) :
    (p.advanceAll cs).offset = p.offset + Text.byteCount cs := by
  induction cs generalizing p with
  | nil => rfl
  | cons c cs ih =>
    have := ih (p.advance c)
    simp only [advanceAll, List.foldl_cons, Text.byteCount] at this ⊢
    rw [this]
    unfold advance
    split <;> simp [Nat.add_assoc]

theorem line_advanceAll (p : Position) (cs : List Char) :
    (p.advanceAll cs).line = p.line + cs.count '\n' := by
  induction cs generalizing p with
  | nil => rfl
  | cons c cs ih =>
    have := ih (p.advance c)
    simp only [advanceAll, List.foldl_cons] at this ⊢
    rw [this, List.count_cons]
    unfold advance
    by_cases h : c = '\n' <;> simp [h, Nat.add_comm, Nat.add_left_comm]

/-- Within a line each character is a column. -/
theorem column_advanceAll {cs : List Char} (free : '\n' ∉ cs) (p : Position) :
    (p.advanceAll cs).column = p.column + cs.length := by
  induction cs generalizing p with
  | nil => rfl
  | cons c cs ih =>
    have here : c ≠ '\n' := fun same => free (same ▸ List.mem_cons_self)
    have := ih (fun later => free (List.mem_cons_of_mem c later)) (p.advance c)
    simp only [advanceAll, List.foldl_cons] at this ⊢
    rw [this, advance, if_neg here, List.length_cons, Nat.add_comm cs.length, Nat.add_assoc]

end Position

end GoScan
