import GoScan.Proofs.Pattern.Literal

/-!
# How long a text a pattern can be

Of the pattern for a text each automaton has one state for each byte of the text, and a few more. So the text
alone decides whether the pattern fits, by its length in bytes.

* `Outline.shape_literal`: the simplest shape of the pattern is the text, at the start of what is searched;
* `Shape.fits_literal`: its automata fit as long as the text has at most `literalLimit` bytes;
* `Outline.fits_literal_iff`: a rough count that is small enough never lets a longer text pass.
-/

namespace GoScan

open Text (byteCount)

variable {cs : List Char}

/-- The most bytes of a text whose pattern fits. -/
def literalLimit : Nat := 327674

namespace Text

theorem byteCount_le (cs : List Char) : byteCount cs ≤ 4 * cs.length := by
  induction cs with
  | nil => exact Nat.le_refl 0
  | cons c cs ih =>
    have := Char.utf8Size_le_four c
    rw [byteCount, List.length_cons]
    omega

theorem byteCount_replicate (n : Nat) (c : Char) : byteCount (List.replicate n c) = n * c.utf8Size := by
  induction n with
  | zero => rw [List.replicate_zero, Nat.zero_mul, byteCount]
  | succ n ih => rw [List.replicate_succ, byteCount, ih, Nat.succ_mul, Nat.add_comm]

theorem length_flatMap_utf8EncodeChar (cs : List Char) :
    (cs.flatMap String.utf8EncodeChar).length = byteCount cs := by
  induction cs with
  | nil => rfl
  | cons c cs ih => rw [List.flatMap_cons, List.length_append, ih, String.length_utf8EncodeChar, byteCount]

end Text

/-- Within the limit, in numbers. -/
theorem Tally.fits_iff (t : Tally) :
    t.fits ↔ 32 * t.states + 8 * t.transitions + 4 * t.ways ≤ 10485760 := by
  rw [fits, bytes, limit, decide_eq_true_iff]

namespace Shape

/-- The only member of a set of one character. -/
theorem ofMembers_single (known : Property → Unicode.CodeRanges) (c : Char) :
    ofMembers false ((CharSet.single c).members known) = literal [c] := by
  have valid : c.toNat < 0xD800 ∨ 0xDFFF < c.toNat ∧ c.toNat < 0x110000 := c.valid
  have alone : Unicode.CodeRange.withoutSurrogates ⟨c.toNat, c.toNat⟩ = [⟨c.toNat, c.toNat⟩] := by
    rw [Unicode.CodeRange.withoutSurrogates]
    rcases valid with low | ⟨high, -⟩
    · have below : min c.toNat 0xD7FF = c.toNat := by omega
      have above : ¬max c.toNat 0xE000 ≤ c.toNat := by omega
      simp [below, above]
    · have below : ¬c.toNat ≤ min c.toNat 0xD7FF := by omega
      have above : max c.toNat 0xE000 = c.toNat := by omega
      simp [below, above]
  have range : (CharSet.single c).members known = [⟨c.toNat, c.toNat⟩] := by
    rw [CharSet.members, CharSet.single, CharSet.ranges, if_pos (Char.le_refl c), List.flatMap_cons, alone]
    rfl
  rw [range, ofMembers, if_pos rfl, Char.ofNat_toNat]

theorem foldr_consPart (cs : List Char) (nonempty : cs ≠ []) :
    (cs.map fun c => literal [c]).foldr consPart [] = [literal cs] := by
  induction cs with
  | nil => exact absurd rfl nonempty
  | cons c cs ih =>
    cases cs with
    | nil => rfl
    | cons d cs =>
      rw [List.map_cons, List.foldr_cons, ih (List.cons_ne_nil d cs)]
      rfl

/-- Neighbouring characters are one text. -/
theorem sequence_literals (nonempty : cs ≠ []) :
    sequence (cs.map fun c => literal [c]) = literal cs := by
  have flat : cs.flatMap (fun c => [literal [c]]) = cs.map fun c => literal [c] := List.map_eq_flatMap.symm
  simp only [sequence, List.flatMap_map, flat, foldr_consPart cs nonempty]

theorem forwards_literal (cs : List Char) :
    (cat [.anchor .textStart, literal cs]).forwards = ⟨byteCount cs + 1, 0, 0⟩ := by
  simp only [forwards, List.map_cons, List.map_nil, Text.length_flatMap_utf8EncodeChar]
  change Tally.mk (0 + 1 + byteCount cs) 0 0 = _
  rw [Nat.zero_add, Nat.add_comm]

/-- Where the whole fits behind what is there, so does each part. -/
theorem backwards_literal (cs : List Char) (t : Tally) :
    (cat [.anchor .textStart, literal cs]).backwards t =
      (some ⟨t.states + byteCount cs + 1, t.transitions, t.ways⟩).filter Tally.fits := by
  have parts : (cat [.anchor .textStart, literal cs]).backwards t =
      (Builder.add (.ofStates (byteCount cs)) t).bind (Builder.add (.ofStates 1)) := by
    simp only [backwards, List.map_cons, List.map_nil, List.reverse_cons, List.reverse_nil, List.nil_append,
      List.cons_append, Text.length_flatMap_utf8EncodeChar, Builder.inTurn, List.foldlM_cons,
      List.foldlM_nil]
    simp
  rw [parts, Builder.add, Builder.ofFunction, Option.filter_some]
  split
  · rfl
  · rename_i full
    have more : ¬(Tally.mk (t.states + byteCount cs + 1) t.transitions t.ways).fits := by
      rw [Tally.fits_iff] at full ⊢
      change ¬32 * (t.states + byteCount cs) + 8 * t.transitions + 4 * t.ways ≤ _ at full
      dsimp only
      omega
    rw [Option.filter_some, if_neg more]
    rfl

/-- The automata of a text at the start of what is searched fit if the text is not too long. -/
theorem fits_literal (cs : List Char) :
    (cat [.anchor .textStart, literal cs]).fits ↔ byteCount cs ≤ literalLimit := by
  have front : (cat [.anchor .textStart, literal cs]).anchored false = true := by
    simp [anchored]
  have back : (cat [.anchor .textStart, literal cs]).anchored true = false := by
    simp [anchored]
  have towardsEnd : (entry true + ⟨byteCount cs + 1, 0, 0⟩ + .ofStates 3).fits ↔ byteCount cs ≤ 327675 := by
    rw [Tally.fits_iff]
    change 32 * (1 + (byteCount cs + 1) + 3) + 8 * 0 + 4 * 0 ≤ 10485760 ↔ _
    omega
  -- the automaton that reads towards the start has a loop in front of it, and is the larger one
  have built : (Tally.mk (3 + byteCount cs + 1) 1 2).fits ↔ byteCount cs ≤ 327675 := by
    rw [Tally.fits_iff]
    change 32 * (3 + byteCount cs + 1) + 8 * 1 + 4 * 2 ≤ 10485760 ↔ _
    omega
  have towardsStart : (Tally.mk (3 + byteCount cs + 1) 1 2 + .ofStates 1).fits ↔
      byteCount cs ≤ literalLimit := by
    rw [Tally.fits_iff, literalLimit]
    change 32 * (3 + byteCount cs + 1 + 1) + 8 * 1 + 4 * 2 ≤ 10485760 ↔ _
    omega
  rw [fits, front, back, forwards_literal, backwards_literal, Bool.and_eq_true, towardsEnd]
  change _ ∧ ((some (Tally.mk (3 + byteCount cs + 1) 1 2)).filter Tally.fits).any _ ↔ _
  rw [Option.filter_some]
  split
  · rw [Option.any_some, towardsStart, literalLimit]
    omega
  · rename_i full
    rw [built] at full
    have tooLong : ¬byteCount cs ≤ literalLimit := by
      rw [literalLimit]
      omega
    simp [tooLong]

end Shape

namespace Outline

theorem shape_ofText (known : Property → Unicode.CodeRanges) (nonempty : cs ≠ []) :
    (Outline.ofText cs).shape known = .literal cs := by
  have each (c : Char) : (Outline.set (.single c)).shape known = .literal [c] := by
    rw [shape, Shape.ofMembers_single]
  cases cs with
  | nil => exact absurd rfl nonempty
  | cons c cs =>
    cases cs with
    | nil => exact each c
    | cons d cs =>
      change (Outline.cat ((c :: d :: cs).map fun c => .set (.single c))).shape known = _
      rw [shape, List.map_map, ← Shape.sequence_literals (List.cons_ne_nil c (d :: cs))]
      exact congrArg Shape.sequence (List.map_congr_left fun c _ => each c)

/-- The simplest shape of the pattern of a text. -/
theorem shape_literal (known : Property → Unicode.CodeRanges) (nonempty : cs ≠ []) :
    (Outline.cat [.anchor .textStart, .ofText cs]).shape known =
      .cat [.anchor .textStart, .literal cs] := by
  rw [shape]
  simp [shape_ofText known nonempty, shape, Shape.sequence, Shape.consPart]

theorem roughSum_chars (cs : List Char) :
    roughSum (cs.map fun c => .set (.single c)) = 2120 * cs.length := by
  induction cs with
  | nil => rfl
  | cons c cs ih =>
    rw [List.map_cons, roughSum, ih, List.length_cons]
    change 2048 + 64 + 8 + 2120 * cs.length = _
    omega

theorem roughBytes_ofText (cs : List Char) : 2112 * cs.length ≤ (Outline.ofText cs).roughBytes := by
  cases cs with
  | nil => exact Nat.zero_le _
  | cons c cs =>
    cases cs with
    | nil => exact Nat.le_refl 2112
    | cons d cs =>
      change _ ≤ roughSum ((c :: d :: cs).map fun c => .set (.single c)) + 64
      rw [roughSum_chars]
      omega

/-- The pattern fits if the text is not too long. -/
theorem fits_literal_iff (cs : List Char) :
    (Outline.cat [.anchor .textStart, .ofText cs]).fits ↔ byteCount cs ≤ literalLimit := by
  by_cases empty : cs = []
  · subst empty
    decide
  · have bytes := Text.byteCount_le cs
    have rough := roughBytes_ofText cs
    have whole : (Outline.cat [.anchor .textStart, .ofText cs]).roughBytes =
        64 + 8 + ((Outline.ofText cs).roughBytes + 8 + 0) + 64 := rfl
    simp only [fits, shape_literal _ empty, Bool.or_eq_true, Shape.fits_literal, decide_eq_true_iff, whole,
      Tally.limit, literalLimit]
    omega

end Outline

end GoScan
