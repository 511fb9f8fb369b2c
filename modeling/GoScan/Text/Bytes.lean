/-!
Texts as lists of characters, measured in bytes of UTF-8.
-/

namespace GoScan.Text

def byteCount : List Char → Nat
  | [] => 0
  | c :: cs => c.utf8Size + byteCount cs

/-- Cuts the text before byte `n`; refused past the end and inside a character. -/
def splitAtByte? : List Char → Nat → Option (List Char × List Char)
  | cs, 0 => some ([], cs)
  | [], _ + 1 => none
  | c :: cs, n + 1 =>
    if n + 1 < c.utf8Size then none
    else (splitAtByte? cs (n + 1 - c.utf8Size)).map fun cut => (c :: cut.1, cut.2)

@[simp] theorem byteCount_append (a b : List Char) :
    byteCount (a ++ b) = byteCount a + byteCount b := by
  induction a with
  | nil => simp [byteCount]
  | cons c cs ih => simp [byteCount, ih, Nat.add_assoc]

theorem byteCount_eq_zero_iff {cs : List Char} : byteCount cs = 0 ↔ cs = [] := by
  cases cs with
  | nil => simp [byteCount]
  | cons c cs =>
    have := Char.utf8Size_pos c
    simp [byteCount]
    omega

/-- A character has a byte at least. -/
theorem length_le_byteCount (cs : List Char) : cs.length ≤ byteCount cs := by
  induction cs with
  | nil => exact Nat.le_refl 0
  | cons c cs ih =>
    have := Char.utf8Size_pos c
    simp only [List.length_cons, byteCount]
    omega

theorem utf8ByteSize_ofList (cs : List Char) : (String.ofList cs).utf8ByteSize = byteCount cs := by
  induction cs with
  | nil => rfl
  | cons c cs ih =>
    rw [← List.singleton_append, String.ofList_append, String.utf8ByteSize_append, ih,
      ← String.singleton_eq_ofList, String.utf8ByteSize_singleton, List.singleton_append, byteCount]

theorem splitAtByte?_eq_some_iff {cs front rest : List Char} {n : Nat} :
    splitAtByte? cs n = some (front, rest) ↔ cs = front ++ rest ∧ byteCount front = n := by
  induction cs generalizing front rest n with
  | nil =>
    cases n with
    | zero => simp [splitAtByte?, byteCount_eq_zero_iff]; grind
    | succ n =>
      simp only [splitAtByte?, reduceCtorEq, false_iff, not_and]
      intro h
      have : front = [] := by simpa using (List.append_eq_nil_iff.1 h.symm).1
      simp [this, byteCount]
  | cons c cs ih =>
    have hc := Char.utf8Size_pos c
    cases n with
    | zero => simp only [splitAtByte?, byteCount_eq_zero_iff]; grind
    | succ n =>
      simp only [splitAtByte?]
      split
      · rename_i h
        simp only [reduceCtorEq, false_iff, not_and]
        intro he
        cases front with
        | nil => simp [byteCount]
        | cons d front =>
          obtain ⟨rfl, -⟩ := List.cons_eq_cons.1 he
          simp only [byteCount]
          omega
      · cases front with
        | nil => simp [byteCount]
        | cons d front =>
          simp only [Option.map_eq_some_iff, Prod.mk.injEq, Prod.exists, ih, byteCount,
            List.cons_append, List.cons.injEq]
          constructor
          · rintro ⟨a, b, ⟨rfl, hb⟩, ⟨rfl, rfl⟩, rfl⟩
            exact ⟨⟨rfl, rfl⟩, by omega⟩
          · rintro ⟨⟨rfl, rfl⟩, hb⟩
            exact ⟨front, rest, ⟨rfl, by omega⟩, ⟨rfl, rfl⟩, rfl⟩

end GoScan.Text
