import GoScan.Pattern.Escape
import GoScan.Text.Quoted
import Mathlib.Data.List.Chain
import Std.Data.String.ToNat

/-!
# Quoted text can be read back

The written form of a character tells where it ends, so that a written text is read back character by
character. A quote in it stands behind a backslash, and all of it is printable.

* `unescape?_escapeChar`: the written form of a character, with anything behind it;
* `flatMap_escapeChar_inj`: texts are told apart by their written forms;
* `append_quote_inj`: so are they where something stands before them, if a space parts it from the quote;
* `isPrintable_of_mem_quote`: nothing of the written form breaks the line or is a control character.
-/

namespace GoScan.Text

/-! ## Digits -/

theorem digitChar_of_mem_toDigits {base n : Nat} (two : 1 < base) {c : Char}
    (mem : c ∈ Nat.toDigits base n) : ∃ d < base, c = Nat.digitChar d := by
  induction n using Nat.strongRecOn with
  | ind n ih =>
    by_cases small : n < base
    · rw [Nat.toDigits_of_lt_base small] at mem
      exact ⟨n, small, List.mem_singleton.1 mem⟩
    · have large : base ≤ n := Nat.le_of_not_lt small
      rw [Nat.toDigits_of_base_le two large] at mem
      rcases List.mem_append.1 mem with front | last
      · exact ih (n / base) (Nat.div_lt_self (by omega) two) front
      · exact ⟨n % base, Nat.mod_lt n (by omega), List.mem_singleton.1 last⟩

theorem isDigit_of_mem_toString {n : Nat} {c : Char} (mem : c ∈ (toString n).toList) : c.isDigit := by
  rw [Nat.toString_eq_repr, Nat.toList_repr] at mem
  exact Nat.isDigit_of_mem_toDigits (by decide) (by decide) mem

/-- The number that these digits write. -/
def ofHexadecimal (digits : List Char) : Nat :=
  digits.foldl (fun n d => 16 * n + (Escape.hexValue? d).getD 0) 0

theorem hexValue?_digitChar : ∀ d < 16, Escape.hexValue? (Nat.digitChar d) = some d := by decide

theorem ofHexadecimal_hexadecimal (n : Nat) : ofHexadecimal (hexadecimal n) = n := by
  induction n using Nat.strongRecOn with
  | ind n ih =>
    by_cases small : n < 16
    · have one : hexadecimal n = [Nat.digitChar n] := Nat.toDigits_of_lt_base small
      rw [one, ofHexadecimal, List.foldl_cons, List.foldl_nil, hexValue?_digitChar n small]
      exact Nat.zero_add n
    · have more : hexadecimal n = hexadecimal (n / 16) ++ [Nat.digitChar (n % 16)] :=
        Nat.toDigits_of_base_le (by decide) (Nat.le_of_not_lt small)
      have front := ih (n / 16) (by omega)
      rw [ofHexadecimal] at front
      rw [more, ofHexadecimal, List.foldl_append, front, List.foldl_cons, List.foldl_nil,
        hexValue?_digitChar _ (Nat.mod_lt n (by decide))]
      exact Nat.div_add_mod n 16

/-! ## One character -/

/-- The character written at the start of an escaped text, and what stands behind it. -/
def unescape? : List Char → Option (Char × List Char)
  | '\\' :: 'u' :: '{' :: cs =>
    some (.ofNat (ofHexadecimal (cs.takeWhile (· ≠ '}'))), (cs.dropWhile (· ≠ '}')).tail)
  | '\\' :: '0' :: cs => some ('\x00', cs)
  | '\\' :: 't' :: cs => some ('\t', cs)
  | '\\' :: 'r' :: cs => some ('\r', cs)
  | '\\' :: 'n' :: cs => some ('\n', cs)
  | '\\' :: c :: cs => some (c, cs)
  | c :: cs => some (c, cs)
  | [] => none

variable {c d : Char} {a b rest rest' text text' : List Char}

theorem unescape?_of_plain (plain : c ≠ '\\') (rest : List Char) :
    unescape? (c :: rest) = some (c, rest) := by
  unfold unescape?
  split <;> simp_all

theorem unescape?_hexadecimal (c : Char) (rest : List Char) :
    unescape? ('\\' :: 'u' :: '{' :: (hexadecimal c.toNat ++ '}' :: rest)) = some (c, rest) := by
  have none_closes : ∀ n < 16, Nat.digitChar n ≠ '}' := by decide
  have inside : ∀ d ∈ hexadecimal c.toNat, decide (d ≠ '}') = true := by
    intro d mem
    obtain ⟨n, small, rfl⟩ := digitChar_of_mem_toDigits (by decide) mem
    exact decide_eq_true (none_closes n small)
  have digits : (hexadecimal c.toNat ++ '}' :: rest).takeWhile (· ≠ '}') = hexadecimal c.toNat := by
    rw [List.takeWhile_append_of_pos inside, List.takeWhile_cons_of_neg (by decide), List.append_nil]
  have behind : (hexadecimal c.toNat ++ '}' :: rest).dropWhile (· ≠ '}') = '}' :: rest := by
    rw [List.dropWhile_append_of_pos inside, List.dropWhile_cons_of_neg (by decide)]
  rw [unescape?, digits, behind, ofHexadecimal_hexadecimal, Char.ofNat_toNat]
  rfl

/-- The written form of a character is read as the character, whatever stands behind it. -/
theorem unescape?_escapeChar (c : Char) (rest : List Char) :
    unescape? (escapeChar c ++ rest) = some (c, rest) := by
  unfold escapeChar
  split
  -- the characters with a form of their own
  iterate 6 rfl
  · split
    · exact unescape?_of_plain ‹_› rest
    · have whole : ['\\', 'u', '{'] ++ hexadecimal c.toNat ++ ['}'] ++ rest =
          '\\' :: 'u' :: '{' :: (hexadecimal c.toNat ++ '}' :: rest) := by simp
      rw [whole, unescape?_hexadecimal]

/-! ## Texts -/

theorem flatMap_escapeChar_inj (same : text.flatMap escapeChar = text'.flatMap escapeChar) :
    text = text' := by
  induction text generalizing text' with
  | nil =>
    cases text' with
    | nil => rfl
    | cons d ds =>
      have read := unescape?_escapeChar d (ds.flatMap escapeChar)
      rw [← List.flatMap_cons, ← same] at read
      exact absurd read.symm (Option.some_ne_none _)
  | cons c cs ih =>
    have read := unescape?_escapeChar c (cs.flatMap escapeChar)
    rw [← List.flatMap_cons, same] at read
    cases text' with
    | nil => exact absurd read.symm (Option.some_ne_none _)
    | cons d ds =>
      rw [List.flatMap_cons, unescape?_escapeChar, Option.some.injEq, Prod.mk.injEq] at read
      obtain ⟨rfl, behind⟩ := read
      rw [ih behind.symm]

/-- The second character is no quote, unless the first is a backslash. -/
def QuoteEscaped (c d : Char) : Prop := d = '"' → c = '\\'

theorem isChain_of_no_quote (free : '"' ∉ a) : a.IsChain QuoteEscaped := by
  apply List.Pairwise.isChain
  apply List.pairwise_of_forall_mem_list
  intro c _ d mem quote
  rw [quote] at mem
  exact absurd mem free

theorem not_quote_mem_hexadecimal (n : Nat) : '"' ∉ hexadecimal n := by
  intro mem
  obtain ⟨d, small, same⟩ := digitChar_of_mem_toDigits (by decide) mem
  have none_quotes : ∀ d < 16, '"' ≠ Nat.digitChar d := by decide
  exact none_quotes d small same

/-- The written form of a character does not begin with a quote, and has one behind a backslash only. -/
theorem quoteEscaped_escapeChar (c : Char) :
    (escapeChar c).IsChain QuoteEscaped ∧ ∃ first more, escapeChar c = first :: more ∧ first ≠ '"' := by
  unfold escapeChar
  split
  case h_5 => exact ⟨by simp [QuoteEscaped], _, _, rfl, by decide⟩
  case h_7 =>
    rename_i no_quote _
    split
    · exact ⟨isChain_of_no_quote (by simpa using Ne.symm no_quote), _, _, rfl, no_quote⟩
    · refine ⟨isChain_of_no_quote ?_, _, _, rfl, by decide⟩
      have digits := not_quote_mem_hexadecimal c.toNat
      simp [digits]
  all_goals exact ⟨isChain_of_no_quote (by decide), _, _, rfl, by decide⟩

theorem quoteEscaped_flatMap (text : List Char) :
    (text.flatMap escapeChar).IsChain QuoteEscaped ∧ '"' ∉ (text.flatMap escapeChar).head? := by
  induction text with
  | nil => exact ⟨.nil, Option.not_mem_none _⟩
  | cons c cs ih =>
    obtain ⟨later, head⟩ := ih
    obtain ⟨here, first, more, form, no_quote⟩ := quoteEscaped_escapeChar c
    rw [List.flatMap_cons]
    constructor
    · refine List.isChain_append.2 ⟨here, later, ?_⟩
      intro x _ y next quote
      rw [quote] at next
      exact absurd next head
    · rw [form, List.cons_append, List.head?_cons]
      intro quote
      exact no_quote (Option.mem_some_iff.1 quote)

/-- The opening quote is the last one that stands behind a space, but for the one at the end. -/
theorem opening_last {middle : List Char}
    (same : ' ' :: '"' :: text.flatMap escapeChar = middle ++ ' ' :: '"' :: text'.flatMap escapeChar) :
    middle = [] := by
  cases middle with
  | nil => rfl
  | cons c middle =>
    rw [List.cons_append, List.cons.injEq] at same
    cases middle with
    | nil =>
      have clash := (List.cons.inj same.2).1
      exact absurd clash (by decide)
    | cons d middle =>
      have inside := (List.cons.inj same.2).2
      have escaped := List.isChain_iff_forall_rel_of_append_cons_cons.1
        (quoteEscaped_flatMap text).1 inside
      exact absurd (escaped rfl) (by decide)

/-- Where a quoted text stands behind a space, it can be told where it begins, and what it says. -/
theorem append_quote_inj (same : a ++ ' ' :: quote text = b ++ ' ' :: quote text') :
    a = b ∧ text = text' := by
  have whole (front cs : List Char) :
      front ++ ' ' :: quote cs = front ++ ' ' :: '"' :: cs.flatMap escapeChar ++ ['"'] := by
    simp [quote]
  rw [whole, whole, List.append_left_inj] at same
  have fronts : a = b := by
    rcases List.append_eq_append_iff.1 same with ⟨middle, longer, rest⟩ | ⟨middle, longer, rest⟩
    · rw [longer, opening_last rest, List.append_nil]
    · rw [longer, opening_last rest, List.append_nil]
  rw [fronts, List.append_right_inj, List.cons.injEq, List.cons.injEq] at same
  exact ⟨fronts, flatMap_escapeChar_inj same.2.2⟩

/-! ## What is printable -/

theorem isPrintable_of_mem_toDigits {base n : Nat} (two : 1 < base) (most : base ≤ 16)
    (mem : c ∈ Nat.toDigits base n) : Unicode.isPrintable c := by
  obtain ⟨d, small, rfl⟩ := digitChar_of_mem_toDigits two mem
  have all_printable : ∀ d < 16, Unicode.isPrintable (Nat.digitChar d) := by decide
  exact all_printable d (by omega)

theorem isPrintable_of_mem_toString {n : Nat} (mem : c ∈ (toString n).toList) :
    Unicode.isPrintable c := by
  rw [Nat.toString_eq_repr, Nat.toList_repr] at mem
  exact isPrintable_of_mem_toDigits (by decide) (by decide) mem

theorem isPrintable_of_mem_escapeChar (mem : d ∈ escapeChar c) : Unicode.isPrintable d := by
  have marks : ['\\', '0', 't', 'r', 'n', '"', 'u', '{', '}'].all Unicode.isPrintable := by decide
  rw [List.all_eq_true] at marks
  unfold escapeChar at mem
  split at mem
  case h_7 =>
    split at mem
    · rename_i shown
      rw [Bool.and_eq_true] at shown
      rw [List.mem_singleton.1 mem]
      exact shown.1
    · simp only [List.cons_append, List.nil_append, List.mem_cons, List.mem_append, List.not_mem_nil,
        or_false] at mem
      rcases mem with rfl | rfl | rfl | digit | rfl
      case inr.inr.inr.inl => exact isPrintable_of_mem_toDigits (by decide) (by decide) digit
      all_goals exact marks _ (by simp)
  all_goals
    rcases List.mem_pair.1 mem with rfl | rfl
    all_goals exact marks _ (by simp)

/-- All of the written form of a text is printable. -/
theorem isPrintable_of_mem_quote (mem : c ∈ quote text) : Unicode.isPrintable c := by
  have mark : Unicode.isPrintable '"' := by decide
  rw [quote, List.mem_append, List.mem_cons, List.mem_singleton] at mem
  rcases mem with (rfl | inside) | rfl
  · exact mark
  · obtain ⟨d, -, escaped⟩ := List.mem_flatMap.1 inside
    exact isPrintable_of_mem_escapeChar escaped
  · exact mark

/-- What is printable is no control character; the ends of lines are such. -/
theorem not_control_of_isPrintable (printable : Unicode.isPrintable c) :
    Unicode.category c ≠ .cc ∧ c ≠ '\n' ∧ c ≠ '\r' := by
  refine ⟨?_, ?_, ?_⟩
  · intro control
    rw [Unicode.isPrintable, control, Bool.or_eq_true] at printable
    rcases printable with blank | other
    · rw [of_decide_eq_true blank] at control
      exact absurd control (by decide)
    · exact absurd other (by simp [Unicode.Category.isOther])
  · rintro rfl
    exact absurd printable (by decide)
  · rintro rfl
    exact absurd printable (by decide)

end GoScan.Text
