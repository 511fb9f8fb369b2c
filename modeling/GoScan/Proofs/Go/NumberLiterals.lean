import GoScan.Proofs.Pattern.Walking
import GoScan.Proofs.Go.Entries

/-!
# Number literals

The integer and floating-point literals of Go by their grammar, and how their parts are followed.

* `IntegerLiteral`, `FloatLiteral`: the literals;
* `next_of_atBoundary`: what cannot stand behind one that is followed by no word;
* `takes_digits`, `takes_power`: digits and exponents are taken whole;
* `refuses_digits`, `refuses_power`: they are not parted either.
-/

namespace GoScan.Go

open Pattern

/-! ## Literals -/

def isDecimal (c : Char) : Bool := '0' ≤ c && c ≤ '9'

def isBinary (c : Char) : Bool := c = '0' || c = '1'

def isOctal (c : Char) : Bool := '0' ≤ c && c ≤ '7'

def isHex (c : Char) : Bool := isDecimal c || 'a' ≤ c && c ≤ 'f' || 'A' ≤ c && c ≤ 'F'

/-- Digits, between two of which an underscore may stand. -/
inductive Digits (isDigit : Char → Bool) : List Char → Prop
  | last {c : Char} : isDigit c → Digits isDigit [c]
  | next {c : Char} {ds : List Char} : isDigit c → Digits isDigit ds → Digits isDigit (c :: ds)
  | low {c : Char} {ds : List Char} : isDigit c → Digits isDigit ds → Digits isDigit (c :: '_' :: ds)

/-- Digits behind a digit or a mark, from which an underscore may part them. -/
inductive Further (isDigit : Char → Bool) : List Char → Prop
  | plain {ds : List Char} : Digits isDigit ds → Further isDigit ds
  | low {ds : List Char} : Digits isDigit ds → Further isDigit ('_' :: ds)

/-- A part that may be missing. -/
def Maybe (part : List Char → Prop) (T : List Char) : Prop := T = [] ∨ part T

inductive IntegerLiteral : List Char → Prop
  | zero : IntegerLiteral ['0']
  | decimal {c : Char} {ds : List Char} : isDecimal c → c ≠ '0' → Maybe (Further isDecimal) ds →
      IntegerLiteral (c :: ds)
  | binary {b : Char} {ds : List Char} : b ∈ ['b', 'B'] → Further isBinary ds →
      IntegerLiteral ('0' :: b :: ds)
  | octal {ds : List Char} : Further isOctal ds → IntegerLiteral ('0' :: ds)
  | markedOctal {o : Char} {ds : List Char} : o ∈ ['o', 'O'] → Further isOctal ds →
      IntegerLiteral ('0' :: o :: ds)
  | hexadecimal {x : Char} {ds : List Char} : x ∈ ['x', 'X'] → Further isHex ds →
      IntegerLiteral ('0' :: x :: ds)

inductive Exponent (marks : List Char) : List Char → Prop
  | mk {m : Char} {sign ds : List Char} : m ∈ marks → sign ∈ [[], ['+'], ['-']] → Digits isDecimal ds →
      Exponent marks (m :: (sign ++ ds))

inductive HexMantissa : List Char → Prop
  | point {ds more : List Char} : Further isHex ds → Maybe (Digits isHex) more →
      HexMantissa (ds ++ '.' :: more)
  | whole {ds : List Char} : Further isHex ds → HexMantissa ds
  | fraction {ds : List Char} : Digits isHex ds → HexMantissa ('.' :: ds)

inductive FloatLiteral : List Char → Prop
  | point {ds more e : List Char} : Digits isDecimal ds → Maybe (Digits isDecimal) more →
      Maybe (Exponent ['e', 'E']) e → FloatLiteral (ds ++ '.' :: (more ++ e))
  | exponent {ds e : List Char} : Digits isDecimal ds → Exponent ['e', 'E'] e → FloatLiteral (ds ++ e)
  | fraction {ds e : List Char} : Digits isDecimal ds → Maybe (Exponent ['e', 'E']) e →
      FloatLiteral ('.' :: (ds ++ e))
  | hexadecimal {x : Char} {m e : List Char} : x ∈ ['x', 'X'] → HexMantissa m → Exponent ['p', 'P'] e →
      FloatLiteral ('0' :: x :: (m ++ e))

variable {isDigit : Char → Bool} {s : CharSet} {c : Char} {T L a after text ds e : List Char} {rest : Rest}

theorem Digits.inside (low : s.contains '_') (inside : ∀ c, isDigit c → s.contains c) (h : Digits isDigit ds) :
    ∀ c ∈ ds, s.contains c := by
  induction h with
  | last d => simpa using inside _ d
  | next d _ ih => simpa [inside _ d] using ih
  | low d _ ih => simpa [inside _ d, low] using ih

theorem Digits.exists_cons (h : Digits isDigit ds) : ∃ c cs, ds = c :: cs ∧ isDigit c := by
  cases h with
  | last d => exact ⟨_, _, rfl, d⟩
  | next d _ => exact ⟨_, _, rfl, d⟩
  | low d _ => exact ⟨_, _, rfl, d⟩

theorem Further.inside (low : s.contains '_') (inside : ∀ c, isDigit c → s.contains c)
    (h : Further isDigit ds) :
    ds ≠ [] ∧ ∀ c ∈ ds, s.contains c := by
  cases h with
  | plain digits =>
    obtain ⟨c, cs, rfl, -⟩ := digits.exists_cons
    exact ⟨List.cons_ne_nil c cs, digits.inside low inside⟩
  | low digits =>
    refine ⟨List.cons_ne_nil _ _, ?_⟩
    simpa [low] using digits.inside low inside

theorem Maybe.inside {part : List Char → Prop} (h : Maybe part ds)
    (inside : part ds → ∀ c ∈ ds, s.contains c) : ∀ c ∈ ds, s.contains c := by
  rcases h with rfl | here
  · exact List.forall_mem_nil _
  · exact inside here

/-! ## Sets of digits -/

/-- Digits and the underscore. -/
def runSet : CharSet := .union digitSet (.single '_')

theorem digitSet_of_isDecimal (h : isDecimal c) : digitSet.contains c :=
  CharSet.of_within (s := .range '0' '9') (by decide) h

theorem runSet_of_digitSet (h : digitSet.contains c) : runSet.contains c := by
  rw [runSet, CharSet.contains, h, Bool.true_or]

theorem runSet_of_isDecimal (h : isDecimal c) : runSet.contains c :=
  runSet_of_digitSet (digitSet_of_isDecimal h)

theorem runSet_of_maybe_digits (h : Maybe (Digits isDecimal) ds) : ∀ c ∈ ds, runSet.contains c :=
  h.inside fun digits => digits.inside (by decide) fun _ => runSet_of_isDecimal

theorem hexSet_of_isHex (h : isHex c) : hexSet.contains c := by
  simp only [isHex, Bool.or_eq_true] at h
  simp only [hexSet, CharSet.contains, Bool.or_eq_true]
  rcases h with (decimal | small) | capital
  · exact .inl (.inl (.inr (digitSet_of_isDecimal decimal)))
  · exact .inl (.inr small)
  · exact .inr capital

theorem isWordChar_of_runSet (h : runSet.contains c) : isWordChar c := by
  rcases Bool.or_eq_true_iff.1 h with digit | low
  · exact isWordChar_of_digit (of_decide_eq_true digit)
  · have same : c = '_' := eq_of_beq ((CharSet.contains_single _ _).symm.trans low)
    simp [isWordChar, same]

/-- ASCII letters and digits, and the underscore. -/
def isPlain (c : Char) : Bool := isDecimal c || 'a' ≤ c && c ≤ 'z' || 'A' ≤ c && c ≤ 'Z' || c = '_'

theorem isWordChar_of_isPlain (h : isPlain c) : isWordChar c := by
  have small : (CharSet.range 'a' 'z').within isWordChar := by decide +kernel
  have capital : (CharSet.range 'A' 'Z').within isWordChar := by decide +kernel
  simp only [isPlain, Bool.or_eq_true, decide_eq_true_eq] at h
  rcases h with ((decimal | letter) | letter) | low
  · exact isWordChar_of_runSet (runSet_of_isDecimal decimal)
  · exact CharSet.of_within small letter
  · exact CharSet.of_within capital letter
  · simp [isWordChar, low]

theorem isWordChar_of_hexSet (h : hexSet.contains c) : isWordChar c := by
  have letters : (CharSet.range 'a' 'f').within isPlain ∧ (CharSet.range 'A' 'F').within isPlain := by decide
  simp only [hexSet, CharSet.contains, Bool.or_eq_true] at h
  rcases h with ((low | digit) | small) | capital
  · exact isWordChar_of_runSet (Bool.or_eq_true_iff.2 (.inr low))
  · exact isWordChar_of_runSet (runSet_of_digitSet digit)
  · exact isWordChar_of_isPlain (CharSet.of_within letters.1 small)
  · exact isWordChar_of_isPlain (CharSet.of_within letters.2 capital)

/-- What belongs to words does not follow a boundary. -/
theorem next_of_atBoundary {q : Char → Bool} (ends : atBoundary after) (words : ∀ c, q c → isWordChar c) :
    Next (!q ·) after := by
  cases after with
  | nil => exact next_nil _
  | cons c cs =>
    have outside : isWordChar c = false := by simpa [atBoundary] using ends
    rw [next_cons]
    cases here : q c with
    | false => rfl
    | true => exact absurd (outside.symm.trans (words c here)) (by decide)

/-! ## Digits and exponents -/

/-- A digit, behind which digits and underscores may stand. -/
def IsRun (T : List Char) : Prop :=
  ∃ d ds, T = d :: ds ∧ digitSet.contains d ∧ ∀ c ∈ ds, runSet.contains c

theorem Digits.isRun (h : Digits isDecimal ds) : IsRun ds := by
  have all := h.inside (s := runSet) (by decide) fun _ => runSet_of_isDecimal
  obtain ⟨c, cs, rfl, first⟩ := h.exists_cons
  exact ⟨c, cs, rfl, digitSet_of_isDecimal first, fun d mem => all d (List.mem_cons_of_mem c mem)⟩

theorem isRun_zero : IsRun ['0'] := ⟨'0', [], rfl, by decide, List.forall_mem_nil _⟩

theorem isRun_decimal (first : isDecimal c) (h : Maybe (Further isDecimal) ds) : IsRun (c :: ds) :=
  ⟨c, ds, rfl, digitSet_of_isDecimal first, h.inside fun digits =>
    (digits.inside (by decide) fun _ => runSet_of_isDecimal).2⟩

variable {p : Pattern} {marks : List Char}

theorem takes_digits (h : IsRun ds) (ends : Next (!runSet.contains ·) (T ++ a))
    (behind : Takes (p :: rest) T a) : Takes (cat digit (cat run p) :: rest) (ds ++ T) a := by
  obtain ⟨d, ds, rfl, first, others⟩ := h
  exact .cat (.set first (.cat (.run others ends behind)))

theorem takes_digits_before (h : IsRun ds) (ends : Next (!runSet.contains ·) (T ++ a))
    (behind : Takes rest T a) : Takes (cat digit run :: rest) (ds ++ T) a := by
  obtain ⟨d, ds, rfl, first, others⟩ := h
  exact .cat (.set first (.run others ends behind))

theorem takes_lastDigits (h : IsRun ds) (ends : Next (!runSet.contains ·) a) :
    Takes [cat digit run] ds a := by
  have whole := takes_digits_before (T := []) h ends (.nil a)
  rwa [List.append_nil] at whole

theorem refuses_digits (h : IsRun ds) (ends : Next (!runSet.contains ·) text)
    (closed : cannotBegin runSet.contains (p :: rest)) (behind : Refuses (p :: rest) text) :
    Refuses (cat digit (cat run p) :: rest) (ds ++ text) := by
  obtain ⟨d, ds, rfl, -, others⟩ := h
  exact .cat (.set_tail (.cat (.run others ends closed behind)))

theorem refuses_lastDigits (h : IsRun ds) (ends : Next (!runSet.contains ·) text)
    (closed : cannotBegin runSet.contains rest) (behind : Refuses rest text) :
    Refuses (cat digit run :: rest) (ds ++ text) := by
  obtain ⟨d, ds, rfl, -, others⟩ := h
  exact .cat (.set_tail (.run others ends closed behind))

/-- A mark, a sign and digits. -/
def power (s : CharSet) : Pattern := seq [set s, sign, digit, run]

theorem takes_power_before (inside : marks.all s.contains) (h : Exponent marks e)
    (ends : Next (!runSet.contains ·) (T ++ a)) (behind : Takes rest T a) :
    Takes (power s :: rest) (e ++ T) a := by
  cases h with
  | @mk m mark ds here signed digits =>
    have whole := takes_digits_before digits.isRun ends behind
    rw [List.cons_append, List.append_assoc]
    refine .cat (.set (List.all_eq_true.1 inside m here) (.cat ?_))
    simp only [List.mem_cons, List.not_mem_nil, or_false] at signed
    rcases signed with rfl | rfl | rfl
    · obtain ⟨c, cs, rfl, first⟩ := digits.exists_cons
      have no_sign : (anyOf '+' ['-']).within (!isDecimal ·) := by decide
      exact .skip (.set_head (CharSet.next_of_within no_sign (next_cons.2 first))) whole
    · exact .option (.set (by decide) whole)
    · exact .option (.set (by decide) whole)

theorem takes_power (inside : marks.all s.contains) (h : Exponent marks e)
    (ends : Next (!runSet.contains ·) a) : Takes [power s] e a := by
  have whole := takes_power_before (T := []) inside h ends (.nil a)
  rwa [List.append_nil] at whole

theorem refuses_power (h : Exponent marks e) (ends : Next (!runSet.contains ·) text)
    (closed : cannotBegin runSet.contains rest) (behind : Refuses rest text) :
    Refuses (power s :: rest) (e ++ text) := by
  cases h with
  | @mk m mark ds here signed digits =>
    have none_behind := refuses_lastDigits digits.isRun ends closed behind
    have no_digit {c : Char} (cs : List Char) (other : digitSet.contains c = false) :
        Refuses (cat digit run :: rest) (c :: cs) := .cat (.set_head (by simp [other]))
    rw [List.cons_append, List.append_assoc]
    refine .cat (.set_tail (.cat ?_))
    simp only [List.mem_cons, List.not_mem_nil, or_false] at signed
    rcases signed with rfl | rfl | rfl
    · obtain ⟨c, cs, rfl, first⟩ := digits.exists_cons
      have no_sign : (anyOf '+' ['-']).within (!isDecimal ·) := by decide
      exact .option (.set_head (CharSet.next_of_within no_sign (next_cons.2 first))) none_behind
    · exact .option (.set_tail none_behind) (no_digit _ (by decide))
    · exact .option (.set_tail none_behind) (no_digit _ (by decide))

theorem exists_cons_of_exponent (h : Exponent marks e) : ∃ m cs, e = m :: cs ∧ m ∈ marks := by
  cases h with
  | mk here _ _ => exact ⟨_, _, rfl, here⟩

theorem next_exponent {q : Char → Bool} (h : Exponent marks e) (outside : marks.all q) (text : List Char) :
    Next q (e ++ text) := by
  obtain ⟨m, cs, rfl, mark⟩ := exists_cons_of_exponent h
  exact next_cons.2 (List.all_eq_true.1 outside m mark)

theorem next_maybe_exponent {q : Char → Bool} (h : Maybe (Exponent marks) e) (outside : marks.all q)
    (next : Next q text) : Next q (e ++ text) := by
  rcases h with rfl | power
  · exact next
  · exact next_exponent power outside text

end GoScan.Go
