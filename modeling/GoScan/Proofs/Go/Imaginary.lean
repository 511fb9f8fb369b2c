import GoScan.Proofs.Go.Numbers

/-!
# Imaginary literals

Any number may stand before the `i` of an imaginary literal, but the entry reads decimal digits only. A number
of another base before an `i` is then taken by no other entry either, for the word goes on behind it. What is
left of such a literal is an integer before a point.

* `takes_imaginary`: the entry takes a decimal literal to its end;
* `refused_before_marked`: where a mark tells another base, neither it nor the entry for floating-point
  literals takes anything;
* `imaginary_lex_whole`: what matches at an imaginary literal.
-/

namespace GoScan.Go

open Pattern

variable {c : Char} {T R L after text ds e cs : List Char}

/-- A number and an `i`. What stands before the `i` may have zeros in front. -/
inductive ImaginaryLiteral : List Char → Prop
  | digits {ds : List Char} : Digits isDecimal ds → ImaginaryLiteral (ds ++ ['i'])
  | integer {L : List Char} : IntegerLiteral L → ImaginaryLiteral (L ++ ['i'])
  | float {L : List Char} : FloatLiteral L → ImaginaryLiteral (L ++ ['i'])

/-- A mark behind a zero tells another base. -/
def Marked (L : List Char) : Prop := ∃ m cs, L = '0' :: m :: cs ∧ m ∈ baseMarks

theorem not_marked_of_isRun (h : IsRun T) (ends : Next (!baseMarks.contains ·) text) : ¬Marked (T ++ text) := by
  have no_digit : baseMarks.all (!runSet.contains ·) := by decide
  obtain ⟨d, ds, rfl, -, others⟩ := h
  rintro ⟨m, cs, whole, mark⟩
  have behind : ds ++ text = m :: cs := (List.cons.inj whole).2
  have unmarked : Next (!baseMarks.contains ·) (ds ++ text) := by
    refine next_append ?_ ends
    intro c mem
    have outside : c ∉ baseMarks := by
      intro listed
      have no_run := List.all_eq_true.1 no_digit c listed
      rw [others c mem] at no_run
      exact Bool.false_ne_true no_run
    simpa using outside
  rw [behind, next_cons, List.contains_iff_mem.2 mark] at unmarked
  exact Bool.false_ne_true unmarked

/-! ## Decimal literals -/

theorem takes_suffix (h : Maybe (Exponent ['e', 'E']) e) (after : List Char) :
    Takes [optional true exponent, char 'i'] (e ++ ['i']) after := by
  have last : Takes [char 'i'] ['i'] after := .set (by decide) (.nil after)
  rcases h with rfl | power
  · have no_exponent : cannotBegin (· = 'i') [exponent, char 'i'] := by decide
    exact .skip (refuses_of_cannotBegin no_exponent (next_cons.2 (by decide))) last
  · exact .option (takes_power_before (by decide) power (next_cons.2 (by decide)) last)

/-- Without a point the fraction is left out. -/
theorem takes_imaginaryTail (h : Maybe (Exponent ['e', 'E']) e) (after : List Char) :
    Takes imaginaryTail (e ++ ['i']) after := by
  have no_fraction : cannotBegin ['e', 'E', 'i'].contains
      [seq [char '.', run], optional true exponent, char 'i'] := by decide
  have next : Next ['e', 'E', 'i'].contains (e ++ ['i'] ++ after) := by
    rw [List.append_assoc]
    exact next_maybe_exponent h (by decide) (next_cons.2 (by decide))
  exact .cat (.skip (refuses_of_cannotBegin no_fraction next) (takes_suffix h after))

theorem takes_imaginary_run (h : IsRun T) (ends : Next (!runSet.contains ·) (R ++ after))
    (behind : Takes imaginaryTail R after) : Takes [imaginary.body] (T ++ R) after :=
  .cat (.first (takes_digits h ends behind))

theorem takes_imaginary_digits (h : IsRun T) (after : List Char) : Takes [imaginary.body] (T ++ ['i']) after :=
  takes_imaginary_run h (next_cons.2 (by decide)) (takes_imaginaryTail (.inl rfl) after)

/-- The entry takes an imaginary literal to its end, unless it has a mark. -/
theorem takes_imaginary (h : ImaginaryLiteral L) (unmarked : ¬Marked L) (after : List Char) :
    Takes [imaginary.body] L after := by
  cases h with
  | digits decimal => exact takes_imaginary_digits decimal.isRun after
  | integer literal =>
    rcases literal.shape with decimal | ⟨m, ds, rfl, mark, -⟩
    · exact takes_imaginary_digits decimal after
    · exact absurd ⟨m, ds ++ ['i'], rfl, mark⟩ unmarked
  | float literal =>
    cases literal with
    | @point ds more e digits fraction power =>
      have further := runSet_of_maybe_digits fraction
      have no_run : Next (!runSet.contains ·) (e ++ ['i'] ++ after) := by
        rw [List.append_assoc]
        exact next_maybe_exponent power (by decide) (next_cons.2 (by decide))
      have behind : Takes imaginaryTail ('.' :: (more ++ (e ++ ['i']))) after :=
        .cat (.option (.cat (.set (by decide) (.run further no_run (takes_suffix power after)))))
      rw [List.append_assoc, List.cons_append, List.append_assoc]
      exact takes_imaginary_run digits.isRun (next_cons.2 (by decide)) behind
    | @exponent ds e digits power =>
      have no_run : Next (!runSet.contains ·) (e ++ ['i'] ++ after) := by
        rw [List.append_assoc]
        exact next_exponent power (by decide) _
      rw [List.append_assoc]
      exact takes_imaginary_run digits.isRun no_run (takes_imaginaryTail (.inr power) after)
    | @fraction ds e digits power =>
      have no_run : Next (!runSet.contains ·) (e ++ ['i'] ++ after) := by
        rw [List.append_assoc]
        exact next_maybe_exponent power (by decide) (next_cons.2 (by decide))
      rw [List.cons_append, List.append_assoc]
      refine .cat (.second (.cat (.set_head (next_cons.2 (by decide)))) ?_)
      exact .cat (.set (by decide) (takes_digits digits.isRun no_run (takes_suffix power after)))
    | @hexadecimal x m e mark _ _ =>
      exact absurd ⟨x, m ++ e ++ ['i'], rfl, mem_baseMarks_of_hex mark⟩ unmarked

theorem exists_cons_of_imaginary (h : ImaginaryLiteral L) :
    ∃ c cs, L = c :: cs ∧ (isDecimal c ∨ c = '.') := by
  cases h with
  | digits decimal =>
    obtain ⟨c, cs, rfl, first⟩ := decimal.exists_cons
    exact ⟨c, cs ++ ['i'], rfl, .inl first⟩
  | integer literal =>
    obtain ⟨c, cs, rfl, first⟩ := exists_cons_of_integer literal
    exact ⟨c, cs ++ ['i'], rfl, .inl first⟩
  | float literal =>
    obtain ⟨c, cs, rfl, first⟩ := exists_cons_of_float literal
    exact ⟨c, cs ++ ['i'], rfl, first⟩

/-! ## Literals of another base -/

/-- What an entry would take is refused where a word goes on behind it. -/
theorem length?_of_takes_inside {e : Entry} (h : Takes [e.body] T (c :: cs)) (bound : e.tokenClass.needsBoundary)
    (word : isWordChar c) : e.length? (T ++ c :: cs) = none := by
  apply Option.eq_none_iff_forall_ne_some.2
  intro n found
  obtain ⟨taken, -, ends⟩ := Entry.length?_eq_some.1 found
  obtain rfl : T.length = n := Option.some.inj ((h none).symm.trans taken)
  have boundary := ends bound
  rw [List.drop_left] at boundary
  simp [atBoundary, word] at boundary

/-- With a mark an imaginary literal is an integer of another base and an `i`, or a hexadecimal floating-point
literal and an `i`. -/
theorem ImaginaryLiteral.of_marked (h : ImaginaryLiteral L) (marked : Marked L) :
    (∃ m ds, L = '0' :: m :: ds ++ ['i'] ∧ IntegerLiteral ('0' :: m :: ds) ∧ m ∈ baseMarks ∧
      (m ∈ ['x', 'X'] → ∀ c ∈ ds, hexSet.contains c)) ∨
    ∃ x m e, L = '0' :: x :: (m ++ e) ++ ['i'] ∧ x ∈ ['x', 'X'] ∧ HexMantissa m ∧ Exponent ['p', 'P'] e := by
  have suffix : Next (!baseMarks.contains ·) ['i'] := next_cons.2 (by decide)
  cases h with
  | digits decimal => exact absurd marked (not_marked_of_isRun decimal.isRun suffix)
  | integer literal =>
    rcases literal.shape with decimal | ⟨m, ds, rfl, mark, hex⟩
    · exact absurd marked (not_marked_of_isRun decimal suffix)
    · exact .inl ⟨m, ds, rfl, literal, mark, hex⟩
  | float literal =>
    cases literal with
    | point digits _ _ =>
      rw [List.append_assoc] at marked
      exact absurd marked (not_marked_of_isRun digits.isRun (next_cons.2 (by decide)))
    | exponent digits power =>
      rw [List.append_assoc] at marked
      exact absurd marked (not_marked_of_isRun digits.isRun (next_exponent power (by decide) _))
    | fraction _ _ =>
      obtain ⟨m, cs, whole, -⟩ := marked
      exact absurd (List.cons.inj whole).1 (by decide)
    | @hexadecimal x m e mark mantissa power => exact .inr ⟨x, m, e, rfl, mark, mantissa, power⟩

/-- The entries that are tried before the one for integers take nothing. -/
theorem refused_before_marked (h : ImaginaryLiteral L) (marked : Marked L) (after : List Char) :
    imaginary.length? (L ++ after) = none ∧ float.length? (L ++ after) = none := by
  rcases h.of_marked marked with ⟨m, ds, rfl, -, mark, hex⟩ | ⟨x, m, e, rfl, mark, mantissa, power⟩
  · have ends : Next (!goesOnHex ·) ('i' :: after) := next_cons.2 (by decide)
    have no_float : Refuses [float.body] ('0' :: m :: (ds ++ 'i' :: after)) := refuses_float_marked mark hex ends
    rw [List.append_assoc]
    exact ⟨length?_of_refuses (refuses_imaginary_marked mark), length?_of_refuses no_float⟩
  · have ends : Next (!runSet.contains ·) ('i' :: after) := next_cons.2 (by decide)
    have taken : Takes [float.body] ('0' :: x :: (m ++ e)) ('i' :: after) :=
      .first (takes_hexFloat mark mantissa power ends)
    rw [List.append_assoc]
    exact ⟨length?_of_refuses (refuses_imaginary_marked (mem_baseMarks_of_hex mark)),
      length?_of_takes_inside taken rfl (by decide +kernel)⟩

/-- An integer ends before a point, also where the entries that are tried before would go on. -/
theorem length?_integer_point (h : IntegerLiteral T) (text : List Char) :
    integer.length? (T ++ '.' :: text) = some T.length := by
  have no_word : isWordChar '.' = false := by decide +kernel
  have ends : atBoundary ('.' :: text) := by rw [atBoundary, no_word, Bool.not_false]
  obtain ⟨c, cs, rfl, -⟩ := exists_cons_of_integer h
  exact length?_of_takes (takes_integer h ends) (List.cons_ne_nil c cs) ends

/-- Before another letter it is refused. -/
theorem length?_integer_letter (h : IntegerLiteral T) (ends : inInteger c = false) (letter : isPlain c)
    (text : List Char) : integer.length? (T ++ c :: text) = none := by
  have taken : Takes [integer.body] T (c :: text) := takes_integer_before h (next_cons.2 (by rw [ends]; rfl))
  exact length?_of_takes_inside taken rfl (isWordChar_of_isPlain letter)

/-- Without digits behind the mark the zero is all that could be taken. -/
theorem length?_integer_hexPoint {x : Char} (mark : x ∈ ['x', 'X']) (text : List Char) :
    integer.length? ('0' :: x :: '.' :: text) = none := by
  have marks : ['x', 'X'].all fun x => (!inInteger x || marksHex x) && isPlain x := by decide
  obtain ⟨ends, letter⟩ := Bool.and_eq_true_iff.1 (List.all_eq_true.1 marks x mark)
  have no_digits : Refuses [plus true (set hexSet)] ('.' :: text) := .plus_head (next_cons.2 (by decide))
  have taken : Takes [integer.body] ['0'] (x :: '.' :: text) :=
    takes_zero (.cat (.set_tail no_digits)) (next_cons.2 ends)
  exact length?_of_takes_inside taken rfl (isWordChar_of_isPlain letter)

/-- An integer is taken at such a literal only before a point. -/
theorem length?_integer_marked (h : ImaginaryLiteral L) (marked : Marked L) {n : Nat}
    (found : integer.length? (L ++ after) = some n) :
    ∃ T cs, IntegerLiteral T ∧ L = T ++ '.' :: cs ∧ n = T.length := by
  have refused {o : Option Nat} (same : o = some n) (nothing : o = none) : False :=
    Option.some_ne_none n (same.symm.trans nothing)
  rcases h.of_marked marked with ⟨m, ds, rfl, literal, -⟩ | ⟨x, m, e, rfl, mark, mantissa, power⟩
  · rw [List.append_assoc] at found
    exact (refused found (length?_integer_letter literal (by decide) (by decide) after)).elim
  · cases mantissa with
    | @point ds more digits _ =>
      have literal : IntegerLiteral ('0' :: x :: ds) := .hexadecimal mark digits
      have whole : '0' :: x :: (ds ++ '.' :: more ++ e) ++ ['i'] =
          '0' :: x :: ds ++ '.' :: (more ++ e ++ ['i']) := by simp
      rw [whole, List.append_assoc] at found
      have here := length?_integer_point literal (more ++ e ++ ['i'] ++ after)
      exact ⟨_, _, literal, whole, Option.some.inj (found.symm.trans here)⟩
    | whole digits =>
      have literal : IntegerLiteral ('0' :: x :: m) := .hexadecimal mark digits
      obtain ⟨p, es, rfl, letter⟩ := exists_cons_of_exponent power
      have outside : ['p', 'P'].all fun p => inInteger p = false && isPlain p := by decide
      obtain ⟨ends, plain⟩ := Bool.and_eq_true_iff.1 (List.all_eq_true.1 outside p letter)
      have whole : '0' :: x :: (m ++ p :: es) ++ ['i'] ++ after =
          '0' :: x :: m ++ p :: (es ++ ['i'] ++ after) := by simp
      rw [whole] at found
      exact (refused found (length?_integer_letter literal (of_decide_eq_true ends) plain _)).elim
    | fraction _ => exact (refused found (length?_integer_hexPoint mark _)).elim

/-- What is read at a literal with a mark is an integer. -/
theorem match?_of_marked (h : ImaginaryLiteral L) (marked : Marked L) (after : List Char) :
    grammar.match? (L ++ after) = (integer.length? (L ++ after)).map fun n => ⟨integer, ⟨0, n⟩⟩ := by
  obtain ⟨no_imaginary, no_float⟩ := refused_before_marked h marked after
  obtain ⟨m, cs, rfl, -⟩ := marked
  apply match?_of_only
  rw [List.cons_append] at no_imaginary no_float ⊢
  rw [lexeme?_of_digit (by decide), numbers, firstOf_cons_of_none no_imaginary, firstOf_cons_of_none no_float]

/-- An imaginary literal that is decimal, or has zeros in front, is one match. One that a mark tells to be of
another base never is: nothing matches at it but an integer that stands before a point of it. -/
theorem imaginary_lex_whole (L after : List Char) (literal : ImaginaryLiteral L) (ends : atBoundary after) :
    (¬Marked L → grammar.match? (L ++ after) = some ⟨imaginary, ⟨0, L.length⟩⟩) ∧
    (Marked L → ∀ m : Match, grammar.match? (L ++ after) = some m ↔
      ∃ T cs, IntegerLiteral T ∧ L = T ++ '.' :: cs ∧ m = ⟨integer, ⟨0, T.length⟩⟩) := by
  constructor
  · intro unmarked
    obtain ⟨c, cs, rfl, first⟩ := exists_cons_of_imaginary literal
    have taken := takes_imaginary literal unmarked after
    have found := length?_of_takes taken (List.cons_ne_nil c cs) ends
    refine match?_of_number rfl first (l := ⟨imaginary, c :: cs⟩) ?_
    exact firstOf_cons_of_some (l := ⟨imaginary, c :: cs⟩) found
  · intro marked m
    rw [match?_of_marked literal marked after, Option.map_eq_some_iff]
    constructor
    · rintro ⟨n, found, rfl⟩
      obtain ⟨T, cs, whole, before, rfl⟩ := length?_integer_marked literal marked found
      exact ⟨T, cs, whole, before, rfl⟩
    · rintro ⟨T, cs, whole, rfl, rfl⟩
      refine ⟨T.length, ?_, rfl⟩
      rw [List.append_assoc]
      exact length?_integer_point whole (cs ++ after)

theorem marked_hex (cs : List Char) : Marked ('0' :: 'x' :: cs) := ⟨'x', cs, rfl, by decide⟩

/-- A decimal literal is read over its point. In another base the integer before the point is all that is
read. -/
theorem imaginary_lex_whole_hexadecimal :
    (ImaginaryLiteral ['1', '_', '0', '.', 'e', '+', '3', 'i'] ∧ atBoundary [')'] ∧
      ¬Marked ['1', '_', '0', '.', 'e', '+', '3', 'i'] ∧
      grammar.match? ['1', '_', '0', '.', 'e', '+', '3', 'i', ')'] = some ⟨imaginary, ⟨0, 8⟩⟩) ∧
    (ImaginaryLiteral ['0', 'x', '1', '.', '8', 'p', '1', 'i'] ∧ atBoundary [] ∧
      Marked ['0', 'x', '1', '.', '8', 'p', '1', 'i'] ∧
      grammar.match? ['0', 'x', '1', '.', '8', 'p', '1', 'i'] = some ⟨integer, ⟨0, 3⟩⟩) := by
  constructor
  · have digits : Digits isDecimal ['1', '_', '0'] := .low (by decide) (.last (by decide))
    have power : Exponent ['e', 'E'] ('e' :: (['+'] ++ ['3'])) :=
      .mk (by decide) (by decide) (.last (by decide))
    have number : FloatLiteral ['1', '_', '0', '.', 'e', '+', '3'] := .point digits (.inl rfl) (.inr power)
    have literal : ImaginaryLiteral ['1', '_', '0', '.', 'e', '+', '3', 'i'] := .float number
    have ends : atBoundary [')'] := by decide +kernel
    have unmarked : ¬Marked ['1', '_', '0', '.', 'e', '+', '3', 'i'] := by
      rintro ⟨m, cs, whole, -⟩
      exact absurd (List.cons.inj whole).1 (by decide)
    exact ⟨literal, ends, unmarked, (imaginary_lex_whole _ _ literal ends).1 unmarked⟩
  · have digits : Digits isHex ['1'] := .last (by decide)
    have power : Exponent ['p', 'P'] ('p' :: ([] ++ ['1'])) := .mk (by decide) (by decide) (.last (by decide))
    have number : FloatLiteral ['0', 'x', '1', '.', '8', 'p', '1'] :=
      .hexadecimal (by decide) (.point (.plain digits) (.inr (.last (by decide)))) power
    have literal : ImaginaryLiteral ['0', 'x', '1', '.', '8', 'p', '1', 'i'] := .float number
    have marked := marked_hex ['1', '.', '8', 'p', '1', 'i']
    have whole : IntegerLiteral ['0', 'x', '1'] := .hexadecimal (by decide) (.plain digits)
    have read := ((imaginary_lex_whole _ [] literal rfl).2 marked _).2 ⟨_, ['8', 'p', '1', 'i'], whole, rfl, rfl⟩
    exact ⟨literal, rfl, marked, read⟩

/-- An imaginary literal with a hexadecimal integer is not read. -/
theorem not_imaginary_lex_whole :
    ¬∀ L after : List Char, ImaginaryLiteral L → atBoundary after →
      grammar.match? (L ++ after) = some ⟨imaginary, ⟨0, L.length⟩⟩ := by
  intro reads
  have number : IntegerLiteral ['0', 'x', '1'] := .hexadecimal (by decide) (.plain (.last (by decide)))
  have literal : ImaginaryLiteral ['0', 'x', '1', 'i'] := .integer number
  have only := match?_of_marked literal (marked_hex ['1', 'i']) []
  obtain ⟨n, -, same⟩ := Option.map_eq_some_iff.1 (only.symm.trans (reads _ [] literal rfl))
  have entry : integer = imaginary := congrArg Match.entry same
  exact absurd entry (by decide)

end GoScan.Go
