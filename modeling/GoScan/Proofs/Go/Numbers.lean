import GoScan.Proofs.Go.NumberLiterals
import GoScan.Proofs.Go.Respacing

/-!
# Numbers are read whole

What the entries for numbers take of a literal that is followed by no word.

* `refuses_imaginary_float`, `refuses_before_integer`: the entries that are tried before do not stop
  inside one;
* `takes_integer`, `takes_float`: its own entry takes it to the end;
* `numbers_lex_whole`: so it is what matches there.
-/

namespace GoScan.Go

open Pattern

variable {p : Pattern} {s : CharSet} {c : Char} {T L after text ds e : List Char}

/-! ## What the entry for imaginary literals refuses -/

/-- Whether there is an exponent or not, no `i` follows it. -/
theorem refuses_suffix (h : Maybe (Exponent ['e', 'E']) e) (ends : atBoundary after) :
    Refuses [optional true exponent, char 'i'] (e ++ after) := by
  have plain := next_of_atBoundary ends fun _ => isWordChar_of_isPlain
  have digits := next_of_atBoundary ends fun _ => isWordChar_of_runSet
  have no_suffix : cannotBegin (!isPlain ·) [char 'i'] := by decide
  have none_behind := refuses_of_cannotBegin no_suffix plain
  rcases h with rfl | power
  · have no_exponent : cannotBegin (!isPlain ·) [exponent, char 'i'] := by decide
    exact .option (refuses_of_cannotBegin no_exponent plain) none_behind
  · refine .option (refuses_power power digits (by decide) none_behind) ?_
    obtain ⟨m, cs, rfl, mark⟩ := exists_cons_of_exponent power
    have no_mark : cannotBegin ['e', 'E'].contains [char 'i'] := by decide
    exact refuses_of_cannotBegin no_mark (next_cons.2 (List.contains_iff_mem.2 mark))

/-- What a decimal literal can go on with behind digits. -/
def goesOn (c : Char) : Bool := runSet.contains c || ['.', 'e', 'E', 'i'].contains c

theorem next_of_goesOn (h : Next (!goesOn ·) text) : Next (!runSet.contains ·) text :=
  next_not h fun c digit => by rw [goesOn, digit, Bool.true_or]

/-- What may stand behind the first digits of an imaginary literal. -/
def imaginaryTail : Rest :=
  [cat (optional true (seq [char '.', run])) (optional true exponent), char 'i']

theorem refuses_imaginary_run (h : IsRun T) (ends : Next (!runSet.contains ·) text)
    (behind : Refuses imaginaryTail text) : Refuses [imaginary.body] (T ++ text) := by
  refine .cat (.alt (refuses_digits h ends (by decide) behind) ?_)
  obtain ⟨d, ds, rfl, first, -⟩ := h
  have no_point : cannotBegin digitSet.contains
      [seq [char '.', digit, run, optional true exponent], char 'i'] := by decide
  exact refuses_of_cannotBegin no_point (next_cons.2 first)

theorem refuses_imaginary_decimal (h : IsRun T) (ends : Next (!goesOn ·) text) :
    Refuses [imaginary.body] (T ++ text) := by
  have no_more : cannotBegin (!goesOn ·) imaginaryTail := by decide
  exact refuses_imaginary_run h (next_of_goesOn ends) (refuses_of_cannotBegin no_more ends)

/-- A floating-point literal is not the beginning of an imaginary one. -/
theorem refuses_imaginary_float (h : FloatLiteral L) (ends : atBoundary after) :
    Refuses [imaginary.body] (L ++ after) := by
  have no_run := next_of_atBoundary ends fun _ => isWordChar_of_runSet
  cases h with
  | @point ds more e digits fraction power =>
    have further := runSet_of_maybe_digits fraction
    have fraction_refuses : Refuses (run :: [optional true exponent, char 'i']) (more ++ (e ++ after)) :=
      .run further (next_maybe_exponent power (by decide) no_run) (by decide) (refuses_suffix power ends)
    have no_suffix : cannotBegin (· = '.') [optional true exponent, char 'i'] := by decide
    have behind : Refuses imaginaryTail ('.' :: (more ++ (e ++ after))) :=
      .cat (.option (.cat (.set_tail fraction_refuses)) (refuses_of_cannotBegin no_suffix (next_cons.2 rfl)))
    rw [List.append_assoc, List.cons_append, List.append_assoc]
    exact refuses_imaginary_run digits.isRun (next_cons.2 (by decide)) behind
  | @exponent ds e digits power =>
    have no_fraction : cannotBegin ['e', 'E'].contains
        [seq [char '.', run], optional true exponent, char 'i'] := by decide
    have behind : Refuses imaginaryTail (e ++ after) :=
      .cat (.option (refuses_of_cannotBegin no_fraction (next_exponent power (by decide) after))
        (refuses_suffix (.inr power) ends))
    rw [List.append_assoc]
    exact refuses_imaginary_run digits.isRun (next_exponent power (by decide) after) behind
  | @fraction ds e digits power =>
    rw [List.cons_append, List.append_assoc]
    refine .cat (.alt (.cat (.set_head (next_cons.2 (by decide)))) (.cat (.set_tail ?_)))
    exact refuses_digits digits.isRun (next_maybe_exponent power (by decide) no_run) (by decide)
      (refuses_suffix power ends)
  | @hexadecimal x m e mark mantissa power =>
    -- the zero is all that can be read as decimal, and the mark stops it
    have outside : ['x', 'X'].all (!goesOn ·) := by decide
    have whole : Refuses [imaginary.body] (['0'] ++ x :: (m ++ e ++ after)) :=
      refuses_imaginary_decimal isRun_zero (next_cons.2 (List.all_eq_true.1 outside x mark))
    exact whole

/-! ## What the entry for floating-point literals takes and refuses -/

def marksHex (c : Char) : Bool := c = 'x' || c = 'X'

/-- Without a mark behind the first digit there is no hexadecimal literal. -/
theorem refuses_hexFloat (ends : Next (!marksHex ·) text) : Refuses [hexFloat] (c :: text) := by
  have no_mark : cannotBegin (!marksHex ·)
      [seq [hexMark, star true (set hexSet), optional true (char '.'), star true (set hexSet),
        set (anyOf 'p' ['P']), sign, digit, run]] := by decide
  exact .cat (.set_tail (refuses_of_cannotBegin no_mark ends))

theorem not_marksHex_of_runSet (h : runSet.contains c) : marksHex c = false := by
  have no_run : runSet.contains 'x' = false ∧ runSet.contains 'X' = false := by decide
  cases mark : marksHex c with
  | false => rfl
  | true =>
    rcases Bool.or_eq_true_iff.1 mark with small | capital
    · rw [of_decide_eq_true small, no_run.1] at h
      exact absurd h Bool.false_ne_true
    · rw [of_decide_eq_true capital, no_run.2] at h
      exact absurd h Bool.false_ne_true

theorem refuses_hexFloat_run (h : IsRun T) (ends : Next (!marksHex ·) text) :
    Refuses [hexFloat] (T ++ text) := by
  obtain ⟨d, ds, rfl, -, others⟩ := h
  refine refuses_hexFloat (next_append ?_ ends)
  intro c mem
  rw [not_marksHex_of_runSet (others c mem)]
  rfl

/-- What a hexadecimal literal can go on with behind its mark. -/
def goesOnHex (c : Char) : Bool := hexSet.contains c || ['.', 'p', 'P'].contains c

theorem next_of_goesOnHex (h : Next (!goesOnHex ·) text) : Next (!hexSet.contains ·) text :=
  next_not h fun c digit => by rw [goesOnHex, digit, Bool.true_or]

/-- Hexadecimal digits without a point and an exponent are no floating-point literal. -/
theorem refuses_hexFloat_integer {x : Char} (h : ∀ c ∈ ds, hexSet.contains c)
    (ends : Next (!goesOnHex ·) after) : Refuses [hexFloat] ('0' :: x :: (ds ++ after)) := by
  have no_hex := next_of_goesOnHex ends
  -- the digits may be parted anywhere by a point that is not there
  have closed {R : List Char} (part : R <:+ ds) :
      Next (fun c => hexSet.contains c || !goesOnHex c) (R ++ after) := by
    apply next_append
    · intro c mem
      rw [h c (part.subset mem), Bool.true_or]
    · exact ends.imp fun c outside => by rw [outside, Bool.or_true]
  have no_power {R : List Char} (part : R <:+ ds) : Refuses [power (anyOf 'p' ['P'])] (R ++ after) := by
    have apart : cannotBegin (fun c => hexSet.contains c || !goesOnHex c) [power (anyOf 'p' ['P'])] := by
      decide
    exact refuses_of_cannotBegin apart (closed part)
  have no_fraction {R : List Char} (part : R <:+ ds) :
      Refuses [char '.', cat (star true (set hexSet)) (power (anyOf 'p' ['P']))] (R ++ after) := by
    have apart : cannotBegin (fun c => hexSet.contains c || !goesOnHex c)
        [char '.', cat (star true (set hexSet)) (power (anyOf 'p' ['P']))] := by
      decide
    exact refuses_of_cannotBegin apart (closed part)
  have inside {R : List Char} (part : R <:+ ds) : ∀ c ∈ R, hexSet.contains c :=
    fun c mem => h c (part.subset mem)
  refine .cat (.set_tail (.cat (.set_tail (.cat (.run_back h no_hex fun R part => ?_)))))
  refine .cat (.option (no_fraction part) (.cat (.run_back (inside part) no_hex fun R' part' => ?_)))
  exact no_power (part'.trans part)

theorem refuses_float_decimal (h : IsRun T) (ends : Next (!goesOn ·) text)
    (no_hex : Refuses [hexFloat] (T ++ text)) : Refuses [float.body] (T ++ text) := by
  have digits := next_of_goesOn ends
  have no_point : cannotBegin (!goesOn ·) [seq [char '.', run, optional true exponent]] := by decide
  have no_exponent : cannotBegin (!goesOn ·) [power (anyOf 'e' ['E'])] := by decide
  refine .alt no_hex (.alt ?_ (.alt ?_ ?_))
  · exact refuses_digits h digits (by decide) (refuses_of_cannotBegin no_point ends)
  · exact refuses_digits h digits (by decide) (refuses_of_cannotBegin no_exponent ends)
  · obtain ⟨d, ds, rfl, first, -⟩ := h
    have no_fraction : cannotBegin digitSet.contains [leadingPointFloat] := by decide
    exact refuses_of_cannotBegin no_fraction (next_cons.2 first)

theorem takes_maybe_exponent (h : Maybe (Exponent ['e', 'E']) e) (ends : atBoundary after) :
    Takes [optional true exponent] e after := by
  rcases h with rfl | power
  · have no_exponent : cannotBegin (!isPlain ·) [exponent] := by decide
    exact .skip (refuses_of_cannotBegin no_exponent (next_of_atBoundary ends fun _ => isWordChar_of_isPlain))
      (.nil after)
  · exact .option (takes_power (by decide) power (next_of_atBoundary ends fun _ => isWordChar_of_runSet))

theorem takes_hexFloat {x : Char} {m : List Char} (mark : x ∈ ['x', 'X']) (h : HexMantissa m)
    (h' : Exponent ['p', 'P'] e) (ends : Next (!runSet.contains ·) after) :
    Takes [hexFloat] ('0' :: x :: (m ++ e)) after := by
  have marks : ['x', 'X'].all (anyOf 'x' ['X']).contains := by decide
  have whole : Takes [power (anyOf 'p' ['P'])] e after := takes_power (by decide) h' ends
  have no_hex : Next (!hexSet.contains ·) (e ++ after) := next_exponent h' (by decide) after
  have inside (c : Char) : isHex c → hexSet.contains c := hexSet_of_isHex
  refine .cat (.set (by decide) (.cat (.set (List.all_eq_true.1 marks x mark) (.cat ?_))))
  cases h with
  | @point ds more digits further =>
    have fraction : ∀ c ∈ more, hexSet.contains c :=
      further.inside fun digits => digits.inside (by decide) inside
    rw [List.append_assoc]
    refine .run (digits.inside (by decide) inside).2 (next_cons.2 (by decide)) (.cat ?_)
    exact .option (.set (by decide) (.cat (.run fraction no_hex whole)))
  | @whole ds digits =>
    have no_point : cannotBegin ['p', 'P'].contains
        [char '.', cat (star true (set hexSet)) (power (anyOf 'p' ['P']))] := by decide
    refine .run (digits.inside (by decide) inside).2 no_hex (.cat (.skip ?_ (.cat ?_)))
    · exact refuses_of_cannotBegin no_point (next_exponent h' (by decide) after)
    · exact .run (R := []) (List.forall_mem_nil _) no_hex whole
  | @fraction ds digits =>
    refine .run (R := []) (List.forall_mem_nil _) (next_cons.2 (by decide)) (.cat (.option ?_))
    exact .set (by decide) (.cat (.run (digits.inside (by decide) inside) no_hex whole))

/-- The entry takes a floating-point literal to its end. -/
theorem takes_float (h : FloatLiteral L) (ends : atBoundary after) : Takes [float.body] L after := by
  have no_run := next_of_atBoundary ends fun _ => isWordChar_of_runSet
  cases h with
  | @point ds more e digits fraction power =>
    have further := runSet_of_maybe_digits fraction
    have behind : Takes [cat (char '.') (cat run (optional true exponent))] ('.' :: (more ++ e)) after :=
      .cat (.set (by decide) (.cat (.run further (next_maybe_exponent power (by decide) no_run)
        (takes_maybe_exponent power ends))))
    refine .second ?_ (.first (takes_digits digits.isRun (next_cons.2 (by decide)) behind))
    rw [List.append_assoc]
    exact refuses_hexFloat_run digits.isRun (next_cons.2 (by decide))
  | @exponent ds e digits power =>
    have whole : Takes [Go.power (anyOf 'e' ['E'])] e after := takes_power (by decide) power no_run
    have no_digit : Next (!runSet.contains ·) (e ++ after) := next_exponent power (by decide) after
    have no_fraction : cannotBegin ['e', 'E'].contains [seq [char '.', run, optional true exponent]] := by
      decide
    refine .second ?_ (.second ?_ (.first (takes_digits digits.isRun no_digit whole)))
    · rw [List.append_assoc]
      exact refuses_hexFloat_run digits.isRun (next_exponent power (by decide) after)
    · rw [List.append_assoc]
      exact refuses_digits digits.isRun no_digit (by decide)
        (refuses_of_cannotBegin no_fraction (next_exponent power (by decide) after))
  | @fraction ds e digits power =>
    have no_digits (p : Pattern) : Refuses [cat digit p] ('.' :: (ds ++ e) ++ after) :=
      .cat (.set_head (next_cons.2 (by decide)))
    have no_zero (p : Pattern) : Refuses [cat (char '0') p] ('.' :: (ds ++ e) ++ after) :=
      .cat (.set_head (next_cons.2 (by decide)))
    refine .second (no_zero _) (.second (no_digits _) (.second (no_digits _) (.cat (.set (by decide) ?_))))
    exact takes_digits digits.isRun (next_maybe_exponent power (by decide) no_run)
      (takes_maybe_exponent power ends)
  | @hexadecimal x m e mark mantissa power => exact .first (takes_hexFloat mark mantissa power no_run)

/-! ## What the entry for integer literals takes -/

def binaryInteger : Pattern :=
  seq [char '0', set (anyOf 'b' ['B']), plus true (set (anyOf '_' ['0', '1']))]

def octalSet : CharSet := .union (.single '_') (.range '0' '7')

def octalInteger : Pattern :=
  seq [char '0', optional true (set (anyOf 'o' ['O'])), plus true (set octalSet)]

theorem integer_body : integer.body =
    alt hexInteger (alt binaryInteger (alt octalInteger (cat digit run))) := rfl

/-- The letters that tell the base behind a zero. -/
def baseMarks : List Char := ['b', 'B', 'o', 'O', 'x', 'X']

theorem mem_baseMarks_of_hex {x : Char} (mark : x ∈ ['x', 'X']) : x ∈ baseMarks :=
  List.mem_append_right ['b', 'B', 'o', 'O'] mark

theorem mem_baseMarks_of_other {m : Char} (mark : m ∈ ['b', 'B', 'o', 'O']) :
    m ∈ baseMarks ∧ m ∉ ['x', 'X'] := by
  have apart : ['b', 'B', 'o', 'O'].all (!marksHex ·) := by decide
  refine ⟨List.mem_append_left ['x', 'X'] mark, ?_⟩
  simpa [marksHex] using List.all_eq_true.1 apart m mark

/-- An integer literal is a run of digits, or stands behind a mark that makes it another base. -/
theorem IntegerLiteral.shape (h : IntegerLiteral L) : IsRun L ∨
    ∃ m ds, L = '0' :: m :: ds ∧ m ∈ baseMarks ∧ (m ∈ ['x', 'X'] → ∀ c ∈ ds, hexSet.contains c) := by
  cases h with
  | zero => exact .inl isRun_zero
  | decimal first _ further => exact .inl (isRun_decimal first further)
  | @binary b ds mark _ =>
    obtain ⟨listed, other⟩ := mem_baseMarks_of_other (List.mem_append_left ['o', 'O'] mark)
    exact .inr ⟨b, ds, rfl, listed, fun hex => absurd hex other⟩
  | @octal ds further =>
    have digit (c : Char) (h : isOctal c) : runSet.contains c :=
      runSet_of_isDecimal (CharSet.of_within (s := .range '0' '7') (by decide) h)
    exact .inl ⟨'0', ds, rfl, by decide, (further.inside (by decide) digit).2⟩
  | @markedOctal o ds mark _ =>
    obtain ⟨listed, other⟩ := mem_baseMarks_of_other (List.mem_append_right ['b', 'B'] mark)
    exact .inr ⟨o, ds, rfl, listed, fun hex => absurd hex other⟩
  | @hexadecimal x ds mark further =>
    have digits := (further.inside (by decide) fun _ => hexSet_of_isHex).2
    exact .inr ⟨x, ds, rfl, mem_baseMarks_of_hex mark, fun _ => digits⟩

/-- Digits behind a zero and a mark. -/
theorem takes_marked {t : CharSet} {m : Char} (mark : s.contains m) (nonempty : ds ≠ [])
    (inside : ∀ c ∈ ds, t.contains c) (ends : Next (!t.contains ·) after) :
    Takes [cat (char '0') (cat (set s) (plus true (set t)))] ('0' :: m :: ds) after :=
  .cat (.set (by decide) (.cat (.set mark (.last_plus nonempty inside ends))))

theorem refuses_marked (ends : Next (!s.contains ·) text) :
    Refuses [cat (char '0') (cat (set s) p)] (c :: text) :=
  .cat (.set_tail (.cat (.set_head ends)))

/-- What can stand in an integer literal. -/
def inInteger (c : Char) : Bool := hexSet.contains c || ['o', 'O', 'x', 'X'].contains c

theorem inInteger_of_runSet (h : runSet.contains c) : inInteger c := by
  have digits : hexSet.contains c := by
    simp only [runSet, CharSet.contains, Bool.or_eq_true] at h
    simp only [hexSet, CharSet.contains, Bool.or_eq_true]
    exact .inl (.inl h.symm)
  rw [inInteger, digits, Bool.true_or]

theorem isWordChar_of_inInteger (h : inInteger c) : isWordChar c := by
  rcases Bool.or_eq_true_iff.1 h with digit | mark
  · exact isWordChar_of_hexSet digit
  · have letters : ['o', 'O', 'x', 'X'].all isPlain := by decide
    exact isWordChar_of_isPlain (List.all_eq_true.1 letters c (List.contains_iff_mem.1 mark))

/-- Of a zero no more is taken where nothing of another base stands behind it. -/
theorem takes_zero (no_hex : Refuses [cat hexMark (plus true (set hexSet))] after)
    (ends : Next (fun c => !inInteger c || marksHex c) after) : Takes [integer.body] ['0'] after := by
  have no_binary : cannotBegin (fun c => !inInteger c || marksHex c)
      [cat (set (anyOf 'b' ['B'])) (plus true (set (anyOf '_' ['0', '1'])))] := by decide
  have no_octal : cannotBegin (fun c => !inInteger c || marksHex c)
      [cat (optional true (set (anyOf 'o' ['O']))) (plus true (set octalSet))] := by decide
  have no_run : Next (!runSet.contains ·) after := by
    have others : Next (fun c => !(inInteger c && !marksHex c)) after := by
      apply ends.imp
      intro c outside
      rw [Bool.not_and, Bool.not_not, outside]
    apply next_not others
    intro c digit
    rw [inInteger_of_runSet digit, not_marksHex_of_runSet digit]
    rfl
  rw [integer_body]
  refine .second ?_ (.second ?_ (.second ?_ (takes_lastDigits isRun_zero no_run)))
  · exact .cat (.set_tail no_hex)
  · exact .cat (.set_tail (refuses_of_cannotBegin no_binary ends))
  · exact .cat (.set_tail (refuses_of_cannotBegin no_octal ends))

theorem takes_decimal (digits : IsRun T) (head : T.head? ≠ some '0') (ends : Next (!runSet.contains ·) after) :
    Takes [integer.body] T after := by
  have no_zero (p : Pattern) : Refuses [cat (char '0') p] (T ++ after) := by
    obtain ⟨d, ds, rfl, -, -⟩ := digits
    exact .cat (.set_head (next_cons.2 (by simpa using head)))
  rw [integer_body]
  exact .second (no_zero _) (.second (no_zero _) (.second (no_zero _) (takes_lastDigits digits ends)))

theorem takes_binary {b : Char} (mark : b ∈ ['b', 'B']) (h : Further isBinary ds)
    (ends : Next (!inInteger ·) after) : Takes [integer.body] ('0' :: b :: ds) after := by
  have marks : ['b', 'B'].all fun b => (anyOf 'b' ['B']).contains b && !(anyOf 'x' ['X']).contains b := by
    decide
  obtain ⟨isMark, no_hex⟩ := Bool.and_eq_true_iff.1 (List.all_eq_true.1 marks b mark)
  have digit (c : Char) (h : isBinary c) : (anyOf '_' ['0', '1']).contains c := by
    rcases Bool.or_eq_true_iff.1 h with zero | one
    · rw [of_decide_eq_true zero]
      rfl
    · rw [of_decide_eq_true one]
      rfl
  obtain ⟨nonempty, inside⟩ := h.inside (by decide) digit
  have no_binary : Next (!(anyOf '_' ['0', '1']).contains ·) after := CharSet.next_of_within (by decide) ends
  rw [integer_body]
  exact .second (refuses_marked (next_cons.2 no_hex)) (.first (takes_marked isMark nonempty inside no_binary))

/-- The alternative for octal integers takes digits with a mark and without. -/
theorem takes_octalDigits (h : Further isOctal ds) (ends : Next (!inInteger ·) after) :
    (∀ c ∈ ds, octalSet.contains c) ∧ Takes [plus true (set octalSet)] ds after := by
  have digit (c : Char) (h : isOctal c) : octalSet.contains c := Bool.or_eq_true_iff.2 (.inr h)
  obtain ⟨nonempty, inside⟩ := h.inside (by decide) digit
  exact ⟨inside, .last_plus nonempty inside (CharSet.next_of_within (by decide) ends)⟩

theorem takes_octal (h : Further isOctal ds) (ends : Next (!inInteger ·) after) :
    Takes [integer.body] ('0' :: ds) after := by
  obtain ⟨inside, whole⟩ := takes_octalDigits h ends
  -- what is tried before the octal alternative needs a mark where these digits go on
  have no_mark {s : CharSet} (apart : octalSet.within (!s.contains ·)) (letters : s.within inInteger) :
      Next (!s.contains ·) (ds ++ after) :=
    next_append (fun c mem => CharSet.of_within apart (inside c mem))
      (CharSet.next_of_within (by simpa using letters) ends)
  rw [integer_body]
  refine .second (refuses_marked (no_mark (by decide) (by decide)))
    (.second (refuses_marked (no_mark (by decide) (by decide))) (.first ?_))
  exact .cat (.set (by decide) (.cat (.skip (.set_head (no_mark (by decide) (by decide))) whole)))

theorem takes_markedOctal {o : Char} (mark : o ∈ ['o', 'O']) (h : Further isOctal ds)
    (ends : Next (!inInteger ·) after) : Takes [integer.body] ('0' :: o :: ds) after := by
  have marks : ['o', 'O'].all fun o => (anyOf 'o' ['O']).contains o &&
    (!(anyOf 'x' ['X']).contains o && !(anyOf 'b' ['B']).contains o) := by decide
  obtain ⟨isMark, others⟩ := Bool.and_eq_true_iff.1 (List.all_eq_true.1 marks o mark)
  obtain ⟨no_hex, no_binary⟩ := Bool.and_eq_true_iff.1 others
  obtain ⟨-, whole⟩ := takes_octalDigits h ends
  rw [integer_body]
  refine .second (refuses_marked (next_cons.2 no_hex)) (.second (refuses_marked (next_cons.2 no_binary))
    (.first ?_))
  exact .cat (.set (by decide) (.cat (.option (.set isMark whole))))

theorem takes_hexadecimal {x : Char} (mark : x ∈ ['x', 'X']) (h : Further isHex ds)
    (ends : Next (!hexSet.contains ·) after) : Takes [integer.body] ('0' :: x :: ds) after := by
  have marks : ['x', 'X'].all (anyOf 'x' ['X']).contains := by decide
  obtain ⟨nonempty, inside⟩ := h.inside (by decide) fun _ => hexSet_of_isHex
  exact .first (takes_marked (List.all_eq_true.1 marks x mark) nonempty inside ends)

/-- The entry takes an integer literal to its end, where none could go on. -/
theorem takes_integer_before (h : IntegerLiteral L) (ends : Next (!inInteger ·) after) :
    Takes [integer.body] L after := by
  cases h with
  | zero =>
    have no_hex : cannotBegin (!inInteger ·) [cat hexMark (plus true (set hexSet))] := by decide
    apply takes_zero (refuses_of_cannotBegin no_hex ends)
    exact ends.imp fun c outside => by rw [outside, Bool.true_or]
  | decimal first other further =>
    have no_run : Next (!runSet.contains ·) after := next_not ends fun _ => inInteger_of_runSet
    exact takes_decimal (isRun_decimal first further) (by simpa using other) no_run
  | binary mark further => exact takes_binary mark further ends
  | octal further => exact takes_octal further ends
  | markedOctal mark further => exact takes_markedOctal mark further ends
  | hexadecimal mark further =>
    have no_digits : Next (!hexSet.contains ·) after :=
      next_not ends fun c digit => by rw [inInteger, digit, Bool.true_or]
    exact takes_hexadecimal mark further no_digits

theorem takes_integer (h : IntegerLiteral L) (ends : atBoundary after) : Takes [integer.body] L after :=
  takes_integer_before h (next_of_atBoundary ends fun _ => isWordChar_of_inInteger)

/-! ## What stands before an integer literal -/

/-- What is a point or belongs to words does not follow a boundary that is no point. -/
theorem next_of_no_point {q : Char → Bool} (ends : atBoundary after) (no_point : after.head? ≠ some '.')
    (words : ∀ c, q c → c = '.' ∨ isWordChar c) : Next (!q ·) after := by
  have apart : Next (!isWordChar ·) after := next_of_atBoundary ends fun _ word => word
  intro c mem
  have outside : isWordChar c = false := by simpa using apart c mem
  change (!q c) = true
  cases here : q c with
  | false => rfl
  | true =>
    rcases words c here with rfl | word
    · exact absurd mem no_point
    · exact absurd (outside.symm.trans word) (by decide)

theorem not_goesOn_of_atBoundary (ends : atBoundary after) (no_point : after.head? ≠ some '.') :
    Next (!goesOn ·) after := by
  apply next_of_no_point ends no_point
  intro c more
  rcases Bool.or_eq_true_iff.1 more with digit | mark
  · exact .inr (isWordChar_of_runSet digit)
  · have marks : ['.', 'e', 'E', 'i'].all fun c => c = '.' || isPlain c := by decide
    have listed := List.all_eq_true.1 marks c (List.contains_iff_mem.1 mark)
    exact (Bool.or_eq_true_iff.1 listed).imp of_decide_eq_true isWordChar_of_isPlain

theorem not_goesOnHex_of_atBoundary (ends : atBoundary after) (no_point : after.head? ≠ some '.') :
    Next (!goesOnHex ·) after := by
  apply next_of_no_point ends no_point
  intro c more
  rcases Bool.or_eq_true_iff.1 more with digit | mark
  · exact .inr (isWordChar_of_hexSet digit)
  · have marks : ['.', 'p', 'P'].all fun c => c = '.' || isPlain c := by decide
    have listed := List.all_eq_true.1 marks c (List.contains_iff_mem.1 mark)
    exact (Bool.or_eq_true_iff.1 listed).imp of_decide_eq_true isWordChar_of_isPlain

theorem not_goesOn_of_mark {m : Char} (mark : m ∈ baseMarks) : Next (!goesOn ·) (m :: text) := by
  have outside : baseMarks.all (!goesOn ·) := by decide
  exact next_cons.2 (List.all_eq_true.1 outside m mark)

/-- A mark stops what is read as an imaginary literal. -/
theorem refuses_imaginary_marked {m : Char} (mark : m ∈ baseMarks) :
    Refuses [imaginary.body] ('0' :: m :: text) :=
  refuses_imaginary_decimal (T := ['0']) isRun_zero (not_goesOn_of_mark mark)

/-- Digits of another base are no floating-point literal. -/
theorem refuses_float_marked {m : Char} (mark : m ∈ baseMarks)
    (hex : m ∈ ['x', 'X'] → ∀ c ∈ ds, hexSet.contains c) (ends : Next (!goesOnHex ·) after) :
    Refuses [float.body] ('0' :: m :: (ds ++ after)) := by
  have no_hex : Refuses [hexFloat] ('0' :: m :: (ds ++ after)) := by
    by_cases isHexMark : m ∈ ['x', 'X']
    · exact refuses_hexFloat_integer (hex isHexMark) ends
    · exact refuses_hexFloat (next_cons.2 (by simpa [marksHex] using isHexMark))
  exact refuses_float_decimal (T := ['0']) isRun_zero (not_goesOn_of_mark mark) no_hex

/-- The entries that are tried before refuse an integer literal. -/
theorem refuses_before_integer (h : IntegerLiteral L) (ends : atBoundary after)
    (no_point : after.head? ≠ some '.') :
    Refuses [imaginary.body] (L ++ after) ∧ Refuses [float.body] (L ++ after) := by
  rcases h.shape with digits | ⟨m, ds, rfl, mark, hex⟩
  · have behind := not_goesOn_of_atBoundary ends no_point
    have letter (c : Char) (mark : marksHex c) : isPlain c := by
      rcases Bool.or_eq_true_iff.1 mark with small | capital
      · rw [of_decide_eq_true small]
        rfl
      · rw [of_decide_eq_true capital]
        rfl
    have no_mark : Next (!marksHex ·) after :=
      next_of_atBoundary ends fun c mark => isWordChar_of_isPlain (letter c mark)
    exact ⟨refuses_imaginary_decimal digits behind,
      refuses_float_decimal digits behind (refuses_hexFloat_run digits no_mark)⟩
  · have no_hex := not_goesOnHex_of_atBoundary ends no_point
    exact ⟨refuses_imaginary_marked mark, refuses_float_marked mark hex no_hex⟩

/-! ## The whole literal -/

theorem length?_of_takes {e : Entry} (h : Takes [e.body] L after) (nonempty : L ≠ []) (ends : atBoundary after) :
    e.length? (L ++ after) = some L.length := by
  refine Entry.length?_eq_some.2 ⟨h none, mt List.length_eq_zero_iff.1 nonempty, fun _ => ?_⟩
  rw [List.drop_left]
  exact ends

theorem length?_of_refuses {e : Entry} (h : Refuses [e.body] text) : e.length? text = none := by
  rw [Entry.length?, h]
  rfl

theorem lexeme?_of_digit (digit : glyph c = .digit) (cs : List Char) :
    grammar.lexeme? (c :: cs) = firstOf numbers (c :: cs) :=
  lexeme?_of_glyph rfl digit

theorem match?_of_number {l : Lexeme} {text : List Char} (head : text.head? = some c)
    (start : isDecimal c ∨ c = '.') (h : firstOf numbers text = some l) :
    grammar.match? text = some ⟨l.entry, ⟨0, l.chars.length⟩⟩ := by
  apply match?_of_lexeme?
  rcases start with digit | rfl
  · have kind := glyph_of_digit (of_decide_eq_true (digitSet_of_isDecimal digit))
    exact (lexeme?_of_glyph head kind).trans h
  · have kind : glyph '.' = .point := by decide
    have groups : grammar.lexeme? text = firstOf (numbers ++ marks) text := lexeme?_of_glyph head kind
    rw [groups, firstOf_append, h, Option.some_or]

theorem exists_cons_of_integer (h : IntegerLiteral L) : ∃ c cs, L = c :: cs ∧ isDecimal c := by
  cases h with
  | decimal first _ _ => exact ⟨_, _, rfl, first⟩
  | _ => exact ⟨_, _, rfl, by decide⟩

theorem exists_cons_of_float (h : FloatLiteral L) : ∃ c cs, L = c :: cs ∧ (isDecimal c ∨ c = '.') := by
  cases h with
  | point digits _ _ | exponent digits _ =>
    obtain ⟨c, cs, rfl, first⟩ := digits.exists_cons
    exact ⟨_, _, rfl, .inl first⟩
  | fraction _ _ => exact ⟨_, _, rfl, .inr rfl⟩
  | hexadecimal _ _ _ => exact ⟨_, _, rfl, .inl (by decide)⟩

/-- A number with no word behind it is one match; behind an integer there must be no point either. -/
theorem numbers_lex_whole (L after : List Char) (ends : atBoundary after) :
    (IntegerLiteral L → after.head? ≠ some '.' →
      grammar.match? (L ++ after) = some ⟨integer, ⟨0, L.length⟩⟩) ∧
    (FloatLiteral L → grammar.match? (L ++ after) = some ⟨float, ⟨0, L.length⟩⟩) := by
  constructor
  · intro literal no_point
    obtain ⟨no_imaginary, no_float⟩ := refuses_before_integer literal ends no_point
    have taken := takes_integer literal ends
    obtain ⟨c, cs, rfl, first⟩ := exists_cons_of_integer literal
    have found := length?_of_takes taken (List.cons_ne_nil c cs) ends
    refine match?_of_number rfl (.inl first) (l := ⟨integer, c :: cs⟩) ?_
    rw [numbers, firstOf_cons_of_none (length?_of_refuses no_imaginary),
      firstOf_cons_of_none (length?_of_refuses no_float)]
    exact firstOf_cons_of_some (l := ⟨integer, c :: cs⟩) found
  · intro literal
    have no_imaginary := refuses_imaginary_float literal ends
    have taken := takes_float literal ends
    obtain ⟨c, cs, rfl, first⟩ := exists_cons_of_float literal
    have found := length?_of_takes taken (List.cons_ne_nil c cs) ends
    refine match?_of_number rfl first (l := ⟨float, c :: cs⟩) ?_
    rw [numbers, firstOf_cons_of_none (length?_of_refuses no_imaginary)]
    exact firstOf_cons_of_some (l := ⟨float, c :: cs⟩) found

/-- The `e` of `0x1_e` is a digit, and does not go on to `+5`. -/
theorem numbers_lex_whole_hexadecimal :
    (atBoundary ['+', '5', 'i'] ∧ IntegerLiteral ['0', 'x', '1', '_', 'e'] ∧ some '+' ≠ some '.' ∧
      grammar.match? ['0', 'x', '1', '_', 'e', '+', '5', 'i'] = some ⟨integer, ⟨0, 5⟩⟩) ∧
    (atBoundary ['.', '5'] ∧ FloatLiteral ['0', 'x', '.', '1', 'p', '-', '2'] ∧
      grammar.match? ['0', 'x', '.', '1', 'p', '-', '2', '.', '5'] = some ⟨float, ⟨0, 7⟩⟩) := by
  have plus : atBoundary ['+', '5', 'i'] := by decide +kernel
  have point : atBoundary ['.', '5'] := by decide +kernel
  have no_point : some '+' ≠ some '.' := by decide
  have whole : IntegerLiteral ['0', 'x', '1', '_', 'e'] :=
    .hexadecimal (by decide) (.plain (.low (by decide) (.last (by decide))))
  have power : Exponent ['p', 'P'] ('p' :: (['-'] ++ ['2'])) :=
    .mk (by decide) (by decide) (.last (by decide))
  have part : FloatLiteral ['0', 'x', '.', '1', 'p', '-', '2'] :=
    .hexadecimal (by decide) (.fraction (.last (by decide))) power
  have int := (numbers_lex_whole _ _ plus).1 whole no_point
  have float := (numbers_lex_whole _ _ point).2 part
  exact ⟨⟨plus, whole, no_point, int⟩, point, part, float⟩

end GoScan.Go
