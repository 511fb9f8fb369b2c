import GoScan.Proofs.Go.Entries

/-!
# Tokens are read again wherever a blank stands behind them

* `float_eq_none_of_integer`: an integer literal as a whole is no float literal, though more text could
  make it one;
* `length?_of_definite`: what stands behind a literal has no part in it if nothing but a word can go on there;
* `atBoundary_behind_name`: where a scan goes on, no word goes on behind a name;
* `lexeme?_respaced`: a token is read the same at the end of a text, or with a blank behind it.
-/

namespace GoScan.Go

open Pattern

variable {T a tail text : List Char} {e : Entry} {es : List Entry} {l : Lexeme} {c : Char} {n : Nat}

/-! ## Literal texts -/

theorem preferred?_char_eq_some {left : Option Char} {rest : Rest} :
    preferred? left (char c :: rest) text = some n ↔
      ∃ cs m, text = c :: cs ∧ preferred? (some c) rest cs = some m ∧ n = m + 1 := by
  rw [char, preferred?_set_eq_some]
  constructor
  · rintro ⟨d, cs, m, rfl, same, found, rfl⟩
    obtain rfl : d = c := by simpa using same
    exact ⟨cs, m, rfl, found, rfl⟩
  · rintro ⟨cs, m, rfl, found, rfl⟩
    exact ⟨c, cs, m, rfl, by simp, found, rfl⟩

/-- A pattern with `d` for its second character does not match without it. -/
theorem preferred?_eq_none_of_second {p : Pattern} {d : Char} (h : text.head? ≠ some d) :
    preferred? none [cat (char c) (cat (char d) p)] (c :: text) = none := by
  apply Option.eq_none_iff_forall_ne_some.2
  intro n found
  rw [preferred?_cat] at found
  obtain ⟨_, _, whole, behind, -⟩ := preferred?_char_eq_some.1 found
  obtain ⟨-, rfl⟩ := List.cons_eq_cons.1 whole
  rw [preferred?_cat] at behind
  obtain ⟨_, _, rfl, -, -⟩ := preferred?_char_eq_some.1 behind
  exact h rfl

theorem length?_literal {w : String} {k : TokenClass} : (literal w k).length? text = some n ↔
    w.toList <+: text ∧ n = w.toList.length ∧ n ≠ 0 ∧
      (k.needsBoundary → atBoundary (text.drop n)) := by
  have body : (literal w k).body = word w.toList := rfl
  have tokenClass : (literal w k).tokenClass = k := rfl
  rw [Entry.length?_eq_some, body, tokenClass, preferred?_word, ← List.isPrefixOf_iff_prefix]
  cases w.toList.isPrefixOf text with
  | true => simp [@eq_comm _ n]
  | false => simp

/-- A literal text that is not taken is not taken either when the text ends, unless the boundary
behind it was at fault. -/
theorem length?_literal_eq_none {w : String} {k : TokenClass}
    (h : (literal w k).length? (T ++ a) = none) (ha : k.needsBoundary → atBoundary a) :
    (literal w k).length? T = none := by
  refine Option.eq_none_iff_forall_ne_some.2 fun n found => ?_
  obtain ⟨front, length, nonempty, ends⟩ := length?_literal.1 found
  have inside : n ≤ T.length := length ▸ front.length_le
  have still : (literal w k).length? (T ++ a) = some n := by
    refine length?_literal.2 ⟨front.trans (List.prefix_append T a), length, nonempty, fun needs => ?_⟩
    rw [List.drop_append_of_le_length inside]
    cases rest : T.drop n with
    | nil => exact ha needs
    | cons d ds => exact (rest ▸ ends needs : atBoundary (d :: ds))
  exact absurd (still.symm.trans h) (by simp)

theorem exists_literal_of_mem_words (h : e ∈ words) :
    ∃ w k, e = literal w k ∧ k.needsBoundary := by
  rcases List.mem_append.1 h with h | h <;> obtain ⟨w, -, rfl⟩ := List.mem_map.1 h
  · exact ⟨w, _, rfl, rfl⟩
  · exact ⟨w, _, rfl, rfl⟩

theorem exists_literal_of_mem_marks (h : e ∈ marks) :
    ∃ w k, e = literal w k ∧ k.needsBoundary = false := by
  rcases List.mem_append.1 h with h | h <;> obtain ⟨w, -, rfl⟩ := List.mem_map.1 h
  · exact ⟨w, _, rfl, rfl⟩
  · exact ⟨w, _, rfl, rfl⟩

/-! ## Numbers -/

theorem imaginary_eq_none (h : 'i' ∉ text) : imaginary.length? text = none := by
  have nothing : preferred? none [imaginary.body] text = none := by
    refine preferred?_eq_none_of_mustRead (k := fun s => s = .single 'i') (by decide) ?_
    intro c hc s hs
    have : c ≠ 'i' := fun same => h (same ▸ hc)
    simp [of_decide_eq_true hs, this]
  simp [Entry.length?, nothing]

/-- One of the sets that a float literal must read. -/
def floatMark (s : CharSet) : Bool := s = .single '.' || s = anyOf 'e' ['E'] || s = anyOf 'p' ['P']

theorem floatMark_contains {s : CharSet} (h : floatMark s) (hc : c ∉ ['.', 'e', 'E', 'p', 'P']) :
    s.contains c = false := by
  simp only [floatMark, Bool.or_eq_true, decide_eq_true_eq] at h
  simp only [List.mem_cons, List.not_mem_nil, or_false, not_or] at hc
  rcases h with (rfl | rfl) | rfl <;> simp [anyOf, CharSet.contains, hc]

theorem float_eq_none (h : ∀ c ∈ text, c ∉ ['.', 'e', 'E', 'p', 'P']) : float.length? text = none := by
  have nothing : preferred? none [float.body] text = none :=
    preferred?_eq_none_of_mustRead (k := floatMark) (by decide)
      fun c hc s hs => floatMark_contains hs (h c hc)
  simp [Entry.length?, nothing]

theorem imaginary_eq_none_of_float (h : float.length? T = some T.length) :
    imaginary.length? T = none :=
  imaginary_eq_none (not_mem_of_preferred? (f := fun s => !s.contains 'i') (by decide)
    (fun s hs => by simpa using hs) (Entry.length?_eq_some.1 h).1)

/-- None of the sets of integer literals has a character that this does not hold of. -/
theorem not_mem_of_integer (h : integer.length? T = some T.length)
    (hc : integer.body.eachSet fun s => !s.contains c) : c ∉ T :=
  not_mem_of_preferred? (f := fun s => !s.contains c) (by simpa using hc)
    (fun s hs => by simpa using hs) (Entry.length?_eq_some.1 h).1

theorem imaginary_eq_none_of_integer (h : integer.length? T = some T.length) :
    imaginary.length? T = none :=
  imaginary_eq_none (not_mem_of_integer h (by decide))

theorem of_hexInteger (h : preferred? none [hexInteger] T = some n) :
    ∃ x cs, T = '0' :: x :: cs ∧ (x = 'x' ∨ x = 'X') := by
  have shape : hexInteger = cat (char '0') (cat hexMark (plus true (set hexSet))) := rfl
  rw [shape, preferred?_cat] at h
  obtain ⟨_, _, rfl, behind, -⟩ := preferred?_char_eq_some.1 h
  rw [preferred?_cat, hexMark] at behind
  obtain ⟨x, cs, _, rfl, mark, -, -⟩ := preferred?_set_eq_some.1 behind
  exact ⟨x, cs, rfl, by simpa [anyOf, CharSet.contains] using mark⟩

/-- Without a point and a binary exponent a text with a hexadecimal mark is no float literal. -/
theorem float_eq_none_of_hexMark {x : Char} {cs : List Char} (hx : x = 'x' ∨ x = 'X')
    (h : ∀ c ∈ '0' :: x :: cs, c ∉ ['.', 'p', 'P']) : float.length? ('0' :: x :: cs) = none := by
  have point : ∀ c ∈ '0' :: x :: cs, ∀ s, s = CharSet.single '.' → s.contains c = false := by
    rintro c hc s rfl
    have := h c hc
    simp only [List.mem_cons, not_or] at this
    simp [this]
  have binary : ∀ c ∈ '0' :: x :: cs, ∀ s, s = anyOf 'p' ['P'] → s.contains c = false := by
    rintro c hc s rfl
    have := h c hc
    simp only [List.mem_cons, List.not_mem_nil, or_false, not_or] at this
    simp [anyOf, CharSet.contains, this]
  have nothing : preferred? none [hexFloat] ('0' :: x :: cs) = none ∧
      preferred? none [pointFloat] ('0' :: x :: cs) = none ∧
      preferred? none [exponentFloat] ('0' :: x :: cs) = none ∧
      preferred? none [leadingPointFloat] ('0' :: x :: cs) = none := by
    refine ⟨?_, ?_, ?_, ?_⟩
    · exact preferred?_eq_none_of_mustRead (k := fun s => s = anyOf 'p' ['P']) (by decide)
        (by simpa using binary)
    · exact preferred?_eq_none_of_mustRead (k := fun s => s = .single '.') (by decide)
        (by simpa using point)
    · -- after the zero stands neither a digit nor an exponent
      have shape : exponentFloat =
        cat digit (cat run (cat (set (anyOf 'e' ['E'])) (cat sign (cat digit run)))) := rfl
      have zero : digitSet.contains '0' := by decide
      have no_digit : (CharSet.union digitSet (.single '_')).contains x = false := by
        rcases hx with rfl | rfl <;> decide
      have no_exponent : (anyOf 'e' ['E']).contains x = false := by
        rcases hx with rfl | rfl <;> decide
      rw [shape, preferred?_cat, digit, preferred?_set_cons, if_pos zero, preferred?_cat, run,
        preferred?_star_greedy rfl, preferred?_set_cons, no_digit, preferred?_cat,
        preferred?_set_cons, no_exponent]
      rfl
    · exact preferred?_eq_none_of_mustRead (k := fun s => s = .single '.') (by decide)
        (by simpa using point)
  have shape : float.body =
    alt hexFloat (alt pointFloat (alt exponentFloat leadingPointFloat)) := rfl
  simp [Entry.length?, shape, preferred?_alt, nothing]

/-- An integer literal as a whole is no float literal, though with more text it may be one. -/
theorem float_eq_none_of_integer (h : integer.length? T = some T.length) :
    float.length? T = none := by
  obtain ⟨found, -, -⟩ := Entry.length?_eq_some.1 h
  have shape : integer.body = alt hexInteger (oneOf plainIntegers) := rfl
  rw [shape, preferred?_alt] at found
  rcases Option.or_eq_some_iff.1 found with hex | ⟨-, plain⟩
  · -- a hexadecimal integer may have an exponent mark among its digits
    obtain ⟨x, cs, rfl, hx⟩ := of_hexInteger hex
    have none_special : ['.', 'p', 'P'].all fun c => integer.body.eachSet fun s => !s.contains c := by
      decide
    exact float_eq_none_of_hexMark hx fun c hc special =>
      not_mem_of_integer h (List.all_eq_true.1 none_special c special) hc
  · have none_special : ['.', 'e', 'E', 'p', 'P'].all fun c =>
        (oneOf plainIntegers).eachSet fun s => !s.contains c := by decide
    refine float_eq_none fun c hc special => ?_
    have avoids := List.all_eq_true.1 none_special c special
    exact not_mem_of_preferred? (f := fun s => !s.contains c) (by simpa using avoids)
      (fun s hs => by simpa using hs) plain hc

/-! ## Literals between quotes -/

/-- What stands behind a definite literal has no part in it but for the boundary. -/
theorem length?_of_definite {f : CharSet → Bool} {P : List (Rest × Rest)} (hP : definite f P)
    (here : ([e.body], [e.body]) ∈ P) (refuses : ∀ c s, isWordChar c = false → f s → s.contains c = false)
    (found : e.length? (T ++ a) = some T.length) (ends : atBoundary tail) :
    e.length? (T ++ tail) = some T.length := by
  have plain : e.body.eachSet fun _ => true := by simpa using (definite_cases hP here).1.1
  have alone := Entry.length?_of_append plain found
  cases tail with
  | nil => rwa [List.append_nil]
  | cons c cs =>
    have outside : isWordChar c = false := by simpa [atBoundary] using ends
    obtain ⟨taken, nonempty, -⟩ := Entry.length?_eq_some.1 alone
    have same : preferred? none [e.body] (T ++ c :: cs) = preferred? none [e.body] T :=
      preferred?_append_of_definite hP here (fun s => refuses c s outside) (Entry.length?_eq_some.1 found).1 cs
    refine Entry.length?_eq_some.2 ⟨same.trans taken, nonempty, fun _ => ?_⟩
    rw [List.drop_left]
    exact ends

/-- Nothing goes on behind a closing quote. -/
theorem definite_quoted : ∀ e ∈ quoted, definite (fun _ => false) (pairs 6 [([e.body], [e.body])]) ∧
    ([e.body], [e.body]) ∈ pairs 6 [([e.body], [e.body])] := by
  decide +kernel

theorem length?_quoted (h : e ∈ quoted) (found : e.length? (T ++ a) = some T.length)
    (ht : atBoundary tail) : e.length? (T ++ tail) = some T.length := by
  obtain ⟨definite, here⟩ := definite_quoted e h
  exact length?_of_definite definite here (by simp) found ht

theorem quotes_apart : ∀ e ∈ quoted, ∀ e' ∈ quoted, e = e' ∨
    ∀ b ∈ (openings [e.body]).branches, ∀ b' ∈ (openings [e'.body]).branches,
      b.set.apart b'.set := by
  decide

/-- The opening quote tells the entry. -/
theorem eq_of_quote {e' : Entry} {text' : List Char} {m : Nat} (h : e ∈ quoted) (h' : e' ∈ quoted)
    (found : e.length? (c :: text) = some n) (found' : e'.length? (c :: text') = some m) :
    e = e' := by
  have plain (e : Entry) (h : e ∈ quoted) : e.body.eachSet fun _ => true :=
    plain_of_mem e (by simp [entries, h])
  obtain ⟨d, _, b, whole, mem, hc⟩ := Entry.exists_opening (plain e h) found
  obtain ⟨d', _, b', whole', mem', hc'⟩ := Entry.exists_opening (plain e' h') found'
  obtain ⟨rfl, -⟩ := List.cons_eq_cons.1 whole
  obtain ⟨rfl, -⟩ := List.cons_eq_cons.1 whole'
  refine (quotes_apart e h e' h').resolve_right fun apart => ?_
  exact CharSet.not_contains_of_apart
    (apart b (Lead.mem_branches.2 mem) b' (Lead.mem_branches.2 mem')) hc hc'

/-! ## Groups of entries -/

theorem firstOf_skips (head : text.head? = some c) (h : glyph c ≠ .blank ∧ glyph c ≠ .slash) :
    firstOf skips text = none :=
  Group.skips.firstOf_eq_none head (by simpa [Group.skips] using h)

theorem firstOf_words (head : text.head? = some c) (h : glyph c ≠ .letter) :
    firstOf words text = none :=
  Group.words.firstOf_eq_none head (by simpa [Group.words] using h)

theorem firstOf_numbers (head : text.head? = some c) (h : glyph c ≠ .digit ∧ glyph c ≠ .point) :
    firstOf numbers text = none :=
  Group.numbers.firstOf_eq_none head (by simpa [Group.numbers] using h)

theorem firstOf_quoted (head : text.head? = some c) (h : glyph c ≠ .quote) :
    firstOf quoted text = none :=
  Group.quoted.firstOf_eq_none head (by simpa [Group.quoted] using h)

theorem firstOf_marks (head : text.head? = some c)
    (h : glyph c ≠ .mark ∧ glyph c ≠ .point ∧ glyph c ≠ .slash) : firstOf marks text = none :=
  Group.marks.firstOf_eq_none head (by simpa [Group.marks] using h)

theorem firstOf_cons_of_none (h : e.length? text = none) : firstOf (e :: es) text = firstOf es text := by
  rw [firstOf_cons, h, Option.map_none, Option.none_or]

theorem firstOf_cons_of_some (h : l.entry.length? (l.chars ++ tail) = some l.chars.length) :
    firstOf (l.entry :: es) (l.chars ++ tail) = some l := by
  rw [firstOf_cons, h, Option.map_some, List.take_left, Option.some_or]

/-- A group takes the same if what took nothing still takes nothing, and what took the lexeme still
takes it. -/
theorem firstOf_keeps (h : firstOf es (l.chars ++ a) = some l)
    (hnone : ∀ e ∈ es, e.length? (l.chars ++ a) = none → e.length? (l.chars ++ tail) = none)
    (hsome : l.entry.length? (l.chars ++ a) = some l.chars.length →
      l.entry.length? (l.chars ++ tail) = some l.chars.length) :
    firstOf es (l.chars ++ tail) = some l := by
  induction es with
  | nil => simp at h
  | cons e es ih =>
    cases found : e.length? (l.chars ++ a) with
    | none =>
      rw [firstOf_cons_of_none (hnone e (.head _) found)]
      exact ih (by rwa [firstOf_cons_of_none found] at h) fun e mem => hnone e (.tail _ mem)
    | some n =>
      have taken : ⟨e, (l.chars ++ a).take n⟩ = l := by simpa [firstOf_cons, found] using h
      obtain rfl : e = l.entry := congrArg Lexeme.entry taken
      have inside := preferred?_le (Entry.length?_eq_some.1 found).1
      have length : n = l.chars.length := by
        have := congrArg (·.chars.length) taken
        rwa [List.length_take, Nat.min_eq_left inside] at this
      exact firstOf_cons_of_some (hsome (length ▸ found))

/-- A blank stands next, or nothing does. -/
def SpaceNext (tail : List Char) : Prop := tail = [] ∨ ∃ more, tail = ' ' :: more

theorem not_isWordChar_space : isWordChar ' ' = false := not_isWordChar_of_blank (by decide)

theorem atBoundary_of_spaceNext (ht : SpaceNext tail) : atBoundary tail := by
  rcases ht with rfl | ⟨more, rfl⟩
  · rfl
  · simp [atBoundary, not_isWordChar_space]

/-- Most entries do not look past a blank. -/
theorem length?_append_space (h : e ∈ words ++ (numbers ++ (marks ++ [name])))
    (ht : SpaceNext tail) : e.length? (T ++ tail) = e.length? T := by
  rcases ht with rfl | ⟨more, rfl⟩
  · rw [List.append_nil]
  · exact Entry.length?_append_of_avoids (avoids_space e h) not_isWordChar_space

theorem length?_respaced (h : e ∈ words ++ (numbers ++ (marks ++ [name]))) (ht : SpaceNext tail)
    (found : e.length? (T ++ a) = some T.length) : e.length? (T ++ tail) = some T.length := by
  have mem : e ∈ entries := by
    simp only [entries, List.mem_append] at h ⊢
    tauto
  rw [length?_append_space h ht, Entry.length?_of_append (plain_of_mem e mem) found]

/-- Behind what a keyword or a constant takes no word goes on. -/
theorem atBoundary_of_length? (found : e.length? (T ++ a) = some T.length)
    (needs : e.tokenClass.needsBoundary) : atBoundary a := by
  simpa using (Entry.length?_eq_some.1 found).2.2 needs

/-! ## Each group reads its tokens again -/

/-- A word that is not taken is not taken with a blank behind, if no word went on. -/
theorem word_eq_none (he : e ∈ words) (nothing : e.length? (T ++ a) = none) (ha : atBoundary a)
    (ht : SpaceNext tail) : e.length? (T ++ tail) = none := by
  rw [length?_append_space (by simp [he]) ht]
  obtain ⟨w, k, rfl, -⟩ := exists_literal_of_mem_words he
  exact length?_literal_eq_none nothing fun _ => ha

theorem words_respaced (h : firstOf words (l.chars ++ a) = some l) (ht : SpaceNext tail) :
    firstOf words (l.chars ++ tail) = some l := by
  obtain ⟨mem, found, -⟩ := of_firstOf_eq_some h
  obtain ⟨w, k, same, needs⟩ := exists_literal_of_mem_words mem
  have ends : atBoundary a := atBoundary_of_length? found (by rw [same]; exact needs)
  exact firstOf_keeps h (fun e he nothing => word_eq_none he nothing ends ht)
    fun found => length?_respaced (by simp [mem]) ht found

theorem numbers_respaced (h : firstOf numbers (l.chars ++ a) = some l) (ht : SpaceNext tail) :
    firstOf numbers (l.chars ++ tail) = some l := by
  obtain ⟨mem, found, -⟩ := of_firstOf_eq_some h
  have again := length?_respaced (by simp [mem]) ht found
  have skip (e : Entry) (he : e ∈ numbers) (nothing : e.length? l.chars = none) :
      e.length? (l.chars ++ tail) = none := by
    rw [length?_append_space (by simp [he]) ht, nothing]
  have alone (e : Entry) (he : e ∈ numbers) (same : l.entry = e) :
      e.length? l.chars = some l.chars.length := by
    rw [← same]
    exact Entry.length?_of_append (plain_of_mem _ (by simp [entries, mem])) found
  obtain same | same | same : l.entry = imaginary ∨ l.entry = float ∨ l.entry = integer := by
    simpa [numbers] using mem
  · rw [numbers, ← same]
    exact firstOf_cons_of_some again
  · have here := alone float (by simp [numbers]) same
    rw [numbers, firstOf_cons_of_none (skip _ (by simp [numbers]) (imaginary_eq_none_of_float here)), ← same]
    exact firstOf_cons_of_some again
  · have here := alone integer (by simp [numbers]) same
    rw [numbers, firstOf_cons_of_none (skip _ (by simp [numbers]) (imaginary_eq_none_of_integer here)),
      firstOf_cons_of_none (skip _ (by simp [numbers]) (float_eq_none_of_integer here)), ← same]
    exact firstOf_cons_of_some again

theorem quoted_respaced (h : firstOf quoted (l.chars ++ a) = some l) (ht : SpaceNext tail) :
    firstOf quoted (l.chars ++ tail) = some l := by
  obtain ⟨mem, found, -⟩ := of_firstOf_eq_some h
  have again := length?_quoted mem found (atBoundary_of_spaceNext ht)
  refine firstOf_keeps h (fun e he nothing => ?_) fun _ => again
  refine Option.eq_none_iff_forall_ne_some.2 fun n other => ?_
  cases chars : l.chars with
  | nil =>
    have nonempty := (Entry.length?_eq_some.1 found).2.1
    exact absurd (congrArg List.length chars) nonempty
  | cons c cs =>
    rw [chars] at other again
    obtain rfl := eq_of_quote he mem other again
    exact absurd (found.symm.trans nothing) (by simp)

theorem marks_respaced (h : firstOf marks (l.chars ++ a) = some l) (ht : SpaceNext tail) :
    firstOf marks (l.chars ++ tail) = some l := by
  obtain ⟨mem, found, -⟩ := of_firstOf_eq_some h
  refine firstOf_keeps h (fun e he nothing => ?_) fun found => length?_respaced (by simp [mem]) ht found
  rw [length?_append_space (by simp [he]) ht]
  obtain ⟨w, k, rfl, free⟩ := exists_literal_of_mem_marks he
  exact length?_literal_eq_none nothing fun needs => by simp [free] at needs

theorem name_respaced (h : firstOf [name] (l.chars ++ a) = some l) (ht : SpaceNext tail) :
    firstOf [name] (l.chars ++ tail) = some l := by
  obtain ⟨mem, found, -⟩ := of_firstOf_eq_some h
  obtain same : l.entry = name := by simpa using mem
  rw [← same]
  exact firstOf_cons_of_some (length?_respaced (by simp [same]) ht found)

/-! ## Behind names and marks -/

theorem nameSet_of_glyph (h : glyph c = .letter ∨ glyph c = .digit) : nameSet.contains c := by
  unfold glyph at h
  split at h
  · simp at h
  split at h
  · rename_i letter
    rcases (Bool.or_eq_true_iff.1 letter) with letter | low
    · simp [nameSet, nameStart, CharSet.contains, Property.holds, letter]
    · simp [nameSet, nameStart, CharSet.contains, of_decide_eq_true low]
  split at h
  · rename_i digit
    simp [nameSet, digitSet, CharSet.contains, Property.holds, digit]
  split at h
  · simp at h
  split at h
  · simp at h
  split at h
  · simp at h
  split at h <;> simp at h

/-- A name takes all characters that can belong to it. -/
theorem takeWhile_of_name (found : name.length? (T ++ a) = some T.length) :
    (T ++ a).takeWhile nameSet.contains = T := by
  obtain ⟨found, nonempty, -⟩ := Entry.length?_eq_some.1 found
  have shape : name.body = cat (set nameStart) (star true (set nameSet)) := rfl
  cases T with
  | nil => exact absurd rfl nonempty
  | cons d ds =>
    rw [shape, preferred?_cat, List.cons_append, preferred?_set_cons] at found
    split at found
    · rename_i start
      have first : nameSet.contains d := by rw [nameSet, CharSet.contains, start, Bool.true_or]
      rw [preferred?_star_set] at found
      have length : ((ds ++ a).takeWhile nameSet.contains).length = ds.length := by simpa using found
      have whole := List.takeWhile_append_dropWhile (p := nameSet.contains) (l := ds ++ a)
      rw [List.cons_append, List.takeWhile_cons_of_pos first, (List.append_inj whole length).1]
    · exact absurd found.symm (Option.some_ne_none _)

theorem not_nameSet_behind_name (found : name.length? (T ++ c :: a) = some T.length) :
    nameSet.contains c = false := by
  have run := takeWhile_of_name found
  have inside : ∀ d ∈ T, nameSet.contains d := by
    intro d mem
    rw [← run] at mem
    exact List.all_eq_true.1 List.all_takeWhile d mem
  cases belongs : nameSet.contains c with
  | false => rfl
  | true =>
    rw [List.takeWhile_append_of_pos inside, List.takeWhile_cons_of_pos belongs] at run
    exact absurd (List.append_right_eq_self.1 run) (List.cons_ne_nil _ _)

theorem not_foreign_of_lexeme? (h : (grammar.lexeme? (c :: text)).isSome) : glyph c ≠ .foreign := by
  obtain ⟨l, found⟩ := Option.isSome_iff_exists.1 h
  rw [lexeme?_eq] at found
  obtain ⟨mem, found, -⟩ := of_firstOf_eq_some found
  intro foreign
  have start := Entry.glyph_mem_starts (plain_of_mem _ mem) found
  obtain ⟨G, hG, -, begins⟩ := Group.exists_of_start mem (foreign ▸ start)
  have none_foreign : ∀ G ∈ Group.all, .foreign ∉ G.starts := by decide
  exact none_foreign G hG begins

/-- Where the scan goes on behind a name, no word goes on: a character of a word that is not taken
for the name begins nothing. -/
theorem atBoundary_behind_name (found : name.length? (T ++ a) = some T.length)
    (ha : a = [] ∨ (grammar.lexeme? a).isSome) : atBoundary a := by
  cases a with
  | nil => rfl
  | cons c cs =>
    have outside := not_nameSet_behind_name found
    have known := not_foreign_of_lexeme? (ha.resolve_left (by simp))
    cases word : isWordChar c with
    | false => simp [atBoundary, word]
    | true =>
      rcases glyph_of_isWordChar word with letter | digit | foreign
      · simp [nameSet_of_glyph (.inl letter)] at outside
      · simp [nameSet_of_glyph (.inr digit)] at outside
      · exact absurd foreign known

theorem eq_of_glyph_slash (h : glyph c = .slash) : c = '/' := by
  unfold glyph at h
  repeat' split at h
  all_goals simp_all

theorem eq_of_prefix_append {w : List Char} (h : w <+: T ++ a) (length : T.length = w.length) :
    T = w := by
  have shorter := List.prefix_of_prefix_length_le (List.prefix_append T a) h (Nat.le_of_eq length)
  exact shorter.eq_of_length length

theorem chars_eq_name_of_mark (mem : e ∈ marks) (found : e.length? (T ++ a) = some T.length) :
    T = e.name.toList := by
  obtain ⟨w, k, rfl, -⟩ := exists_literal_of_mem_marks mem
  obtain ⟨front, length, -, -⟩ := length?_literal.1 found
  exact eq_of_prefix_append front length

theorem no_number_in_marks : ∀ e ∈ marks, ∀ e' ∈ numbers, e'.length? e.name.toList = none := by
  decide

theorem slash_marks : ∀ e ∈ marks, e.name.toList.head? = some '/' →
    e.tokenClass = .operator ∧ (e.name.toList = ['/'] ∨ e.name.toList = ['/', '=']) := by
  decide

/-- A slash begins nothing to skip if neither a slash nor a star follows it. -/
theorem firstOf_skips_slash (h : text.head? ≠ some '/') (h' : text.head? ≠ some '*') :
    firstOf skips ('/' :: text) = none := by
  have no_blank : preferred? none [blank.body] ('/' :: text) = none := by
    have shape : blank.body = plus true (set (.property .whiteSpace)) := rfl
    have outside : (CharSet.property .whiteSpace).contains '/' = false := by decide
    rw [shape, preferred?_plus rfl, preferred?_set_cons, outside]
    rfl
  have no_line : preferred? none [lineComment.body] ('/' :: text) = none :=
    preferred?_eq_none_of_second h
  have no_block : preferred? none [blockComment.body] ('/' :: text) = none :=
    preferred?_eq_none_of_second h'
  simp [firstOf, skips, Entry.length?, no_blank, no_line, no_block]

/-- Before a mark with a blank behind it nothing else is read. -/
theorem before_mark (mem : l.entry ∈ marks) (found : l.entry.length? (l.chars ++ a) = some l.chars.length)
    (head : l.chars.head? = some c) (kind : glyph c = .mark ∨ glyph c = .point ∨ glyph c = .slash)
    (ht : SpaceNext tail) :
    firstOf skips (l.chars ++ tail) = none ∧ firstOf words (l.chars ++ tail) = none ∧
      firstOf numbers (l.chars ++ tail) = none ∧ firstOf quoted (l.chars ++ tail) = none := by
  have chars := chars_eq_name_of_mark mem found
  have whole : (l.chars ++ tail).head? = some c := by rw [List.head?_append, head]; rfl
  refine ⟨?_, firstOf_words whole ?_, ?_, firstOf_quoted whole ?_⟩
  · by_cases slash : glyph c = .slash
    · have space_next : tail.head? ≠ some '/' ∧ tail.head? ≠ some '*' := by
        rcases ht with rfl | ⟨more, rfl⟩ <;> simp
      rw [eq_of_glyph_slash slash, chars] at head
      rcases (slash_marks _ mem head).2 with text | text
      · rw [chars, text]
        exact firstOf_skips_slash space_next.1 space_next.2
      · rw [chars, text]
        exact firstOf_skips_slash (by simp) (by simp)
    · exact firstOf_skips whole ⟨by rcases kind with h | h | h <;> simp [h], slash⟩
  · rcases kind with h | h | h <;> simp [h]
  · refine firstOf_eq_none.2 fun e he => ?_
    rw [length?_append_space (by simp [he]) ht, chars]
    exact no_number_in_marks _ mem e he
  · rcases kind with h | h | h <;> simp [h]

/-- A token is read the same at the end of a text, or with a blank behind it. -/
theorem lexeme?_respaced (h : grammar.lexeme? (l.chars ++ a) = some l)
    (recorded : l.entry.tokenClass ≠ .skip) (ha : a = [] ∨ (grammar.lexeme? a).isSome)
    (ht : SpaceNext tail) : grammar.lexeme? (l.chars ++ tail) = some l := by
  obtain ⟨c, cs, chars⟩ := List.exists_cons_of_ne_nil (Grammar.lexeme?_eq_some h).1
  have before : (l.chars ++ a).head? = some c := by simp [chars]
  have after : (l.chars ++ tail).head? = some c := by simp [chars]
  simp only [lexeme?_eq, entries, firstOf_append] at h ⊢
  rcases Option.or_eq_some_iff.1 h with h | ⟨-, h⟩
  · have skipped : ∀ e ∈ skips, e.tokenClass = .skip := by decide
    exact absurd (skipped _ (of_firstOf_eq_some h).1) recorded
  rcases Option.or_eq_some_iff.1 h with h | ⟨no_words, h⟩
  · have kind : glyph c = .letter := by
      simpa [Group.words] using Group.words.glyph_mem_starts before h
    simp [firstOf_skips after, kind, words_respaced h ht]
  rcases Option.or_eq_some_iff.1 h with h | ⟨-, h⟩
  · have kind : glyph c = .digit ∨ glyph c = .point := by
      simpa [Group.numbers] using Group.numbers.glyph_mem_starts before h
    rw [firstOf_skips after (by rcases kind with k | k <;> simp [k]),
      firstOf_words after (by rcases kind with k | k <;> simp [k]), numbers_respaced h ht]
    rfl
  rcases Option.or_eq_some_iff.1 h with h | ⟨-, h⟩
  · have kind : glyph c = .quote := by
      simpa [Group.quoted] using Group.quoted.glyph_mem_starts before h
    simp [firstOf_skips after, firstOf_words after, firstOf_numbers after, kind, quoted_respaced h ht]
  rcases Option.or_eq_some_iff.1 h with h | ⟨-, h⟩
  · have kind : glyph c = .mark ∨ glyph c = .point ∨ glyph c = .slash := by
      simpa [Group.marks] using Group.marks.glyph_mem_starts before h
    obtain ⟨mem, found, -⟩ := of_firstOf_eq_some h
    have head : l.chars.head? = some c := by simp [chars]
    obtain ⟨hS, hW, hN, hQ⟩ := before_mark mem found head kind ht
    simp [hS, hW, hN, hQ, marks_respaced h ht]
  · have kind : glyph c = .letter := by
      simpa [Group.name] using Group.name.glyph_mem_starts before h
    obtain ⟨mem, found, -⟩ := of_firstOf_eq_some h
    obtain same : l.entry = name := by simpa using mem
    have ends := atBoundary_behind_name (same ▸ found) ha
    have hW : firstOf words (l.chars ++ tail) = none :=
      firstOf_eq_none.2 fun e he => word_eq_none he (firstOf_eq_none.1 no_words e he) ends ht
    simp [firstOf_skips after, hW, firstOf_numbers after, firstOf_quoted after, firstOf_marks after,
      kind, name_respaced h ht]

end GoScan.Go
