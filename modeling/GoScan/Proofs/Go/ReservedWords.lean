import GoScan.Proofs.Go.Openings

/-!
# Where a name is spelled like a reserved word

A keyword or a constant is refused where a word goes on behind it, and then a name is read. It is longer
than the reserved word if what follows belongs to names. But a word may go on with a character that does
not; the name is then the reserved word itself, and the scan stops behind it.

* `firstOf_words_inside`: inside a word no reserved word is taken;
* `match?_of_reserved`: before which characters a name is spelled like a reserved word;
* `reserved_names_stuck`: nothing is read behind such a name;
* `not_unreserved`: there are such names.
-/

namespace GoScan

namespace Go

variable {T a cs : List Char} {c : Char} {l : Lexeme} {w : String}

/-- Keywords, and the constants that have names. -/
def reserved : List String := keywords ++ namedConstants

/-- A word goes on at the start of the text, with a character that does not belong to names. -/
def WordGoesOn (text : List Char) : Prop :=
  ∃ c cs, text = c :: cs ∧ isWordChar c ∧ isNameChar c = false

theorem wordGoesOn_square : WordGoesOn ['²'] := ⟨'²', [], rfl, by decide +kernel⟩

theorem exists_reserved (mem : w ∈ reserved) : ∃ e ∈ words, e.name = w :=
  exists_word (List.mem_append.1 mem)

theorem spelled_like_name : ∀ w ∈ reserved, w.toList.head?.any isNameStart ∧ w.toList.all isNameChar := by
  decide

/-- Where a name goes on, or a word does, no keyword and no constant ends. -/
theorem firstOf_words_inside (inside : T.all isNameChar) (word : isWordChar c)
    (outside : isNameChar c = false) (cs : List Char) : firstOf words (T ++ c :: cs) = none := by
  apply firstOf_eq_none.2
  intro e mem
  obtain ⟨k, same, needs⟩ := literal_of_mem_words mem
  apply Option.eq_none_iff_forall_ne_some.2
  intro n found
  rw [same] at found
  obtain ⟨front, size, -, ends⟩ := length?_literal.1 found
  have shorter : n ≤ T.length := by
    by_contra longer
    have front' : T ++ [c] <+: e.name.toList := by
      have begins : T ++ [c] <+: T ++ c :: cs := ⟨cs, by simp⟩
      apply List.prefix_of_prefix_length_le begins front
      rw [List.length_append, List.length_singleton]
      omega
    have belongs := List.all_eq_true.1 (of_mem_words e mem).1 c (front'.subset (by simp))
    rw [outside] at belongs
    exact absurd belongs Bool.false_ne_true
  have boundary := ends needs
  rw [List.drop_append_of_le_length shorter] at boundary
  cases left : T.drop n with
  | nil => simp [left, atBoundary, word] at boundary
  | cons d ds =>
    have belongs : isNameChar d := by
      apply List.all_eq_true.1 inside
      apply List.mem_of_mem_drop (i := n)
      rw [left]
      exact List.mem_cons_self
    simp [left, atBoundary, isWordChar_of_isNameChar belongs] at boundary

/-- There the name takes the reserved word. -/
theorem lexeme?_of_reserved (mem : w ∈ reserved) (goesOn : WordGoesOn a) :
    grammar.lexeme? (w.toList ++ a) = some ⟨name, w.toList⟩ := by
  obtain ⟨c, cs, rfl, word, outside⟩ := goesOn
  obtain ⟨begins, inside⟩ := spelled_like_name w mem
  obtain ⟨d, first, start⟩ := (Option.any_eq_true _ _).1 begins
  have none_taken := firstOf_words_inside inside word outside cs
  obtain ⟨ds, spelled⟩ := List.head?_eq_some_iff.1 first
  have run : (w.toList ++ c :: cs).takeWhile isNameChar = w.toList := by
    rw [List.takeWhile_append_of_pos (List.all_eq_true.1 inside),
      List.takeWhile_cons_of_neg (by simp [outside]), List.append_nil]
  rw [spelled, List.cons_append] at run none_taken ⊢
  have found : name.length? (d :: (ds ++ c :: cs)) =
      some ((d :: (ds ++ c :: cs)).takeWhile isNameChar).length := length?_name start
  rw [run] at found
  rw [lexeme?_of_letter rfl (glyph_of_isNameStart start), none_taken, Option.none_or]
  exact firstOf_cons_of_some (l := ⟨name, d :: ds⟩) found

/-- A name that is read begins with a letter, and neither a keyword nor a constant is taken there. -/
theorem firstOf_words_of_id (taken : grammar.lexeme? (l.chars ++ a) = some l)
    (id : l.entry.tokenClass = .id) : firstOf words (l.chars ++ a) = none := by
  obtain ⟨listed, found⟩ := of_lexeme? taken
  obtain ⟨c, cs, chars⟩ := List.exists_cons_of_ne_nil (Grammar.lexeme?_eq_some taken).1
  have head : (l.chars ++ a).head? = some c := by
    rw [chars]
    rfl
  have letter : glyph c = .letter := by
    rw [eq_name_of_id _ listed id, chars, List.cons_append] at found
    have start := Entry.glyph_mem_starts (plain_of_mem _ (by decide)) found
    simpa [Group.name] using Group.name.begins name (.head _) _ start
  rw [lexeme?_of_letter head letter] at taken
  rcases Option.or_eq_some_iff.1 taken with word | ⟨nothing, -⟩
  · obtain ⟨mem, -, -⟩ := of_firstOf_words word
    rcases (of_mem_words l.entry mem).2 with keyword | constant
    · exact absurd (id.symm.trans keyword.1) (by decide)
    · exact absurd (id.symm.trans constant.1) (by decide)
  · exact nothing

/-- Where no word goes on behind it, a name is not spelled like a reserved word. -/
theorem not_reserved_of_atBoundary (taken : grammar.lexeme? (l.chars ++ a) = some l)
    (id : l.entry.tokenClass = .id) (ends : atBoundary a) : String.ofList l.chars ∉ reserved := by
  intro listed
  obtain ⟨e, mem, spelled⟩ := exists_reserved listed
  have nonempty := (Grammar.lexeme?_eq_some taken).1
  apply ne_name_of_firstOf_words (firstOf_words_of_id taken id) nonempty ends mem
  rw [spelled, String.toList_ofList]

/-- Behind a name that is spelled like a reserved word the word goes on. -/
theorem wordGoesOn_of_reserved (taken : grammar.lexeme? (l.chars ++ a) = some l)
    (id : l.entry.tokenClass = .id) (listed : String.ofList l.chars ∈ reserved) : WordGoesOn a := by
  have goesOn : ¬atBoundary a := fun ends => not_reserved_of_atBoundary taken id ends listed
  cases a with
  | nil => exact absurd rfl goesOn
  | cons c cs =>
    refine ⟨c, cs, rfl, by simpa [atBoundary] using goesOn, ?_⟩
    obtain ⟨mem, found⟩ := of_lexeme? taken
    rw [eq_name_of_id _ mem id] at found
    rw [← contains_nameSet]
    exact not_nameSet_behind_name found

/-- A name is spelled like a reserved word exactly where the word goes on with no character of names. -/
theorem match?_of_reserved (mem : w ∈ reserved) (a : List Char) :
    grammar.match? (w.toList ++ a) = some ⟨name, ⟨0, w.toList.length⟩⟩ ↔ WordGoesOn a := by
  constructor
  · intro found
    have taken : grammar.lexeme? (w.toList ++ a) = some ⟨name, w.toList⟩ := by
      rw [Grammar.lexeme?, found, Option.map_some, List.take_left]
    apply wordGoesOn_of_reserved (l := ⟨name, w.toList⟩) taken rfl
    rw [String.ofList_toList]
    exact mem
  · intro goesOn
    exact match?_of_lexeme? (lexeme?_of_reserved mem goesOn)

/-- The word that goes on there begins nothing. -/
theorem lexeme?_of_wordGoesOn (goesOn : WordGoesOn a) : grammar.lexeme? a = none := by
  obtain ⟨c, cs, rfl, word, outside⟩ := goesOn
  by_contra read
  have known := not_foreign_of_lexeme? (Option.isSome_iff_ne_none.2 read)
  rw [← contains_nameSet] at outside
  rcases glyph_of_isWordChar word with letter | digit | foreign
  · simp [nameSet_of_glyph (.inl letter)] at outside
  · simp [nameSet_of_glyph (.inr digit)] at outside
  · exact known foreign

end Go

open Scanner (Reads ofText)

variable {ι : Type} [Interner ι]

/-- A name is read that is spelled like a reserved word exactly where the word goes on behind it with a
character that does not belong to names. Nothing is read behind such a name, whatever the calls, for the word
that goes on there begins no token. -/
theorem reserved_names_stuck :
    (∀ w ∈ Go.reserved, ∀ a : List Char,
      Go.grammar.match? (w.toList ++ a) = some ⟨Go.name, ⟨0, w.toList.length⟩⟩ ↔ Go.WordGoesOn a) ∧
    ∀ (source : String) (history : List (Call × ι)) (before : List Token) (t : Token) (behind : List Token),
      tokensReported Go.grammar history (ofText source) = before ++ t :: behind →
      t.tokenClass = .id → t.text ∈ Go.reserved →
        behind = [] ∧ Go.WordGoesOn (takeTurns Go.grammar history (ofText source)).rest ∧
        ∀ later : List (Call × ι),
          tokensReported Go.grammar later (takeTurns Go.grammar history (ofText source)) = [] := by
  refine ⟨fun w mem a => Go.match?_of_reserved mem a, ?_⟩
  intro source history before t behind row id listed
  obtain ⟨ls, scans, yields⟩ := Reads.takeTurns Go.grammar source history
  rw [row] at yields
  obtain ⟨l, a, ms, taken, here, tail, others⟩ := scans.exists_next yields
  rw [here.tokenClass] at id
  have spelled : String.ofList l.chars ∈ Go.reserved := by
    rw [← here.text, String.ofList_toList]
    exact listed
  have goesOn := Go.wordGoesOn_of_reserved taken id spelled
  have nothing := Go.lexeme?_of_wordGoesOn goesOn
  obtain ⟨rfl, rfl⟩ : ms = [] ∧ a = _ := by
    cases tail with
    | done => exact ⟨rfl, rfl⟩
    | next taken' _ => exact absurd (nothing.symm.trans taken') (Option.some_ne_none _).symm
  refine ⟨List.forall₂_nil_left_iff.1 others, goesOn, ?_⟩
  intro later
  exact Scanner.tokensReported_of_stops (.inr nothing) later

/-- A number sign behind a keyword, and a vowel sign behind a constant. -/
theorem reserved_names_stuck_square :
    ("if" ∈ Go.reserved ∧ Go.grammar.match? ("if".toList ++ ['²']) = some ⟨Go.name, ⟨0, 2⟩⟩) ∧
    tokensReported Go.grammar [(.next, IdentTable.empty)] (ofText "nilा x") =
      [] ++ ⟨"id0", "nil", .id, ⟨0, 1, 1⟩⟩ :: [] ∧ "nil" ∈ Go.reserved ∧
    Go.WordGoesOn (takeTurns Go.grammar [(.next, IdentTable.empty)] (ofText "nilा x")).rest ∧
    tokensReported Go.grammar [(.analyze, IdentTable.empty)]
      (takeTurns Go.grammar [(.next, IdentTable.empty)] (ofText "nilा x")) = [] := by
  obtain ⟨spelled, stuck⟩ := reserved_names_stuck (ι := IdentTable)
  have listed : "if" ∈ Go.reserved := by decide
  refine ⟨⟨listed, (spelled "if" listed ['²']).2 Go.wordGoesOn_square⟩, ?_⟩
  have row : tokensReported Go.grammar [(.next, IdentTable.empty)] (ofText "nilा x") =
      [] ++ ⟨"id0", "nil", .id, ⟨0, 1, 1⟩⟩ :: [] := by
    rw [Go.grammar_eq]
    decide +kernel
  have named : "nil" ∈ Go.reserved := by decide
  obtain ⟨-, goesOn, nothing⟩ := stuck "nilा x" _ [] _ [] row rfl named
  exact ⟨row, named, goesOn, nothing _⟩

/-- A name can be spelled like a reserved word. -/
theorem not_unreserved :
    ¬∀ (text : List Char) (m : Match), Go.grammar.match? text = some m → m.entry.tokenClass = .id →
      String.ofList (text.take m.span.stop) ∉ Go.reserved := by
  intro unreserved
  have listed : "if" ∈ Go.reserved := by decide
  have read := (Go.match?_of_reserved listed ['²']).2 Go.wordGoesOn_square
  apply unreserved _ _ read rfl
  change String.ofList (("if".toList ++ ['²']).take "if".toList.length) ∈ Go.reserved
  rw [List.take_left, String.ofList_toList]
  exact listed

end GoScan
