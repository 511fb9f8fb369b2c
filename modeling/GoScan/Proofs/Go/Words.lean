import GoScan.Proofs.Go.Retokenizing
import GoScan.Proofs.Scan.Tiling

/-!
# Which words are keywords, constants and names

Keywords and constants are tried before names and must stand before a boundary; what a boundary is and
what belongs to a name are not quite the same. In a text that is tokenized to its end this makes no
difference.

* `Go.of_firstOf_words`, `Go.takeWhile_of_atBoundary`: a keyword or a constant is a whole word;
* `Go.ne_name_of_firstOf_words`: no name is spelled like one;
* `words_classified`: so the spelling of a word decides its class.
-/

namespace GoScan

open Lexeme (tokens)

/-- A character with which a name can begin. -/
def isNameStart (c : Char) : Bool := c = '_' || Unicode.isLetter c

/-- A character that belongs to a name. -/
def isNameChar (c : Char) : Bool := isNameStart c || Unicode.category c = .nd

theorem isWordChar_of_isNameChar {c : Char} (h : isNameChar c) : isWordChar c := by
  rw [isNameChar, isNameStart, Bool.or_eq_true, Bool.or_eq_true, decide_eq_true_eq, decide_eq_true_eq] at h
  rcases h with (low | letter) | digit
  · simp [isWordChar, low]
  · exact isWordChar_of_isLetter letter
  · exact isWordChar_of_digit digit

theorem glyph_of_isNameStart {c : Char} (h : isNameStart c) : glyph c = .letter := by
  rcases Bool.or_eq_true_iff.1 h with low | letter
  · rw [of_decide_eq_true low]
    decide
  · exact glyph_of_isLetter letter

namespace Go

open Pattern

variable {T a text : List Char} {l : Lexeme} {c : Char}

theorem contains_nameSet : nameSet.contains = isNameChar := by
  funext c
  simp [nameSet, nameStart, digitSet, CharSet.contains, Property.holds, isNameChar, isNameStart,
    beq_eq_decide]

/-- Behind a keyword or a constant nothing follows that could belong to a name. -/
theorem takeWhile_of_atBoundary (inside : T.all isNameChar) (ends : atBoundary a) :
    (T ++ a).takeWhile isNameChar = T := by
  have behind : a.takeWhile isNameChar = [] := by
    cases a with
    | nil => rfl
    | cons c cs =>
      have outside : isNameChar c = false := by
        cases belongs : isNameChar c with
        | false => rfl
        | true => simp [atBoundary, isWordChar_of_isNameChar belongs] at ends
      rw [List.takeWhile_cons_of_neg (by simp [outside])]
  rw [List.takeWhile_append_of_pos (List.all_eq_true.1 inside), behind, List.append_nil]

/-- With a letter begins a keyword or a constant, or else a name. -/
theorem lexeme?_of_letter (head : text.head? = some c) (letter : glyph c = .letter) :
    grammar.lexeme? text = (firstOf words text).or (firstOf [name] text) := by
  rw [← firstOf_append]
  exact lexeme?_of_glyph head letter

/-- Each keyword and each constant is spelled like a name, and has its own text for its name. -/
theorem of_mem_words : ∀ e ∈ words, e.name.toList.all isNameChar ∧
    (e.tokenClass = .keyword ∧ e.name ∈ keywords ∧ e.name ∉ namedConstants ∨
      e.tokenClass = .constant ∧ e.name ∈ namedConstants ∧ e.name ∉ keywords) := by
  decide

theorem literal_of_mem_words {e : Entry} (mem : e ∈ words) :
    ∃ k, e = literal e.name k ∧ k.needsBoundary := by
  obtain ⟨w, k, rfl, needs⟩ := exists_literal_of_mem_words mem
  exact ⟨k, rfl, needs⟩

theorem exists_word {w : String} (listed : w ∈ keywords ∨ w ∈ namedConstants) :
    ∃ e ∈ words, e.name = w := by
  rcases listed with keyword | constant
  · exact ⟨literal w .keyword, List.mem_append_left _ (List.mem_map_of_mem keyword), rfl⟩
  · exact ⟨literal w .constant, List.mem_append_right _ (List.mem_map_of_mem constant), rfl⟩

/-- What a keyword or a constant takes is its text, and no word goes on behind it. -/
theorem of_firstOf_words (found : firstOf words (l.chars ++ a) = some l) :
    l.entry ∈ words ∧ l.chars = l.entry.name.toList ∧ atBoundary a := by
  obtain ⟨mem, length, -⟩ := of_firstOf_eq_some found
  obtain ⟨k, same, needs⟩ := literal_of_mem_words mem
  refine ⟨mem, ?_, atBoundary_of_length? length (by rw [same]; exact needs)⟩
  rw [same] at length
  obtain ⟨front, size, -⟩ := length?_literal.1 length
  exact eq_of_prefix_append front size

/-- Where neither a keyword nor a constant is taken and no word goes on, the name is not spelled like
one. -/
theorem ne_name_of_firstOf_words {e : Entry} (nothing : firstOf words (T ++ a) = none)
    (nonempty : T ≠ []) (ends : atBoundary a) (mem : e ∈ words) : T ≠ e.name.toList := by
  intro spelled
  obtain ⟨k, same, -⟩ := literal_of_mem_words mem
  have taken : (literal e.name k).length? (T ++ a) = some T.length := by
    refine length?_literal.2 ⟨?_, ?_, ?_, ?_⟩
    · rw [← spelled]
      exact List.prefix_append T a
    · rw [spelled]
    · exact mt List.length_eq_zero_iff.1 nonempty
    · intro _
      rw [List.drop_left]
      exact ends
  rw [← same, firstOf_eq_none.1 nothing e mem] at taken
  exact absurd taken.symm (Option.some_ne_none _)

/-- Where a scan goes on behind a word, the word is as long as it can be, and its spelling decides its
class. -/
theorem class_of_word (taken : grammar.lexeme? (l.chars ++ a) = some l)
    (further : a = [] ∨ (grammar.lexeme? a).isSome) (head : l.chars.head? = some c)
    (start : isNameStart c) :
    (l.chars ++ a).takeWhile isNameChar = l.chars ∧
    ((l.entry.tokenClass = .keyword ↔ String.ofList l.chars ∈ keywords) ∧
      (l.entry.tokenClass = .constant ↔ String.ofList l.chars ∈ namedConstants) ∧
      (l.entry.tokenClass = .id ↔
        String.ofList l.chars ∉ keywords ∧ String.ofList l.chars ∉ namedConstants)) ∧
    (l.entry.tokenClass ≠ .id → l.entry.name = String.ofList l.chars) := by
  have first : (l.chars ++ a).head? = some c := by rw [List.head?_append, head, Option.some_or]
  rw [lexeme?_of_letter first (glyph_of_isNameStart start)] at taken
  rcases Option.or_eq_some_iff.1 taken with word | ⟨no_word, named⟩
  · obtain ⟨mem, chars, ends⟩ := of_firstOf_words word
    obtain ⟨inside, listed⟩ := of_mem_words l.entry mem
    have text : String.ofList l.chars = l.entry.name := by rw [chars, String.ofList_toList]
    refine ⟨takeWhile_of_atBoundary (chars ▸ inside) ends, ?_, fun _ => text.symm⟩
    rw [text]
    rcases listed with ⟨keyword, isKeyword, notConstant⟩ | ⟨constant, isConstant, notKeyword⟩
    · simp [keyword, isKeyword, notConstant]
    · simp [constant, isConstant, notKeyword]
  · obtain ⟨mem, found, -⟩ := of_firstOf_eq_some named
    have same : l.entry = name := List.mem_singleton.1 mem
    have isId : l.entry.tokenClass = .id := by
      rw [same]
      rfl
    rw [same] at found
    -- A character that ends a name but not a word begins nothing, and the scan would not go on.
    have ends : atBoundary a := atBoundary_behind_name found further
    have nonempty : l.chars ≠ [] := by
      intro empty
      rw [empty] at head
      exact absurd head.symm (Option.some_ne_none c)
    have unlisted : ¬ (String.ofList l.chars ∈ keywords ∨ String.ofList l.chars ∈ namedConstants) := by
      intro listed
      obtain ⟨e, mem, spelled⟩ := exists_word listed
      apply ne_name_of_firstOf_words no_word nonempty ends mem
      rw [spelled, String.toList_ofList]
    obtain ⟨notKeyword, notConstant⟩ := not_or.1 unlisted
    refine ⟨?_, ?_, fun other => absurd isId other⟩
    · rw [← contains_nameSet]
      exact takeWhile_of_name found
    · simp [isId, notKeyword, notConstant]

end Go

/-- The token is a word of the source as long as it can be, and its spelling decides its class; a
keyword and a constant are their own kind. -/
structure Token.IsWord (source : String) (t : Token) : Prop where
  longest : ∃ front rest, Text.splitAtByte? source.toList t.position.offset = some (front, rest) ∧
    rest.takeWhile isNameChar = t.text.toList
  keyword : t.tokenClass = .keyword ↔ t.text ∈ Go.keywords
  constant : t.tokenClass = .constant ↔ t.text ∈ Go.namedConstants
  id : t.tokenClass = .id ↔ t.text ∉ Go.keywords ∧ t.text ∉ Go.namedConstants
  kind : t.tokenClass = .keyword ∨ t.tokenClass = .constant → t.kind = t.text

/-- In a text that is tokenized to its end, what begins like a name is a whole word, and a keyword, a
constant or a name by its spelling alone. -/
theorem words_classified {source : String} {lists : TokenLists} (accepted : tokenize source = .ok lists) :
    ∀ t ∈ lists.all, ∀ c, t.text.toList.head? = some c → isNameStart c → t.IsWord source := by
  intro t mem c head start
  obtain ⟨ls, scans, rfl⟩ := tokenize_eq_ok.1 accepted
  have mem : t ∈ tokens IdentTable.empty .start ls := by
    rw [← Array.mem_toList_iff, TokenLists.all_foldl_push] at mem
    exact (List.mem_filter.1 mem).1
  have start_offset : Position.start.offset = Text.byteCount [] := rfl
  obtain ⟨before, l, behind, ms, table, p, cut, taken, tail, here, rfl⟩ :=
    Lexeme.exists_place_of_mem_tokens scans start_offset mem
  have text : (l.token table p).text.toList = l.chars := String.toList_ofList
  rw [text] at head
  obtain ⟨longest, ⟨keyword, constant, id⟩, kind⟩ := Go.class_of_word taken tail.goes_on head start
  refine ⟨⟨before, l.chars ++ behind, ?_, ?_⟩, keyword, constant, id, ?_⟩
  · exact Text.splitAtByte?_eq_some_iff.2 ⟨cut, here.symm⟩
  · rw [text, longest]
  · intro reserved
    have other : l.entry.tokenClass ≠ .id := by
      intro isId
      have : (l.token table p).tokenClass = .id := isId
      rcases reserved with named | named <;> rw [this] at named <;> exact absurd named (by decide)
    rw [Lexeme.token, Entry.kind_of_ne_id other]
    exact kind other

/-- A keyword, and a name that begins with one. -/
theorem words_classified_gone :
    let goto : Token := ⟨"goto", "goto", .keyword, ⟨0, 1, 1⟩⟩
    let gone : Token := ⟨"id0", "gone", .id, ⟨5, 1, 6⟩⟩
    ∃ lists, tokenize "goto gone" = .ok lists ∧ lists.all = #[goto, gone] ∧
      goto.IsWord "goto gone" ∧ gone.IsWord "goto gone" := by
  intro goto gone
  have read : (tokenize "goto gone").toOption.map TokenLists.all = some #[goto, gone] := by
    rw [tokenize_eq_entries]
    decide +kernel
  cases accepted : tokenize "goto gone" with
  | ok lists =>
    rw [accepted] at read
    have all : lists.all = #[goto, gone] := Option.some.inj read
    refine ⟨lists, rfl, all, ?_, ?_⟩
    · exact words_classified accepted goto (by simp [all]) 'g' (by decide) (by decide)
    · exact words_classified accepted gone (by simp [all]) 'g' (by decide) (by decide)
  | error f =>
    rw [accepted] at read
    exact absurd read.symm (Option.some_ne_none _)

end GoScan
