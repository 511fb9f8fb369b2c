import GoScan.Proofs.Go.Respacing

/-!
# A newline behind a text

Blanks at the end of a text go on behind it. All that stands before them is read as before.

* `length?_comment_append`: a comment is over where it is closed;
* `lexeme?_newline`: a lexeme is read the same with a newline behind the text;
* `scans_newline`: so are all of them, up to the blanks at the end;
* `scans_lines`: lines below a text are read as they are alone.
-/

namespace GoScan.Go

open Pattern

variable {T a text : List Char} {e : Entry} {l : Lexeme} {ls : List Lexeme} {c : Char} {n : Nat}

/-! ## Comments -/

theorem length?_blockComment : blockComment.length? text = some n ↔ ∃ cs m,
    text = '/' :: '*' :: cs ∧ preferred? (some '*') (upTo ['*', '/']) cs = some m ∧ n = m + 2 := by
  have shape : blockComment.body =
    cat (char '/') (cat (char '*') (cat (star false (set .any)) (word ['*', '/']))) := rfl
  have free : blockComment.tokenClass.needsBoundary = false := rfl
  rw [Entry.length?_eq_some, shape, free, preferred?_cat]
  constructor
  · rintro ⟨found, -, -⟩
    obtain ⟨_, _, rfl, behind_slash, rfl⟩ := preferred?_char_eq_some.1 found
    rw [preferred?_cat] at behind_slash
    obtain ⟨cs, m, rfl, behind_star, rfl⟩ := preferred?_char_eq_some.1 behind_slash
    rw [preferred?_cat] at behind_star
    exact ⟨cs, m, rfl, behind_star, rfl⟩
  · rintro ⟨cs, m, rfl, found, rfl⟩
    refine ⟨?_, Nat.succ_ne_zero _, by simp⟩
    refine preferred?_char_eq_some.2 ⟨_, m + 1, rfl, ?_, rfl⟩
    rw [preferred?_cat]
    refine preferred?_char_eq_some.2 ⟨cs, m, rfl, ?_, rfl⟩
    rw [preferred?_cat]
    exact found

/-- A comment is over where it is closed, whatever stands behind. -/
theorem length?_comment_append (h : blockComment.length? (T ++ a) = some T.length) (a' : List Char) :
    blockComment.length? (T ++ a') = some T.length := by
  obtain ⟨cs, m, whole, found, length⟩ := length?_blockComment.1 h
  cases T with
  | nil => simp at length
  | cons c T =>
    cases T with
    | nil => simp at length
    | cons d T =>
      simp only [List.cons_append, List.cons.injEq, List.length_cons] at whole length
      obtain ⟨rfl, rfl, rfl⟩ := whole
      obtain rfl : m = T.length := by omega
      exact length?_blockComment.2 ⟨_, _, rfl, preferred?_upTo_append found a', rfl⟩

theorem of_slash_mem_starts (mem : e ∈ entries) (h : .slash ∈ e.starts) :
    e = lineComment ∨ e = blockComment ∨ e ∈ marks := by
  obtain ⟨G, hG, he, start⟩ := Group.exists_of_start mem h
  simp only [Group.all, List.mem_cons, List.not_mem_nil, or_false] at hG
  rcases hG with rfl | rfl | rfl | rfl | rfl | rfl
  · obtain rfl | rfl | rfl : e = blank ∨ e = lineComment ∨ e = blockComment := by
      simpa [Group.skips, skips] using he
    · exact absurd h (by decide)
    · exact .inl rfl
    · exact .inr (.inl rfl)
  · exact absurd start (by decide)
  · exact absurd start (by decide)
  · exact absurd start (by decide)
  · exact .inr (.inr he)
  · exact absurd start (by decide)

/-- Where a comment is opened and not closed, the slash is read as an operator. -/
theorem slash_of_unclosed (h : grammar.lexeme? (l.chars ++ a) = some l)
    (open_here : l.chars ++ a = '/' :: '*' :: text)
    (unclosed : blockComment.length? (l.chars ++ a) = none) :
    l.entry.tokenClass = .operator ∧ l.chars = ['/'] ∧ a.head? = some '*' := by
  rw [lexeme?_eq] at h
  obtain ⟨mem, found, front⟩ := of_firstOf_eq_some h
  have kind : glyph '/' = .slash := by decide
  have start : Glyph.slash ∈ l.entry.starts := by
    rw [open_here] at found
    exact kind ▸ Entry.glyph_mem_starts (plain_of_mem _ mem) found
  rcases of_slash_mem_starts mem start with same | same | mark
  · have nothing : preferred? none [lineComment.body] ('/' :: '*' :: text) = none :=
      preferred?_eq_none_of_second (by simp)
    rw [same, open_here, Entry.length?_eq_some, nothing] at found
    simp at found
  · rw [same, unclosed] at found
    simp at found
  · have name := chars_eq_name_of_mark mark found
    have nonempty : l.chars ≠ [] := (Grammar.lexeme?_eq_some (by rwa [lexeme?_eq])).1
    obtain ⟨c, cs, chars⟩ := List.exists_cons_of_ne_nil nonempty
    have first : c = '/' := by
      rw [chars] at open_here
      exact (List.cons_eq_cons.1 open_here).1
    have head : l.entry.name.toList.head? = some '/' := by rw [← name, chars, first]; rfl
    obtain ⟨operator, single | double⟩ := slash_marks _ mark head
    · have chars : l.chars = ['/'] := name.trans single
      refine ⟨operator, chars, ?_⟩
      rw [chars, List.singleton_append] at open_here
      rw [(List.cons_eq_cons.1 open_here).2]
      rfl
    · rw [name, double] at open_here
      have : '=' = '*' := (List.cons_eq_cons.1 (List.cons_eq_cons.1 open_here).2).1
      exact absurd this (by decide)

/-! ## Blanks -/

theorem blank_eq_none_iff : blank.length? (c :: text) = none ↔ Unicode.isWhiteSpace c = false := by
  constructor
  · intro nothing
    cases white : Unicode.isWhiteSpace c with
    | false => rfl
    | true =>
      have found : blank.length? (c :: text) =
          some ((c :: text).takeWhile Unicode.isWhiteSpace).length :=
        length?_blank.2 ⟨rfl, by simp [white]⟩
      simp [nothing] at found
  · intro white
    apply Option.eq_none_iff_forall_ne_some.2
    intro n found
    obtain ⟨rfl, nonempty⟩ := length?_blank.1 found
    simp [white] at nonempty

/-- A run that ends before the text does has nothing to do with what follows. -/
theorem takeWhile_append_of_length {p : Char → Bool}
    (h : ((T ++ c :: a).takeWhile p).length = T.length) (a' : List Char) :
    (T ++ c :: a').takeWhile p = T := by
  rw [List.takeWhile_append] at h ⊢
  by_cases all : (T.takeWhile p).length = T.length
  · rw [if_pos all, List.length_append] at h
    have stops : (c :: a).takeWhile p = [] := List.length_eq_zero_iff.1 (by omega)
    have outside : p c = false := by
      cases hp : p c with
      | false => rfl
      | true => simp [hp] at stops
    rw [if_pos all, List.takeWhile_cons, outside]
    simp
  · rw [if_neg all] at h
    exact absurd h all

theorem length?_blank_append (h : blank.length? (T ++ c :: a) = some T.length) (a' : List Char) :
    blank.length? (T ++ c :: a') = some T.length := by
  obtain ⟨length, nonempty⟩ := length?_blank.1 h
  exact length?_blank.2 ⟨by rw [takeWhile_append_of_length length.symm a'], nonempty⟩

theorem blanks_of_lexeme? (h : grammar.lexeme? (l.chars ++ a) = some l) (hl : l.entry = blank) :
    ∀ c ∈ l.chars, Unicode.isWhiteSpace c := by
  rw [lexeme?_eq] at h
  obtain ⟨-, found, -⟩ := of_firstOf_eq_some h
  rw [hl] at found
  obtain ⟨length, -⟩ := length?_blank.1 found
  have run : (l.chars ++ a).takeWhile Unicode.isWhiteSpace <+: l.chars ++ a := List.takeWhile_prefix _
  rw [eq_of_prefix_append run length]
  exact List.all_eq_true.1 List.all_takeWhile

/-! ## A newline and more behind the text -/

theorem mem_quoted_of_quote (mem : e ∈ entries) (h : .quote ∈ e.starts) : e ∈ quoted := by
  obtain ⟨G, hG, he, start⟩ := Group.exists_of_start mem h
  simp only [Group.all, List.mem_cons, List.not_mem_nil, or_false] at hG
  rcases hG with rfl | rfl | rfl | rfl | rfl | rfl
  · exact absurd start (by decide)
  · exact absurd start (by decide)
  · exact absurd start (by decide)
  · exact he
  · exact absurd start (by decide)
  · exact absurd start (by decide)

theorem not_isWordChar_newline : isWordChar '\n' = false := not_isWordChar_of_blank (by decide)

theorem atBoundary_newline {b : List Char} (h : atBoundary a) : atBoundary (a ++ '\n' :: b) := by
  cases a with
  | nil => simp [atBoundary, not_isWordChar_newline]
  | cons c a => exact h

/-- With a newline behind the text a comment is opened within the text if at all. -/
theorem exists_opening_of_newline {b : List Char} (nonempty : text ≠ [])
    (h : blockComment.length? (text ++ '\n' :: b) = some n) : ∃ cs, text = '/' :: '*' :: cs := by
  obtain ⟨ds, m, whole, -, -⟩ := length?_blockComment.1 h
  cases text with
  | nil => exact absurd rfl nonempty
  | cons c text =>
    obtain ⟨rfl, behind⟩ := List.cons_eq_cons.1 whole
    cases text with
    | nil => exact absurd (List.cons_eq_cons.1 behind).1 (by decide)
    | cons d cs =>
      obtain ⟨rfl, -⟩ := List.cons_eq_cons.1 behind
      exact ⟨cs, rfl⟩

/-- The quote tells the entry: where another lexeme is read there is no raw string. -/
theorem rawString_eq_none (h : grammar.lexeme? (l.chars ++ a) = some l)
    (nothing : rawString.length? (l.chars ++ a) = none) (tail : List Char) :
    rawString.length? (l.chars ++ tail) = none := by
  obtain ⟨c, cs, chars⟩ := List.exists_cons_of_ne_nil (Grammar.lexeme?_eq_some h).1
  have raw : rawString ∈ quoted := by simp [quoted]
  rw [lexeme?_eq] at h
  obtain ⟨mem, found, -⟩ := of_firstOf_eq_some h
  apply Option.eq_none_iff_forall_ne_some.2
  intro n other
  rw [chars, List.cons_append] at other found nothing
  have quote : glyph c = .quote := by
    simpa [Group.quoted] using
      Group.quoted.begins _ raw _ (Entry.glyph_mem_starts (plain_of_mem _ (by simp [entries, raw])) other)
  have start : Glyph.quote ∈ l.entry.starts := quote ▸ Entry.glyph_mem_starts (plain_of_mem _ mem) found
  have same : l.entry = rawString := eq_of_quote (mem_quoted_of_quote mem start) raw found other
  rw [← same, found] at nothing
  simp at nothing

theorem length?_newline {b : List Char} (he : e.body.eachSet fun s => !s.contains '\n') :
    e.length? (T ++ (a ++ '\n' :: b)) = e.length? (T ++ a) := by
  rw [← List.append_assoc]
  exact Entry.length?_append_of_avoids he not_isWordChar_newline

/-- A lexeme is read the same with a newline behind the text, and whatever follows that. Only blanks
at the end of the text and a comment that is not closed would go on. -/
theorem lexeme?_newline (h : grammar.lexeme? (l.chars ++ a) = some l)
    (hblank : l.entry = blank → a ≠ [])
    (hslash : l.entry.tokenClass = .operator → l.chars = ['/'] → a.head? ≠ some '*') (b : List Char) :
    grammar.lexeme? (l.chars ++ (a ++ '\n' :: b)) = some l := by
  have nonempty := (Grammar.lexeme?_eq_some h).1
  have first : firstOf entries (l.chars ++ a) = some l := by rw [← lexeme?_eq, h]
  obtain ⟨mem, found, -⟩ := of_firstOf_eq_some first
  rw [lexeme?_eq]
  refine firstOf_keeps first ?_ ?_
  · intro e he nothing
    rcases avoids_newline e he with rfl | rfl | rfl | other
    · obtain ⟨c, cs, chars⟩ := List.exists_cons_of_ne_nil nonempty
      rw [chars, List.cons_append] at nothing ⊢
      exact blank_eq_none_iff.2 (blank_eq_none_iff.1 nothing)
    · apply Option.eq_none_iff_forall_ne_some.2
      intro n longer
      rw [← List.append_assoc] at longer
      obtain ⟨cs, open_here⟩ := exists_opening_of_newline (by simp [nonempty]) longer
      obtain ⟨operator, slash, star⟩ := slash_of_unclosed h open_here nothing
      exact hslash operator slash star
    · exact rawString_eq_none h nothing _
    · rw [length?_newline other, nothing]
  · intro found
    rcases avoids_newline _ mem with same | same | same | other
    · obtain ⟨d, ds, rfl⟩ := List.exists_cons_of_ne_nil (hblank same)
      rw [same] at found ⊢
      exact length?_blank_append found _
    · rw [same] at found ⊢
      exact length?_comment_append found _
    · have raw : l.entry ∈ quoted := by simp [same, quoted]
      have ends : atBoundary a := atBoundary_of_length? found (by rw [same]; rfl)
      exact length?_quoted raw found (atBoundary_newline ends)
    · rw [length?_newline other, found]

/-! ## Gaps -/

/-- The lexeme of these blanks, if there are any. -/
def gap (w : List Char) : List Lexeme := if w = [] then [] else [⟨blank, w⟩]

theorem chars_gap (w : List Char) : (gap w).flatMap Lexeme.chars = w := by
  unfold gap
  split
  · exact (‹w = []›).symm
  · simp

theorem skipped_gap (w : List Char) : ∀ l ∈ gap w, l.isRecorded = false := by
  intro l mem
  unfold gap at mem
  split at mem
  · simp at mem
  · rw [List.mem_singleton.1 mem]
    rfl

theorem scans_gap {w rest : List Char} (hw : ∀ c ∈ w, Unicode.isWhiteSpace c)
    (ht : text.takeWhile Unicode.isWhiteSpace = []) (h : Scans grammar text ls rest) :
    Scans grammar (w ++ text) (gap w ++ ls) rest := by
  cases w with
  | nil => exact h
  | cons c cs =>
    have run : (c :: cs ++ text).takeWhile Unicode.isWhiteSpace = c :: cs := by
      rw [List.takeWhile_append_of_pos hw, ht, List.append_nil]
    have taken : grammar.lexeme? (c :: cs ++ text) = some ⟨blank, c :: cs⟩ := by
      rw [List.cons_append, lexeme?_blank (hw c List.mem_cons_self), ← List.cons_append, run]
    exact .next (l := ⟨blank, c :: cs⟩) taken h

/-- No slash is read as an operator right before a star. -/
def NoneOpens (ls : List Lexeme) : Prop :=
  ∀ before l behind, ls = before ++ l :: behind → l.entry.tokenClass = .operator → l.chars = ['/'] →
    (behind.flatMap Lexeme.chars).head? ≠ some '*'

theorem NoneOpens.tail (h : NoneOpens (l :: ls)) : NoneOpens ls :=
  fun before l' behind whole => h (l :: before) l' behind (by rw [whole]; rfl)

/-- With a newline behind the text the lexemes are read as before, up to the blanks at the end. -/
theorem scans_newline (h : Scans grammar a ls []) (opens : NoneOpens ls) : ∃ init w,
    ls = init ++ gap w ∧ (∀ c ∈ w, Unicode.isWhiteSpace c) ∧
      ∀ b, Scans grammar (a ++ '\n' :: b) init (w ++ '\n' :: b) := by
  generalize ended : [] = rest at h
  induction h with
  | done text =>
    subst ended
    exact ⟨[], [], rfl, by simp, fun b => .done _⟩
  | @next l text rest ls taken tail ih =>
    subst ended
    by_cases last : l.entry = blank ∧ text = []
    · obtain ⟨same, rfl⟩ := last
      have nonempty := (Grammar.lexeme?_eq_some taken).1
      have only : gap l.chars = [l] := by rw [gap, if_neg nonempty, ← same]
      have none_behind : ls = [] := by
        have := tail.length_le
        exact List.length_eq_zero_iff.1 (Nat.le_zero.1 this)
      refine ⟨[], l.chars, by rw [only, none_behind]; rfl, blanks_of_lexeme? taken same, fun b => ?_⟩
      rw [List.append_nil]
      exact .done _
    · obtain ⟨init, w, rfl, white, scans⟩ := ih opens.tail rfl
      have behind : (init ++ gap w).flatMap Lexeme.chars = text := by simpa using tail.text_eq.symm
      refine ⟨l :: init, w, rfl, white, fun b => ?_⟩
      have again := lexeme?_newline taken (fun same => fun nothing => last ⟨same, nothing⟩)
        (fun operator slash => behind ▸ opens [] l _ rfl operator slash) b
      rw [List.append_assoc]
      exact .next again (scans b)

/-- Two texts with a newline between them are read as each of them alone, but for the blanks where
they meet. -/
theorem scans_lines (h : Scans grammar a ls []) (opens : NoneOpens ls) (b : List Char) :
    ∃ init w v ms rest, ls = init ++ gap w ∧ Scans grammar b (gap v ++ ms) rest ∧
      grammar.Stops rest ∧ Scans grammar (a ++ '\n' :: b) (init ++ (gap (w ++ '\n' :: v) ++ ms)) rest := by
  obtain ⟨init, w, whole, white, before⟩ := scans_newline h opens
  let v := b.takeWhile Unicode.isWhiteSpace
  obtain ⟨ms, rest, behind, stops⟩ := exists_scans grammar (b.dropWhile Unicode.isWhiteSpace)
  have parts : v ++ b.dropWhile Unicode.isWhiteSpace = b := List.takeWhile_append_dropWhile
  have white' : ∀ c ∈ v, Unicode.isWhiteSpace c := List.all_eq_true.1 List.all_takeWhile
  have no_more : (b.dropWhile Unicode.isWhiteSpace).takeWhile Unicode.isWhiteSpace = [] := by
    have := List.head?_dropWhile_not Unicode.isWhiteSpace b
    cases left : b.dropWhile Unicode.isWhiteSpace with
    | nil => rfl
    | cons c cs =>
      rw [left] at this
      have outside : Unicode.isWhiteSpace c = false := by simpa using this
      simp [outside]
  have white_between : ∀ c ∈ w ++ '\n' :: v, Unicode.isWhiteSpace c := by
    intro c mem
    rcases List.mem_append.1 mem with mem | mem
    · exact white c mem
    rcases List.mem_cons.1 mem with rfl | mem
    · decide
    · exact white' c mem
  have alone := scans_gap white' no_more behind
  have between := scans_gap white_between no_more behind
  rw [List.append_assoc, List.cons_append, parts] at between
  rw [parts] at alone
  exact ⟨init, w, v, ms, rest, whole, alone, stops, (before b).append between⟩

end GoScan.Go
