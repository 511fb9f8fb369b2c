import GoScan.Proofs.Go.Table
import GoScan.Proofs.Scan.Lexemes

/-!
# What the entries of the table take

* `lexeme?_eq`: a lexeme is what the first entry takes that takes anything;
* `glyph_mem_starts`: with which kinds of characters an entry can begin;
* `lexeme?_of_glyph`: so only the groups count that can begin with the first character;
* `length?_append_of_avoids`: the entries that do not look past a blank, and past a newline.
-/

namespace GoScan

open Pattern

variable {e : Entry} {text more : List Char} {c : Char} {n : Nat}

namespace Entry

/-- The pattern without what binds it to the start. -/
def body (e : Entry) : Pattern :=
  match e.compiled with
  | .cat _ p => p
  | p => p

/-- How many characters the entry takes from the text. -/
def length? (e : Entry) (text : List Char) : Option Nat :=
  (preferred? none [e.body] text).filter fun n =>
    n ≠ 0 && (!e.tokenClass.needsBoundary || atBoundary (text.drop n))

theorem length?_eq_some : e.length? text = some n ↔
    preferred? none [e.body] text = some n ∧ n ≠ 0 ∧
      (e.tokenClass.needsBoundary → atBoundary (text.drop n)) := by
  rw [length?, Option.filter_eq_some_iff]
  cases e.tokenClass.needsBoundary <;> simp

theorem take?_eq (h : e.compiled = .cat (.anchor .textStart) e.body) :
    e.take? text = (e.length? text).map fun n => ⟨0, n⟩ := by
  rw [take?, find?, h, find?_anchored, length?]
  cases preferred? none [e.body] text with
  | none => rfl
  | some n =>
    by_cases empty : n = 0
    · simp [empty, Option.filter]
    · cases ends : !e.tokenClass.needsBoundary || atBoundary (text.drop n) <;>
        simp [empty, ends, Option.filter, endsWell, Ne.symm empty]

end Entry

namespace Go

theorem bound_of_mem : ∀ e ∈ entries, e.compiled = .cat (.anchor .textStart) e.body := by decide

/-- What the first of the entries takes that takes anything. -/
def firstOf (es : List Entry) (text : List Char) : Option Lexeme :=
  es.findSome? fun e => (e.length? text).map fun n => ⟨e, text.take n⟩

variable {es fs : List Entry}

theorem firstOf_append : firstOf (es ++ fs) text = (firstOf es text).or (firstOf fs text) :=
  List.findSome?_append

theorem firstOf_cons : firstOf (e :: es) text =
    ((e.length? text).map fun n => ⟨e, text.take n⟩).or (firstOf es text) :=
  findSome?_cons_eq_or _ _ _

@[simp] theorem firstOf_nil : firstOf [] text = none := rfl

theorem of_firstOf_eq_some {l : Lexeme} (h : firstOf es text = some l) :
    l.entry ∈ es ∧ l.entry.length? text = some l.chars.length ∧ l.chars <+: text := by
  obtain ⟨e, mem, he⟩ := List.exists_of_findSome?_eq_some h
  obtain ⟨n, found, rfl⟩ := Option.map_eq_some_iff.1 he
  have inside := preferred?_le (Entry.length?_eq_some.1 found).1
  refine ⟨mem, ?_, List.take_prefix n text⟩
  rw [found, List.length_take, Nat.min_eq_left inside]

theorem firstOf_eq_none : firstOf es text = none ↔ ∀ e ∈ es, e.length? text = none := by
  simp [firstOf]

/-- A lexeme is what the first entry takes that takes anything. -/
theorem lexeme?_eq (text : List Char) : grammar.lexeme? text = firstOf entries text := by
  rw [Grammar.lexeme?, Grammar.match?_eq_findSome?, grammar_eq, List.map_findSome?, firstOf]
  have same (es : List Entry) (h : ∀ e ∈ es, e ∈ entries) :
      (es.findSome? fun e => ((e.take? text).map (Match.mk e)).map fun m =>
        (⟨m.entry, text.take m.span.stop⟩ : Lexeme)) =
      es.findSome? fun e => (e.length? text).map fun n => ⟨e, text.take n⟩ := by
    induction es with
    | nil => rfl
    | cons e es ih =>
      rw [findSome?_cons_eq_or, findSome?_cons_eq_or, ih fun e mem => h e (.tail _ mem),
        Entry.take?_eq (bound_of_mem e (h e (.head _)))]
      cases e.length? text <;> rfl
  exact same entries fun _ mem => mem

theorem match?_of_lexeme? {l : Lexeme} (h : grammar.lexeme? text = some l) :
    grammar.match? text = some ⟨l.entry, ⟨0, l.chars.length⟩⟩ := by
  obtain ⟨m, found, rfl⟩ := Option.map_eq_some_iff.1 h
  have bounds := Grammar.match?_bounds found
  rw [Grammar.match?_eq_findSome?, grammar_eq] at found
  obtain ⟨e, mem, taken⟩ := List.exists_of_findSome?_eq_some found
  rw [Entry.take?_eq (bound_of_mem e mem), Option.map_map] at taken
  obtain ⟨n, -, rfl⟩ := Option.map_eq_some_iff.1 taken
  rw [Grammar.match?_eq_findSome?, grammar_eq, found, List.length_take, Nat.min_eq_left bounds.2]
  rfl

theorem match?_of_length? (found : e.length? text = some n)
    (h : grammar.lexeme? text = some ⟨e, text.take n⟩) : grammar.match? text = some ⟨e, ⟨0, n⟩⟩ := by
  have inside : n ≤ text.length := preferred?_le (Entry.length?_eq_some.1 found).1
  rw [match?_of_lexeme? h, List.length_take, Nat.min_eq_left inside]

theorem match?_eq_none (h : grammar.lexeme? text = none) : grammar.match? text = none :=
  Option.map_eq_none_iff.1 h

/-- Where no other entry takes anything, it is the entry that matches or none. -/
theorem match?_of_only (only : grammar.lexeme? text = firstOf [e] text) :
    grammar.match? text = (e.length? text).map fun n => ⟨e, ⟨0, n⟩⟩ := by
  rw [firstOf_cons, firstOf_nil, Option.or_none] at only
  cases found : e.length? text with
  | none =>
    rw [found] at only
    exact match?_eq_none only
  | some n =>
    rw [found] at only
    exact match?_of_length? found only

end Go

/-! ## First characters -/

/-- Kinds of characters, as far as they tell what can begin with one. -/
inductive Glyph where
  | blank | letter | digit | quote | point | slash | mark | foreign
deriving DecidableEq, Repr

/-- What operators and punctuation begin with, but for the point and the slash. -/
def markChars : List Char :=
  ['<', '>', '=', '&', '^', '+', '-', '*', '%', '|', '!', ':', '~', '(', ')', '[', ']', '\x7b', '\x7d',
   ',', ';']

def glyph (c : Char) : Glyph :=
  if Unicode.isWhiteSpace c then .blank
  else if Unicode.isLetter c || c = '_' then .letter
  else if Unicode.category c = .nd then .digit
  else if c = '\'' || c = '"' || c = '\x60' then .quote
  else if c = '.' then .point
  else if c = '/' then .slash
  else if markChars.contains c then .mark
  else .foreign

namespace Glyph

def all : List Glyph := [.blank, .letter, .digit, .quote, .point, .slash, .mark, .foreign]

theorem mem_all (k : Glyph) : k ∈ all := by
  cases k <;> decide

end Glyph

theorem not_isWordChar_of_blank (h : Unicode.isWhiteSpace c) : isWordChar c = false := by
  have none_in_words : Unicode.whiteSpace.all fun c => !isWordChar c := by decide +kernel
  have mem : c ∈ Unicode.whiteSpace := by simpa [Unicode.isWhiteSpace] using h
  simpa using List.all_eq_true.1 none_in_words c mem

theorem isWordChar_of_isLetter (h : Unicode.isLetter c) : isWordChar c := by
  have : (Unicode.category c).isLetter := h
  simp [isWordChar, Unicode.isAlphanumeric, Unicode.isAlphabetic, this]

theorem isWordChar_of_digit (h : Unicode.category c = .nd) : isWordChar c := by
  simp [isWordChar, Unicode.isAlphanumeric, h, Unicode.Category.isNumber]

theorem not_blank_of_isWordChar (h : isWordChar c) : Unicode.isWhiteSpace c = false := by
  cases blank : Unicode.isWhiteSpace c with
  | false => rfl
  | true => simp [not_isWordChar_of_blank blank] at h

theorem glyph_of_isLetter (h : Unicode.isLetter c) : glyph c = .letter := by
  simp [glyph, not_blank_of_isWordChar (isWordChar_of_isLetter h), h]

theorem glyph_of_digit (h : Unicode.category c = .nd) : glyph c = .digit := by
  have no_letter : Unicode.isLetter c = false := by simp [Unicode.isLetter, h, Unicode.Category.isLetter]
  have not_low : c ≠ '_' := by
    rintro rfl
    revert h
    decide
  simp [glyph, not_blank_of_isWordChar (isWordChar_of_digit h), no_letter, not_low, h]

/-- With a character of a word begins a word or a number, or nothing. -/
theorem glyph_of_isWordChar (h : isWordChar c) :
    glyph c = .letter ∨ glyph c = .digit ∨ glyph c = .foreign := by
  have no_others : (['\'', '"', '\x60', '.', '/'] ++ markChars).all fun c => !isWordChar c := by
    decide +kernel
  have no_other (mem : c ∈ ['\'', '"', '\x60', '.', '/'] ++ markChars) : False := by
    have := List.all_eq_true.1 no_others c mem
    simp [h] at this
  unfold glyph
  rw [not_blank_of_isWordChar h, if_neg Bool.false_ne_true]
  split
  · simp
  split
  · simp
  split
  · rename_i quote
    simp only [Bool.or_eq_true, decide_eq_true_eq] at quote
    rcases quote with (rfl | rfl) | rfl <;> exact (no_other (by simp)).elim
  split
  · rename_i point
    exact (no_other (by simp [point])).elim
  split
  · rename_i slash
    exact (no_other (by simp [slash])).elim
  split
  · rename_i mark
    exact (no_other (List.mem_append_right _ (by simpa using mark))).elim
  · simp

/-- The kinds of the characters in the set. -/
def CharSet.glyphs : CharSet → List Glyph
  | range low high => if low = high then [glyph low] else Glyph.all
  | property p =>
    if p = .letter then [.letter]
    else if p = .category .nd then [.digit]
    else if p = .whiteSpace then [.blank]
    else Glyph.all
  | union a b => a.glyphs ++ b.glyphs
  | _ => Glyph.all

theorem CharSet.glyph_mem_glyphs {s : CharSet} (h : s.contains c) : glyph c ∈ s.glyphs := by
  induction s with
  | range low high =>
    rw [glyphs]
    split
    · rename_i same
      rw [← same, ← single, contains_single, beq_iff_eq] at h
      simp [h]
    · exact Glyph.mem_all _
  | property p =>
    rw [glyphs]
    split
    · rename_i letter
      subst letter
      simp [glyph_of_isLetter h]
    split
    · rename_i digit
      subst digit
      have : Unicode.category c = .nd := by simpa [contains, Property.holds] using h
      simp [glyph_of_digit this]
    split
    · rename_i blank
      subst blank
      have : Unicode.isWhiteSpace c := h
      simp [glyph, this]
    · exact Glyph.mem_all _
  | union a b iha ihb =>
    simp only [contains, Bool.or_eq_true] at h
    exact List.mem_append.2 (h.imp iha ihb)
  | empty | inter | diff | compl | caseless => exact Glyph.mem_all _

namespace Entry

/-- The kinds of characters with which the entry can begin. -/
def starts (e : Entry) : List Glyph := (openings [e.body]).branches.flatMap (·.set.glyphs)

theorem exists_opening (plain : e.body.eachSet fun _ => true) (h : e.length? text = some n) :
    ∃ c cs b, text = c :: cs ∧ .read b ∈ openings [e.body] ∧ b.set.contains c := by
  obtain ⟨found, nonempty, -⟩ := length?_eq_some.1 h
  rw [preferred?_eq_openings (f := fun _ => true) (by simpa using plain)] at found
  obtain ⟨b, mem, found⟩ := (Lead.of_first?_eq_some found).resolve_left (by simpa using nonempty.symm)
  cases text with
  | nil => simp at found
  | cons c cs => exact ⟨c, cs, b, rfl, mem, (Branch.preferred?_cons_eq_some.1 found).1⟩

theorem glyph_mem_starts (plain : e.body.eachSet fun _ => true) (h : e.length? (c :: text) = some n) :
    glyph c ∈ e.starts := by
  obtain ⟨d, cs, b, whole, mem, hc⟩ := exists_opening plain h
  obtain ⟨rfl, -⟩ := List.cons_eq_cons.1 whole
  exact List.mem_flatMap.2 ⟨b, Lead.mem_branches.2 mem, CharSet.glyph_mem_glyphs hc⟩

end Entry

theorem atBoundary_drop_append (hc : isWordChar c = false) (hn : n ≤ text.length) :
    atBoundary ((text ++ c :: more).drop n) = atBoundary (text.drop n) := by
  rw [List.drop_append_of_le_length hn]
  cases text.drop n with
  | nil => simp [atBoundary, hc]
  | cons d ds => rfl

/-- An entry with none of its sets around a character outside words does not look past it. -/
theorem Entry.length?_append_of_avoids (he : e.body.eachSet fun s => !s.contains c)
    (hc : isWordChar c = false) : e.length? (text ++ c :: more) = e.length? text := by
  have same : preferred? none [e.body] (text ++ c :: more) = preferred? none [e.body] text :=
    preferred?_append_of_avoids (f := fun s => !s.contains c) (by simpa using he)
      (fun s hs => by simpa using hs)
  ext n
  rw [length?_eq_some, length?_eq_some, same]
  refine and_congr_right fun found => ?_
  rw [atBoundary_drop_append hc (preferred?_le found)]

/-- What the entry takes, it takes when nothing stands behind it. -/
theorem Entry.length?_of_append (plain : e.body.eachSet fun _ => true)
    (h : e.length? (text ++ more) = some text.length) : e.length? text = some text.length := by
  obtain ⟨found, nonempty, -⟩ := length?_eq_some.1 h
  have here := preferred?_of_append (f := fun _ => true) (by simpa using plain) (Nat.le_refl _) found
  exact length?_eq_some.2 ⟨here, nonempty, fun _ => by simp [atBoundary]⟩

namespace Go

theorem plain_of_mem : ∀ e ∈ entries, e.body.eachSet fun _ => true := by decide

/-- Entries of the table with the kinds of characters that they can begin with. -/
structure Group where
  entries : List Entry
  starts : List Glyph
  listed : ∀ e ∈ entries, e ∈ Go.entries
  begins : ∀ e ∈ entries, ∀ k ∈ e.starts, k ∈ starts

namespace Group

def skips : Group :=
  ⟨Go.skips, [.blank, .slash], by simp +contextual [Go.entries], by decide⟩

def words : Group := ⟨Go.words, [.letter], by simp +contextual [Go.entries], by decide⟩

def numbers : Group :=
  ⟨Go.numbers, [.digit, .point], by simp +contextual [Go.entries], by decide⟩

def quoted : Group := ⟨Go.quoted, [.quote], by simp +contextual [Go.entries], by decide⟩

def marks : Group :=
  ⟨Go.marks, [.mark, .point, .slash], by simp +contextual [Go.entries], by decide⟩

def name : Group := ⟨[Go.name], [.letter], by simp [Go.entries], by decide⟩

def all : List Group := [skips, words, numbers, quoted, marks, name]

/-- What a group takes begins as its entries can begin. -/
theorem glyph_mem_starts (G : Group) {l : Lexeme} (head : text.head? = some c)
    (h : firstOf G.entries text = some l) : glyph c ∈ G.starts := by
  obtain ⟨cs, rfl⟩ := List.head?_eq_some_iff.1 head
  obtain ⟨mem, found, -⟩ := of_firstOf_eq_some h
  exact G.begins _ mem _ (Entry.glyph_mem_starts (plain_of_mem _ (G.listed _ mem)) found)

/-- A group that can begin with other kinds of characters only takes nothing. -/
theorem firstOf_eq_none (G : Group) (head : text.head? = some c) (h : glyph c ∉ G.starts) :
    firstOf G.entries text = none := by
  apply Option.eq_none_iff_forall_ne_some.2
  intro l found
  exact h (G.glyph_mem_starts head found)

theorem exists_of_start {k : Glyph} (mem : e ∈ Go.entries) (hk : k ∈ e.starts) :
    ∃ G ∈ all, e ∈ G.entries ∧ k ∈ G.starts := by
  have inside : ∃ G ∈ all, e ∈ G.entries := by
    simpa [Go.entries, all, skips, words, numbers, quoted, marks, name] using mem
  obtain ⟨G, hG, he⟩ := inside
  exact ⟨G, hG, he, G.begins e he k hk⟩

end Group

/-- What is read, the groups read that can begin with the first character. -/
theorem lexeme?_of_glyph {k : Glyph} (head : text.head? = some c) (kind : glyph c = k) :
    grammar.lexeme? text = firstOf ((Group.all.filter fun G => k ∈ G.starts).flatMap Group.entries) text := by
  have others (Gs : List Group) : firstOf (Gs.flatMap Group.entries) text =
      firstOf ((Gs.filter fun G => k ∈ G.starts).flatMap Group.entries) text := by
    induction Gs with
    | nil => rfl
    | cons G Gs ih =>
      rw [List.flatMap_cons, firstOf_append, ih]
      by_cases begins : k ∈ G.starts
      · rw [List.filter_cons_of_pos (by simpa using begins), List.flatMap_cons, firstOf_append]
      · rw [List.filter_cons_of_neg (by simpa using begins), G.firstOf_eq_none head (by rwa [kind]),
          Option.none_or]
  have table : entries = Group.all.flatMap Group.entries := by
    simp [entries, Group.all, Group.skips, Group.words, Group.numbers, Group.quoted, Group.marks, Group.name]
  rw [lexeme?_eq, table, others]

/-- No entry of the groups reads a blank but those to skip and literals between quotes. -/
theorem avoids_space :
    ∀ e ∈ words ++ (numbers ++ (marks ++ [name])), e.body.eachSet fun s => !s.contains ' ' := by
  decide

/-- Three entries go on in the next line. -/
theorem avoids_newline : ∀ e ∈ entries,
    e = blank ∨ e = blockComment ∨ e = rawString ∨ e.body.eachSet fun s => !s.contains '\n' := by
  decide +kernel

/-! ## Blanks -/

theorem length?_blank : blank.length? text = some n ↔
    n = (text.takeWhile Unicode.isWhiteSpace).length ∧ n ≠ 0 := by
  have shape : blank.body = plus true (set (.property .whiteSpace)) := rfl
  have free : blank.tokenClass.needsBoundary = false := rfl
  have contains : (CharSet.property .whiteSpace).contains = Unicode.isWhiteSpace := rfl
  rw [Entry.length?_eq_some, shape, free, preferred?_plus rfl]
  cases text with
  | nil => simp
  | cons c cs =>
    rw [preferred?_set_cons, preferred?_star_set, contains, List.takeWhile_cons]
    cases Unicode.isWhiteSpace c with
    | true => simp [@eq_comm _ n]
    | false => simp

/-- All blanks that stand together are one lexeme. -/
theorem lexeme?_blank (h : Unicode.isWhiteSpace c) : grammar.lexeme? (c :: text) =
    some ⟨blank, (c :: text).takeWhile Unicode.isWhiteSpace⟩ := by
  have found : blank.length? (c :: text) =
      some ((c :: text).takeWhile Unicode.isWhiteSpace).length :=
    length?_blank.2 ⟨rfl, by simp [h]⟩
  have front : (c :: text).takeWhile Unicode.isWhiteSpace <+: c :: text := List.takeWhile_prefix _
  have run := List.prefix_iff_eq_take.1 front
  rw [lexeme?_eq, entries, skips, List.cons_append, firstOf_cons, found, Option.map_some,
    Option.some_or, ← run]

end Go

end GoScan
