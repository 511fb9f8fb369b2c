import GoScan.Proofs.Go.Newline
import GoScan.Proofs.Pattern.Walking

/-!
# Where comments and strings end

What begins with a delimiter is read up to the other one, on every text.

* `preferred?_upTo`, `preferred?_others`: lazily and greedily, up to the first time a text stands there;
* `preferred?_inString`: up to the quote that no backslash takes with it;
* `length?_lineComment`, `length?_comment`, `length?_rawString`, `length?_string`: what the entries take;
* `comments_and_strings_end`: no other entry takes anything there.
-/

namespace GoScan

variable {w text cs : List Char} {c : Char} {n : Nat}

namespace Text

/-- Where `w` stands first in the text. -/
def firstAt? (w : List Char) : List Char → Option Nat
  | [] => if w.isPrefixOf [] then some 0 else none
  | c :: cs => if w.isPrefixOf (c :: cs) then some 0 else (firstAt? w cs).map (· + 1)

theorem firstAt?_here (h : w <+: text) : firstAt? w text = some 0 := by
  cases text <;> rw [firstAt?, if_pos (List.isPrefixOf_iff_prefix.2 h)]

theorem firstAt?_nil (h : ¬w <+: []) : firstAt? w [] = none := by
  rw [firstAt?, if_neg (mt List.isPrefixOf_iff_prefix.1 h)]

theorem firstAt?_cons (h : ¬w <+: c :: cs) : firstAt? w (c :: cs) = (firstAt? w cs).map (· + 1) := by
  rw [firstAt?, if_neg (mt List.isPrefixOf_iff_prefix.1 h)]

/-- It is the first place where `w` stands. -/
theorem firstAt?_eq_some : firstAt? w text = some n ↔ w <+: text.drop n ∧ ∀ m < n, ¬w <+: text.drop m := by
  have at_once {text : List Char} {n : Nat} (here : w <+: text) :
      firstAt? w text = some n ↔ w <+: text.drop n ∧ ∀ m < n, ¬w <+: text.drop m := by
    rw [firstAt?_here here]
    constructor
    · rintro ⟨⟩
      exact ⟨here, fun m before => absurd before (Nat.not_lt_zero m)⟩
    · rintro ⟨-, first⟩
      cases n with
      | zero => rfl
      | succ n => exact absurd here (first 0 n.succ_pos)
  induction text generalizing n with
  | nil =>
    by_cases here : w <+: []
    · exact at_once here
    · simp [firstAt?_nil here, here]
  | cons c cs ih =>
    by_cases here : w <+: c :: cs
    · exact at_once here
    · rw [firstAt?_cons here]
      cases n with
      | zero => simp [here]
      | succ n =>
        rw [Option.map_eq_some_iff, Nat.forall_lt_succ_left]
        simp [ih, here]

theorem exists_firstAt? (h : w <:+: text) : ∃ n, firstAt? w text = some n := by
  induction text with
  | nil => exact ⟨0, firstAt?_here (List.infix_nil.1 h ▸ List.nil_prefix)⟩
  | cons c cs ih =>
    by_cases here : w <+: c :: cs
    · exact ⟨0, firstAt?_here here⟩
    · obtain ⟨n, later⟩ := ih ((List.infix_cons_iff.1 h).resolve_left here)
      exact ⟨n + 1, by rw [firstAt?_cons here, later, Option.map_some]⟩

/-- The place of the first quote that no backslash takes with it; `taken` tells whether one takes the
next character. -/
def closingQuote? (taken : Bool) : List Char → Option Nat
  | [] => none
  | c :: cs =>
    if taken then (closingQuote? false cs).map (· + 1)
    else if c = '"' then some 0
    else (closingQuote? (c = '\\') cs).map (· + 1)

end Text

namespace Pattern

open Text

/-! ## Up to a delimiter -/

theorem preferred?_upTo (w text : List Char) (left : Option Char) :
    preferred? left (upTo w) text = (firstAt? w text).map (· + w.length) := by
  induction text generalizing left with
  | nil =>
    by_cases here : w <+: []
    · rw [preferred?_upTo_here here, firstAt?_here here, Option.map_some, Nat.zero_add]
    · rw [preferred?_upTo_nil here, firstAt?_nil here, Option.map_none]
  | cons c cs ih =>
    by_cases here : w <+: c :: cs
    · rw [preferred?_upTo_here here, firstAt?_here here, Option.map_some, Nat.zero_add]
    · rw [preferred?_upTo_cons here, ih, firstAt?_cons here, Option.map_map, Option.map_map]
      congr 1
      funext n
      exact Nat.add_right_comm n w.length 1

/-- A greedy run of the other characters stops before the delimiter. -/
theorem preferred?_others (q : Char) (text : List Char) (left : Option Char) :
    preferred? left [star true (set (.compl (.single q))), set (.single q)] text =
      (firstAt? [q] text).map (· + 1) := by
  induction text generalizing left with
  | nil => rfl
  | cons c cs ih =>
    rw [preferred?_star_greedy rfl, preferred?_set_cons, preferred?_set_cons, ih, preferred?_nil]
    by_cases here : c = q
    · subst here
      have first : [c] <+: c :: cs := ⟨cs, rfl⟩
      have outside : (CharSet.single c).compl.contains c = false := by simp [CharSet.contains]
      simp [firstAt?_here first, outside]
    · have later : ¬[q] <+: c :: cs := by simpa using Ne.symm here
      have inside : (CharSet.single q).compl.contains c := by simpa [CharSet.contains] using here
      simp [firstAt?_cons later, inside, here]

end Pattern

namespace Go

open Pattern Text

/-! ## Comments -/

theorem preferred?_char_cons (c : Char) (rest : Rest) (cs : List Char) (left : Option Char) :
    preferred? left (char c :: rest) (c :: cs) = (preferred? (some c) rest cs).map (· + 1) := by
  rw [char, preferred?_set_cons, if_pos (by simp)]

theorem length?_lineComment (cs : List Char) : lineComment.length? ('/' :: '/' :: cs) =
    some ((cs.takeWhile (· ≠ '\n')).length + 2) := by
  have others : (CharSet.compl (.single '\n')).contains = (· ≠ '\n') := by
    funext c
    by_cases newline : c = '\n' <;> simp [CharSet.contains, newline]
  refine Entry.length?_eq_some.2 ⟨?_, Nat.succ_ne_zero _, fun bound => absurd bound (by decide)⟩
  have shape : lineComment.body = cat (char '/') (cat (char '/') (star true (set (.compl (.single '\n'))))) := rfl
  rw [shape, preferred?_cat, preferred?_char_cons, preferred?_cat, preferred?_char_cons, preferred?_star_set,
    others]
  rfl

theorem length?_comment (cs : List Char) : blockComment.length? ('/' :: '*' :: cs) =
    (firstAt? ['*', '/'] cs).map (· + 4) := by
  ext n
  rw [length?_blockComment, Option.map_eq_some_iff]
  constructor
  · rintro ⟨_, m, whole, found, rfl⟩
    obtain ⟨rfl⟩ : cs = _ := (List.cons_eq_cons.1 (List.cons_eq_cons.1 whole).2).2
    rw [preferred?_upTo] at found
    obtain ⟨k, first, rfl⟩ := Option.map_eq_some_iff.1 found
    exact ⟨k, first, rfl⟩
  · rintro ⟨k, first, rfl⟩
    exact ⟨cs, k + 2, rfl, by rw [preferred?_upTo, first]; rfl, rfl⟩

/-! ## Strings -/

/-- A character of a string, or a backslash with the character it takes. -/
def stringPiece : Pattern :=
  alt (set (.compl (anyOf '"' ['\\', '\n']))) (cat (char '\\') (set (.compl (.single '\n'))))

/-- What is left to match inside a string. -/
def inString : Rest := [star true stringPiece, char '"']

/-- What is left to match behind a backslash. -/
def escaped : Rest := set (.compl (.single '\n')) :: inString

theorem preferred?_inString_cons (left : Option Char) (c : Char) (cs : List Char) :
    preferred? left inString (c :: cs) =
      if c = '"' then some 1
      else if c = '\n' then none
      else (preferred? (some c) (if c = '\\' then escaped else inString) cs).map (· + 1) := by
  rw [inString, preferred?_star_greedy rfl, stringPiece, preferred?_alt, preferred?_cat, char, char,
    preferred?_set_cons, preferred?_set_cons, preferred?_set_cons, preferred?_nil]
  by_cases quote : c = '"'
  · subst quote
    rfl
  · by_cases newline : c = '\n'
    · subst newline
      rfl
    · by_cases backslash : c = '\\'
      · subst backslash
        exact Option.or_none
      · have inside : (CharSet.compl (anyOf '"' ['\\', '\n'])).contains c := by
          simp [anyOf, CharSet.contains, quote, newline, backslash]
        simp [quote, newline, backslash, inside]

/-- No newline stands before this place. -/
def inLine (text : List Char) (n : Nat) : Bool := '\n' ∉ text.take n

theorem filter_inLine_cons (c : Char) (cs : List Char) (o : Option Nat) :
    (o.map (· + 1)).filter (inLine (c :: cs)) =
      if c = '\n' then none else (o.filter (inLine cs)).map (· + 1) := by
  cases o with
  | none => simp
  | some n =>
    by_cases newline : c = '\n'
    · simp [inLine, newline, Option.filter]
    · by_cases later : '\n' ∈ cs.take n <;> simp [inLine, newline, Ne.symm newline, later, Option.filter]

/-- Inside a string and behind a backslash. -/
theorem preferred?_inString (text : List Char) (left : Option Char) :
    preferred? left inString text = ((closingQuote? false text).filter (inLine text)).map (· + 1) ∧
    preferred? left escaped text = ((closingQuote? true text).filter (inLine text)).map (· + 1) := by
  -- both at once, since each goes on with the other
  induction text generalizing left with
  | nil => exact ⟨rfl, rfl⟩
  | cons c cs ih =>
    obtain ⟨plain, behind_backslash⟩ := ih (some c)
    constructor
    · have next : closingQuote? false (c :: cs) =
        if c = '"' then some 0 else (closingQuote? (c = '\\') cs).map (· + 1) := rfl
      rw [preferred?_inString_cons, next]
      by_cases quote : c = '"'
      · simp [quote, inLine, Option.filter]
      · rw [if_neg quote, if_neg quote, filter_inLine_cons]
        by_cases newline : c = '\n'
        · rw [if_pos newline, if_pos newline, Option.map_none]
        · rw [if_neg newline, if_neg newline]
          by_cases backslash : c = '\\'
          · rw [if_pos backslash, decide_eq_true backslash, behind_backslash]
          · rw [if_neg backslash, decide_eq_false backslash, plain]
    · have next : closingQuote? true (c :: cs) = (closingQuote? false cs).map (· + 1) := rfl
      rw [escaped, preferred?_set_cons, plain, next, filter_inLine_cons]
      by_cases newline : c = '\n'
      · simp [newline, CharSet.contains]
      · simp [newline, CharSet.contains]

/-! ## What the entries for strings take -/

theorem length?_of_body {e : Entry} (bound : e.tokenClass.needsBoundary) {o : Option Nat}
    (body : preferred? none [e.body] text = o.map (· + 2)) :
    e.length? text = (o.filter fun n => atBoundary (text.drop (n + 2))).map (· + 2) := by
  rw [Entry.length?, body, bound]
  cases o with
  | none => rfl
  | some n => cases ends : atBoundary (text.drop (n + 2)) <;> simp [Option.filter, ends]

theorem length?_rawString (cs : List Char) : rawString.length? ('\x60' :: cs) =
    ((firstAt? ['\x60'] cs).filter fun n => atBoundary (cs.drop (n + 1))).map (· + 2) := by
  apply length?_of_body rfl
  have shape : rawString.body =
    cat (char '\x60') (cat (star true (set (.compl (.single '\x60')))) (set (.single '\x60'))) := rfl
  rw [shape, preferred?_cat, preferred?_char_cons, preferred?_cat, preferred?_others, Option.map_map]
  rfl

theorem length?_string (cs : List Char) : string.length? ('"' :: cs) =
    ((closingQuote? false cs).filter fun n => inLine cs n && atBoundary (cs.drop (n + 1))).map (· + 2) := by
  have body : preferred? none [string.body] ('"' :: cs) =
      ((closingQuote? false cs).filter (inLine cs)).map (· + 2) := by
    have shape : string.body = cat (char '"') (cat (star true stringPiece) (char '"')) := rfl
    rw [shape, preferred?_cat, preferred?_char_cons, preferred?_cat]
    change (preferred? (some '"') inString cs).map _ = _
    rw [(preferred?_inString cs _).1, Option.map_map]
    rfl
  rw [length?_of_body rfl body, Option.filter_filter]
  rfl

/-! ## No other entry takes anything -/

theorem lexeme?_of_quote (cs : List Char) (quote : glyph c = .quote) :
    grammar.lexeme? (c :: cs) = firstOf quoted (c :: cs) :=
  lexeme?_of_glyph rfl quote

theorem match?_of_quote {e : Entry} (quote : glyph c = .quote)
    (only : firstOf quoted (c :: cs) = firstOf [e] (c :: cs)) :
    grammar.match? (c :: cs) = (e.length? (c :: cs)).map fun n => ⟨e, ⟨0, n⟩⟩ :=
  match?_of_only ((lexeme?_of_quote cs quote).trans only)

/-- A comment to the end of its line ends before the next newline; one that is closed ends behind what
closes it first. A string between backticks ends behind the next backtick, and one between quotes behind
the first quote that no backslash takes with it, if that is in the same line; where a word goes on there,
or nothing closes them, nothing matches. -/
theorem comments_and_strings_end (cs : List Char) :
    grammar.match? ('/' :: '/' :: cs) =
      some ⟨lineComment, ⟨0, (cs.takeWhile (· ≠ '\n')).length + 2⟩⟩ ∧
    (['*', '/'] <:+: cs → ∃ n, ['*', '/'] <+: cs.drop n ∧ (∀ m < n, ¬['*', '/'] <+: cs.drop m) ∧
      grammar.match? ('/' :: '*' :: cs) = some ⟨blockComment, ⟨0, n + 4⟩⟩) ∧
    grammar.match? ('\x60' :: cs) =
      ((firstAt? ['\x60'] cs).filter fun n => atBoundary (cs.drop (n + 1))).map
        (fun n => ⟨rawString, ⟨0, n + 2⟩⟩) ∧
    grammar.match? ('"' :: cs) =
      ((closingQuote? false cs).filter fun n => inLine cs n && atBoundary (cs.drop (n + 1))).map
        (fun n => ⟨string, ⟨0, n + 2⟩⟩) := by
  refine ⟨?_, ?_, ?_, ?_⟩
  · have no_blank : blank.length? ('/' :: '/' :: cs) = none := rfl
    apply match?_of_length? (length?_lineComment cs)
    rw [lexeme?_eq, entries, firstOf_append, skips, firstOf_cons_of_none no_blank, firstOf_cons,
      length?_lineComment]
    rfl
  · intro closed
    obtain ⟨n, first⟩ := exists_firstAt? closed
    obtain ⟨here, before⟩ := firstAt?_eq_some.1 first
    have no_blank : blank.length? ('/' :: '*' :: cs) = none := rfl
    have no_line : lineComment.length? ('/' :: '*' :: cs) = none := rfl
    have found : blockComment.length? ('/' :: '*' :: cs) = some (n + 4) := by
      rw [length?_comment, first]
      rfl
    refine ⟨n, here, before, match?_of_length? found ?_⟩
    rw [lexeme?_eq, entries, firstOf_append, skips, firstOf_cons_of_none no_blank,
      firstOf_cons_of_none no_line, firstOf_cons, found]
    rfl
  · have no_rune : rune.length? ('\x60' :: cs) = none := rfl
    have no_string : string.length? ('\x60' :: cs) = none := rfl
    have only : firstOf quoted ('\x60' :: cs) = firstOf [rawString] ('\x60' :: cs) := by
      rw [quoted, firstOf_cons_of_none no_rune, firstOf_cons_of_none no_string]
    rw [match?_of_quote (by decide) only, length?_rawString, Option.map_map]
    rfl
  · have no_rune : rune.length? ('"' :: cs) = none := rfl
    have no_raw : rawString.length? ('"' :: cs) = none := rfl
    have only : firstOf quoted ('"' :: cs) = firstOf [string] ('"' :: cs) := by
      rw [quoted, firstOf_cons_of_none no_rune, firstOf_cons, firstOf_cons_of_none no_raw, firstOf_cons]
    rw [match?_of_quote (by decide) only, length?_string, Option.map_map]
    rfl

/-- The star that opens a comment does not close it, and a backslash takes the quote behind it. -/
theorem comments_and_strings_end_inside :
    (['*', '/'] <:+: ['/', '*', '/', '*', '/'] ∧
      grammar.match? ['/', '*', '/', '*', '/', '*', '/'] = some ⟨blockComment, ⟨0, 5⟩⟩) ∧
    grammar.match? ['"', '\\', '"', '"', ';', '"'] = some ⟨string, ⟨0, 4⟩⟩ := by
  have closed : ['*', '/'] <:+: ['/', '*', '/', '*', '/'] := ⟨['/'], ['*', '/'], rfl⟩
  have second : ['*', '/'] <+: ['*', '/', '*', '/'] := ⟨['*', '/'], rfl⟩
  have ends : atBoundary [';', '"'] := by decide +kernel
  obtain ⟨n, here, first, found⟩ := (comments_and_strings_end ['/', '*', '/', '*', '/']).2.1 closed
  have whole := (comments_and_strings_end ['\\', '"', '"', ';', '"']).2.2.2
  refine ⟨?_, by simpa [closingQuote?, inLine, ends, Option.filter] using whole⟩
  cases n with
  | zero => exact absurd here (by decide)
  | succ n =>
    cases n with
    | zero => exact ⟨closed, found⟩
    | succ n => exact absurd second (first 1 (by omega))

end Go

end GoScan
