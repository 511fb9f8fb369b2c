import GoScan.Proofs.Go.Respacing

/-!
# To tokenize the texts of the tokens gives the tokens

* `Lexeme.contents_recorded`: what is recorded depends on the recorded lexemes only;
* `scans_spaced`: recorded lexemes with a space between each two are read again;
* `tokenize_texts`: tokens are recorded again from their texts.
-/

namespace GoScan

open Lexeme (tokens tablesAfter)

/-- The token but for its position. -/
def Token.content (t : Token) : TokenClass × String × String := (t.tokenClass, t.kind, t.text)

namespace Lexeme

variable {ι : Type} [Interner ι] {table : ι} {p : Position} {ls : List Lexeme}

/-- What is recorded of the lexemes but for the positions. -/
def contents (table : ι) : List Lexeme → List (TokenClass × String × String)
  | [] => []
  | l :: ls => (l.token table .start).content :: contents (l.tableAfter table) ls

/-- What is recorded depends on the recorded lexemes only. -/
theorem contents_recorded : (recorded table p ls).map Token.content =
    contents table (ls.filter isRecorded) := by
  induction ls generalizing table p with
  | nil => rfl
  | cons l ls ih =>
    rw [recorded_cons, List.filter_cons]
    cases recorded : l.isRecorded with
    | true => simpa [contents] using ⟨rfl, ih⟩
    | false =>
      rw [tableAfter_of_skipped recorded]
      simpa using ih

theorem texts_contents (table : ι) (ls : List Lexeme) :
    (contents table ls).map (·.2.2) = ls.map fun l => String.ofList l.chars := by
  induction ls generalizing table with
  | nil => rfl
  | cons l ls ih => simp [contents, Token.content, token, ih]

end Lexeme

/-- A text is tokenized when lexemes are read to its end. -/
theorem tokenize_eq_ok {source : String} {lists : TokenLists} : tokenize source = .ok lists ↔
    ∃ ls, Scans Go.grammar source.toList ls [] ∧
      (tokens IdentTable.empty .start ls).foldl TokenLists.push .empty = lists := by
  constructor
  · intro h
    obtain ⟨ls, rest, scans, stops⟩ := exists_scans Go.grammar (Scanner.ofText source).rest
    obtain ⟨events, ended⟩ := Scanner.analyze_eq IdentTable.empty scans stops rfl
    rw [tokenize, ended, Scanner.stopped, Scanner.rest_after _ scans] at h
    cases rest with
    | nil => exact ⟨ls, scans, by simpa [Scanner.after, Scanner.ofText] using h⟩
    | cons c cs => simp at h
  · rintro ⟨ls, scans, rfl⟩
    have scans : Scans Go.grammar (Scanner.ofText source).rest ls [] := scans
    obtain ⟨events, ended⟩ := Scanner.analyze_eq IdentTable.empty scans (.inl rfl) rfl
    rw [tokenize, ended, Scanner.stopped, Scanner.rest_after _ scans, if_pos rfl]
    rfl

theorem tokenize_eq_entries (source : String) : tokenize source =
    let step := (Scanner.ofText source).analyze ⟨Go.entries⟩ IdentTable.empty
    match step.answer with
    | none => .ok step.scanner.lists
    | some f => .error f := by
  rw [← Go.grammar_eq]
  rfl

namespace Go

variable {text : List Char} {l : Lexeme} {ls : List Lexeme}

/-- A lexeme that is recorded, and read with a space behind it as well as at the end of a text. -/
def Respaced (l : Lexeme) : Prop :=
  l.isRecorded ∧ ∀ tail, SpaceNext tail → grammar.lexeme? (l.chars ++ tail) = some l

theorem respaced_of_scans (h : Scans grammar text ls []) :
    ∀ l ∈ ls.filter Lexeme.isRecorded, Respaced l := by
  generalize done : [] = rest at h
  induction h with
  | done => simp
  | @next l text rest ls taken tail ih =>
    subst done
    intro l' mem
    obtain ⟨mem, recorded⟩ := List.mem_filter.1 mem
    rcases List.mem_cons.1 mem with rfl | mem
    · exact ⟨recorded, fun tail' ht =>
        lexeme?_respaced taken (by simpa [Lexeme.isRecorded] using recorded) tail.goes_on ht⟩
    · exact ih rfl l' (List.mem_filter.2 ⟨mem, recorded⟩)

def space : Lexeme := ⟨blank, [' ']⟩

/-- A space before a recorded lexeme is a lexeme of its own. -/
theorem lexeme?_space (h : grammar.lexeme? text = some l) (recorded : l.isRecorded) :
    grammar.lexeme? (' ' :: text) = some space := by
  have first : text.takeWhile Unicode.isWhiteSpace = [] := by
    cases text with
    | nil => rfl
    | cons c cs =>
      cases blank_here : Unicode.isWhiteSpace c with
      | false => simp [blank_here]
      | true =>
        rw [lexeme?_blank blank_here] at h
        obtain rfl := Option.some.inj h
        simp [Lexeme.isRecorded, blank, entry] at recorded
  rw [lexeme?_blank (by decide), List.takeWhile_cons_of_pos (by decide), first]
  rfl

theorem exists_spaceNext (l : Lexeme) (ls : List Lexeme) : ∃ tail,
    ((l :: ls).intersperse space).flatMap Lexeme.chars = l.chars ++ tail ∧ SpaceNext tail := by
  cases ls with
  | nil => exact ⟨[], by simp, .inl rfl⟩
  | cons l' ls => exact ⟨_, by rw [List.intersperse_cons_cons]; rfl, .inr ⟨_, rfl⟩⟩

/-- Recorded lexemes with a space between each two are read again. -/
theorem scans_spaced (h : ∀ l ∈ ls, Respaced l) :
    Scans grammar ((ls.intersperse space).flatMap Lexeme.chars) (ls.intersperse space) [] := by
  induction ls with
  | nil => exact .done []
  | cons l ls ih =>
    obtain ⟨-, read⟩ := h l List.mem_cons_self
    have later := ih fun l mem => h l (List.mem_cons_of_mem _ mem)
    cases ls with
    | nil => exact .next (read [] (.inl rfl)) (.done [])
    | cons l' ls =>
      obtain ⟨recorded', read'⟩ := h l' (by simp)
      obtain ⟨tail, whole, ht⟩ := exists_spaceNext l' ls
      rw [List.intersperse_cons_cons]
      have first := lexeme?_space (read' tail ht) recorded'
      rw [← whole] at first
      exact .next (read _ (.inr ⟨_, rfl⟩)) (.next (l := space) first later)

theorem filter_intersperse_space (h : ∀ l ∈ ls, l.isRecorded) :
    (ls.intersperse space).filter Lexeme.isRecorded = ls := by
  have skipped : space.isRecorded = false := rfl
  induction ls with
  | nil => rfl
  | cons l ls ih =>
    have later := ih fun l mem => h l (List.mem_cons_of_mem _ mem)
    cases ls with
    | nil => simpa using h
    | cons l' ls =>
      rw [List.intersperse_cons_cons, List.filter_cons_of_pos (h l List.mem_cons_self),
        List.filter_cons_of_neg (by simp [skipped]), later]

/-- The texts of recorded lexemes, joined by spaces. -/
theorem toList_intercalate_texts (ls : List Lexeme) :
    (" ".intercalate (ls.map fun l => String.ofList l.chars)).toList =
      (ls.intersperse space).flatMap Lexeme.chars := by
  induction ls with
  | nil => rfl
  | cons l ls ih =>
    cases ls with
    | nil => simp
    | cons l' ls =>
      rw [List.intersperse_cons_cons, List.flatMap_cons, List.flatMap_cons, ← ih]
      simp [String.toList_intercalate, List.intercalate, space]

end Go

/-- The tokens of a text are recorded again, but for their positions, when their texts are tokenized
with a space between each two. -/
theorem tokenize_texts {source : String} {lists : TokenLists} (h : tokenize source = .ok lists) :
    ∃ lists', tokenize (" ".intercalate (lists.all.toList.map Token.text)) = .ok lists' ∧
      lists'.all.toList.map Token.content = lists.all.toList.map Token.content := by
  obtain ⟨ls, scans, rfl⟩ := tokenize_eq_ok.1 h
  have respaced := Go.respaced_of_scans scans
  have contents (ls : List Lexeme) :
      ((tokens IdentTable.empty .start ls).foldl TokenLists.push .empty).all.toList.map Token.content =
        Lexeme.contents IdentTable.empty (ls.filter Lexeme.isRecorded) := by
    rw [TokenLists.all_foldl_push, ← Lexeme.contents_recorded (p := .start)]
    rfl
  have texts : ((tokens IdentTable.empty .start ls).foldl TokenLists.push .empty).all.toList.map
      Token.text = (ls.filter Lexeme.isRecorded).map fun l => String.ofList l.chars := by
    rw [← Lexeme.texts_contents IdentTable.empty, ← contents, List.map_map]
    rfl
  refine ⟨_, tokenize_eq_ok.2 ⟨(ls.filter Lexeme.isRecorded).intersperse Go.space, ?_, rfl⟩, ?_⟩
  · rw [texts, Go.toList_intercalate_texts]
    exact Go.scans_spaced respaced
  · rw [contents, contents, Go.filter_intersperse_space fun l mem => (respaced l mem).1]

theorem tokenize_texts_comment : ∃ lists, tokenize "x/**/+1" = .ok lists ∧
    ∃ lists', tokenize (" ".intercalate (lists.all.toList.map Token.text)) = .ok lists' ∧
      lists'.all.toList.map Token.content = lists.all.toList.map Token.content := by
  have accepted : (tokenize "x/**/+1").toOption.isSome := by
    rw [tokenize_eq_entries]
    decide +kernel
  cases h : tokenize "x/**/+1" with
  | ok lists => exact ⟨lists, rfl, tokenize_texts h⟩
  | error f =>
    rw [h] at accepted
    exact absurd accepted Bool.false_ne_true

end GoScan
