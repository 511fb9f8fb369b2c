import GoScan.Proofs.Go.WordEnds
import GoScan.Proofs.Ident.Renumbering
import GoScan.Proofs.Ident.Sharing
import Mathlib.Data.List.TakeWhile

/-!
# Identifiers of Go source text are numbered in the order of their texts

An identifier has no backquote, so that its text is its name. Its number is the place of the text among
the names of the table, and still is when the table has gone on to other texts.

* `Go.normalize_of_id`: the text of an identifier is its own name;
* `Lexeme.tokens_eq_map_numbered`: the numbers of tokens are the places of their texts;
* `Go.recorded_analyze`, `Go.table_analyze`: so the tokens of a scan on any table are those of the scan
  on its own, numbered by the names of the table at any later time.
-/

namespace GoScan

/-- The token with the place of its text among the names for a number, if it is an identifier. -/
def Token.numbered (names : List String) (t : Token) : Token :=
  if t.tokenClass = .id then { t with kind := "id" ++ toString (names.idxOf t.text) } else t

namespace Token

variable {names : List String} {t u : Token}

@[simp] theorem tokenClass_numbered : (t.numbered names).tokenClass = t.tokenClass := by
  unfold numbered
  split <;> rfl

@[simp] theorem text_numbered : (t.numbered names).text = t.text := by
  unfold numbered
  split <;> rfl

@[simp] theorem isSkip_numbered : (t.numbered names).isSkip = t.isSkip := by
  simp only [isSkip, tokenClass_numbered]

/-- Identifiers whose texts have places are of one kind exactly if they have one text. -/
theorem kind_numbered_eq_iff (id : t.tokenClass = .id) (id' : u.tokenClass = .id)
    (known : t.text ∈ names) :
    (t.numbered names).kind = (u.numbered names).kind ↔ t.text = u.text := by
  simp only [numbered, id, id', if_true, String.append_right_inj]
  constructor
  · intro same
    exact (List.idxOf_inj known).1 (Nat.repr_inj.1 same)
  · intro same
    rw [same]

end Token

theorem identifierTexts_map_numbered (names : List String) (ts : List Token) :
    identifierTexts (ts.map (Token.numbered names)) = identifierTexts ts := by
  simp [identifierTexts, List.filter_map, Function.comp_def]

/-- A text that is its own name is numbered by its place among the names. -/
theorem IdentTable.Consistent.idxOf_eq {t : IdentTable} (h : t.Consistent) {text : String} {id : Nat}
    (plain : normalize text = text) (number : t.get? text = some id) :
    t.names.toList.idxOf text = id := by
  rw [h.get?_iff, plain, name?, ← Array.getElem?_toList] at number
  obtain ⟨within, there⟩ := List.getElem?_eq_some_iff.1 number
  rw [← there]
  exact h.nodup_names.idxOf_getElem id within

/-- Texts that are their own names are numbered in the order in which they first occur. -/
theorem IdentTable.names_of_plain {texts : List String}
    (plain : ∀ text ∈ texts, normalize text = text) :
    (empty.internAll texts).names.toList = texts.eraseDups := by
  have own : texts.map normalize = texts :=
    (List.map_congr_left plain).trans (List.map_id texts)
  have names := names_internAll consistent_empty texts
  have none_before : empty.names.toList = [] := rfl
  rw [names, none_before, List.nil_append, newNames_nil, own]

namespace Lexeme

/-- The lexeme's identifier is named for its number only, and its text is its name. -/
def IsPlain (l : Lexeme) : Prop :=
  l.entry.tokenClass = .id →
    l.entry.name = "id" ∧ normalize (String.ofList l.chars) = String.ofList l.chars

/-- The number that a lexeme is given is the place of its text among the names from then on. -/
theorem token_eq_numbered {t : IdentTable} {l : Lexeme} (plain : l.IsPlain) (h : t.Consistent)
    (t' : IdentTable) (p : Position) (later : List String) :
    l.token t p = (l.token t' p).numbered ((l.tableAfter t).internAll later).names.toList := by
  by_cases named : l.entry.tokenClass = .id
  · obtain ⟨name, own⟩ := plain named
    have number : ((l.tableAfter t).internAll later).get? (String.ofList l.chars) =
        some (t.intern (String.ofList l.chars)).1 := by
      apply IdentTable.get?_internAll
      rw [tableAfter_eq_internAll, if_pos named]
      exact IdentTable.get?_intern t _
    have consistent : ((l.tableAfter t).internAll later).Consistent := by
      rw [tableAfter_eq_internAll, ← IdentTable.internAll_append]
      exact h.internAll _
    have place := consistent.idxOf_eq own number
    simp only [Token.numbered, token, named, if_true, place, Entry.kind, name]
    rfl
  · simp only [Token.numbered, token, named, if_false, Entry.kind_of_ne_id named]

theorem tokens_eq_map_numbered {t : IdentTable} {ls : List Lexeme} (plain : ∀ l ∈ ls, l.IsPlain)
    (h : t.Consistent) (t' : IdentTable) (p : Position) (later : List String) :
    tokens t p ls =
      (tokens t' p ls).map (Token.numbered ((tablesAfter t ls).internAll later).names.toList) := by
  induction ls generalizing t t' p with
  | nil => rfl
  | cons l ls ih =>
    obtain ⟨here, others⟩ := List.forall_mem_cons.1 plain
    have consistent : (l.tableAfter t).Consistent := by
      rw [tableAfter_eq_internAll]
      exact h.internAll _
    have onward : tablesAfter t (l :: ls) = tablesAfter (l.tableAfter t) ls := rfl
    have first : l.token t p = (l.token t' p).numbered
        ((tablesAfter t (l :: ls)).internAll later).names.toList := by
      rw [onward, tablesAfter_eq_internAll _ p, ← IdentTable.internAll_append]
      exact token_eq_numbered here h t' p _
    rw [tokens, tokens, List.map_cons, ← first, onward, ← ih others consistent]

end Lexeme

namespace Go

/-- A scan of the text on its own. -/
def scan (source : String) : Step IdentTable (Option Failure) :=
  (Scanner.ofText source).analyze grammar .empty

/-- The tokens that a scan on its own records. -/
def recorded (source : String) : List Token := (scan source).scanner.lists.all.toList

variable {l : Lexeme} {a : List Char}

theorem normalize_of_id (taken : grammar.lexeme? (l.chars ++ a) = some l)
    (id : l.entry.tokenClass = .id) : normalize (String.ofList l.chars) = String.ofList l.chars := by
  obtain ⟨mem, found⟩ := of_lexeme? taken
  rw [eq_name_of_id _ mem id] at found
  have run := takeWhile_of_name found
  rw [contains_nameSet] at run
  have inside : ∀ c ∈ l.chars, isNameChar c := by
    intro c mem
    rw [← run] at mem
    exact List.mem_takeWhile_imp mem
  rw [normalize, String.toList_ofList, List.filter_eq_self.2]
  intro c mem
  rw [bne_iff_ne]
  rintro rfl
  exact absurd (inside _ mem) (by decide)

theorem isPlain_of_scans {text rest : List Char} {ls : List Lexeme} (h : Scans grammar text ls rest) :
    ∀ l ∈ ls, l.IsPlain := by
  induction h with
  | done => simp
  | next taken tail ih =>
    refine List.forall_mem_cons.2 ⟨?_, ih⟩
    intro id
    exact ⟨name_of_id _ (Grammar.entry_mem_of_lexeme? taken) id, normalize_of_id taken id⟩

/-- On any table a scan ends as it does on its own. -/
theorem answer_analyze (source : String) (table : IdentTable) :
    ((Scanner.ofText source).analyze grammar table).answer = (scan source).answer := by
  unfold scan
  exact (Scanner.analyze_ends_alike grammar source table IdentTable.empty).1

/-- On any table the tokens are those of a scan on its own, numbered by the names that the table has at
any later time. -/
theorem recorded_analyze {table : IdentTable} (h : table.Consistent) (source : String)
    (later : List String) :
    let run := (Scanner.ofText source).analyze grammar table
    run.scanner.lists.all.toList =
      (recorded source).map (Token.numbered (run.table.internAll later).names.toList) := by
  intro run
  obtain ⟨ls, rest, scans, stops⟩ := exists_scans grammar source.toList
  obtain ⟨all, -, after, -⟩ := Scanner.analyze_ofText table scans stops
  obtain ⟨own, -⟩ := Scanner.analyze_ofText IdentTable.empty scans stops
  have numbered := Lexeme.tokens_eq_map_numbered (isPlain_of_scans scans) h .empty .start later
  rw [recorded, scan, own, all, after, Lexeme.recorded, numbered, List.filter_map]
  simp only [Function.comp_def, Token.isSkip_numbered, Lexeme.recorded]

/-- A scan numbers the texts of the identifiers that it has on its own. -/
theorem table_analyze {table : IdentTable} (h : table.Consistent) (source : String) :
    ((Scanner.ofText source).analyze grammar table).table =
      table.internAll (identifierTexts (recorded source)) := by
  have same := recorded_analyze h source []
  have grown := Scanner.table_analyze grammar source table
  dsimp only at same grown
  rw [grown, same, identifierTexts_map_numbered]

/-- The text of an identifier is its own name. -/
theorem normalize_identifierText {source text : String}
    (named : text ∈ identifierTexts (recorded source)) : normalize text = text := by
  obtain ⟨t, among, rfl⟩ := List.mem_map.1 named
  obtain ⟨mem, id⟩ := List.mem_filter.1 among
  obtain ⟨ls, rest, scans, stops⟩ := exists_scans grammar source.toList
  obtain ⟨own, -⟩ := Scanner.analyze_ofText IdentTable.empty scans stops
  rw [recorded, scan, own] at mem
  have start_offset : Position.start.offset = Text.byteCount [] := rfl
  obtain ⟨_, l, _, _, table, p, _, taken, -, -, rfl⟩ :=
    Lexeme.exists_place_of_mem_tokens scans start_offset (List.mem_filter.1 mem).1
  exact normalize_of_id taken (of_decide_eq_true id)

/-- A scan on its own numbers the identifiers in the order in which they first occur. -/
theorem recorded_eq_numbered (source : String) :
    (recorded source).map (Token.numbered (identifierTexts (recorded source)).eraseDups) =
      recorded source := by
  have numbered := recorded_analyze IdentTable.consistent_empty source []
  dsimp only at numbered
  rw [table_analyze IdentTable.consistent_empty, ← IdentTable.internAll_append, List.append_nil,
    IdentTable.names_of_plain fun text => normalize_identifierText] at numbered
  exact numbered.symm

end Go

end GoScan
