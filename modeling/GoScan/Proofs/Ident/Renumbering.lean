import GoScan.Proofs.Ident.Numbering
import GoScan.Proofs.Scan.Below
import GoScan.Proofs.Scan.Tiling
import Mathlib.Data.List.Forall2
import Mathlib.Data.Set.Function

/-!
# A table decides the numbers of identifiers and nothing else

Two scans of one text, each with a table of its own, keep in step.

* `IdentTable.bijOn_translate`: the numbers of texts that two tables know answer to each other;
* `Lexeme.tablesAfter_eq_internAll`: a scan hands its table the texts of its identifiers;
* `Lexeme.forall₂_tokens`: one lexeme after another, the two scans give tokens that differ at most in
  the number of an identifier;
* `tables_only_number`: so do whole runs, which end alike and with tables that answer to each other.
-/

namespace GoScan

/-! ## Tables that know the same texts -/

/-- The texts of the identifiers among the tokens. -/
def identifierTexts (ts : List Token) : List String :=
  (ts.filter (·.tokenClass = .id)).map Token.text

namespace IdentTable

/-- The numbers that the texts have in the table. -/
def numbersOf (t : IdentTable) (texts : List String) : Set Nat :=
  {id | ∃ text ∈ texts, t.get? text = some id}

/-- The number in `t'` of the name whose number in `t` is `id`. -/
def translate (t t' : IdentTable) (id : Nat) : Nat :=
  ((t.name? id).bind fun name => t'.ids[name]?).getD 0

/-- The table is `before` with the new ones among the names of the texts behind the others, each where
it comes first. -/
structure Extends (t before : IdentTable) (texts : List String) : Prop where
  names : t.names.toList = before.names.toList ++ newNames before.names.toList texts
  consistent : t.Consistent

variable {t t' : IdentTable} {text : String} {id id' : Nat} {texts : List String}

theorem extends_internAll (h : t.Consistent) (texts : List String) :
    (t.internAll texts).Extends t texts :=
  ⟨names_internAll h texts, h.internAll texts⟩

theorem exists_number_of_mem (mem : text ∈ texts) :
    ∃ id, (t.internAll texts).get? text = some id := by
  induction texts generalizing t with
  | nil => exact absurd mem List.not_mem_nil
  | cons first texts ih =>
    rcases List.mem_cons.1 mem with rfl | mem
    · exact ⟨_, get?_internAll (get?_intern t text) texts⟩
    · exact ih mem

theorem translate_eq (h : t.Consistent) (number : t.get? text = some id)
    (number' : t'.get? text = some id') : t.translate t' id = id' := by
  rw [h.get?_iff] at number
  rw [get?] at number'
  rw [translate, number, Option.bind_some, number', Option.getD_some]

/-- Two tables that know the texts give them numbers that answer to each other. -/
theorem bijOn_translate (h : t.Consistent) (h' : t'.Consistent)
    (known : ∀ text ∈ texts, ∃ id, t.get? text = some id)
    (known' : ∀ text ∈ texts, ∃ id, t'.get? text = some id) :
    Set.BijOn (t.translate t') (t.numbersOf texts) (t'.numbersOf texts) := by
  refine ⟨?_, ?_, ?_⟩
  · rintro id ⟨text, mem, number⟩
    obtain ⟨id', number'⟩ := known' text mem
    rw [translate_eq h number number']
    exact ⟨text, mem, number'⟩
  · rintro id ⟨text, mem, number⟩ other ⟨text', mem', other_number⟩ same
    obtain ⟨id', number'⟩ := known' text mem
    obtain ⟨other', other_number'⟩ := known' text' mem'
    rw [translate_eq h number number', translate_eq h other_number other_number'] at same
    have one_name := (h'.number_eq_iff number' other_number').1 same
    exact (h.number_eq_iff number other_number).2 one_name
  · rintro id' ⟨text, mem, number'⟩
    obtain ⟨id, number⟩ := known text mem
    exact ⟨id, ⟨text, mem, number⟩, translate_eq h number number'⟩

end IdentTable

/-! ## Tokens that differ at most in a number -/

/-- The entry that matches in the text behind byte `offset`. -/
def Grammar.entryAt? (g : Grammar) (source : String) (offset : Nat) : Option Entry :=
  (Text.splitAtByte? source.toList offset).bind fun cut => (g.match? cut.2).map Match.entry

/-- The token has the class of the entry and its name for a kind; for an identifier the number of its
text in the table follows. -/
def Entry.Labels (e : Entry) (table : IdentTable) (t : Token) : Prop :=
  t.tokenClass = e.tokenClass ∧
    if e.tokenClass = .id then ∃ id, table.get? t.text = some id ∧ t.kind = e.name ++ toString id
    else t.kind = e.name

/-- The tokens are one token of the text, numbered by two tables if it is an identifier. -/
structure SameButNumber (g : Grammar) (source : String) (table table' : IdentTable) (t t' : Token) :
    Prop where
  text : t.text = t'.text
  position : t.position = t'.position
  tokenClass : t.tokenClass = t'.tokenClass
  entry : ∃ e, g.entryAt? source t.position.offset = some e ∧ e.Labels table t ∧ e.Labels table' t'
  other : t.tokenClass ≠ .id → t = t'

theorem SameButNumber.of_labels {g : Grammar} {source : String} {table table' : IdentTable}
    {t t' : Token} {e : Entry} (text : t.text = t'.text) (position : t.position = t'.position)
    (found : g.entryAt? source t.position.offset = some e) (labels : e.Labels table t)
    (labels' : e.Labels table' t') : SameButNumber g source table table' t t' := by
  have tokenClass : t.tokenClass = t'.tokenClass := labels.1.trans labels'.1.symm
  refine ⟨text, position, tokenClass, ⟨e, found, labels, labels'⟩, ?_⟩
  intro other
  rw [labels.1] at other
  have kind : t.kind = e.name := by simpa [other] using labels.2
  have kind' : t'.kind = e.name := by simpa [other] using labels'.2
  obtain ⟨k, s, c, p⟩ := t
  obtain ⟨k', s', c', p'⟩ := t'
  simp only at text position tokenClass kind kind'
  rw [text, position, tokenClass, kind, kind']

section

variable {g : Grammar} {source : String} {table table' : IdentTable} {ts ts' : List Token}

/-- Tokens that differ at most in a number are recorded or skipped together. -/
theorem forall₂_recorded (same : List.Forall₂ (SameButNumber g source table table') ts ts') :
    List.Forall₂ (SameButNumber g source table table') (ts.filter (!·.isSkip))
      (ts'.filter (!·.isSkip)) := by
  refine List.rel_filter ?_ same
  intro t t' one
  have skip : t.isSkip = t'.isSkip := by simp only [Token.isSkip, one.tokenClass]
  simp only [skip]

theorem identifierTexts_eq (same : List.Forall₂ (SameButNumber g source table table') ts ts') :
    identifierTexts ts = identifierTexts ts' := by
  induction same with
  | nil => rfl
  | @cons t t' ts ts' here _ ih =>
    unfold identifierTexts at ih ⊢
    rw [List.filter_cons, List.filter_cons, here.tokenClass]
    by_cases named : t'.tokenClass = .id
    · simp only [named, decide_true, if_true, List.map_cons, here.text, ih]
    · simp only [named, decide_false, Bool.false_eq_true, if_false, ih]

end

namespace Lexeme

variable {t t' : IdentTable} {p : Position} {ls : List Lexeme}

theorem tableAfter_eq_internAll (t : IdentTable) (l : Lexeme) :
    l.tableAfter t =
      t.internAll (if l.entry.tokenClass = .id then [String.ofList l.chars] else []) := by
  by_cases named : l.entry.tokenClass = .id
  · rw [if_pos named, tableAfter, Entry.kind, named]
    rfl
  · rw [if_neg named, tableAfter, Entry.kind_of_ne_id named]
    rfl

/-- A scan hands its table the texts of the identifiers that it records. -/
theorem tablesAfter_eq_internAll (t : IdentTable) (p : Position) (ls : List Lexeme) :
    tablesAfter t ls = t.internAll (identifierTexts (recorded t p ls)) := by
  induction ls generalizing t p with
  | nil => rfl
  | cons l ls ih =>
    have onward : tablesAfter t (l :: ls) = tablesAfter (l.tableAfter t) ls := rfl
    have here : identifierTexts (if l.isRecorded then [l.token t p] else []) =
        if l.entry.tokenClass = .id then [String.ofList l.chars] else [] := by
      by_cases named : l.entry.tokenClass = .id <;> cases recorded : l.isRecorded <;>
        simp_all [identifierTexts, token, isRecorded]
    have both : identifierTexts (recorded t p (l :: ls)) =
        identifierTexts (if l.isRecorded then [l.token t p] else []) ++
          identifierTexts (recorded (l.tableAfter t) (p.advanceAll l.chars) ls) := by
      simp [recorded_cons, identifierTexts]
    rw [onward, ih, both, here, IdentTable.internAll_append, ← tableAfter_eq_internAll]

/-- The number that a lexeme is given is the number of its text from then on. -/
theorem labels_token (t : IdentTable) (p : Position) (l : Lexeme) (later : List String) :
    l.entry.Labels ((l.tableAfter t).internAll later) (l.token t p) := by
  refine ⟨rfl, ?_⟩
  by_cases named : l.entry.tokenClass = .id
  · have number := IdentTable.get?_intern t (String.ofList l.chars)
    rw [if_pos named]
    refine ⟨(t.intern (String.ofList l.chars)).1, IdentTable.get?_internAll ?_ later, ?_⟩
    · rw [tableAfter_eq_internAll, if_pos named]
      exact number
    · rw [token, Entry.kind, named]
      rfl
  · rw [if_neg named, token, Entry.kind_of_ne_id named]

variable {g : Grammar} {source : String} {front text rest : List Char}

/-- One lexeme after another, two scans give tokens that differ at most in a number. -/
theorem forall₂_tokens (h : Scans g text ls rest) (cut : source.toList = front ++ text)
    (here : p.offset = Text.byteCount front) :
    List.Forall₂ (SameButNumber g source (tablesAfter t ls) (tablesAfter t' ls))
      (tokens t p ls) (tokens t' p ls) := by
  induction h generalizing front p t t' with
  | done => exact .nil
  | @next l text rest ls taken tail ih =>
    have found : g.entryAt? source p.offset = some l.entry := by
      obtain ⟨m, matched, whole⟩ := Option.map_eq_some_iff.1 taken
      rw [Grammar.entryAt?, Text.splitAtByte?_eq_some_iff.2 ⟨cut, here.symm⟩, Option.bind_some,
        matched, ← whole]
      rfl
    have labels (t : IdentTable) : l.entry.Labels (tablesAfter t (l :: ls)) (l.token t p) := by
      have onward : tablesAfter t (l :: ls) = tablesAfter (l.tableAfter t) ls := rfl
      rw [onward, tablesAfter_eq_internAll _ p]
      exact labels_token t p l _
    have further : source.toList = front ++ l.chars ++ text := by rw [cut, List.append_assoc]
    have stop : (p.advanceAll l.chars).offset = Text.byteCount (front ++ l.chars) := by
      rw [Position.offset_advanceAll, here, Text.byteCount_append]
    exact .cons (.of_labels rfl rfl found (labels t) (labels t')) (ih further stop)

end Lexeme

/-! ## Two runs over one text -/

namespace Scanner

/-- Calls give the tokens of the lexemes as far as they go. -/
theorem tokensRead_eq_take {ι : Type} [Interner ι] {g : Grammar} {s : Scanner} {ls : List Lexeme}
    {rest : List Char} (table : ι) (h : Scans g s.rest ls rest) (stops : g.Stops rest)
    (hf : s.failure = none) (k : Nat) :
    tokensRead g k s table = (Lexeme.tokens table s.position ls).take k := by
  rcases Nat.lt_or_ge ls.length k with past | within
  · obtain ⟨j, rfl⟩ := Nat.exists_eq_add_of_lt past
    obtain ⟨answer, -⟩ := calls_past table h stops hf j
    rw [List.take_of_length_le (by rw [Lexeme.length_tokens]; omega), tokensRead, Nat.add_assoc, answer]
    simp [List.filterMap_map, Function.comp_def]
  · obtain ⟨events, now⟩ := calls_within table h hf within
    have first : (Lexeme.tokens table s.position ls).take k =
        Lexeme.tokens table s.position (ls.take k) := by
      have parts : Lexeme.tokens table s.position (ls.take k ++ ls.drop k) =
          Lexeme.tokens table s.position (ls.take k) ++ _ := Lexeme.tokens_append
      have size : (Lexeme.tokens table s.position (ls.take k)).length = k := by
        rw [Lexeme.length_tokens, List.length_take, Nat.min_eq_left within]
      rw [List.take_append_drop] at parts
      rw [parts, List.take_left' size]
    rw [first]
    simp [tokensRead, now, List.filterMap_map, Function.comp_def]

/-- Whatever the tables, two runs over one text end alike and at one place. -/
theorem analyze_ends_alike {ι : Type} [Interner ι] (g : Grammar) (source : String) (table table' : ι) :
    let run := (ofText source).analyze g table
    let run' := (ofText source).analyze g table'
    run.answer = run'.answer ∧ run.scanner.position = run'.scanner.position ∧
      run.scanner.rest = run'.scanner.rest := by
  obtain ⟨ls, rest, scans, stops⟩ := exists_scans g source.toList
  obtain ⟨-, -, -, answer, -⟩ := analyze_ofText table scans stops
  obtain ⟨-, -, -, answer', -⟩ := analyze_ofText table' scans stops
  obtain ⟨events, ended⟩ := analyze_eq (s := ofText source) table scans stops rfl
  obtain ⟨events', ended'⟩ := analyze_eq (s := ofText source) table' scans stops rfl
  refine ⟨answer.trans answer'.symm, ?_, ?_⟩
  · rw [ended, ended', position_stopped, position_stopped]
    rfl
  · rw [ended, ended', rest_stopped, rest_stopped]
    rfl

/-- A run hands its table the texts of the identifiers that it records. -/
theorem table_analyze (g : Grammar) (source : String) (before : IdentTable) :
    let run := (ofText source).analyze g before
    run.table = before.internAll (identifierTexts run.scanner.lists.all.toList) := by
  obtain ⟨ls, rest, scans, stops⟩ := exists_scans g source.toList
  obtain ⟨all, -, table, -⟩ := analyze_ofText before scans stops
  dsimp only
  rw [table, all]
  exact Lexeme.tablesAfter_eq_internAll before .start ls

/-- Two tables change nothing in what is read of a text but the numbers of its identifiers. The runs
end alike; token for token, skipped ones included, they read the same text at the same place by the
same entry. The numbers of the two runs answer to each other, and each table goes on with the names
that are new to it, in the order in which they first occur. -/
theorem tables_only_number (g : Grammar) (source : String) (earlier earlier' : List TableCall) :
    let before := IdentTable.empty.after earlier
    let before' := IdentTable.empty.after earlier'
    let run := (ofText source).analyze g before
    let run' := (ofText source).analyze g before'
    let ts := run.scanner.lists.all.toList
    let ts' := run'.scanner.lists.all.toList
    (run.answer = run'.answer ∧ run.scanner.position = run'.scanner.position ∧
      run.scanner.rest = run'.scanner.rest) ∧
    (List.Forall₂ (SameButNumber g source run.table run'.table) ts ts' ∧
      ∀ k, List.Forall₂ (SameButNumber g source run.table run'.table)
        (tokensRead g k (ofText source) before) (tokensRead g k (ofText source) before')) ∧
    (Set.BijOn (run.table.translate run'.table)
        (run.table.numbersOf (identifierTexts ts)) (run'.table.numbersOf (identifierTexts ts')) ∧
      ∀ text ∈ identifierTexts ts,
        run'.table.get? text = (run.table.get? text).map (run.table.translate run'.table)) ∧
    run.table.Extends before (identifierTexts ts) ∧
    run'.table.Extends before' (identifierTexts ts') := by
  intro before before' run run' ts ts'
  obtain ⟨ls, rest, scans, stops⟩ := exists_scans g source.toList
  have h : before.Consistent := IdentTable.consistent_after earlier
  have h' : before'.Consistent := IdentTable.consistent_after earlier'
  have grown : run.table = before.internAll (identifierTexts ts) := table_analyze g source before
  have grown' : run'.table = before'.internAll (identifierTexts ts') := table_analyze g source before'
  have final : run.table.Consistent := grown ▸ h.internAll _
  have final' : run'.table.Consistent := grown' ▸ h'.internAll _
  obtain ⟨all, -, table, -⟩ := analyze_ofText before scans stops
  obtain ⟨all', -, table', -⟩ := analyze_ofText before' scans stops
  have read : List.Forall₂ (SameButNumber g source run.table run'.table)
      (Lexeme.tokens before .start ls) (Lexeme.tokens before' .start ls) := by
    rw [table, table']
    have whole : source.toList = [] ++ source.toList := rfl
    exact Lexeme.forall₂_tokens scans whole rfl
  have same : List.Forall₂ (SameButNumber g source run.table run'.table) ts ts' := by
    have recorded := forall₂_recorded read
    rwa [← Lexeme.recorded, ← Lexeme.recorded, ← all, ← all'] at recorded
  have texts : identifierTexts ts' = identifierTexts ts := (identifierTexts_eq same).symm
  have known : ∀ text ∈ identifierTexts ts, ∃ id, run.table.get? text = some id := by
    intro text mem
    rw [grown]
    exact IdentTable.exists_number_of_mem mem
  have known' : ∀ text ∈ identifierTexts ts, ∃ id, run'.table.get? text = some id := by
    intro text mem
    rw [grown', texts]
    exact IdentTable.exists_number_of_mem mem
  refine ⟨analyze_ends_alike g source before before', ⟨same, ?_⟩, ⟨?_, ?_⟩, ?_, ?_⟩
  · intro k
    rw [tokensRead_eq_take (s := ofText source) before scans stops rfl k,
      tokensRead_eq_take (s := ofText source) before' scans stops rfl k]
    exact List.forall₂_take k read
  · rw [texts]
    exact IdentTable.bijOn_translate final final' known known'
  · intro text mem
    obtain ⟨id, number⟩ := known text mem
    obtain ⟨id', number'⟩ := known' text mem
    rw [number, number', Option.map_some, IdentTable.translate_eq final number number']
  · rw [grown]
    exact IdentTable.extends_internAll h _
  · rw [grown']
    exact IdentTable.extends_internAll h' _

end Scanner

end GoScan
