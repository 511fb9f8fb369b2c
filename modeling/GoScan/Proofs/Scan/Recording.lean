import GoScan.Proofs.Scan.Failing

/-!
# What a scan records

The list of all tokens has what the scan has read in order, but for what is skipped, and the lists of
the classes divide it up.

* `TokenLists.ofClass_of_pushes`, `TokenLists.size_of_pushes`: each recorded token is in the list of its
  class and in no other;
* `Scanner.Keeps.takeTurns`: whatever the calls, what they have read with the text left is the text,
  token for token, and the lists are made of it;
* `Scanner.lists_partition_tokens`: so between two recorded tokens there are only skipped ones.
-/

namespace GoScan

/-! ## The lists -/

/-- Each recorded token is of one class. -/
theorem length_eq_of_classes {ts : List Token} (recorded : ∀ t ∈ ts, t.isSkip = false) :
    (ts.filter (·.tokenClass = .keyword)).length + (ts.filter (·.tokenClass = .operator)).length +
      (ts.filter (·.tokenClass = .id)).length + (ts.filter (·.tokenClass = .constant)).length +
      (ts.filter (·.tokenClass = .punctuation)).length = ts.length := by
  induction ts with
  | nil => rfl
  | cons t ts ih =>
    obtain ⟨here, later⟩ := List.forall_mem_cons.1 recorded
    have rest := ih later
    cases named : t.tokenClass with
    | skip => simp [Token.isSkip, named] at here
    | _ =>
      simp only [List.filter_cons, named, List.length_cons, decide_true, if_true, reduceCtorEq,
        decide_false, Bool.false_eq_true, if_false]
      omega

namespace TokenLists

theorem all_of_pushes (ts : List Token) :
    (ts.foldl push empty).all.toList = ts.filter (!·.isSkip) := by
  rw [all_foldl_push]
  rfl

/-- The list of a class has the recorded tokens of the class, in order; there is none to skip. -/
theorem ofClass_of_pushes (ts : List Token) {c : TokenClass} (recorded : c ≠ .skip) :
    ((ts.foldl push empty).ofClass c).toList =
      (ts.foldl push empty).all.toList.filter (·.tokenClass = c) := by
  have none_before : (empty.ofClass c).toList = [] := by cases c <;> rfl
  rw [ofClass_foldl_push, all_of_pushes, none_before, List.nil_append, List.filter_filter]

theorem size_of_pushes (ts : List Token) :
    let l := ts.foldl push empty
    l.keywords.size + l.operators.size + l.identifiers.size + l.constants.size + l.punctuation.size =
      l.size := by
  intro l
  have recorded : ∀ t ∈ l.all.toList, t.isSkip = false := by
    intro t mem
    rw [all_of_pushes] at mem
    simpa using (List.mem_filter.1 mem).2
  have size (c : TokenClass) (named : c ≠ .skip) :
      (l.ofClass c).size = (l.all.toList.filter (·.tokenClass = c)).length := by
    rw [← ofClass_of_pushes ts named, Array.length_toList]
  have sizes := length_eq_of_classes recorded
  rw [← size .keyword (by decide), ← size .operator (by decide), ← size .id (by decide),
    ← size .constant (by decide), ← size .punctuation (by decide), Array.length_toList] at sizes
  exact sizes

end TokenLists

/-! ## Tokens in their text -/

/-- The texts of the tokens, one behind another. -/
def textOf (ts : List Token) : List Char := ts.flatMap fun t => t.text.toList

/-- The text from byte `low` to byte `high`, if both lie between characters and in this order. -/
def Text.between? (cs : List Char) (low high : Nat) : Option (List Char) :=
  (splitAtByte? cs high).bind fun cut => (splitAtByte? cut.1 low).map Prod.snd

theorem Text.between?_cut (front part rest : List Char) :
    between? (front ++ part ++ rest) (byteCount front) (byteCount front + byteCount part) =
      some part := by
  have whole : splitAtByte? (front ++ part ++ rest) (byteCount front + byteCount part) =
      some (front ++ part, rest) := by
    rw [splitAtByte?_eq_some_iff]
    exact ⟨rfl, byteCount_append front part⟩
  have inner : splitAtByte? (front ++ part) (byteCount front) = some (front, part) := by
    rw [splitAtByte?_eq_some_iff]
    exact ⟨rfl, rfl⟩
  rw [between?, whole, Option.bind_some, inner, Option.map_some]

namespace Tiles

variable {low middle high : Nat} {ts us : List Token}

theorem append_iff : Tiles low (ts ++ us) high ↔ ∃ middle, Tiles low ts middle ∧ Tiles middle us high := by
  induction ts generalizing low with
  | nil => simp [Tiles]
  | cons t ts ih => simp [Tiles, ih, and_assoc]

theorem high_eq (h : Tiles low ts high) : high = low + Text.byteCount (textOf ts) := by
  induction ts generalizing low with
  | nil => exact h.symm
  | cons t ts ih =>
    obtain ⟨rfl, tail⟩ := h
    rw [ih tail, Token.stop, textOf, textOf, List.flatMap_cons, Text.byteCount_append, Nat.add_assoc]

/-- A part of a row of tokens has its own texts in the text. -/
theorem between?_eq {source rest : List Char} {part behind : List Token}
    (cut : source = textOf (ts ++ part ++ behind) ++ rest) (before : Tiles 0 ts low)
    (here : Tiles low part high) : Text.between? source low high = some (textOf part) := by
  have whole : source = textOf ts ++ textOf part ++ (textOf behind ++ rest) := by
    rw [cut]
    simp [textOf]
  have start : low = Text.byteCount (textOf ts) := by
    rw [before.high_eq, Nat.zero_add]
  rw [here.high_eq, start, whole]
  exact Text.between?_cut _ _ _

end Tiles

/-! ## What scans keep -/

variable {ι : Type} [Interner ι]

namespace Scanner

/-- The tokens with the text left are the source, each in its place, and the lists are made of them. -/
structure Keeps (source : String) (read : List Token) (s : Scanner) : Prop where
  text : source.toList = textOf read ++ s.rest
  tiles : Tiles 0 read s.offset
  lists : s.lists = read.foldl TokenLists.push .empty

namespace Keeps

variable {source : String} {read : List Token} {s : Scanner}

theorem ofText (source : String) : Keeps source [] (ofText source) := ⟨rfl, rfl, rfl⟩

theorem withLocale (h : Keeps source read s) (l : Locale) : Keeps source read (s.withLocale l) :=
  ⟨h.text, h.tiles, h.lists⟩

theorem next (h : Keeps source read s) (g : Grammar) (table : ι) :
    Keeps source (read ++ (s.next g table).answer.token?.toList) (s.next g table).scanner := by
  have form := nextStep g s table
  generalize s.next g table = step at form ⊢
  cases form with
  | failed | finished | halted =>
    change Keeps source (read ++ []) _
    rw [List.append_nil]
    exact ⟨h.text, h.tiles, h.lists⟩
  | @read l _ _ taken =>
    have whole := (Grammar.lexeme?_eq_some taken).2
    rw [Outcome.token?_token, Option.toList_some]
    refine ⟨?_, ?_, ?_⟩
    · rw [h.text]
      simpa [textOf, after, Lexeme.token] using whole
    · refine Tiles.append_iff.2 ⟨s.offset, h.tiles, rfl, ?_⟩
      rw [Lexeme.stop_token]
      simp [Tiles, offset, after]
    · simp [after, Lexeme.tokens, h.lists]

theorem invariant (source : String) (g : Grammar) : Invariant ι g (Keeps source) where
  next h table := h.next g table
  withLocale h l := h.withLocale l

theorem takeTurns (g : Grammar) (turns : List (Call × ι)) :
    Keeps source (tokensReported g turns (.ofText source)) (takeTurns g turns (.ofText source)) :=
  (invariant source g).takeTurns [] (ofText source) turns

theorem sourceSize_eq (h : Keeps source read s) : s.sourceSize = source.utf8ByteSize := by
  have bytes := Text.utf8ByteSize_ofList source.toList
  rw [String.ofList_toList, h.text, Text.byteCount_append] at bytes
  rw [bytes, sourceSize, h.tiles.high_eq, Nat.zero_add]

/-! ## Recorded tokens and what is between them -/

theorem all_eq (h : Keeps source read s) : s.lists.all.toList = read.filter (!·.isSkip) := by
  rw [h.lists, TokenLists.all_of_pushes]

theorem between?_token (h : Keeps source read s) {t : Token} (mem : t ∈ s.lists.all) :
    Text.between? source.toList t.position.offset t.stop = some t.text.toList := by
  have mem : t ∈ read := by
    rw [← Array.mem_toList_iff, h.all_eq] at mem
    exact (List.mem_filter.1 mem).1
  obtain ⟨before, behind, rfl⟩ := List.append_of_mem mem
  obtain ⟨middle, first, here, tail⟩ := Tiles.append_iff.1 h.tiles
  have one : Tiles middle [t] t.stop := ⟨here, rfl⟩
  have cut : source.toList = textOf (before ++ [t] ++ behind) ++ s.rest := by
    rw [h.text, List.append_assoc, List.singleton_append]
  rw [here, first.between?_eq cut one, textOf, List.flatMap_singleton]

theorem gap (h : Keeps source read s) {before behind : List Token} {t u : Token}
    (row : s.lists.all.toList = before ++ t :: u :: behind) :
    t.stop ≤ u.position.offset ∧
      ∃ gap, t :: gap ++ [u] <:+: read ∧ (∀ x ∈ gap, x.isSkip) ∧
        Text.between? source.toList t.stop u.position.offset = some (textOf gap) := by
  rw [h.all_eq] at row
  obtain ⟨front, others, rfl, -, row⟩ := List.filter_eq_append_iff.1 row
  obtain ⟨first, others, rfl, -, -, row⟩ := List.filter_eq_cons_iff.1 row
  obtain ⟨gap, last, rfl, skipped, -, -⟩ := List.filter_eq_cons_iff.1 row
  have skipped : ∀ x ∈ gap, x.isSkip := by
    intro x mem
    simpa using skipped x mem
  -- The row of all that is read, cut before the first of the two, between them and before the second.
  obtain ⟨_, before, tail⟩ := Tiles.append_iff.1 h.tiles
  obtain ⟨low, before', here, tail⟩ := Tiles.append_iff.1 tail
  obtain ⟨high, between, here', -⟩ := Tiles.append_iff.1 tail
  have cut : source.toList = textOf ((front ++ first ++ [t]) ++ gap ++ (u :: last)) ++ s.rest := by
    rw [h.text]
    simp
  have upTo : Tiles 0 (front ++ first ++ [t]) t.stop := by
    rw [List.append_assoc]
    exact Tiles.append_iff.2 ⟨_, before, Tiles.append_iff.2 ⟨low, before', here, rfl⟩⟩
  have within : Tiles t.stop gap u.position.offset := here' ▸ between
  refine ⟨within.le, gap, ⟨front ++ first, last, ?_⟩, skipped, upTo.between?_eq cut within⟩
  simp

end Keeps

/-- Tokens pushed one after another make up the list of all tokens, without those to skip, and the
lists of the classes are what it has of each class. So a scan, whatever its history, has recorded what
it has read without what it skipped; what a call reads are the tokens that `next` gives in it. Each
recorded token is the text at its place, and of two in a row the second starts where the skipped tokens
behind the first stop. -/
theorem lists_partition_tokens :
    (∀ ts : List Token,
      let l := ts.foldl TokenLists.push .empty
      l.all.toList = ts.filter (!·.isSkip) ∧
      (∀ c, c ≠ .skip → (l.ofClass c).toList = l.all.toList.filter (·.tokenClass = c)) ∧
      l.ofClass .skip = #[] ∧
      l.keywords.size + l.operators.size + l.identifiers.size + l.constants.size +
        l.punctuation.size = l.size) ∧
    ∀ (g : Grammar) (source : String) (history : List (Call × ι)),
      let now := takeTurns g history (ofText source)
      let read := tokensReported g history (ofText source)
      now.lists = read.foldl TokenLists.push .empty ∧
      now.lists.all.toList = read.filter (!·.isSkip) ∧
      ((∀ table : ι, Call.next.read g (now, table) = (now.next g table).answer.token?.toList) ∧
        ∀ (c : Call) (table : ι), ∃ k l,
          c.perform g (now, table) =
              ((calls g k now table).scanner.withLocale l, (calls g k now table).table) ∧
            c.read g (now, table) = tokensRead g k now table) ∧
      (∀ t ∈ now.lists.all,
        Text.between? source.toList t.position.offset t.stop = some t.text.toList) ∧
      ∀ before t u behind, now.lists.all.toList = before ++ t :: u :: behind →
        t.stop ≤ u.position.offset ∧
          ∃ gap, t :: gap ++ [u] <:+: read ∧ (∀ x ∈ gap, x.isSkip) ∧
            Text.between? source.toList t.stop u.position.offset = some (textOf gap) := by
  constructor
  · intro ts l
    refine ⟨TokenLists.all_of_pushes ts, ?_, rfl, TokenLists.size_of_pushes ts⟩
    intro c recorded
    exact TokenLists.ofClass_of_pushes ts recorded
  · intro g source history now read
    have keeps : Keeps source read now := Keeps.takeTurns g history
    refine ⟨keeps.lists, keeps.all_eq, ⟨?_, ?_⟩, ?_, ?_⟩
    · intro table
      exact tokensOf_next table g now
    · intro c table
      exact exists_calls_perform table c now
    · intro t mem
      exact keeps.between?_token mem
    · intro before t u behind row
      exact keeps.gap row

end Scanner

end GoScan
