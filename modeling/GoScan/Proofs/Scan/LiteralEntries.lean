import GoScan.Proofs.Go.WordEnds
import GoScan.Proofs.Ident.Sharing
import GoScan.Proofs.Pattern.LiteralSize

/-!
# An entry for a text takes that text and nothing else

* `Definition.compile_literal`: the entry for a text is accepted unless the text is too long;
* `Grammar.match?_literal_iff`: where it matches, and how far;
* `Grammar.exists_definition`: the entries of a table are its definitions, each accepted by itself;
* `literals_exact`: so in a run over any table, whatever its other entries are, a token that such an entry
  took is labelled with its text.
-/

namespace GoScan

open Text (byteCount)
open Scanner (ofText)

variable {s : String} {k : TokenClass} {text : List Char} {g : Grammar} {l : Lexeme}

theorem Entry.take?_literal : (Go.literal s k).take? text =
    ((Go.literal s k).length? text).map fun n => ⟨0, n⟩ := take?_eq rfl

/-- Where the table of one such entry matches. -/
theorem Grammar.match?_literal_iff {m : Match} :
    (⟨[Go.literal s k]⟩ : Grammar).match? text = some m ↔
      m = ⟨Go.literal s k, ⟨0, s.length⟩⟩ ∧ s ≠ "" ∧ s.toList <+: text ∧
        (k.needsBoundary → atBoundary (text.drop s.length)) := by
  have nonempty : s.length ≠ 0 ↔ s ≠ "" := by simp
  have only : (⟨[Go.literal s k]⟩ : Grammar).match? text =
      ((Go.literal s k).length? text).map fun n => ⟨Go.literal s k, ⟨0, n⟩⟩ := by
    rw [Grammar.match?_eq_findSome?, List.findSome?_singleton, Entry.take?_literal, Option.map_map]
    rfl
  rw [only, Option.map_eq_some_iff]
  constructor
  · rintro ⟨n, found, rfl⟩
    obtain ⟨front, rfl, some_taken, ends⟩ := Go.length?_literal.1 found
    rw [String.length_toList] at some_taken ends
    exact ⟨by rw [String.length_toList], nonempty.1 some_taken, front, ends⟩
  · rintro ⟨rfl, some_there, front, ends⟩
    exact ⟨s.length, Go.length?_literal.2 ⟨front, String.length_toList.symm, nonempty.2 some_there, ends⟩, rfl⟩

/-- What the first entry that matches takes is the text up to the end of its span. -/
theorem Grammar.take?_of_lexeme? (h : g.lexeme? text = some l) :
    ∃ span, l.entry.take? text = some span ∧ l.chars = text.take span.stop := by
  obtain ⟨m, found, rfl⟩ := Option.map_eq_some_iff.1 h
  rw [Grammar.match?_eq_findSome?] at found
  obtain ⟨e, -, taken⟩ := List.exists_of_findSome?_eq_some found
  obtain ⟨span, here, rfl⟩ := Option.map_eq_some_iff.1 taken
  exact ⟨span, here, rfl⟩

theorem Scans.exists_lexeme? {rest : List Char} {ls : List Lexeme} (h : Scans g text ls rest) :
    ∀ l ∈ ls, ∃ here, g.lexeme? here = some l := by
  induction h with
  | done => simp
  | next taken _ ih => exact List.forall_mem_cons.2 ⟨⟨_, taken⟩, ih⟩

section

variable [PatternLibrary]

namespace Definition

/-- The entry for a text is accepted if the text is not too long, and else refused for its size. -/
theorem compile_literal (s : String) (k : TokenClass) : (Definition.literal s k).compile =
    if byteCount s.toList ≤ literalLimit then .ok (Go.literal s k)
    else .error ((Definition.literal s k).refusal .tooLarge) := by
  have written : (Definition.literal s k).pattern.toList = Escape.literal s.toList := String.toList_ofList
  have fits := Outline.fits_literal_iff s.toList
  rw [compile, written, Pattern.read, Outline.read_literal]
  by_cases small : byteCount s.toList ≤ literalLimit
  · rw [if_pos small]
    simp only [fits.2 small, if_true, Pattern.pattern_literal]
    rfl
  · rw [if_neg small]
    simp only [mt fits.1 small, Bool.false_eq_true, if_false]

theorem eq_of_compile_literal {e : Entry} (accepted : (Definition.literal s k).compile = .ok e) :
    e = Go.literal s k := by
  rw [compile_literal] at accepted
  split at accepted
  · exact (Except.ok.inj accepted).symm
  · cases accepted

/-- What is accepted is the definition with its pattern. -/
theorem toDefinition_of_compile {d : Definition} {e : Entry} (h : d.compile = .ok e) :
    e.toDefinition = d := by
  rw [compile] at h
  split at h
  · rw [← Except.ok.inj h]
  · cases h

end Definition

namespace Grammar

theorem compile_nil : compile [] = .ok ⟨[]⟩ := rfl

theorem compile_cons (d : Definition) (ds : List Definition) : compile (d :: ds) =
    match d.compile with
    | .error f => .error f
    | .ok e => (compile ds).map fun g => ⟨e :: g.entries⟩ := by
  rw [compile, compile, List.mapM_cons]
  cases d.compile with
  | error f => rfl
  | ok e => cases ds.mapM Definition.compile <;> rfl

theorem compile_single (d : Definition) : compile [d] = d.compile.map fun e => ⟨[e]⟩ := by
  rw [compile_cons, compile_nil]
  cases d.compile <;> rfl

/-- The entries of a table are its definitions, each accepted by itself. -/
theorem exists_definition {ds : List Definition} (accepted : compile ds = .ok g) {e : Entry}
    (mem : e ∈ g.entries) : ∃ d ∈ ds, d.compile = .ok e := by
  induction ds generalizing g with
  | nil =>
    rw [compile_nil] at accepted
    cases accepted
    exact absurd mem List.not_mem_nil
  | cons d ds ih =>
    rw [compile_cons] at accepted
    cases first : d.compile with
    | error f =>
      rw [first] at accepted
      cases accepted
    | ok e' =>
      rw [first] at accepted
      cases others : compile ds with
      | error f =>
        rw [others] at accepted
        cases accepted
      | ok g' =>
        rw [others] at accepted
        cases accepted
        rcases List.mem_cons.1 mem with rfl | behind
        · exact ⟨d, List.mem_cons_self, first⟩
        · obtain ⟨d', inside, here⟩ := ih others behind
          exact ⟨d', List.mem_cons_of_mem d inside, here⟩

/-- An entry for a text in an accepted table is what the definition of that entry makes. -/
theorem compile_of_literal {ds : List Definition} (accepted : compile ds = .ok g) {e : Entry}
    (mem : e ∈ g.entries) (same : e.toDefinition = .literal s k) :
    (Definition.literal s k).compile = .ok e := by
  obtain ⟨d, -, compiled⟩ := exists_definition accepted mem
  rw [← same, Definition.toDefinition_of_compile compiled]
  exact compiled

/-- An entry for a text takes that text. -/
theorem chars_of_literal (taken : g.lexeme? text = some l)
    (own : (Definition.literal s k).compile = .ok l.entry) : l.chars = s.toList := by
  obtain ⟨span, here, chars⟩ := take?_of_lexeme? taken
  rw [Definition.eq_of_compile_literal own, Entry.take?_literal] at here
  obtain ⟨n, found, rfl⟩ := Option.map_eq_some_iff.1 here
  obtain ⟨front, length, -, -⟩ := Go.length?_literal.1 found
  rw [chars, length]
  exact (List.prefix_iff_eq_take.1 front).symm

end Grammar

/-- In a run over any table, a token that an entry for a text took, other than for identifiers, is labelled
with its own text. -/
theorem Scanner.Reads.literals_labelled {source : String} {read : List Token} {now : Scanner}
    (h : Scanner.Reads g source read now) :
    ∃ ls, Scans g source.toList ls now.rest ∧ List.Forall₂ (fun l t => l.Yields t ∧
      ∀ s k, (Definition.literal s k).compile = .ok l.entry → k ≠ .id → t.text = t.kind) ls read := by
  obtain ⟨ls, scans, yields⟩ := h
  have both := (List.forall₂_and_left ls read).2 ⟨scans.exists_lexeme?, yields⟩
  refine ⟨ls, scans, both.imp ?_⟩
  rintro l t ⟨⟨here, taken⟩, yield⟩
  refine ⟨yield, ?_⟩
  intro s k own other
  have entry := Definition.eq_of_compile_literal own
  have tokenClass : l.entry.tokenClass = k := congrArg (·.tokenClass) entry
  have name : l.entry.name = s := congrArg (·.name) entry
  have text : t.text = s := by
    rw [← String.toList_inj, yield.text]
    exact Grammar.chars_of_literal taken own
  rw [yield.kind (tokenClass ▸ other), name, text]

theorem Grammar.compile_literal_of_large (large : literalLimit < byteCount s.toList) (k : TokenClass) :
    ∃ why, compile [.literal s k] = .error ⟨.invalidPattern s why, .null⟩ := by
  rw [compile_single, Definition.compile_literal, if_neg (Nat.not_le.2 large)]
  exact ⟨_, rfl⟩

variable {ι : Type} [Interner ι]

/-- A text of at most `literalLimit` bytes, whatever its characters, gives an entry that matches where a text
begins with it, and no word goes on behind it if the class asks for that; the match is that text. A longer
one is refused. In every run over every table, whatever its other entries are, a token that such an entry
took, other than for identifiers, is labelled with its own text. -/
theorem literals_exact :
    (∀ (s : String) (k : TokenClass), byteCount s.toList ≤ literalLimit →
      ∃ e : Entry, e.toDefinition = .literal s k ∧ Grammar.compile [.literal s k] = .ok ⟨[e]⟩ ∧
        ∀ (text : List Char) (m : Match), (⟨[e]⟩ : Grammar).match? text = some m ↔
          m = ⟨e, ⟨0, s.length⟩⟩ ∧ s ≠ "" ∧ s.toList <+: text ∧
            (k.needsBoundary → atBoundary (text.drop s.length))) ∧
    (∀ (s : String) (k : TokenClass), literalLimit < byteCount s.toList →
      ∃ why, Grammar.compile [.literal s k] = .error ⟨.invalidPattern s why, .null⟩) ∧
    (∀ (ds : List Definition) (g : Grammar), Grammar.compile ds = .ok g → ∀ e ∈ g.entries,
      ∀ s k, e.toDefinition = .literal s k → (Definition.literal s k).compile = .ok e) ∧
    ∀ (g : Grammar) (source : String) (history : List (Call × ι)),
      ∃ ls, Scans g source.toList ls (takeTurns g history (ofText source)).rest ∧
        List.Forall₂ (fun l t => l.Yields t ∧
          ∀ s k, (Definition.literal s k).compile = .ok l.entry → k ≠ .id → t.text = t.kind)
          ls (tokensReported g history (ofText source)) := by
  refine ⟨?_, fun s k large => Grammar.compile_literal_of_large large k, ?_, ?_⟩
  · intro s k small
    refine ⟨Go.literal s k, rfl, ?_, fun text m => Grammar.match?_literal_iff⟩
    rw [Grammar.compile_single, Definition.compile_literal, if_pos small]
    rfl
  · intro ds g accepted e mem s k same
    exact Grammar.compile_of_literal accepted mem same
  · intro g source history
    exact (Scanner.Reads.takeTurns g source history).literals_labelled

end

theorem large_replicate : literalLimit < byteCount (String.ofList (List.replicate 330000 'a')).toList := by
  have size : 'a'.utf8Size = 1 := rfl
  rw [String.toList_ofList, Text.byteCount_replicate, size, literalLimit]
  omega

/-- A text that means something as a pattern, and one that is too long. -/
theorem literals_exact_dot :
    (byteCount "a.(".toList ≤ literalLimit ∧
      ∃ e, Grammar.compile [.literal "a.(" .keyword] = .ok ⟨[e]⟩ ∧
        (⟨[e]⟩ : Grammar).match? "a.( b".toList = some ⟨e, ⟨0, 3⟩⟩ ∧
        (⟨[e]⟩ : Grammar).match? "ab( b".toList = none ∧ (⟨[e]⟩ : Grammar).match? "a.(b".toList = none ∧
        (Definition.literal "a.(" .keyword).compile = .ok e ∧
        ∃ ls, Scans ⟨[e]⟩ "a.(".toList ls
            (takeTurns ⟨[e]⟩ [(.next, IdentTable.empty)] (ofText "a.(")).rest ∧
          List.Forall₂ (fun l t => l.Yields t ∧
            ∀ s k, (Definition.literal s k).compile = .ok l.entry → k ≠ .id → t.text = t.kind)
            ls (tokensReported ⟨[e]⟩ [(.next, IdentTable.empty)] (ofText "a.("))) ∧
    literalLimit < byteCount (String.ofList (List.replicate 330000 'a')).toList ∧
      ∃ why, Grammar.compile [.literal (String.ofList (List.replicate 330000 'a')) .operator] =
        .error ⟨.invalidPattern (String.ofList (List.replicate 330000 'a')) why, .null⟩ := by
  have small : byteCount "a.(".toList ≤ literalLimit := by decide
  obtain ⟨exact, tooLarge, own, labelled⟩ := literals_exact (ι := IdentTable)
  obtain ⟨e, same, accepted, matches_iff⟩ := exact "a.(" .keyword small
  have made := own _ _ accepted e List.mem_cons_self "a.(" .keyword same
  refine ⟨⟨small, e, accepted, ?_, ?_, ?_, made, labelled _ _ _⟩, large_replicate,
    tooLarge _ _ large_replicate⟩
  · exact (matches_iff _ _).2 ⟨rfl, by decide, ⟨" b".toList, rfl⟩, fun _ => by decide +kernel⟩
  · apply Option.eq_none_iff_forall_ne_some.2
    intro m found
    exact absurd ((matches_iff _ _).1 found).2.2.1 (by decide)
  · apply Option.eq_none_iff_forall_ne_some.2
    intro m found
    exact absurd (((matches_iff _ _).1 found).2.2.2 rfl) (by decide +kernel)

/-- Not every text gives a table. -/
theorem not_literal_accepted :
    ¬ ∃ g, Grammar.compile [.literal (String.ofList (List.replicate 330000 'a')) .operator] = .ok g := by
  rintro ⟨g, accepted⟩
  obtain ⟨why, refused⟩ := Grammar.compile_literal_of_large large_replicate .operator
  rw [refused] at accepted
  cases accepted

end GoScan
