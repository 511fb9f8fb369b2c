import GoScan.Proofs.Pattern.Enclosing
import GoScan.Proofs.Scan.LiteralEntries

/-!
# Patterns are bound to the start by what is written around them

The pattern of an entry is put into a group, as it is written, with the start of the text required in
front. For a text that is a pattern by itself this is the same pattern bound to the start. But a text with a
bracket too many can close the group, and what follows is then not bound to the start.

* `Definition.compile_of_standsAlone`, `Definition.compile_of_not_standsAlone`: what becomes of a definition;
* `Definition.compile_ok_iff`: when it is accepted;
* `Grammar.compile_ok_iff`, `Grammar.compile_of_first_error`: a table is accepted entry by entry;
* `patterns_anchored`: so unless there is a bracket too many, what an entry takes is what its own pattern
  finds, and that is at the start.

All of this is so for every `PatternLibrary`: whatever properties are known, and in whatever words a pattern
is refused.
-/

namespace GoScan

/-- The entry of a match finds the span. -/
theorem Grammar.entry_of_match? {g : Grammar} {text : List Char} {m : Match} (found : g.match? text = some m) :
    m.entry ∈ g.entries ∧ m.entry.compiled.find? text = some m.span := by
  rw [match?_eq_findSome?] at found
  obtain ⟨e, listed, taken⟩ := List.exists_of_findSome?_eq_some found
  obtain ⟨span, took, rfl⟩ := Option.map_eq_some_iff.1 taken
  exact ⟨listed, (Option.filter_eq_some_iff.1 (Option.filter_eq_some_iff.1 took).1).1⟩

/-- A pattern bound to the start finds what the pattern finds there, if anything. -/
theorem Pattern.find?_of_anchored {q : Pattern} {text : List Char} {span : Span}
    (found : (cat (anchor .textStart) q).find? text = some span) :
    span.start = 0 ∧ q.find? text = some span := by
  rw [find?_anchored] at found
  obtain ⟨n, here, rfl⟩ := Option.map_eq_some_iff.1 found
  refine ⟨rfl, ?_⟩
  have first : Thread.span? none 0 text ⟨0, [q]⟩ = some ⟨0, n⟩ := by
    simp [Thread.span?, here]
  rw [find?_eq_firstStart?]
  cases text with
  | nil => exact first
  | cons c cs => rw [firstStart?, first, Option.some_or]

section

variable [PatternLibrary]

namespace Definition

variable {d : Definition} {p : Piece}

/-- The pattern does not have a closing bracket too many. -/
def Paired (d : Definition) : Prop := Piece.read d.pattern.toList ≠ .error .unopenedGroup

instance (d : Definition) : Decidable d.Paired :=
  match h : Piece.read d.pattern.toList with
  | .ok _ => isTrue (by simp [Paired, h])
  | .error e => decidable_of_iff (e ≠ .unopenedGroup) (by simp [Paired, h])

/-- The text of the definition is a pattern by itself, and it is one in a group: its end is not inside of a
comment, and the whole is within the limits. -/
structure StandsAlone (d : Definition) (p : Piece) : Prop where
  own : Piece.read d.pattern.toList = .ok p
  shut : Piece.read (d.pattern.toList ++ [')']) = .error .unopenedGroup
  shallow : p.depth + 2 ≤ Pattern.maxDepth
  small : (Outline.cat [.anchor .textStart, p.outline]).fits

/-- What becomes of the definition, by what is read of its pattern in a group. -/
def made (d : Definition) : Except PatternError Piece → Except Failure Entry
  | .error e => .error (d.refusal e)
  | .ok p =>
    if Pattern.maxDepth < p.depth then .error (d.refusal .tooDeep)
    else if p.outline.fits then .ok { d with compiled := p.outline.pattern }
    else .error (d.refusal .tooLarge)

theorem compile_eq (d : Definition) :
    d.compile = d.made (Piece.read (Pattern.anchored d.pattern.toList)) := by
  rw [compile, Pattern.read, Outline.read_eq]
  cases Piece.read (Pattern.anchored d.pattern.toList) with
  | error e => rfl
  | ok p =>
    simp only [made]
    by_cases deep : Pattern.maxDepth < p.depth
    · simp only [deep, if_true]
    · by_cases small : p.outline.fits
      · simp only [deep, small, if_false, if_true]
      · simp only [deep, small, if_false, Bool.false_eq_true]

/-- A pattern that stands alone is accepted, and it is bound to the start. -/
theorem compile_of_standsAlone (alone : d.StandsAlone p) :
    d.compile = .ok { d with compiled := .cat (.anchor .textStart) p.outline.pattern } := by
  rcases Piece.read_anchored_of_ok alone.own with ⟨-, inGroup⟩ | ⟨swallowed, -⟩
  · have shallow : ¬Pattern.maxDepth < p.depth + 2 := Nat.not_lt.2 alone.shallow
    rw [compile_eq, inGroup, made]
    simp only [shallow, alone.small, if_false, if_true]
    rfl
  · rw [alone.shut] at swallowed
    cases swallowed

/-- Else it is refused, unless it has a bracket too many. -/
theorem compile_of_not_standsAlone (paired : d.Paired) (other : ∀ p, ¬d.StandsAlone p) :
    ∃ e, d.compile = .error (d.refusal e) := by
  cases own : Piece.read d.pattern.toList with
  | error e =>
    have unpaired : e ≠ .unopenedGroup := by
      rintro rfl
      exact paired own
    obtain ⟨e', inGroup⟩ := Piece.read_anchored_of_error own unpaired
    exact ⟨_, by rw [compile_eq, inGroup, made]⟩
  | ok p =>
    rcases Piece.read_anchored_of_ok own with ⟨shut, inGroup⟩ | ⟨-, unclosed⟩
    · rw [compile_eq, inGroup, made]
      by_cases shallow : Pattern.maxDepth < p.depth + 2
      · exact ⟨_, if_pos shallow⟩
      · have large : ¬(Outline.cat [.anchor .textStart, p.outline]).fits := by
          intro small
          exact other p ⟨own, shut, Nat.not_lt.1 shallow, small⟩
        simp only [shallow, large, if_false]
        exact ⟨_, rfl⟩
    · exact ⟨_, by rw [compile_eq, unclosed, made]⟩

/-- Without a bracket too many, exactly the patterns that stand alone are accepted. -/
theorem compile_ok_iff (paired : d.Paired) : (∃ e, d.compile = .ok e) ↔ ∃ p, d.StandsAlone p := by
  constructor
  · rintro ⟨e, accepted⟩
    by_contra other
    obtain ⟨e', refused⟩ := compile_of_not_standsAlone paired (not_exists.1 other)
    rw [refused] at accepted
    cases accepted
  · rintro ⟨p, alone⟩
    exact ⟨_, compile_of_standsAlone alone⟩

end Definition

namespace Grammar

variable {ds : List Definition} {g : Grammar}

/-- A table is accepted entry by entry. -/
theorem compile_ok_iff : (∃ g, compile ds = .ok g) ↔ ∀ d ∈ ds, ∃ e, d.compile = .ok e := by
  induction ds with
  | nil => simp [compile_nil]
  | cons d ds ih =>
    rw [List.forall_mem_cons, ← ih, compile_cons]
    cases d.compile with
    | error f => simp
    | ok e => cases compile ds <;> simp [Except.map]

-- A property that is known, behind a word boundary of ASCII.
example :
    letI : PatternLibrary :=
      ⟨fun written => if written = "Greek".toList then some (.range 'α' 'ω') else none, fun _ _ => ""⟩
    (compile [⟨"word", "(?-u:\\b)\\p\x7bGreek\x7d+", .id⟩]).isOk := by decide +kernel

/-- The first definition that is refused is reported. -/
theorem compile_of_first_error {before behind : List Definition} {d : Definition} {f : Failure}
    (accepted : ∀ b ∈ before, ∃ e, b.compile = .ok e) (refused : d.compile = .error f) :
    compile (before ++ d :: behind) = .error f := by
  induction before with
  | nil => rw [List.nil_append, compile_cons, refused]
  | cons b before ih =>
    obtain ⟨⟨e, first⟩, others⟩ := List.forall_mem_cons.1 accepted
    rw [List.cons_append, compile_cons, first, ih others]
    rfl

end Grammar

/-- Whatever properties the library knows, a table of definitions none of which has a bracket too many is
accepted exactly if each of the patterns stands alone, and else the first that does not is reported. Whatever
table is accepted, an entry without a bracket too many takes what its own pattern finds in the text, and it
is found at the start. -/
theorem patterns_anchored (ds : List Definition) :
    ((∀ d ∈ ds, d.Paired) →
      ((∃ g, Grammar.compile ds = .ok g) ↔ ∀ d ∈ ds, ∃ p, d.StandsAlone p) ∧
      ∀ (before : List Definition) (d : Definition) (behind : List Definition),
        ds = before ++ d :: behind → (∀ b ∈ before, ∃ p, b.StandsAlone p) → (∀ p, ¬d.StandsAlone p) →
        ∃ why, Grammar.compile ds = .error ⟨.invalidPattern d.name why, .null⟩) ∧
    ∀ g, Grammar.compile ds = .ok g → ∀ text m, g.match? text = some m →
      m.entry.toDefinition ∈ ds ∧ (m.entry.toDefinition.Paired → m.span.start = 0 ∧
        ∃ p, m.entry.toDefinition.StandsAlone p ∧ p.outline.pattern.find? text = some m.span) := by
  refine ⟨fun paired => ⟨?_, ?_⟩, ?_⟩
  · rw [Grammar.compile_ok_iff]
    exact forall₂_congr fun d mem => Definition.compile_ok_iff (paired d mem)
  · rintro before d behind rfl alone other
    have d_paired := paired d (List.mem_append_right before List.mem_cons_self)
    obtain ⟨e, refused⟩ := Definition.compile_of_not_standsAlone d_paired other
    refine ⟨_, Grammar.compile_of_first_error ?_ refused⟩
    intro b mem
    obtain ⟨p, b_alone⟩ := alone b mem
    exact ⟨_, Definition.compile_of_standsAlone b_alone⟩
  · intro g accepted text m found
    obtain ⟨listed, here⟩ := Grammar.entry_of_match? found
    obtain ⟨d, mem, compiled⟩ := Grammar.exists_definition accepted listed
    rw [Definition.toDefinition_of_compile compiled]
    refine ⟨mem, fun paired => ?_⟩
    obtain ⟨p, alone⟩ := (Definition.compile_ok_iff paired).1 ⟨_, compiled⟩
    have entry : m.entry = { d with compiled := .cat (.anchor .textStart) p.outline.pattern } := by
      rw [Definition.compile_of_standsAlone alone] at compiled
      exact (Except.ok.inj compiled).symm
    rw [entry] at here
    obtain ⟨start, own⟩ := Pattern.find?_of_anchored here
    exact ⟨start, p, alone, own⟩

end

/-- A choice is bound to the start as a whole. A pattern that ends with a comment is reported. -/
theorem patterns_anchored_choice :
    let choice : Definition := ⟨"w", "a|ab", .id⟩
    let comment : Definition := ⟨"x", "(?x)a # c", .id⟩
    ∃ g m, Grammar.compile [choice] = .ok g ∧ g.match? "abc".toList = some m ∧ m.span.start = 0 ∧
      (∃ p, choice.StandsAlone p ∧ p.outline.pattern.find? "abc".toList = some m.span) ∧
      ∃ why, Grammar.compile [choice, comment] = .error ⟨.invalidPattern "x" why, .null⟩ := by
  intro choice comment
  let g : Grammar := (Grammar.compile [choice]).toOption.getD ⟨[]⟩
  have accepted : Grammar.compile [choice] = .ok g := by decide +kernel
  have paired : ∀ d ∈ [choice, comment], d.Paired := by decide +kernel
  have choice_paired : ∀ d ∈ [choice], d.Paired := by decide +kernel
  obtain ⟨tables, -⟩ := patterns_anchored [choice, comment]
  obtain ⟨single, matches_⟩ := patterns_anchored [choice]
  have alone : ∀ b ∈ [choice], ∃ p, b.StandsAlone p := (single choice_paired).1.1 ⟨g, accepted⟩
  have swallowed : (⟨"x", "(?x)a # c)", .id⟩ : Definition).Paired := by decide +kernel
  have behind : comment.pattern.toList ++ [')'] = "(?x)a # c)".toList := by decide
  have other (p : Piece) : ¬comment.StandsAlone p := by
    intro stands
    have shut := stands.shut
    rw [behind] at shut
    exact swallowed shut
  have reported := (tables paired).2 [choice] comment [] rfl alone other
  obtain ⟨m, found⟩ := Option.isSome_iff_exists.1
    (show (g.match? "abc".toList).isSome by decide +kernel)
  have entry : ((g.match? "abc".toList).map fun m => m.entry.toDefinition) = some choice := by
    decide +kernel
  rw [found] at entry
  have same : m.entry.toDefinition = choice := Option.some.inj entry
  obtain ⟨-, anchored⟩ := matches_ g accepted _ m found
  rw [same] at anchored
  obtain ⟨start, own⟩ := anchored (choice_paired choice List.mem_cons_self)
  exact ⟨g, m, accepted, found, start, own, reported⟩

/-- A bracket too many closes the group, and what follows is found anywhere. So a text can be accepted that
is no pattern by itself. And one that is can be refused, for a comment at its end takes the bracket. -/
theorem not_patterns_anchored :
    (¬∀ (ds : List Definition) (g : Grammar) (text : List Char) (m : Match),
      Grammar.compile ds = .ok g → g.match? text = some m → m.span.start = 0) ∧
    (¬∀ d : Definition, (∃ e, d.compile = .ok e) → ∃ q, Pattern.read d.pattern.toList = .ok q) ∧
    ¬∀ (d : Definition) (q : Pattern), Pattern.read d.pattern.toList = .ok q → ∃ e, d.compile = .ok e := by
  refine ⟨?_, ?_, ?_⟩
  · intro anchored
    let ds : List Definition := [⟨"x", "a)|(?:b", .id⟩]
    let g : Grammar := (Grammar.compile ds).toOption.getD ⟨[]⟩
    have accepted : Grammar.compile ds = .ok g := by decide +kernel
    have found : g.match? "cb".toList = some ⟨g.entries.head (by decide +kernel), ⟨1, 2⟩⟩ := by
      decide +kernel
    exact absurd (anchored ds g _ _ accepted found) (by decide)
  · intro own
    let d : Definition := ⟨"x", "a)|(?:b", .id⟩
    have accepted : d.compile.isOk := by decide +kernel
    have refused : Pattern.read d.pattern.toList = .error .unopenedGroup := by decide +kernel
    cases made : d.compile with
    | error f =>
      rw [made] at accepted
      cases accepted
    | ok e =>
      obtain ⟨q, read⟩ := own d ⟨e, made⟩
      rw [refused] at read
      cases read
  · intro accepted
    let d : Definition := ⟨"x", "(?x)a # c", .id⟩
    let q : Pattern := .set (.single 'a')
    have read : Pattern.read d.pattern.toList = .ok q := by decide +kernel
    have refused : d.compile.isOk = false := by decide +kernel
    obtain ⟨e, made⟩ := accepted d q read
    rw [made] at refused
    cases refused

end GoScan
