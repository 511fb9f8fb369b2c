import GoScan.Proofs.Pattern.Definite

/-!
# Following a match by hand

Along a given text a match is followed from pattern to pattern: what one takes, the next begins behind.

* `Takes rest T a`: the patterns match `T` where `a` follows; one rule for each kind of pattern;
* `Refuses rest text`: they do not match there; likewise;
* `Takes.run`, `Refuses.run`: a greedy run takes all it can, and gives none of it back to what cannot
  begin inside it;
* `refuses_of_cannotBegin`: patterns do not match where none of them can begin with the next character.
-/

namespace GoScan

/-- What the next character of the text satisfies, if there is one. -/
def Next (q : Char → Bool) (text : List Char) : Prop := ∀ c ∈ text.head?, q c

section

variable {q q' : Char → Bool} {c : Char} {text more : List Char}

theorem next_nil (q : Char → Bool) : Next q [] := by
  intro c mem
  exact absurd mem.symm (Option.some_ne_none c)

@[simp] theorem next_cons : Next q (c :: text) ↔ q c := by
  simp [Next]

theorem Next.imp (h : Next q text) (imp : ∀ c, q c → q' c) : Next q' text :=
  fun c mem => imp c (h c mem)

/-- What does not satisfy the weaker condition does not satisfy the other. -/
theorem next_not (h : Next (!q' ·) text) (imp : ∀ c, q c → q' c) : Next (!q ·) text := by
  apply h.imp
  intro c outside
  cases here : q c with
  | false => rfl
  | true =>
    rw [imp c here] at outside
    exact outside

/-- The next character stands in the first part unless that is empty. -/
theorem next_append (first : ∀ c ∈ text, q c) (second : Next q more) : Next q (text ++ more) := by
  cases text with
  | nil => exact second
  | cons c text => exact next_cons.2 (first c List.mem_cons_self)

end

namespace CharSet

/-- All members of the set are seen to satisfy `q`. -/
def within (q : Char → Bool) (s : CharSet) : Bool :=
  s.listed?.any fun cs => cs.all fun c => !s.contains c || q c

theorem of_within {q : Char → Bool} {s : CharSet} {c : Char} (h : s.within q) (mem : s.contains c) :
    q c := by
  cases listed : s.listed? with
  | none => simp [within, listed] at h
  | some cs =>
    rw [within, listed, Option.any_some] at h
    have here := List.all_eq_true.1 h c (mem_of_listed? listed mem)
    simpa [mem] using here

theorem next_of_within {q : Char → Bool} {s : CharSet} {text : List Char} (h : s.within (!q ·))
    (next : Next q text) : Next (!s.contains ·) text := by
  intro c mem
  cases inside : s.contains c with
  | false => simp [inside]
  | true =>
    have outside := of_within h inside
    rw [next c mem] at outside
    exact absurd outside (by decide)

end CharSet

namespace Pattern

variable {rest : Rest} {p p' : Pattern} {s : CharSet} {c : Char} {T R a text : List Char}

/-- Where `a` follows, the preferred match is `T`, whatever stands before. -/
def Takes (rest : Rest) (T a : List Char) : Prop :=
  ∀ left, preferred? left rest (T ++ a) = some T.length

/-- There is no match, whatever stands before. -/
def Refuses (rest : Rest) (text : List Char) : Prop :=
  ∀ left, preferred? left rest text = none

/-! ## Where nothing can begin -/

/-- The patterns are seen not to begin with a character that satisfies `q`, nor to match without
reading. -/
def cannotBegin (q : Char → Bool) (rest : Rest) : Bool :=
  rest.all (·.eachSet fun _ => true) && !(openings rest).passes &&
    (openings rest).branches.all fun b => b.set.within fun c => !q c

theorem refuses_of_cannotBegin {q : Char → Bool} (h : cannotBegin q rest) (next : Next q text) :
    Refuses rest text := by
  simp only [cannotBegin, Bool.and_eq_true, Bool.not_eq_true', List.all_eq_true] at h
  obtain ⟨⟨plain, passes⟩, apart⟩ := h
  intro left
  apply Option.eq_none_iff_forall_ne_some.2
  intro n found
  rw [preferred?_eq_openings (f := fun _ => true) (List.all_eq_true.2 plain),
    Lead.first?_of_not_passes passes none] at found
  obtain ⟨b, mem, read⟩ := (Lead.of_first?_eq_some found).resolve_left (by simp)
  cases text with
  | nil => simp at read
  | cons c text =>
    have inside := (Branch.preferred?_cons_eq_some.1 read).1
    have outside := CharSet.of_within (apart b (Lead.mem_branches.2 mem)) inside
    rw [next_cons.1 next] at outside
    exact absurd outside (by decide)

/-! ## What is taken -/

namespace Takes

theorem nil (a : List Char) : Takes [] [] a := fun _ => preferred?_nil

theorem cat (h : Takes (p :: p' :: rest) T a) : Takes (cat p p' :: rest) T a := by
  intro left
  rw [preferred?_cat, h]

theorem set (inside : s.contains c) (h : Takes rest T a) : Takes (set s :: rest) (c :: T) a := by
  intro left
  rw [List.cons_append, preferred?_set_cons, if_pos inside, h]
  rfl

theorem first (h : Takes (p :: rest) T a) : Takes (alt p p' :: rest) T a := by
  intro left
  rw [preferred?_alt, h, Option.some_or]

theorem second (no : Refuses (p :: rest) (T ++ a)) (h : Takes (p' :: rest) T a) :
    Takes (alt p p' :: rest) T a := by
  intro left
  rw [preferred?_alt, no, h, Option.none_or]

theorem option (h : Takes (p :: rest) T a) : Takes (optional true p :: rest) T a := h.first

theorem skip (no : Refuses (p :: rest) (T ++ a)) (h : Takes rest T a) :
    Takes (optional true p :: rest) T a := by
  refine second no fun left => ?_
  rw [preferred?_empty, h]

/-- A greedy run takes all it can. -/
theorem run (inside : ∀ c ∈ R, s.contains c) (ends : Next (!s.contains ·) (T ++ a))
    (h : Takes rest T a) : Takes (star true (.set s) :: rest) (R ++ T) a := by
  induction R with
  | nil =>
    intro left
    have stop : preferred? left (.set s :: star true (.set s) :: rest) (T ++ a) = none := by
      cases more : T ++ a with
      | nil => rfl
      | cons c cs =>
        have outside : s.contains c = false := by
          rw [more, next_cons] at ends
          simpa using ends
        rw [preferred?_set_cons, outside]
        rfl
    rw [preferred?_star_greedy rfl, List.nil_append, stop, h, Option.none_or]
  | cons c R ih =>
    intro left
    have further := ih fun d mem => inside d (List.mem_cons_of_mem c mem)
    rw [preferred?_star_greedy rfl, List.cons_append,
      (Takes.set (inside c List.mem_cons_self) further) left, Option.some_or]

theorem plus (nonempty : R ≠ []) (inside : ∀ c ∈ R, s.contains c) (ends : Next (!s.contains ·) (T ++ a))
    (h : Takes rest T a) : Takes (plus true (.set s) :: rest) (R ++ T) a := by
  cases R with
  | nil => exact absurd rfl nonempty
  | cons c R =>
    intro left
    have further := run (fun d mem => inside d (List.mem_cons_of_mem c mem)) ends h
    rw [preferred?_plus rfl]
    exact Takes.set (inside c List.mem_cons_self) further left

theorem last_plus (nonempty : R ≠ []) (inside : ∀ c ∈ R, s.contains c) (ends : Next (!s.contains ·) a) :
    Takes [Pattern.plus true (.set s)] R a := by
  have whole := Takes.plus (T := []) nonempty inside ends (.nil a)
  rwa [List.append_nil] at whole

end Takes

/-! ## What is refused -/

namespace Refuses

theorem cat (h : Refuses (p :: p' :: rest) text) : Refuses (cat p p' :: rest) text := by
  intro left
  rw [preferred?_cat, h]

/-- The pattern refuses the character. -/
theorem set_head (outside : Next (!s.contains ·) text) : Refuses (set s :: rest) text := by
  intro left
  cases text with
  | nil => rfl
  | cons c cs =>
    have no : s.contains c = false := by simpa using next_cons.1 outside
    rw [preferred?_set_cons, no]
    rfl

theorem plus_head (outside : Next (!s.contains ·) text) : Refuses (plus true (.set s) :: rest) text := by
  intro left
  rw [preferred?_plus rfl]
  exact set_head outside left

/-- What follows refuses the rest. -/
theorem set_tail (h : Refuses rest text) : Refuses (set s :: rest) (c :: text) := by
  intro left
  rw [preferred?_set_cons, h]
  split <;> rfl

theorem alt (h : Refuses (p :: rest) text) (h' : Refuses (p' :: rest) text) :
    Refuses (alt p p' :: rest) text := by
  intro left
  rw [preferred?_alt, h, h', Option.none_or]

theorem option (h : Refuses (p :: rest) text) (h' : Refuses rest text) :
    Refuses (optional true p :: rest) text := by
  refine alt h fun left => ?_
  rw [preferred?_empty, h']

/-- A greedy run may give back some of what it takes. -/
theorem run_back (inside : ∀ c ∈ R, s.contains c) (ends : Next (!s.contains ·) text)
    (h : ∀ R', R' <:+ R → Refuses rest (R' ++ text)) :
    Refuses (star true (.set s) :: rest) (R ++ text) := by
  induction R with
  | nil =>
    intro left
    rw [preferred?_star_greedy rfl, List.nil_append, set_head ends, Option.none_or]
    exact h [] List.nil_suffix left
  | cons c R ih =>
    intro left
    have further := ih (fun d mem => inside d (List.mem_cons_of_mem c mem))
      fun R' suffix => h R' (suffix.trans (List.suffix_cons c R))
    rw [preferred?_star_greedy rfl, List.cons_append, set_tail further, Option.none_or]
    exact h (c :: R) List.suffix_rfl left

/-- It gives back nothing to what cannot begin inside it. -/
theorem run (inside : ∀ c ∈ R, s.contains c) (ends : Next (!s.contains ·) text)
    (closed : cannotBegin s.contains rest) (h : Refuses rest text) :
    Refuses (star true (.set s) :: rest) (R ++ text) := by
  refine run_back inside ends fun R' suffix => ?_
  cases R' with
  | nil => exact h
  | cons c R' =>
    have taken : s.contains c := inside c (suffix.subset List.mem_cons_self)
    exact refuses_of_cannotBegin closed (next_cons.2 taken)

end Refuses

end Pattern

end GoScan
