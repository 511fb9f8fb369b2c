import GoScan.Proofs.Pattern.Reading

/-!
# Words, runs, and matches that do not look ahead

* `preferred?_word`: a word matches where the text begins with it;
* `preferred?_star_set`: a greedy run of a set takes all characters of it;
* `preferred?_upTo_append`: a match up to a word is over with the word;
* `preferred?_append_of_definite`: if no way goes on with a character behind what the pattern can match, the
  character is as good as the end of the text.
-/

namespace GoScan

namespace Pattern

variable {left : Option Char} {rest : Rest} {text : List Char}

/-! ## Words and runs -/

/-- The pattern for exactly this text. -/
def word (w : List Char) : Pattern := seq (w.map fun c => set (.single c))

theorem seq_cons (p q : Pattern) (ps : List Pattern) :
    seq (p :: q :: ps) = cat p (seq (q :: ps)) := by
  unfold seq
  rw [List.reverse_cons]
  cases h : (q :: ps).reverse with
  | nil => simp at h
  | cons last before => simp

theorem preferred?_word (w : List Char) :
    preferred? left [word w] text = if w.isPrefixOf text then some w.length else none := by
  induction w generalizing left text with
  | nil => simp [word, seq, preferred?_empty, preferred?_nil]
  | cons c w ih =>
    cases text with
    | nil =>
      cases w with
      | nil => rfl
      | cons d w => simp [word, seq_cons, preferred?_cat]
    | cons d text =>
      have first : preferred? left [word (c :: w)] (d :: text) =
          if d = c then (preferred? (some d) [word w] text).map (· + 1) else none := by
        cases w with
        | nil => simp [word, seq, preferred?_set_cons, preferred?_empty]
        | cons e w => simp [word, seq_cons, preferred?_cat, preferred?_set_cons]
      rw [first, ih]
      by_cases h : d = c
      · subst h
        by_cases hw : w.isPrefixOf text <;> simp [hw]
      · simp [h, Ne.symm h]

/-- A greedy run takes all characters of the set that stand there. -/
theorem preferred?_star_set (s : CharSet) :
    preferred? left [star true (set s)] text = some (text.takeWhile s.contains).length := by
  induction text generalizing left with
  | nil =>
    rw [preferred?_star_greedy rfl, preferred?_nil]
    rfl
  | cons c text ih =>
    rw [preferred?_star_greedy rfl, preferred?_set_cons, ih]
    cases h : s.contains c <;> simp [h, preferred?_nil]

/-! ## Up to a word -/

/-- The pattern for all characters up to the first time that this text stands there, and for it. -/
def upTo (w : List Char) : Rest := [star false (set .any), word w]

theorem preferred?_upTo_here {w : List Char} (h : w <+: text) :
    preferred? left (upTo w) text = some w.length := by
  rw [upTo, preferred?_star_lazy rfl, preferred?_word, if_pos (List.isPrefixOf_iff_prefix.2 h)]
  rfl

theorem preferred?_upTo_nil {w : List Char} (h : ¬w <+: []) : preferred? left (upTo w) [] = none := by
  rw [upTo, preferred?_star_lazy rfl, preferred?_word, if_neg (mt List.isPrefixOf_iff_prefix.1 h)]
  rfl

theorem preferred?_upTo_cons {w : List Char} {c : Char} (h : ¬w <+: c :: text) :
    preferred? left (upTo w) (c :: text) = (preferred? (some c) (upTo w) text).map (· + 1) := by
  rw [upTo, preferred?_star_lazy rfl, preferred?_word, if_neg (mt List.isPrefixOf_iff_prefix.1 h),
    Option.none_or, preferred?_set_cons]
  rfl

theorem length_le_of_upTo {w : List Char} {n : Nat} (h : preferred? left (upTo w) text = some n) :
    w.length ≤ n := by
  induction text generalizing left n with
  | nil =>
    by_cases here : w <+: []
    · rw [preferred?_upTo_here here] at h
      exact Nat.le_of_eq (Option.some.inj h)
    · simp [preferred?_upTo_nil here] at h
  | cons c text ih =>
    by_cases here : w <+: c :: text
    · rw [preferred?_upTo_here here] at h
      exact Nat.le_of_eq (Option.some.inj h)
    · rw [preferred?_upTo_cons here] at h
      obtain ⟨m, found, rfl⟩ := Option.map_eq_some_iff.1 h
      exact Nat.le_succ_of_le (ih found)

/-- What stands behind the word has no part in the match. -/
theorem preferred?_upTo_append {w T a : List Char}
    (h : preferred? left (upTo w) (T ++ a) = some T.length) (a' : List Char) :
    preferred? left (upTo w) (T ++ a') = some T.length := by
  induction T generalizing left with
  | nil =>
    have nothing : w.length ≤ 0 := length_le_of_upTo h
    obtain rfl : w = [] := List.length_eq_zero_iff.1 (Nat.le_zero.1 nothing)
    exact preferred?_upTo_here List.nil_prefix
  | cons c T ih =>
    have enough : w.length ≤ (c :: T).length := length_le_of_upTo h
    have inside (a : List Char) : w <+: c :: (T ++ a) ↔ w <+: c :: T :=
      ⟨fun front => List.prefix_of_prefix_length_le front (List.prefix_append (c :: T) a) enough,
        fun front => front.trans (List.prefix_append (c :: T) a)⟩
    rw [List.cons_append] at h ⊢
    by_cases here : w <+: c :: T
    · rw [preferred?_upTo_here ((inside a).2 here)] at h
      rw [preferred?_upTo_here ((inside a').2 here), h]
    · rw [preferred?_upTo_cons (mt (inside a).1 here)] at h
      obtain ⟨m, found, length⟩ := Option.map_eq_some_iff.1 h
      obtain rfl : m = T.length := Nat.succ_inj.1 length
      rw [preferred?_upTo_cons (mt (inside a').1 here), ih found]
      rfl

end Pattern

/-! ## Sets with no character in common -/

namespace CharSet

/-- The members, for sets of single characters and short ranges. -/
def listed? : CharSet → Option (List Char)
  | empty => some []
  | range low high =>
    if high.toNat < low.toNat + 0x20 then
      some ((List.range 0x20).map fun i => Char.ofNat (low.toNat + i))
    else none
  | union a b =>
    match a.listed?, b.listed? with
    | some as, some bs => some (as ++ bs)
    | _, _ => none
  | _ => none

theorem mem_of_listed? {s : CharSet} {cs : List Char} {c : Char} (h : s.listed? = some cs)
    (hc : s.contains c) : c ∈ cs := by
  induction s generalizing cs with
  | empty => simp [contains] at hc
  | range low high =>
    simp only [contains, Bool.and_eq_true, decide_eq_true_eq, Char.le_def,
      UInt32.le_iff_toNat_le] at hc
    simp only [listed?] at h
    split at h
    · rename_i short
      obtain rfl := Option.some.inj h
      refine List.mem_map.2 ⟨c.toNat - low.toNat, List.mem_range.2 ?_, ?_⟩
      · have : c.toNat ≤ high.toNat := hc.2
        omega
      · have : low.toNat ≤ c.toNat := hc.1
        rw [Nat.add_sub_cancel' this, Char.ofNat_toNat]
    · simp at h
  | union a b iha ihb =>
    simp only [contains, Bool.or_eq_true] at hc
    simp only [listed?] at h
    split at h
    · rename_i as bs ha hb
      obtain rfl := Option.some.inj h
      exact List.mem_append.2 (hc.imp (iha ha) (ihb hb))
    · simp at h
  | property | inter | diff | compl | caseless => simp [listed?] at h

/-- The two are seen to have no character in common. -/
def apart (a b : CharSet) : Bool :=
  match a.listed?, b.listed? with
  | some cs, _ => cs.all fun c => !(a.contains c && b.contains c)
  | none, some cs => cs.all fun c => !(a.contains c && b.contains c)
  | none, none => false

theorem not_contains_of_apart {a b : CharSet} {c : Char} (h : apart a b) (ha : a.contains c)
    (hb : b.contains c) : False := by
  unfold apart at h
  split at h
  · rename_i cs _ hcs
    simpa [ha, hb] using List.all_eq_true.1 h c (mem_of_listed? hcs ha)
  · rename_i cs _ hcs
    simpa [ha, hb] using List.all_eq_true.1 h c (mem_of_listed? hcs hb)
  · simp at h

end CharSet

namespace Lead

/-- The ways that read a character. -/
def branches (l : Lead) : List Branch :=
  l.filterMap fun
    | .read b => some b
    | .pass => none

theorem mem_branches {l : Lead} {b : Branch} : b ∈ branches l ↔ .read b ∈ l := by
  simp only [branches, List.mem_filterMap]
  constructor
  · rintro ⟨way, mem, h⟩
    cases way with
    | pass => simp at h
    | read b' => exact Option.some.inj h ▸ mem
  · exact fun mem => ⟨_, mem, rfl⟩

end Lead

namespace Pattern

variable {left left' : Option Char} {r r' : Rest} {f : CharSet → Bool} {P : List (Rest × Rest)} {c : Char}
  {text more : List Char}

/-! ## Definite patterns -/

/-- Where `r` may end, `r'` goes on with such sets only; and a character that both read leads to a pair in
`P`. -/
def definiteAt (f : CharSet → Bool) (P : List (Rest × Rest)) (r r' : Rest) : Bool :=
  (!(openings r).passes || (openings r').branches.all (f ·.set)) &&
    (openings r).branches.all fun b => (openings r').branches.all fun b' =>
      b.set.apart b'.set || P.contains (b.rest, b'.rest)

/-- The pairs in `P` are definite, and there is no anchor at their places. -/
def definite (f : CharSet → Bool) (P : List (Rest × Rest)) : Bool :=
  P.all fun (r, r') => r.all (·.eachSet fun _ => true) && r'.all (·.eachSet fun _ => true) && definiteAt f P r r'

/-- The pairs of places that the same text leads to, in so many rounds. -/
def pairs : Nat → List (Rest × Rest) → List (Rest × Rest)
  | 0, P => P
  | n + 1, P =>
    let further := P.flatMap fun (r, r') => (openings r).branches.flatMap fun b =>
      ((openings r').branches.filter (!b.set.apart ·.set)).map fun b' => (b.rest, b'.rest)
    pairs n (further.foldl (fun P pair => if P.contains pair then P else P ++ [pair]) P)

theorem definite_cases (hP : definite f P) (hr : (r, r') ∈ P) :
    (r.all (·.eachSet fun _ => true) ∧ r'.all (·.eachSet fun _ => true)) ∧
      ((openings r).passes → ∀ b, .read b ∈ openings r' → f b.set) ∧
      ∀ b, .read b ∈ openings r → ∀ b', .read b' ∈ openings r' →
        b.set.apart b'.set ∨ (b.rest, b'.rest) ∈ P := by
  obtain ⟨plain, here⟩ := Bool.and_eq_true_iff.1 (List.all_eq_true.1 hP _ hr)
  obtain ⟨closed, ways⟩ := Bool.and_eq_true_iff.1 here
  refine ⟨Bool.and_eq_true_iff.1 plain, ?_, ?_⟩
  · intro ends b mem
    have all : (openings r').branches.all (f ·.set) := by simpa [ends] using closed
    exact List.all_eq_true.1 all b (Lead.mem_branches.2 mem)
  · intro b mem b' mem'
    have each := List.all_eq_true.1 ways b (Lead.mem_branches.2 mem)
    have pair := List.all_eq_true.1 each b' (Lead.mem_branches.2 mem')
    exact (Bool.or_eq_true_iff.1 pair).imp_right List.contains_iff_mem.1

/-- Where the text can be a whole match of the first, the second goes on with none but the sets, and a
character in none of them is as good as the end of the text. -/
theorem preferred?_append_of_definite (hP : definite f P) (hr : (r, r') ∈ P)
    (refuses : ∀ s, f s → s.contains c = false)
    (h : preferred? left r (text ++ more) = some text.length) (more' : List Char) :
    preferred? left' r' (text ++ c :: more') = preferred? left' r' text := by
  -- `r` goes the way of the match, and `r'` any way on which the same text can be read
  induction text generalizing left left' r r' with
  | nil =>
    obtain ⟨⟨plain, plain'⟩, closed, -⟩ := definite_cases hP hr
    rw [preferred?_eq_openings plain] at h
    have ends := Lead.passes_of_first?_eq_zero h fun b _ => b.preferred?_ne_zero _
    rw [preferred?_eq_openings plain', preferred?_eq_openings plain']
    apply Lead.first?_congr
    intro b mem
    have refused := refuses _ (closed ends b mem)
    simp [Branch.preferred?_cons, refused]
  | cons d text ih =>
    obtain ⟨⟨plain, plain'⟩, -, ways⟩ := definite_cases hP hr
    rw [preferred?_eq_openings plain] at h
    obtain ⟨b, mem, found⟩ := (Lead.of_first?_eq_some h).resolve_left (by simp)
    obtain ⟨inside, k, behind, length⟩ := Branch.preferred?_cons_eq_some.1 found
    obtain rfl : text.length = k := Nat.succ_inj.1 length
    rw [preferred?_eq_openings plain', preferred?_eq_openings plain']
    apply Lead.first?_congr
    intro b' mem'
    rw [List.cons_append, Branch.preferred?_cons, Branch.preferred?_cons]
    cases inside' : b'.set.contains d with
    | false => rfl
    | true =>
      rcases ways b mem b' mem' with apart | next
      · exact (CharSet.not_contains_of_apart apart inside inside').elim
      · rw [if_pos rfl, if_pos rfl, ih next behind]

end Pattern

end GoScan
