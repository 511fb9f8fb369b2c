import GoScan.Proofs.Pattern.Preference
import Mathlib.Tactic.Tauto

/-!
# What a match depends on

What the sets of a pattern say about its matches, read off the ways in which it can begin.

* `preferred?_append_of_avoids`: what stands behind a character in none of the sets has no part;
* `preferred?_of_append`: nor has what stands behind the match, when the text is cut off there;
* `exists_set_of_mem`: a match consists of characters of the sets;
* `exists_read_of_mustRead`: it has a character that the pattern cannot do without.
-/

namespace GoScan

namespace Lead

variable {here : Option Nat} {next next' : Branch → Option Nat} {l m : Lead} {b : Branch} {n : Nat}

@[simp] theorem read_mem_orElse : .read b ∈ l.orElse m ↔ .read b ∈ l ∨ .read b ∈ m := by
  unfold orElse
  split <;> simp

theorem passes_iff : passes l ↔ .pass ∈ l := by
  simp only [passes, List.any_eq_true]
  constructor
  · rintro ⟨way, mem, h⟩
    cases way with
    | pass => exact mem
    | read b => simp at h
  · exact fun mem => ⟨_, mem, rfl⟩

theorem read_mem_andThen : .read b ∈ andThen l m ↔ .read b ∈ l ∨ passes l ∧ .read b ∈ m := by
  simp only [andThen, List.mem_flatMap, passes_iff]
  constructor
  · rintro ⟨way, mem, h⟩
    cases way with
    | pass => exact .inr ⟨mem, h⟩
    | read b' => exact .inl (List.mem_singleton.1 h ▸ mem)
  · rintro (mem | ⟨mem, h⟩)
    · exact ⟨_, mem, List.mem_singleton.2 rfl⟩
    · exact ⟨_, mem, h⟩

@[simp] theorem read_mem_ite_andThen :
    .read b ∈ (if passes l then andThen l m else l) ↔ .read b ∈ l ∨ passes l ∧ .read b ∈ m := by
  split
  · exact read_mem_andThen
  · simp_all

/-- A way other than the one that reads nothing leads to a match that is not empty. -/
theorem passes_of_first?_eq_zero (h : first? here next l = some 0)
    (hnext : ∀ b, .read b ∈ l → next b ≠ some 0) : passes l := by
  obtain ⟨way, mem, h⟩ := List.exists_of_findSome?_eq_some h
  cases way with
  | pass => exact passes_iff.2 mem
  | read b => exact absurd h (hnext b mem)

theorem isSome_first?_iff : (first? here next l).isSome ↔
    (passes l ∧ here.isSome) ∨ ∃ b, .read b ∈ l ∧ (next b).isSome := by
  induction l with
  | nil => simp
  | cons way l ih =>
    cases way with
    | pass =>
      simp [ih]
      tauto
    | read b =>
      simp [ih, or_and_right, exists_or]
      tauto

theorem first?_congr (h : ∀ b, .read b ∈ l → next b = next' b) :
    first? here next l = first? here next' l := by
  induction l with
  | nil => rfl
  | cons way l ih =>
    have later := ih fun b mem => h b (List.mem_cons_of_mem _ mem)
    cases way with
    | pass => rw [first?_pass, first?_pass, later]
    | read b => rw [first?_read, first?_read, later, h b List.mem_cons_self]

/-- The first way that leads to a match stays the first if none before it comes to lead to one. -/
theorem first?_eq_of (h : first? here next l = some n)
    (hnone : ∀ b, .read b ∈ l → next b = none → next' b = none)
    (hsome : ∀ b, .read b ∈ l → next b = some n → next' b = some n) :
    first? here next' l = some n := by
  induction l with
  | nil => simp at h
  | cons way l ih =>
    have later (h : first? here next l = some n) := ih h
      (fun b mem => hnone b (List.mem_cons_of_mem _ mem))
      (fun b mem => hsome b (List.mem_cons_of_mem _ mem))
    cases way with
    | pass =>
      cases here with
      | none => simpa using later (by simpa using h)
      | some k => simpa using h
    | read b =>
      rw [first?_read] at h ⊢
      rcases Option.or_eq_some_iff.1 h with found | ⟨nothing, found⟩
      · rw [hsome b List.mem_cons_self found, Option.some_or]
      · rw [hnone b List.mem_cons_self nothing, Option.none_or, later found]

end Lead

namespace Pattern

variable {g : Gap} {p q : Pattern} {rest : Rest} {b : Branch} {greedy : Bool}

/-! ## Ways to begin -/

@[simp] theorem not_read_mem_lead_empty : .read b ∉ lead g empty rest := by simp [lead_empty]

@[simp] theorem not_read_mem_lead_anchor {a : Anchor} : .read b ∉ lead g (anchor a) rest := by
  rw [lead_anchor]
  split <;> simp

@[simp] theorem read_mem_lead_set {s : CharSet} : .read b ∈ lead g (set s) rest ↔ b = ⟨s, rest⟩ := by
  simp [lead_set]

@[simp] theorem read_mem_lead_cat : .read b ∈ lead g (cat p q) rest ↔
    .read b ∈ lead g p (q :: rest) ∨ (lead g p (q :: rest)).passes ∧ .read b ∈ lead g q rest := by
  simp [lead_cat]

@[simp] theorem read_mem_lead_alt : .read b ∈ lead g (alt p q) rest ↔
    .read b ∈ lead g p rest ∨ .read b ∈ lead g q rest := by
  simp [lead_alt]

@[simp] theorem read_mem_lead_star : .read b ∈ lead g (star greedy p) rest ↔
    .read b ∈ lead g p (star greedy p :: rest) := by
  cases greedy <;> simp [lead_star]

@[simp] theorem read_mem_lead_plus : .read b ∈ lead g (plus greedy p) rest ↔
    .read b ∈ lead g p (star greedy p :: rest) := by
  simp [lead_plus]

@[simp] theorem not_read_mem_leadAll_nil : .read b ∉ leadAll g [] := by simp [leadAll_nil]

@[simp] theorem read_mem_leadAll_cons : .read b ∈ leadAll g (p :: rest) ↔
    .read b ∈ lead g p rest ∨ (lead g p rest).passes ∧ .read b ∈ leadAll g rest := by
  simp [leadAll_cons]

/-! ## Patterns without conditions on places -/

/-- Every set in the pattern satisfies `f`, and there is no anchor in it. -/
def eachSet (f : CharSet → Bool) : Pattern → Bool
  | empty => true
  | set s => f s
  | anchor _ => false
  | cat p q | alt p q => p.eachSet f && q.eachSet f
  | star _ p | plus _ p => p.eachSet f

variable {f : CharSet → Bool}

theorem eachSet_of_read_mem_lead (h : .read b ∈ lead g p rest) (hp : p.eachSet f)
    (hr : rest.all (·.eachSet f)) : f b.set ∧ b.rest.all (·.eachSet f) := by
  induction p generalizing rest with
  | empty => simp at h
  | anchor => simp at h
  | set s =>
    obtain rfl := read_mem_lead_set.1 h
    exact ⟨hp, hr⟩
  | cat p q ihp ihq =>
    simp only [eachSet, Bool.and_eq_true] at hp
    rcases read_mem_lead_cat.1 h with h | ⟨-, h⟩
    · exact ihp h hp.1 (by simp [hp.2, hr])
    · exact ihq h hp.2 hr
  | alt p q ihp ihq =>
    simp only [eachSet, Bool.and_eq_true] at hp
    rcases read_mem_lead_alt.1 h with h | h
    · exact ihp h hp.1 hr
    · exact ihq h hp.2 hr
  | star greedy p ih => exact ih (read_mem_lead_star.1 h) hp (by rw [List.all_cons, hr, Bool.and_true]; exact hp)
  | plus greedy p ih => exact ih (read_mem_lead_plus.1 h) hp (by rw [List.all_cons, hr, Bool.and_true]; exact hp)

theorem eachSet_of_read_mem_leadAll (h : .read b ∈ leadAll g rest) (hr : rest.all (·.eachSet f)) :
    f b.set ∧ b.rest.all (·.eachSet f) := by
  induction rest with
  | nil => simp at h
  | cons p rest ih =>
    simp only [List.all_cons, Bool.and_eq_true] at hr
    rcases read_mem_leadAll_cons.1 h with h | ⟨-, h⟩
    · exact eachSet_of_read_mem_lead h hr.1 hr.2
    · exact ih h hr.2

/-- Without anchors the place does not matter. -/
theorem lead_gap (hp : p.eachSet f) (g g' : Gap) : lead g p rest = lead g' p rest := by
  induction p generalizing rest with
  | empty => rfl
  | anchor => simp [eachSet] at hp
  | set s => rfl
  | cat p q ihp ihq =>
    simp only [eachSet, Bool.and_eq_true] at hp
    simp only [lead_cat, ihp hp.1, ihq hp.2]
  | alt p q ihp ihq =>
    simp only [eachSet, Bool.and_eq_true] at hp
    simp only [lead_alt, ihp hp.1, ihq hp.2]
  | star greedy p ih => simp only [lead_star, ih hp]
  | plus greedy p ih => simp only [lead_plus, ih hp]

/-- The ways in which patterns without anchors can begin. -/
def openings (rest : Rest) : Lead := leadAll ⟨none, none⟩ rest

theorem leadAll_eq_openings (hr : rest.all (·.eachSet f)) (g : Gap) :
    leadAll g rest = openings rest := by
  unfold openings
  induction rest with
  | nil => rfl
  | cons p rest ih =>
    simp only [List.all_cons, Bool.and_eq_true] at hr
    simp only [leadAll_cons, ih hr.2, lead_gap hr.1 g ⟨none, none⟩]

variable {left : Option Char} {text more : List Char} {n : Nat}

theorem preferred?_eq_openings (hr : rest.all (·.eachSet f)) :
    preferred? left rest text = (openings rest).first? (some 0) (·.preferred? text) := by
  rw [preferred?_eq_first?, leadAll_eq_openings hr]

theorem eachSet_of_read_mem_openings (h : .read b ∈ openings rest) (hr : rest.all (·.eachSet f)) :
    f b.set ∧ b.rest.all (·.eachSet f) := eachSet_of_read_mem_leadAll h hr

end Pattern

namespace Branch

variable {b : Branch} {c : Char} {cs : List Char} {n : Nat}

@[simp] theorem preferred?_nil : b.preferred? [] = none := rfl

theorem preferred?_cons : b.preferred? (c :: cs) =
    if b.set.contains c then (Pattern.preferred? (some c) b.rest cs).map (· + 1) else none := rfl

theorem preferred?_cons_eq_some : b.preferred? (c :: cs) = some n ↔
    b.set.contains c ∧ ∃ k, Pattern.preferred? (some c) b.rest cs = some k ∧ n = k + 1 := by
  rw [preferred?_cons]
  split
  · rename_i h
    simp only [h, true_and, Option.map_eq_some_iff]
    exact exists_congr fun k => and_congr_right fun _ => eq_comm
  · rename_i h
    simp [h]

theorem preferred?_ne_zero (b : Branch) (text : List Char) : b.preferred? text ≠ some 0 := by
  cases text with
  | nil => simp
  | cons c cs => simp [preferred?_cons_eq_some]

end Branch

namespace Pattern

variable {f : CharSet → Bool} {rest : Rest} {left : Option Char} {text more : List Char} {n : Nat}
  {c : Char}

/-! ## Longer and shorter texts -/

/-- A pattern that matches a text also matches it with more behind it, though maybe more of it. -/
theorem isSome_preferred?_append (hr : rest.all (·.eachSet f)) (more : List Char)
    (h : (preferred? left rest text).isSome) : (preferred? left rest (text ++ more)).isSome := by
  induction text generalizing left rest with
  | nil =>
    rw [preferred?_eq_openings hr, Lead.isSome_first?_iff] at h ⊢
    exact .inl (h.resolve_right (by simp))
  | cons c text ih =>
    rw [preferred?_eq_openings hr, Lead.isSome_first?_iff] at h ⊢
    rcases h with passes | ⟨b, mem, found⟩
    · exact .inl passes
    · obtain ⟨n, found⟩ := Option.isSome_iff_exists.1 found
      obtain ⟨hc, k, hk, -⟩ := Branch.preferred?_cons_eq_some.1 found
      have longer := ih (eachSet_of_read_mem_openings mem hr).2 (Option.isSome_of_eq_some hk)
      obtain ⟨m, hm⟩ := Option.isSome_iff_exists.1 longer
      exact .inr ⟨b, mem, Option.isSome_of_eq_some (Branch.preferred?_cons_eq_some.2 ⟨hc, m, hm, rfl⟩)⟩

/-- A match stays the preferred one when the text is cut off somewhere behind it. -/
theorem preferred?_of_append (hr : rest.all (·.eachSet f)) (hn : n ≤ text.length)
    (h : preferred? left rest (text ++ more) = some n) : preferred? left rest text = some n := by
  induction text generalizing left rest n with
  | nil =>
    obtain rfl := Nat.le_zero.1 hn
    rw [preferred?_eq_openings hr] at h ⊢
    exact Lead.first?_eq_of h (fun _ _ _ => rfl)
      (fun b _ zero => absurd zero (b.preferred?_ne_zero more))
  | cons c text ih =>
    rw [preferred?_eq_openings hr] at h ⊢
    refine Lead.first?_eq_of h (fun b mem nothing => ?_) (fun b mem found => ?_)
    · -- shorter texts have no new matches
      have plain := (eachSet_of_read_mem_openings mem hr).2
      refine Option.eq_none_iff_forall_ne_some.2 fun m found => ?_
      obtain ⟨hc, k, hk, -⟩ := Branch.preferred?_cons_eq_some.1 found
      obtain ⟨m, hm⟩ := Option.isSome_iff_exists.1
        (isSome_preferred?_append plain more (Option.isSome_of_eq_some hk))
      have longer : b.preferred? (c :: (text ++ more)) = some (m + 1) :=
        Branch.preferred?_cons_eq_some.2 ⟨hc, m, hm, rfl⟩
      exact absurd (longer.symm.trans nothing) (by simp)
    · obtain ⟨hc, k, hk, rfl⟩ := Branch.preferred?_cons_eq_some.1 found
      have plain := (eachSet_of_read_mem_openings mem hr).2
      exact Branch.preferred?_cons_eq_some.2
        ⟨hc, k, ih plain (Nat.le_of_succ_le_succ hn) hk, rfl⟩

/-- A character in none of the sets is as good as the end of the text. -/
theorem preferred?_append_of_avoids (hr : rest.all (·.eachSet f))
    (hc : ∀ s, f s → s.contains c = false) :
    preferred? left rest (text ++ c :: more) = preferred? left rest text := by
  induction text generalizing left rest with
  | nil =>
    rw [preferred?_eq_openings hr, preferred?_eq_openings hr]
    refine Lead.first?_congr fun b mem => ?_
    simp [Branch.preferred?_cons, hc _ (eachSet_of_read_mem_openings mem hr).1]
  | cons d text ih =>
    rw [preferred?_eq_openings hr, preferred?_eq_openings hr]
    refine Lead.first?_congr fun b mem => ?_
    rw [List.cons_append, Branch.preferred?_cons, Branch.preferred?_cons,
      ih (eachSet_of_read_mem_openings mem hr).2]

/-- A match consists of characters of the sets. -/
theorem exists_set_of_mem (hr : rest.all (·.eachSet f)) (h : preferred? left rest text = some n) :
    ∀ c ∈ text.take n, ∃ s, f s ∧ s.contains c := by
  induction text generalizing left rest n with
  | nil => simp
  | cons c text ih =>
    rw [preferred?_eq_openings hr] at h
    rcases Lead.of_first?_eq_some h with empty | ⟨b, mem, found⟩
    · obtain rfl : 0 = n := by simpa using empty
      simp
    · obtain ⟨hc, k, hk, rfl⟩ := Branch.preferred?_cons_eq_some.1 found
      obtain ⟨hset, plain⟩ := eachSet_of_read_mem_openings mem hr
      intro d hd
      rcases List.mem_cons.1 hd with rfl | hd
      · exact ⟨b.set, hset, hc⟩
      · exact ih plain hk d hd

/-- What is matched as a whole has no character that is in none of the sets. -/
theorem not_mem_of_preferred? (hr : rest.all (·.eachSet f)) (hc : ∀ s, f s → s.contains c = false)
    (h : preferred? left rest text = some text.length) : c ∉ text := by
  intro mem
  obtain ⟨s, hs, inside⟩ := exists_set_of_mem hr h c (by simpa using mem)
  simp [hc s hs] at inside

/-! ## Characters that a match cannot do without -/

/-- Every match reads a character by a set that satisfies `k`. -/
def mustRead (k : CharSet → Bool) : Pattern → Bool
  | set s => k s
  | cat p q => p.mustRead k || q.mustRead k
  | alt p q => p.mustRead k && q.mustRead k
  | plus _ p => p.mustRead k
  | empty | anchor _ | star _ _ => false

variable {k : CharSet → Bool} {g : Gap} {p : Pattern} {b : Branch}

theorem not_mayPass_of_mustRead (h : p.mustRead k) : p.mayPass = false := by
  induction p with
  | set s => rfl
  | cat p q ihp ihq =>
    simp only [mustRead, Bool.or_eq_true] at h
    rcases h with h | h
    · simp [mayPass, ihp h]
    · simp [mayPass, ihq h]
  | alt p q ihp ihq =>
    simp only [mustRead, Bool.and_eq_true] at h
    simp [mayPass, ihp h.1, ihq h.2]
  | plus greedy p ih => exact ih h
  | empty | anchor | star => simp [mustRead] at h

/-- What must be read is read at once, or it must be read later. -/
theorem mustRead_of_read_mem_lead (h : .read b ∈ lead g p rest)
    (hp : p.mustRead k ∨ rest.any (·.mustRead k)) : k b.set ∨ b.rest.any (·.mustRead k) := by
  induction p generalizing rest with
  | empty => simp at h
  | anchor => simp at h
  | set s =>
    obtain rfl := read_mem_lead_set.1 h
    exact hp
  | cat p q ihp ihq =>
    simp only [mustRead, Bool.or_eq_true] at hp
    rcases read_mem_lead_cat.1 h with h | ⟨passes, h⟩
    · exact ihp h (by simpa [or_assoc] using hp)
    · refine ihq h ?_
      rcases hp with (hp | hq) | hr
      · simp [passes_lead_of_not_mayPass (not_mayPass_of_mustRead hp)] at passes
      · exact .inl hq
      · exact .inr hr
  | alt p q ihp ihq =>
    simp only [mustRead, Bool.and_eq_true] at hp
    rcases read_mem_lead_alt.1 h with h | h
    · exact ihp h (hp.imp_left And.left)
    · exact ihq h (hp.imp_left And.right)
  | star greedy p ih =>
    exact ih (read_mem_lead_star.1 h) (.inr (by simpa [mustRead] using hp))
  | plus greedy p ih =>
    exact ih (read_mem_lead_plus.1 h) (hp.imp_right fun hr => by simp [hr])

theorem mustRead_of_read_mem_leadAll (h : .read b ∈ leadAll g rest)
    (hr : rest.any (·.mustRead k)) : k b.set ∨ b.rest.any (·.mustRead k) := by
  induction rest with
  | nil => simp at h
  | cons p rest ih =>
    simp only [List.any_cons, Bool.or_eq_true] at hr
    rcases read_mem_leadAll_cons.1 h with h | ⟨passes, h⟩
    · exact mustRead_of_read_mem_lead h hr
    · refine ih h (hr.resolve_left fun hp => ?_)
      simp [passes_lead_of_not_mayPass (not_mayPass_of_mustRead hp)] at passes

theorem passes_leadAll_of_mustRead (hr : rest.any (·.mustRead k)) :
    (leadAll g rest).passes = false := by
  induction rest with
  | nil => simp at hr
  | cons p rest ih =>
    simp only [List.any_cons, Bool.or_eq_true] at hr
    cases hp : (lead g p rest).passes with
    | false => simp [leadAll_cons, hp]
    | true =>
      have hr := hr.resolve_left fun must => by
        simp [passes_lead_of_not_mayPass (not_mayPass_of_mustRead must)] at hp
      simp [leadAll_cons, hp, Lead.passes_andThen, ih hr]

theorem exists_branch_of_mustRead (hr : rest.any (·.mustRead k))
    (h : preferred? left rest text = some n) :
    ∃ b : Branch, (k b.set ∨ b.rest.any (·.mustRead k)) ∧ b.preferred? text = some n := by
  rw [preferred?_eq_first?, Lead.first?_of_not_passes (passes_leadAll_of_mustRead hr) none] at h
  obtain ⟨b, mem, found⟩ := (Lead.of_first?_eq_some h).resolve_left (by simp)
  exact ⟨b, mustRead_of_read_mem_leadAll mem hr, found⟩

/-- A match has a character that the pattern cannot do without. -/
theorem exists_read_of_mustRead (hr : rest.any (·.mustRead k))
    (h : preferred? left rest text = some n) :
    ∃ c ∈ text.take n, ∃ s, k s ∧ s.contains c := by
  induction text generalizing left rest n with
  | nil =>
    obtain ⟨b, -, found⟩ := exists_branch_of_mustRead hr h
    simp at found
  | cons c text ih =>
    obtain ⟨b, must, found⟩ := exists_branch_of_mustRead hr h
    obtain ⟨hc, m, hm, rfl⟩ := Branch.preferred?_cons_eq_some.1 found
    rcases must with now | later
    · exact ⟨c, List.mem_cons_self, b.set, now, hc⟩
    · obtain ⟨d, hd, s, hs⟩ := ih later hm
      exact ⟨d, List.mem_cons_of_mem c hd, s, hs⟩

theorem preferred?_eq_none_of_mustRead (hr : rest.any (·.mustRead k))
    (hk : ∀ c ∈ text, ∀ s, k s → s.contains c = false) : preferred? left rest text = none := by
  refine Option.eq_none_iff_forall_ne_some.2 fun n found => ?_
  obtain ⟨c, hc, s, hs, inside⟩ := exists_read_of_mustRead hr found
  simp [hk c (List.mem_of_mem_take hc) s hs] at inside

end Pattern

end GoScan
