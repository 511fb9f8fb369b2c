import GoScan.Pattern.Search

/-!
# The preferred match, and that the search finds it

The search follows all threads of a pattern at once. Here a pattern is matched the plain way instead:
one way to begin after another is tried to its end.

* `Pattern.preferred?` is the length of the match that is found first;
* `preferred?_cat`, `preferred?_alt` and their like say what it is for each kind of pattern;
* `find?_eq_firstStart?`: the search finds the preferred match at the first place that has one;
* `find?_anchored`: for a pattern bound to the start that is its preferred match there.
-/

namespace GoScan

@[simp] theorem Way.isPass_pass : Way.pass.isPass = true := rfl

@[simp] theorem Way.isPass_read (b : Branch) : (Way.read b).isPass = false := rfl

namespace Lead

/-- What the first way that leads to a match leads to, when `here` follows where nothing is read
and `next` where a branch is taken. -/
def first? (here : Option Nat) (next : Branch → Option Nat) (l : Lead) : Option Nat :=
  l.findSome? fun
    | .pass => here
    | .read b => next b

variable {here : Option Nat} {next : Branch → Option Nat} {l m : Lead}

@[simp] theorem first?_nil : first? here next [] = none := rfl

@[simp] theorem first?_pass : first? here next (.pass :: l) = here.or (first? here next l) := by
  cases here <;> rfl

@[simp] theorem first?_read {b : Branch} :
    first? here next (.read b :: l) = (next b).or (first? here next l) := by
  simp only [first?, List.findSome?_cons]
  cases next b <;> rfl

@[simp] theorem first?_append : first? here next (l ++ m) = (first? here next l).or (first? here next m) :=
  List.findSome?_append

@[simp] theorem passes_nil : passes [] = false := rfl

@[simp] theorem passes_pass : passes (.pass :: l) = true := rfl

@[simp] theorem passes_read {b : Branch} : passes (.read b :: l) = passes l := rfl

@[simp] theorem passes_append : passes (l ++ m) = (passes l || passes m) := List.any_append

theorem passes_andThen : passes (l.andThen m) = (passes l && passes m) := by
  induction l with
  | nil => rfl
  | cons way l ih =>
    cases way with
    | pass =>
      have : andThen (.pass :: l) m = m ++ andThen l m := rfl
      cases h : passes m <;> simp [this, ih, h]
    | read b => simpa [andThen] using ih

theorem first?_andThen :
    first? here next (l.andThen m) = first? (first? here next m) next l := by
  induction l with
  | nil => rfl
  | cons way l ih =>
    cases way with
    | pass => simpa [andThen] using congrArg _ ih
    | read b => simpa [andThen] using congrArg _ ih

/-- Without a way that reads nothing, it does not matter what follows there. -/
theorem first?_of_not_passes (h : passes l = false) (here' : Option Nat) :
    first? here next l = first? here' next l := by
  induction l with
  | nil => rfl
  | cons way l ih =>
    cases way with
    | pass => simp at h
    | read b => simp [ih (by simpa using h)]

theorem first?_filter : first? here next (l.filter (!·.isPass)) = first? none next l := by
  induction l with
  | nil => rfl
  | cons way l ih => cases way <;> simp [ih]

theorem first?_isSome_of_passes (h : passes l = true) (n : Nat) :
    (first? (some n) next l).isSome := by
  induction l with
  | nil => simp at h
  | cons way l ih =>
    cases way with
    | pass => simp
    | read b => cases hb : next b <;> simp [hb, ih (by simpa using h)]

/-- Of two ways that read nothing the second leads to a match only where the first does. -/
theorem first?_orElse :
    first? here next (l.orElse m) = (first? here next l).or (first? here next m) := by
  unfold orElse
  split
  · rename_i h
    rw [first?_append, first?_filter]
    cases here with
    | none => rfl
    | some n =>
      have found : (first? (some n) next l).isSome := first?_isSome_of_passes h n
      obtain ⟨k, hk⟩ := Option.isSome_iff_exists.1 found
      simp [hk]
  · exact first?_append

/-- A lead is followed by another only where the other matters. -/
theorem first?_ite_andThen :
    first? here next (if l.passes then l.andThen m else l) = first? (first? here next m) next l := by
  split
  · exact first?_andThen
  · rename_i h
    exact first?_of_not_passes (by simpa using h) _

end Lead

namespace Pattern

section
variable {g : Gap} {p q : Pattern} {rest : Rest}

theorem lead_empty : lead g empty rest = [.pass] := rfl

theorem lead_set {s : CharSet} : lead g (set s) rest = [.read ⟨s, rest⟩] := rfl

theorem lead_anchor {a : Anchor} :
    lead g (anchor a) rest = if a.holds g then [.pass] else [] := rfl

theorem lead_cat : lead g (cat p q) rest =
    if (lead g p (q :: rest)).passes then (lead g p (q :: rest)).andThen (lead g q rest)
    else lead g p (q :: rest) := rfl

theorem lead_alt : lead g (alt p q) rest = (lead g p rest).orElse (lead g q rest) := rfl

theorem lead_star {greedy : Bool} : lead g (star greedy p) rest =
    if greedy then (lead g p (star greedy p :: rest)).filter (!·.isPass) ++ [.pass]
    else .pass :: (lead g p (star greedy p :: rest)).filter (!·.isPass) := rfl

theorem lead_plus {greedy : Bool} :
    lead g (plus greedy p) rest = lead g p (star greedy p :: rest) := rfl

theorem leadAll_nil : leadAll g [] = [.pass] := rfl

theorem leadAll_cons : leadAll g (p :: rest) =
    if (lead g p rest).passes then (lead g p rest).andThen (leadAll g rest) else lead g p rest := rfl

end

/-- The length of the preferred match of `rest` at the start of the text, behind the character
`left`. -/
def preferred? (left : Option Char) (rest : Rest) : List Char → Option Nat
  | [] => (leadAll ⟨left, none⟩ rest).first? (some 0) fun _ => none
  | c :: cs => (leadAll ⟨left, some c⟩ rest).first? (some 0) fun b =>
    if b.set.contains c then (preferred? (some c) b.rest cs).map (· + 1) else none

end Pattern

open Pattern

/-- The length of the preferred match that begins with the branch. -/
def Branch.preferred? (b : Branch) : List Char → Option Nat
  | [] => none
  | c :: cs => if b.set.contains c then (Pattern.preferred? (some c) b.rest cs).map (· + 1) else none

namespace Pattern

variable {left : Option Char} {p q : Pattern} {rest : Rest} {text : List Char}

theorem preferred?_eq_first? (left : Option Char) (rest : Rest) (text : List Char) :
    preferred? left rest text =
      (leadAll ⟨left, text.head?⟩ rest).first? (some 0) (·.preferred? text) := by
  cases text <;> rfl

/-! ## One equation for each kind of pattern -/

theorem preferred?_nil : preferred? left [] text = some 0 := by
  simp [preferred?_eq_first?, leadAll_nil]

theorem preferred?_cons : preferred? left (p :: rest) text =
    (lead ⟨left, text.head?⟩ p rest).first? (preferred? left rest text) (·.preferred? text) := by
  simp only [preferred?_eq_first? left (p :: rest), leadAll_cons, Lead.first?_ite_andThen,
    ← preferred?_eq_first?]

theorem preferred?_empty : preferred? left (empty :: rest) text = preferred? left rest text := by
  simp [preferred?_cons, lead_empty]

@[simp] theorem preferred?_set_nil {s : CharSet} : preferred? left (set s :: rest) [] = none := rfl

theorem preferred?_set_cons {s : CharSet} {c : Char} {cs : List Char} :
    preferred? left (set s :: rest) (c :: cs) =
      if s.contains c then (preferred? (some c) rest cs).map (· + 1) else none := by
  simp [preferred?_cons, lead_set, Branch.preferred?]

theorem preferred?_set_eq_some {s : CharSet} {n : Nat} : preferred? left (set s :: rest) text = some n ↔
    ∃ c cs m, text = c :: cs ∧ s.contains c ∧ preferred? (some c) rest cs = some m ∧ n = m + 1 := by
  cases text with
  | nil => simp
  | cons c cs =>
    rw [preferred?_set_cons]
    constructor
    · intro found
      split at found
      · rename_i inside
        obtain ⟨m, behind, rfl⟩ := Option.map_eq_some_iff.1 found
        exact ⟨c, cs, m, rfl, inside, behind, rfl⟩
      · simp at found
    · rintro ⟨d, ds, m, whole, inside, found, rfl⟩
      obtain ⟨rfl, rfl⟩ := List.cons_eq_cons.1 whole
      rw [if_pos inside, found]
      rfl

theorem preferred?_anchor {a : Anchor} : preferred? left (anchor a :: rest) text =
    if a.holds ⟨left, text.head?⟩ then preferred? left rest text else none := by
  rw [preferred?_cons, lead_anchor]
  split <;> simp

theorem preferred?_cat :
    preferred? left (cat p q :: rest) text = preferred? left (p :: q :: rest) text := by
  rw [preferred?_cons, lead_cat, Lead.first?_ite_andThen, ← preferred?_cons, ← preferred?_cons]

theorem preferred?_alt : preferred? left (alt p q :: rest) text =
    (preferred? left (p :: rest) text).or (preferred? left (q :: rest) text) := by
  rw [preferred?_cons, lead_alt, Lead.first?_orElse, ← preferred?_cons, ← preferred?_cons]

theorem passes_lead_of_not_mayPass {g : Gap} (h : p.mayPass = false) :
    (lead g p rest).passes = false := by
  induction p generalizing rest with
  | set s => rfl
  | cat p q ihp ihq =>
    simp only [lead_cat]
    cases hp : (lead g p (q :: rest)).passes with
    | false => simpa using hp
    | true =>
      have hq : q.mayPass = false := by
        cases hm : p.mayPass with
        | false => simp [ihp hm] at hp
        | true => simpa [mayPass, hm] using h
      simp [Lead.passes_andThen, ihq hq]
  | alt p q ihp ihq =>
    simp only [mayPass, Bool.or_eq_false_iff] at h
    simp [lead_alt, Lead.orElse, ihp h.1, ihq h.2]
  | plus greedy p ih => exact ih h
  | empty | anchor | star => simp [mayPass] at h

theorem preferred?_star_greedy (h : p.mayPass = false) :
    preferred? left (star true p :: rest) text =
      (preferred? left (p :: star true p :: rest) text).or (preferred? left rest text) := by
  rw [preferred?_cons, preferred?_cons (p := p)]
  simp only [lead_star, if_true, Lead.first?_append, Lead.first?_filter, Lead.first?_pass,
    Lead.first?_nil, Option.or_none]
  rw [Lead.first?_of_not_passes (passes_lead_of_not_mayPass h)]

theorem preferred?_star_lazy (h : p.mayPass = false) :
    preferred? left (star false p :: rest) text =
      (preferred? left rest text).or (preferred? left (p :: star false p :: rest) text) := by
  rw [preferred?_cons, preferred?_cons (p := p)]
  simp only [lead_star, Bool.false_eq_true, if_false, Lead.first?_filter, Lead.first?_pass]
  rw [Lead.first?_of_not_passes (passes_lead_of_not_mayPass h)]

theorem preferred?_plus {greedy : Bool} (h : p.mayPass = false) :
    preferred? left (plus greedy p :: rest) text =
      preferred? left (p :: star greedy p :: rest) text := by
  rw [preferred?_cons, preferred?_cons (p := p), lead_plus]
  exact Lead.first?_of_not_passes (passes_lead_of_not_mayPass h) _

/-! ## The search -/

end Pattern

theorem findSome?_cons_eq_or {α β : Type} (f : α → Option β) (a : α) (as : List α) :
    (a :: as).findSome? f = (f a).or (as.findSome? f) := by
  rw [List.findSome?_cons]
  cases f a <;> rfl

/-- The span of the thread's preferred match, at `place` behind the character `left`. -/
def Thread.span? (left : Option Char) (place : Nat) (text : List Char) (t : Thread) : Option Span :=
  (preferred? left t.rest text).map fun n => ⟨t.start, place + n⟩

/-- The span of the preferred match that begins with a branch, started at `start`. -/
def Branch.span? (place : Nat) (text : List Char) : Nat × Branch → Option Span
  | (start, b) => (b.preferred? text).map fun n => ⟨start, place + n⟩

theorem Lead.first?_eq_reads {next : Branch → Option Nat} {l : Lead} :
    l.first? (some 0) next = (l.reads.findSome? next).or (if l.passes then some 0 else none) := by
  induction l with
  | nil => rfl
  | cons way l ih =>
    cases way with
    | pass => rfl
    | read b =>
      rw [first?_read, ih, reads, findSome?_cons_eq_or, Option.or_assoc]
      rfl

namespace Pattern

/-- The preferred match at the first place that has one. -/
def firstStart? (p : Pattern) (left : Option Char) (place : Nat) : List Char → Option Span
  | [] => Thread.span? left place [] ⟨place, [p]⟩
  | c :: cs => (Thread.span? left place (c :: cs) ⟨place, [p]⟩).or (firstStart? p (some c) (place + 1) cs)

theorem span?_eq_reads (left : Option Char) (place : Nat) (text : List Char) (t : Thread) :
    t.span? left place text =
      (((leadAll ⟨left, text.head?⟩ t.rest).reads.map (t.start, ·)).findSome?
        (Branch.span? place text)).or
      (if (leadAll ⟨left, text.head?⟩ t.rest).passes then some ⟨t.start, place⟩ else none) := by
  rw [Thread.span?, preferred?_eq_first?, Lead.first?_eq_reads, Option.map_or, List.map_findSome?,
    List.findSome?_map]
  congr 1
  split <;> rfl

/-- The ways on lead to what the threads lead to. -/
theorem findSome?_ways (left : Option Char) (place : Nat) (text : List Char) (threads : List Thread) :
    threads.findSome? (Thread.span? left place text) =
      ((ways ⟨left, text.head?⟩ place threads).1.findSome? (Branch.span? place text)).or
        (ways ⟨left, text.head?⟩ place threads).2 := by
  induction threads with
  | nil => rfl
  | cons t threads ih =>
    rw [findSome?_cons_eq_or, span?_eq_reads, ih, ways]
    cases (leadAll ⟨left, text.head?⟩ t.rest).passes with
    | true => simp
    | false => simp [Option.or_assoc]

/-- A thread with the same left to match as one before it leads to nothing new. -/
theorem findSome?_foldl_join (left : Option Char) (place : Nat) (text : List Char)
    (threads more : List Thread) :
    (more.foldl join threads).findSome? (Thread.span? left place text) =
      (threads ++ more).findSome? (Thread.span? left place text) := by
  induction more generalizing threads with
  | nil => simp
  | cons t more ih =>
    rw [List.foldl_cons, ih, join]
    split
    · rename_i h
      obtain ⟨u, hu, same⟩ := List.any_eq_true.1 h
      rw [List.findSome?_append, List.findSome?_append, findSome?_cons_eq_or]
      cases before : threads.findSome? (Thread.span? left place text) with
      | some span => rfl
      | none =>
        have none_u := List.findSome?_eq_none_iff.1 before u hu
        have none_t : t.span? left place text = none := by
          simpa [Thread.span?, of_decide_eq_true same] using none_u
        rw [none_t]
        rfl
    · simp

theorem findSome?_advance (place : Nat) (c : Char) (cs : List Char) (branches : List (Nat × Branch)) :
    (advance c branches).findSome? (Thread.span? (some c) (place + 1) cs) =
      branches.findSome? (Branch.span? place (c :: cs)) := by
  rw [advance, findSome?_foldl_join, List.nil_append, List.findSome?_map]
  induction branches with
  | nil => rfl
  | cons x branches ih =>
    obtain ⟨start, b⟩ := x
    rw [findSome?_cons_eq_or, ← ih]
    cases h : b.set.contains c with
    | false => simp [h, Branch.span?, Branch.preferred?]
    | true =>
      simp only [h, List.filter_cons_of_pos, findSome?_cons_eq_or]
      congr 1
      simp [Thread.span?, Branch.span?, Branch.preferred?, h, Function.comp_def, Nat.add_assoc,
        Nat.add_comm 1]

theorem lead_of_atStartOnly {g : Gap} {c : Char} (hg : g.left = some c) (h : p.atStartOnly = true) :
    lead g p rest = [] := by
  induction p generalizing rest with
  | anchor a => cases a <;> simp_all [atStartOnly, lead_anchor, Anchor.holds]
  | cat p q ihp => simp [lead_cat, ihp h]
  | alt p q ihp ihq =>
    simp only [atStartOnly, Bool.and_eq_true] at h
    simp [lead_alt, ihp h.1, ihq h.2, Lead.orElse]
  | empty | set | star | plus => simp [atStartOnly] at h

theorem firstStart?_of_atStartOnly (h : p.atStartOnly = true) (c : Char) (place : Nat)
    (text : List Char) : firstStart? p (some c) place text = none := by
  have nothing (d : Char) (place : Nat) (text : List Char) :
      Thread.span? (some d) place text ⟨place, [p]⟩ = none := by
    simp [Thread.span?, preferred?_cons, lead_of_atStartOnly (g := ⟨some d, text.head?⟩) rfl h]
  induction text generalizing c place with
  | nil => exact nothing c place []
  | cons d text ih => rw [firstStart?, nothing, ih]; rfl

/-- While there is no match a new thread starts; it is the last in preference. -/
theorem findSome?_started (p : Pattern) (left : Option Char) (place : Nat) (threads : List Thread)
    (best : Option Span) (text : List Char) (later : Option Span) :
    ((if best.isNone then threads ++ [⟨place, [p]⟩] else threads).findSome?
        (Thread.span? left place text)).or (best.or later) =
      (threads.findSome? (Thread.span? left place text)).or
        (best.or ((Thread.span? left place text ⟨place, [p]⟩).or later)) := by
  cases best <;> simp [Option.or_assoc]

/-- The search is what its threads lead to, else the best match so far, else what starts later. -/
theorem searchFrom_eq (p : Pattern) (left : Option Char) (place : Nat) (threads : List Thread)
    (best : Option Span) (text : List Char) :
    searchFrom p left place threads best text =
      (threads.findSome? (Thread.span? left place text)).or
        (best.or (firstStart? p left place text)) := by
  induction text generalizing left place threads best with
  | nil =>
    have nothing (branches : List (Nat × Branch)) :
        branches.findSome? (Branch.span? place []) = none :=
      List.findSome?_eq_none_iff.2 fun _ _ => rfl
    have started := findSome?_started p left place threads best [] none
    simp only [Option.or_none] at started
    rw [searchFrom, firstStart?, ← started, findSome?_ways, nothing, Option.none_or, List.head?_nil]
    simp only [Option.orElse_eq_orElse, Option.orElse_eq_or]
  | cons c cs ih =>
    rw [firstStart?, ← findSome?_started, findSome?_ways, List.head?_cons]
    simp only [searchFrom, ih, findSome?_advance, Option.orElse_eq_orElse, Option.orElse_eq_or]
    generalize ways ⟨left, some c⟩ place _ = found
    split
    · rename_i stop
      simp only [Bool.and_eq_true, List.isEmpty_iff, Bool.or_eq_true] at stop
      have none_ahead : found.1.findSome? (Branch.span? place (c :: cs)) = none := by
        rw [← findSome?_advance, stop.1]
        rfl
      rw [none_ahead, Option.none_or, ← Option.or_assoc]
      rcases stop.2 with hit | bound
      · rw [Option.or_of_isSome hit]
      · rw [firstStart?_of_atStartOnly bound, Option.or_none]
    · simp only [Option.or_assoc]

/-- The search finds the preferred match at the first place that has one. -/
theorem find?_eq_firstStart? (p : Pattern) (text : List Char) :
    p.find? text = firstStart? p none 0 text := by
  rw [find?, searchFrom_eq]
  rfl

/-- A pattern bound to the start is found where it is preferred there. -/
theorem find?_anchored (p : Pattern) (text : List Char) :
    (cat (anchor .textStart) p).find? text =
      (preferred? none [p] text).map fun n => ⟨0, n⟩ := by
  have here (text : List Char) : Thread.span? none 0 text ⟨0, [cat (anchor .textStart) p]⟩ =
      (preferred? none [p] text).map fun n => ⟨0, n⟩ := by
    simp [Thread.span?, preferred?_cat, preferred?_anchor, Anchor.holds]
  rw [find?_eq_firstStart?]
  cases text with
  | nil => exact here []
  | cons c cs =>
    rw [firstStart?, here, firstStart?_of_atStartOnly (by rfl), Option.or_none]

/-! ## Bounds -/

end Pattern

theorem Lead.of_first?_eq_some {here : Option Nat} {next : Branch → Option Nat} {l : Lead} {n : Nat}
    (h : l.first? here next = some n) :
    here = some n ∨ ∃ b, .read b ∈ l ∧ next b = some n := by
  obtain ⟨way, mem, hn⟩ := List.exists_of_findSome?_eq_some h
  cases way with
  | pass => exact .inl hn
  | read b => exact .inr ⟨b, mem, hn⟩

namespace Pattern

/-- A match takes some of the text at most. -/
theorem preferred?_le {n : Nat} (h : preferred? left rest text = some n) : n ≤ text.length := by
  induction text generalizing left rest n with
  | nil =>
    rcases Lead.of_first?_eq_some h with h | ⟨b, _, h⟩
    · simp_all
    · simp at h
  | cons c cs ih =>
    rcases Lead.of_first?_eq_some h with h | ⟨b, _, h⟩
    · have : 0 = n := by simpa using h
      omega
    · obtain ⟨_, k, hk, rfl⟩ := by simpa using h
      simpa using ih hk

theorem span?_bounds {place : Nat} {t : Thread} {span : Span}
    (h : t.span? left place text = some span) :
    span.start = t.start ∧ place ≤ span.stop ∧ span.stop ≤ place + text.length := by
  obtain ⟨n, hn, rfl⟩ := Option.map_eq_some_iff.1 h
  have := preferred?_le hn
  exact ⟨rfl, by simp, by simpa using this⟩

theorem firstStart?_bounds {place : Nat} {span : Span} (h : firstStart? p left place text = some span) :
    place ≤ span.start ∧ span.start ≤ span.stop ∧ span.stop ≤ place + text.length := by
  induction text generalizing left place with
  | nil =>
    obtain ⟨start, low, high⟩ := span?_bounds h
    simp_all
  | cons c cs ih =>
    rcases Option.or_eq_some_iff.1 h with h | ⟨_, h⟩
    · obtain ⟨start, low, high⟩ := span?_bounds h
      simp_all
    · have := ih h
      simp only [List.length_cons]
      omega

/-- What is found lies within the text. -/
theorem find?_bounds {p : Pattern} {text : List Char} {span : Span} (h : p.find? text = some span) :
    span.start ≤ span.stop ∧ span.stop ≤ text.length := by
  rw [find?_eq_firstStart?] at h
  have := firstStart?_bounds h
  omega

end Pattern

end GoScan
