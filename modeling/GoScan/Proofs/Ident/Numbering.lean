import GoScan.IdentTable
import Mathlib.Data.List.Induction
import Mathlib.Data.List.Nodup

/-!
# Names are numbered as they arrive

A table keeps its names twice, by number and by name.

* `intern_cases`: a name that is known leaves the table as it is, a new one is added behind the rest;
* `Consistent.intern`: the two halves of a table stay inverse to each other;
* `names_internAll`: the names are those known, then the new ones in order of first arrival;
* `get?_internAll`: a number once given out is kept;
* `table_of_calls`: all this of the tables that calls make.
-/

namespace GoScan

theorem backquote_not_mem_normalize (text : String) : '\x60' ∉ (normalize text).toList := by
  simp [normalize]

namespace IdentTable

/-- The numbers and the names are inverse to each other, and no name has a backquote. -/
structure Consistent (t : IdentTable) : Prop where
  number_iff (name : String) (id : Nat) : t.ids[name]? = some id ↔ t.names[id]? = some name
  plain : ∀ name ∈ t.names, '\x60' ∉ name.toList

/-- The table when the texts have their numbers. -/
def internAll (t : IdentTable) (texts : List String) : IdentTable :=
  texts.foldl (fun t text => (t.intern text).2) t

/-- The names that the texts add to the known ones, each where it comes first. -/
def newNames (known texts : List String) : List String :=
  ((texts.map normalize).filter (· ∉ known)).eraseDups

variable {t : IdentTable} {text text' : String} {id : Nat}

/-- A known name leaves the table as it is, a new one is added behind the others. -/
theorem intern_cases (t : IdentTable) (text : String) :
    (∃ id, t.get? text = some id ∧ t.intern text = (id, t)) ∨
    (t.get? text = none ∧ t.intern text =
      (t.size, ⟨t.ids.insert (normalize text) t.size, t.names.push (normalize text)⟩)) := by
  cases known : t.get? text with
  | some id =>
    rw [get?] at known
    exact .inl ⟨id, rfl, by simp only [intern, known]⟩
  | none =>
    rw [get?] at known
    exact .inr ⟨rfl, by simp only [intern, known, size]⟩

/-! ## The two halves of a table -/

theorem consistent_empty : empty.Consistent where
  number_iff name id := by simp [empty]
  plain := by simp [empty]

namespace Consistent

theorem get?_iff (h : t.Consistent) : t.get? text = some id ↔ t.name? id = some (normalize text) :=
  h.number_iff (normalize text) id

theorem known_iff (h : t.Consistent) : (∃ id, t.get? text = some id) ↔ normalize text ∈ t.names := by
  rw [Array.mem_iff_getElem?]
  exact exists_congr fun id => h.get?_iff

theorem new_iff (h : t.Consistent) : t.get? text = none ↔ normalize text ∉ t.names := by
  rw [← h.known_iff, ← Option.isSome_iff_exists, Option.not_isSome_iff_eq_none]

theorem intern (h : t.Consistent) (text : String) : (t.intern text).2.Consistent := by
  rcases intern_cases t text with ⟨id, -, here⟩ | ⟨new, here⟩
  · rw [here]
    exact h
  · rw [here]
    constructor
    · intro name id
      have unnumbered (id : Nat) : t.names[id]? ≠ some (normalize text) := by
        intro numbered
        rw [h.get?_iff.2 numbered] at new
        exact Option.some_ne_none id new
      simp only [Std.TreeMap.getElem?_insert, Array.getElem?_push, Std.compare_eq_iff_eq, size]
      by_cases same : normalize text = name
      · rw [if_pos same, ← same]
        by_cases last : id = t.names.size
        · simp [last]
        · simp [last, Ne.symm last, unnumbered id]
      · rw [if_neg same, h.number_iff]
        by_cases last : id = t.names.size
        · simp [last, same]
        · simp [last]
    · intro name mem
      rcases Array.mem_push.1 mem with old | rfl
      · exact h.plain name old
      · exact backquote_not_mem_normalize text

theorem internAll (h : t.Consistent) (texts : List String) : (t.internAll texts).Consistent := by
  induction texts generalizing t with
  | nil => exact h
  | cons text texts ih => exact ih (h.intern text)

theorem nodup_names (h : t.Consistent) : t.names.toList.Nodup := by
  rw [List.nodup_iff_getElem?_ne_getElem?]
  intro i j before within same
  rw [Array.length_toList] at within
  rw [Array.getElem?_toList, Array.getElem?_toList] at same
  have there : t.names[j]? = some t.names[j] := Array.getElem?_eq_getElem within
  have number := (h.number_iff _ _).2 there
  rw [(h.number_iff _ _).2 (same.trans there)] at number
  have : i = j := Option.some.inj number
  omega

/-- Texts have one number if and only if they have one name. -/
theorem number_eq_iff (h : t.Consistent) {id' : Nat} (first : t.get? text = some id)
    (second : t.get? text' = some id') : id = id' ↔ normalize text = normalize text' := by
  constructor
  · intro same
    rw [h.get?_iff] at first second
    rw [← same, first] at second
    exact Option.some.inj second
  · intro same
    unfold get? at first second
    rw [same, second] at first
    exact (Option.some.inj first).symm

theorem intern_of_known (h : t.Consistent) (known : normalize text ∈ t.names) :
    (t.intern text).2 = t := by
  obtain ⟨id, known⟩ := h.known_iff.2 known
  rcases intern_cases t text with ⟨id', -, here⟩ | ⟨new, -⟩
  · rw [here]
  · rw [known] at new
    exact absurd new (Option.some_ne_none id)

theorem intern_of_new (h : t.Consistent) (new : normalize text ∉ t.names) :
    (t.intern text).1 = t.size ∧ (t.intern text).2.names = t.names.push (normalize text) := by
  have new := h.new_iff.2 new
  rcases intern_cases t text with ⟨id, known, -⟩ | ⟨-, here⟩
  · rw [new] at known
    exact absurd known.symm (Option.some_ne_none id)
  · rw [here]
    exact ⟨rfl, rfl⟩

theorem names_intern (h : t.Consistent) (text : String) :
    (t.intern text).2.names.toList =
      t.names.toList ++ if normalize text ∈ t.names then [] else [normalize text] := by
  by_cases known : normalize text ∈ t.names
  · rw [h.intern_of_known known, if_pos known, List.append_nil]
  · rw [(h.intern_of_new known).2, if_neg known, Array.toList_push]

end Consistent

/-! ## Texts in a row -/

theorem internAll_append (t : IdentTable) (texts texts' : List String) :
    t.internAll (texts ++ texts') = (t.internAll texts).internAll texts' := List.foldl_append

theorem newNames_nil (texts : List String) : newNames [] texts = (texts.map normalize).eraseDups := by
  simp [newNames]

theorem newNames_concat (known texts : List String) (text : String) :
    newNames known (texts ++ [text]) = newNames known texts ++
      if normalize text ∈ known ++ newNames known texts then [] else [normalize text] := by
  rw [newNames, newNames, List.map_append, List.filter_append, List.eraseDups_append]
  congr 1
  by_cases old : normalize text ∈ known
  · simp [old, List.removeAll]
  · by_cases again : ∃ text' ∈ texts, normalize text' = normalize text
    · simp [old, again, List.removeAll]
    · simp [old, again, List.removeAll, List.eraseDups_cons]

/-- The names are those known, then the new ones in order of first arrival. -/
theorem names_internAll (h : t.Consistent) (texts : List String) :
    (t.internAll texts).names.toList = t.names.toList ++ newNames t.names.toList texts := by
  induction texts using List.reverseRecOn with
  | nil => simp [internAll, newNames]
  | append_singleton texts text ih =>
    have last := (h.internAll texts).names_intern text
    simp only [← Array.mem_toList_iff, ih] at last
    rw [internAll_append, newNames_concat, ← List.append_assoc]
    exact last

/-- The name of a number is kept too. -/
theorem name?_internAll (h : t.Consistent) {name : String} (numbered : t.name? id = some name)
    (texts : List String) : (t.internAll texts).name? id = some name := by
  have names := names_internAll h texts
  rw [name?, ← Array.getElem?_toList] at numbered ⊢
  have within : id < t.names.toList.length := (List.getElem?_eq_some_iff.1 numbered).1
  rw [names, List.getElem?_append_left within]
  exact numbered

theorem get?_intern (t : IdentTable) (text : String) :
    (t.intern text).2.get? text = some (t.intern text).1 := by
  rcases intern_cases t text with ⟨id, known, here⟩ | ⟨-, here⟩
  · rw [here]
    exact known
  · rw [here, get?]
    exact Std.TreeMap.getElem?_insert_self

/-- A number once given out is kept. -/
theorem get?_internAll (h : t.get? text = some id) (texts : List String) :
    (t.internAll texts).get? text = some id := by
  induction texts generalizing t with
  | nil => exact h
  | cons other texts ih =>
    have kept : (t.intern other).2.get? text = some id := by
      rcases intern_cases t other with ⟨number, known, here⟩ | ⟨new, here⟩
      · rw [here]
        exact h
      · have differ : normalize other ≠ normalize text := by
          intro same
          rw [get?, same] at new
          exact Option.some_ne_none id (h.symm.trans new)
        simp only [here, get?, Std.TreeMap.getElem?_insert, Std.compare_eq_iff_eq, if_neg differ]
        exact h
    exact ih kept

end IdentTable

/-! ## Calls on a table -/

inductive TableCall where
  | intern (text : String)
  | get (text : String)
  | size
deriving DecidableEq, Repr

namespace TableCall

/-- The number that the call gives, if it gives one, and the table after it. -/
def perform (t : IdentTable) : TableCall → Option Nat × IdentTable
  | intern text => (some (t.intern text).1, (t.intern text).2)
  | get text => (t.get? text, t)
  | size => (some t.size, t)

/-- The text that the call hands to the table to be numbered. -/
def interned? : TableCall → Option String
  | intern text => some text
  | get _ | size => none

theorem perform_eq_internAll (c : TableCall) (t : IdentTable) :
    (c.perform t).2 = t.internAll c.interned?.toList := by
  cases c <;> rfl

end TableCall

namespace IdentTable

/-- The table after the calls in turn. -/
def after (t : IdentTable) (cs : List TableCall) : IdentTable :=
  cs.foldl (fun t c => (c.perform t).2) t

/-- The calls in turn, each with what it gives. -/
def history (t : IdentTable) : List TableCall → List (TableCall × Option Nat)
  | [] => []
  | c :: cs => (c, (c.perform t).1) :: history (c.perform t).2 cs

variable {t : IdentTable}

theorem after_eq_internAll (t : IdentTable) (cs : List TableCall) :
    t.after cs = t.internAll (cs.filterMap TableCall.interned?) := by
  induction cs generalizing t with
  | nil => rfl
  | cons c cs ih =>
    have onward : t.after (c :: cs) = (c.perform t).2.after cs := rfl
    rw [onward, ih, TableCall.perform_eq_internAll, ← internAll_append, List.filterMap_cons]
    cases c <;> rfl

theorem consistent_after (cs : List TableCall) : (empty.after cs).Consistent := by
  rw [after_eq_internAll]
  exact consistent_empty.internAll _

/-- A number that a call has given for a text is the number of the text from then on. -/
theorem get?_of_mem_history {cs : List TableCall} {text : String} {answer : Option Nat}
    (h : (.intern text, answer) ∈ t.history cs) :
    ∃ id, answer = some id ∧ (t.after cs).get? text = some id := by
  induction cs generalizing t with
  | nil => exact absurd h List.not_mem_nil
  | cons c cs ih =>
    rcases List.mem_cons.1 h with first | later
    · obtain ⟨rfl, rfl⟩ := Prod.mk.inj first
      refine ⟨(t.intern text).1, rfl, ?_⟩
      have onward : t.after (.intern text :: cs) = (t.intern text).2.after cs := rfl
      rw [onward, after_eq_internAll]
      exact get?_internAll (get?_intern t text) _
    · exact ih later

/-- The tables that calls make of an empty one. Numbers and names are inverse to each other, the
numbers are those below the size, and the names stand in the order in which they first arrived. What
`intern` has given for a text is what `get` gives for it, and tells its name from all others. Only a
new name changes the table, and it is added behind the others; what has a number keeps it. -/
theorem table_of_calls (cs : List TableCall) :
    let t := empty.after cs
    let given := empty.history cs
    ((∀ (name : String) (id : Nat), t.ids[name]? = some id ↔ t.names[id]? = some name) ∧
      t.names.toList.Nodup) ∧
    ((∀ id, (∃ name : String, t.ids[name]? = some id) ↔ id < t.size) ∧
      t.names.toList = ((cs.filterMap TableCall.interned?).map normalize).eraseDups) ∧
    (∀ text answer, (.intern text, answer) ∈ given →
      ∃ id, answer = some id ∧ t.get? text = some id ∧ t.name? id = some (normalize text)) ∧
    (∀ text text' answer answer', (.intern text, answer) ∈ given → (.intern text', answer') ∈ given →
      (answer = answer' ↔ normalize text = normalize text')) ∧
    ((∀ text, normalize text ∈ t.names → (t.intern text).2 = t) ∧
      ∀ text, normalize text ∉ t.names →
        (t.intern text).1 = t.size ∧ (t.intern text).2.names = t.names.push (normalize text)) ∧
    (∀ text, ((TableCall.get text).perform t).2 = t) ∧
    ∀ id name, t.name? id = some name →
      '\x60' ∉ name.toList ∧ ∀ later, (t.after later).name? id = some name := by
  intro t given
  have h : t.Consistent := consistent_after cs
  refine ⟨⟨h.number_iff, h.nodup_names⟩, ⟨fun id => ?_, ?_⟩, fun text answer asked => ?_,
    fun text text' answer answer' asked asked' => ?_,
    ⟨fun text => h.intern_of_known, fun text => h.intern_of_new⟩, fun text => rfl,
    fun id name numbered => ⟨?_, fun later => ?_⟩⟩
  · simp only [h.number_iff, size, ← Option.isSome_iff_exists, isSome_getElem?]
  · have names := names_internAll consistent_empty (cs.filterMap TableCall.interned?)
    rw [← after_eq_internAll] at names
    exact names.trans (newNames_nil _)
  · obtain ⟨id, gave, known⟩ := get?_of_mem_history asked
    exact ⟨id, gave, known, h.get?_iff.1 known⟩
  · obtain ⟨id, rfl, first⟩ := get?_of_mem_history asked
    obtain ⟨id', rfl, second⟩ := get?_of_mem_history asked'
    rw [Option.some.injEq]
    exact h.number_eq_iff first second
  · exact h.plain name (Array.mem_of_getElem? numbered)
  · rw [after_eq_internAll]
    exact name?_internAll h numbered _

end IdentTable

end GoScan
