import GoScan.Proofs.Scan.Lexemes
import Mathlib.Logic.ExistsUnique

/-!
# The tokens tile the text

Nothing of the text is lost between tokens, and nothing is read twice.

* `Tiles.covers_once`: a byte within a row of tokens lies in one of them;
* `exists_scans_calls`: whatever the number of calls, they have read lexemes from the start on;
* `tokens_tile_source`: the tokens of any calls with the text left are the text, and a run to the
  end fails where a byte lies in no token.
-/

namespace GoScan

/-- The tokens lie one right behind another, from byte `low` to byte `high`. -/
def Tiles : Nat → List Token → Nat → Prop
  | low, [], high => low = high
  | low, t :: ts, high => t.position.offset = low ∧ Tiles t.stop ts high

/-- Byte `n` lies in the token. -/
def Token.Covers (t : Token) (n : Nat) : Prop := t.position.offset ≤ n ∧ n < t.stop

namespace Tiles

variable {low high n : Nat} {ts : List Token}

theorem le (h : Tiles low ts high) : low ≤ high := by
  induction ts generalizing low with
  | nil => exact Nat.le_of_eq h
  | cons t ts ih =>
    obtain ⟨rfl, tail⟩ := h
    exact Nat.le_trans (Nat.le_add_right _ _) (ih tail)

theorem bounds (h : Tiles low ts high) : ∀ t ∈ ts, low ≤ t.position.offset ∧ t.stop ≤ high := by
  induction ts generalizing low with
  | nil => simp
  | cons t ts ih =>
    obtain ⟨rfl, tail⟩ := h
    intro u mem
    rcases List.mem_cons.1 mem with rfl | mem
    · exact ⟨Nat.le_refl _, tail.le⟩
    · obtain ⟨start, stop⟩ := ih tail u mem
      exact ⟨Nat.le_trans (Nat.le_add_right _ _) start, stop⟩

theorem covers_once (h : Tiles low ts high) (hlow : low ≤ n) (hhigh : n < high) :
    ∃! i : Fin ts.length, ts[i].Covers n := by
  induction ts generalizing low with
  | nil => exact absurd (Nat.lt_of_le_of_lt hlow hhigh) (Nat.not_lt.2 (Nat.le_of_eq h.symm))
  | cons t ts ih =>
    obtain ⟨rfl, tail⟩ := h
    by_cases here : n < t.stop
    · refine ⟨⟨0, Nat.succ_pos _⟩, ⟨hlow, here⟩, fun i covers => ?_⟩
      cases i using Fin.cases with
      | zero => rfl
      | succ i =>
        have later := (tail.bounds _ (ts.getElem_mem i.2)).1
        exact absurd (Nat.lt_of_lt_of_le here later) (Nat.not_lt.2 covers.1)
    · obtain ⟨i, covers, only⟩ := ih tail (Nat.not_lt.1 here)
      refine ⟨i.succ, covers, fun j covers' => ?_⟩
      cases j using Fin.cases with
      | zero => exact absurd covers'.2 here
      | succ j => exact congrArg Fin.succ (only j covers')

/-- All bytes lie in a token of the row only if the row goes to the last of them. -/
theorem covers_all_iff {size : Nat} (h : Tiles 0 ts high) (hsize : high ≤ size) :
    (∀ n < size, ∃! i : Fin ts.length, ts[i].Covers n) ↔ high = size := by
  constructor
  · intro all
    refine Nat.le_antisymm hsize (Nat.not_lt.1 fun short => ?_)
    obtain ⟨i, covers, -⟩ := all high short
    have inside := (h.bounds _ (ts.getElem_mem i.2)).2
    exact absurd covers.2 (Nat.not_lt.2 inside)
  · rintro rfl n hn
    exact h.covers_once (Nat.zero_le n) hn

end Tiles

variable {ι : Type} [Interner ι] {g : Grammar}

namespace Lexeme

variable {table : ι} {p : Position} {ls : List Lexeme}

theorem texts_tokens :
    (tokens table p ls).map Token.text = ls.map fun l => String.ofList l.chars := by
  induction ls generalizing table p with
  | nil => rfl
  | cons l ls ih => simp [tokens, token, ih]

theorem tiles_tokens :
    Tiles p.offset (tokens table p ls) (p.advanceAll (ls.flatMap chars)).offset := by
  induction ls generalizing table p with
  | nil => rfl
  | cons l ls ih =>
    refine ⟨rfl, ?_⟩
    rw [stop_token, List.flatMap_cons, Position.advanceAll_append]
    exact ih

/-- A token of a reading is what the grammar takes where it stands, and the reading goes on behind it. -/
theorem exists_place_of_mem_tokens {text rest front : List Char} (h : Scans g text ls rest)
    (here : p.offset = Text.byteCount front) {t : Token} (mem : t ∈ tokens table p ls) :
    ∃ before l behind ms table' p', front ++ text = before ++ (l.chars ++ behind) ∧
      g.lexeme? (l.chars ++ behind) = some l ∧ Scans g behind ms rest ∧
      p'.offset = Text.byteCount before ∧ t = l.token (table' : ι) p' := by
  induction h generalizing table p front with
  | done => exact absurd mem List.not_mem_nil
  | @next l text rest ls taken tail ih =>
    rcases List.mem_cons.1 mem with rfl | mem
    · exact ⟨front, l, text, ls, table, p, rfl, taken, tail, here, rfl⟩
    · have stop : (p.advanceAll l.chars).offset = Text.byteCount (front ++ l.chars) := by
        rw [Position.offset_advanceAll, here, Text.byteCount_append]
      rw [← List.append_assoc]
      exact ih stop mem

end Lexeme

def Outcome.token? : Outcome → Option Token
  | .token t => some t
  | _ => none

@[simp] theorem Outcome.token?_token (t : Token) : (Outcome.token t).token? = some t := rfl

@[simp] theorem Outcome.token?_ending (s : Scanner) : s.ending.token? = none := by
  unfold Scanner.ending
  split <;> rfl

namespace Scanner

/-- The tokens that so many calls of `next` give. -/
def tokensRead (g : Grammar) (k : Nat) (s : Scanner) (table : ι) : List Token :=
  (calls g k s table).answer.filterMap Outcome.token?

@[simp] theorem rest_ofText (source : String) : (ofText source).rest = source.toList := rfl

/-- Whatever the number of calls, they have read lexemes from the start on. -/
theorem exists_scans_calls {s : Scanner} (hf : s.failure = none) (table : ι) (k : Nat) :
    ∃ ls, Scans g s.rest ls (calls g k s table).scanner.rest ∧
      tokensRead g k s table = Lexeme.tokens table s.position ls ∧
      (calls g k s table).scanner.position = s.position.advanceAll (ls.flatMap Lexeme.chars) := by
  obtain ⟨ls, rest, scans, stops⟩ := exists_scans g s.rest
  rcases Nat.lt_or_ge ls.length k with past | within
  · obtain ⟨j, rfl⟩ := Nat.exists_eq_add_of_lt past
    obtain ⟨answer, scanner, -⟩ := calls_past table scans stops hf j
    refine ⟨ls, ?_, ?_, ?_⟩
    · rwa [Nat.add_assoc, scanner, rest_stopped, rest_after table scans]
    · rw [tokensRead, Nat.add_assoc, answer]
      simp [List.filterMap_map, Function.comp_def]
    · rw [Nat.add_assoc, scanner, position_stopped, after]
  · obtain ⟨middle, first, -⟩ := scans.split k
    obtain ⟨events, now⟩ := calls_within table scans hf within
    refine ⟨ls.take k, ?_, ?_, ?_⟩
    · rwa [now, rest_after table first]
    · simp [tokensRead, now, List.filterMap_map, Function.comp_def]
    · rw [now, after]

/-- Calls on a whole text: their tokens with the text left are the text. -/
theorem texts_tokensRead (g : Grammar) (source : String) (table : ι) (k : Nat) :
    String.join ((tokensRead g k (ofText source) table).map Token.text) ++
      String.ofList (calls g k (ofText source) table).scanner.rest = source := by
  obtain ⟨ls, scans, tokens, -⟩ := exists_scans_calls (g := g) (s := ofText source) rfl table k
  apply String.toList_inj.1
  rw [tokens, Lexeme.texts_tokens, String.toList_append, String.toList_join, List.flatMap_map]
  simpa [Function.comp_def] using scans.text_eq.symm

theorem text_ne_empty_of_mem_tokensRead {source : String} {table : ι} {k : Nat} :
    ∀ t ∈ tokensRead g k (ofText source) table, t.text ≠ "" := by
  obtain ⟨ls, scans, tokens, -⟩ := exists_scans_calls (g := g) (s := ofText source) rfl table k
  intro t mem
  have text := List.mem_map_of_mem (f := Token.text) mem
  rw [tokens, Lexeme.texts_tokens] at text
  obtain ⟨l, hl, htext⟩ := List.mem_map.1 text
  rw [← htext]
  simpa using scans.chars_ne_nil l hl

theorem tiles_tokensRead (g : Grammar) (source : String) (table : ι) (k : Nat) :
    Tiles 0 (tokensRead g k (ofText source) table) (calls g k (ofText source) table).scanner.offset := by
  obtain ⟨ls, -, tokens, position⟩ := exists_scans_calls (g := g) (s := ofText source) rfl table k
  rw [tokens, offset, position]
  exact Lexeme.tiles_tokens (p := .start)

/-- The offset is that of the text left. -/
theorem offset_calls (g : Grammar) (source : String) (table : ι) (k : Nat) :
    ∃ front : String,
      front ++ String.ofList (calls g k (ofText source) table).scanner.rest = source ∧
      (calls g k (ofText source) table).scanner.offset = front.utf8ByteSize := by
  obtain ⟨ls, scans, -, position⟩ := exists_scans_calls (g := g) (s := ofText source) rfl table k
  refine ⟨String.ofList (ls.flatMap Lexeme.chars), ?_, ?_⟩
  · apply String.toList_inj.1
    simpa using scans.text_eq.symm
  · rw [offset, position, Position.offset_advanceAll, Text.utf8ByteSize_ofList]
    exact Nat.zero_add _

/-- A run to the end is as many calls as there can be tokens, and one more. -/
theorem analyze_eq_calls (g : Grammar) (source : String) (table : ι) (k : Nat) :
    let run := calls g k (ofText source) table
    let ended := run.scanner.analyze g run.table
    let all := calls g (k + (source.length + 1)) (ofText source) table
    ended.scanner = all.scanner ∧ ended.table = all.table ∧ ended.answer = all.scanner.failure ∧
      g.Stops all.scanner.rest ∧ (all.scanner.failure = none ↔ all.scanner.rest = []) := by
  obtain ⟨ls, rest, scans, stops⟩ := exists_scans g (ofText source).rest
  obtain ⟨events, ended⟩ := analyze_calls table scans stops rfl k
  have few : ls.length < k + (source.length + 1) := by
    have := scans.length_le
    simp only [rest_ofText, String.length_toList] at this
    omega
  obtain ⟨j, enough⟩ := Nat.exists_eq_add_of_lt few
  obtain ⟨-, scanner, table'⟩ := calls_past table scans stops rfl j
  dsimp only
  rw [ended, enough, Nat.add_assoc, scanner, table', rest_stopped, rest_after table scans]
  refine ⟨rfl, rfl, rfl, stops, ?_⟩
  rw [stopped, rest_after table scans]
  split
  · exact ⟨fun _ => ‹_›, fun _ => rfl⟩
  · exact ⟨fun h => absurd h (Option.some_ne_none _), fun h => absurd h ‹_›⟩

/-- The tokens of any calls tile the text read; with the text left they are the whole text. A run
to the end succeeds if each byte of the text lies in one token, and else halts inside the text,
where no entry matches. -/
theorem tokens_tile_source (g : Grammar) (source : String) (table : ι) (k : Nat) :
    let run := calls g k (ofText source) table
    let read := tokensRead g k (ofText source) table
    let ended := run.scanner.analyze g run.table
    let all := calls g (k + (source.length + 1)) (ofText source) table
    let allRead := tokensRead g (k + (source.length + 1)) (ofText source) table
    (String.join (read.map Token.text) ++ String.ofList run.scanner.rest = source ∧
      (∀ t ∈ read, t.text ≠ "") ∧
      Tiles 0 read run.scanner.offset ∧
      run.scanner.offset ≤ source.utf8ByteSize ∧
      String.Pos.Raw.IsValid source ⟨run.scanner.offset⟩) ∧
    (ended.scanner = all.scanner ∧ ended.table = all.table) ∧
    (ended.answer = none ↔
      ∀ n < source.utf8ByteSize, ∃! i : Fin allRead.length, allRead[i].Covers n) ∧
    (ended.answer ≠ none →
      ended.scanner.offset < source.utf8ByteSize ∧ g.match? ended.scanner.rest = none) := by
  intro run read ended all allRead
  obtain ⟨front, whole, offset⟩ := offset_calls g source table k
  obtain ⟨allFront, allWhole, allOffset⟩ := offset_calls g source table (k + (source.length + 1))
  obtain ⟨scanner, table', answer, stops, succeeds⟩ := analyze_eq_calls g source table k
  have size : source.utf8ByteSize = all.scanner.offset + Text.byteCount all.scanner.rest := by
    rw [allOffset, ← Text.utf8ByteSize_ofList, ← String.utf8ByteSize_append, allWhole]
  have tiles : Tiles 0 allRead all.scanner.offset := tiles_tokensRead g source table _
  refine ⟨⟨texts_tokensRead g source table k, text_ne_empty_of_mem_tokensRead,
    tiles_tokensRead g source table k, ?_, ?_⟩, ⟨scanner, table'⟩, ?_, ?_⟩
  · rw [← whole, String.utf8ByteSize_append]
    exact Nat.le_trans (Nat.le_of_eq offset) (Nat.le_add_right _ _)
  · refine String.Pos.Raw.isValid_iff_exists_append.2 ⟨front, _, whole.symm, ?_⟩
    exact String.Pos.Raw.ext offset
  · rw [tiles.covers_all_iff (size ▸ Nat.le_add_right _ _), answer, succeeds, size,
      ← Text.byteCount_eq_zero_iff]
    exact Nat.left_eq_add.symm
  · intro fails
    have unread : all.scanner.rest ≠ [] := fun h => fails (answer.trans (succeeds.2 h))
    have more := Nat.pos_of_ne_zero (mt Text.byteCount_eq_zero_iff.1 unread)
    rw [scanner, size]
    refine ⟨Nat.lt_add_of_pos_right more, ?_⟩
    simpa [Grammar.lexeme?] using stops.resolve_left unread

end Scanner

end GoScan
