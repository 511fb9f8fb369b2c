import GoScan.Proofs.Scan.Lexemes

/-!
# What stands in lines below a text

* `Position.start_below`: the first place below a text is the one behind it and a newline;
* `Position.advanceAll_shifted`, `Lexeme.recorded_below`: to read below a text counts on as it does
  alone;
* `Scanner.analyze_ofText`: what a run to the end has recorded, and what it fails with.
-/

namespace GoScan

/-! ## Positions -/

namespace Position

/-- Where in lines below the text `a` there is what alone would be at `p`. -/
def below (a : String) (p : Position) : Position :=
  ⟨a.utf8ByteSize + 1 + p.offset, a.toList.count '\n' + 1 + p.line, p.column⟩

variable {a : String} {p : Position}

theorem advance_shifted (bytes lines : Nat) (p : Position) (c : Char) :
    advance ⟨bytes + p.offset, lines + p.line, p.column⟩ c =
      ⟨bytes + (p.advance c).offset, lines + (p.advance c).line, (p.advance c).column⟩ := by
  unfold advance
  split <;> simp only [Nat.add_assoc]

/-- To read behind so many bytes and lines counts on as it does without them. -/
theorem advanceAll_shifted (bytes lines : Nat) (p : Position) (cs : List Char) :
    advanceAll ⟨bytes + p.offset, lines + p.line, p.column⟩ cs =
      ⟨bytes + (p.advanceAll cs).offset, lines + (p.advanceAll cs).line, (p.advanceAll cs).column⟩ := by
  induction cs generalizing p with
  | nil => rfl
  | cons c cs ih =>
    have onward := ih (p.advance c)
    rwa [← advance_shifted bytes lines p c] at onward

theorem advanceAll_below (cs : List Char) :
    (p.below a).advanceAll cs = (p.advanceAll cs).below a :=
  advanceAll_shifted _ _ p cs

/-- The first place below a text is the one behind it and a newline. -/
theorem start_below : start.below a = start.advanceAll (a.toList ++ ['\n']) := by
  have size : a.utf8ByteSize = Text.byteCount a.toList := by
    rw [← Text.utf8ByteSize_ofList, String.ofList_toList]
  have last (q : Position) : q.advanceAll ['\n'] = ⟨q.offset + 1, q.line + 1, 1⟩ := rfl
  rw [advanceAll_append, last, offset_advanceAll, line_advanceAll, below, size]
  simp [start, Nat.add_comm]

end Position

/-- The token moved below a text. -/
def Token.below (a : String) (t : Token) : Token := { t with position := t.position.below a }

/-- The failure moved below a text. -/
def Failure.below (a : String) (f : Failure) : Failure := { f with position := f.position.below a }

/-! ## Tokens -/

variable {ι : Type} [Interner ι]

namespace Lexeme

variable {a : String} {table : ι} {p : Position} {ls : List Lexeme}

theorem tokens_below : tokens table (p.below a) ls = (tokens table p ls).map (Token.below a) := by
  induction ls generalizing table p with
  | nil => rfl
  | cons l ls ih =>
    rw [tokens, tokens, Position.advanceAll_below, ih]
    rfl

theorem recorded_below :
    recorded table (p.below a) ls = (recorded table p ls).map (Token.below a) := by
  rw [recorded, recorded, tokens_below, List.filter_map]
  rfl

end Lexeme

/-! ## Runs -/

namespace Scanner

/-- The failure at `p` where `rest` is left, if anything is. -/
def failureAt? (p : Position) (rest : List Char) : Option Failure :=
  if rest = [] then none else some ⟨.unrecognisedInput (snippet rest), p⟩

theorem failureAt?_eq_none {p : Position} {rest : List Char} : failureAt? p rest = none ↔ rest = [] := by
  simp [failureAt?]

theorem failureAt?_below (a : String) (p : Position) (rest : List Char) :
    failureAt? (p.below a) rest = (failureAt? p rest).map (Failure.below a) := by
  unfold failureAt?
  split <;> rfl

/-- What a run over a whole text has recorded, and what it fails with. -/
theorem analyze_ofText {g : Grammar} {source : String} (table : ι) {ls : List Lexeme}
    {rest : List Char} (h : Scans g source.toList ls rest) (stops : g.Stops rest) :
    let ended := (ofText source).analyze g table
    ended.scanner.lists.all.toList = Lexeme.recorded table .start ls ∧
      (∀ c, (ended.scanner.lists.ofClass c).toList =
        (Lexeme.recorded table .start ls).filter (·.tokenClass = c)) ∧
      ended.table = Lexeme.tablesAfter table ls ∧
      ended.answer = failureAt? (Position.start.advanceAll (ls.flatMap Lexeme.chars)) rest ∧
      ended.scanner.failure = ended.answer := by
  have h : Scans g (ofText source).rest ls rest := h
  obtain ⟨events, ended⟩ := analyze_eq table h stops rfl
  have lists : ((ofText source).after table ls).stopped.lists =
      (Lexeme.tokens table .start ls).foldl TokenLists.push .empty := lists_stopped _
  have failure : ((ofText source).after table ls).stopped.failure =
      failureAt? (Position.start.advanceAll (ls.flatMap Lexeme.chars)) rest := by
    rw [stopped, failureAt?, rest_after table h]
    split
    · rfl
    · rw [failureHere, rest_after table h]
      rfl
  dsimp only
  rw [ended]
  refine ⟨?_, fun c => ?_, rfl, failure, rfl⟩
  · rw [lists, TokenLists.all_foldl_push]
    rfl
  · have none_before : (TokenLists.empty.ofClass c).toList = [] := by cases c <;> rfl
    rw [lists, TokenLists.ofClass_foldl_push, none_before, Lexeme.recorded, List.filter_filter]
    rfl

end Scanner

end GoScan
