import GoScan.Position
import GoScan.Text.Quoted
import GoScan.Vocabulary

/-!
Tokens, and the lists in which a scan records them.
-/

namespace GoScan

structure Token where
  /-- The name of the table entry; an identifier's number follows it. -/
  kind : String
  text : String
  tokenClass : TokenClass
  position : Position
deriving DecidableEq, Repr

namespace Token

/-- The byte offset behind the token. -/
def stop (t : Token) : Nat := t.position.offset + Text.byteCount t.text.toList

def isSkip (t : Token) : Bool := t.tokenClass = .skip

/-- The one-line form of a token. -/
def display (t : Token) : String :=
  toString t.position.line ++ ":" ++ toString t.position.column ++ " " ++ t.tokenClass.name ++ " "
    ++ t.kind ++ " " ++ Text.quoted t.text

end Token

/-- Recorded tokens in order: all of them, and those of each class. -/
structure TokenLists where
  all : Array Token
  keywords : Array Token
  operators : Array Token
  identifiers : Array Token
  constants : Array Token
  punctuation : Array Token
deriving DecidableEq, Repr

namespace TokenLists

def empty : TokenLists := ⟨#[], #[], #[], #[], #[], #[]⟩

/-- Records a token; one to skip is dropped. -/
def push (l : TokenLists) (t : Token) : TokenLists :=
  match t.tokenClass with
  | .keyword => { l with all := l.all.push t, keywords := l.keywords.push t }
  | .operator => { l with all := l.all.push t, operators := l.operators.push t }
  | .id => { l with all := l.all.push t, identifiers := l.identifiers.push t }
  | .constant => { l with all := l.all.push t, constants := l.constants.push t }
  | .punctuation => { l with all := l.all.push t, punctuation := l.punctuation.push t }
  | .skip => l

def ofClass (l : TokenLists) : TokenClass → Array Token
  | .keyword => l.keywords
  | .operator => l.operators
  | .id => l.identifiers
  | .constant => l.constants
  | .punctuation => l.punctuation
  | .skip => #[]

def size (l : TokenLists) : Nat := l.all.size

def isEmpty (l : TokenLists) : Bool := l.all.isEmpty

theorem all_push (l : TokenLists) (t : Token) :
    (l.push t).all.toList = l.all.toList ++ if t.isSkip then [] else [t] := by
  unfold push Token.isSkip
  cases t.tokenClass <;> simp

theorem mem_of_mem_push {l : TokenLists} {t u : Token} (mem : u ∈ (l.push t).all) :
    u ∈ l.all ∨ u = t := by
  rw [← Array.mem_toList_iff, all_push] at mem
  rcases List.mem_append.1 mem with old | new
  · exact .inl (Array.mem_toList_iff.1 old)
  · right
    split at new
    · exact absurd new List.not_mem_nil
    · exact List.mem_singleton.1 new

theorem ofClass_push (l : TokenLists) (t : Token) (c : TokenClass) :
    ((l.push t).ofClass c).toList =
      (l.ofClass c).toList ++ if t.tokenClass = c ∧ !t.isSkip then [t] else [] := by
  unfold push Token.isSkip
  cases t.tokenClass <;> cases c <;> simp [ofClass]

/-- All tokens are recorded in order but those to skip. -/
theorem all_foldl_push (l : TokenLists) (ts : List Token) :
    (ts.foldl push l).all.toList = l.all.toList ++ ts.filter (!·.isSkip) := by
  induction ts generalizing l with
  | nil => simp
  | cons t ts ih =>
    rw [List.foldl_cons, ih, all_push, List.filter_cons]
    cases t.isSkip <;> simp

theorem ofClass_foldl_push (l : TokenLists) (ts : List Token) (c : TokenClass) :
    ((ts.foldl push l).ofClass c).toList =
      (l.ofClass c).toList ++ ts.filter fun t => t.tokenClass = c && !t.isSkip := by
  induction ts generalizing l with
  | nil => simp
  | cons t ts ih =>
    rw [List.foldl_cons, ih, ofClass_push, List.filter_cons]
    by_cases here : t.tokenClass = c <;> cases t.isSkip <;> simp [here]

end TokenLists

end GoScan
