import GoScan.Command.Arguments
import Mathlib.Data.List.TakeDrop

/-!
# Options written out are read back

* `State.argument_option`, `State.argument_switch` and so on: what one argument of a command line does;
* `State.foldlM_operands`: behind two hyphens every argument is an operand;
* `State.Named.foldlM`: a file without a name is never taken;
* `readArguments_arguments`: the options are read back from the command line that they are written as;
* `exists_readArguments_iff`: so options can be asked for exactly if they name files, and each of these
  has a name.
-/

namespace GoScan.Command

/-- The argument that names the option. -/
def ValueOption.written : ValueOption → String
  | tokenClass => "--class"
  | locale => "--locale"

/-- The arguments in front of the operands. -/
def Options.switches (o : Options) : List String :=
  (if o.sharedIds then [Switch.sharedIds.usage] else []) ++
    ((if o.verbose then [Switch.verbose.usage] else []) ++
      ((o.tokenClass.map fun c => [ValueOption.tokenClass.written, c.name]).getD [] ++
        [ValueOption.locale.written, o.locale.name, "--"]))

/-- A command line that asks for the options. -/
def Options.arguments (o : Options) : List String := o.switches ++ o.files

theorem ofName_localeName (l : Locale) : Locale.ofName l.name = .ok l := by
  cases l <;> rfl

theorem head?_className (c : TokenClass) : c.name.toList.head? ≠ some '-' := by
  cases c <;> decide

theorem head?_localeName (l : Locale) : l.name.toList.head? ≠ some '-' := by
  cases l <;> decide

namespace State

variable {s t : State} {which : ValueOption} {args : List String}

/-! ## What one argument does -/

theorem argument_option (h : s.operandsOnly = false) (which : ValueOption) :
    s.argument which.written = s.option which none := by
  cases which <;> simp [argument, h, ValueOption.written, long, List.span_eq_takeWhile_dropWhile]

theorem argument_switch (h : s.operandsOnly = false) (which : Switch) :
    s.argument which.usage = s.switch which none := by
  cases which <;> simp [argument, h, Switch.usage, long, List.span_eq_takeWhile_dropWhile]

theorem argument_hyphens (h : s.operandsOnly = false) :
    s.argument "--" = .ok { s with operandsOnly := true } := by
  simp [argument, h]

/-- Where a value is missing, what does not begin with a hyphen is the value. -/
theorem argument_value (h : s.operandsOnly = false) (missing : s.pending = .value which none)
    {value : String} (plain : value.toList.head? ≠ some '-') :
    s.argument value = .ok { s with pending := .value which (some value) } := by
  simp only [argument, h, missing, Bool.false_eq_true, if_false]
  split <;> simp_all

theorem foldlM_cons {arg : String} (h : s.argument arg = .ok t) (args : List String) :
    (arg :: args).foldlM argument s = args.foldlM argument t := by
  rw [List.foldlM_cons, h]
  rfl

/-- Behind two hyphens every argument is an operand. -/
theorem foldlM_operands {before : List String} (only : s.operandsOnly)
    (pending : s.pending = .operands before) (files : List String) :
    files.foldlM argument s = .ok { s with pending := .operands (files.reverse ++ before) } := by
  induction files generalizing s before with
  | nil =>
    rw [List.reverse_nil, List.nil_append, ← pending]
    rfl
  | cons file files ih =>
    have first : s.argument file = .ok { s with pending := .operands (file :: before) } := by
      simp [argument, only, operand, pending]
    rw [foldlM_cons first, List.reverse_cons, List.append_assoc, List.singleton_append]
    exact ih only rfl

/-! ## Options are read back -/

/-- An option and its value: what was given before is read, the value is not yet. -/
theorem foldlM_option (h : s.operandsOnly = false) (settled : s.settle = .ok t)
    (h' : t.operandsOnly = false) (which : ValueOption) {value : String}
    (plain : value.toList.head? ≠ some '-') (args : List String) :
    (which.written :: value :: args).foldlM argument s =
      args.foldlM argument { t with pending := .value which (some value) } := by
  have asked : s.argument which.written = .ok { t with pending := .value which none } := by
    rw [argument_option h, option, settled]
    rfl
  have given := @argument_value { t with pending := .value which none } which h' rfl value plain
  exact (foldlM_cons asked _).trans (foldlM_cons given args)

theorem foldlM_switches (sharedIds verbose : Bool) (args : List String) :
    ((if sharedIds then [Switch.sharedIds.usage] else []) ++
        ((if verbose then [Switch.verbose.usage] else []) ++ args)).foldlM argument start =
      args.foldlM argument { start with sharedIds, verbose } := by
  cases sharedIds <;> cases verbose <;> simp [argument_switch, switch, settle, start] <;> rfl

/-- The name of a class, given but not read. -/
def givenClass (c : Option TokenClass) : Pending :=
  (c.map fun c => .value .tokenClass (some c.name)).getD .nothing

theorem settle_givenClass (unset : s.tokenClass = none) (c : Option TokenClass) :
    { s with pending := givenClass c }.settle =
      .ok { s with tokenClass := c, pending := .nothing } := by
  cases c with
  | none => simp [givenClass, settle, unset]
  | some c => simp [givenClass, settle, assign, unset, TokenClass.ofName_name]

theorem foldlM_class (h : s.operandsOnly = false) (settled : s.pending = .nothing)
    (c : Option TokenClass) (args : List String) :
    ((c.map fun c => [ValueOption.tokenClass.written, c.name]).getD [] ++ args).foldlM argument s =
      args.foldlM argument { s with pending := givenClass c } := by
  cases c with
  | none =>
    have same : givenClass none = s.pending := settled.symm
    rw [same]
    rfl
  | some c =>
    have complete : s.settle = .ok s := by simp [settle, settled]
    exact foldlM_option h complete h .tokenClass (head?_className c) args

/-- The first operand completes what was given before it. -/
theorem argument_first (only : s.operandsOnly) (settled : s.settle = .ok t)
    (first : ∀ files, s.pending ≠ .operands files) (file : String) :
    s.argument file = .ok { t with pending := .operands [file] } := by
  rw [argument, if_pos only, operand]
  split
  · exact absurd ‹_› (first _)
  · rw [settled]
    rfl

/-- Options that are given in full, before the operands are read. -/
def asked (o : Options) (pending : Pending) : State :=
  ⟨o.tokenClass, some o.locale, o.sharedIds, o.verbose, [], pending, true⟩

theorem foldlM_arguments (o : Options) {file : String} {files : List String}
    (files_eq : o.files = file :: files) :
    o.arguments.foldlM argument start = .ok (asked o (.operands (files.reverse ++ [file]))) := by
  obtain ⟨_, c, sharedIds, l, verbose⟩ := o
  obtain rfl := files_eq
  -- A value is read by the argument behind it: the class by `--locale`, the locale by the first file.
  let begun : State := { start with sharedIds, verbose }
  let chosen : State := { begun with tokenClass := c }
  let given : State := { chosen with pending := .value .locale (some l.name), operandsOnly := true }
  have class_read : { begun with pending := givenClass c }.settle = .ok chosen :=
    settle_givenClass rfl c
  have locale_read :
      given.settle = .ok (asked ⟨file :: files, c, sharedIds, l, verbose⟩ .nothing) := by
    simp [settle, assign, given, chosen, begun, start, asked, ofName_localeName]
  have first := argument_first (s := given) rfl locale_read (by simp [given]) file
  simp only [Options.arguments, Options.switches, List.append_assoc, List.cons_append, List.nil_append]
  rw [foldlM_switches, foldlM_class rfl rfl, foldlM_option rfl class_read rfl _ (head?_localeName l),
    foldlM_cons (argument_hyphens rfl), foldlM_cons first]
  exact foldlM_operands rfl rfl files

/-! ## Files have names -/

/-- If this is a state, no file without a name has been taken. -/
def Named (r : Except Stop State) : Prop := ∀ s, r = .ok s → "" ∉ s.files

namespace Named

variable {r : Except Stop State} {f : State → Except Stop State}

theorem ok (h : "" ∉ s.files) : Named (.ok s) := by
  intro s' same
  rwa [← Except.ok.inj same]

theorem error (e : Stop) : Named (.error e) := by
  intro s same
  exact absurd same (by simp)

theorem bind (h : Named r) (step : ∀ s, "" ∉ s.files → Named (f s)) : Named (r >>= f) := by
  cases r with
  | error e => exact error e
  | ok s => exact step s (h s rfl)

theorem assign (h : "" ∉ s.files) (which : ValueOption) (value : String) :
    Named (s.assign which value) := by
  unfold State.assign
  cases which <;> dsimp only <;> split
  · exact error _
  · split
    · exact ok h
    · exact error _
  · exact error _
  · split
    · exact ok h
    · exact error _

theorem settle (h : "" ∉ s.files) : Named s.settle := by
  unfold State.settle
  dsimp only
  split
  · exact ok h
  · exact error _
  · exact assign (s := { s with pending := .nothing }) h _ _
  · split
    · exact error _
    · refine ok ?_
      simp_all

theorem switch (h : "" ∉ s.files) (which : Switch) (value : Option String) :
    Named (s.switch which value) := by
  unfold State.switch
  cases value with
  | some value => exact error _
  | none =>
    refine (settle h).bind fun s h => ?_
    cases which <;> dsimp only
    case help | version => exact error _
    all_goals
      split
      · exact error _
      · exact ok h

theorem option (h : "" ∉ s.files) (which : ValueOption) (value : Option String) :
    Named (s.option which value) := by
  refine (settle h).bind fun s h => ?_
  cases value with
  | none => exact ok h
  | some value => exact assign h which value

theorem long (h : "" ∉ s.files) (written : List Char) : Named (s.long written) := by
  unfold State.long
  split
  split
  · exact option h _ _
  · exact option h _ _
  · exact switch h _ _
  · exact switch h _ _
  · exact switch h _ _
  · exact switch h _ _
  · exact error _

theorem short (h : "" ∉ s.files) (letters : List Char) : Named (s.short letters) := by
  induction letters generalizing s with
  | nil => exact ok h
  | cons c cs ih =>
    unfold State.short
    split
    · exact (switch h _ _).bind fun s h => ih h
    · exact (switch h _ _).bind fun s h => ih h
    · exact (switch h _ _).bind fun s h => ih h
    · split <;> exact option h _ _
    · exact error _

theorem operand (h : "" ∉ s.files) (file : String) : Named (s.operand file) := by
  unfold State.operand
  split
  · exact ok h
  · exact (settle h).bind fun s h => ok h

theorem argument (h : "" ∉ s.files) (arg : String) : Named (s.argument arg) := by
  unfold State.argument
  split
  · exact operand h arg
  · split
    · exact ok h
    · exact long h _
    · exact short h _
    · split
      · exact ok h
      · exact operand h arg

/-- Whatever the arguments, each file that they name has a name. -/
theorem foldlM (h : "" ∉ s.files) (args : List String) : Named (args.foldlM State.argument s) := by
  induction args generalizing s with
  | nil => exact ok h
  | cons arg args ih => exact (argument h arg).bind fun s h => ih h

end Named

end State

/-- The options that are asked for when all has been read. -/
def State.options (s : State) : Options :=
  ⟨s.files, s.tokenClass, s.sharedIds, s.locale.getD .en, s.verbose⟩

theorem readOptions_eq_ok {args : List String} {o : Options} :
    readOptions args = .ok o ↔ ∃ s t, args.foldlM State.argument .start = .ok s ∧
      s.settle = .ok t ∧ t.files ≠ [] ∧ t.options = o := by
  rw [readOptions]
  cases args.foldlM State.argument .start with
  | error e => simp [bind, Except.bind]
  | ok s =>
    cases settled : s.settle with
    | error e => simp [bind, Except.bind, settled]
    | ok t =>
      by_cases none_given : t.files = [] <;>
        simp [bind, Except.bind, settled, none_given, State.options]

theorem readArguments_eq_ok {args : List String} {o : Options} :
    readArguments args = .ok (.tokenize o) ↔ readOptions args = .ok o := by
  unfold readArguments
  split <;> simp_all

theorem files_of_readArguments {args : List String} {o : Options}
    (h : readArguments args = .ok (.tokenize o)) : o.files ≠ [] ∧ "" ∉ o.files := by
  obtain ⟨s, t, read, settled, some_file, rfl⟩ := readOptions_eq_ok.1 (readArguments_eq_ok.1 h)
  have unnamed : "" ∉ s.files := State.Named.foldlM (by simp [State.start]) args s read
  exact ⟨some_file, State.Named.settle unnamed t settled⟩

theorem readArguments_arguments {o : Options} (some_file : o.files ≠ []) (named : "" ∉ o.files) :
    readArguments o.arguments = .ok (.tokenize o) := by
  obtain ⟨file, files, files_eq⟩ := List.exists_cons_of_ne_nil some_file
  have in_order : (files.reverse ++ [file]).reverse = o.files := by simp [files_eq]
  have all_named : (files.reverse ++ [file]).contains "" = false := by
    rw [← List.contains_reverse, in_order]
    simpa using named
  have settled : (State.asked o (.operands (files.reverse ++ [file]))).settle =
      .ok { State.asked o .nothing with files := o.files } := by
    simp only [State.settle, State.asked, all_named, in_order, Bool.false_eq_true, if_false,
      List.nil_append]
  exact readArguments_eq_ok.2 (readOptions_eq_ok.2
    ⟨_, _, State.foldlM_arguments o files_eq, settled, some_file, rfl⟩)

/-- Options are asked for by some command line exactly if they name files, and each of these has a
name. -/
theorem exists_readArguments_iff (o : Options) :
    (∃ args, readArguments args = .ok (.tokenize o)) ↔ o.files ≠ [] ∧ "" ∉ o.files := by
  constructor
  · rintro ⟨args, asked⟩
    exact files_of_readArguments asked
  · rintro ⟨some_file, named⟩
    exact ⟨o.arguments, readArguments_arguments some_file named⟩

end GoScan.Command
