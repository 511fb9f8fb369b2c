import GoScan.Text.Terminal
import GoScan.Vocabulary

/-!
The command line: what its arguments ask for, and what is wrong with them. Values are read when the
next argument shows that they are complete, and an argument that does not exist is reported before a
bad value in front of it.
-/

namespace GoScan.Command

structure Options where
  files : List String
  /-- Show tokens of this class only. -/
  tokenClass : Option TokenClass
  /-- One identifier table for all files. -/
  sharedIds : Bool
  locale : Locale
  verbose : Bool
deriving DecidableEq, Repr

/-- The options that take a value. -/
inductive ValueOption where
  | tokenClass | locale
deriving DecidableEq, Repr

inductive Switch where
  | sharedIds | verbose | help | version
deriving DecidableEq, Repr

/-- How an option is shown in messages. -/
def ValueOption.usage : ValueOption → String
  | tokenClass => "--class <CLASS>"
  | locale => "--locale <LOCALE>"

def Switch.usage : Switch → String
  | sharedIds => "--shared-ids"
  | verbose => "--verbose"
  | help => "--help"
  | version => "--version"

inductive UsageError where
  | unknownArgument (arg : String)
  | repeated (usage : String)
  | missingValue (usage : String)
  | unexpectedValue (value usage : String)
  | badValue (value usage : String) (why : UnknownName)
  | missingFiles
deriving DecidableEq, Repr

open Text.Terminal (emphasized) in
/-- What is wrong, with the user's words set off. The reason why a value is refused is not. -/
def UsageError.message : UsageError → String
  | unknownArgument arg => "unexpected argument '" ++ emphasized arg ++ "' found"
  | repeated usage => "the argument '" ++ emphasized usage ++ "' cannot be used multiple times"
  | missingValue usage => "a value is required for '" ++ emphasized usage ++ "' but none was supplied"
  | unexpectedValue value usage =>
    "unexpected value '" ++ emphasized value ++ "' for '" ++ emphasized usage
      ++ "' found; no more were expected"
  | badValue value usage why =>
    "invalid value '" ++ emphasized value ++ "' for '" ++ emphasized usage ++ "': " ++ why.message
  | missingFiles => "the following required arguments were not provided:"

/-- The text of the error where there is no terminal. -/
def UsageError.report (e : UsageError) : String :=
  Text.Terminal.plain (Text.Terminal.emphasized "error:" ++ " " ++ e.message
    ++ "\n\nFor more information, try '" ++ Text.Terminal.emphasized "--help" ++ "'.\n")

/-- What the command line asks for. -/
inductive Request where
  | tokenize (options : Options)
  | help
  | version
deriving DecidableEq, Repr

/-- Why reading the arguments stops before their end. -/
inductive Stop where
  | error (e : UsageError)
  | help
  | version

/-- What has been given but not read yet. -/
inductive Pending where
  | nothing
  | value (option : ValueOption) (given : Option String)
  /-- Operands, last first. -/
  | operands (files : List String)

structure State where
  tokenClass : Option TokenClass
  locale : Option Locale
  sharedIds : Bool
  verbose : Bool
  files : List String
  pending : Pending
  /-- Only operands follow. -/
  operandsOnly : Bool

namespace State

def start : State := ⟨none, none, false, false, [], .nothing, false⟩

def assign (s : State) (option : ValueOption) (value : String) : Except Stop State :=
  match option with
  | .tokenClass =>
    if s.tokenClass.isSome then .error (.error (.repeated option.usage))
    else match TokenClass.ofName value with
      | .ok c => .ok { s with tokenClass := some c }
      | .error why => .error (.error (.badValue value option.usage why))
  | .locale =>
    if s.locale.isSome then .error (.error (.repeated option.usage))
    else match Locale.ofName value with
      | .ok l => .ok { s with locale := some l }
      | .error why => .error (.error (.badValue value option.usage why))

/-- Reads what is pending. -/
def settle (s : State) : Except Stop State :=
  let settled := { s with pending := .nothing }
  match s.pending with
  | .nothing => .ok s
  | .value option none => .error (.error (.missingValue option.usage))
  | .value option (some value) => settled.assign option value
  | .operands files =>
    if files.contains "" then .error (.error (.missingValue "<FILES>..."))
    else .ok { settled with files := s.files ++ files.reverse }

def switch (s : State) (which : Switch) (value : Option String) : Except Stop State :=
  match value with
  | some value => .error (.error (.unexpectedValue value which.usage))
  | none => do
    let s ← s.settle
    match which with
    | .help => .error .help
    | .version => .error .version
    | .sharedIds =>
      if s.sharedIds then .error (.error (.repeated which.usage)) else .ok { s with sharedIds := true }
    | .verbose =>
      if s.verbose then .error (.error (.repeated which.usage)) else .ok { s with verbose := true }

def option (s : State) (which : ValueOption) (value : Option String) : Except Stop State := do
  let s ← s.settle
  match value with
  | some value => s.assign which value
  | none => .ok { s with pending := .value which none }

/-- An argument that starts with two hyphens: a name, and a value behind an equals sign. -/
def long (s : State) (written : List Char) : Except Stop State :=
  let (name, value) := match written.span (· != '=') with
    | (name, _ :: value) => (String.ofList name, some (String.ofList value))
    | (name, []) => (String.ofList name, none)
  match name with
  | "class" => s.option .tokenClass value
  | "locale" => s.option .locale value
  | "shared-ids" => s.switch .sharedIds value
  | "verbose" => s.switch .verbose value
  | "help" => s.switch .help value
  | "version" => s.switch .version value
  | _ => .error (.error (.unknownArgument ("--" ++ name)))

/-- The letters behind a single hyphen. What follows the letter of an option is its value. -/
def short (s : State) : List Char → Except Stop State
  | [] => .ok s
  | c :: cs =>
    match c with
    | 'v' => do short (← s.switch .verbose none) cs
    | 'h' => do short (← s.switch .help none) cs
    | 'V' => do short (← s.switch .version none) cs
    | 'c' =>
      match cs with
      | [] => s.option .tokenClass none
      | '=' :: value => s.option .tokenClass (some (String.ofList value))
      | value => s.option .tokenClass (some (String.ofList value))
    | _ => .error (.error (.unknownArgument (String.ofList ['-', c])))

def operand (s : State) (arg : String) : Except Stop State :=
  match s.pending with
  | .operands files => .ok { s with pending := .operands (arg :: files) }
  | _ => do
    let s ← s.settle
    .ok { s with pending := .operands [arg] }

def argument (s : State) (arg : String) : Except Stop State :=
  if s.operandsOnly then s.operand arg
  else match arg.toList with
    | ['-', '-'] => .ok { s with operandsOnly := true }
    | '-' :: '-' :: written => s.long written
    | '-' :: c :: cs => s.short (c :: cs)
    | _ =>
      match s.pending with
      | .value option none => .ok { s with pending := .value option (some arg) }
      | _ => s.operand arg

end State

def readOptions (args : List String) : Except Stop Options := do
  let s ← (← args.foldlM State.argument .start).settle
  if s.files.isEmpty then .error (.error .missingFiles)
  else .ok ⟨s.files, s.tokenClass, s.sharedIds, s.locale.getD .en, s.verbose⟩

def readArguments (args : List String) : Except UsageError Request :=
  match readOptions args with
  | .ok options => .ok (.tokenize options)
  | .error .help => .ok .help
  | .error .version => .ok .version
  | .error (.error e) => .error e

end GoScan.Command
