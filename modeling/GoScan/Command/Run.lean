import GoScan.Command.Arguments
import GoScan.Command.Files
import GoScan.Scanner

/-!
The program as a function: from its arguments and the files it can read to what it prints and how
it ends. Files are scanned in order; one that cannot be read or scanned does not stop the others.
-/

namespace GoScan.Command

structure Outcome where
  code : Nat
  output : String
  errors : String
deriving DecidableEq, Repr

/-- What one file makes the program print, and whether all went well. -/
structure FileReport where
  ok : Bool
  output : String
  errors : String
deriving DecidableEq, Repr

/-- A line of the log as it is written where there is no terminal; further lines of the message are
indented. -/
def logLine (level : LogLevel) (target message : String) : String :=
  let name := level.name.toList
  let padded := name ++ List.replicate (5 - name.length) ' '
  let indented := message.toList.flatMap fun c => if c = '\n' then ['\n', ' ', ' ', ' ', ' '] else [c]
  Text.Terminal.plain
    ("[" ++ String.ofList padded ++ " " ++ target ++ "] " ++ String.ofList indented ++ "\n")

/-- The log is shown from this level on. -/
def logThreshold (verbose : Bool) : LogLevel := if verbose then .debug else .warn

/-- The log of one file's scan, which ends with the name of the file. -/
def fileLog (options : Options) (file : String) (events : Array Event) : String :=
  let threshold := logThreshold options.verbose
  let shown := events.toList.filter (·.level.shownAt threshold)
  let done :=
    if LogLevel.info.shownAt threshold then logLine .info "golex" ("Tokenized " ++ file) else ""
  String.join (shown.map fun e => logLine e.level e.target e.message) ++ done

/-- The recorded tokens that are to be shown. -/
def selected (options : Options) (lists : TokenLists) : Array Token :=
  match options.tokenClass with
  | some c => lists.ofClass c
  | none => lists.all

/-- Scans one file with the identifier table given, which goes on to the next file. -/
def scanFile (options : Options) (file : String) (contents : Except ReadError String)
    (table : IdentTable) : FileReport × IdentTable :=
  match contents with
  | .error e => (⟨false, "", "Error: cannot read " ++ file ++ ": " ++ e.message ++ "\n"⟩, table)
  | .ok source =>
    let step := ((Scanner.ofText source).withLocale options.locale).analyze Go.grammar table
    let log := fileLog options file step.events
    let lines := (selected options step.scanner.lists).toList.map fun t => t.display ++ "\n"
    let output := "-> " ++ file ++ "\n" ++ String.join lines
    match step.answer with
    | none => (⟨true, output, log⟩, step.table)
    | some f => (⟨false, output, log ++ f.report source.toList file⟩, step.table)

/-- Scans file after file. Without shared numbers each starts with an empty table. -/
def scanFiles (options : Options) (read : String → Except ReadError String) :
    List String → IdentTable → List FileReport
  | [], _ => []
  | file :: files, table =>
    let (report, after) := scanFile options file (read file) table
    report :: scanFiles options read files (if options.sharedIds then after else .empty)

def tokenize (options : Options) (read : String → Except ReadError String) : Outcome :=
  let reports := scanFiles options read options.files .empty
  ⟨if reports.all (·.ok) then 0 else 1,
   String.join (reports.map (·.output)), String.join (reports.map (·.errors))⟩

def helpText : String :=
  "Tokenize Go source files\n\nUsage: golex [OPTIONS] <FILES>...\n\nArguments:\n"
    ++ "  <FILES>...  Source files to tokenize\n\nOptions:\n"
    ++ "  -c, --class <CLASS>    Only print tokens of this class"
    ++ " (keyword, operator, id, constant, punctuation)\n"
    ++ "      --shared-ids       Keep one identifier table for all files,"
    ++ " so ids carry over between them\n"
    ++ "      --locale <LOCALE>  Language of diagnostic messages (en, ru) [default: en]\n"
    ++ "  -v, --verbose          Enable verbose output\n"
    ++ "  -h, --help             Print help\n"
    ++ "  -V, --version          Print version\n"

def versionText : String := "golex 0.1.0\n"

def run (args : List String) (read : String → Except ReadError String) : Outcome :=
  match readArguments args with
  | .ok (.tokenize options) => tokenize options read
  | .ok .help => ⟨0, helpText, ""⟩
  | .ok .version => ⟨0, versionText, ""⟩
  | .error e => ⟨2, "", e.report⟩

end GoScan.Command
