import GoScan.Text.Lines

/-!
Reading a file, and what can go wrong; a directory as plain data.
-/

namespace GoScan.Command

inductive ReadError where
  | notFound
  | isDirectory
  | notDirectory
  | nameTooLong
  | badName
  | notText
  | other (message : String)
deriving DecidableEq, Repr

def ReadError.message : ReadError → String
  | notFound => "No such file or directory (os error 2)"
  | isDirectory => "Is a directory (os error 21)"
  | notDirectory => "Not a directory (os error 20)"
  | nameTooLong => "File name too long (os error 36)"
  | badName => "file name contained an unexpected NUL byte"
  | notText => "stream did not contain valid UTF-8"
  | other message => message

/-- The contents of a file as text. -/
def decode (bytes : ByteArray) : Except ReadError String :=
  match String.fromUTF8? bytes with
  | some text => .ok text
  | none => .error .notText

/-- A directory that holds files only, by name. -/
structure Directory where
  files : List (String × ByteArray)

namespace Directory

def contents? (d : Directory) (name : String) : Option ByteArray :=
  (d.files.reverse.find? (·.1 = name)).map Prod.snd

/-- The longest name that a file may have, and the longest path, in bytes. -/
def maxName : Nat := 255
def maxPath : Nat := 4095

/-- Where a path has led. Outside the directory there are only directories, without files that
could be named. -/
inductive Place where
  | inside | outside
  | file (contents : ByteArray)

/-- Follows a path part by part; an empty part and a single period stay where they are. -/
def follow (d : Directory) (place : Place) : List (List Char) → Except ReadError Place
  | [] => .ok place
  | part :: parts =>
    match place with
    | .file _ => .error .notDirectory
    | .inside | .outside =>
      if part = [] ∨ part = ['.'] then d.follow place parts
      else if part = ['.', '.'] then d.follow .outside parts
      else
        let name := String.ofList part
        if maxName < name.utf8ByteSize then .error .nameTooLong
        else match place, d.contents? name with
          | .inside, some bytes => d.follow (.file bytes) parts
          | _, _ => .error .notFound

/-- The file at a path that starts in this directory. -/
def read (d : Directory) (path : String) : Except ReadError String :=
  if path.toList.contains '\x00' then .error .badName
  else if path.isEmpty then .error .notFound
  else if maxPath < path.utf8ByteSize then .error .nameTooLong
  else
    let start := if path.toList.head? = some '/' then Place.outside else .inside
    match d.follow start (Text.split '/' path.toList) with
    | .error e => .error e
    | .ok (.file bytes) => decode bytes
    | .ok _ => .error .isDirectory

end Directory

end GoScan.Command
