import GoScan.Command.Run

/-!
The command-line program. All it adds to `Command.run` is reading files and writing text.
-/

namespace GoScan.Command

def ReadError.ofIO : IO.Error → ReadError
  | .noFileOrDirectory .. => .notFound
  | .inappropriateType _ code _ => if code = 21 then .isDirectory else .notDirectory
  | e => .other (toString e)

def readFile (path : String) : IO (Except ReadError String) := do
  try
    return decode (← IO.FS.readBinFile path)
  catch e =>
    return .error (.ofIO e)

end GoScan.Command

def main (args : List String) : IO UInt32 := do
  let files := match GoScan.Command.readArguments args with
    | .ok (.tokenize options) => options.files
    | _ => []
  let contents ← files.mapM fun file => return (file, ← GoScan.Command.readFile file)
  let outcome := GoScan.Command.run args fun file => (contents.lookup file).getD (.error .notFound)
  IO.eprint outcome.errors
  IO.print outcome.output
  return UInt32.ofNat outcome.code
