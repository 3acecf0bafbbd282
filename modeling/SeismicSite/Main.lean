import SeismicSite.Inspect.Run
/-!
# The inspector as a program

Reads the files named on the command line, prints what the run prints and
logs what it logs, and ends with its exit status.
-/

namespace SeismicSite.Inspect

/-- The text of a file, or the reason why it cannot be had. -/
def readText (file : String) : IO (Except Unreadable String) := do
  try
    let bytes ← IO.FS.readBinFile file
    match String.fromUTF8? bytes with
    | some text => return .ok text
    | none => return .error .notUtf8
  catch
    | .noFileOrDirectory _ _ _ => return .error .notFound
    | .inappropriateType _ 21 _ => return .error .directory
    | .permissionDenied _ 13 _ => return .error (.other "Permission denied (os error 13)")
    | error => return .error (.other (toString error))

/-- Shows how a run ended and gives its exit status. -/
def finish (outcome : Outcome) : IO UInt32 := do
  IO.print outcome.output
  for line in outcome.log do
    IO.eprintln line
  if let some failure := outcome.failure then
    IO.eprintln ("Error: " ++ failure)
  return outcome.exit.toUInt32

end SeismicSite.Inspect

open SeismicSite.Inspect in
/-- The inspector. -/
def main (arguments : List String) : IO UInt32 := do
  match Command.ofArguments? arguments with
  | some (.inspect options) =>
    finish ((← ({} : Report).addAllBy readText options options.files).outcome options)
  | some .version => IO.print versionText; return 0
  | some .help => IO.print helpText; return 0
  | none => IO.eprint helpText; return 2
