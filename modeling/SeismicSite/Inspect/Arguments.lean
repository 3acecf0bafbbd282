/-!
# Command line of the inspector

Options and files may be mixed; `--` ends the options. Arguments are taken
in order, so of a request for the version and a misuse the one that comes
first decides. No option can be abbreviated and none takes a value.
-/

namespace SeismicSite.Inspect

/-- How grave a log event is. -/
inductive Level where
  | error | warn | info | debug | trace
  deriving DecidableEq

namespace Level

/-- The rank of a level; details rank highest. -/
def rank : Level → Nat
  | error => 1
  | warn => 2
  | info => 3
  | debug => 4
  | trace => 5

end Level

/-- What the inspector is asked to do with which files. -/
structure Options where
  files : List String
  /-- Print the sites as JSON instead of a summary. -/
  json : Bool
  /-- Stop at the first file that fails. -/
  strict : Bool
  /-- Events up to this rank are logged. -/
  detail : Nat

/-- A valid command line. -/
inductive Command where
  | inspect (options : Options)
  | version
  | help

/-- The arguments met so far; files are kept last first. -/
structure Tally where
  files : List String := []
  json : Bool := false
  strict : Bool := false
  verbose : Nat := 0
  quiet : Nat := 0

/-- Why the arguments are not read to their end. -/
inductive Halt where
  | misuse
  | version
  | help

/-- What an option asks for. -/
inductive Switch where
  | json
  | strict
  | verbose
  | quiet
  | version
  | help

/-- The switch of a long option, dashes included. -/
def Switch.ofLong? : String → Option Switch
  | "--json" => some .json
  | "--strict" => some .strict
  | "--verbose" => some .verbose
  | "--quiet" => some .quiet
  | "--version" => some .version
  | "--help" => some .help
  | _ => none

/-- The switch of a short option. -/
def Switch.ofLetter? : Char → Option Switch
  | 'v' => some .verbose
  | 'q' => some .quiet
  | 'V' => some .version
  | 'h' => some .help
  | _ => none

namespace Tally

/-- A file, whose name must not be empty. -/
def addFile (tally : Tally) (name : String) : Except Halt Tally :=
  if name.isEmpty then .error .misuse else .ok { tally with files := name :: tally.files }

/-- The files behind the end of the options. -/
def addFiles (tally : Tally) : List String → Except Halt Tally
  | [] => .ok tally
  | name :: names => do (← tally.addFile name).addFiles names

/-- Does what a switch asks for. A switch that is not counted may be given
once. -/
def flip (tally : Tally) : Switch → Except Halt Tally
  | .json => if tally.json then .error .misuse else .ok { tally with json := true }
  | .strict => if tally.strict then .error .misuse else .ok { tally with strict := true }
  | .verbose => .ok { tally with verbose := tally.verbose + 1 }
  | .quiet => .ok { tally with quiet := tally.quiet + 1 }
  | .version => .error .version
  | .help => .error .help

/-- A switch, if there is one of the name given. -/
def addSwitch (tally : Tally) : Option Switch → Except Halt Tally
  | some switch => tally.flip switch
  | none => .error .misuse

/-- The letters of a cluster of short options. -/
def addLetters (tally : Tally) : List Char → Except Halt Tally
  | [] => .ok tally
  | letter :: letters => do (← tally.addSwitch (Switch.ofLetter? letter)).addLetters letters

/-- An option or a file. A dash alone is a file. -/
def addOne (tally : Tally) (argument : String) : Except Halt Tally :=
  match argument.toList with
  | '-' :: '-' :: _ => tally.addSwitch (Switch.ofLong? argument)
  | '-' :: letter :: letters => tally.addLetters (letter :: letters)
  | _ => tally.addFile argument

/-- All arguments, in order. -/
def addAll (tally : Tally) : List String → Except Halt Tally
  | [] => .ok tally
  | "--" :: names => tally.addFiles names
  | argument :: arguments => do (← tally.addOne argument).addAll arguments

/-- The rank of detail asked for: that of `info`, one more for every
`verbose` and one less for every `quiet`. -/
def detail (tally : Tally) : Nat :=
  Level.info.rank + tally.verbose - tally.quiet

/-- The options that the arguments make: at least one file, and not both
louder and quieter. -/
def toOptions? (tally : Tally) : Option Options :=
  if tally.files.isEmpty || (0 < tally.verbose && 0 < tally.quiet) then none
  else some
    { files := tally.files.reverse
      json := tally.json
      strict := tally.strict
      detail := tally.detail }

end Tally

/-- The command that the arguments give, or none if they are misused. -/
def Command.ofArguments? (arguments : List String) : Option Command :=
  match ({} : Tally).addAll arguments with
  | .ok tally => tally.toOptions?.map .inspect
  | .error .version => some .version
  | .error .help => some .help
  | .error .misuse => none

end SeismicSite.Inspect
