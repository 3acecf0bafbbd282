import SeismicSite.Document.Encode
import SeismicSite.Inspect.Event
import SeismicSite.Summary
/-!
# Runs of the inspector

A run takes its files one after the other. A valid file prints each of its
sites; a failing one prints nothing and is counted, and under `--strict` it
ends the run. `Report.add` is the step for one file and `Report.addAllBy` the
loop over many, whatever the way their texts are obtained; `inspect` is the
run over a given file system.
-/

namespace SeismicSite.Inspect

/-- What the name of a file leads to: its text, or the reason why not. -/
abbrev FileSystem := String → Except Unreadable String

/-- The sites of a file. -/
def sitesOf (content : Except Unreadable String) : Except Failure (List Site) := do
  let text ← content.mapError .unreadable
  (Document.parse text).mapError .rejected

/-- A site as printed, with the line feed that ends it. -/
def printed (json : Bool) (site : Site) : String :=
  (if json then site.toJson.pretty else site.summary) ++ "\n"

/-- The announcements of the reading of a file. -/
def announcements (content : Except Unreadable String) : List Event :=
  match content with
  | .ok text => (Document.traceText text).map .announced
  | .error _ => []

/-- What a run has done so far. -/
structure Report where
  output : String := ""
  events : List Event := []
  /-- The number of files that failed. -/
  failed : Nat := 0
  /-- The file at which a strict run stopped. -/
  stoppedAt : Option String := none

/-- Takes one more file. -/
def Report.add (report : Report) (options : Options) (file : String)
    (content : Except Unreadable String) : Report :=
  let before := report.events ++ announcements content
  match sitesOf content with
  | .ok sites =>
    { report with
      output := report.output ++ String.join (sites.map (printed options.json))
      events := before ++ [.valid file sites.length] }
  | .error failure =>
    { report with
      events := before ++ [.failed file failure]
      failed := report.failed + 1
      stoppedAt := if options.strict then some file else none }

/-- Takes files in order until the run stops. The text of a file is had by an
effect when its turn comes, so a file behind the stop is not read. -/
def Report.addAllBy {m : Type → Type} [Monad m] (read : String → m (Except Unreadable String))
    (report : Report) (options : Options) : List String → m Report
  | [] => pure report
  | file :: rest => do
    let next := report.add options file (← read file)
    if next.stoppedAt.isSome then pure next else addAllBy read next options rest

/-- Takes files whose texts are looked up. -/
def Report.addAll (report : Report) (options : Options) (files : FileSystem)
    (names : List String) : Report :=
  Id.run (report.addAllBy (fun file => pure (files file)) options names)

theorem Report.addAll_nil (report : Report) (options : Options) (files : FileSystem) :
    report.addAll options files [] = report := rfl

theorem Report.addAll_cons (report : Report) (options : Options) (files : FileSystem)
    (file : String) (rest : List String) :
    report.addAll options files (file :: rest) =
      if (report.add options file (files file)).stoppedAt.isSome
      then report.add options file (files file)
      else (report.add options file (files file)).addAll options files rest := rfl

/-- The run over the files of the command line. -/
def inspect (options : Options) (files : FileSystem) : Report :=
  ({} : Report).addAll options files options.files

/-! ## What the caller sees -/

/-- The end of a run: the exit status, what was printed, the lines of the
log, and the final word if the run failed. -/
structure Outcome where
  exit : Nat
  output : String
  log : List String
  failure : Option String

/-- The lines of the events that are logged up to the given rank. -/
def logLines (detail : Nat) (events : List Event) : List String :=
  (events.filter fun event => event.level.rank ≤ detail).map Event.line

/-- The end of an inspection: a failure if any file failed. -/
def Report.outcome (report : Report) (options : Options) : Outcome :=
  match report.stoppedAt with
  | some file =>
    { exit := 1
      output := report.output
      log := logLines options.detail report.events
      failure := some (file ++ " failed validation") }
  | none =>
    if report.failed = 0 then
      { exit := 0
        output := report.output
        log := logLines options.detail report.events
        failure := none }
    else
      let total := options.files.length
      { exit := 1
        output := report.output
        log := logLines options.detail (report.events ++ [.someFailed report.failed total])
        failure := some (toString report.failed ++ " of " ++ toString total
          ++ " documents failed validation") }

/-- The answer to a request for the version. -/
def versionText : String := "sitexml-inspect 0.1.0\n"

/-- The answer to a request for help. -/
def helpText : String :=
  "Usage: sitexml-inspect [--json] [--strict] [-v|-q]... FILE...\n"

/-- A run of the inspector on a command line. -/
def run (arguments : List String) (files : FileSystem) : Outcome :=
  match Command.ofArguments? arguments with
  | some (.inspect options) => (inspect options files).outcome options
  | some .version => ⟨0, versionText, [], none⟩
  | some .help => ⟨0, helpText, [], none⟩
  | none => ⟨2, "", [], none⟩

end SeismicSite.Inspect
