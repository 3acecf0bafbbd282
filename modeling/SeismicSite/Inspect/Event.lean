import SeismicSite.Document.Trace
import SeismicSite.Inspect.Arguments
import SeismicSite.Text.Quoted
/-!
# Log events of the inspector

Every event has a level, the part of the program it comes from, a message
and some named values. A message names the whole chain of causes, so the
text of a rejected field comes once with its path and once alone.
-/

namespace SeismicSite.Inspect

/-- Why the text of a file cannot be had. -/
inductive Unreadable where
  | notFound
  | directory
  | notUtf8
  | other (reason : String)
  deriving DecidableEq

/-- The text of a reason why a file cannot be read. -/
def Unreadable.message : Unreadable → String
  | notFound => "No such file or directory (os error 2)"
  | directory => "Is a directory (os error 21)"
  | notUtf8 => "stream did not contain valid UTF-8"
  | other reason => reason

/-- Why a file fails: it cannot be read, or it is no site document. -/
inductive Failure where
  | unreadable (reason : Unreadable)
  | rejected (error : ReadError)

/-- The text of a failure of a file with all its causes. The details of a
text that is no JSON are not part of it. -/
def Failure.message (file : String) : Failure → String
  | unreadable reason => "Failed to read " ++ file ++ ": " ++ reason.message
  | rejected .malformed => "Malformed JSON:"
  | rejected (.document error) =>
    match error.fault with
    | .invalid cause => error.message ++ ": " ++ cause.message
    | _ => error.message

/-- Something worth a line in the log. -/
inductive Event where
  | announced (object : Announcement)
  | valid (file : String) (sites : Nat)
  | failed (file : String) (failure : Failure)
  | someFailed (count total : Nat)

namespace Event

/-- The level of an event. -/
def level : Event → Level
  | announced _ => .debug
  | valid _ _ => .info
  | failed _ _ => .error
  | someFailed _ _ => .warn

/-- The part of the program that an event comes from. -/
def origin : Event → String
  | announced _ => "sitexml_inspect::document"
  | _ => "sitexml_inspect"

/-- The message of an event. -/
def message : Event → String
  | announced object => if object.kind.isSome then "Building entity" else "Building site"
  | valid _ _ => "Document is valid"
  | failed file failure => failure.message file
  | someFailed _ _ => "Some documents failed validation"

/-- The named values of an event, each with its name. -/
def values : Event → List (String × String)
  | announced object =>
    [("path", quoted (Path.write ⟨documentRoot, object.steps⟩))]
      ++ (object.kind.map fun kind => ("kind", kind.typeName)).toList
      ++ [("fields", toString object.fields)]
  | valid file sites => [("path", file), ("sites", toString sites)]
  | failed file _ => [("path", file)]
  | someFailed count total => [("failed", toString count), ("total", toString total)]

end Event

/-- The word of a level, right-aligned to five characters. -/
def Level.word : Level → String
  | error => "ERROR"
  | warn => " WARN"
  | info => " INFO"
  | debug => "DEBUG"
  | trace => "TRACE"

/-- The line of an event. -/
def Event.line (event : Event) : String :=
  event.level.word ++ " " ++ event.origin ++ ": " ++ harmless event.message
    ++ String.join (event.values.map fun (name, value) => " " ++ name ++ "=" ++ value)

end SeismicSite.Inspect
