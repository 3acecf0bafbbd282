import SeismicSite.Field.Error
import SeismicSite.Json.Printer
/-!
# Faults of documents

What can be wrong with a value of a document, and where. A fault is the
cause alone; a `Finding` adds the steps that lead to the faulty value, and
a `DocumentError` the path from a named root. A path is the name of the
root and the steps from there, each to a member of an object or an item of
an array.
-/

namespace SeismicSite

/-! ## Paths -/

/-- A step from a value to a part of it. -/
inductive Step where
  | member (name : String)
  | item (index : Nat)
  deriving DecidableEq

namespace Step

/-- A step as written behind the value it starts from. -/
def write : Step → String
  | member name => "." ++ name
  | item index => "[" ++ toString index ++ "]"

/-- The part of a value that a step leads to. -/
def follow? : Step → Json → Option Json
  | member name, .object members => Json.member? members name
  | item index, .array items => items[index]?
  | _, _ => none

end Step

/-- The part of a value that steps lead to, one after the other. -/
def Json.at? (value : Json) : List Step → Option Json
  | [] => some value
  | step :: steps => (step.follow? value).bind fun part => part.at? steps

/-- A place in a document: the root's name and the steps from it. -/
structure Path where
  root : String
  steps : List Step
  deriving DecidableEq

/-- A path as written in messages. -/
def Path.write (path : Path) : String :=
  path.root ++ String.join (path.steps.map Step.write)

/-- The name of the root of a whole document. -/
def documentRoot : String := "$"

/-! ## Faults -/

/-- The JSON values that stand for nothing in a site document. The number
of a text is always finite, so the last never occurs. -/
inductive Unsupported where
  | null
  | boolean
  | nonFinite
  deriving DecidableEq

/-- The name of an unsupported value. -/
def Unsupported.word : Unsupported → String
  | null => "null"
  | boolean => "boolean"
  | nonFinite => "non-finite number"

/-- What is wrong with a value of a document. -/
inductive Fault where
  /-- Neither a site object nor, at the top, an array of them. -/
  | notASite
  /-- An object inside a site that does not tell its type. -/
  | missingType
  /-- An object whose type is `found`, which names no kind of entity. -/
  | unknownType (found : Json)
  /-- An entity that may not stand inside another one. -/
  | notNestable (kind : EntityKind)
  /-- A value that stands for nothing. -/
  | unsupportedValue (found : Unsupported)
  /-- Members that the kind of the object does not declare. -/
  | unknownMembers (names : List String)
  /-- A declared field that does not conform. -/
  | invalid (error : FieldError)

namespace Fault

/-- The value of a `type` member as messages show it: a text in single
quotes, anything else as compact JSON. -/
def shownType : Json → String
  | .string name => "'" ++ name ++ "'"
  | other => other.compact

/-- The text of a fault. -/
def message : Fault → String
  | notASite => "expected a site object or an array of site objects"
  | missingType => "object has no \"type\" member"
  | unknownType found => "unknown SiteXML type " ++ shownType found
  | notNestable kind => kind.typeName ++ " cannot be nested inside another element"
  | unsupportedValue found =>
    found.word ++ " values are not used in SiteXML; leave the member out instead"
  | unknownMembers names => "unknown members " ++ FieldError.bracketed names
  | invalid error => error.message

end Fault

/-- A fault and the steps that lead to the value that has it. -/
structure Finding where
  steps : List Step
  fault : Fault

namespace Finding

/-- A fault of the value at hand. -/
def here (fault : Fault) : Finding := ⟨[], fault⟩

/-- A finding in a part, seen from the value that the part belongs to. -/
def under (step : Step) (finding : Finding) : Finding :=
  ⟨step :: finding.steps, finding.fault⟩

end Finding

/-- A fault and its place in a document. -/
structure DocumentError where
  path : Path
  fault : Fault

/-- A finding in a value that stands at the root of that name. -/
def DocumentError.at (root : String) (finding : Finding) : DocumentError :=
  ⟨⟨root, finding.steps⟩, finding.fault⟩

/-- The text of a document error. -/
def DocumentError.message (error : DocumentError) : String :=
  error.path.write ++ ": " ++ error.fault.message

end SeismicSite
