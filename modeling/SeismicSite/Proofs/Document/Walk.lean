import Mathlib.Data.List.Sort
import SeismicSite.Document.Reader
import SeismicSite.Proofs.Text.ByteOrder
/-!
# All faults of a document

The reader stops at the first fault. A survey does not: it looks at every item
and every member, in the order of indexes and of the bytes of names, and
gathers what is wrong anywhere. Only where the type of an object is at fault are
its members left alone, and an object itself is built only of clear members.
-/

namespace SeismicSite

/-- What looking through something gives: its value, or its faults, of which
there is a first. -/
inductive Survey (α : Type) where
  | clear (value : α)
  | faulty (first : Finding) (others : List Finding)

namespace Survey

variable {α β : Type}

/-- The faults in the order in which they were met. -/
def faults : Survey α → List Finding
  | clear _ => []
  | faulty first others => first :: others

/-- The survey of something that has one fault of its own. -/
def fault (fault : Fault) : Survey α :=
  faulty (.here fault) []

/-- The survey with another value. -/
def map (f : α → β) : Survey α → Survey β
  | clear value => clear (f value)
  | faulty first others => faulty first others

/-- The survey of a part, seen from the value that the part belongs to. -/
def under (step : Step) : Survey α → Survey α
  | clear value => clear value
  | faulty first others => faulty (first.under step) (others.map (.under step))

/-- Two surveys as one, with the faults of both. -/
def both : Survey α → Survey β → Survey (α × β)
  | clear a, clear b => clear (a, b)
  | clear _, faulty first others => faulty first others
  | faulty first others, rest => faulty first (others ++ rest.faults)

/-- All surveys as one, with the faults of each. -/
def collect : List (Survey α) → Survey (List α)
  | [] => clear []
  | survey :: surveys => (both survey (collect surveys)).map fun both => both.1 :: both.2

/-- Looks further, if nothing was wrong so far. -/
def andThen : Survey α → (α → Survey β) → Survey β
  | clear value, next => next value
  | faulty first others, _ => faulty first others

end Survey

namespace Document

/-! ## Faults of an object's own -/

/-- The kind that a type names, if it is a text that names one. -/
def kindOfType? : Json → Option EntityKind
  | .string name => EntityKind.ofTypeName? name
  | _ => none

/-- Looks at the type of an object inside a site, which must tell its kind. -/
def surveyKind (members : List (String × Json)) : Survey EntityKind :=
  match Json.member? members typeMember with
  | none => .fault .missingType
  | some named =>
    match kindOfType? named with
    | none => .fault (.unknownType named)
    | some kind => .clear kind

/-- Looks at the type of a site object, which may be missing. -/
def surveySiteType (members : List (String × Json)) : Survey Unit :=
  match Json.member? members typeMember with
  | none => .clear ()
  | some named =>
    match kindOfType? named with
    | none => .fault (.unknownType named)
    | some .site => .clear ()
    | some (.element _) => .fault .notASite

/-- Builds an entity of a record: a field may not conform, or fields may be
left over. -/
def surveyEntity (kind : EntityKind) (record : Record) : Survey kind.Carrier :=
  match (kind.take record).result with
  | .error error => .fault (.invalid error)
  | .ok entity =>
    match (kind.take record).left.names with
    | [] => .clear entity
    | name :: names => .fault (.unknownMembers (name :: names))

/-- Builds an entity inside a site, where no site may stand. -/
def surveyNested (kind : EntityKind) (record : Record) : Survey FieldValue :=
  match kind with
  | .site => .fault (.notNestable .site)
  | .element kind =>
    (surveyEntity (.element kind) record).map fun entity => .element (kind.toElement entity)

/-! ## The walk -/

/-- The fields of an object, those of its members that are not its type, in the
order of the bytes of their names. -/
def surveyFields (members : List (String × Survey FieldValue)) :
    Survey (List (String × FieldValue)) :=
  .collect <|
    ((members.filter fun member => member.1 ≠ typeMember).insertionSort
      fun a b => utf8 a.1 ≤ utf8 b.1).map fun member => member.2.map fun value => (member.1, value)

mutual

/-- Looks through a value inside a site. -/
def surveyValue : Json → Survey FieldValue
  | .null => .fault (.unsupportedValue .null)
  | .bool _ => .fault (.unsupportedValue .boolean)
  | .number value => .clear (numberValue value)
  | .string value => .clear (.text value)
  | .array items => (Survey.collect (surveyItems 0 items)).map .list
  | .object members =>
    (surveyKind members).andThen fun kind =>
      (surveyFields (surveyMembers members)).andThen fun fields =>
        surveyNested kind (.ofList fields)

/-- Looks through items, the first of which has the given index. -/
def surveyItems (index : Nat) : List Json → List (Survey FieldValue)
  | [] => []
  | item :: items => (surveyValue item).under (.item index) :: surveyItems (index + 1) items

/-- Looks through members, one by one. -/
def surveyMembers : List (String × Json) → List (String × Survey FieldValue)
  | [] => []
  | (name, value) :: members =>
    (name, (surveyValue value).under (.member name)) :: surveyMembers members

end

/-- Looks through a site object. -/
def surveySite : Json → Survey Site
  | .object members =>
    (surveySiteType members).andThen fun _ =>
      (surveyFields (surveyMembers members)).andThen fun fields =>
        surveyEntity .site (.ofList fields)
  | _ => .fault .notASite

/-- Looks through items one by one, the first of which has the given index. -/
def surveyEach {α : Type} (surveyItem : Json → Survey α) (index : Nat) :
    List Json → List (Survey α)
  | [] => []
  | item :: items => (surveyItem item).under (.item index) :: surveyEach surveyItem (index + 1) items

/-- Looks through a document. -/
def survey : Json → Survey (List Site)
  | .array items => .collect (surveyEach surveySite 0 items)
  | .object members => (surveySite (.object members)).map List.singleton
  | _ => .fault .notASite

/-- **All faults of a document**, in the order in which a walk meets them. -/
def faults (document : Json) : List DocumentError :=
  (survey document).faults.map (.at documentRoot)

end Document

end SeismicSite
