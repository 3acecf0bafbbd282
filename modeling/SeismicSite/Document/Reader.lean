import SeismicSite.Schema.Entity
import SeismicSite.Document.Fault
import SeismicSite.Json.Parser
/-!
# Reading documents

A document is one site object or an array of them. Every object inside a
site tells its kind in its `type` member; all other members are its fields.
A value is read from the leaves up: first the type of an object, then its
members in order, then the object itself, which must hold the fields of its
kind and nothing else. The first fault met ends the reading.

Findings are relative to the value at hand and gain a step on the way out,
so that nothing but the path of an error depends on where a value stands.
-/

namespace SeismicSite

namespace Document

/-- The member that tells the kind of an object. -/
def typeMember : String := "type"

/-- The kind that a `type` member names. -/
def kindNamed : Json → Except Fault EntityKind
  | .string name =>
    match EntityKind.ofTypeName? name with
    | some kind => .ok kind
    | none => .error (.unknownType (.string name))
  | other => .error (.unknownType other)

/-- The kind of an object inside a site, which must tell it. -/
def objectKind (members : List (String × Json)) : Except Fault EntityKind :=
  match Json.member? members typeMember with
  | some named => kindNamed named
  | none => .error .missingType

/-- Accepts the members of a site object, which need not tell their kind
but must not tell another one. -/
def checkSite (members : List (String × Json)) : Except Fault Unit :=
  match Json.member? members typeMember with
  | none => .ok ()
  | some named => do
    match ← kindNamed named with
    | .site => .ok ()
    | .element _ => .error .notASite

/-- Builds an entity from a record that must hold nothing else. -/
def build (kind : EntityKind) (record : Record) : Except Fault kind.Carrier :=
  let taken := kind.take record
  match taken.result with
  | .error error => .error (.invalid error)
  | .ok entity =>
    if taken.left.isEmpty then .ok entity else .error (.unknownMembers taken.left.names)

/-- Builds what stands inside a site: any entity but a site. -/
def buildNested (kind : EntityKind) (record : Record) : Except Fault FieldValue :=
  match kind with
  | .site => .error (.notNestable .site)
  | .element inner => do
    let entity ← build (.element inner) record
    return .element (inner.toElement entity)

/-- Reads a number: as an integer if it is one of 64 bits, else as a
float. -/
def readNumber (number : JsonNumber) : Except Fault FieldValue :=
  match number.toInt64? with
  | some value => .ok (.integer value)
  | none =>
    match number.toFloat? with
    | some value => .ok (.float value)
    | none => .error (.unsupportedValue .nonFinite)

/-- The field value that a number is read as. -/
def numberValue : JsonNumber → FieldValue
  | .integer value _ _ =>
    if value ≤ Int64.maxValue.toInt then .integer (Int64.ofInt value)
    else .float (Float.ofInt value)
  | .float value _ => .float value

/-- **Every number is read**, so none is rejected for not being finite. -/
theorem readNumber_eq (number : JsonNumber) :
    readNumber number = .ok (numberValue number) := by
  cases number with
  | integer value lower upper =>
    by_cases hfits : value ≤ Int64.maxValue.toInt <;>
      simp [readNumber, JsonNumber.toInt64?, JsonNumber.toFloat?, numberValue, hfits]
  | float value finite => rfl

mutual

/-- Reads a value inside a site. -/
def readValue : Json → Except Finding FieldValue
  | .null => .error (.here (.unsupportedValue .null))
  | .bool _ => .error (.here (.unsupportedValue .boolean))
  | .number value => (readNumber value).mapError .here
  | .string value => .ok (.text value)
  | .array items => .list <$> readItems 0 items
  | .object members => do
    let kind ← (objectKind members).mapError .here
    let fields ← readMembers members
    (buildNested kind (.ofList fields)).mapError .here

/-- Reads the items of an array, the first of which has the given index. -/
def readItems (index : Nat) : List Json → Except Finding (List FieldValue)
  | [] => .ok []
  | item :: items => do
    let value ← (readValue item).mapError (.under (.item index))
    let values ← readItems (index + 1) items
    return value :: values

/-- Reads the members of an object as fields; the type is none. -/
def readMembers : List (String × Json) → Except Finding (List (String × FieldValue))
  | [] => .ok []
  | (name, content) :: members =>
    if name = typeMember then readMembers members
    else do
      let value ← (readValue content).mapError (.under (.member name))
      let fields ← readMembers members
      return (name, value) :: fields

end

@[simp] theorem readValue_number (number : JsonNumber) :
    readValue (.number number) = .ok (numberValue number) := by
  rw [readValue, readNumber_eq]
  rfl

/-- Reads a site object. -/
def readSite : Json → Except Finding Site
  | .object members => do
    (checkSite members).mapError .here
    let fields ← readMembers members
    (build .site (.ofList fields)).mapError .here
  | _ => .error (.here .notASite)

/-- Reads the items of an array one by one, the first of which has the given
index. -/
def readEach {α : Type} (readItem : Json → Except Finding α) (index : Nat) :
    List Json → Except Finding (List α)
  | [] => .ok []
  | item :: items => do
    let value ← (readItem item).mapError (.under (.item index))
    let values ← readEach readItem (index + 1) items
    return value :: values

/-- Reads an array of site objects. -/
def readSites (items : List Json) : Except Finding (List Site) :=
  readEach readSite 0 items

/-- Reads a document: one site object or an array of them. -/
def read : Json → Except Finding (List Site)
  | .array items => readSites items
  | .object members => List.singleton <$> readSite (.object members)
  | _ => .error (.here .notASite)

end Document

/-- The site that a JSON value at the root of the given name stands for. -/
def Site.ofJson (root : String) (value : Json) : Except DocumentError Site :=
  (Document.readSite value).mapError (.at root)

/-- The sites of a document. -/
def Document.sites (document : Json) : Except DocumentError (List Site) :=
  (Document.read document).mapError (.at documentRoot)

/-- Why a text is no site document: it is no JSON, or something in it is at
fault. -/
inductive ReadError where
  | malformed
  | document (error : DocumentError)

/-- The sites of a document given as a text. -/
def Document.parse (text : String) : Except ReadError (List Site) :=
  match Json.parse? text with
  | none => .error .malformed
  | some document => (Document.sites document).mapError .document

end SeismicSite
