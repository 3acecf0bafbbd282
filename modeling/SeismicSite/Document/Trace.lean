import SeismicSite.Document.Reader
/-!
# Traces of a reading

What a reading does, for a reader who follows it: every object of which the
type and the members have been read is announced before it is built. The
trace of a document that is rejected ends at its first fault.
-/

namespace SeismicSite

/-- An object that is about to be built. -/
structure Announcement where
  steps : List Step
  /-- The kind told by an object inside a site; a site object has none. -/
  kind : Option EntityKind
  /-- The number of its fields. -/
  fields : Nat

namespace Announcement

/-- An announcement in a part, seen from the value the part belongs to. -/
def under (step : Step) (announcement : Announcement) : Announcement :=
  { announcement with steps := step :: announcement.steps }

/-- The announcement of an object whose members are read, if they are. -/
def ofMembers (kind : Option EntityKind) (members : List (String × Json)) : List Announcement :=
  match Document.readMembers members with
  | .ok fields => [⟨[], kind, (Record.ofList fields).size⟩]
  | .error _ => []

end Announcement

namespace Document

mutual

/-- The announcements of a value inside a site. -/
def traceValue : Json → List Announcement
  | .array items => traceItems 0 items
  | .object members =>
    match objectKind members with
    | .ok kind => traceMembers members ++ Announcement.ofMembers (some kind) members
    | .error _ => []
  | _ => []

/-- The announcements of items up to the first faulty one, the first having
the given index. -/
def traceItems (index : Nat) : List Json → List Announcement
  | [] => []
  | item :: items =>
    (traceValue item).map (.under (.item index))
      ++ (if (readValue item).isOk then traceItems (index + 1) items else [])

/-- The announcements of members up to the first faulty one. -/
def traceMembers : List (String × Json) → List Announcement
  | [] => []
  | (name, content) :: members =>
    if name = typeMember then traceMembers members
    else
      (traceValue content).map (.under (.member name))
        ++ (if (readValue content).isOk then traceMembers members else [])

end

/-- The announcements of a site object. -/
def traceSite : Json → List Announcement
  | .object members =>
    match checkSite members with
    | .ok _ => traceMembers members ++ Announcement.ofMembers none members
    | .error _ => []
  | _ => []

/-- The announcements of site objects up to the first faulty one, the first
having the given index. -/
def traceSites (index : Nat) : List Json → List Announcement
  | [] => []
  | item :: items =>
    (traceSite item).map (.under (.item index))
      ++ (if (readSite item).isOk then traceSites (index + 1) items else [])

/-- The announcements of a document. -/
def trace : Json → List Announcement
  | .array items => traceSites 0 items
  | .object members => traceSite (.object members)
  | _ => []

/-- The announcements of a document given as a text. -/
def traceText (text : String) : List Announcement :=
  ((Json.parse? text).map trace).getD []

end Document

end SeismicSite
