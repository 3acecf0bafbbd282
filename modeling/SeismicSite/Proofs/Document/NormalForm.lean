import SeismicSite.Proofs.Document.Encoding
import SeismicSite.Proofs.Field.Widening
import SeismicSite.Proofs.Schema.Take
import SeismicSite.Document.Reader
/-!
# The normal form of a site

What a site is written as, said of the JSON value that it was read from. The
normal form of an object drops its type, puts its members in the order of the
fields and fills in the lists that are missing; a lone value of a list field
becomes a list, a number of a float field the nearest float, and an indicator
gets its name. Everything else stays as it is, members that no field declares
included, so equality with the normal form says that nothing was lost and
nothing added.
-/

namespace SeismicSite

/-- A value where a field holds it: a lone value of a list field is put in a
list. -/
def Content.listed : Content → Json → Json
  | repeated _, .array items => .array items
  | repeated _, value => .array [value]
  | _, value => value

/-- The members written for a field that holds the value or is missing: a
missing list is written as an empty one. -/
def Field.written (field : Field) : Option Json → List (String × Json)
  | some value => [(field.name, value)]
  | none =>
    match field.content with
    | .repeated _ => [(field.name, .array [])]
    | _ => []

namespace JsonNumber

theorem isFinite_ofInt {n : Int} (lower : Int64.minValue.toInt ≤ n) (upper : n < UInt64.size) :
    (Float.ofInt n).isFinite = true := by
  have hmin : Int64.minValue.toInt = -2 ^ 63 := by decide
  have hsize : UInt64.size = 2 ^ 64 := by decide
  exact SeismicSite.isFinite_ofInt (by omega) (by omega)

/-- The number as a float, the nearest one to a whole number. -/
def widened : JsonNumber → JsonNumber
  | integer n lower upper => .float (Float.ofInt n) (isFinite_ofInt lower upper)
  | float x finite => .float x finite

end JsonNumber

namespace Document

/-- The normal form of a number: a float in a field for floats or for the value
of an indicator. -/
def normalNumber : FieldType → JsonNumber → JsonNumber
  | .number, n => n.widened
  | .reading, n => n.widened
  | _, n => n

/-- The members in the order of the fields, and after them those that no field
declares. -/
def arrange (fields : List Field) (members : List (String × Json)) : List (String × Json) :=
  fields.flatMap (fun field => field.written (Json.member? members field.name))
    ++ members.filter fun member => member.1 ∉ fieldNames fields

mutual

/-- The normal form of a value of a type. -/
def normalValue (type : FieldType) : Json → Json
  | .number n => .number (normalNumber type n)
  | .array items => .array (normalItems type items)
  | .object members =>
    match type with
    | .element kind =>
      .object (kind.head ++ arrange kind.fields (normalMembers kind.fields members))
    | _ => .object members
  | value => value

/-- The normal forms of values of a type. -/
def normalItems (type : FieldType) : List Json → List Json
  | [] => []
  | item :: items => normalValue type item :: normalItems type items

/-- The members without the type, each in the normal form that its field
asks for. -/
def normalMembers (fields : List Field) : List (String × Json) → List (String × Json)
  | [] => []
  | (name, value) :: members =>
    if name = typeMember then normalMembers fields members
    else
      match fields.find? (·.name = name) with
      | some field =>
        (name, field.content.listed (normalValue field.content.type value))
          :: normalMembers fields members
      | none => (name, value) :: normalMembers fields members

end

/-- The normal form of a site object. -/
def normalSite : Json → Json
  | .object members => .object (arrange Site.fields (normalMembers Site.fields members))
  | value => value

/-- A site with a Vs30 and one profile, which stands outside a list. -/
def profiled : Json :=
  .object
    [("site_characterization_parameters", .object
      [("type", .string "SiteCharacterizationParameters"),
        ("velocity_profile", .object
          [("layer_count", .number (.integer 3 (by decide) (by decide))),
            ("type", .string "VelocityProfile")]),
        ("velocity_s30", .object
          [("type", .string "velocityS30"),
            ("value", .number (.integer 560 (by decide) (by decide)))])]),
      ("station_code", .string "SENGL")]

example :
    normalSite profiled = .object
      [("station_code", .string "SENGL"),
        ("site_characterization_parameters", .object
          [("velocity_s30", .object
            [("name", .string "velocity_s30"),
              ("value", .number (.float (Float.ofInt 560)
                (isFinite_ofInt (by decide) (by decide)))),
              ("methods", .array [])]),
            ("velocity_profile", .array
              [.object
                [("layer_count", .number (.integer 3 (by decide) (by decide))),
                  ("velocity_profile_data", .array [])]])])] :=
  rfl

end Document

/-! ## Values without null -/

/-- Nothing in the value is null. -/
def Json.NullFree (value : Json) : Prop :=
  ∀ steps, value.at? steps ≠ some .null

namespace Json

theorem nullFree_string (s : String) : (string s).NullFree := by
  rintro (_ | ⟨step, steps⟩)
  · simp [at?]
  · cases step <;> simp [at?, Step.follow?]

theorem nullFree_number (n : JsonNumber) : (number n).NullFree := by
  rintro (_ | ⟨step, steps⟩)
  · simp [at?]
  · cases step <;> simp [at?, Step.follow?]

theorem nullFree_array {items : List Json} (h : ∀ item ∈ items, item.NullFree) :
    (array items).NullFree := by
  rintro (_ | ⟨step, steps⟩)
  · simp [at?]
  · cases step with
    | member name => simp [at?, Step.follow?]
    | item index =>
      simp only [at?, Step.follow?, ne_eq, Option.bind_eq_some_iff, not_exists, not_and]
      intro item hitem
      exact h item (List.mem_of_getElem? hitem) steps

theorem nullFree_object {members : List (String × Json)}
    (h : ∀ member ∈ members, member.2.NullFree) : (object members).NullFree := by
  rintro (_ | ⟨step, steps⟩)
  · simp [at?]
  · cases step with
    | member name =>
      simp only [at?, Step.follow?, member?, ne_eq, Option.bind_eq_some_iff, not_exists, not_and]
      intro value hvalue
      obtain ⟨before, after, rfl, -⟩ := List.lookup_eq_some_iff.mp hvalue
      exact h (name, value) (List.mem_append_right _ List.mem_cons_self) steps
    | item index => simp [at?, Step.follow?]

end Json

end SeismicSite
