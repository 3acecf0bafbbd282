import Std.Data.ExtTreeMap
import SeismicSite.Field.Type
/-!
# Records

The fields of one element, as a reader collects them: a finite map from
field names to values, kept in ascending order of the names. An entity is
built from a record by taking the fields it declares; what is left over is
what it does not know.
-/

namespace SeismicSite

/-- A finite map from field names to field values. -/
structure Record where
  fields : Std.ExtTreeMap String FieldValue

namespace Record

/-- The record with no fields. -/
def empty : Record := ⟨∅⟩

instance : EmptyCollection Record := ⟨empty⟩

/-- The value of a field. -/
def get? (record : Record) (name : String) : Option FieldValue :=
  record.fields[name]?

/-- The record with the field set to `value`, whatever it held before. -/
def set (record : Record) (name : String) (value : FieldValue) : Record :=
  ⟨record.fields.insert name value⟩

/-- The record without the field. -/
def erase (record : Record) (name : String) : Record :=
  ⟨record.fields.erase name⟩

/-- Sets a field; the first component is the value it replaces. -/
def insert (record : Record) (name : String) (value : FieldValue) : Option FieldValue × Record :=
  (record.get? name, record.set name value)

/-- Removes a field and gives its value. -/
def take (record : Record) (name : String) : Option FieldValue × Record :=
  (record.get? name, record.erase name)

/-- Whether the field is there. -/
def contains (record : Record) (name : String) : Bool :=
  record.fields.contains name

/-- The names of the fields in ascending order. -/
def names (record : Record) : List String :=
  record.fields.keys

/-- The number of fields. -/
def size (record : Record) : Nat :=
  record.fields.size

/-- Whether there is no field. -/
def isEmpty (record : Record) : Bool :=
  record.fields.isEmpty

/-- The record of the given fields; of two with one name the later stays. -/
def ofList (fields : List (String × FieldValue)) : Record :=
  fields.foldl (fun record field => record.set field.1 field.2) ∅

/-- Records are equal if they have the same names and equal values under
them. -/
instance : BEq Record where
  beq a b := a.fields.toList == b.fields.toList

/-! ## Laws

A record is known by what `get?` gives for every name; the operations are
described by what they do to that. -/

/-- **Records with the same look-ups are the same.** -/
theorem ext_get? {a b : Record} (h : ∀ name, a.get? name = b.get? name) : a = b := by
  obtain ⟨a⟩ := a
  obtain ⟨b⟩ := b
  exact congrArg mk (Std.ExtTreeMap.ext_getElem? h)

@[simp] theorem get?_empty (name : String) : (∅ : Record).get? name = none :=
  Std.ExtTreeMap.getElem?_empty

theorem get?_set (record : Record) (name other : String) (value : FieldValue) :
    (record.set name value).get? other =
      if name = other then some value else record.get? other := by
  simp [set, get?, Std.ExtTreeMap.getElem?_insert]

theorem get?_erase (record : Record) (name other : String) :
    (record.erase name).get? other = if name = other then none else record.get? other := by
  simp [erase, get?, Std.ExtTreeMap.getElem?_erase]

/-- The names are exactly those under which a look-up finds something. -/
theorem mem_names {record : Record} {name : String} :
    name ∈ record.names ↔ (record.get? name).isSome := by
  simp [names, get?, Std.ExtTreeMap.mem_keys]

theorem contains_eq (record : Record) (name : String) :
    record.contains name = (record.get? name).isSome := by
  simp [contains, get?]

/-- The names are listed once each and in ascending order. -/
theorem names_ascending (record : Record) :
    record.names.Pairwise fun a b => compare a b = .lt :=
  Std.ExtTreeMap.ordered_keys

end Record

end SeismicSite
