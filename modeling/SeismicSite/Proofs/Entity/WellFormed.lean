import SeismicSite.Proofs.Schema.Complaint
import SeismicSite.Proofs.Schema.Frame
/-!
# Well-formed values

A field value is well-formed if every description and every characterization that
stands somewhere inside it has indicators of their own names in its slots. All six
variants of an indicator share one type, so the types do not say so: it is kept by
what makes, converts and takes apart values, records and entities.
-/

namespace SeismicSite

/-! ## Elements, values and records -/

/-- The slots of the element hold indicators of their own names; only descriptions and
characterizations have slots. -/
def Element.WellFormed : Element → Prop
  | description part => part.WellFormed
  | characterization part => part.WellFormed
  | _ => True

/-- Every element that the value holds is well-formed, in lists of any depth. -/
inductive FieldValue.WellFormed : FieldValue → Prop
  | text (value : String) : WellFormed (.text value)
  | float (value : Float) : WellFormed (.float value)
  | integer (value : Int64) : WellFormed (.integer value)
  | list {items : List FieldValue} (h : ∀ item ∈ items, WellFormed item) : WellFormed (.list items)
  | element {value : Element} (h : value.WellFormed) : WellFormed (.element value)

/-- Every value of the record is well-formed. -/
def Record.WellFormed (record : Record) : Prop :=
  ∀ name value, record.get? name = some value → value.WellFormed

/-- The entity is well-formed; a site is if its parts are. -/
def EntityKind.WellFormed : (kind : EntityKind) → kind.Carrier → Prop
  | element kind, entity => (kind.toElement entity).WellFormed
  | site, entity => Site.WellFormed entity

/-- An element is well-formed as a value exactly if it is one. -/
theorem FieldValue.wellFormed_element {value : Element} :
    WellFormed (.element value) ↔ value.WellFormed := by
  refine ⟨fun h => ?_, .element⟩
  cases h with
  | element h => exact h

/-- A list is well-formed exactly if its items are. -/
theorem FieldValue.wellFormed_list {items : List FieldValue} :
    WellFormed (.list items) ↔ ∀ item ∈ items, item.WellFormed := by
  refine ⟨fun h => ?_, .list⟩
  cases h with
  | list h => exact h

/-! ## Conversions -/

namespace FieldType

/-- What has no slots is well-formed. -/
theorem wellFormed_wrap {type : FieldType} (hdescription : type ≠ .element .description)
    (hcharacterization : type ≠ .element .characterization) (content : type.Carrier) :
    (type.wrap content).WellFormed := by
  cases type with
  | reading => cases content <;> constructor
  | element kind =>
    cases kind with
    | description => exact absurd rfl hdescription
    | characterization => exact absurd rfl hcharacterization
    | _ => exact .element trivial
  | _ => constructor

/-- **The content of a well-formed value is well-formed.** -/
theorem wellFormed_of_unwrap {type : FieldType} {value : FieldValue} {content : type.Carrier}
    (hvalue : value.WellFormed) (h : type.unwrap value = .ok content) :
    (type.wrap content).WellFormed := by
  by_cases helement : ∃ kind, type = .element kind
  · obtain ⟨kind, rfl⟩ := helement
    rwa [eq_toElement_of_unwrap h] at hvalue
  · rw [not_exists] at helement
    exact wellFormed_wrap (helement _) (helement _) content

end FieldType

/-! ## Records -/

namespace Record.WellFormed

variable {record : Record} {name : String} {value : FieldValue}

theorem empty : (∅ : Record).WellFormed := by
  intro name value h
  rw [get?_empty] at h
  cases h

/-- A record that holds no more than a well-formed one is well-formed. -/
theorem mono {less : Record} (h : record.WellFormed)
    (hless : ∀ name value, less.get? name = some value → record.get? name = some value) :
    less.WellFormed := fun name value hfound => h name value (hless name value hfound)

theorem set (h : record.WellFormed) (hvalue : value.WellFormed) :
    (record.set name value).WellFormed := by
  intro other found hfound
  rw [get?_set] at hfound
  split at hfound
  · exact Option.some.inj hfound ▸ hvalue
  · exact h other found hfound

theorem erase (h : record.WellFormed) : (record.erase name).WellFormed := by
  refine h.mono fun other found hfound => ?_
  rw [get?_erase] at hfound
  split at hfound
  · cases hfound
  · exact hfound

/-- A record is made of its fields alone. -/
theorem ofList {fields : List (String × FieldValue)}
    (h : ∀ field ∈ fields, field.2.WellFormed) : (Record.ofList fields).WellFormed :=
  fun _ _ hfound => h _ (mem_of_get?_ofList hfound)

end Record.WellFormed

/-! ## Entities -/

/-- The element that an optional field takes out of a well-formed value is well-formed. -/
theorem Content.wellFormed_of_takes {kind : ElementKind} {found : Option FieldValue}
    {taken : Option kind.Carrier} (hfound : ∀ value, found = some value → value.WellFormed)
    (h : (optional (.element kind)).Takes found taken) :
    ∀ part ∈ taken, (kind.toElement part).WellFormed := by
  rintro part rfl
  cases found with
  | none => cases h
  | some value =>
    obtain ⟨one, ⟨-, hunwrap⟩, heq⟩ := h
    obtain rfl := Option.some.inj heq
    exact FieldValue.wellFormed_element.mp
      (FieldType.wellFormed_of_unwrap (hfound value rfl) hunwrap)

namespace EntityKind

variable {kind : EntityKind} {record : Record}

/-- A description and a characterization are checked as they are made, so any record
will do for these; the parts of a site are well-formed if the record is. -/
theorem wellFormed_ofRow {row : Row kind.fields} (hrecord : record.WellFormed)
    (h : Row.Takes kind.fields record.get? row) : kind.WellFormed (kind.ofRow row) := by
  cases kind with
  | element kind =>
    cases kind with
    | description => exact Description.wellFormed_ofRow h
    | characterization => exact Characterization.wellFormed_ofRow h
    | _ => trivial
  | site =>
    obtain ⟨-, hdescription, hcharacterization, -⟩ := h
    exact ⟨Content.wellFormed_of_takes (hrecord _) hdescription,
      Content.wellFormed_of_takes (hrecord _) hcharacterization⟩

/-- **What is made of a well-formed record is well-formed.** -/
theorem wellFormed_take {entity : kind.Carrier} (hrecord : record.WellFormed)
    (h : (kind.take record).result = .ok entity) : kind.WellFormed entity := by
  obtain ⟨row, hrow, rfl⟩ := take_eq_ok.mp h
  exact wellFormed_ofRow hrecord hrow

/-- **So is what is left of it**, whether or not an entity was made. -/
theorem wellFormed_left (hrecord : record.WellFormed) : (kind.take record).left.WellFormed :=
  hrecord.mono fun _ _ => get?_of_get?_take_left

end EntityKind

namespace Site.WellFormed

variable {site : Site}

/-- A site as it is made has no parts. -/
theorem ofCode (code : String) : (Site.ofCode code).WellFormed where
  description part hpart := by cases hpart
  characterization part hpart := by cases hpart

theorem withDescription (h : site.WellFormed) {part : Description} (hpart : part.WellFormed) :
    (site.withDescription part).WellFormed :=
  ⟨fun _ hfound => Option.some.inj hfound ▸ hpart, h.characterization⟩

theorem withCharacterization (h : site.WellFormed) {part : Characterization}
    (hpart : part.WellFormed) : (site.withCharacterization part).WellFormed :=
  ⟨h.description, fun _ hfound => Option.some.inj hfound ▸ hpart⟩

theorem withOverallQuality (h : site.WellFormed) (value : Float) :
    (site.withOverallQuality value).WellFormed :=
  ⟨h.description, h.characterization⟩

end Site.WellFormed

end SeismicSite
