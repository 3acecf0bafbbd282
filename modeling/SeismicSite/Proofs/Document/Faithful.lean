import SeismicSite.Proofs.Document.Build
import SeismicSite.Proofs.Document.NormalForm
/-!
# Reading keeps what is written

A site that was read is written as the normal form of the object that it was
read from. The reader and the writer meet at every field: what the field takes
is what it is written as, and both are the normal form of the value in
between. This is shown for a value of each type, then for a field, then for an
object, and the induction on the value joins them.
-/

namespace SeismicSite

namespace Document

/-! ## Single values -/

/-- The value is written in its normal form when it is read as the type, and
without a null. -/
def WrittenNormally (type : FieldType) (value : Json) : Prop :=
  ∀ found content, readValue value = .ok found → type.Takes found content →
    type.encode content = normalValue type value ∧ (normalValue type value).NullFree

theorem ofFloat_eq_number {x : Float} (finite : x.isFinite = true) :
    Json.ofFloat x = .number (.float x finite) :=
  dif_pos finite

theorem ofInt64_eq_number {n : Int} {lower : Int64.minValue.toInt ≤ n} {upper : n < UInt64.size}
    {m : Int64} (h : m.toInt = n) : Json.ofInt64 m = .number (.integer n lower upper) := by
  subst h
  rfl

theorem writtenNormally_string {type : FieldType} {s : String} :
    WrittenNormally type (.string s) := by
  rintro found content hfound htakes
  obtain rfl := Except.ok.inj hfound
  refine ⟨?_, Json.nullFree_string s⟩
  rcases FieldType.exists_takes_text.mp ⟨content, htakes⟩ with rfl | rfl
  · obtain ⟨-, hunwrap⟩ := htakes
    obtain rfl := Except.ok.inj hunwrap
    rfl
  · obtain ⟨-, hunwrap⟩ := htakes
    obtain rfl := Except.ok.inj hunwrap
    rfl

/-- A float is written as that float. -/
theorem encode_of_takes_float {type : FieldType} {x : Float} {content : type.Carrier}
    (finite : x.isFinite = true) (h : type.Takes (.float x) content) :
    type.encode content = .number (.float x finite) ∧ (type = .number ∨ type = .reading) := by
  have htype := FieldType.exists_takes_float.mp ⟨content, h⟩
  refine ⟨?_, htype⟩
  obtain ⟨-, hunwrap⟩ := h
  rcases htype with rfl | rfl
  · obtain rfl := Except.ok.inj hunwrap
    exact ofFloat_eq_number finite
  · obtain rfl := Except.ok.inj hunwrap
    exact ofFloat_eq_number finite

/-- An integer is written as itself where an integer or a year is asked for,
and as the nearest float elsewhere. -/
theorem encode_of_takes_integer {type : FieldType} {n : Int} {lower : Int64.minValue.toInt ≤ n}
    {upper : n < UInt64.size} (hfits : n ≤ Int64.maxValue.toInt) {content : type.Carrier}
    (h : type.Takes (.integer (Int64.ofInt n)) content) :
    type.encode content = .number (normalNumber type (.integer n lower upper)) := by
  have hsame : (Int64.ofInt n).toInt = n := toInt_ofInt_of_fits lower hfits
  have hwidened : Json.ofFloat (FieldType.widen (Int64.ofInt n)) =
      .number (JsonNumber.widened (.integer n lower upper)) := by
    rw [FieldType.widen, hsame]
    exact ofFloat_eq_number (JsonNumber.isFinite_ofInt lower upper)
  have htype := FieldType.exists_takes_integer.mp ⟨content, h⟩
  obtain ⟨-, hunwrap⟩ := h
  rcases htype with rfl | rfl | rfl | ⟨rfl, hlower, hupper⟩
  · obtain rfl := Except.ok.inj hunwrap
    exact hwidened
  · obtain rfl := Except.ok.inj hunwrap
    exact ofInt64_eq_number hsame
  · obtain rfl := Except.ok.inj hunwrap
    exact hwidened
  · -- a year is cut down to 32 bits and written at its full width again
    have hnarrow : FieldType.narrow? (Int64.ofInt n) = some (Int32.ofInt (Int64.ofInt n).toInt) :=
      if_pos ⟨hlower, hupper⟩
    simp only [FieldType.unwrap, hnarrow, Except.ok.injEq] at hunwrap
    subst hunwrap
    refine ofInt64_eq_number ?_
    have hmax : Int32.maxValue.toInt = 2 ^ 31 - 1 := by decide
    rw [Int32.toInt_toInt64, Int32.toInt_ofInt_of_le hlower (by omega), hsame]

/-- A number is written as the float that it widens to, or as it stands. -/
theorem writtenNormally_number {type : FieldType} {n : JsonNumber} :
    WrittenNormally type (.number n) := by
  rintro found content hfound htakes
  refine ⟨?_, Json.nullFree_number _⟩
  rw [readValue_number] at hfound
  obtain rfl := Except.ok.inj hfound
  clear hfound
  cases n with
  | float x finite =>
    obtain ⟨hencode, htype⟩ := encode_of_takes_float finite htakes
    rw [hencode]
    rcases htype with rfl | rfl <;> rfl
  | integer n lower upper =>
    by_cases hfits : n ≤ Int64.maxValue.toInt
    · rw [numberValue_of_le hfits] at htakes
      exact encode_of_takes_integer hfits htakes
    · rw [numberValue_of_not_le hfits] at htakes
      have hfinite := JsonNumber.isFinite_ofInt lower upper
      obtain ⟨hencode, htype⟩ := encode_of_takes_float hfinite htakes
      rw [hencode]
      rcases htype with rfl | rfl <;> rfl

/-! ## Fields -/

/-- Items are written one by one. -/
theorem encode_items {type : FieldType} {items : List Json} {values : List FieldValue}
    {contents : List type.Carrier} (hitems : ∀ item ∈ items, WrittenNormally type item)
    (hvalues : List.Forall₂ (fun item value => readValue item = .ok value) items values)
    (hcontents : List.Forall₂ type.Takes values contents) :
    contents.map type.encode = normalItems type items ∧
      ∀ item ∈ normalItems type items, item.NullFree := by
  induction hvalues generalizing contents with
  | nil =>
    obtain rfl := List.forall₂_nil_left_iff.mp hcontents
    exact ⟨rfl, nofun⟩
  | cons hvalue _ ih =>
    obtain ⟨content, rest, hcontent, hrest, rfl⟩ := List.forall₂_cons_left_iff.mp hcontents
    obtain ⟨hhere, hthere⟩ := List.forall_mem_cons.mp hitems
    obtain ⟨hencode, hfree⟩ := hhere _ _ hvalue hcontent
    obtain ⟨hencodes, hfrees⟩ := ih hthere hrest
    rw [List.map_cons, normalItems, hencode, hencodes]
    exact ⟨rfl, List.forall_mem_cons.mpr ⟨hfree, hfrees⟩⟩

/-- The normal form of a value that is no array is none either. -/
theorem listed_normalValue {type : FieldType} {value : Json}
    (h : ∀ items, value ≠ .array items) :
    (Content.repeated type).listed (normalValue type value) = .array [normalValue type value] := by
  cases value with
  | array items => exact absurd rfl (h items)
  | object members => cases type <;> rfl
  | _ => rfl

/-- **A field is written as the normal form of the value that it was read
from.** -/
theorem members_of_takes {content : Content} {value : Json} {found : FieldValue}
    {taken : content.Carrier} (name : String)
    (hvalue : WrittenNormally content.type value)
    (hitems : ∀ items, value = .array items → ∀ item ∈ items, WrittenNormally content.type item)
    (hfound : readValue value = .ok found) (htakes : content.Takes (some found) taken) :
    content.members name taken = [(name, content.listed (normalValue content.type value))] ∧
      (content.listed (normalValue content.type value)).NullFree := by
  cases content with
  | required type =>
    obtain ⟨hencode, hfree⟩ := hvalue _ _ hfound htakes
    exact ⟨congrArg (fun v => [(name, v)]) hencode, hfree⟩
  | optional type =>
    obtain ⟨one, hone, rfl⟩ := htakes
    obtain ⟨hencode, hfree⟩ := hvalue _ _ hfound hone
    exact ⟨congrArg (fun v => [(name, v)]) hencode, hfree⟩
  | repeated type =>
    by_cases harray : ∃ items, value = .array items
    · obtain ⟨items, rfl⟩ := harray
      obtain ⟨values, hvalues, rfl⟩ := map_eq_ok.mp hfound
      obtain ⟨hencode, hfree⟩ := encode_items (hitems items rfl) (readItems_eq_ok.mp hvalues) htakes
      exact ⟨congrArg (fun vs => [(name, Json.array vs)]) hencode, Json.nullFree_array hfree⟩
    · have hlone : ∀ items, found ≠ .list items := by
        rintro items rfl
        exact harray (eq_array_of_readValue hfound)
      obtain ⟨one, hone, rfl⟩ := (Content.takes_repeated_single hlone).mp htakes
      obtain ⟨hencode, hfree⟩ := hvalue _ _ hfound hone
      have hlisted : (Content.repeated type).listed (normalValue type value) =
          .array [normalValue type value] := listed_normalValue fun items h => harray ⟨items, h⟩
      constructor
      · show [(name, Json.array [type.encode one])] =
          [(name, (Content.repeated type).listed (normalValue type value))]
        rw [hlisted]
        exact congrArg (fun v => [(name, Json.array [v])]) hencode
      · show ((Content.repeated type).listed (normalValue type value)).NullFree
        rw [hlisted]
        exact Json.nullFree_array (List.forall_mem_singleton.mpr hfree)
  | tag scheme =>
    obtain ⟨text, member, rfl, hmember, rfl⟩ := htakes
    obtain rfl := readValue_eq_text.mp hfound
    rw [Content.members, Json.optional, TagSet.toJson_eq_tag, TagSet.tag_eq_of_ofTag? hmember]
    exact ⟨rfl, Json.nullFree_string text⟩

/-- **A missing field is written as its normal form says.** -/
theorem members_of_takes_none {field : Field} {taken : field.content.Carrier}
    (h : field.content.Takes none taken) :
    field.content.members field.name taken = field.written none ∧
      ∀ member ∈ field.written none, member.2.NullFree := by
  obtain ⟨name, content⟩ := field
  cases content with
  | required type => exact absurd h id
  | optional type =>
    obtain rfl := h
    exact ⟨rfl, nofun⟩
  | repeated type =>
    obtain rfl := h
    exact ⟨rfl, List.forall_mem_singleton.mpr (Json.nullFree_array nofun)⟩
  | tag scheme =>
    obtain rfl := h
    exact ⟨rfl, nofun⟩

/-! ## Objects -/

/-- A declared member is found in its normal form. -/
theorem member?_normalMembers {fields : List Field} {members : List (String × Json)} {field : Field}
    (hfield : fields.find? (·.name = field.name) = some field) (htype : field.name ≠ typeMember) :
    Json.member? (normalMembers fields members) field.name =
      (Json.member? members field.name).map fun value =>
        field.content.listed (normalValue field.content.type value) := by
  induction members with
  | nil => rfl
  | cons member members ih =>
    obtain ⟨name, value⟩ := member
    unfold Json.member? at ih ⊢
    by_cases hname : name = field.name
    · subst hname
      simp [normalMembers, htype, hfield]
    · have hne : (field.name == name) = false := beq_false_of_ne (Ne.symm hname)
      rw [List.lookup_cons, hne]
      simp only [normalMembers]
      split
      · exact ih
      · split <;> rw [List.lookup_cons, hne] <;> exact ih

/-- The normal form names no member that the object does not name. -/
theorem names_normalMembers {fields : List Field} {members : List (String × Json)} :
    (normalMembers fields members).map Prod.fst = (fieldMembers members).map Prod.fst := by
  induction members with
  | nil => rfl
  | cons member members ih =>
    obtain ⟨name, value⟩ := member
    by_cases htype : name = typeMember
    · simpa [normalMembers, fieldMembers, htype] using ih
    · simp only [normalMembers, htype, if_false]
      split <;> simpa [fieldMembers, htype] using ih

/-- A row is written as what is written for each of its fields. -/
theorem members_eq_flatMap {fields : List Field} {find : String → Option FieldValue}
    {row : Row fields} {written : Field → List (String × Json)}
    (hrow : Row.Takes fields find row)
    (hfields : ∀ field ∈ fields, ∀ taken, field.content.Takes (find field.name) taken →
      field.content.members field.name taken = written field) :
    Row.members fields row = fields.flatMap written := by
  induction fields with
  | nil => rfl
  | cons field fields ih =>
    obtain ⟨content, row⟩ := row
    obtain ⟨hcontent, hrest⟩ := hrow
    obtain ⟨hhere, hthere⟩ := List.forall_mem_cons.mp hfields
    rw [Row.members, List.flatMap_cons, hhere content hcontent, ih hrest hthere]

/-- The value is written normally as whatever it is read, and so are its items
if it is an array. -/
def WrittenThroughout (value : Json) : Prop :=
  (∀ type, WrittenNormally type value) ∧
    ∀ items, value = .array items → ∀ item ∈ items, ∀ type, WrittenNormally type item

/-- Whatever a field takes of an object is written as the field's member in
the normal form. -/
theorem members_eq_written {kind : EntityKind} {members : List (String × Json)}
    {fields : List (String × FieldValue)} (hnodup : (members.map Prod.fst).Nodup)
    (hmembers : ∀ name value, (name, value) ∈ members → WrittenThroughout value)
    (hfields : readMembers members = .ok fields) {field : Field} (hfield : field ∈ kind.fields)
    {taken : field.content.Carrier}
    (htaken : field.content.Takes ((Record.ofList fields).get? field.name) taken) :
    field.content.members field.name taken =
        field.written (Json.member? (normalMembers kind.fields members) field.name) ∧
      ∀ member ∈ field.written (Json.member? (normalMembers kind.fields members) field.name),
        member.2.NullFree := by
  have htype := name_ne_typeMember hfield
  rw [member?_normalMembers (EntityKind.find?_fields hfield) htype]
  cases hvalue : Json.member? members field.name with
  | none =>
    have hmissing : (Record.ofList fields).get? field.name = none := by
      refine (get?_readMembers_eq_none hnodup hfields htype).mpr fun value hmem => ?_
      rw [Json.member?, (Json.lookup_eq_some_iff hnodup).mpr hmem] at hvalue
      cases hvalue
    rw [hmissing] at htaken
    exact members_of_takes_none htaken
  | some value =>
    have hmem := (Json.lookup_eq_some_iff hnodup).mp hvalue
    obtain ⟨found, hfound⟩ := exists_readMembers_iff.mp ⟨fields, hfields⟩ _ _ hmem htype
    rw [(get?_readMembers_eq_some hnodup hfields).mpr ⟨htype, value, hmem, hfound⟩] at htaken
    obtain ⟨hhere, hitems⟩ := hmembers _ _ hmem
    obtain ⟨hwritten, hfree⟩ := members_of_takes field.name (hhere _)
      (fun items h item hitem => hitems items h item hitem _) hfound htaken
    exact ⟨hwritten, List.forall_mem_singleton.mpr hfree⟩

/-- **An object is written as its members in the order of the fields**: a kind
that is built declares them all, so none is left over. -/
theorem members_eq_arrange {kind : EntityKind} {members : List (String × Json)}
    {fields : List (String × FieldValue)} {entity : kind.Carrier}
    (hnodup : (members.map Prod.fst).Nodup)
    (hmembers : ∀ name value, (name, value) ∈ members → WrittenThroughout value)
    (hfields : readMembers members = .ok fields)
    (hbuild : build kind (.ofList fields) = .ok entity) :
    ∃ row, entity = kind.ofRow row ∧
      Row.members kind.fields row = arrange kind.fields (normalMembers kind.fields members) ∧
      ∀ member ∈ arrange kind.fields (normalMembers kind.fields members), member.2.NullFree := by
  obtain ⟨⟨row, hrow, rfl⟩, hdeclared⟩ := build_eq_ok.mp hbuild
  have hfield := @members_eq_written kind members fields hnodup hmembers hfields
  -- every member is declared, so nothing comes after the fields
  have hnone : (normalMembers kind.fields members).filter (·.1 ∉ fieldNames kind.fields) = [] := by
    refine List.filter_eq_nil_iff.mpr fun member hmember => ?_
    have hname : member.1 ∈ (fieldMembers members).map Prod.fst :=
      names_normalMembers ▸ List.mem_map_of_mem hmember
    obtain ⟨⟨name, value⟩, hmem, heq⟩ := List.mem_map.mp hname
    obtain ⟨hmem, htype⟩ := mem_fieldMembers.mp hmem
    obtain ⟨found, hfound⟩ := exists_readMembers_iff.mp ⟨fields, hfields⟩ name value hmem htype
    have hget := (get?_readMembers_eq_some hnodup hfields).mpr ⟨htype, value, hmem, hfound⟩
    have := hdeclared name found hget
    simpa [← heq] using this
  refine ⟨row, rfl, ?_, ?_⟩
  · rw [arrange, hnone, List.append_nil]
    exact members_eq_flatMap hrow fun field hmem taken htaken => (hfield hmem htaken).1
  · rw [arrange, hnone, List.append_nil]
    intro member hmember
    obtain ⟨field, hmem, hmember⟩ := List.mem_flatMap.mp hmember
    obtain ⟨taken, htaken⟩ := Row.exists_takes_iff.mp ⟨row, hrow⟩ field hmem
    exact (hfield hmem htaken).2 member hmember

/-! ## Documents -/

/-- The name of an indicator is no null. -/
theorem nullFree_head {kind : ElementKind} : ∀ member ∈ kind.head, member.2.NullFree := by
  cases kind with
  | indicator name => exact List.forall_mem_singleton.mpr (Json.nullFree_string _)
  | _ => exact nofun

/-- **Every value inside a site is written in its normal form**, by induction
on the value. -/
theorem writtenThroughout {value : Json} (hsorted : value.Sorted) : WrittenThroughout value := by
  induction value with
  | null =>
    constructor
    · rintro type found content ⟨⟩
    · rintro items ⟨⟩
  | bool b =>
    constructor
    · rintro type found content ⟨⟩
    · rintro items ⟨⟩
  | number n =>
    refine ⟨fun type => writtenNormally_number, ?_⟩
    rintro items ⟨⟩
  | string s =>
    refine ⟨fun type => writtenNormally_string, ?_⟩
    rintro items ⟨⟩
  | array items ih =>
    have hitems := Json.sorted_array.mp hsorted
    refine ⟨fun type found content hfound hcontent => ?_, ?_⟩
    · obtain ⟨values, -, rfl⟩ := map_eq_ok.mp hfound
      exact absurd hcontent FieldType.not_takes_list
    · rintro _ ⟨rfl⟩ item hitem
      exact (ih item hitem (hitems item hitem)).1
  | object members ih =>
    refine ⟨fun type found content hfound hcontent => ?_, by rintro items ⟨⟩⟩
    have hsortedMembers := (Json.sorted_object.mp hsorted).2
    have hmembers : ∀ name value, (name, value) ∈ members → WrittenThroughout value :=
      fun name value hmem => ih name value hmem (hsortedMembers name value hmem)
    obtain ⟨kind, fields, entity, -, hfields, hentity, rfl⟩ := readValue_object_eq_ok.mp hfound
    obtain ⟨row, rfl, hwritten, hfree⟩ :=
      members_eq_arrange hsorted.nodup hmembers hfields hentity
    -- the type was asked for by the field, and it is the kind that the object tells
    have htype := FieldType.exists_takes_element.mp ⟨content, hcontent⟩
    obtain rfl := htype.trans (congrArg _ (ElementKind.kind_toElement_ofRow kind row))
    obtain rfl := FieldType.eq_of_takes_toElement hcontent
    refine ⟨?_, Json.nullFree_object ?_⟩
    · rw [normalValue]
      exact (ElementKind.toJson_ofRow kind row).trans
        (congrArg (fun written => Json.object (kind.head ++ written)) hwritten)
    · intro member hmember
      rcases List.mem_append.mp hmember with hhead | hmember
      · exact nullFree_head member hhead
      · exact hfree member hmember

/-- A site is written as the normal form of the object that it was read from. -/
theorem toJson_of_readSite {value : Json} {site : Site} (hsorted : value.Sorted)
    (h : readSite value = .ok site) :
    site.toJson = normalSite value ∧ site.toJson.NullFree := by
  obtain ⟨members, fields, rfl, -, hfields, hsite⟩ := readSite_eq_ok.mp h
  have hmembers : ∀ name value, (name, value) ∈ members → WrittenThroughout value :=
    fun name value hmem => writtenThroughout ((Json.sorted_object.mp hsorted).2 name value hmem)
  obtain ⟨row, rfl, hwritten, hfree⟩ := members_eq_arrange hsorted.nodup hmembers hfields hsite
  have hobject : (EntityKind.site.ofRow row).toJson = normalSite (.object members) := by
    rw [normalSite]
    exact (Site.toJson_ofRow row).trans (congrArg Json.object hwritten)
  exact ⟨hobject, hobject ▸ Json.nullFree_object hfree⟩

/-- **Reading loses nothing and invents nothing**: the sites of a document are
written as the normal forms of its site objects, in the same order, and
without a null. -/
theorem toJson_of_sites {document : Json} {found : List Site} (hsorted : document.Sorted)
    (h : sites document = .ok found) :
    found.map Site.toJson = (siteValues document).map normalSite ∧
      ∀ site ∈ found, ∀ steps, site.toJson.at? steps ≠ some .null := by
  have hvalues : ∀ value ∈ siteValues document, value.Sorted :=
    fun value => sorted_of_mem_siteValues hsorted
  have hread := sites_eq_ok.mp h
  clear h
  generalize siteValues document = values at hvalues hread
  induction hread with
  | nil => exact ⟨rfl, fun site hsite => absurd hsite List.not_mem_nil⟩
  | @cons value site values found hsite _ ih =>
    obtain ⟨hwritten, hfree⟩ := toJson_of_readSite (hvalues value List.mem_cons_self) hsite
    obtain ⟨hwrittens, hfrees⟩ := ih fun value hmem => hvalues value (List.mem_cons_of_mem _ hmem)
    rw [List.map_cons, List.map_cons, hwritten, hwrittens]
    exact ⟨rfl, List.forall_mem_cons.mpr ⟨hfree, hfrees⟩⟩

theorem toJson_profiled :
    ∃ site, sites profiled = .ok [site] ∧ site.toJson = normalSite profiled ∧
      ∀ steps, site.toJson.at? steps ≠ some .null := by
  have hsites : ∃ site, sites profiled = .ok [site] := ⟨_, rfl⟩
  obtain ⟨site, hsite⟩ := hsites
  obtain ⟨hwritten, hfree⟩ := toJson_of_sites (by decide) hsite
  exact ⟨site, hsite, List.singleton_inj.mp hwritten, hfree site List.mem_cons_self⟩

end Document

end SeismicSite
