import SeismicSite.Proofs.Document.Build
import SeismicSite.Proofs.Entity.WellFormed
/-!
# Whatever is made is well-formed

A program makes sites step by step: it calls constructors and builders, wraps and
unwraps values, fills records and takes fields and entities out of them, and reads
documents. `Holding.Operation` lists what one step can give to a program that holds
some things already, and `Holding.Run` all that it can come to hold. No step puts an
indicator into a slot of another name (`Holding.Operation.wellFormed`), so no run
does; a site that has none there can be made (`Site.constructible_iff`).
-/

namespace SeismicSite

/-! ## What is read

Every description and every characterization of a document is made of a record, and
is checked as it is made. So the reader gives well-formed values, and sites of them,
whatever the document is. -/

namespace Document

/-- A number has no slots. -/
theorem wellFormed_numberValue (number : JsonNumber) : (numberValue number).WellFormed := by
  unfold numberValue
  split
  · split <;> constructor
  · constructor

/-- **Every value that is read is well-formed.** -/
theorem wellFormed_readValue {json : Json} {value : FieldValue} (h : readValue json = .ok value) :
    value.WellFormed := by
  induction json generalizing value with
  | null => cases h
  | bool b => cases h
  | number number =>
    rw [readValue_number] at h
    cases h
    exact wellFormed_numberValue number
  | string text =>
    cases h
    exact .text text
  | array items ih =>
    rw [readValue, map_eq_ok] at h
    obtain ⟨values, hvalues, rfl⟩ := h
    refine .list fun one hone => ?_
    obtain ⟨item, hitem, hread⟩ := exists_of_mem_results (readItems_eq_ok.mp hvalues) hone
    exact ih item hitem hread
  | object members ih =>
    -- the members are well-formed too, and their record makes a well-formed element
    obtain ⟨kind, fields, entity, -, hfields, hbuild, rfl⟩ := readValue_object_eq_ok.mp h
    obtain ⟨⟨row, hrow, rfl⟩, -⟩ := build_eq_ok.mp hbuild
    refine .element (@EntityKind.wellFormed_ofRow (.element kind) _ row (.ofList ?_) hrow)
    intro field hfield
    obtain ⟨member, hmember, -, hread⟩ :=
      exists_of_mem_results (readMembers_eq_ok.mp hfields) hfield
    exact ih member.1 member.2 (mem_fieldMembers.mp hmember).1 hread

/-- So is the record of the members of an object. -/
theorem wellFormed_readMembers {members : List (String × Json)}
    {fields : List (String × FieldValue)} (h : readMembers members = .ok fields) :
    (Record.ofList fields).WellFormed := by
  refine .ofList fun field hfield => ?_
  obtain ⟨member, -, -, hread⟩ := exists_of_mem_results (readMembers_eq_ok.mp h) hfield
  exact wellFormed_readValue hread

/-- **Every site that is read is well-formed.** -/
theorem wellFormed_readSite {json : Json} {site : Site} (h : readSite json = .ok site) :
    site.WellFormed := by
  obtain ⟨members, fields, rfl, -, hfields, hbuild⟩ := readSite_eq_ok.mp h
  obtain ⟨⟨row, hrow, rfl⟩, -⟩ := build_eq_ok.mp hbuild
  exact @EntityKind.wellFormed_ofRow .site _ row (wellFormed_readMembers hfields) hrow

/-- **And so are all sites of a document.** -/
theorem wellFormed_sites {document : Json} {found : List Site} (h : sites document = .ok found)
    {site : Site} (hsite : site ∈ found) : site.WellFormed := by
  obtain ⟨value, -, hread⟩ := exists_of_mem_results (sites_eq_ok.mp h) hsite
  exact wellFormed_readSite hread

end Document

/-! ## What a program can hold -/

/-- What a program can hold: the content of a field, a field value, a record or a site. -/
inductive Holding where
  | content (type : FieldType) (content : type.Carrier)
  | value (value : FieldValue)
  | record (record : Record)
  | site (site : Site)

namespace Holding

/-- An entity as a holding. -/
def ofEntity : (kind : EntityKind) → kind.Carrier → Holding
  | .element kind, entity => content (.element kind) entity
  | .site, entity => site entity

/-- What is held is well-formed; a content is as the value that holds it. -/
def WellFormed : Holding → Prop
  | content type one => (type.wrap one).WellFormed
  | value one => one.WellFormed
  | record one => one.WellFormed
  | site one => one.WellFormed

theorem wellFormed_ofEntity {kind : EntityKind} {entity : kind.Carrier} :
    (ofEntity kind entity).WellFormed ↔ kind.WellFormed entity := by
  cases kind with
  | element kind => exact FieldValue.wellFormed_element
  | site => rfl

/-- What a single operation gives to a program with the given holdings. An operation
that fails gives what it leaves behind, if anything. -/
inductive Operation (held : List Holding) : Holding → Prop
  /-- A number, a text, an indicator of any variant, a source, a layer or a profile. -/
  | plain {type : FieldType} (content : type.Carrier) (hdescription : type ≠ .element .description)
      (hcharacterization : type ≠ .element .characterization) :
      Operation held (.content type content)
  /-- A description of any parts, if they are accepted. -/
  | describe {parts description : Description} (h : parts.checked = .ok description) :
      Operation held (ofEntity (.element .description) description)
  /-- A characterization of any parts, if they are accepted. -/
  | characterize {parts parameters : Characterization} (h : parts.checked = .ok parameters) :
      Operation held (ofEntity (.element .characterization) parameters)
  | newSite (code : String) : Operation held (.site (.ofCode code))
  | withDescription {site : Site} {description : Description} (hsite : .site site ∈ held)
      (hpart : ofEntity (.element .description) description ∈ held) :
      Operation held (.site (site.withDescription description))
  | withCharacterization {site : Site} {parameters : Characterization} (hsite : .site site ∈ held)
      (hpart : ofEntity (.element .characterization) parameters ∈ held) :
      Operation held (.site (site.withCharacterization parameters))
  | withOverallQuality {site : Site} (hsite : .site site ∈ held) (value : Float) :
      Operation held (.site (site.withOverallQuality value))
  /-- The description of a site. -/
  | description {site : Site} {description : Description} (hsite : .site site ∈ held)
      (h : site.description = some description) :
      Operation held (ofEntity (.element .description) description)
  /-- The characterization of a site. -/
  | characterization {site : Site} {parameters : Characterization} (hsite : .site site ∈ held)
      (h : site.characterization = some parameters) :
      Operation held (ofEntity (.element .characterization) parameters)
  /-- A content as a value. -/
  | wrap {type : FieldType} {content : type.Carrier} (h : .content type content ∈ held) :
      Operation held (.value (type.wrap content))
  | list {items : List FieldValue} (h : ∀ item ∈ items, .value item ∈ held) :
      Operation held (.value (.list items))
  | item {items : List FieldValue} {item : FieldValue} (h : .value (.list items) ∈ held)
      (hitem : item ∈ items) : Operation held (.value item)
  /-- The content of a value. -/
  | unwrap {type : FieldType} {value : FieldValue} {content : type.Carrier}
      (h : .value value ∈ held) (hunwrap : type.unwrap value = .ok content) :
      Operation held (.content type content)
  /-- The value that is handed back where it has no such content. -/
  | handBack {type : FieldType} {value rejected : FieldValue} (h : .value value ∈ held)
      (hunwrap : type.unwrap value = .error rejected) : Operation held (.value rejected)
  | newRecord : Operation held (.record ∅)
  | insert {record : Record} {value : FieldValue} (name : String) (hrecord : .record record ∈ held)
      (hvalue : .value value ∈ held) : Operation held (.record (record.insert name value).2)
  /-- The value that another one replaces. -/
  | replaced {record : Record} {value old : FieldValue} (name : String)
      (hrecord : .record record ∈ held) (h : (record.insert name value).1 = some old) :
      Operation held (.value old)
  | remove {record : Record} (name : String) (hrecord : .record record ∈ held) :
      Operation held (.record (record.take name).2)
  /-- The value of a field that is removed. -/
  | removed {record : Record} {value : FieldValue} (name : String) (hrecord : .record record ∈ held)
      (h : (record.take name).1 = some value) : Operation held (.value value)
  /-- An entity that is taken out of a record. -/
  | take {kind : EntityKind} {record : Record} {entity : kind.Carrier}
      (hrecord : .record record ∈ held) (h : (kind.take record).result = .ok entity) :
      Operation held (ofEntity kind entity)
  /-- What is left of a record, whether or not an entity could be taken out of it. -/
  | left (kind : EntityKind) {record : Record} (hrecord : .record record ∈ held) :
      Operation held (.record (kind.take record).left)
  | ofRecord {kind : EntityKind} {record : Record} {entity : kind.Carrier}
      (hrecord : .record record ∈ held) (h : kind.ofRecord record = .ok entity) :
      Operation held (ofEntity kind entity)
  /-- A site of a document. -/
  | read {document : Json} {found : List Site} {site : Site}
      (h : Document.sites document = .ok found) (hsite : site ∈ found) : Operation held (.site site)
  /-- A site that stands alone. -/
  | readSite {root : String} {json : Json} {site : Site} (h : Site.ofJson root json = .ok site) :
      Operation held (.site site)

/-- Everything that a program can come to hold, operation by operation. -/
inductive Run (start : List Holding) : List Holding → Prop
  | start : Run start start
  | next {held : List Holding} {given : Holding} (hrun : Run start held)
      (hgiven : Operation held given) : Run start (given :: held)

/-- **An operation on well-formed holdings gives a well-formed one.** -/
theorem Operation.wellFormed {held : List Holding} {given : Holding}
    (hheld : ∀ one ∈ held, one.WellFormed) (h : Operation held given) : given.WellFormed := by
  cases h with
  | plain content hdescription hcharacterization =>
    exact FieldType.wellFormed_wrap hdescription hcharacterization content
  | describe h =>
    obtain ⟨rfl, hparts⟩ := Description.checked_eq_ok.mp h
    exact .element hparts
  | characterize h =>
    obtain ⟨rfl, hparts⟩ := Characterization.checked_eq_ok.mp h
    exact .element hparts
  | newSite code => exact Site.WellFormed.ofCode code
  | withDescription hsite hpart =>
    exact Site.WellFormed.withDescription (hheld _ hsite)
      (wellFormed_ofEntity.mp (hheld _ hpart))
  | withCharacterization hsite hpart =>
    exact Site.WellFormed.withCharacterization (hheld _ hsite)
      (wellFormed_ofEntity.mp (hheld _ hpart))
  | withOverallQuality hsite value => exact Site.WellFormed.withOverallQuality (hheld _ hsite) value
  | description hsite h =>
    exact .element (Site.WellFormed.description (hheld _ hsite) _ h)
  | characterization hsite h =>
    exact .element (Site.WellFormed.characterization (hheld _ hsite) _ h)
  | wrap h => exact hheld (.content _ _) h
  | list h => exact .list fun item hitem => hheld _ (h item hitem)
  | item h hitem => exact FieldValue.wellFormed_list.mp (hheld _ h) _ hitem
  | unwrap h hunwrap => exact FieldType.wellFormed_of_unwrap (hheld _ h) hunwrap
  | handBack h hunwrap =>
    obtain rfl := FieldType.eq_of_unwrap_eq_error hunwrap
    exact hheld _ h
  | newRecord => exact Record.WellFormed.empty
  | insert name hrecord hvalue => exact Record.WellFormed.set (hheld _ hrecord) (hheld _ hvalue)
  | replaced name hrecord h => exact hheld _ hrecord name _ h
  | remove name hrecord => exact Record.WellFormed.erase (hheld _ hrecord)
  | removed name hrecord h => exact hheld _ hrecord name _ h
  | take hrecord h => exact wellFormed_ofEntity.mpr (EntityKind.wellFormed_take (hheld _ hrecord) h)
  | left kind hrecord => exact EntityKind.wellFormed_left (hheld _ hrecord)
  | ofRecord hrecord h =>
    exact wellFormed_ofEntity.mpr (EntityKind.wellFormed_take (hheld _ hrecord) h)
  | read h hsite => exact Document.wellFormed_sites h hsite
  | readSite h => exact Document.wellFormed_readSite (mapError_eq_ok.mp h)

/-- **No sequence of operations puts an indicator into a slot of another name**: a
program that starts with well-formed holdings has no others, whatever it does. -/
theorem Run.keeps_wellFormed {start held : List Holding} (hstart : ∀ one ∈ start, one.WellFormed)
    (hrun : Run start held) : ∀ one ∈ held, one.WellFormed := by
  induction hrun with
  | start => exact hstart
  | next hrun hgiven ih => exact List.forall_mem_cons.mpr ⟨hgiven.wellFormed ih, ih⟩

/-- A description with the ground type in its slot. -/
def stiffGround : Description where
  latitude := 46.2
  longitude := 7.4
  ec8 := some (.ec8 (.text "B"))

/-- The record of a site that has a part but lacks its code. -/
def codeless (part : FieldValue) : Record :=
  Record.set ∅ "site_description" part

/-- No site is made of the record, and the description in it is left as it was. -/
theorem Run.keeps_wellFormed_codeless :
    ∃ held, Run [content (.element .description) stiffGround] held ∧
      .record (EntityKind.site.take (codeless (.element (.description stiffGround)))).left ∈ held ∧
      (EntityKind.site.take (codeless (.element (.description stiffGround)))).result =
        .error (.typeMismatch "station_code" [.text] none) ∧
      (EntityKind.site.take (codeless (.element (.description stiffGround)))).left.get?
        "site_description" = some (.element (.description stiffGround)) ∧
      ∀ one ∈ held, one.WellFormed := by
  have hstart : ∀ one ∈ [content (.element .description) stiffGround], one.WellFormed := by
    have haccepted : stiffGround.checked = .ok stiffGround := rfl
    exact List.forall_mem_singleton.mpr (.element (Description.checked_eq_ok.mp haccepted).2)
  have hvalue : Run [content (.element .description) stiffGround]
      [value (.element (.description stiffGround)), content (.element .description) stiffGround] :=
    .next .start (.wrap (List.mem_singleton_self _))
  have hrecord := (hvalue.next .newRecord).next
    (.insert "site_description" List.mem_cons_self (List.mem_cons_of_mem _ List.mem_cons_self))
  have hleft := hrecord.next (.left .site List.mem_cons_self)
  have hfails (part : FieldValue) : (EntityKind.site.take (codeless part)).result =
      .error (.typeMismatch "station_code" [.text] none) := by cbv
  have hthere (part : FieldValue) :
      (EntityKind.site.take (codeless part)).left.get? "site_description" = some part := by cbv
  exact ⟨_, hleft, List.mem_cons_self, hfails _, hthere _, Run.keeps_wellFormed hstart hleft⟩

end Holding

/-! ## The sites that can be made

Starting from nothing a program can make every well-formed site, and no others. -/

/-- Some program that starts with nothing comes to hold the site. -/
def Site.Constructible (site : Site) : Prop :=
  ∃ held, Holding.Run [] held ∧ .site site ∈ held

namespace Site.Constructible

variable {site : Site}

theorem wellFormed (h : site.Constructible) : site.WellFormed := by
  obtain ⟨held, hrun, hsite⟩ := h
  have hheld : ∀ one ∈ held, one.WellFormed := by
    clear hsite
    induction hrun with
    | start => exact List.forall_mem_nil _
    | next hrun hgiven ih => exact List.forall_mem_cons.mpr ⟨hgiven.wellFormed ih, ih⟩
  exact hheld _ hsite

theorem ofCode (code : String) : (Site.ofCode code).Constructible :=
  ⟨_, .next .start (.newSite code), List.mem_cons_self⟩

theorem withDescription (h : site.Constructible) {part : Description} (hpart : part.WellFormed) :
    (site.withDescription part).Constructible := by
  obtain ⟨held, hrun, hsite⟩ := h
  have hdescribe := hrun.next (.describe (Description.checked_eq_ok.mpr ⟨rfl, hpart⟩))
  exact ⟨_, hdescribe.next (.withDescription (List.mem_cons_of_mem _ hsite) List.mem_cons_self),
    List.mem_cons_self⟩

theorem withCharacterization (h : site.Constructible) {part : Characterization}
    (hpart : part.WellFormed) : (site.withCharacterization part).Constructible := by
  obtain ⟨held, hrun, hsite⟩ := h
  have hdescribe := hrun.next (.characterize (Characterization.checked_eq_ok.mpr ⟨rfl, hpart⟩))
  exact ⟨_, hdescribe.next (.withCharacterization (List.mem_cons_of_mem _ hsite) List.mem_cons_self),
    List.mem_cons_self⟩

theorem withOverallQuality (h : site.Constructible) (value : Float) :
    (site.withOverallQuality value).Constructible := by
  obtain ⟨held, hrun, hsite⟩ := h
  exact ⟨_, hrun.next (.withOverallQuality hsite value), List.mem_cons_self⟩

end Site.Constructible

/-- **The sites that can be made are the well-formed ones**: a site is made of its code,
and then of each of its parts. -/
theorem Site.constructible_iff {site : Site} : site.Constructible ↔ site.WellFormed := by
  refine ⟨Constructible.wellFormed, fun hwf => ?_⟩
  obtain ⟨code, description, characterization, quality⟩ := site
  have hdescribed : Constructible { stationCode := code, description } := by
    cases description with
    | none => exact .ofCode code
    | some part => exact (Constructible.ofCode code).withDescription (hwf.description part rfl)
  have hcharacterized : Constructible { stationCode := code, description, characterization } := by
    cases characterization with
    | none => exact hdescribed
    | some part => exact hdescribed.withCharacterization (hwf.characterization part rfl)
  cases quality with
  | none => exact hcharacterized
  | some value => exact hcharacterized.withOverallQuality value

end SeismicSite
