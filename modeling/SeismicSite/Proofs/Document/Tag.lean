import SeismicSite.Proofs.Document.Encoding
import SeismicSite.Proofs.Document.Replace
import SeismicSite.Proofs.Schema.Tag
import SeismicSite.Summary
/-!
# Tags in documents

The class of a site's description is read from a document as from a record: a text that
is a tag gives the member that is written so, and one that is none is rejected at the
description. That the document has no other fault is told by the tags themselves: it is
read if some tag stands in place of the text.
-/

namespace SeismicSite

variable {scheme : Scheme} {text : String}

namespace Document

/-! ## The description -/

section Description

variable {before after : List (String × Json)} {other : scheme.Carrier} {description : Description}

theorem field_ne_typeMember (scheme : Scheme) : TagSet.field scheme.Carrier ≠ typeMember := by
  cases scheme <;> decide

/-- A description that is read with some tag in the field of the scheme finds the text
that is put there. -/
theorem findsTag_replaced
    (hsorted : (Json.object (before ++ (TagSet.field scheme.Carrier, TagSet.toJson other) :: after)).Sorted)
    (hold : readEntity (.element .description)
      (before ++ (TagSet.field scheme.Carrier, TagSet.toJson other) :: after) = .ok description) :
    Description.FindsTag scheme text
      (reading (before ++ (TagSet.field scheme.Carrier, .string text) :: after)) where
  text := by
    have hreplaced : (Json.object (before ++ (TagSet.field scheme.Carrier, .string text) :: after)).Sorted :=
      Json.sorted_replaced hsorted trivial
    exact reading_replaced_self hreplaced.nodup (field_ne_typeMember scheme) rfl
  others _ hfield hname := conforms_replaced hsorted hold hfield hname

/-- **It is read with the member that is written so.** -/
theorem exists_readValue_tag {member : scheme.Carrier}
    (hsorted : (Json.object (before ++ (TagSet.field scheme.Carrier, TagSet.toJson other) :: after)).Sorted)
    (hkind : objectKind (before ++ (TagSet.field scheme.Carrier, TagSet.toJson other) :: after) =
      .ok (.element .description))
    (hold : readEntity (.element .description)
      (before ++ (TagSet.field scheme.Carrier, TagSet.toJson other) :: after) = .ok description)
    (htag : TagSet.tag member = text) :
    ∃ d, readValue (.object (before ++ (TagSet.field scheme.Carrier, .string text) :: after)) =
        .ok (.element (.description d)) ∧ d.classOf scheme = some member := by
  obtain ⟨row, hrow, hclass⟩ := (findsTag_replaced hsorted hold).exists_row htag
  have hread : readEntity (.element .description)
      (before ++ (TagSet.field scheme.Carrier, .string text) :: after) = .ok (Description.ofRow row) :=
    exists_readEntity_replaced hsorted trivial hold ⟨.text text, rfl⟩ hrow
  refine ⟨Description.ofRow row, ?_, hclass⟩
  rw [readValue_eq_readEntity ((objectKind_replaced (field_ne_typeMember scheme)).trans hkind), hread]
  rfl

/-- **Where no member is written so it is rejected.** -/
theorem readValue_no_tag
    (hsorted : (Json.object (before ++ (TagSet.field scheme.Carrier, TagSet.toJson other) :: after)).Sorted)
    (hkind : objectKind (before ++ (TagSet.field scheme.Carrier, TagSet.toJson other) :: after) =
      .ok (.element .description))
    (hold : readEntity (.element .description)
      (before ++ (TagSet.field scheme.Carrier, TagSet.toJson other) :: after) = .ok description)
    (hno : ∀ member : scheme.Carrier, TagSet.tag member ≠ text) :
    readValue (.object (before ++ (TagSet.field scheme.Carrier, .string text) :: after)) =
      .error (.here (.invalid (.outside scheme.Carrier (TagSet.field scheme.Carrier) text))) := by
  obtain ⟨hlegible, -⟩ := (readEntity_eq_ok hsorted).mp hold
  have htext : ∃ value, readValue (.string text) = .ok value := ⟨.text text, rfl⟩
  have hreplaced : (Json.object (before ++ (TagSet.field scheme.Carrier, .string text) :: after)).Sorted :=
    Json.sorted_replaced hsorted trivial
  have hread := @readEntity_eq_complaint (.element .description) _ _ hreplaced
    (legible_replaced hlegible htext) ((findsTag_replaced hsorted hold).complains hno)
  rw [readValue_eq_readEntity ((objectKind_replaced (field_ne_typeMember scheme)).trans hkind), hread]
  rfl

end Description

/-! ## The site -/

/-- The member of a site that its description stands in. -/
def descriptionMember : String := "site_description"

section Site

variable {before after old new : List (String × Json)} {site : Site}

/-- Only a description is read in its place. -/
theorem exists_description_of_readSite
    (hsorted : (Json.object (before ++ (descriptionMember, .object old) :: after)).Sorted)
    (hread : readEntity .site (before ++ (descriptionMember, .object old) :: after) = .ok site) :
    objectKind old = .ok (.element .description) ∧
      ∃ d, readEntity (.element .description) old = .ok d := by
  obtain ⟨hlegible, -, row, hrow, -⟩ := (readEntity_eq_ok hsorted).mp hread
  obtain ⟨value, hvalue⟩ :=
    hlegible _ _ (List.mem_append_right _ List.mem_cons_self) (by decide)
  have hfind := reading_replaced_self hsorted.nodup (by decide) hvalue
  obtain ⟨-, hdescription, -⟩ := hrow
  rw [show reading _ "site_description" = _ from hfind] at hdescription
  obtain ⟨one, ⟨hkind, -⟩, -⟩ := hdescription
  obtain ⟨kind, fields, entity, htype, hfields, hbuild, rfl⟩ := readValue_object_eq_ok.mp hvalue
  obtain ⟨⟨built, -, rfl⟩, -⟩ := build_eq_ok.mp hbuild
  have hsame : (kind.toElement ((EntityKind.element kind).ofRow built)).kind = kind :=
    kind.kind_toElement_ofRow built
  obtain rfl : kind = .description := by
    simpa [FieldType.expected, FieldValue.kind, hsame] using hkind
  exact ⟨objectKind_eq_ok.mpr htype, _, bind_eq_ok.mpr ⟨fields, hfields, mapError_eq_ok.mpr hbuild⟩⟩

/-- The description of a site that is read is the one that is found. -/
theorem description_ofRow {find : String → Option FieldValue} {row : Row Site.fields} {d : Description}
    (hrow : Row.Takes Site.fields find row)
    (hfind : find descriptionMember = some (.element (.description d))) :
    (Site.ofRow row).description = some d := by
  obtain ⟨-, hdescription, -⟩ := hrow
  rw [show find "site_description" = _ from hfind] at hdescription
  obtain ⟨one, htakes, hone⟩ := hdescription
  have hsame : one = d := @FieldType.eq_of_takes_toElement .description d one htakes
  exact hone.trans (congrArg some hsame)

/-- **A site takes any description that is read** in place of its own. -/
theorem exists_readEntity_description {d : Description}
    (hsorted : (Json.object (before ++ (descriptionMember, .object old) :: after)).Sorted)
    (hnew : (Json.object new).Sorted)
    (hold : readEntity .site (before ++ (descriptionMember, .object old) :: after) = .ok site)
    (hvalue : readValue (.object new) = .ok (.element (.description d))) :
    ∃ site, readEntity .site (before ++ (descriptionMember, .object new) :: after) = .ok site ∧
      site.description = some d := by
  have hconforms : ∀ field ∈ EntityKind.site.fields, field.name = descriptionMember →
      field.content.Conforms (some (.element (.description d))) := by
    simp [EntityKind.fields, Site.fields, descriptionMember, Content.Conforms, FieldType.Conforms,
      FieldType.expected, FieldValue.kind, Element.kind]
  obtain ⟨row, hrow⟩ := exists_takes_replaced hsorted hnew hold (by decide) hvalue hconforms
  have hread := exists_readEntity_replaced hsorted hnew hold ⟨_, hvalue⟩ hrow
  have hfind := reading_replaced_self (Json.sorted_replaced hsorted hnew).nodup (by decide) hvalue
  exact ⟨Site.ofRow row, hread, description_ofRow hrow hfind⟩

end Site

/-- The steps from a site to the text of a scheme in its description. -/
def classSteps (scheme : Scheme) : List Step :=
  [.member descriptionMember, .member (TagSet.field scheme.Carrier)]

/-- What stands at these steps stands in the description of a site. -/
theorem eq_object_of_at?_classSteps {value part : Json} (hsorted : value.Sorted)
    (h : value.at? (classSteps scheme) = some part) :
    ∃ before first last after, value = .object (before ++ (descriptionMember,
      .object (first ++ (TagSet.field scheme.Carrier, part) :: last)) :: after) := by
  cases value with
  | object members =>
    obtain ⟨before, _, content, after, rfl, hname, hcontent⟩ :=
      (Json.at?_object_cons hsorted.nodup).mp h
    obtain rfl := Step.member.inj hname
    have hinner := (Json.sorted_object.mp hsorted).2 _ content
      (List.mem_append_right _ List.mem_cons_self)
    cases content with
    | object parts =>
      obtain ⟨first, _, _, last, rfl, hfield, hpart⟩ :=
        (Json.at?_object_cons hinner.nodup).mp hcontent
      obtain rfl := Step.member.inj hfield
      obtain rfl := Option.some.inj hpart
      exact ⟨before, first, last, after, rfl⟩
    | _ => cases hcontent
  | _ => cases h

/-- **A site is read with the class of its description** where the text is a tag, and
rejected at its description where it is none, if it is read with some tag there. -/
theorem readSite_tag {value : Json} {other : scheme.Carrier} {site : Site} (hsorted : value.Sorted)
    (hat : value.at? (classSteps scheme) = some (.string text))
    (hold : readSite (value.modifyAt (fun _ => TagSet.toJson other) (classSteps scheme)) = .ok site) :
    (∀ member : scheme.Carrier, TagSet.tag member = text →
      ∃ site d, readSite value = .ok site ∧ site.description = some d ∧
        d.classOf scheme = some member) ∧
      ((∀ member : scheme.Carrier, TagSet.tag member ≠ text) →
        readSite value = .error ⟨[.member descriptionMember],
          .invalid (.outside scheme.Carrier (TagSet.field scheme.Carrier) text)⟩) := by
  obtain ⟨before, first, last, after, rfl⟩ := eq_object_of_at?_classSteps hsorted hat
  have hinner := (Json.sorted_object.mp hsorted).2 descriptionMember _
    (List.mem_append_right _ List.mem_cons_self)
  rw [classSteps, Json.modifyAt_object_append hsorted.nodup,
    Json.modifyAt_object_append hinner.nodup, Json.modifyAt] at hold
  -- with the tag in it the description is read, and so is the site
  have hpart : (Json.object (first ++ (TagSet.field scheme.Carrier, TagSet.toJson other) :: last)).Sorted :=
    Json.sorted_replaced hinner trivial
  have hsite := Json.sorted_replaced hsorted hpart
  obtain ⟨_, _, hmembers, hcheck, -⟩ := readSite_eq_ok.mp hold
  obtain rfl := Json.object.inj hmembers
  rw [readSite_eq_readEntity hcheck] at hold
  obtain ⟨hkind, description, hdescription⟩ := exists_description_of_readSite hsite hold
  rw [readSite_eq_readEntity ((checkSite_replaced (by decide)).trans hcheck)]
  constructor
  · intro member htag
    obtain ⟨d, hd, hclass⟩ := exists_readValue_tag hpart hkind hdescription htag
    obtain ⟨found, hfound, hsame⟩ := exists_readEntity_description hsite hinner hold hd
    exact ⟨found, d, hfound, hsame, hclass⟩
  · intro hno
    have hvalue := readValue_no_tag hpart hkind hdescription hno
    exact readEntity_replaced_eq_error hsite hold (by decide) hvalue

/-! ## The document -/

/-- A document with the text in the field of the scheme of the description of the site
at the place, which is read if some tag of the scheme stands there instead. -/
structure HasTag (scheme : Scheme) (text : String) (document : Json) (place : List Step) : Prop where
  sorted : document.Sorted
  atSite : SitePlace document place
  stands : document.at? (place ++ classSteps scheme) = some (.string text)
  otherwise : ∃ (other : scheme.Carrier) (found : List Site),
    sites (document.modifyAt (fun _ => TagSet.toJson other) (place ++ classSteps scheme)) = .ok found

/-- A document with such a text is one with a site at the place that is read by itself. -/
theorem HasTag.exists_value {document : Json} {place : List Step} (h : HasTag scheme text document place) :
    ∃ value, value.Sorted ∧ value.at? (classSteps scheme) = some (.string text) ∧
      (∃ (other : scheme.Carrier) (site : Site),
        readSite (value.modifyAt (fun _ => TagSet.toJson other) (classSteps scheme)) = .ok site) ∧
      (∀ site, readSite value = .ok site →
        ∃ found, sites document = .ok found ∧ siteAt? found place = some site) ∧
      ∀ finding, readSite value = .error finding →
        sites document = .error ⟨⟨documentRoot, place ++ finding.steps⟩, finding.fault⟩ := by
  obtain ⟨hsorted, hplace, htext, other, found, hfound⟩ := h
  rw [Json.at?_append, Option.bind_eq_some_iff] at htext
  obtain ⟨value, hvalue, htext⟩ := htext
  have hinner := Json.sorted_of_at? hsorted hvalue
  have hobject : ∀ items,
      value.modifyAt (fun _ => TagSet.toJson other) (classSteps scheme) ≠ .array items := by
    obtain ⟨before, first, last, after, rfl⟩ := eq_object_of_at?_classSteps hinner htext
    simp [classSteps, Json.modifyAt]
  rw [Json.modifyAt_append] at hfound
  obtain ⟨⟨site, hsite⟩, haccepts, hrejects⟩ := sites_replaced hplace hvalue hobject hfound
  exact ⟨value, hinner, htext, ⟨other, site, hsite⟩, haccepts, hrejects⟩

/-- A document is rejected at the description where no member is written so. -/
theorem HasTag.sites_eq_error {document : Json} {place : List Step}
    (h : HasTag scheme text document place)
    (hno : ∀ member : scheme.Carrier, TagSet.tag member ≠ text) :
    sites document = .error ⟨⟨documentRoot, place ++ [.member descriptionMember]⟩,
      .invalid (.outside scheme.Carrier (TagSet.field scheme.Carrier) text)⟩ := by
  obtain ⟨value, hsorted, htext, ⟨other, site, hsite⟩, -, hrejects⟩ := h.exists_value
  exact hrejects _ ((readSite_tag hsorted htext hsite).2 hno)

/-- **A document is read with a description of the class** that the text is the tag of. -/
theorem HasTag.sites_iff {document : Json} {place : List Step}
    (h : HasTag scheme text document place) :
    ∀ member : scheme.Carrier,
      (∃ found site d, sites document = .ok found ∧ siteAt? found place = some site ∧
          site.description = some d ∧ d.classOf scheme = some member) ↔
        TagSet.tag member = text := by
  refine TagSet.gives_iff (fun member htag => ?_) (fun hno member => ?_) fun a b => ?_
  · obtain ⟨value, hsorted, htext, ⟨other, site, hsite⟩, haccepts, -⟩ := h.exists_value
    obtain ⟨site, d, hread, hd, hclass⟩ := (readSite_tag hsorted htext hsite).1 member htag
    obtain ⟨found, hfound, hat⟩ := haccepts site hread
    exact ⟨found, site, d, hfound, hat, hd, hclass⟩
  · rw [h.sites_eq_error hno]
    rintro ⟨found, site, d, hfound, -⟩
    cases hfound
  · rintro ⟨found, site, d, hfound, hat, hd, ha⟩ ⟨found', site', d', hfound', hat', hd', hb⟩
    obtain rfl := Except.ok.inj (hfound.symm.trans hfound')
    obtain rfl := Option.some.inj (hat.symm.trans hat')
    obtain rfl := Option.some.inj (hd.symm.trans hd')
    exact Option.some.inj (ha.symm.trans hb)

/-- **Every reader of a tag agrees.** The look-up of a text, the reader of a text alone,
the check of a field, a description made of a record and a document all accept the text
exactly if it is the tag of a member, and all give that member, which is written as the
text again. Where the text is no tag the look-up has nothing, and all others have one
error, which names the field, all tags and the text; in a document it stands at the
description. -/
theorem readers_of_a_tag_agree (scheme : Scheme) (text : String) :
    (∀ member : scheme.Carrier,
      (TagSet.ofTag? text = some member ↔ TagSet.tag member = text) ∧
        (TagSet.read scheme.Carrier text = .ok member ↔ TagSet.tag member = text) ∧
        (∀ field allowAbsent, checkTag scheme.Carrier field allowAbsent (some text) =
          .ok (some member) ↔ TagSet.tag member = text) ∧
        (∀ record : Record, Description.FindsTag scheme text record.get? →
          ((∃ d, (EntityKind.element .description).ofRecord record = .ok d ∧
              d.classOf scheme = some member) ↔ TagSet.tag member = text)) ∧
        (∀ document place, HasTag scheme text document place →
          ((∃ found site d, sites document = .ok found ∧ siteAt? found place = some site ∧
              site.description = some d ∧ d.classOf scheme = some member) ↔
            TagSet.tag member = text)) ∧
        (TagSet.tag member = text →
          TagSet.toJson member = .string text ∧ Description.tagOrDash (some member) = text)) ∧
      ((∀ member : scheme.Carrier, TagSet.tag member ≠ text) →
        (TagSet.ofTag? text : Option scheme.Carrier) = none ∧
          (∀ field allowAbsent, checkTag scheme.Carrier field allowAbsent (some text) =
            .error (.unknownTag field (TagSet.tags scheme.Carrier) text)) ∧
          TagSet.read scheme.Carrier text = .error
            (.unknownTag (TagSet.field scheme.Carrier) (TagSet.tags scheme.Carrier) text) ∧
          (∀ record : Record, Description.FindsTag scheme text record.get? →
            (EntityKind.element .description).ofRecord record = .error
              (.unknownTag (TagSet.field scheme.Carrier) (TagSet.tags scheme.Carrier) text)) ∧
          ∀ document place, HasTag scheme text document place →
            sites document = .error ⟨⟨documentRoot, place ++ [.member descriptionMember]⟩,
              .invalid (.unknownTag (TagSet.field scheme.Carrier) (TagSet.tags scheme.Carrier) text)⟩) := by
  constructor
  · intro member
    refine ⟨TagSet.ofTag?_eq_some, expectTag_eq_ok.trans TagSet.ofTag?_eq_some, fun _ _ => checkTag_eq_ok,
      fun _ h => h.ofRecord_iff member, fun _ _ h => h.sites_iff member, ?_⟩
    rintro rfl
    exact ⟨TagSet.toJson_eq_tag member, rfl⟩
  · intro hno
    refine ⟨TagSet.ofTag?_eq_none.mpr hno, fun field allowAbsent => ?_, expectTag_eq_error hno,
      fun _ h => h.ofRecord_eq_error hno, fun _ _ h => h.sites_eq_error hno⟩
    exact map_eq_error.mpr (expectTag_eq_error hno)

/-- A site on the relief that the text tells. -/
def onRelief (text : String) : Json :=
  .object
    [("site_description", .object
      [("latitude", .ofInt64 46),
        ("longitude", .ofInt64 8),
        ("topologyB", .string text),
        ("type", .string "SiteDescription")]),
      ("station_code", .string "SENGL")]

theorem readers_of_a_tag_agree_ridge :
    HasTag .landform "Ridge" (onRelief "Ridge") [] ∧ HasTag .landform "ridge" (onRelief "ridge") [] ∧
      (∃ found site d, sites (onRelief "Ridge") = .ok found ∧ siteAt? found [] = some site ∧
        site.description = some d ∧ d.classOf .landform = some .ridge) ∧
      sites (onRelief "ridge") = .error ⟨⟨"$", [.member "site_description"]⟩,
        .invalid (.unknownTag "topologyB"
          ["Valley", "Lower slope", "Flat", "Middle slope", "Upper slope", "Ridge"] "ridge")⟩ := by
  have hridge : HasTag .landform "Ridge" (onRelief "Ridge") [] :=
    ⟨by decide, .document (by simp [onRelief]), rfl, .flat, _, rfl⟩
  have hother : HasTag .landform "ridge" (onRelief "ridge") [] :=
    ⟨by decide, .document (by simp [onRelief]), rfl, .flat, _, rfl⟩
  refine ⟨hridge, hother, ?_, ?_⟩
  · obtain ⟨-, -, -, -, hsites, -⟩ := (readers_of_a_tag_agree .landform "Ridge").1 Landform.ridge
    exact (hsites _ _ hridge).mpr rfl
  · have hno : ∀ member : Landform, TagSet.tag member ≠ "ridge" := by
      intro member
      cases member <;> decide
    exact ((readers_of_a_tag_agree .landform "ridge").2 hno).2.2.2.2 _ _ hother

end Document

end SeismicSite
