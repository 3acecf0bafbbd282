import SeismicSite.Proofs.Document.Foreign
import SeismicSite.Proofs.Document.Justified
/-!
# One part put in place of another

What the reader makes of a document in which one part is put in place of another is
known from what it makes of that part alone, if the document is read with the part
that stood there. An object takes the new part if the field that it stands in does,
and else complains of it; a part that cannot be read is reported where it stands.
-/

namespace SeismicSite

namespace Json

variable {before after : List (String × Json)} {name : String} {old new : Json}

/-- A change behind some steps is a change in the part that they lead to. -/
theorem modifyAt_append {change : Json → Json} {first second : List Step} {value : Json} :
    value.modifyAt change (first ++ second) = value.modifyAt (modifyAt change second) first := by
  induction first generalizing value with
  | nil => rfl
  | cons step steps ih =>
    rw [List.cons_append]
    cases step <;> cases value <;> simp only [modifyAt, ih]
    -- an item is changed by a function and not where it stands
    exact congrArg array (congrArg _ (funext fun _ => ih))

/-- An object stays sorted if a sorted value is put under one of its names. -/
theorem sorted_replaced (h : (object (before ++ (name, old) :: after)).Sorted) (hnew : new.Sorted) :
    (object (before ++ (name, new) :: after)).Sorted := by
  rw [sorted_object, List.map_append, List.map_cons] at h ⊢
  obtain ⟨hnames, hcontents⟩ := h
  refine ⟨hnames, fun other value hmem => ?_⟩
  rw [List.mem_append, List.mem_cons] at hmem
  rcases hmem with hbefore | hthis | hafter
  · exact hcontents other value (List.mem_append_left _ hbefore)
  · obtain ⟨rfl, rfl⟩ := Prod.mk.inj hthis
    exact hnew
  · exact hcontents other value (List.mem_append_right _ (List.mem_cons_of_mem _ hafter))

/-- What stands anywhere in a sorted value is sorted. -/
theorem sorted_of_at? {value part : Json} {steps : List Step} (hsorted : value.Sorted)
    (h : value.at? steps = some part) : part.Sorted := by
  induction steps generalizing value with
  | nil =>
    obtain rfl := Option.some.inj h
    exact hsorted
  | cons step steps ih =>
    cases value with
    | array items =>
      obtain ⟨before, item, after, rfl, -, hpart⟩ := at?_array_cons.mp h
      have hmem : item ∈ before ++ item :: after := List.mem_append_right _ List.mem_cons_self
      exact ih (sorted_array.mp hsorted item hmem) hpart
    | object members =>
      obtain ⟨before, name, content, after, rfl, -, hpart⟩ := (at?_object_cons hsorted.nodup).mp h
      have hmem : (name, content) ∈ before ++ (name, content) :: after :=
        List.mem_append_right _ List.mem_cons_self
      exact ih ((sorted_object.mp hsorted).2 name content hmem) hpart
    | _ => cases step <;> cases h

/-- Under the other names nothing changes. -/
theorem member?_replaced {other : String} (h : other ≠ name) :
    member? (before ++ (name, new) :: after) other = member? (before ++ (name, old) :: after) other := by
  simp only [member?, List.lookup_append, List.lookup_cons, beq_false_of_ne h]

end Json

namespace Document

/-! ## Objects -/

/-- **An object is read as an entity** exactly if its members can be read, its kind
declares all of them, and a row takes what they are read as. -/
theorem readEntity_eq_ok {kind : EntityKind} {members : List (String × Json)} {entity : kind.Carrier}
    (hsorted : (Json.object members).Sorted) :
    readEntity kind members = .ok entity ↔
      Legible members ∧ undeclared kind members = [] ∧
        ∃ row, Row.Takes kind.fields (reading members) row ∧ entity = kind.ofRow row := by
  -- a name is read exactly if a member that can be read has it
  have hdeclared : Legible members →
      ((∀ name value, reading members name = some value → name ∈ fieldNames kind.fields) ↔
        undeclared kind members = []) := by
    intro hlegible
    simp only [undeclared, List.filter_eq_nil_iff, reading_eq_some hsorted.nodup, List.forall_mem_map,
      decide_eq_true_eq, not_and, not_not]
    constructor
    · rintro h ⟨name, content⟩ hmem htype
      obtain ⟨value, hvalue⟩ := hlegible name content hmem htype
      exact h name value ⟨htype, content, hmem, hvalue⟩
    · rintro h name value ⟨htype, content, hmem, -⟩
      exact h (name, content) hmem htype
  simp only [readEntity, bind_eq_ok, mapError_eq_ok, build_eq_ok]
  constructor
  · rintro ⟨fields, hfields, hrow, hnames⟩
    have hlegible := exists_readMembers_iff.mp ⟨fields, hfields⟩
    rw [get?_ofList_eq_reading hsorted.nodup hfields] at hrow hnames
    exact ⟨hlegible, (hdeclared hlegible).mp hnames, hrow⟩
  · rintro ⟨hlegible, hnone, hrow⟩
    obtain ⟨fields, hfields⟩ := exists_readMembers_iff.mpr hlegible
    refine ⟨fields, hfields, ?_⟩
    rw [get?_ofList_eq_reading hsorted.nodup hfields]
    exact ⟨hrow, (hdeclared hlegible).mpr hnone⟩

/-- An object of which a field complains is rejected for it. -/
theorem readEntity_eq_complaint {kind : EntityKind} {members : List (String × Json)}
    {cause : FieldError} (hsorted : (Json.object members).Sorted) (hlegible : Legible members)
    (hcomplains : Complains kind.fields (reading members) cause) :
    readEntity kind members = .error (.here (.invalid cause)) := by
  obtain ⟨fields, hfields⟩ := exists_readMembers_iff.mpr hlegible
  have hbuild := (build_eq_error hsorted hfields).mpr (.invalid hcomplains)
  exact bind_eq_error.mpr (.inr ⟨fields, hfields, mapError_eq_error.mpr ⟨_, hbuild, rfl⟩⟩)

section Replaced

variable {kind : EntityKind} {before after : List (String × Json)} {name : String} {old new : Json}

/-- The members stay legible if what is put among them can be read. -/
theorem legible_replaced (h : Legible (before ++ (name, old) :: after))
    (hnew : ∃ value, readValue new = .ok value) : Legible (before ++ (name, new) :: after) := by
  intro other content hmem htype
  rw [List.mem_append, List.mem_cons] at hmem
  rcases hmem with hbefore | hthis | hafter
  · exact h other content (List.mem_append_left _ hbefore) htype
  · obtain ⟨rfl, rfl⟩ := Prod.mk.inj hthis
    exact hnew
  · exact h other content (List.mem_append_right _ (List.mem_cons_of_mem _ hafter)) htype

/-- The other names are read as before. -/
theorem reading_replaced {other : String} (h : other ≠ name) :
    reading (before ++ (name, new) :: after) other = reading (before ++ (name, old) :: after) other := by
  rw [reading, reading, Json.member?_replaced h]

/-- Under its name stands what the new part is read as. -/
theorem reading_replaced_self (hnodup : ((before ++ (name, new) :: after).map Prod.fst).Nodup)
    (htype : name ≠ typeMember) {value : FieldValue} (hnew : readValue new = .ok value) :
    reading (before ++ (name, new) :: after) name = some value :=
  (reading_eq_some hnodup).mpr ⟨htype, new, List.mem_append_right _ List.mem_cons_self, hnew⟩

/-- The object is of the kind that it was of. -/
theorem objectKind_replaced (h : name ≠ typeMember) :
    objectKind (before ++ (name, new) :: after) = objectKind (before ++ (name, old) :: after) := by
  rw [objectKind, objectKind, Json.member?_replaced h.symm]

/-- And if it may be a site it still may. -/
theorem checkSite_replaced (h : name ≠ typeMember) :
    checkSite (before ++ (name, new) :: after) = checkSite (before ++ (name, old) :: after) := by
  rw [checkSite, checkSite, Json.member?_replaced h.symm]

theorem undeclared_replaced :
    undeclared kind (before ++ (name, new) :: after) =
      undeclared kind (before ++ (name, old) :: after) := by
  simp only [undeclared, List.map_append, List.map_cons]

/-- The fields of the other names conform if the object was read before. -/
theorem conforms_replaced {entity : kind.Carrier}
    (hsorted : (Json.object (before ++ (name, old) :: after)).Sorted)
    (hold : readEntity kind (before ++ (name, old) :: after) = .ok entity) {field : Field}
    (hfield : field ∈ kind.fields) (hname : field.name ≠ name) :
    field.content.Conforms (reading (before ++ (name, new) :: after) field.name) := by
  obtain ⟨-, -, row, hrow, -⟩ := (readEntity_eq_ok hsorted).mp hold
  rw [reading_replaced hname]
  exact Content.exists_takes_iff_conforms.mp (Row.exists_takes_iff.mp ⟨row, hrow⟩ field hfield)

/-- So a row takes what the members are read as, if the field of the new part takes it. -/
theorem exists_takes_replaced {entity : kind.Carrier} {value : FieldValue}
    (hsorted : (Json.object (before ++ (name, old) :: after)).Sorted) (hnew : new.Sorted)
    (hold : readEntity kind (before ++ (name, old) :: after) = .ok entity) (htype : name ≠ typeMember)
    (hvalue : readValue new = .ok value)
    (hconforms : ∀ field ∈ kind.fields, field.name = name → field.content.Conforms (some value)) :
    ∃ row, Row.Takes kind.fields (reading (before ++ (name, new) :: after)) row := by
  refine Row.exists_takes_iff.mpr fun field hfield => Content.exists_takes_iff_conforms.mpr ?_
  by_cases hname : field.name = name
  · rw [hname, reading_replaced_self (Json.sorted_replaced hsorted hnew).nodup htype hvalue]
    exact hconforms field hfield hname
  · exact conforms_replaced hsorted hold hfield hname

/-- **A part that cannot be read is reported under its name**, if the object was read
with another one there. -/
theorem readEntity_replaced_eq_error {entity : kind.Carrier} {inner : Finding}
    (hsorted : (Json.object (before ++ (name, old) :: after)).Sorted)
    (hold : readEntity kind (before ++ (name, old) :: after) = .ok entity)
    (htype : name ≠ typeMember) (hnew : readValue new = .error inner) :
    readEntity kind (before ++ (name, new) :: after) = .error (inner.under (.member name)) := by
  obtain ⟨hlegible, -, -⟩ := (readEntity_eq_ok hsorted).mp hold
  refine bind_eq_error.mpr (.inl (readMembers_eq_error.mpr ?_))
  refine ⟨before, (name, new), after, rfl, ?_, htype, inner, hnew, rfl⟩
  rintro ⟨other, content⟩ hmem
  exact hlegible other content (List.mem_append_left _ hmem)

/-- **A part that can be read leaves it to the fields** whether the object is. -/
theorem exists_readEntity_replaced {entity : kind.Carrier} {row : Row kind.fields}
    (hsorted : (Json.object (before ++ (name, old) :: after)).Sorted) (hnew : new.Sorted)
    (hold : readEntity kind (before ++ (name, old) :: after) = .ok entity)
    (hvalue : ∃ value, readValue new = .ok value)
    (hrow : Row.Takes kind.fields (reading (before ++ (name, new) :: after)) row) :
    readEntity kind (before ++ (name, new) :: after) = .ok (kind.ofRow row) := by
  obtain ⟨hlegible, hnone, -⟩ := (readEntity_eq_ok hsorted).mp hold
  rw [readEntity_eq_ok (Json.sorted_replaced hsorted hnew)]
  exact ⟨legible_replaced hlegible hvalue, undeclared_replaced.trans hnone, row, hrow, rfl⟩

end Replaced

/-! ## Sites -/

/-- The site that was read at a place of a document. -/
def siteAt? (found : List Site) : List Step → Option Site
  | [.item index] => found[index]?
  | _ => found.head?

/-- A document that is no array is read as its one site. -/
theorem read_eq_readSite {document : Json} (h : ∀ items, document ≠ .array items) :
    Document.read document = List.singleton <$> readSite document := by
  cases document with
  | array items => exact absurd rfl (h items)
  | _ => rfl

/-- **A document is read as before but for the site that is replaced.** -/
theorem sites_replaced {document value : Json} {place : List Step} {change : Json → Json}
    {found : List Site} (hplace : SitePlace document place) (hat : document.at? place = some value)
    (hchange : ∀ items, change value ≠ .array items)
    (hfound : sites (document.modifyAt change place) = .ok found) :
    (∃ site, readSite (change value) = .ok site) ∧
      (∀ site, readSite value = .ok site →
        ∃ found, sites document = .ok found ∧ siteAt? found place = some site) ∧
      ∀ finding, readSite value = .error finding →
        sites document = .error ⟨⟨documentRoot, place ++ finding.steps⟩, finding.fault⟩ := by
  cases hplace with
  | document hnot =>
    obtain rfl := Option.some.inj hat
    rw [Json.modifyAt, sites, mapError_eq_ok, read_eq_readSite hchange, map_eq_ok] at hfound
    obtain ⟨site, hsite, -⟩ := hfound
    refine ⟨⟨site, hsite⟩, fun site hsite => ⟨[site], ?_, rfl⟩, fun finding hfinding => ?_⟩
    · rw [sites, mapError_eq_ok, read_eq_readSite hnot, hsite]
      rfl
    · rw [sites, read_eq_readSite hnot, hfinding]
      rfl
  | @item items index =>
    obtain ⟨before, item, after, rfl, hindex, hitem⟩ := Json.at?_array_cons.mp hat
    obtain rfl := Step.item.inj hindex
    obtain rfl := Option.some.inj hitem
    rw [Json.modifyAt_array_append, Json.modifyAt] at hfound
    have hread : ∀ value ∈ before ++ change item :: after, ∃ site, readSite value = .ok site :=
      exists_forall₂_iff.mp ⟨found, sites_eq_ok.mp hfound⟩
    have hbefore : ∀ value ∈ before, ∃ site, readSite value = .ok site := fun value hmem =>
      hread value (List.mem_append_left _ hmem)
    have hafter : ∀ value ∈ after, ∃ site, readSite value = .ok site := fun value hmem =>
      hread value (List.mem_append_right _ (List.mem_cons_of_mem _ hmem))
    refine ⟨hread _ (List.mem_append_right _ List.mem_cons_self), ?_, ?_⟩
    · intro site hsite
      obtain ⟨first, hfirst⟩ := exists_forall₂_iff.mpr hbefore
      obtain ⟨last, hlast⟩ := exists_forall₂_iff.mpr hafter
      refine ⟨first ++ site :: last, sites_eq_ok.mpr (List.rel_append hfirst (.cons hsite hlast)), ?_⟩
      rw [siteAt?, hfirst.length_eq, List.getElem?_append_right (Nat.le_refl _), Nat.sub_self,
        List.getElem?_cons_zero]
    · intro finding hfinding
      refine mapError_eq_error.mpr ⟨finding.under (.item before.length), ?_, rfl⟩
      rw [Document.read, readSites]
      refine readEach_eq_error.mpr ⟨before, item, after, rfl, hbefore, finding, hfinding, ?_⟩
      rw [Nat.zero_add]

end Document

end SeismicSite
