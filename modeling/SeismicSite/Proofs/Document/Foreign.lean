import SeismicSite.Proofs.Document.Rejection
import SeismicSite.Proofs.Json.Place
import SeismicSite.Proofs.Text.ByteOrder
/-!
# Foreign members

Members that the kind of an object does not declare are not dropped: added to
any object of a document that can be read, they are what the reader reports, at
the place of that object and by all of their names. Everything before that object
is still read as it was, and so are the object's own members, so nothing else can
be at fault first.
-/

namespace SeismicSite

/-- The object with further members, all in the order of their names; a value
that is no object stays as it is. -/
def Json.extend (extra : List (String × Json)) : Json → Json
  | object members => ofMembers (members ++ extra)
  | value => value

namespace Document

/-- The kind that an object tells; an object that tells none is a site. -/
def kindOf (members : List (String × Json)) : EntityKind :=
  (objectKind members).toOption.getD .site

/-- Members that no object of the kind may have, at least one, each with a name
of its own and a value that can be read. -/
structure Foreign (kind : EntityKind) (extra : List (String × Json)) : Prop where
  ne_nil : extra ≠ []
  nodup : (extra.map Prod.fst).Nodup
  undeclared : ∀ name ∈ extra.map Prod.fst, name ≠ typeMember ∧ name ∉ fieldNames kind.fields
  sorted : ∀ member ∈ extra, member.2.Sorted
  readable : ∀ member ∈ extra, ∃ found, readValue member.2 = .ok found

/-- The names of the members, each once and in the order of their bytes. -/
def Lists (names : List String) (extra : List (String × Json)) : Prop :=
  names.Perm (extra.map Prod.fst) ∧ names.Pairwise fun a b => utf8 a < utf8 b

/-! ## The object itself -/

section Extended

variable {kind : EntityKind} {members extra all : List (String × Json)}
variable {fields : List (String × FieldValue)} {entity : kind.Carrier}

/-- An entity that is built declares all its members. -/
theorem declared_of_build (hnodup : (members.map Prod.fst).Nodup)
    (hfields : readMembers members = .ok fields) (hbuild : build kind (.ofList fields) = .ok entity)
    {name : String} (hname : name ∈ members.map Prod.fst) (htype : name ≠ typeMember) :
    name ∈ fieldNames kind.fields := by
  obtain ⟨⟨_, content⟩, hmem, rfl⟩ := List.mem_map.mp hname
  obtain ⟨value, hvalue⟩ := exists_readMembers_iff.mp ⟨fields, hfields⟩ _ content hmem htype
  have hget := (get?_readMembers_eq_some hnodup hfields).mpr ⟨htype, content, hmem, hvalue⟩
  exact (build_eq_ok.mp hbuild).2 _ value hget

/-- Foreign members have names that the object has not. -/
theorem nodup_append_foreign (hnodup : (members.map Prod.fst).Nodup)
    (hfields : readMembers members = .ok fields) (hbuild : build kind (.ofList fields) = .ok entity)
    (hextra : Foreign kind extra) : ((members ++ extra).map Prod.fst).Nodup := by
  rw [List.map_append, List.nodup_append]
  refine ⟨hnodup, hextra.nodup, ?_⟩
  rintro name hname _ hforeign rfl
  obtain ⟨htype, hundeclared⟩ := hextra.undeclared name hforeign
  exact hundeclared (declared_of_build hnodup hfields hbuild hname htype)

/-- The members of a sorted object that has the members of another one and
further ones. -/
structure Joins (all members extra : List (String × Json)) : Prop where
  sorted : (Json.object all).Sorted
  mem_iff : ∀ name value, (name, value) ∈ all ↔ (name, value) ∈ members ∨ (name, value) ∈ extra

/-- Members under names of their own are joined by `Json.extend`. -/
theorem exists_joins (hsorted : (Json.object members).Sorted)
    (hextra : ∀ member ∈ extra, member.2.Sorted) (hnodup : ((members ++ extra).map Prod.fst).Nodup) :
    ∃ all, Json.extend extra (.object members) = .object all ∧ Joins all members extra := by
  refine ⟨_, rfl, Json.sorted_ofMembers fun name value hmem => ?_, fun name value => ?_⟩
  · rcases List.mem_append.mp hmem with hmember | hforeign
    · exact (Json.sorted_object.mp hsorted).2 name value hmember
    · exact hextra _ hforeign
  · rw [Json.mem_toList_ofList hnodup, List.mem_append]

namespace Joins

/-- Under a name that is not added nothing has changed. -/
theorem member?_eq (hjoins : Joins all members extra) (hsorted : (Json.object members).Sorted)
    {name : String} (hname : name ∉ extra.map Prod.fst) :
    Json.member? all name = Json.member? members name := by
  refine Option.ext fun value => ?_
  rw [Json.member?, Json.member?, Json.lookup_eq_some_iff hjoins.sorted.nodup,
    Json.lookup_eq_some_iff hsorted.nodup, hjoins.mem_iff]
  exact or_iff_left fun hforeign => hname (List.mem_map_of_mem hforeign)

/-- The members that the kind of the object does not declare are the foreign
ones. -/
theorem lists_undeclared (hjoins : Joins all members extra) (hnodup : (members.map Prod.fst).Nodup)
    (hfields : readMembers members = .ok fields) (hbuild : build kind (.ofList fields) = .ok entity)
    (hextra : Foreign kind extra) : Lists (undeclared kind all) extra := by
  have hordered : (undeclared kind all).Pairwise (· < ·) :=
    (Json.sorted_object.mp hjoins.sorted).1.sublist List.filter_sublist
  refine ⟨?_, hordered.imp utf8_lt_iff.mpr⟩
  have honce : (undeclared kind all).Nodup := hjoins.sorted.nodup.sublist List.filter_sublist
  -- each side has a name once, so they are permutations if they have the same names
  refine (List.perm_ext_iff_of_nodup honce hextra.nodup).mpr fun name => ?_
  have hnames : name ∈ all.map Prod.fst ↔
      name ∈ members.map Prod.fst ∨ name ∈ extra.map Prod.fst := by
    simp only [List.mem_map, Prod.exists, exists_and_right, exists_eq_right, hjoins.mem_iff, exists_or]
  simp only [undeclared, List.mem_filter, hnames, decide_eq_true_eq]
  constructor
  · rintro ⟨hmember | hforeign, htype, hundeclared⟩
    · exact absurd (declared_of_build hnodup hfields hbuild hmember htype) hundeclared
    · exact hforeign
  · intro hforeign
    exact ⟨.inr hforeign, hextra.undeclared name hforeign⟩

/-- The declared fields conform as before. -/
theorem conforms (hjoins : Joins all members extra) (hsorted : (Json.object members).Sorted)
    (hfields : readMembers members = .ok fields) (hbuild : build kind (.ofList fields) = .ok entity)
    (hextra : Foreign kind extra) :
    ∀ field ∈ kind.fields, field.content.Conforms (reading all field.name) := by
  intro field hfield
  -- a declared name is not foreign, so the field finds what it found before
  have hname : field.name ∉ extra.map Prod.fst := fun hforeign =>
    (hextra.undeclared _ hforeign).2 (List.mem_map_of_mem hfield)
  obtain ⟨hrow, -⟩ := build_eq_ok.mp hbuild
  have hbuilt := EntityKind.exists_take_iff.mp ⟨entity, EntityKind.take_eq_ok.mpr hrow⟩
  rw [reading, hjoins.member?_eq hsorted hname, ← reading,
    ← get?_ofList_eq_reading hsorted.nodup hfields]
  exact hbuilt field hfield

end Joins

/-- **An object with foreign members is built as before and rejected for
them.** -/
theorem build_extended (hsorted : (Json.object members).Sorted)
    (hfields : readMembers members = .ok fields) (hbuild : build kind (.ofList fields) = .ok entity)
    (hextra : Foreign kind extra) :
    ∃ all fields' names, Json.extend extra (.object members) = .object all ∧
      Json.member? all typeMember = Json.member? members typeMember ∧
      readMembers all = .ok fields' ∧
      build kind (.ofList fields') = .error (.unknownMembers names) ∧ Lists names extra := by
  have hnames := nodup_append_foreign hsorted.nodup hfields hbuild hextra
  obtain ⟨all, hall, hjoins⟩ := exists_joins hsorted hextra.sorted hnames
  obtain ⟨fields', hfields'⟩ : ∃ fields', readMembers all = .ok fields' := by
    refine exists_readMembers_iff.mpr fun name value hmem htype => ?_
    rcases (hjoins.mem_iff name value).mp hmem with hmember | hforeign
    · exact exists_readMembers_iff.mp ⟨fields, hfields⟩ name value hmember htype
    · exact hextra.readable _ hforeign
  have htype : typeMember ∉ extra.map Prod.fst := fun hmem => (hextra.undeclared _ hmem).1 rfl
  have hlists := hjoins.lists_undeclared hsorted.nodup hfields hbuild hextra
  have hsome : undeclared kind all ≠ [] := by
    intro hnil
    have hlength := hlists.1.length_eq
    rw [hnil, List.length_map] at hlength
    exact hextra.ne_nil (List.length_eq_zero_iff.mp hlength.symm)
  refine ⟨all, fields', _, hall, hjoins.member?_eq hsorted htype, hfields', ?_, hlists⟩
  exact (build_eq_error hjoins.sorted hfields').mpr
    (.unknownMembers (hjoins.conforms hsorted hfields hbuild hextra) hsome)

end Extended

/-! ## The values around it -/

/-- A reading that reports the names of the members at the steps. -/
def Reports {α : Type} (result : Except Finding α) (steps : List Step)
    (extra : List (String × Json)) : Prop :=
  ∃ names, result = .error ⟨steps, .unknownMembers names⟩ ∧ Lists names extra

/-- Reads the members of an object and builds the entity of the kind. -/
def readEntity (kind : EntityKind) (members : List (String × Json)) :
    Except Finding kind.Carrier := do
  let fields ← readMembers members
  (build kind (.ofList fields)).mapError .here

/-- An object of a kind that may be nested is read as its entity. -/
theorem readValue_eq_readEntity {members : List (String × Json)} {kind : ElementKind}
    (h : objectKind members = .ok (.element kind)) :
    readValue (.object members) =
      (fun entity => .element (kind.toElement entity)) <$> readEntity (.element kind) members := by
  simp only [readValue, h, Except.mapError, readEntity, bind, Except.bind]
  cases readMembers members with
  | error finding => rfl
  | ok fields =>
    simp only [buildNested, bind, Except.bind]
    cases build (.element kind) (.ofList fields) <;> rfl

/-- An object that may be a site is read as its entity. -/
theorem readSite_eq_readEntity {members : List (String × Json)} (h : checkSite members = .ok ()) :
    readSite (.object members) = readEntity .site members := by
  rw [readSite, h]
  rfl

variable {steps : List Step} {part extra : List (String × Json)}

/-- Members that are read report foreign members if the value does that they are
added in; the type stays what it is, for no object stands in a text. -/
theorem reports_readMembers {members : List (String × Json)} {fields : List (String × FieldValue)}
    {step : Step} {inner : List Step} (hnodup : (members.map Prod.fst).Nodup)
    (hfields : readMembers members = .ok fields)
    (htype : ∀ named ∈ Json.member? members typeMember, ∃ text, named = .string text)
    (hat : (Json.object members).at? (step :: inner) = some (.object part))
    (hcontents : ∀ name content, (name, content) ∈ members → ∀ found,
      readValue content = .ok found → content.at? inner = some (.object part) →
        Reports (readValue (content.modifyAt (Json.extend extra) inner)) inner extra) :
    ∃ changed, (Json.object members).modifyAt (Json.extend extra) (step :: inner) = .object changed ∧
      Json.member? changed typeMember = Json.member? members typeMember ∧
      Reports (readMembers changed) (step :: inner) extra := by
  obtain ⟨before, name, content, after, rfl, rfl, hpart⟩ := (Json.at?_object_cons hnodup).mp hat
  have hmem : (name, content) ∈ before ++ (name, content) :: after :=
    List.mem_append_right _ List.mem_cons_self
  -- the reader leaves the type out, so a change in it would go unseen
  have hname : name ≠ typeMember := by
    rintro rfl
    obtain ⟨text, rfl⟩ := htype content ((Json.lookup_eq_some_iff hnodup).mpr hmem)
    cases Json.eq_of_at?_eq_some (by simp) (by simp) hpart
  have hlegible := exists_readMembers_iff.mp ⟨fields, hfields⟩
  obtain ⟨found, hfound⟩ := hlegible name content hmem hname
  obtain ⟨names, herror, hlists⟩ := hcontents name content hmem found hfound hpart
  refine ⟨_, Json.modifyAt_object_append hnodup, ?_, names, ?_, hlists⟩
  · simp only [Json.member?, List.lookup_append, List.lookup_cons, beq_false_of_ne hname.symm]
  · refine readMembers_eq_error.mpr ⟨before, _, after, rfl, ?_, hname, _, herror, rfl⟩
    rintro ⟨earlier, value⟩ hearlier hfield
    exact hlegible earlier value (List.mem_append_left _ hearlier) hfield

/-- **An object that is read reports foreign members** added to it or, if the
values of its members do, to an object inside one of them. -/
theorem reports_readEntity {members : List (String × Json)} {kind : EntityKind}
    {entity : kind.Carrier} (hsorted : (Json.object members).Sorted)
    (hentity : readEntity kind members = .ok entity)
    (htype : ∀ named ∈ Json.member? members typeMember, ∃ text, named = .string text)
    (hkind : kindOf members = kind) (hextra : Foreign (kindOf part) extra)
    (hat : (Json.object members).at? steps = some (.object part))
    (hcontents : ∀ name content, (name, content) ∈ members → ∀ found,
      readValue content = .ok found → ∀ inner, content.at? inner = some (.object part) →
        Reports (readValue (content.modifyAt (Json.extend extra) inner)) inner extra) :
    ∃ changed, (Json.object members).modifyAt (Json.extend extra) steps = .object changed ∧
      Json.member? changed typeMember = Json.member? members typeMember ∧
      Reports (readEntity kind changed) steps extra := by
  obtain ⟨fields, hfields, hbuild⟩ := bind_eq_ok.mp hentity
  rw [mapError_eq_ok] at hbuild
  cases steps with
  | nil =>
    obtain rfl := Json.object.inj (Option.some.inj hat)
    subst hkind
    obtain ⟨all, fields', names, hall, hsame, hfields', herror, hlists⟩ :=
      build_extended hsorted hfields hbuild hextra
    refine ⟨all, hall, hsame, names, ?_, hlists⟩
    exact bind_eq_error.mpr (.inr ⟨fields', hfields', mapError_eq_error.mpr ⟨_, herror, rfl⟩⟩)
  | cons step inner =>
    obtain ⟨changed, hchanged, hsame, names, herror, hlists⟩ :=
      reports_readMembers hsorted.nodup hfields htype hat fun name content hmem found hfound =>
        hcontents name content hmem found hfound inner
    exact ⟨changed, hchanged, hsame, names, bind_eq_error.mpr (.inl herror), hlists⟩

/-- Items that are read report foreign members if the item does that they are
added in. -/
theorem reports_readEach {α : Type} {read : Json → Except Finding α} {items : List Json}
    (hread : ∀ item ∈ items, ∃ value, read item = .ok value)
    (hat : (Json.array items).at? steps = some (.object part))
    (hitems : ∀ item ∈ items, ∀ inner, item.at? inner = some (.object part) →
      Reports (read (item.modifyAt (Json.extend extra) inner)) inner extra) :
    ∃ changed, (Json.array items).modifyAt (Json.extend extra) steps = .array changed ∧
      Reports (readEach read 0 changed) steps extra := by
  cases steps with
  | nil => cases hat
  | cons step inner =>
    obtain ⟨before, item, after, rfl, rfl, hpart⟩ := Json.at?_array_cons.mp hat
    have hmem : item ∈ before ++ item :: after := List.mem_append_right _ List.mem_cons_self
    obtain ⟨names, herror, hlists⟩ := hitems item hmem inner hpart
    refine ⟨_, Json.modifyAt_array_append, names, ?_, hlists⟩
    refine readEach_eq_error.mpr ⟨before, _, after, rfl, ?_, _, herror, ?_⟩
    · exact fun earlier hearlier => hread earlier (List.mem_append_left _ hearlier)
    · rw [Nat.zero_add]
      rfl

/-- **A value that is read reports foreign members** added to an object anywhere
in it, by induction on the value. -/
theorem reports_readValue {value : Json} {found : FieldValue} (hsorted : value.Sorted)
    (hread : readValue value = .ok found) (hextra : Foreign (kindOf part) extra)
    (hat : value.at? steps = some (.object part)) :
    Reports (readValue (value.modifyAt (Json.extend extra) steps)) steps extra := by
  induction value generalizing found steps with
  | array items ih =>
    rw [readValue, map_eq_ok] at hread
    obtain ⟨values, hvalues, -⟩ := hread
    have hitems := exists_forall₂_iff.mp ⟨values, readItems_eq_ok.mp hvalues⟩
    obtain ⟨changed, hchanged, names, herror, hlists⟩ :=
      reports_readEach hitems hat fun item hmem inner hpart => by
        obtain ⟨one, hone⟩ := hitems item hmem
        exact ih item hmem (Json.sorted_array.mp hsorted item hmem) hone hpart
    refine ⟨names, ?_, hlists⟩
    rw [hchanged, readValue, map_eq_error, readItems_eq_readEach]
    exact herror
  | object members ih =>
    obtain ⟨kind, fields, entity, htype, hfields, hbuild, -⟩ := readValue_object_eq_ok.mp hread
    have hkind := objectKind_eq_ok.mpr htype
    have hentity : readEntity (.element kind) members = .ok entity :=
      bind_eq_ok.mpr ⟨fields, hfields, mapError_eq_ok.mpr hbuild⟩
    have hcontents := (Json.sorted_object.mp hsorted).2
    obtain ⟨changed, hchanged, hsame, names, herror, hlists⟩ :=
      reports_readEntity hsorted hentity (by simp [htype]) (by rw [kindOf, hkind]; rfl) hextra hat
        fun name content hmem found hfound inner hpart =>
          ih name content hmem (hcontents name content hmem) hfound hpart
    refine ⟨names, ?_, hlists⟩
    rw [hchanged, readValue_eq_readEntity (objectKind_eq_ok.mpr (hsame.trans htype)), map_eq_error]
    exact herror
  | _ => cases Json.eq_of_at?_eq_some (by simp) (by simp) hat

/-- **A site that is read reports foreign members** added to it or to an object
anywhere inside it. -/
theorem reports_readSite {value : Json} {site : Site} (hsorted : value.Sorted)
    (hread : readSite value = .ok site) (hextra : Foreign (kindOf part) extra)
    (hat : value.at? steps = some (.object part)) :
    ∃ changed, value.modifyAt (Json.extend extra) steps = .object changed ∧
      Reports (readSite (.object changed)) steps extra := by
  obtain ⟨members, fields, rfl, hcheck, hfields, hbuild⟩ := readSite_eq_ok.mp hread
  have htype := checkSite_eq_ok.mp hcheck
  have hentity : readEntity .site members = .ok site :=
    bind_eq_ok.mpr ⟨fields, hfields, mapError_eq_ok.mpr hbuild⟩
  have hkind : kindOf members = .site := by
    cases hnamed : Json.member? members typeMember with
    | none => simp only [kindOf, objectKind, hnamed, Except.toOption, Option.getD_none]
    | some named =>
      obtain rfl := htype named hnamed
      rw [kindOf, objectKind_eq_ok.mpr hnamed]
      rfl
  have hcontents := (Json.sorted_object.mp hsorted).2
  obtain ⟨changed, hchanged, hsame, hreports⟩ :=
    reports_readEntity hsorted hentity (fun named hnamed => ⟨_, htype named hnamed⟩) hkind hextra hat
      fun name content hmem found hfound inner hpart =>
        reports_readValue (hcontents name content hmem) hfound hextra hpart
  refine ⟨changed, hchanged, ?_⟩
  rw [readSite_eq_readEntity]
  · exact hreports
  · rw [checkSite_eq_ok, hsame]
    exact htype

/-- **No foreign member is dropped.** Added to any object of a document that is
read, wherever it stands, foreign members are reported at the place of that
object: all of them, each once, and in the order of the bytes of their names. -/
theorem sites_reports_added_members {document : Json} {found : List Site}
    (hsorted : document.Sorted) (hsites : sites document = .ok found)
    (hobject : document.at? steps = some (.object part)) (hextra : Foreign (kindOf part) extra) :
    ∃ names, sites (document.modifyAt (Json.extend extra) steps) =
        .error ⟨⟨documentRoot, steps⟩, .unknownMembers names⟩ ∧
      names.Perm (extra.map Prod.fst) ∧ names.Pairwise fun a b => utf8 a < utf8 b := by
  have hread : ∀ value ∈ siteValues document, ∃ site, readSite value = .ok site :=
    exists_forall₂_iff.mp ⟨found, sites_eq_ok.mp hsites⟩
  suffices h : Reports (Document.read (document.modifyAt (Json.extend extra) steps)) steps extra by
    obtain ⟨names, herror, hlists⟩ := h
    exact ⟨names, mapError_eq_error.mpr ⟨_, herror, rfl⟩, hlists⟩
  cases document with
  | array items =>
    rw [siteValues] at hread
    have hitems : ∀ item ∈ items, ∀ inner, item.at? inner = some (.object part) →
        Reports (readSite (item.modifyAt (Json.extend extra) inner)) inner extra := by
      intro item hmem inner hpart
      obtain ⟨site, hsite⟩ := hread item hmem
      obtain ⟨changed, hchanged, hreports⟩ :=
        reports_readSite (Json.sorted_array.mp hsorted item hmem) hsite hextra hpart
      rw [hchanged]
      exact hreports
    obtain ⟨changed, hchanged, names, herror, hlists⟩ := reports_readEach hread hobject hitems
    refine ⟨names, ?_, hlists⟩
    rw [hchanged, Document.read, readSites]
    exact herror
  | object members =>
    obtain ⟨site, hsite⟩ := hread _ List.mem_cons_self
    obtain ⟨changed, hchanged, names, herror, hlists⟩ := reports_readSite hsorted hsite hextra hobject
    refine ⟨names, ?_, hlists⟩
    rw [hchanged, Document.read, map_eq_error]
    exact herror
  | _ => cases Json.eq_of_at?_eq_some (by simp) (by simp) hobject

/-- A site whose description stands on a ground type. -/
def grounded : Json :=
  .object
    [("site_description", .object
      [("EC8", .object [("type", .string "EC8_class"), ("value", .string "A")]),
        ("latitude", .ofInt64 46),
        ("longitude", .ofInt64 8),
        ("type", .string "SiteDescription")]),
      ("station_code", .string "SENGL")]

/-- Members that a ground type has not: one that is misspelled, and one of
another kind. -/
def strays : List (String × Json) :=
  [("valeur", .string "B"),
    ("latitude", .array [.ofInt64 46])]

theorem sites_reports_added_members_strays :
    grounded.Sorted ∧ (∃ found, sites grounded = .ok found) ∧
      ∃ part names, grounded.at? [.member "site_description", .member "EC8"] = some (.object part) ∧
        Foreign (kindOf part) strays ∧
        sites (grounded.modifyAt (Json.extend strays) [.member "site_description", .member "EC8"]) =
          .error ⟨⟨"$", [.member "site_description", .member "EC8"]⟩, .unknownMembers names⟩ ∧
        names.Perm ["valeur", "latitude"] ∧ names.Pairwise fun a b => utf8 a < utf8 b := by
  have hsorted : grounded.Sorted := by decide
  have hsites : ∃ found, sites grounded = .ok found := ⟨_, rfl⟩
  have hobject : grounded.at? [.member "site_description", .member "EC8"] =
      some (.object [("type", .string "EC8_class"), ("value", .string "A")]) := rfl
  have hforeign : Foreign (kindOf [("type", .string "EC8_class"), ("value", .string "A")]) strays := by
    refine ⟨by decide, by decide, by decide, by decide, ?_⟩
    simp only [strays, List.forall_mem_cons, List.not_mem_nil, false_imp_iff, implies_true, and_true]
    exact ⟨⟨_, rfl⟩, ⟨_, rfl⟩⟩
  obtain ⟨found, hfound⟩ := hsites
  obtain ⟨names, herror, hperm, horder⟩ :=
    sites_reports_added_members hsorted hfound hobject hforeign
  exact ⟨hsorted, ⟨found, hfound⟩, _, names, hobject, hforeign, herror, hperm, horder⟩

end Document

end SeismicSite
