import Mathlib.Data.List.Sort
import SeismicSite.Proofs.Document.Build
import SeismicSite.Proofs.Json.Induction
import SeismicSite.Proofs.Schema.Complaint
/-!
# Where a reading ends

The counterpart of what the reader finds: an array is rejected at its first item
that is, an object at its first member that is, and else for the entity that its
members do not make. An entity is not made if a field complains, and otherwise
if members are left that its kind does not declare; both are read off the
members themselves, without the record in between.
-/

namespace SeismicSite

namespace Document

/-! ## The type -/

/-- A type that names no kind is reported as it stands. -/
theorem kindNamed_eq_error {named : Json} {fault : Fault} :
    kindNamed named = .error fault ↔
      (∀ kind : EntityKind, named ≠ .string kind.typeName) ∧ fault = .unknownType named := by
  refine eq_error_iff ?_ fun e he => ?_
  · rw [exists_error_iff]
    simp only [kindNamed_eq_ok, not_exists, ne_eq]
  · unfold kindNamed at he
    split at he
    · split at he
      · cases he
      · exact (Except.error.inj he).symm
    · exact (Except.error.inj he).symm

/-- An object inside a site does not tell its kind if it has no type, or one
that names none. -/
theorem objectKind_eq_error {members : List (String × Json)} {fault : Fault} :
    objectKind members = .error fault ↔
      Json.member? members typeMember = none ∧ fault = .missingType ∨
        ∃ named, Json.member? members typeMember = some named ∧
          (∀ kind : EntityKind, named ≠ .string kind.typeName) ∧ fault = .unknownType named := by
  unfold objectKind
  split
  · rename_i named hnamed
    simp [hnamed, kindNamed_eq_error]
  · rename_i hnamed
    simp [hnamed, eq_comm]

/-- A site object tells of itself that it is none if its type is that of an
element, or names no kind. -/
theorem checkSite_eq_error {members : List (String × Json)} {fault : Fault} :
    checkSite members = .error fault ↔
      ∃ named, Json.member? members typeMember = some named ∧
        ((∃ kind : ElementKind, named = .string kind.typeName) ∧ fault = .notASite ∨
          (∀ kind : EntityKind, named ≠ .string kind.typeName) ∧ fault = .unknownType named) := by
  unfold checkSite
  split
  · rename_i hnamed
    simp [hnamed]
  · rename_i named hnamed
    simp only [hnamed, bind_eq_error, kindNamed_eq_error, kindNamed_eq_ok, Option.some.injEq,
      exists_eq_left']
    rw [or_comm]
    refine or_congr_left ?_
    constructor
    · rintro ⟨kind, rfl, hkind⟩
      cases kind with
      | site => cases hkind
      | element kind => exact ⟨⟨kind, rfl⟩, (Except.error.inj hkind).symm⟩
    · rintro ⟨⟨kind, rfl⟩, rfl⟩
      exact ⟨.element kind, rfl, rfl⟩

/-! ## Items -/

/-- **Items are rejected at the first that is**, under its index. -/
theorem readEach_eq_error {α : Type} {readItem : Json → Except Finding α} {index : Nat}
    {items : List Json} {finding : Finding} :
    readEach readItem index items = .error finding ↔
      ∃ before item after, items = before ++ item :: after ∧
        (∀ earlier ∈ before, ∃ value, readItem earlier = .ok value) ∧
        ∃ inner, readItem item = .error inner ∧
          finding = inner.under (.item (index + before.length)) := by
  induction items generalizing index with
  | nil => simp [readEach]
  | cons item items ih =>
    rw [exists_split_cons_iff, readEach]
    simp only [bind_eq_error, mapError_eq_error, mapError_eq_ok, pure, Except.pure, reduceCtorEq,
      and_false, exists_false, or_false, ih, List.forall_mem_cons, List.not_mem_nil,
      false_imp_iff, forall_true_iff, true_and, List.length_nil, Nat.add_zero, List.length_cons]
    refine or_congr_right ?_
    constructor
    · rintro ⟨value, hitem, before, one, after, hsplit, hbefore, inner, hone, hfinding⟩
      refine ⟨before, one, after, hsplit, ⟨⟨value, hitem⟩, hbefore⟩, inner, hone, ?_⟩
      rw [hfinding, Nat.add_assoc, Nat.add_comm 1]
    · rintro ⟨before, one, after, hsplit, ⟨⟨value, hitem⟩, hbefore⟩, inner, hone, hfinding⟩
      refine ⟨value, hitem, before, one, after, hsplit, hbefore, inner, hone, ?_⟩
      rw [hfinding, Nat.add_assoc, Nat.add_comm 1]

/-! ## Members -/

/-- **Members are rejected at the first that is**, under its name; the type is
not read. -/
theorem readMembers_eq_error {members : List (String × Json)} {finding : Finding} :
    readMembers members = .error finding ↔
      ∃ before member after, members = before ++ member :: after ∧
        (∀ earlier ∈ before, earlier.1 ≠ typeMember → ∃ value, readValue earlier.2 = .ok value) ∧
        member.1 ≠ typeMember ∧
        ∃ inner, readValue member.2 = .error inner ∧ finding = inner.under (.member member.1) := by
  induction members with
  | nil => simp [readMembers]
  | cons member members ih =>
    obtain ⟨name, content⟩ := member
    rw [exists_split_cons_iff, readMembers]
    by_cases htype : name = typeMember
    · simp only [htype, if_true, ih, List.forall_mem_cons, ne_eq, not_true_eq_false, false_imp_iff,
        true_and, false_and, and_false, false_or]
    · simp only [htype, if_false, bind_eq_error, mapError_eq_error, mapError_eq_ok, pure,
        Except.pure, reduceCtorEq, and_false, exists_false, or_false, ih, List.forall_mem_cons,
        List.not_mem_nil, false_imp_iff, forall_true_iff, true_and, ne_eq, not_false_eq_true,
        true_imp_iff]
      refine or_congr_right ?_
      constructor
      · rintro ⟨value, hvalue, before, one, after, hsplit, hbefore, hone⟩
        exact ⟨before, one, after, hsplit, ⟨⟨value, hvalue⟩, hbefore⟩, hone⟩
      · rintro ⟨before, one, after, hsplit, ⟨⟨value, hvalue⟩, hbefore⟩, hone⟩
        exact ⟨value, hvalue, before, one, after, hsplit, hbefore, hone⟩

/-- Every member but the type can be read. -/
def Legible (members : List (String × Json)) : Prop :=
  ∀ name content, (name, content) ∈ members → name ≠ typeMember →
    ∃ value, readValue content = .ok value

/-- What the member of a name is read as, if it can be; the type is not read. -/
def reading (members : List (String × Json)) (name : String) : Option FieldValue :=
  if name = typeMember then none
  else (Json.member? members name).bind fun content => (readValue content).toOption

/-- The names of the members that are neither the type nor declared by the
kind, in their order. -/
def undeclared (kind : EntityKind) (members : List (String × Json)) : List String :=
  (members.map Prod.fst).filter fun name => name ≠ typeMember ∧ name ∉ fieldNames kind.fields

theorem reading_eq_some {members : List (String × Json)} (hnodup : (members.map Prod.fst).Nodup)
    {name : String} {value : FieldValue} :
    reading members name = some value ↔
      name ≠ typeMember ∧ ∃ content, (name, content) ∈ members ∧ readValue content = .ok value := by
  have hoption : ∀ content, (readValue content).toOption = some value ↔
      readValue content = .ok value := by
    intro content
    cases readValue content <;> simp [Except.toOption]
  by_cases htype : name = typeMember
  · simp [reading, htype]
  · simp only [reading, htype, if_false, Option.bind_eq_some_iff, hoption, Json.member?,
      Json.lookup_eq_some_iff hnodup, ne_eq, not_false_eq_true, true_and]

/-! ## The record of an object -/

variable {members : List (String × Json)} {fields : List (String × FieldValue)}

/-- **The record of an object holds the readings of its members.** -/
theorem get?_ofList_eq_reading (hnodup : (members.map Prod.fst).Nodup)
    (h : readMembers members = .ok fields) : (Record.ofList fields).get? = reading members := by
  funext name
  refine Option.ext fun value => ?_
  rw [get?_readMembers_eq_some hnodup h, reading_eq_some hnodup]

/-- Its names are those of the members in their order, less the type. -/
theorem names_ofList (hsorted : (Json.object members).Sorted)
    (h : readMembers members = .ok fields) :
    (Record.ofList fields).names = (members.map Prod.fst).filter fun name => name ≠ typeMember := by
  have hmembers := (Json.sorted_object.mp hsorted).1.sublist
    (List.filter_sublist (p := fun name => name ≠ typeMember))
  -- both lists ascend, so they are equal if they have the same names
  refine (Record.pairwise_names _).eq_of_mem_iff hmembers fun name => ?_
  rw [Record.mem_names, Option.isSome_iff_exists]
  simp only [get?_readMembers_eq_some hsorted.nodup h, List.mem_filter, List.mem_map, Prod.exists,
    exists_and_right, exists_eq_right, decide_eq_true_eq]
  constructor
  · rintro ⟨_, htype, content, hmem, -⟩
    exact ⟨⟨content, hmem⟩, htype⟩
  · rintro ⟨⟨content, hmem⟩, htype⟩
    obtain ⟨value, hvalue⟩ := exists_readMembers_iff.mp ⟨fields, h⟩ name content hmem htype
    exact ⟨value, htype, content, hmem, hvalue⟩

end Document

/-- What is left of a record, once an entity is made of it, are the names that
the kind does not declare. -/
theorem EntityKind.names_take_left {kind : EntityKind} {record : Record} {entity : kind.Carrier}
    (h : (kind.take record).result = .ok entity) :
    (kind.take record).left.names = record.names.filter fun name => name ∉ fieldNames kind.fields := by
  refine (Record.pairwise_names _).eq_of_mem_iff
    ((Record.pairwise_names _).sublist List.filter_sublist) fun name => ?_
  rw [Record.mem_names, get?_take_left h, List.mem_filter, Record.mem_names]
  by_cases hname : name ∈ fieldNames kind.fields <;> simp [hname]

namespace Document

/-- What keeps an object whose members can be read from being an entity of a
kind: a field complains, or none does and there are members that the kind does
not declare. -/
inductive FaultyEntity (kind : EntityKind) (members : List (String × Json)) : Fault → Prop
  | invalid {error : FieldError} :
      Complains kind.fields (reading members) error → FaultyEntity kind members (.invalid error)
  | unknownMembers :
      (∀ field ∈ kind.fields, field.content.Conforms (reading members field.name)) →
      undeclared kind members ≠ [] →
      FaultyEntity kind members (.unknownMembers (undeclared kind members))

/-- **An entity is not built exactly if the object is at fault.** -/
theorem build_eq_error {kind : EntityKind} {fault : Fault} (hsorted : (Json.object members).Sorted)
    (h : readMembers members = .ok fields) :
    build kind (.ofList fields) = .error fault ↔ FaultyEntity kind members fault := by
  -- from here on the record is spoken of by the readings of the members alone
  have hfind := get?_ofList_eq_reading hsorted.nodup h
  have htakes := @EntityKind.exists_take_iff kind (.ofList fields)
  have hfails := fun error => @EntityKind.take_eq_error kind (.ofList fields) error
  rw [hfind] at htakes
  simp only [hfind] at hfails
  simp only [build]
  cases hresult : (kind.take (.ofList fields)).result with
  | error error =>
    rw [hresult] at htakes hfails
    constructor
    · intro hfault
      obtain rfl := Except.error.inj hfault
      exact .invalid ((hfails error).mp rfl)
    · rintro (hcomplains | ⟨hconforms, -⟩)
      · obtain rfl := Except.error.inj ((hfails _).mpr hcomplains)
        rfl
      · obtain ⟨_, hentity⟩ := htakes.mpr hconforms
        cases hentity
  | ok entity =>
    have hleft : (kind.take (.ofList fields)).left.names = undeclared kind members := by
      rw [EntityKind.names_take_left hresult, names_ofList hsorted h, List.filter_filter, undeclared]
      simp only [Bool.decide_and, Bool.and_comm]
    rw [hresult] at htakes hfails
    have hempty := @Record.names_eq_nil_iff (kind.take (.ofList fields)).left
    rw [hleft] at hempty
    constructor
    · intro hfault
      simp only [hleft] at hfault
      split at hfault
      · cases hfault
      · rename_i hnot
        obtain rfl := Except.error.inj hfault
        exact .unknownMembers (htakes.mp ⟨entity, rfl⟩) (mt hempty.mp hnot)
    · rintro (hcomplains | ⟨-, hnot⟩)
      · cases (hfails _).mpr hcomplains
      · simp only [hleft, if_neg (mt hempty.mpr hnot)]

end Document

end SeismicSite
