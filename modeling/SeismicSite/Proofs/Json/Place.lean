import SeismicSite.Document.Fault
import SeismicSite.Proofs.Json.Induction
/-!
# Places in a value

A place is told by the steps that lead to it. What stands there is the part of
the part that the first step leads to, and a change made there changes that part
and none beside it.
-/

namespace SeismicSite

namespace Json

@[simp] theorem at?_nil (value : Json) : value.at? [] = some value := rfl

/-- Steps are followed one after the other. -/
theorem at?_append {value : Json} {first second : List Step} :
    value.at? (first ++ second) = (value.at? first).bind fun part => part.at? second := by
  induction first generalizing value with
  | nil => rfl
  | cons step steps ih => simp only [List.cons_append, at?, ih, Option.bind_assoc]

/-- **Steps into an object start with the name of a member.** -/
theorem at?_object_cons {members : List (String × Json)} (hnodup : (members.map Prod.fst).Nodup)
    {step : Step} {steps : List Step} {part : Json} :
    (object members).at? (step :: steps) = some part ↔
      ∃ before name content after, members = before ++ (name, content) :: after ∧
        step = .member name ∧ content.at? steps = some part := by
  cases step with
  | item index => simp [at?, Step.follow?]
  | member name =>
    simp only [at?, Step.follow?, Option.bind_eq_some_iff, member?, lookup_eq_some_iff hnodup,
      Step.member.injEq]
    constructor
    · rintro ⟨content, hmem, hpart⟩
      obtain ⟨before, after, hsplit⟩ := List.append_of_mem hmem
      exact ⟨before, name, content, after, hsplit, rfl, hpart⟩
    · rintro ⟨before, _, content, after, rfl, rfl, hpart⟩
      exact ⟨content, List.mem_append_right _ List.mem_cons_self, hpart⟩

/-- **Steps into an array start with the index of an item**, the number of the
items before it. -/
theorem at?_array_cons {items : List Json} {step : Step} {steps : List Step} {part : Json} :
    (array items).at? (step :: steps) = some part ↔
      ∃ before item after, items = before ++ item :: after ∧
        step = .item before.length ∧ item.at? steps = some part := by
  cases step with
  | member name => simp [at?, Step.follow?]
  | item index =>
    simp only [at?, Step.follow?, Option.bind_eq_some_iff, Step.item.injEq]
    constructor
    · rintro ⟨item, hitem, hpart⟩
      obtain ⟨hlt, rfl⟩ := List.getElem?_eq_some_iff.mp hitem
      refine ⟨items.take index, items[index], items.drop (index + 1), ?_, ?_, hpart⟩
      · rw [List.getElem_cons_drop, List.take_append_drop]
      · exact (List.length_take_of_le (Nat.le_of_lt hlt)).symm
    · rintro ⟨before, item, after, rfl, rfl, hpart⟩
      refine ⟨item, ?_, hpart⟩
      rw [List.getElem?_append_right (Nat.le_refl _), Nat.sub_self, List.getElem?_cons_zero]

/-- A value that is neither has no part but itself. -/
theorem eq_of_at?_eq_some {value part : Json} {steps : List Step}
    (hobject : ∀ members, value ≠ object members) (harray : ∀ items, value ≠ array items)
    (h : value.at? steps = some part) : part = value := by
  cases steps with
  | nil => exact (Option.some.inj h).symm
  | cons step steps =>
    cases value with
    | object members => exact absurd rfl (hobject members)
    | array items => exact absurd rfl (harray items)
    | _ => cases step <;> cases h

/-! ## Changes -/

/-- The value with the part that steps lead to changed; a value that they lead
nowhere in stays as it is. -/
def modifyAt (change : Json → Json) : List Step → Json → Json
  | [], value => change value
  | .member name :: steps, object members =>
    object (members.map fun member =>
      if member.1 = name then (member.1, modifyAt change steps member.2) else member)
  | .item index :: steps, array items => array (items.modify index (modifyAt change steps))
  | _, value => value

/-- A change in the part behind a name leaves the other members alone. -/
theorem modifyAt_object_append {change : Json → Json} {before after : List (String × Json)}
    {name : String} {content : Json} {steps : List Step}
    (hnodup : ((before ++ (name, content) :: after).map Prod.fst).Nodup) :
    modifyAt change (.member name :: steps) (object (before ++ (name, content) :: after)) =
      object (before ++ (name, modifyAt change steps content) :: after) := by
  rw [List.map_append, List.map_cons, List.nodup_append] at hnodup
  obtain ⟨-, hafter, hdisjoint⟩ := hnodup
  have hbefore : ∀ member ∈ before, member.1 ≠ name := fun member hmem =>
    hdisjoint _ (List.mem_map_of_mem hmem) _ List.mem_cons_self
  have hbehind : ∀ member ∈ after, member.1 ≠ name := by
    rintro member hmem rfl
    have hname : member.1 ∈ after.map Prod.fst := List.mem_map_of_mem hmem
    exact (List.nodup_cons.mp hafter).1 hname
  -- members under other names are mapped to themselves
  have hsame : ∀ members : List (String × Json), (∀ member ∈ members, member.1 ≠ name) →
      members.map (fun member =>
        if member.1 = name then (member.1, modifyAt change steps member.2) else member) = members :=
    fun members hmembers =>
      (List.map_congr_left fun member hmem => if_neg (hmembers member hmem)).trans
        (List.map_id' members)
  rw [modifyAt, List.map_append, List.map_cons, hsame before hbefore, hsame after hbehind, if_pos rfl]

/-- A change in an item leaves the other items alone. -/
theorem modifyAt_array_append {change : Json → Json} {before after : List Json} {item : Json}
    {steps : List Step} :
    modifyAt change (.item before.length :: steps) (array (before ++ item :: after)) =
      array (before ++ modifyAt change steps item :: after) := by
  rw [modifyAt, List.modify_eq_take_cons_drop (by simp)]
  simp

end Json

end SeismicSite
