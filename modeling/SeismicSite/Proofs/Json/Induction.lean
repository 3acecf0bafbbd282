import Mathlib.Data.List.Nodup
import SeismicSite.Json.Basic
/-!
# Induction on JSON values

A value is reached through the items of arrays and the values of members, so
a property of all values is proved from these parts. In a sorted value every
object names each of its members once, and a member is then the same as what a
look-up of its name finds.
-/

namespace SeismicSite

namespace Json

/-- **Induction on JSON values**, with the hypothesis at every item of an array
and at the value of every member of an object. -/
@[induction_eliminator]
theorem induct {motive : Json → Prop} (null : motive null) (bool : ∀ b, motive (bool b))
    (number : ∀ n, motive (number n)) (string : ∀ s, motive (string s))
    (array : ∀ items, (∀ item ∈ items, motive item) → motive (array items))
    (object : ∀ members : List (String × Json),
      (∀ name value, (name, value) ∈ members → motive value) → motive (object members)) :
    ∀ value, motive value
  | .null => null
  | .bool b => bool b
  | .number n => number n
  | .string s => string s
  | .array items =>
    array items fun item _ => induct null bool number string array object item
  | .object members =>
    object members fun _ value _ => induct null bool number string array object value
termination_by value => sizeOf value
decreasing_by
  · have := List.sizeOf_lt_of_mem ‹item ∈ items›
    simp only [Json.array.sizeOf_spec]
    omega
  · have := List.sizeOf_lt_of_mem ‹(_, value) ∈ members›
    simp only [Json.object.sizeOf_spec, Prod.mk.sizeOf_spec] at this ⊢
    omega

/-! ## Sorted values -/

theorem sortedItems_iff {items : List Json} :
    SortedItems items ↔ ∀ item ∈ items, item.Sorted := by
  induction items with
  | nil => simp [SortedItems]
  | cons item items ih => simp [SortedItems, ih]

theorem sortedMembers_iff {members : List (String × Json)} :
    SortedMembers members ↔ ∀ name value, (name, value) ∈ members → value.Sorted := by
  induction members with
  | nil => simp [SortedMembers]
  | cons member members ih =>
    obtain ⟨name, value⟩ := member
    simp only [SortedMembers, ih, List.mem_cons, Prod.mk.injEq]
    constructor
    · rintro ⟨hvalue, hrest⟩ name' value' (⟨-, rfl⟩ | hmem)
      · exact hvalue
      · exact hrest name' value' hmem
    · intro h
      exact ⟨h name value (.inl ⟨rfl, rfl⟩), fun name' value' hmem => h name' value' (.inr hmem)⟩

@[simp] theorem sorted_array {items : List Json} :
    (array items).Sorted ↔ ∀ item ∈ items, item.Sorted := by
  simp [Sorted, sortedItems_iff]

@[simp] theorem sorted_object {members : List (String × Json)} :
    (object members).Sorted ↔ (members.map Prod.fst).Pairwise (· < ·) ∧
      ∀ name value, (name, value) ∈ members → value.Sorted := by
  simp [Sorted, sortedMembers_iff]

mutual

/-- Whether a value is sorted can be computed. -/
instance instDecidableSorted : (value : Json) → Decidable value.Sorted
  | .null => .isTrue trivial
  | .bool _ => .isTrue trivial
  | .number _ => .isTrue trivial
  | .string _ => .isTrue trivial
  | .array items => instDecidableSortedItems items
  | .object members =>
    have := instDecidableSortedMembers members
    inferInstanceAs (Decidable ((members.map Prod.fst).Pairwise (· < ·) ∧ SortedMembers members))

instance instDecidableSortedItems : (items : List Json) → Decidable (SortedItems items)
  | [] => .isTrue trivial
  | item :: items =>
    have := instDecidableSorted item
    have := instDecidableSortedItems items
    inferInstanceAs (Decidable (item.Sorted ∧ SortedItems items))

instance instDecidableSortedMembers :
    (members : List (String × Json)) → Decidable (SortedMembers members)
  | [] => .isTrue trivial
  | (_, value) :: members =>
    have := instDecidableSorted value
    have := instDecidableSortedMembers members
    inferInstanceAs (Decidable (value.Sorted ∧ SortedMembers members))

end

/-- A sorted object names each of its members once. -/
theorem Sorted.nodup {members : List (String × Json)} (h : (object members).Sorted) :
    (members.map Prod.fst).Nodup := by
  refine (sorted_object.mp h).1.imp ?_
  rintro name _ hlt rfl
  exact String.lt_irrefl name hlt

/-! ## Members -/

/-- Where names are not repeated, **a look-up finds exactly the members**. -/
theorem lookup_eq_some_iff {β : Type} {pairs : List (String × β)}
    (hnodup : (pairs.map Prod.fst).Nodup) {name : String} {value : β} :
    pairs.lookup name = some value ↔ (name, value) ∈ pairs := by
  induction pairs with
  | nil => simp
  | cons pair pairs ih =>
    obtain ⟨key, first⟩ := pair
    obtain ⟨hfresh, hrest⟩ := List.nodup_cons.mp hnodup
    rw [List.lookup_cons]
    by_cases heq : name = key
    · -- the first member of the name is the only one
      subst heq
      have hnot : (name, value) ∉ pairs := fun hmem =>
        hfresh (List.mem_map.mpr ⟨(name, value), hmem, rfl⟩)
      simp [hnot, eq_comm]
    · rw [beq_false_of_ne heq]
      simp [ih hrest, heq]

end Json

/-! ## Members in order -/

theorem compare_eq_lt_iff {a b : String} : compare a b = .lt ↔ a < b :=
  compareOfLessAndEq_eq_lt

namespace Json

/-- `Json.ofMembers` adds no member. -/
theorem mem_of_mem_toList_ofList {members : List (String × Json)} {name : String} {value : Json}
    (h : (name, value) ∈ (Std.ExtTreeMap.ofList members).toList) : (name, value) ∈ members := by
  rw [Std.ExtTreeMap.mem_toList_iff_getElem?_eq_some, Std.ExtTreeMap.ofList_eq_insertMany_empty,
    Std.ExtTreeMap.getElem?_insertMany_list, Std.ExtTreeMap.getElem?_empty, Option.or_none,
    List.findSomeRev?_eq_findSome?_reverse] at h
  obtain ⟨⟨key, content⟩, hmem, hfound⟩ := List.exists_of_findSome?_eq_some h
  obtain ⟨heq, hvalue⟩ := Option.ite_none_right_eq_some.mp hfound
  obtain rfl := Std.LawfulEqOrd.eq_of_compare heq
  obtain rfl := Option.some.inj hvalue
  exact List.mem_reverse.mp hmem

/-- **Members with names of their own are kept**, each once. -/
theorem mem_toList_ofList {members : List (String × Json)} (hnodup : (members.map Prod.fst).Nodup)
    {name : String} {value : Json} :
    (name, value) ∈ (Std.ExtTreeMap.ofList members).toList ↔ (name, value) ∈ members := by
  have hdistinct : members.Pairwise fun a b => ¬ compare a.1 b.1 = .eq := by
    refine (List.pairwise_map.mp hnodup).imp fun hne heq => hne ?_
    exact Std.LawfulEqOrd.eq_of_compare heq
  refine ⟨mem_of_mem_toList_ofList, fun hmem => ?_⟩
  rw [Std.ExtTreeMap.mem_toList_iff_getElem?_eq_some]
  exact Std.ExtTreeMap.getElem?_ofList_of_mem Std.ReflOrd.compare_self hdistinct hmem

/-- **The members are brought into order.** -/
theorem pairwise_toList_ofList (members : List (String × Json)) :
    ((Std.ExtTreeMap.ofList members).toList.map Prod.fst).Pairwise (· < ·) := by
  rw [List.pairwise_map]
  exact Std.ExtTreeMap.ordered_keys_toList.imp compare_eq_lt_iff.mp

/-- An object of sorted values is sorted, even if it is made of members that
repeat a name. -/
theorem sorted_ofMembers {members : List (String × Json)}
    (hvalues : ∀ name value, (name, value) ∈ members → value.Sorted) :
    (ofMembers members).Sorted := by
  refine sorted_object.mpr ⟨pairwise_toList_ofList members, fun name value hmem => ?_⟩
  exact hvalues name value (mem_of_mem_toList_ofList hmem)

end Json

end SeismicSite
