import Mathlib.Data.List.Forall2
import Mathlib.Data.List.Perm.Subperm
import SeismicSite.Document.Encode
import SeismicSite.Proofs.Json.Induction
/-!
# Agreement of JSON values

JSON values agree if they have the same content: whole numbers are compared exactly and
floats as numbers, so that the two zeros agree but no whole number does with a float,
and the members of an object are compared by their names in whatever order they stand.
-/

namespace SeismicSite

/-- Agreement of two numbers. -/
def JsonNumber.agrees : JsonNumber → JsonNumber → Bool
  | integer a _ _, integer b _ _ => a == b
  | float a _, float b _ => a == b
  | _, _ => false

namespace Json

mutual

/-- **Agreement of two values.** -/
def agrees : Json → Json → Bool
  | null, null => true
  | bool a, bool b => a == b
  | number a, number b => a.agrees b
  | string a, string b => a == b
  | array as, array bs => agreesItems as bs
  | object as, object bs => as.length == bs.length && agreesMembers as bs
  | _, _ => false

/-- Agreement of two lists of values, item by item. -/
def agreesItems : List Json → List Json → Bool
  | [], [] => true
  | a :: as, b :: bs => agrees a b && agreesItems as bs
  | _, _ => false

/-- Every member has one of its name among the others with a value that agrees. -/
def agreesMembers : List (String × Json) → List (String × Json) → Bool
  | [], _ => true
  | (name, value) :: members, others =>
    (member? others name).any (fun other => agrees value other) && agreesMembers members others

end

/-- What is found under a name agrees: there is nothing in both objects, or a value in
each, and these agree. -/
def AgreesFound : Option Json → Option Json → Prop :=
  Option.Rel fun a b => a.agrees b = true

@[simp] theorem agreesFound_none : AgreesFound none none :=
  .none

@[simp] theorem agreesFound_some {a b : Json} :
    AgreesFound (some a) (some b) ↔ a.agrees b = true :=
  Option.rel_some_some

/-- Where something is found, something that agrees is found on the other side. -/
theorem AgreesFound.exists_of_some {a : Json} {found : Option Json} (h : AgreesFound (some a) found) :
    ∃ b, found = some b ∧ a.agrees b = true := by
  cases h with
  | some hagrees => exact ⟨_, rfl, hagrees⟩

theorem AgreesFound.isSome_eq {a b : Option Json} (h : AgreesFound a b) : a.isSome = b.isSome := by
  cases h <;> rfl

/-- What is found first under one name and then among others agrees if the first does and
the others do, where that name is not found again. -/
theorem forall_agreesFound_iff {a b : Option Json} {rest rest' : String → Option Json} {name : String}
    (h : rest name = none) (h' : rest' name = none) :
    (∀ other, AgreesFound (if other = name then a else rest other)
        (if other = name then b else rest' other)) ↔
      AgreesFound a b ∧ ∀ other, AgreesFound (rest other) (rest' other) := by
  constructor
  · intro hall
    refine ⟨by simpa using hall name, fun other => ?_⟩
    by_cases hother : other = name
    · rw [hother, h, h']
      exact agreesFound_none
    · simpa [hother] using hall other
  · rintro ⟨hfirst, hrest⟩ other
    by_cases hother : other = name
    · simpa [hother] using hfirst
    · simpa [hother] using hrest other

/-- Arrays agree item by item. -/
theorem agrees_array {as bs : List Json} :
    (array as).agrees (array bs) = true ↔ List.Forall₂ (fun a b => a.agrees b = true) as bs := by
  rw [agrees]
  induction as generalizing bs with
  | nil => cases bs <;> simp [agreesItems]
  | cons a as ih => cases bs <;> simp [agreesItems, ih]

theorem agreesMembers_iff {members others : List (String × Json)} :
    agreesMembers members others = true ↔
      ∀ name value, (name, value) ∈ members →
        ∃ other, member? others name = some other ∧ value.agrees other = true := by
  induction members with
  | nil => simp [agreesMembers]
  | cons member members ih =>
    obtain ⟨name, value⟩ := member
    rw [agreesMembers, Bool.and_eq_true, ih, Option.any_eq_true]
    simp only [List.mem_cons, Prod.mk.injEq]
    constructor
    · rintro ⟨hfirst, hrest⟩ name' value' (⟨rfl, rfl⟩ | hmem)
      · exact hfirst
      · exact hrest name' value' hmem
    · intro h
      exact ⟨h name value (.inl ⟨rfl, rfl⟩), fun name' value' hmem => h name' value' (.inr hmem)⟩

/-- A name is one of an object's exactly if something is found under it. -/
theorem mem_names_iff {members : List (String × Json)} (hnodup : (members.map Prod.fst).Nodup)
    {name : String} : name ∈ members.map Prod.fst ↔ (member? members name).isSome = true := by
  simp only [Option.isSome_iff_exists, member?, lookup_eq_some_iff hnodup, List.mem_map, Prod.exists,
    exists_and_right, exists_eq_right]

/-- **Objects that name each of their members once agree** exactly if what is found under
every name does. -/
theorem agrees_object {as bs : List (String × Json)} (has : (as.map Prod.fst).Nodup)
    (hbs : (bs.map Prod.fst).Nodup) :
    (object as).agrees (object bs) = true ↔ ∀ name, AgreesFound (member? as name) (member? bs name) := by
  rw [agrees, Bool.and_eq_true, beq_iff_eq, agreesMembers_iff]
  constructor
  · rintro ⟨hlength, hmembers⟩ name
    have hsubset : as.map Prod.fst ⊆ bs.map Prod.fst := by
      intro other hother
      obtain ⟨value, hvalue⟩ := Option.isSome_iff_exists.mp ((mem_names_iff has).mp hother)
      obtain ⟨found, hfound, -⟩ := hmembers other value ((lookup_eq_some_iff has).mp hvalue)
      exact (mem_names_iff hbs).mpr (Option.isSome_iff_exists.mpr ⟨found, hfound⟩)
    -- neither object has a name that the other has not, for they have as many
    have hperm : (as.map Prod.fst).Perm (bs.map Prod.fst) :=
      (has.subperm hsubset).perm_of_length_le (by simp [hlength])
    cases ha : member? as name with
    | some value =>
      obtain ⟨found, hfound, hagrees⟩ := hmembers name value ((lookup_eq_some_iff has).mp ha)
      rw [hfound]
      exact agreesFound_some.mpr hagrees
    | none =>
      have hnone : ¬ (member? bs name).isSome = true := by
        rw [← mem_names_iff hbs, ← hperm.mem_iff, mem_names_iff has, ha]
        exact Bool.false_ne_true
      rw [Option.not_isSome_iff_eq_none.mp hnone]
      exact agreesFound_none
  · intro hfound
    have hperm : (as.map Prod.fst).Perm (bs.map Prod.fst) :=
      (List.perm_ext_iff_of_nodup has hbs).mpr fun name => by
        rw [mem_names_iff has, mem_names_iff hbs, (hfound name).isSome_eq]
    refine ⟨by simpa using hperm.length_eq, fun name value hmem => ?_⟩
    have hname := hfound name
    rw [show member? as name = some value from (lookup_eq_some_iff has).mpr hmem] at hname
    exact hname.exists_of_some

/-- Objects that start with a member of one name agree if its values do, and the objects
of the members behind it. -/
theorem agrees_object_cons {name : String} {a b : Json} {as bs : List (String × Json)}
    (has : (((name, a) :: as).map Prod.fst).Nodup) (hbs : (((name, b) :: bs).map Prod.fst).Nodup) :
    (object ((name, a) :: as)).agrees (object ((name, b) :: bs)) = true ↔
      a.agrees b = true ∧ (object as).agrees (object bs) = true := by
  have hnone {members : List (String × Json)} {value : Json}
      (h : (((name, value) :: members).map Prod.fst).Nodup) : member? members name = none := by
    obtain ⟨hfresh, hrest⟩ := List.nodup_cons.mp h
    exact Option.not_isSome_iff_eq_none.mp (mt (mem_names_iff hrest).mpr hfresh)
  have hcons (other : String) (value : Json) (members : List (String × Json)) :
      member? ((name, value) :: members) other =
        if other = name then some value else member? members other := by
    rw [member?, List.lookup_cons, member?]
    by_cases h : other = name
    · simp [h]
    · rw [beq_false_of_ne h, if_neg h]
  rw [agrees_object has hbs, agrees_object has.of_cons hbs.of_cons]
  simp only [hcons]
  rw [forall_agreesFound_iff (hnone has) (hnone hbs), agreesFound_some]

/-! ## Numbers and texts -/

/-- Finite floats are written as numbers that agree if they are equal. -/
theorem agrees_ofFloat {x y : Float} (hx : x.isFinite = true) (hy : y.isFinite = true) :
    (ofFloat x).agrees (ofFloat y) = (x == y) := by
  rw [ofFloat, ofFloat, dif_pos hx, dif_pos hy]
  rfl

/-- Integers are written as numbers that agree only if they are the same. -/
theorem agrees_ofInt64 {m n : Int64} : (ofInt64 m).agrees (ofInt64 n) = true ↔ m = n := by
  have hnumber : (ofInt64 m).agrees (ofInt64 n) = (m.toInt == n.toInt) := rfl
  rw [hnumber, beq_iff_eq, Int64.toInt_inj]

/-- And so are years. -/
theorem agrees_ofInt32 {m n : Int32} : (ofInt32 m).agrees (ofInt32 n) = true ↔ m = n := by
  rw [ofInt32, ofInt32, agrees_ofInt64, ← Int64.toInt_inj, Int32.toInt_toInt64,
    Int32.toInt_toInt64, Int32.toInt_inj]

/-- Texts agree only if they are the same. -/
theorem agrees_string {s t : String} : (string s).agrees (string t) = true ↔ s = t := by
  rw [agrees, beq_iff_eq]

/-- A float is written as no text. -/
theorem agrees_ofFloat_string {x : Float} {s : String} : (ofFloat x).agrees (string s) = false := by
  rw [ofFloat]
  split <;> rfl

theorem agrees_string_ofFloat {x : Float} {s : String} : (string s).agrees (ofFloat x) = false := by
  rw [ofFloat]
  split <;> rfl

end Json

end SeismicSite
