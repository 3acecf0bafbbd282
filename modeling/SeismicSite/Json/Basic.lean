import Std.Data.ExtTreeMap
/-!
# JSON values

The tree that a JSON text stands for. Numbers are whole numbers of 64 bits,
signed or unsigned, or finite floats; the members of an object are a list.
In a value that stands for a text the members of every object are in
strictly ascending order of their names (`Json.Sorted`), and `Json.ofMembers`
brings any members into that order.
-/

namespace SeismicSite

/-- A number of a JSON text. -/
inductive JsonNumber where
  | integer (value : Int) (lower : Int64.minValue.toInt ≤ value) (upper : value < UInt64.size)
  | float (value : Float) (finite : value.isFinite = true)
  deriving DecidableEq

/-- A JSON value. -/
inductive Json where
  | null
  | bool (value : Bool)
  | number (value : JsonNumber)
  | string (value : String)
  | array (items : List Json)
  | object (members : List (String × Json))

namespace Json

mutual

/-- The members of every object in the value are in strictly ascending
order of their names. -/
def Sorted : Json → Prop
  | array items => SortedItems items
  | object members => (members.map Prod.fst).Pairwise (· < ·) ∧ SortedMembers members
  | _ => True

/-- Every item is sorted. -/
def SortedItems : List Json → Prop
  | [] => True
  | item :: items => item.Sorted ∧ SortedItems items

/-- The value of every member is sorted. -/
def SortedMembers : List (String × Json) → Prop
  | [] => True
  | (_, value) :: members => value.Sorted ∧ SortedMembers members

end

/-- The object with the given members, in ascending order of their names;
of two with one name the later stays. -/
def ofMembers (members : List (String × Json)) : Json :=
  object (Std.ExtTreeMap.ofList members).toList

/-- The value of the member `name`. -/
def member? (members : List (String × Json)) (name : String) : Option Json :=
  members.lookup name

/-- A float as a JSON value: JSON has no infinity and no NaN. -/
def ofFloat (x : Float) : Json :=
  if finite : x.isFinite = true then number (.float x finite) else null

/-- A signed 64-bit integer as a JSON value. -/
def ofInt64 (n : Int64) : Json :=
  number (.integer n.toInt n.minValue_le_toInt (by
    have := n.toInt_lt
    simp only [UInt64.size]
    omega))

end Json

end SeismicSite
