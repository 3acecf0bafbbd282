import SeismicSite.Proofs.Schema.Stored
import SeismicSite.Proofs.Schema.TypeError
/-!
# Conversions of field values

A field value is converted to a type by `unwrap`, and a content of a type to a field
value by `wrap`. Whether there is a content to unwrap is told by the kind of the value
(`Admits`), and which one by what the value holds (`Holds`), so nothing of an accepted
value is lost: an integer stays the integer that it is, in 32 bits as in 64, and only
where a float is asked for it is widened. A value that is not admitted is handed back.

A conversion may ask for less than a field does: an indicator of any name can be
unwrapped, while the field of a slot takes those of one name.
-/

namespace SeismicSite

namespace FieldType

variable {type : FieldType} {value rejected : FieldValue}

/-! ## What is admitted -/

/-- A type has a content in the value. The kind of the value tells it, but for an
integer that is to be a year, which must fit 32 bits with a sign. An indicator may be of
any name. -/
def Admits : FieldType → FieldValue → Prop
  | text, value => value.kind = .text
  | number, value => value.kind = .float ∨ value.kind = .integer
  | integer, value => value.kind = .integer
  | year, value => ∃ n, value = .integer n ∧ ¬ OutOfRange n
  | reading, value => value.kind = .text ∨ value.kind = .float ∨ value.kind = .integer
  | element (.indicator _), value => ∃ name, value.kind = .entity (.element (.indicator name))
  | element own, value => value.kind = .entity (.element own)

/-- An element is admitted where it is the content of a value. -/
theorem exists_eq_toElement_iff {own : ElementKind} :
    (∃ content, value = .element (own.toElement content)) ↔ (element own).Admits value := by
  cases value with
  | element one =>
    cases own <;> cases one <;>
      simp [Admits, FieldValue.kind, Element.kind, ElementKind.toElement]
  | _ => cases own <;> simp [Admits, FieldValue.kind]

/-- An integer of 32 bits is one of 64 bits that is in range. -/
theorem exists_eq_toInt64_iff {n : Int64} : (∃ y : Int32, n = y.toInt64) ↔ ¬ OutOfRange n := by
  rw [OutOfRange]
  constructor
  · rintro ⟨y, rfl⟩
    have hlower := y.le_toInt
    have hupper := y.toInt_lt
    rw [Int32.toInt_toInt64]
    omega
  · intro hrange
    refine ⟨Int32.ofInt n.toInt, Int64.toInt_inj.mp ?_⟩
    rw [Int32.toInt_toInt64, Int32.toInt_ofInt_of_le] <;> omega

/-- A number is held by a float and by an integer. -/
theorem exists_holds_number :
    (∃ x, number.Holds value x) ↔ value.kind = .float ∨ value.kind = .integer := by
  rw [FieldValue.kind_eq_float, FieldValue.kind_eq_integer]
  constructor
  · rintro ⟨x, rfl | ⟨n, rfl, -⟩⟩
    · exact .inl ⟨x, rfl⟩
    · exact .inr ⟨n, rfl⟩
  · rintro (⟨x, rfl⟩ | ⟨n, rfl⟩)
    · exact ⟨x, .inl rfl⟩
    · exact ⟨widen n, .inr ⟨n, rfl, rfl⟩⟩

/-- A reading is held by a text, and by what holds a number. -/
theorem exists_holds_reading :
    (∃ content, reading.Holds value content) ↔
      value.kind = .text ∨ ∃ x, number.Holds value x := by
  rw [FieldValue.kind_eq_text]
  constructor
  · rintro ⟨x | s, h⟩
    · exact .inr ⟨x, h⟩
    · rcases h with rfl | ⟨n, -, hwidened⟩
      · exact .inl ⟨s, rfl⟩
      · cases hwidened
  · rintro (⟨s, rfl⟩ | ⟨x, h⟩)
    · exact ⟨.text s, .inl rfl⟩
    · exact ⟨.number x, h⟩

/-- **A type admits a value exactly if the value holds a content of it.** -/
theorem exists_holds_iff_admits : (∃ content, type.Holds value content) ↔ type.Admits value := by
  cases type with
  | text => simp [Holds, wrap, Admits, FieldValue.kind_eq_text]
  | number => exact exists_holds_number
  | integer => simp [Holds, wrap, Admits, FieldValue.kind_eq_integer]
  | year =>
    simp only [Holds, wrap, reduceCtorEq, and_false, exists_false, or_false, Admits,
      ← exists_eq_toInt64_iff]
    constructor
    · rintro ⟨y, rfl⟩
      exact ⟨_, rfl, y, rfl⟩
    · rintro ⟨_, rfl, y, rfl⟩
      exact ⟨y, rfl⟩
  | reading =>
    rw [exists_holds_reading, exists_holds_number]
    rfl
  | element own => simp [Holds, wrap, exists_eq_toElement_iff]

/-! ## What is unwrapped -/

/-- A content that the value holds is unwrapped. -/
theorem unwrap_of_holds {content : type.Carrier} (h : type.Holds value content) :
    type.unwrap value = .ok content := by
  rcases h with rfl | ⟨n, rfl, hwidened⟩
  · exact unwrap_wrap content
  · -- only a number and a reading are put into floats
    cases type with
    | number =>
      obtain rfl := FieldValue.float.inj hwidened
      rfl
    | reading =>
      cases content with
      | number x =>
        obtain rfl := FieldValue.float.inj hwidened
        rfl
      | text s => cases hwidened
    | _ => cases hwidened

/-- **A content is unwrapped exactly if the value holds it.** -/
theorem unwrap_eq_ok {content : type.Carrier} :
    type.unwrap value = .ok content ↔ type.Holds value content :=
  ⟨holds_of_unwrap, unwrap_of_holds⟩

/-- **A value that is not admitted is handed back** as it is, and no other. -/
theorem unwrap_eq_error :
    type.unwrap value = .error rejected ↔ ¬ type.Admits value ∧ rejected = value := by
  refine eq_error_iff ?_ fun _ => eq_of_unwrap_eq_error
  simp only [exists_error_iff, unwrap_eq_ok, exists_holds_iff_admits]

/-! ## Integers -/

/-- An integer is unwrapped as it stands. -/
theorem unwrap_integer_eq_ok {n : Int64} : integer.unwrap value = .ok n ↔ value = .integer n := by
  rw [unwrap_eq_ok]
  simp [Holds, wrap]

/-- A year is unwrapped from the same number. -/
theorem unwrap_year_eq_ok {y : Int32} :
    year.unwrap value = .ok y ↔ ∃ n, value = .integer n ∧ y.toInt = n.toInt := by
  have hsame : ∀ n : Int64, n = y.toInt64 ↔ y.toInt = n.toInt := by
    intro n
    rw [← Int64.toInt_inj, Int32.toInt_toInt64, eq_comm]
  rw [unwrap_eq_ok]
  simp [Holds, wrap, ← hsame]

/-! ## What is wrapped -/

/-- The kind of a content. A number goes in as a float, and an indicator tells its kind
by its name. -/
def kindOf : (type : FieldType) → type.Carrier → ValueKind
  | text, _ => .text
  | number, _ => .float
  | integer, _ => .integer
  | year, _ => .integer
  | reading, .number _ => .float
  | reading, .text _ => .text
  | element (.indicator _), indicator => indicator.kind
  | element kind, _ => .entity (.element kind)

/-- A value is of the kind of the content that is put into it. -/
theorem kind_wrap (content : type.Carrier) : (type.wrap content).kind = type.kindOf content := by
  cases type with
  | reading => cases content <;> rfl
  | element kind => cases kind <;> rfl
  | _ => rfl

/-- **Conversions are exact.** A value has a content of a type exactly if the type admits
it, and the content is what the value holds; a value that is not admitted, a list of any
depth included, is handed back as it is. An integer is unwrapped to the same number, in
64 bits and in 32. A content that is put into a value is of the kind of the value and is
unwrapped again. -/
theorem conversions_are_exact :
    (∀ (type : FieldType) (value : FieldValue),
        ((∃ content, type.unwrap value = .ok content) ↔ type.Admits value) ∧
          (∀ rejected, type.unwrap value = .error rejected ↔
            ¬ type.Admits value ∧ rejected = value) ∧
          ∀ content, type.unwrap value = .ok content ↔ type.Holds value content) ∧
      (∀ (value : FieldValue) (n : Int64), integer.unwrap value = .ok n ↔ value = .integer n) ∧
      (∀ (value : FieldValue) (y : Int32),
        year.unwrap value = .ok y ↔ ∃ n, value = .integer n ∧ y.toInt = n.toInt) ∧
      ∀ (type : FieldType) (content : type.Carrier),
        type.unwrap (type.wrap content) = .ok content ∧
          (type.wrap content).kind = type.kindOf content := by
  refine ⟨fun type value => ⟨?_, fun _ => unwrap_eq_error, fun _ => unwrap_eq_ok⟩,
    fun _ _ => unwrap_integer_eq_ok, fun _ _ => unwrap_year_eq_ok,
    fun _ content => ⟨unwrap_wrap content, kind_wrap content⟩⟩
  simp only [unwrap_eq_ok, exists_holds_iff_admits]

/-- The last integer of 32 bits is a year, and the next one is handed back. -/
example :
    year.unwrap (.integer 2147483647) = .ok 2147483647 ∧
      year.unwrap (.integer 2147483648) = .error (.integer 2147483648) :=
  ⟨rfl, rfl⟩

end FieldType

end SeismicSite
