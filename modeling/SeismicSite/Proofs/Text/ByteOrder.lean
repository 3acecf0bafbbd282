import Mathlib.Order.Basic
import Mathlib.Tactic.SplitIfs
/-!
# Texts in the order of their bytes

Texts are compared character by character. Written in UTF-8 they stand in the
same order byte by byte: of two characters the one with the greater number has
the greater code, and no code begins another.
-/

namespace SeismicSite

/-- The bytes of a text in UTF-8. -/
def utf8 (text : String) : List UInt8 :=
  text.toUTF8.data.toList

/-- A text is written character by character. -/
theorem utf8_eq_flatMap {text : String} : utf8 text = text.toList.flatMap String.utf8EncodeChar := by
  have hbytes : text.toUTF8 = text.toList.utf8Encode := by
    rw [String.toUTF8_eq_toByteArray, String.utf8Encode_toList]
  rw [utf8, hbytes]
  exact List.toList_data_toByteArray

/-- Numbers of four digits are compared digit by digit. -/
theorem digits_lt {m n : Nat} (h : m < n) :
    m / 262144 < n / 262144 ∨ m / 262144 = n / 262144 ∧
      (m / 4096 % 64 < n / 4096 % 64 ∨ m / 4096 % 64 = n / 4096 % 64 ∧
        (m / 64 % 64 < n / 64 % 64 ∨ m / 64 % 64 = n / 64 % 64 ∧ m % 64 < n % 64)) := by
  by_cases h₁ : m / 262144 = n / 262144
  · by_cases h₂ : m / 4096 = n / 4096
    · by_cases h₃ : m / 64 = n / 64 <;> omega
    · omega
  · omega

/-- **A greater character has a greater code**, whatever follows either. -/
theorem utf8EncodeChar_append_lt {c d : Char} (h : c < d) (front back : List UInt8) :
    String.utf8EncodeChar c ++ front < String.utf8EncodeChar d ++ back := by
  have hlt : c.val.toNat < d.val.toNat := h
  have hmax : d.val.toNat < 0x110000 := by
    have hvalid := d.valid
    simp only [UInt32.isValidChar, Nat.isValidChar] at hvalid
    omega
  simp only [String.utf8EncodeChar]
  generalize c.val.toNat = m at *
  generalize d.val.toNat = n at *
  have hdigits := digits_lt hlt
  have htop : ∀ k < 0x110000, (k / 262144 % 8 + 240) % 256 = k / 262144 + 240 := by omega
  have hrest : ∀ k, (k % 64 + 128) % 256 = k % 64 + 128 := by omega
  have hm : m < 0x110000 := by omega
  -- the first bytes tell the lengths apart, and codes of one length are compared digit by digit
  split_ifs <;>
    simp only [List.cons_append, List.nil_append, List.cons_lt_cons_iff, UInt8.lt_iff_toNat_lt,
      UInt8.toNat_ofNat', ← UInt8.toNat_inj, htop m hm, htop n hmax, hrest] <;>
    omega

/-- Lists of characters are in the order of their codes. -/
theorem flatMap_utf8EncodeChar_lt {as bs : List Char} (h : as < bs) :
    as.flatMap String.utf8EncodeChar < bs.flatMap String.utf8EncodeChar := by
  induction bs generalizing as with
  | nil => exact absurd h (List.not_lt_nil as)
  | cons b bs ih =>
    cases as with
    | nil =>
      obtain ⟨byte, bytes, heq⟩ := List.exists_cons_of_ne_nil (@String.utf8EncodeChar_ne_nil b)
      rw [List.flatMap_nil, List.flatMap_cons, heq]
      exact List.nil_lt_cons _ _
    | cons a as =>
      rw [List.flatMap_cons, List.flatMap_cons]
      rcases List.cons_lt_cons_iff.mp h with hlt | ⟨rfl, hrest⟩
      · exact utf8EncodeChar_append_lt hlt _ _
      · exact List.append_left_lt (ih hrest)

/-- **Texts are in the order of their bytes.** -/
theorem utf8_lt_iff {a b : String} : utf8 a < utf8 b ↔ a < b := by
  have hmono : ∀ {a b : String}, a < b → utf8 a < utf8 b := fun h => by
    rw [utf8_eq_flatMap, utf8_eq_flatMap]
    exact flatMap_utf8EncodeChar_lt h
  refine ⟨fun h => ?_, hmono⟩
  by_contra hnot
  by_cases hsame : a = b
  · exact List.lt_irrefl _ (hsame ▸ h)
  · have hgt : b < a := String.not_le.mp fun hle => hsame (String.le_antisymm hle (String.not_lt.mp hnot))
    exact List.lt_asymm h (hmono hgt)

end SeismicSite
