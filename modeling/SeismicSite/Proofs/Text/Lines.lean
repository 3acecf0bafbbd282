import Mathlib.Algebra.Order.BigOperators.Group.List
import Mathlib.Algebra.Order.Ring.Nat
import SeismicSite.Decimal.Layout
/-!
# Lines of texts

A text is cut into its lines at the line feeds. Texts that are joined by line feeds
have those at the joints and those inside them, so where they have none inside, they
are the lines of the text that they are joined to (`linesOf_intercalate`). A number as
it is shown has no line feed, whatever its digits are.
-/

namespace SeismicSite

/-- The number of line feeds in a text. -/
def lineFeeds (text : String) : Nat :=
  text.toList.count '\n'

/-- The lines of a text: what stands before, between and behind its line feeds. -/
def linesOf (text : String) : List String :=
  (text.toList.splitOn '\n').map String.ofList

theorem lineFeeds_eq_zero_iff {text : String} : lineFeeds text = 0 ↔ '\n' ∉ text.toList :=
  List.count_eq_zero

@[simp] theorem lineFeeds_append (a b : String) : lineFeeds (a ++ b) = lineFeeds a + lineFeeds b := by
  rw [lineFeeds, String.toList_append, List.count_append, lineFeeds, lineFeeds]

/-! ## Joined texts -/

/-- Joined texts have the line feeds of each and those of every separator between them. -/
theorem lineFeeds_intercalate (separator : String) (texts : List String) :
    lineFeeds (separator.intercalate texts) =
      (texts.length - 1) * lineFeeds separator + (texts.map lineFeeds).sum := by
  induction texts with
  | nil => simp [lineFeeds]
  | cons text texts ih =>
    by_cases hlast : texts = []
    · subst hlast
      simp
    · have hlength : 0 < texts.length := List.length_pos_iff.mpr hlast
      have hjoints : texts.length = texts.length - 1 + 1 := by omega
      rw [String.intercalate_cons_of_ne_nil hlast, lineFeeds_append, lineFeeds_append, ih,
        List.length_cons, Nat.add_sub_cancel, List.map_cons, List.sum_cons, hjoints, Nat.succ_mul,
        Nat.add_sub_cancel]
      omega

/-- Texts joined by commas have the line feeds of each. -/
theorem lineFeeds_intercalate_comma (texts : List String) :
    lineFeeds (", ".intercalate texts) = (texts.map lineFeeds).sum := by
  have hcomma : lineFeeds ", " = 0 := by decide
  rw [lineFeeds_intercalate, hcomma, Nat.mul_zero, Nat.zero_add]

/-- Texts joined by line feeds have one at every joint besides. -/
theorem lineFeeds_intercalate_newline (texts : List String) :
    lineFeeds ("\n".intercalate texts) = texts.length - 1 + (texts.map lineFeeds).sum := by
  have hnewline : lineFeeds "\n" = 1 := by decide
  rw [lineFeeds_intercalate, hnewline, Nat.mul_one]

/-- **Texts without line feeds are the lines of what they are joined to.** -/
theorem linesOf_intercalate {texts : List String} (hsome : texts ≠ [])
    (h : ∀ text ∈ texts, lineFeeds text = 0) : linesOf ("\n".intercalate texts) = texts := by
  have hfree : ∀ characters ∈ texts.map String.toList, '\n' ∉ characters := by
    intro characters hmem
    obtain ⟨text, htext, rfl⟩ := List.mem_map.mp hmem
    exact lineFeeds_eq_zero_iff.mp (h text htext)
  have hsplit := List.splitOn_intercalate '\n' hfree (mt List.map_eq_nil_iff.mp hsome)
  calc linesOf ("\n".intercalate texts)
      = (texts.map String.toList).map String.ofList := by
        rw [linesOf, String.toList_intercalate]
        exact congrArg (List.map String.ofList) hsplit
    _ = texts := by
        rw [List.map_map]
        exact List.map_id'' (fun text => String.ofList_toList) texts

/-! ## Numbers -/

/-- The digits of a number hold no line feed. -/
theorem newline_not_mem_toDigits (n : Nat) : '\n' ∉ Nat.toDigits 10 n := by
  intro hmem
  have hdigit : '\n'.isDigit = true := Nat.isDigit_of_mem_toDigits (by decide) (by decide) hmem
  exact absurd hdigit (by decide)

@[simp] theorem lineFeeds_repr (n : Nat) : lineFeeds n.repr = 0 := by
  rw [lineFeeds_eq_zero_iff, Nat.repr_eq_ofList_toDigits, String.toList_ofList]
  exact newline_not_mem_toDigits n

namespace Layout

variable {layout : Layout} {digits : List Char}

/-- Digits stay on one line where the point is put. -/
theorem newline_not_mem_positional (h : '\n' ∉ digits) (places : Int) :
    '\n' ∉ layout.positional digits places := by
  have hzeros (n : Nat) : '\n' ∉ List.replicate n '0' := by simp
  have hpoint : '\n' ∉ (if layout.pointOnWhole then ['.', '0'] else []) := by split <;> simp
  rw [positional]
  by_cases hgap : 0 ≤ places - digits.length
  · rw [if_pos hgap, List.mem_append, List.mem_append, not_or, not_or]
    exact ⟨⟨h, hzeros _⟩, hpoint⟩
  · rw [if_neg hgap]
    by_cases hplaces : 0 < places
    · have htake : '\n' ∉ digits.take places.toNat := fun hmem => h (List.mem_of_mem_take hmem)
      have hdrop : '\n' ∉ digits.drop places.toNat := fun hmem => h (List.mem_of_mem_drop hmem)
      rw [if_pos hplaces]
      simp [htake, hdrop]
    · rw [if_neg hplaces]
      simp [h, hzeros]

/-- And where a power of ten is split off. -/
theorem newline_not_mem_scientific (h : '\n' ∉ digits) (e : Int) : '\n' ∉ scientific digits e := by
  have htake : '\n' ∉ digits.take 1 := fun hmem => h (List.mem_of_mem_take hmem)
  have hdrop : '\n' ∉ digits.drop 1 := fun hmem => h (List.mem_of_mem_drop hmem)
  have hpower := newline_not_mem_toDigits e.natAbs
  have hfraction : '\n' ∉ (if (digits.drop 1).isEmpty then [] else '.' :: digits.drop 1) := by
    split
    · exact List.not_mem_nil
    · rw [List.mem_cons, not_or]
      exact ⟨by decide, hdrop⟩
  have hsign : '\n' ≠ (if e < 0 then '-' else '+') := by split <;> decide
  simp only [scientific, List.mem_append, List.mem_cons, not_or]
  exact ⟨⟨htake, hfraction⟩, by decide, hsign, hpower⟩

/-- **A float is written on one line**, in every layout. -/
theorem lineFeeds_writeFloat (x : Float) : lineFeeds (layout.writeFloat x) = 0 := by
  have hdigits := newline_not_mem_toDigits (Decimal.ofFloat x).digits
  have hwrite : '\n' ∉ layout.write (.ofFloat x) := by
    simp only [write]
    split
    · exact newline_not_mem_positional hdigits _
    · exact newline_not_mem_scientific hdigits _
  have hsign : '\n' ∉ (if x.toBits < 0x8000000000000000 then [] else ['-']) := by split <;> simp
  rw [lineFeeds_eq_zero_iff, writeFloat, String.toList_ofList, List.mem_append, not_or]
  exact ⟨hsign, hwrite⟩

end Layout

/-- **So is a float as summaries show it**, be it a number or not. -/
@[simp] theorem lineFeeds_displayFloat (x : Float) : lineFeeds (displayFloat x) = 0 := by
  unfold displayFloat
  split
  · decide
  · split
    · exact Layout.lineFeeds_writeFloat x
    · split <;> decide

end SeismicSite
