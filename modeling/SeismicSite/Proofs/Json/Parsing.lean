import SeismicSite.Json.Parser
import SeismicSite.Proofs.Json.Induction
/-!
# Values of texts

A value that is read from a text is sorted, in whatever order and however often
the text names the members of its objects.
-/

namespace SeismicSite

namespace Json

/-- Whatever the scanner splits off a text has the property. -/
def Yields {α : Type} (scanner : List Char → Option (α × List Char)) (property : α → Prop) : Prop :=
  ∀ text found left, scanner text = some (found, left) → property found

namespace Yields

variable {α : Type} {close : Char} {part : List Char → Option (α × List Char)}
variable {property : α → Prop}

/-- Parts between commas are scanned one by one. -/
theorem scanParts (hpart : Yields part property) {limit : Nat} :
    Yields (scanParts close part limit) fun parts => ∀ found ∈ parts, property found := by
  induction limit with
  | zero =>
    intro text parts left h
    cases h
  | succ limit ih =>
    intro text parts left h
    obtain ⟨⟨first, afterFirst⟩, hfirst, h⟩ := Option.bind_eq_some_iff.mp h
    have hproperty := hpart _ _ _ hfirst
    dsimp only at h
    split at h
    · cases h
    · rename_i c rest _
      by_cases hcomma : c = ','
      · rw [if_pos hcomma] at h
        obtain ⟨⟨more, rest⟩, hmore, h⟩ := Option.bind_eq_some_iff.mp h
        obtain ⟨rfl, -⟩ := Prod.mk.inj (Option.some.inj h)
        exact List.forall_mem_cons.mpr ⟨hproperty, ih _ _ _ hmore⟩
      · rw [if_neg hcomma] at h
        obtain ⟨-, h⟩ := Option.ite_none_right_eq_some.mp h
        obtain ⟨rfl, -⟩ := Prod.mk.inj (Option.some.inj h)
        exact List.forall_mem_singleton.mpr hproperty

theorem scanBracketed (hpart : Yields part property) {limit : Nat} :
    Yields (scanBracketed close part limit) fun parts => ∀ found ∈ parts, property found := by
  intro text parts left h
  unfold Json.scanBracketed at h
  split at h
  · cases h
  · split at h
    · obtain ⟨rfl, -⟩ := Prod.mk.inj (Option.some.inj h)
      exact fun found hfound => absurd hfound List.not_mem_nil
    · exact hpart.scanParts _ _ _ h

/-- The value of a member is scanned like any other. -/
theorem scanMember {value : List Char → Option (Json × List Char)} {property : Json → Prop}
    (hvalue : Yields value property) :
    Yields (scanMember value) fun member => property member.2 := by
  intro text member left h
  unfold Json.scanMember at h
  split at h
  · obtain ⟨⟨name, afterName⟩, -, h⟩ := Option.bind_eq_some_iff.mp h
    dsimp only at h
    split at h
    · obtain ⟨⟨content, rest⟩, hcontent, h⟩ := Option.bind_eq_some_iff.mp h
      obtain ⟨rfl, -⟩ := Prod.mk.inj (Option.some.inj h)
      exact hvalue _ _ _ hcontent
    · cases h
  · cases h

/-- **Every value that is scanned is sorted**, by induction on the depth to which
arrays and objects may nest. -/
theorem scan {limit depth : Nat} : Yields (scan limit depth) Sorted := by
  -- only an array or object looks at the depth, and its parts are scanned at one less
  induction depth using Nat.strongRecOn with
  | ind depth ih =>
    intro text value left h
    unfold Json.scan at h
    split at h
    · cases h
      trivial
    · cases h
      trivial
    · cases h
      trivial
    · obtain ⟨_, -, h⟩ := Option.map_eq_some_iff.mp h
      cases h
      trivial
    · cases depth with
      | zero => cases h
      | succ inner =>
        obtain ⟨⟨items, _⟩, hitems, h⟩ := Option.map_eq_some_iff.mp h
        obtain ⟨rfl, -⟩ := Prod.mk.inj h
        have hinner := ih inner (Nat.lt_succ_self inner)
        exact sorted_array.mpr (hinner.scanBracketed _ _ _ hitems)
    · cases depth with
      | zero => cases h
      | succ inner =>
        obtain ⟨⟨members, _⟩, hmembers, h⟩ := Option.map_eq_some_iff.mp h
        obtain ⟨rfl, -⟩ := Prod.mk.inj h
        have hinner := ih inner (Nat.lt_succ_self inner)
        have hvalues := hinner.scanMember.scanBracketed _ _ _ hmembers
        exact sorted_ofMembers fun name value hmem => hvalues (name, value) hmem
    · obtain ⟨_, -, h⟩ := Option.bind_eq_some_iff.mp h
      obtain ⟨_, -, h⟩ := Option.bind_eq_some_iff.mp h
      cases h
      trivial

end Yields

theorem sorted_of_parseWithin? {depth : Nat} {text : String} {value : Json}
    (h : parseWithin? depth text = some value) : value.Sorted := by
  unfold parseWithin? at h
  dsimp only at h
  split at h
  · rename_i found left hscan
    obtain ⟨-, h⟩ := Option.ite_none_right_eq_some.mp h
    obtain rfl := Option.some.inj h
    exact Yields.scan _ _ _ hscan
  · cases h

/-- **The value of a text is sorted**, so what holds of sorted values holds of
every document that comes as a text. -/
theorem sorted_of_parse? {text : String} {value : Json} (h : parse? text = some value) :
    value.Sorted :=
  sorted_of_parseWithin? h

end Json

end SeismicSite
