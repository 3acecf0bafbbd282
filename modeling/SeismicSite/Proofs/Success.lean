import Mathlib.Data.List.Forall2
/-!
# Checks that succeed

A reading is a chain of checks, and what it gives is known only where every
check succeeds. These lemmas take such a chain apart: one link for a bind, a
map or a change of the error, and one relation for a whole list.
-/

namespace SeismicSite

variable {ε ε' α β : Type}

theorem bind_eq_ok {check : Except ε α} {next : α → Except ε β} {b : β} :
    (check >>= next) = .ok b ↔ ∃ a, check = .ok a ∧ next a = .ok b := by
  cases check <;> simp [bind, Except.bind]

theorem except_bind_eq_ok {check : Except ε α} {next : α → Except ε β} {b : β} :
    check.bind next = .ok b ↔ ∃ a, check = .ok a ∧ next a = .ok b :=
  bind_eq_ok

theorem map_eq_ok {check : Except ε α} {f : α → β} {b : β} :
    (f <$> check) = .ok b ↔ ∃ a, check = .ok a ∧ b = f a := by
  cases check <;> simp [Functor.map, Except.map, eq_comm]

theorem except_map_eq_ok {check : Except ε α} {f : α → β} {b : β} :
    check.map f = .ok b ↔ ∃ a, check = .ok a ∧ b = f a :=
  map_eq_ok

theorem pure_eq_ok {a b : α} : (pure a : Except ε α) = .ok b ↔ a = b := by
  simp [pure, Except.pure]

theorem mapError_eq_ok {check : Except ε α} {f : ε → ε'} {a : α} :
    check.mapError f = .ok a ↔ check = .ok a := by
  cases check <;> simp [Except.mapError]

/-- **A list is accepted exactly if every item is**, and the results stand in
the order of the items. -/
theorem mapM_eq_ok_iff {check : α → Except ε β} {items : List α} {results : List β} :
    items.mapM check = .ok results ↔
      List.Forall₂ (fun item result => check item = .ok result) items results := by
  induction items generalizing results with
  | nil => rw [List.mapM_nil, pure_eq_ok, List.forall₂_nil_left_iff, eq_comm]
  | cons item items ih =>
    simp only [List.mapM_cons, bind_eq_ok, pure_eq_ok, List.forall₂_cons_left_iff]
    constructor
    · rintro ⟨result, hitem, rest, hrest, rfl⟩
      exact ⟨result, rest, hitem, ih.mp hrest, rfl⟩
    · rintro ⟨result, rest, hitem, hrest, rfl⟩
      exact ⟨result, hitem, rest, ih.mpr hrest, rfl⟩

/-! ## Results item by item -/

variable {related : α → β → Prop} {items : List α} {results : List β}

/-- A list has results exactly if each of its items has one. -/
theorem exists_forall₂_iff :
    (∃ results, List.Forall₂ related items results) ↔ ∀ item ∈ items, ∃ result, related item result := by
  induction items with
  | nil => simp
  | cons item items ih =>
    rw [List.forall_mem_cons, ← ih]
    constructor
    · rintro ⟨_, hitem⟩
      obtain ⟨result, results, hresult, hresults, -⟩ := List.forall₂_cons_left_iff.mp hitem
      exact ⟨⟨result, hresult⟩, ⟨results, hresults⟩⟩
    · rintro ⟨⟨result, hresult⟩, ⟨results, hresults⟩⟩
      exact ⟨result :: results, .cons hresult hresults⟩

/-- Two passes over a list are one pass of both steps. -/
theorem forall₂_comp_iff {γ : Type} {first : α → γ → Prop} {second : γ → β → Prop} :
    (∃ middle, List.Forall₂ first items middle ∧ List.Forall₂ second middle results) ↔
      List.Forall₂ (fun item result => ∃ m, first item m ∧ second m result) items results := by
  constructor
  · rintro ⟨middle, hfirst, hsecond⟩
    induction hfirst generalizing results with
    | nil => rw [List.forall₂_nil_left_iff.mp hsecond]; exact .nil
    | cons hitem _ ih =>
      obtain ⟨result, rest, hresult, hrest, rfl⟩ := List.forall₂_cons_left_iff.mp hsecond
      exact .cons ⟨_, hitem, hresult⟩ (ih hrest)
  · intro h
    induction h with
    | nil => exact ⟨[], .nil, .nil⟩
    | cons hitem _ ih =>
      obtain ⟨m, hfirst, hsecond⟩ := hitem
      obtain ⟨middle, hfirsts, hseconds⟩ := ih
      exact ⟨m :: middle, .cons hfirst hfirsts, .cons hsecond hseconds⟩

/-- Every result is the result of an item. -/
theorem exists_of_mem_results (h : List.Forall₂ related items results) {result : β}
    (hresult : result ∈ results) : ∃ item ∈ items, related item result := by
  induction h with
  | nil => cases hresult
  | cons hfirst _ ih =>
    rw [List.exists_mem_cons_iff]
    rcases List.mem_cons.mp hresult with rfl | hlater
    · exact .inl hfirst
    · exact .inr (ih hlater)

/-- Where an item has at most one result, the results are exactly those of
the items. -/
theorem mem_results_iff (hunique : Relator.RightUnique related)
    (h : List.Forall₂ related items results) {result : β} :
    result ∈ results ↔ ∃ item ∈ items, related item result := by
  refine ⟨exists_of_mem_results h, ?_⟩
  rintro ⟨item, hitem, hrelated⟩
  obtain ⟨found, hfound, hother⟩ := exists_of_mem_results h.flip hitem
  rwa [hunique hrelated hother]

end SeismicSite
