import SeismicSite.Proofs.Success
/-!
# Checks that fail

A chain of checks fails at the first check that does, and nothing behind that
one is looked at. These lemmas say where a bind, a map, a change of the error
and a pass over a list fail; the place in a list is told by what stands before
it, all of which is accepted.
-/

namespace SeismicSite

variable {ε ε' α β : Type}

theorem bind_eq_error {check : Except ε α} {next : α → Except ε β} {e : ε} :
    (check >>= next) = .error e ↔ check = .error e ∨ ∃ a, check = .ok a ∧ next a = .error e := by
  cases check <;> simp [bind, Except.bind]

theorem except_bind_eq_error {check : Except ε α} {next : α → Except ε β} {e : ε} :
    check.bind next = .error e ↔ check = .error e ∨ ∃ a, check = .ok a ∧ next a = .error e :=
  bind_eq_error

theorem map_eq_error {check : Except ε α} {f : α → β} {e : ε} :
    (f <$> check) = .error e ↔ check = .error e := by
  cases check <;> simp [Functor.map, Except.map]

theorem except_map_eq_error {check : Except ε α} {f : α → β} {e : ε} :
    check.map f = .error e ↔ check = .error e :=
  map_eq_error

theorem mapError_eq_error {check : Except ε α} {f : ε → ε'} {e : ε'} :
    check.mapError f = .error e ↔ ∃ cause, check = .error cause ∧ e = f cause := by
  cases check <;> simp [Except.mapError, eq_comm]

/-! A change of the error passes through the links of a chain. -/

theorem mapError_bind {check : Except ε α} {next : α → Except ε β} {f : ε → ε'} :
    (check >>= next).mapError f = check.mapError f >>= fun a => (next a).mapError f := by
  cases check <;> rfl

theorem mapError_map {check : Except ε α} {f : ε → ε'} {g : α → β} :
    (g <$> check).mapError f = g <$> check.mapError f := by
  cases check <;> rfl

theorem mapError_pure {a : α} {f : ε → ε'} : (pure a : Except ε α).mapError f = pure a :=
  rfl

/-- A check that has no result has an error. -/
theorem exists_error_iff {check : Except ε α} :
    (∃ e, check = .error e) ↔ ¬ ∃ a, check = .ok a := by
  cases check <;> simp

/-- A check with one possible error fails with that one. -/
theorem eq_error_iff {check : Except ε α} {fails : Prop} {e cause : ε}
    (hfails : (∃ e, check = .error e) ↔ fails) (hcause : ∀ e, check = .error e → e = cause) :
    check = .error e ↔ fails ∧ e = cause := by
  constructor
  · intro h
    exact ⟨hfails.mp ⟨e, h⟩, hcause e h⟩
  · rintro ⟨h, rfl⟩
    obtain ⟨found, hfound⟩ := hfails.mpr h
    rw [hfound, hcause found hfound]

/-- A place in a list is its front or a place behind the front. -/
theorem exists_split_cons_iff {holds : List α → α → Prop} {item : α} {items : List α} :
    (∃ before one after, item :: items = before ++ one :: after ∧ holds before one) ↔
      holds [] item ∨
        ∃ before one after, items = before ++ one :: after ∧ holds (item :: before) one := by
  constructor
  · rintro ⟨before, one, after, heq, hone⟩
    rcases List.cons_eq_append_iff.mp heq with ⟨rfl, hfront⟩ | ⟨before, rfl, hrest⟩
    · obtain ⟨rfl, -⟩ := List.cons.inj hfront
      exact .inl hone
    · exact .inr ⟨before, one, after, hrest, hone⟩
  · rintro (hfront | ⟨before, one, after, rfl, hone⟩)
    · exact ⟨[], item, items, rfl, hfront⟩
    · exact ⟨item :: before, one, after, rfl, hone⟩

/-- **A list is rejected at its first item that is**: all items before it are
accepted, and its error is that of the list. -/
theorem mapM_eq_error_iff {check : α → Except ε β} {items : List α} {e : ε} :
    items.mapM check = .error e ↔
      ∃ before item after, items = before ++ item :: after ∧
        (∀ earlier ∈ before, ∃ b, check earlier = .ok b) ∧ check item = .error e := by
  induction items with
  | nil => simp [pure, Except.pure]
  | cons item items ih =>
    rw [List.mapM_cons, exists_split_cons_iff]
    simp only [bind_eq_error, pure, Except.pure, reduceCtorEq, and_false, exists_false, or_false,
      ih, List.forall_mem_cons, List.not_mem_nil, false_imp_iff, forall_true_iff, true_and]
    refine or_congr_right ?_
    constructor
    · rintro ⟨b, hitem, before, one, after, hsplit, hbefore, hone⟩
      exact ⟨before, one, after, hsplit, ⟨⟨b, hitem⟩, hbefore⟩, hone⟩
    · rintro ⟨before, one, after, hsplit, ⟨⟨b, hitem⟩, hbefore⟩, hone⟩
      exact ⟨b, hitem, before, one, after, hsplit, hbefore, hone⟩

end SeismicSite
