import Mathlib.Data.List.Forall2
/-!
# Laws of equality

Values are compared part by part, so their equality is that of the floats in them: it is
symmetric and transitive, and a value equals itself unless a NaN stands somewhere in it
(`EqualityAt`). Where all floats are finite it may be the same as some other comparison,
such as that of what the values are written as (`FaithfulAt`). Both are kept by options,
lists and pairs, and so by whatever is built of them. Of the floats themselves, no NaN
equals anything and a zero equals that of the other sign (`beq_float_iff`).
-/

namespace SeismicSite

variable {α β : Type} [BEq α] [BEq β] {floats : α → List Float} {same : α → α → Prop}
variable {floats' : β → List Float} {same' : β → β → Prop}

/-- The laws of equality with one value, in which the given floats stand. -/
structure EqualityAt (floats : α → List Float) (a : α) : Prop where
  symm : ∀ {b : α}, (a == b) = true → (b == a) = true
  trans : ∀ {b c : α}, (a == b) = true → (b == c) = true → (a == c) = true
  self_iff : (a == a) = true ↔ ∀ x ∈ floats a, x.isNaN = false

/-- Besides, the value equals just those that are the same, as long as all floats are
finite. -/
structure FaithfulAt (floats : α → List Float) (same : α → α → Prop) (a : α) : Prop
    extends EqualityAt floats a where
  iff_same : (∀ x ∈ floats a, x.isFinite = true) → ∀ b, (∀ x ∈ floats b, x.isFinite = true) →
    ((a == b) = true ↔ same a b)

/-- A value without floats equals those that it is. -/
theorem FaithfulAt.of_lawful [LawfulBEq α] {a : α} (h : ∀ b, a = b ↔ same a b) :
    FaithfulAt (fun _ => []) same a where
  symm hab := by
    rw [beq_iff_eq] at hab ⊢
    exact hab.symm
  trans hab hbc := by
    rw [beq_iff_eq] at hab hbc ⊢
    exact hab.trans hbc
  self_iff := by simp
  iff_same _ b _ := by rw [beq_iff_eq, h]

/-- What it is to be the same may be said otherwise. -/
theorem FaithfulAt.congr {other : α → α → Prop} {a : α} (h : FaithfulAt floats same a)
    (hsame : ∀ a b, other a b ↔ same a b) : FaithfulAt floats other a where
  toEqualityAt := h.toEqualityAt
  iff_same ha b hb := by rw [hsame, h.iff_same ha b hb]

/-- What is compared as another value is has its laws. -/
theorem FaithfulAt.of_map {f : β → α} {b : β} (h : FaithfulAt floats same (f b))
    (hbeq : ∀ b b' : β, (b == b') = (f b == f b'))
    (hfloats : ∀ b x, x ∈ floats' b ↔ x ∈ floats (f b))
    (hsame : ∀ b b', same' b b' ↔ same (f b) (f b')) : FaithfulAt floats' same' b where
  symm hb := by
    rw [hbeq] at hb ⊢
    exact h.symm hb
  trans hb hb' := by
    rw [hbeq] at hb hb' ⊢
    exact h.trans hb hb'
  self_iff := by simp only [hbeq, hfloats, h.self_iff]
  iff_same hb b' hb' := by
    simp only [hfloats] at hb hb'
    rw [hbeq, hsame, h.iff_same hb _ hb']

/-! ## Floats -/

open Float.Model UnpackedFloat in
/-- What a float is compared as: its sign and, unless it is infinite, its exponent and its
mantissa. A zero has no sign there, and a NaN is nothing. -/
def comparand (x : Float) : Option (Sign × Option (Int × Nat)) :=
  match x.toModel.unpack with
  | .notANumber => none
  | .infinity s => some (s, none)
  | .zero _ => some (.positive, some (0, 0))
  | .finite s mantissa exponent _ => some (s, some (exponent, mantissa))

open Float.Model in
/-- Floats are equal exactly if they are compared as the same number. -/
theorem beq_float_iff {x y : Float} :
    (x == y) = true ↔ comparand x ≠ none ∧ comparand x = comparand y := by
  change (x.toModel.unpack.compare y.toModel.unpack == some .eq) = true ↔ _
  unfold comparand
  rcases x.toModel.unpack with (_ | _) | _ | _ | ⟨_ | _, m, e, hm⟩ <;>
    rcases y.toModel.unpack with (_ | _) | _ | _ | ⟨_ | _, n, f, hn⟩ <;>
    dsimp only [UnpackedFloat.compare] <;> simp <;>
    -- two infinities of one sign, and a zero beside another number
    first | rfl | omega

theorem comparand_eq_none {x : Float} : comparand x = none ↔ x.isNaN = true := by
  change _ ↔ x.toModel.unpack.isNaN = true
  unfold comparand
  cases x.toModel.unpack with
  | notANumber => exact iff_of_true rfl rfl
  | infinity | zero | finite => exact iff_of_false nofun nofun

theorem EqualityAt.float (x : Float) : EqualityAt (fun x => [x]) x where
  symm h := by
    rw [beq_float_iff] at h ⊢
    exact ⟨h.2 ▸ h.1, h.2.symm⟩
  trans h h' := by
    rw [beq_float_iff] at h h' ⊢
    exact ⟨h.1, h.2.trans h'.2⟩
  self_iff := by
    rw [beq_float_iff, List.forall_mem_singleton, ← Bool.not_eq_true, ← comparand_eq_none]
    exact and_iff_left rfl

/-! ## Constructors -/

/-- A constructor keeps the laws if what it makes is equal only to what it makes. -/
theorem EqualityAt.of_constructor {make : α → β} {a : α} (h : EqualityAt floats a)
    (hbeq : ∀ a b, (make a == make b) = (a == b))
    (honly : ∀ a made, (make a == made) = true → ∃ b, made = make b)
    (hfloats : ∀ a x, x ∈ floats' (make a) ↔ x ∈ floats a) : EqualityAt floats' (make a) where
  symm {made} hmade := by
    obtain ⟨b, rfl⟩ := honly a made hmade
    rw [hbeq] at hmade ⊢
    exact h.symm hmade
  trans {made made'} hmade hmade' := by
    obtain ⟨b, rfl⟩ := honly a made hmade
    obtain ⟨c, rfl⟩ := honly b made' hmade'
    rw [hbeq] at hmade hmade' ⊢
    exact h.trans hmade hmade'
  self_iff := by simp only [hbeq, hfloats, h.self_iff]

/-- And so is what it makes the same only as what it makes. -/
theorem FaithfulAt.of_constructor {make : α → β} {a : α} (h : FaithfulAt floats same a)
    (hbeq : ∀ a b, (make a == make b) = (a == b))
    (honly : ∀ a made, (make a == made) = true → ∃ b, made = make b)
    (hfloats : ∀ a x, x ∈ floats' (make a) ↔ x ∈ floats a)
    (hsame : ∀ a b, same' (make a) (make b) ↔ same a b)
    (honly' : ∀ a made, same' (make a) made → ∃ b, made = make b) :
    FaithfulAt floats' same' (make a) where
  toEqualityAt := h.toEqualityAt.of_constructor hbeq honly hfloats
  iff_same ha made hmade := by
    by_cases hmake : ∃ b, made = make b
    · obtain ⟨b, rfl⟩ := hmake
      simp only [hfloats] at ha hmade
      rw [hbeq, hsame, h.iff_same ha b hmade]
    · exact iff_of_false (mt (honly a made) hmake) (mt (honly' a made) hmake)

/-! ## Options -/

theorem FaithfulAt.option {found : Option α} (h : ∀ a ∈ found, FaithfulAt floats same a) :
    FaithfulAt (fun found : Option α => found.toList.flatMap floats) (Option.Rel same) found := by
  cases found with
  | none =>
    refine ⟨⟨?_, ?_, ?_⟩, ?_⟩
    · rintro (_ | b) hb
      · exact hb
      · cases hb
    · rintro (_ | b) c hb hc
      · exact hc
      · cases hb
    · simp
    · rintro - (_ | b) - <;> simp
  | some a =>
    have ha := h a rfl
    refine ⟨⟨?_, ?_, ?_⟩, ?_⟩
    · rintro (_ | b) hb
      · cases hb
      · exact ha.symm hb
    · rintro (_ | b) (_ | c) hb hc
      · cases hb
      · cases hb
      · cases hc
      · exact ha.trans hb hc
    · simpa using ha.self_iff
    · rintro hfinite (_ | b) hb
      · simp
      · simpa using ha.iff_same (by simpa using hfinite) b (by simpa using hb)

/-! ## Lists -/

theorem EqualityAt.list {as : List α} (h : ∀ a ∈ as, EqualityAt floats a) :
    EqualityAt (fun as : List α => as.flatMap floats) as := by
  induction as with
  | nil =>
    refine ⟨?_, ?_, ?_⟩
    · rintro (_ | ⟨b, bs⟩) hb
      · exact hb
      · cases hb
    · rintro (_ | ⟨b, bs⟩) cs hb hc
      · exact hc
      · cases hb
    · simp
  | cons a as ih =>
    obtain ⟨ha, has⟩ := List.forall_mem_cons.mp h
    refine ⟨?_, ?_, ?_⟩
    · rintro (_ | ⟨b, bs⟩) hb
      · cases hb
      · rw [List.cons_beq_cons, Bool.and_eq_true] at hb ⊢
        exact ⟨ha.symm hb.1, (ih has).symm hb.2⟩
    · rintro (_ | ⟨b, bs⟩) (_ | ⟨c, cs⟩) hb hc
      · cases hb
      · cases hb
      · cases hc
      · rw [List.cons_beq_cons, Bool.and_eq_true] at hb hc ⊢
        exact ⟨ha.trans hb.1 hc.1, (ih has).trans hb.2 hc.2⟩
    · rw [List.cons_beq_cons, Bool.and_eq_true, ha.self_iff, (ih has).self_iff, List.flatMap_cons,
        List.forall_mem_append]

theorem FaithfulAt.list {as : List α} (h : ∀ a ∈ as, FaithfulAt floats same a) :
    FaithfulAt (fun as : List α => as.flatMap floats) (List.Forall₂ same) as where
  toEqualityAt := EqualityAt.list fun a ha => (h a ha).toEqualityAt
  iff_same := by
    induction as with
    | nil => rintro - (_ | ⟨b, bs⟩) - <;> simp
    | cons a as ih =>
      obtain ⟨ha, has⟩ := List.forall_mem_cons.mp h
      rintro hfinite (_ | ⟨b, bs⟩) hb
      · simp
      · rw [List.flatMap_cons, List.forall_mem_append] at hfinite hb
        rw [List.cons_beq_cons, Bool.and_eq_true, List.forall₂_cons,
          ha.iff_same hfinite.1 b hb.1, ih has hfinite.2 bs hb.2]

/-! ## Pairs -/

theorem FaithfulAt.prod {a : α} {b : β} (ha : FaithfulAt floats same a)
    (hb : FaithfulAt floats' same' b) :
    FaithfulAt (fun p : α × β => floats p.1 ++ floats' p.2)
      (fun p q => same p.1 q.1 ∧ same' p.2 q.2) (a, b) := by
  have hpair (a c : α) (b d : β) : ((a, b) == (c, d)) = true ↔ (a == c) = true ∧ (b == d) = true := by
    rw [← Bool.and_eq_true]
    rfl
  refine ⟨⟨?_, ?_, ?_⟩, ?_⟩
  · rintro ⟨c, d⟩ h
    rw [hpair] at h ⊢
    exact ⟨ha.symm h.1, hb.symm h.2⟩
  · rintro ⟨c, d⟩ ⟨e, f⟩ h h'
    rw [hpair] at h h' ⊢
    exact ⟨ha.trans h.1 h'.1, hb.trans h.2 h'.2⟩
  · rw [hpair, ha.self_iff, hb.self_iff, List.forall_mem_append]
  · rintro hfinite ⟨c, d⟩ hfinite'
    rw [List.forall_mem_append] at hfinite hfinite'
    rw [hpair, ha.iff_same hfinite.1 c hfinite'.1, hb.iff_same hfinite.2 d hfinite'.2]

end SeismicSite
