/-!
# Steps that may fail

Readers and calls on a host are sequences of steps that thread a state and stop at the first
failure; encoders are sequences of steps without a state. A sequence succeeded exactly when each
of its steps did, which is how the proofs about both take sequences apart.
-/

namespace StructVault.Steps

universe u

variable {ε σ α β : Type u}

/-- A sequence of two steps gives a value exactly when both steps do. -/
theorem bind_eq_ok {x : EStateM ε σ α} {f : α → EStateM ε σ β} {s t : σ} {b : β} :
    (x >>= f) s = .ok b t ↔ ∃ a r, x s = .ok a r ∧ f a r = .ok b t := by
  show EStateM.bind x f s = .ok b t ↔ _
  unfold EStateM.bind
  cases x s with
  | ok a r =>
    constructor
    · intro h
      exact ⟨a, r, rfl, h⟩
    · rintro ⟨a', r', ha, h⟩
      cases ha
      exact h
  | error e r => simp

/-- A sequence of two steps fails where the first step does, or where the second does behind it. -/
theorem bind_eq_error {x : EStateM ε σ α} {f : α → EStateM ε σ β} {s t : σ} {e : ε} :
    (x >>= f) s = .error e t ↔
      x s = .error e t ∨ ∃ a r, x s = .ok a r ∧ f a r = .error e t := by
  show EStateM.bind x f s = .error e t ↔ _
  unfold EStateM.bind
  cases x s with
  | ok a r =>
    constructor
    · intro h
      exact Or.inr ⟨a, r, rfl, h⟩
    · rintro (h | ⟨a', r', ha, h⟩)
      · cases h
      · cases ha
        exact h
  | error e' r => simp

/-- The first of two steps gives its value and state to the second. -/
theorem bind_of_ok {x : EStateM ε σ α} {f : α → EStateM ε σ β} {s r : σ} {a : α}
    (h : x s = .ok a r) : (x >>= f) s = f a r := by
  show EStateM.bind x f s = _
  simp only [EStateM.bind, h]

/-- What is made of the value of a step is made exactly when the step gives one. -/
theorem map_eq_ok {x : EStateM ε σ α} {f : α → β} {s t : σ} {b : β} :
    (f <$> x) s = .ok b t ↔ ∃ a, x s = .ok a t ∧ b = f a := by
  show EStateM.map f x s = .ok b t ↔ _
  unfold EStateM.map
  cases x s with
  | ok a r =>
    constructor
    · intro h
      cases h
      exact ⟨a, rfl, rfl⟩
    · rintro ⟨a', ha, rfl⟩
      cases ha
      rfl
  | error e r => simp

theorem map_eq_error {x : EStateM ε σ α} {f : α → β} {s t : σ} {e : ε} :
    (f <$> x) s = .error e t ↔ x s = .error e t := by
  show EStateM.map f x s = .error e t ↔ _
  unfold EStateM.map
  cases x s with
  | ok a r => simp
  | error e' r => simp

/-- An attempt after another gives a value exactly when both do. -/
theorem attempt_bind_eq_ok {x : Except ε α} {f : α → Except ε β} {b : β} :
    (x >>= f) = .ok b ↔ ∃ a, x = .ok a ∧ f a = .ok b := by
  cases x with
  | ok a =>
    show f a = .ok b ↔ _
    simp
  | error e =>
    show Except.error e = .ok b ↔ _
    simp

/-- An attempt after another fails where either does. -/
theorem attempt_bind_eq_error {x : Except ε α} {f : α → Except ε β} {e : ε} :
    (x >>= f) = .error e ↔ x = .error e ∨ ∃ a, x = .ok a ∧ f a = .error e := by
  cases x with
  | ok a =>
    show f a = .error e ↔ _
    simp
  | error e' =>
    show Except.error e' = .error e ↔ _
    simp

/-- Other words for an error do not change what succeeds. -/
theorem mapError_eq_ok {ε' : Type u} {f : ε → ε'} {x : Except ε α} {a : α} :
    x.mapError f = .ok a ↔ x = .ok a := by
  cases x with
  | ok a' =>
    show Except.ok a' = .ok a ↔ _
    simp
  | error e =>
    show Except.error (f e) = .ok a ↔ _
    simp

/-- Success told by the value alone, which can be decided where errors cannot be compared. -/
theorem attempt_eq_ok_iff {x : Except ε α} {a : α} : x = .ok a ↔ x.toOption = some a := by
  cases x with
  | ok a' => simp [Except.toOption]
  | error e => simp [Except.toOption]

/-! ## Invariants of a run -/

/-- Steps that start where `inv` holds leave it in force behind a value, and end in a failure only
where `failure` tells of it. -/
structure Keeps (inv : σ → Prop) (failure : ε → σ → Prop) (x : EStateM ε σ α) : Prop where
  ok : ∀ {s r : σ} {a : α}, inv s → x s = .ok a r → inv r
  error : ∀ {s r : σ} {e : ε}, inv s → x s = .error e r → failure e r

section Keeps

variable {inv : σ → Prop} {failure : ε → σ → Prop}

theorem Keeps.pure (a : α) : Keeps inv failure (Pure.pure a) where
  ok hs h := by
    cases h
    exact hs
  error _ h := by cases h

theorem Keeps.bind {x : EStateM ε σ α} {f : α → EStateM ε σ β} (hx : Keeps inv failure x)
    (hf : ∀ a, Keeps inv failure (f a)) : Keeps inv failure (x >>= f) where
  ok hs h := by
    obtain ⟨a, r, h₁, h₂⟩ := bind_eq_ok.mp h
    exact (hf a).ok (hx.ok hs h₁) h₂
  error hs h := by
    rcases bind_eq_error.mp h with h₁ | ⟨a, r, h₁, h₂⟩
    · exact hx.error hs h₁
    · exact (hf a).error (hx.ok hs h₁) h₂

theorem Keeps.get : Keeps inv failure (get : EStateM ε σ σ) where
  ok hs h := by
    cases h
    exact hs
  error _ h := by cases h

theorem Keeps.throw {e : ε} (he : ∀ s, inv s → failure e s) :
    Keeps inv failure (throw e : EStateM ε σ α) where
  ok _ h := by cases h
  error hs h := by
    cases h
    exact he _ hs

theorem Keeps.map {x : EStateM ε σ α} (hx : Keeps inv failure x) (f : α → β) :
    Keeps inv failure (f <$> x) := by
  rw [← bind_pure_comp]
  exact hx.bind fun a => Keeps.pure (f a)

end Keeps

/-! ## Two runs side by side -/

/-- From states related by `R` the second run follows the first: it gives every value the first
one gives, in a related state, and meets every failure the first one meets if that is `kept`. -/
structure Simulates (R : σ → σ → Prop) (kept : ε → Prop) (x y : EStateM ε σ α) : Prop where
  ok : ∀ {s t s' : σ} {a : α}, R s t → x s = .ok a s' → ∃ t', y t = .ok a t' ∧ R s' t'
  error : ∀ {s t s' : σ} {e : ε}, R s t → x s = .error e s' → kept e → ∃ t', y t = .error e t'

section Simulates

variable {R : σ → σ → Prop} {kept : ε → Prop}

theorem Simulates.pure (a : α) : Simulates R kept (Pure.pure a) (Pure.pure a) where
  ok {_ t _ _} hst h := by
    cases h
    exact ⟨t, rfl, hst⟩
  error _ h := by cases h

theorem Simulates.throw (e : ε) :
    Simulates R kept (throw e : EStateM ε σ α) (throw e : EStateM ε σ α) where
  ok _ h := by cases h
  error {_ t _ _} _ h _ := by
    cases h
    exact ⟨t, rfl⟩

theorem Simulates.bind {x y : EStateM ε σ α} {f g : α → EStateM ε σ β}
    (hxy : Simulates R kept x y) (hfg : ∀ a, Simulates R kept (f a) (g a)) :
    Simulates R kept (x >>= f) (y >>= g) where
  ok hst h := by
    obtain ⟨a, r, h₁, h₂⟩ := bind_eq_ok.mp h
    obtain ⟨r', h₁', hr⟩ := hxy.ok hst h₁
    obtain ⟨t', h₂', ht⟩ := (hfg a).ok hr h₂
    exact ⟨t', bind_eq_ok.mpr ⟨a, r', h₁', h₂'⟩, ht⟩
  error hst h hkept := by
    rcases bind_eq_error.mp h with h₁ | ⟨a, r, h₁, h₂⟩
    · obtain ⟨t', h₁'⟩ := hxy.error hst h₁ hkept
      exact ⟨t', bind_eq_error.mpr (Or.inl h₁')⟩
    · obtain ⟨r', h₁', hr⟩ := hxy.ok hst h₁
      obtain ⟨t', h₂'⟩ := (hfg a).error hr h₂ hkept
      exact ⟨t', bind_eq_error.mpr (Or.inr ⟨a, r', h₁', h₂'⟩)⟩

end Simulates

end StructVault.Steps
