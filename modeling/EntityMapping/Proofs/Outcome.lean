import Mathlib.Data.List.Forall2

/-! # Outcomes of steps that may fail

Steps taken one after the other succeed when each of them does. A step taken for every element of
a list fails as it fails for the first element that it fails for. Steps that change a state leave
it to the next one, and a failed step leaves it to none.
-/

namespace EntityMapping.Outcome

variable {α β ε ε' : Type}

theorem ok_bind {a : α} {f : α → Except ε β} : .ok a >>= f = f a := rfl

theorem bind_eq_ok_iff {x : Except ε α} {f : α → Except ε β} {b : β} :
    x >>= f = .ok b ↔ ∃ a, x = .ok a ∧ f a = .ok b := by
  cases x <;> simp [bind, Except.bind]

theorem bind_eq_error_iff {x : Except ε α} {f : α → Except ε β} {e : ε} :
    x >>= f = .error e ↔ x = .error e ∨ ∃ a, x = .ok a ∧ f a = .error e := by
  cases x <;> simp [bind, Except.bind]

theorem pure_eq_ok_iff {a b : α} : (pure a : Except ε α) = .ok b ↔ b = a := by
  simp [pure, Except.pure, eq_comm]

theorem map_eq_ok_iff {x : Except ε α} {f : α → β} {b : β} :
    x.map f = .ok b ↔ ∃ a, x = .ok a ∧ f a = b := by
  cases x <;> simp [Except.map]

theorem map_eq_error_iff {x : Except ε α} {f : α → β} {e : ε} :
    x.map f = .error e ↔ x = .error e := by
  cases x <;> simp [Except.map]

theorem mapError_eq_ok_iff {x : Except ε α} {f : ε → ε'} {a : α} :
    x.mapError f = .ok a ↔ x = .ok a := by
  cases x <;> simp [Except.mapError]

theorem mapError_eq_error_iff {x : Except ε α} {f : ε → ε'} {e : ε'} :
    x.mapError f = .error e ↔ ∃ e', x = .error e' ∧ f e' = e := by
  cases x <;> simp [Except.mapError]

theorem mapM_eq_ok_iff {f : α → Except ε β} {as : List α} {bs : List β} :
    as.mapM f = .ok bs ↔ List.Forall₂ (fun a b => f a = .ok b) as bs := by
  induction as generalizing bs with
  | nil => cases bs <;> simp [pure, Except.pure]
  | cons a as ih =>
    simp only [List.mapM_cons, bind_eq_ok_iff, pure_eq_ok_iff, ih]
    constructor
    · rintro ⟨b, hb, bs', hbs, rfl⟩
      exact .cons hb hbs
    · rintro (_ | ⟨hb, hbs⟩)
      exact ⟨_, hb, _, hbs, rfl⟩

theorem mapM_congr {f g : α → Except ε β} {as : List α} (h : ∀ a ∈ as, f a = g a) :
    as.mapM f = as.mapM g := by
  induction as with
  | nil => rfl
  | cons a as ih =>
    obtain ⟨ha, has⟩ := List.forall_mem_cons.mp h
    rw [List.mapM_cons, List.mapM_cons, ha, ih has]

section Traversal

variable {γ : Type} {f : α → Except ε β} {select : β → Option γ} {as : List α} {bs : List β}

theorem exists_of_mem_mapM (h : as.mapM f = .ok bs) {b : β} (hb : b ∈ bs) :
    ∃ a ∈ as, f a = .ok b := by
  induction mapM_eq_ok_iff.mp h with
  | nil => cases hb
  | cons hab hs ih =>
    rcases List.mem_cons.mp hb with rfl | hb
    · exact ⟨_, List.mem_cons_self, hab⟩
    · obtain ⟨a, ha, hab⟩ := ih (mapM_eq_ok_iff.mpr hs) hb
      exact ⟨a, List.mem_cons_of_mem _ ha, hab⟩

theorem exists_ok_of_mapM (h : as.mapM f = .ok bs) {a : α} (ha : a ∈ as) : ∃ b, f a = .ok b := by
  induction mapM_eq_ok_iff.mp h with
  | nil => cases ha
  | cons hab hs ih =>
    rcases List.mem_cons.mp ha with rfl | ha
    · exact ⟨_, hab⟩
    · exact ih (mapM_eq_ok_iff.mpr hs) ha

theorem forall₂_filterMap_of_mapM {R : α → γ → Prop} (h : as.mapM f = .ok bs)
    (hs : ∀ a b, f a = .ok b → ∃ c, select b = some c ∧ R a c) :
    List.Forall₂ R as (bs.filterMap select) := by
  induction mapM_eq_ok_iff.mp h with
  | nil => exact .nil
  | cons hb hbs ih =>
    obtain ⟨c, hc, hr⟩ := hs _ _ hb
    rw [List.filterMap_cons_some hc]
    exact .cons hr (ih (mapM_eq_ok_iff.mpr hbs))

theorem filterMap_eq_of_mapM {f' : α → Except ε β} {bs' : List β} (h : as.mapM f = .ok bs)
    (h' : as.mapM f' = .ok bs')
    (hs : ∀ a b b', f a = .ok b → f' a = .ok b' → select b = select b') :
    bs.filterMap select = bs'.filterMap select := by
  have h' := mapM_eq_ok_iff.mp h'
  induction mapM_eq_ok_iff.mp h generalizing bs' with
  | nil =>
    cases h'
    rfl
  | cons hb hbs ih =>
    obtain _ | ⟨hb', hbs'⟩ := h'
    rw [List.filterMap_cons, List.filterMap_cons, hs _ _ _ hb hb']
    rw [ih (mapM_eq_ok_iff.mpr hbs) (mapM_eq_ok_iff.mpr hbs') hbs']

end Traversal

section Stateful

variable {σ : Type} {x : ExceptT ε (StateM σ) α} {f : α → ExceptT ε (StateM σ) β} {s t : σ} {a : α}
  {b : β} {e : ε}

theorem adapt_apply_eq_ok_iff {g : ε → ε'} : x.adapt g s = (.ok a, t) ↔ x s = (.ok a, t) := by
  change ((x s).1.mapError g, (x s).2) = (.ok a, t) ↔ x s = (.ok a, t)
  rw [Prod.ext_iff, Prod.ext_iff, mapError_eq_ok_iff]

theorem bind_apply_of_ok (h : x s = (.ok a, t)) : (x >>= f) s = f a t := by
  change (ExceptT.bindCont f (x s).1) (x s).2 = f a t
  rw [h]
  rfl

theorem bind_apply_of_error (h : x s = (.error e, t)) : (x >>= f) s = (.error e, t) := by
  change (ExceptT.bindCont f (x s).1) (x s).2 = (.error e, t)
  rw [h]
  rfl

theorem bind_apply_eq_ok_iff :
    (x >>= f) s = (.ok b, t) ↔ ∃ a u, x s = (.ok a, u) ∧ f a u = (.ok b, t) := by
  rcases hx : x s with ⟨e | a, u⟩
  · rw [bind_apply_of_error hx]
    exact iff_of_false nofun fun ⟨_, _, h, _⟩ => nomatch h
  · rw [bind_apply_of_ok hx]
    constructor
    · exact fun h => ⟨a, u, rfl, h⟩
    · rintro ⟨_, _, h, hf⟩
      cases h
      exact hf

/-- Steps that leave the state as it is have the outcome of steps without one. -/
theorem bind_apply_of_unchanged {r : Except ε α} {g : α → Except ε β} (hx : x s = (r, s))
    (hf : ∀ a, f a s = (g a, s)) : (x >>= f) s = (r >>= g, s) := by
  cases r with
  | error e => exact bind_apply_of_error hx
  | ok a => exact (bind_apply_of_ok hx).trans (hf a)

end Stateful

end EntityMapping.Outcome
