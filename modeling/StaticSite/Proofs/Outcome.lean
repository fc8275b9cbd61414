import Mathlib.Data.List.Forall2
import StaticSite.Noted

/-!
# Outcomes of work

Work in steps succeeds if every step does, and fails if the first step fails or a later one does
after it. Work on every item of a list succeeds if the work on each item does.

## What this module delivers

- `bind_eq_ok_iff`: two steps that may fail.
- `mapM_eq_ok_iff`, `mapM_eq_error`: work on every item that may fail.
- `Report.outcome_bind_eq_ok`, `Report.outcome_bind_eq_error`: two steps that are reported.
- `Report.outcome_mapM_eq_ok`, `Report.outcome_mapM_eq_error`: work on every item.
-/

set_option autoImplicit false

namespace StaticSite

theorem bind_eq_ok_iff {ε α β : Type} {x : Except ε α} {f : α → Except ε β} {b : β} :
    (x >>= f) = .ok b ↔ ∃ a, x = .ok a ∧ f a = .ok b := by
  cases x with
  | error e =>
      constructor
      · intro h
        cases h
      · rintro ⟨a, ha, -⟩
        cases ha
  | ok a =>
      constructor
      · intro h
        exact ⟨a, rfl, h⟩
      · rintro ⟨a', ha, h⟩
        cases ha
        exact h

theorem mapError_eq_ok_iff {ε ε' α : Type} {x : Except ε α} {f : ε → ε'} {a : α} :
    x.mapError f = .ok a ↔ x = .ok a := by
  cases x with
  | ok b =>
      constructor
      · intro h
        cases h
        rfl
      · intro h
        cases h
        rfl
  | error e =>
      constructor
      · intro h
        cases h
      · intro h
        cases h

/-- Work on every item gives results if the work on each gives one. -/
theorem mapM_eq_ok_iff {ε α β : Type} {f : α → Except ε β} {items : List α} {results : List β} :
    items.mapM f = .ok results ↔
      List.Forall₂ (fun item result => f item = .ok result) items results := by
  induction items generalizing results with
  | nil =>
      rw [List.mapM_nil, List.forall₂_nil_left_iff, eq_comm]
      exact Except.ok.injEq results [] ▸ Iff.rfl
  | cons item rest ih =>
      rw [List.mapM_cons, bind_eq_ok_iff, List.forall₂_cons_left_iff]
      constructor
      · rintro ⟨result, hitem, hrest⟩
        obtain ⟨others, hothers, hpure⟩ := bind_eq_ok_iff.mp hrest
        exact ⟨result, others, hitem, ih.mp hothers, (Except.ok.inj hpure).symm⟩
      · rintro ⟨result, others, hitem, hothers, rfl⟩
        exact ⟨result, hitem, bind_eq_ok_iff.mpr ⟨others, ih.mpr hothers, rfl⟩⟩

/-- If work on every item fails, the work on one of them does. -/
theorem mapM_eq_error {ε α β : Type} {f : α → Except ε β} {items : List α} {e : ε}
    (h : items.mapM f = .error e) : ∃ item ∈ items, f item = .error e := by
  induction items with
  | nil => cases h
  | cons item rest ih =>
      rw [List.mapM_cons] at h
      cases hitem : f item with
      | error found =>
          rw [hitem] at h
          cases h
          exact ⟨item, List.mem_cons_self, hitem⟩
      | ok result =>
          rw [hitem] at h
          cases hrest : rest.mapM f with
          | error found =>
              rw [hrest] at h
              cases h
              obtain ⟨other, hother, hfails⟩ := ih hrest
              exact ⟨other, List.mem_cons_of_mem item hother, hfails⟩
          | ok others =>
              rw [hrest] at h
              cases h

namespace Noted

variable {ν : Type}

/-- Notes stay in order however the work is put together. -/
instance : LawfulMonad (Noted ν) :=
  LawfulMonad.mk' (Noted ν)
    (fun x => by
      show Noted.mk x.value (x.notes ++ []) = x
      rw [List.append_nil])
    (fun _ _ => rfl)
    (fun x f g => by
      show Noted.mk _ ((x.notes ++ _) ++ _) = Noted.mk _ (x.notes ++ (_ ++ _))
      rw [List.append_assoc]
      rfl)

end Noted

namespace Report

variable {ν ε α β : Type}

@[simp] theorem outcome_functor_map (f : α → β) (x : Report ν ε α) :
    (f <$> x).outcome = x.outcome.map f := by
  rw [← bind_pure_comp, outcome_bind]
  cases x.outcome with
  | ok a => rfl
  | error e => rfl

theorem outcome_bind_eq_ok {x : Report ν ε α} {f : α → Report ν ε β} {b : β} :
    (x >>= f).outcome = .ok b ↔ ∃ a, x.outcome = .ok a ∧ (f a).outcome = .ok b := by
  rw [outcome_bind]
  cases x.outcome with
  | ok a => simp [Except.bind]
  | error e => simp [Except.bind]

theorem outcome_bind_eq_error {x : Report ν ε α} {f : α → Report ν ε β} {e : ε} :
    (x >>= f).outcome = .error e ↔
      x.outcome = .error e ∨ ∃ a, x.outcome = .ok a ∧ (f a).outcome = .error e := by
  rw [outcome_bind]
  cases x.outcome with
  | ok a => simp [Except.bind]
  | error e => simp [Except.bind]

theorem outcome_pure_eq_ok {a b : α} : (pure a : Report ν ε α).outcome = .ok b ↔ a = b := by
  rw [outcome_pure, Except.ok.injEq]

/-- Work on every item succeeds if the work on each does. -/
theorem outcome_mapM_eq_ok {f : α → Report ν ε β} {items : List α} :
    ∀ {results : List β}, (items.mapM f).outcome = .ok results ↔
      List.Forall₂ (fun item result => (f item).outcome = .ok result) items results := by
  induction items with
  | nil =>
      intro results
      rw [List.mapM_nil, outcome_pure_eq_ok, List.forall₂_nil_left_iff, eq_comm]
  | cons item rest ih =>
      intro results
      rw [List.mapM_cons, outcome_bind_eq_ok, List.forall₂_cons_left_iff]
      constructor
      · rintro ⟨result, hitem, hrest⟩
        obtain ⟨others, hothers, hpure⟩ := outcome_bind_eq_ok.mp hrest
        exact ⟨result, others, hitem, ih.mp hothers, (outcome_pure_eq_ok.mp hpure).symm⟩
      · rintro ⟨result, others, hitem, hothers, rfl⟩
        refine ⟨result, hitem, outcome_bind_eq_ok.mpr ⟨others, ih.mpr hothers, ?_⟩⟩
        exact outcome_pure_eq_ok.mpr rfl

/-- If work on every item fails, the work on one of them does. -/
theorem outcome_mapM_eq_error {f : α → Report ν ε β} {items : List α} {e : ε}
    (h : (items.mapM f).outcome = .error e) : ∃ item ∈ items, (f item).outcome = .error e := by
  induction items with
  | nil => exact absurd h (by simp)
  | cons item rest ih =>
      rw [List.mapM_cons, outcome_bind_eq_error] at h
      rcases h with hitem | ⟨result, -, h⟩
      · exact ⟨item, List.mem_cons_self, hitem⟩
      · rcases outcome_bind_eq_error.mp h with hrest | ⟨others, -, hpure⟩
        · obtain ⟨other, hother, hfails⟩ := ih hrest
          exact ⟨other, List.mem_cons_of_mem item hother, hfails⟩
        · exact absurd hpure (by simp)

end Report

end StaticSite
