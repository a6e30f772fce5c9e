import Mathlib.Data.List.Forall2
import TwigRelations.Collection

/-!
# Related lists and tables

Two computations that are compared step by step go over lists whose values are related one by one.
What tells related values alike tells the lists alike, and tables that are filled with related
values hold related values.
-/

namespace TwigRelations

section lists

variable {α β γ : Type} {R : α → β → Prop} {xs : List α} {ys : List β}

/-- Lists have one image exactly if their members do, one by one. -/
theorem map_eq_map_iff_forall₂ {f : α → γ} {g : β → γ} :
    xs.map f = ys.map g ↔ List.Forall₂ (fun a b => f a = g b) xs ys := by
  rw [← List.forall₂_eq_eq_eq, List.forall₂_map_left_iff, List.forall₂_map_right_iff]

/-- Lists of related values are told alike by what tells related values alike. -/
theorem map_eq_of_forall₂ (h : List.Forall₂ R xs ys) {f : α → γ} {g : β → γ}
    (hfg : ∀ a b, R a b → f a = g b) : xs.map f = ys.map g :=
  map_eq_map_iff_forall₂.mpr (h.imp hfg)

/-- Related lists are taken apart alike where related members are. -/
theorem flatMap_eq_of_forall₂ (h : List.Forall₂ R xs ys) {f : α → List γ} {g : β → List γ}
    (hfg : ∀ a b, R a b → f a = g b) : xs.flatMap f = ys.flatMap g := by
  rw [List.flatMap_def, map_eq_of_forall₂ h hfg, ← List.flatMap_def]

theorem both_of_forall₂ {S : α → β → Prop} (h : List.Forall₂ R xs ys) (h' : List.Forall₂ S xs ys) :
    List.Forall₂ (fun a b => R a b ∧ S a b) xs ys := by
  induction h with
  | nil => exact .nil
  | cons hab _ ih =>
    cases h' with
    | cons hab' hrest => exact .cons ⟨hab, hab'⟩ (ih hrest)

/-- What is looked for alike in lists of related values is found as related values. -/
theorem find?_of_forall₂ (h : List.Forall₂ R xs ys) {p : α → Bool} {q : β → Bool}
    (hpq : ∀ a b, R a b → p a = q b) : Option.Rel R (xs.find? p) (ys.find? q) := by
  induction h with
  | nil => exact .none
  | cons hab hrest ih =>
    rw [List.find?_cons, List.find?_cons, hpq _ _ hab]
    split
    · exact .some hab
    · exact ih

theorem rel_cases {a : Option α} {b : Option β} (h : Option.Rel R a b) :
    (a = none ∧ b = none) ∨ ∃ x y, a = some x ∧ b = some y ∧ R x y := by
  cases h with
  | none => exact .inl ⟨rfl, rfl⟩
  | some hxy => exact .inr ⟨_, _, rfl, rfl, hxy⟩

end lists

namespace Table

variable {α γ δ κ : Type} [Identified α κ] [DecidableEq κ] {R : γ → δ → Prop} {t : Table α γ}
  {t' : Table α δ}

/-- Two rows of tables have one key and related values. -/
def RowAlike (R : γ → δ → Prop) (row : α × γ) (row' : α × δ) : Prop :=
  row.1 = row'.1 ∧ R row.2 row'.2

/-- Putting related values into tables of related values keeps the values related. -/
theorem forall₂_put {b : γ} {b' : δ} (h : List.Forall₂ (RowAlike R) t t') (a : α) (hb : R b b') :
    List.Forall₂ (RowAlike R) (put t a b) (put t' a b') := by
  unfold put
  induction h with
  | nil => exact .cons ⟨rfl, hb⟩ .nil
  | cons hrow hrest ih =>
    rw [alter, alter, hrow.1]
    split
    · exact .cons ⟨rfl, hb⟩ hrest
    · exact .cons hrow ih

/-- A key has related values in tables of related values. -/
theorem get?_of_forall₂ (h : List.Forall₂ (RowAlike R) t t') (a : α) :
    Option.Rel R (get? t a) (get? t' a) := by
  have hrow : Option.Rel (RowAlike R) (row? t a) (row? t' a) :=
    find?_of_forall₂ h fun _ _ hrow => by rw [hrow.1]
  rw [get?, get?]
  rcases rel_cases hrow with ⟨hnone, hnone'⟩ | ⟨row, row', hsome, hsome', halike⟩
  · rw [hnone, hnone']
    exact .none
  · rw [hsome, hsome']
    exact .some halike.2

end Table

end TwigRelations
