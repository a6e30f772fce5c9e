/-!
# Collections without repeats

Values of several types are told apart by an identity that need not see the whole value: a name by
its key, a template by the components of its path, an action by its id. A collection without repeats
is a list that keeps the first of several values with one identity, in the order they were first
seen.
-/

namespace TwigRelations

/-- A type whose values are told apart by an identity of type `κ`. -/
class Identified (α : Type) (κ : outParam Type) where
  /-- What two values must share to count as one. -/
  identity : α → κ

export Identified (identity)

section

variable {α κ : Type} [Identified α κ] [DecidableEq κ]

/-- Whether two values count as one. -/
def same (a b : α) : Bool := decide (identity a = identity b)

/-- Two values count as one exactly if they share their identity. -/
@[simp] theorem same_iff {a b : α} : same a b = true ↔ identity a = identity b := by
  simp [same]

theorem same_eq_false_iff {a b : α} : same a b = false ↔ identity a ≠ identity b := by
  simp [same]

theorem same_refl (a : α) : same a a = true := by simp

namespace Distinct

/-- Whether a list holds a value with the identity of `a`. -/
def holds (xs : List α) (a : α) : Bool := xs.any (same a)

/-- Adds a value at the end, unless the list holds it already. -/
def insert (xs : List α) (a : α) : List α := if holds xs a then xs else xs ++ [a]

/-- Adds the values of a second list one by one. -/
def union (xs ys : List α) : List α := ys.foldl insert xs

/-- The first of each group of values with one identity. -/
def ofList (xs : List α) : List α := union [] xs

/-- No two values of a list at different places have one identity. -/
def NoRepeat (xs : List α) : Prop := (xs.map identity).Nodup

/-- A list holds a value exactly if it lists its identity. -/
theorem holds_iff {xs : List α} {a : α} : holds xs a = true ↔ identity a ∈ xs.map identity := by
  simp only [holds, List.any_eq_true, same_iff, List.mem_map]
  exact exists_congr fun x => and_congr_right fun _ => eq_comm

/-- Inserting adds exactly one identity to those of the list. -/
theorem mem_identity_insert {xs : List α} {a : α} {k : κ} :
    k ∈ (insert xs a).map identity ↔ k ∈ xs.map identity ∨ k = identity a := by
  unfold insert
  split
  · rename_i h
    rw [holds_iff] at h
    constructor
    · exact Or.inl
    · rintro (hk | rfl) <;> assumption
  · simp

/-- Inserting brings no repeat. -/
theorem noRepeat_insert {xs : List α} (h : NoRepeat xs) (a : α) : NoRepeat (insert xs a) := by
  unfold insert
  split
  · exact h
  · rename_i hh
    rw [holds_iff] at hh
    unfold NoRepeat at *
    rw [List.map_append, List.nodup_append]
    refine ⟨h, by simp, ?_⟩
    intro k hk k' hk' he
    simp only [List.map_cons, List.map_nil, List.mem_singleton] at hk'
    exact hh (hk' ▸ he ▸ hk)

/-- A union has the identities of both lists. -/
theorem mem_identity_union {xs ys : List α} {k : κ} :
    k ∈ (union xs ys).map identity ↔ k ∈ xs.map identity ∨ k ∈ ys.map identity := by
  unfold union
  induction ys generalizing xs with
  | nil => simp
  | cons y ys ih =>
    rw [List.foldl_cons, ih, mem_identity_insert, List.map_cons, List.mem_cons, or_assoc]

/-- A union repeats nothing that its first list does not repeat. -/
theorem noRepeat_union {xs : List α} (h : NoRepeat xs) (ys : List α) : NoRepeat (union xs ys) := by
  unfold union
  induction ys generalizing xs with
  | nil => exact h
  | cons y ys ih => exact ih (noRepeat_insert h y)

/-- What is collected has no repeats. -/
theorem noRepeat_ofList (xs : List α) : NoRepeat (ofList xs) :=
  noRepeat_union (by simp [NoRepeat]) xs

end Distinct

end

/-! ## Tables in first-seen order

A table assigns values to keys that are told apart by their identity. Its rows stand in the order in
which their keys were first seen, and a key keeps the spelling of its first occurrence.
-/

/-- The rows of a table, in first-seen order. -/
abbrev Table (α β : Type) := List (α × β)

namespace Table

variable {α β κ : Type} [Identified α κ] [DecidableEq κ]

/-- The row of a key. -/
def row? (t : Table α β) (a : α) : Option (α × β) := t.find? fun r => same a r.1

/-- The value of a key. -/
def get? (t : Table α β) (a : α) : Option β := (row? t a).map (·.2)

/-- Replaces the value of a key, or adds a row at the end for a key not yet seen. -/
def alter (f : Option β → β) (a : α) : Table α β → Table α β
  | [] => [(a, f none)]
  | r :: rest => if same a r.1 then (r.1, f (some r.2)) :: rest else r :: alter f a rest

/-- Sets the value of a key. -/
def put (t : Table α β) (a : α) (b : β) : Table α β := alter (fun _ => b) a t

/-- The keys as first spelled, in first-seen order. -/
def keys (t : Table α β) : List α := t.map (·.1)

/-- Altering adds the key at the end exactly when it was not there. -/
theorem keys_alter (f : Option β → β) (a : α) (t : Table α β) :
    keys (alter f a t) = Distinct.insert (keys t) a := by
  induction t with
  | nil => rfl
  | cons r rest ih =>
    unfold alter
    cases h : same a r.1 with
    | true => simp [keys, Distinct.insert, Distinct.holds, h]
    | false =>
      unfold keys Distinct.insert Distinct.holds at *
      simp only [Bool.false_eq_true, if_false, List.map_cons, List.any_cons, h, Bool.false_or, ih]
      split <;> rfl

/-- A key reads back what was written for it. -/
theorem get?_alter_self (f : Option β → β) {a b : α} (h : identity b = identity a)
    (t : Table α β) : get? (alter f a t) b = some (f (get? t a)) := by
  induction t with
  | nil => simp [alter, get?, row?, h]
  | cons r rest ih =>
    unfold alter
    have hb : same b r.1 = same a r.1 := by simp [same, h]
    unfold get? row? at *
    cases hr : same a r.1 with
    | true => simp [hb, hr]
    | false => simp [hb, hr, ih]

/-- A key with another identity does not see the change. -/
theorem get?_alter_of_ne (f : Option β → β) {a b : α} (h : identity b ≠ identity a)
    (t : Table α β) : get? (alter f a t) b = get? t b := by
  induction t with
  | nil => simp [alter, get?, row?, h]
  | cons r rest ih =>
    unfold alter
    unfold get? row? at *
    cases hr : same a r.1 with
    | true =>
      have hb : same b r.1 = false := by
        rw [same_iff] at hr
        rwa [same_eq_false_iff, ← hr]
      simp [hb]
    | false => cases hb : same b r.1 <;> simp [hb, ih]

end Table

end TwigRelations
