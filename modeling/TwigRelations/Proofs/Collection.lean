import Mathlib.Data.List.Nodup
import TwigRelations.Collection

/-!
# What lists without repeats and tables hold

Membership up to identity, for each operation on lists without repeats, and what a table lists for a
key after it was filled entry by entry.
-/

namespace TwigRelations

/-- Sorting by an order puts a list in that order. -/
theorem pairwise_mergeSort_isLE {α : Type} (cmp : α → α → Ordering) [Std.TransCmp cmp]
    (xs : List α) : (xs.mergeSort fun a b => (cmp a b).isLE).Pairwise fun a b =>
      (cmp a b).isLE = true := by
  refine List.pairwise_mergeSort (fun a b c => Std.TransCmp.isLE_trans) (fun a b => ?_) xs
  have hswap : cmp b a = (cmp a b).swap := Std.OrientedCmp.eq_swap
  rw [Bool.or_eq_true, hswap]
  cases cmp a b <;> decide

/-- No value comes both before and after another one, so that the list of some values in strict order
is told by which values they are. -/
instance asymm_compare_lt {α : Type} [Ord α] [Std.TransOrd α] :
    Std.Asymm fun a b : α => compare a b = .lt := ⟨fun _ _ => Std.OrientedCmp.not_lt_of_lt⟩

namespace Distinct

variable {α β κ : Type} [Identified α κ] [DecidableEq κ] {xs ys : List α} {a b : α}

theorem holds_iff_exists : holds xs a = true ↔ ∃ x ∈ xs, identity x = identity a := by
  rw [holds_iff, List.mem_map]

theorem holds_of_mem (h : a ∈ xs) : holds xs a = true := holds_iff_exists.mpr ⟨a, h, rfl⟩

/-- Whether a list holds a value is told by the identity of the value. -/
theorem holds_congr (h : identity a = identity b) (xs : List α) : holds xs a = holds xs b := by
  have hsame : same a = same b := funext fun x => by simp only [same, h]
  rw [holds, hsame, holds]

/-- What a value of a list has, a value that the list holds has, where it is told by identity. -/
theorem exists_mem_iff_exists_holds {p : α → Prop}
    (hp : ∀ {a b : α}, identity a = identity b → p a → p b) :
    (∃ a ∈ xs, p a) ↔ ∃ a, holds xs a = true ∧ p a := by
  constructor
  · rintro ⟨a, ha, hpa⟩
    exact ⟨a, holds_of_mem ha, hpa⟩
  · rintro ⟨a, ha, hpa⟩
    obtain ⟨x, hx, hsame⟩ := holds_iff_exists.mp ha
    exact ⟨x, hx, hp hsame.symm hpa⟩

theorem holds_perm (h : xs.Perm ys) (a : α) : holds xs a = holds ys a := h.any_eq

theorem holds_insert :
    holds (insert xs b) a = true ↔ holds xs a = true ∨ identity a = identity b := by
  rw [holds_iff, mem_identity_insert, holds_iff]

/-- A union holds what either list holds. -/
theorem holds_union : holds (union xs ys) a = true ↔ holds xs a = true ∨ holds ys a = true := by
  rw [holds_iff, mem_identity_union, holds_iff, holds_iff]

theorem holds_append : holds (xs ++ ys) a = true ↔ holds xs a = true ∨ holds ys a = true := by
  rw [holds, List.any_append, Bool.or_eq_true, ← holds, ← holds]

/-- Dropping repeats loses no identity. -/
theorem holds_ofList : holds (ofList xs) a = true ↔ holds xs a = true := by
  rw [ofList, holds_union]
  simp [holds]

/-- What is kept because it differs from a value is held if it differs and was held before. -/
theorem holds_filter_not_same :
    holds (xs.filter (!same · b)) a = true ↔ identity a ≠ identity b ∧ holds xs a = true := by
  simp only [holds_iff_exists, List.mem_filter, Bool.not_eq_true', same_eq_false_iff]
  constructor
  · rintro ⟨x, ⟨hx, hne⟩, hsame⟩
    exact ⟨hsame ▸ hne, x, hx, hsame⟩
  · rintro ⟨hne, x, hx, hsame⟩
    exact ⟨x, ⟨hx, hsame.symm ▸ hne⟩, hsame⟩

theorem holds_flatMap {bs : List β} {f : β → List α} :
    holds (bs.flatMap f) a = true ↔ ∃ b ∈ bs, holds (f b) a = true := by
  rw [holds, List.any_flatMap, List.any_eq_true]
  rfl

/-- Uniting adds nothing that was in neither list. -/
theorem mem_union (h : a ∈ union xs ys) : a ∈ xs ∨ a ∈ ys := by
  unfold union at h
  induction ys generalizing xs with
  | nil => exact .inl h
  | cons y ys ih =>
    rcases ih h with h | h
    · unfold insert at h
      split at h
      · exact .inl h
      · rcases List.mem_append.mp h with h | h
        · exact .inl h
        · exact .inr (List.mem_singleton.mp h ▸ List.mem_cons_self)
    · exact .inr (List.mem_cons_of_mem _ h)

theorem mem_of_mem_ofList (h : a ∈ ofList xs) : a ∈ xs := by
  rcases mem_union h with h | h
  · contradiction
  · exact h

theorem union_append (xs ys zs : List α) : union xs (ys ++ zs) = union (union xs ys) zs :=
  List.foldl_append

/-- Uniting lists one after the other is uniting all that is in them. -/
theorem foldl_union (f : β → List α) (xs : List α) (bs : List β) :
    bs.foldl (fun found b => union found (f b)) xs = union xs (bs.flatMap f) := by
  induction bs generalizing xs with
  | nil => rfl
  | cons b bs ih => rw [List.foldl_cons, ih, List.flatMap_cons, union_append]

/-- Uniting keeps all values of a second list that together with the first has no repeats. -/
theorem union_eq_append (h : NoRepeat (xs ++ ys)) : union xs ys = xs ++ ys := by
  unfold union
  induction ys generalizing xs with
  | nil => simp
  | cons y ys ih =>
    have hnew : holds xs y = false := by
      rw [Bool.eq_false_iff, ne_eq, holds_iff]
      rw [NoRepeat, List.map_append, List.nodup_append] at h
      exact fun hold => h.2.2 _ hold _ (by simp) rfl
    have hinsert : insert xs y = xs ++ [y] := by
      rw [insert, hnew]
      rfl
    rw [List.foldl_cons, hinsert, ih, List.append_assoc]
    · rfl
    · rwa [List.append_assoc]

/-- A list without repeats is collected as it is. -/
theorem ofList_eq_self (h : NoRepeat xs) : ofList xs = xs := by
  have hunion : union [] xs = [] ++ xs := union_eq_append h
  exact hunion

/-- Lists without repeats that hold the same are in another order at most, where values of one
identity are one. -/
theorem perm_of_holds (hxs : NoRepeat xs) (hys : NoRepeat ys)
    (hone : ∀ x ∈ xs, ∀ y ∈ ys, identity x = identity y → x = y)
    (h : ∀ a, holds xs a = true ↔ holds ys a = true) : xs.Perm ys := by
  rw [List.perm_ext_iff_of_nodup (List.Nodup.of_map identity hxs) (List.Nodup.of_map identity hys)]
  intro a
  constructor
  · intro ha
    obtain ⟨y, hy, hsame⟩ := holds_iff_exists.mp ((h a).mp (holds_of_mem ha))
    rwa [hone a ha y hy hsame.symm]
  · intro ha
    obtain ⟨x, hx, hsame⟩ := holds_iff_exists.mp ((h a).mpr (holds_of_mem ha))
    rwa [← hone x hx a ha hsame]

/-- Values of a list that count as one are one. -/
def SpelledOnce (xs : List α) : Prop := ∀ x ∈ xs, ∀ y ∈ xs, identity x = identity y → x = y

/-- Where values that count as one are one, a list in another order has the same values, in another
order at most. -/
theorem perm_ofList (hone : SpelledOnce xs) (h : xs.Perm ys) : (ofList xs).Perm (ofList ys) := by
  refine perm_of_holds (noRepeat_ofList xs) (noRepeat_ofList ys) ?_ fun a => ?_
  · intro x hx y hy
    exact hone x (mem_of_mem_ofList hx) y (h.mem_iff.mpr (mem_of_mem_ofList hy))
  · rw [holds_ofList, holds_ofList, holds_perm h]

/-- A value that the list holds is not inserted again. -/
theorem insert_of_holds (h : holds xs a = true) : insert xs a = xs := if_pos h

/-- Adding a value again and again adds it once. -/
theorem union_of_forall_eq (hne : ys ≠ []) (h : ∀ y ∈ ys, y = a) : union xs ys = insert xs a := by
  obtain ⟨y, rest, rfl⟩ := List.exists_cons_of_ne_nil hne
  obtain rfl := h y List.mem_cons_self
  have hrest (rest : List α) (hrest : ∀ z ∈ rest, z = y) :
      union (insert xs y) rest = insert xs y := by
    induction rest with
    | nil => rfl
    | cons z rest ih =>
      obtain rfl := hrest z List.mem_cons_self
      have hheld : holds (insert xs z) z = true := holds_insert.mpr (.inr rfl)
      rw [union, List.foldl_cons, insert_of_holds hheld]
      exact ih fun w hw => hrest w (List.mem_cons_of_mem _ hw)
  exact hrest rest fun z hz => h z (List.mem_cons_of_mem _ hz)

/-- Repeating each value of a list in its place adds nothing to a union. -/
theorem union_flatMap {f : α → List α} (hne : ∀ x, f x ≠ []) (h : ∀ x, ∀ y ∈ f x, y = x)
    (xs ys : List α) : union xs (ys.flatMap f) = union xs ys := by
  induction ys generalizing xs with
  | nil => rfl
  | cons y rest ih =>
    rw [List.flatMap_cons, union_append, union_of_forall_eq (hne y) (h y), ih]
    rfl

theorem isEmpty_ofList (xs : List α) : (ofList xs).isEmpty = xs.isEmpty := by
  cases xs with
  | nil => rfl
  | cons x xs =>
    have hx : holds (ofList (x :: xs)) x = true :=
      holds_ofList.mpr (holds_of_mem List.mem_cons_self)
    rw [List.isEmpty_cons, List.isEmpty_eq_false_iff]
    intro he
    simp [he, holds] at hx

end Distinct

namespace Table

variable {α β γ κ ι : Type} [Identified α κ] [DecidableEq κ] [Identified β ι] [DecidableEq ι]

/-- Keys of one identity have one value. -/
theorem get?_congr {a b : α} (h : identity a = identity b) (t : Table α γ) :
    get? t a = get? t b := by
  simp [get?, row?, same, h]

theorem get?_map {δ : Type} (f : γ → δ) (t : Table α γ) (a : α) :
    get? (t.map fun r => (r.1, f r.2)) a = (get? t a).map f := by
  induction t with
  | nil => rfl
  | cons r rest ih =>
    unfold get? row? at *
    cases h : same a r.1 with
    | true => simp [h]
    | false => simpa [h] using ih

/-- Setting the value of a key and then changing all values is the same as changing them first. -/
theorem put_map {δ : Type} (f : γ → δ) (a : α) (b : γ) (t : Table α γ) :
    put (t.map fun r => (r.1, f r.2)) a (f b) = (put t a b).map fun r => (r.1, f r.2) := by
  induction t with
  | nil => rfl
  | cons r rest ih =>
    unfold put at ih ⊢
    rw [List.map_cons, alter, alter]
    by_cases h : same a r.1 = true
    · simp [h]
    · simp [h, ih]

/-- A key that is new is put at the end. -/
theorem put_of_new {a : α} {t : Table α γ} (h : Distinct.holds (keys t) a = false) (b : γ) :
    put t a b = t ++ [(a, b)] := by
  induction t with
  | nil => rfl
  | cons r rest ih =>
    simp only [keys, Distinct.holds, List.map_cons, List.any_cons, Bool.or_eq_false_iff] at h
    have hrest : put rest a b = rest ++ [(a, b)] := ih h.2
    unfold put at hrest ⊢
    unfold alter
    rw [h.1, hrest]
    rfl

/-- A value stands in a row whose key counts as one with the one asked for. -/
theorem mem_of_get? {t : Table α γ} {a : α} {c : γ} (h : get? t a = some c) :
    ∃ b, (b, c) ∈ t ∧ identity b = identity a := by
  obtain ⟨r, hr, rfl⟩ := Option.map_eq_some_iff.mp h
  have hsame : same a r.1 = true := List.find?_some (p := fun r : α × γ => same a r.1) hr
  exact ⟨r.1, List.mem_of_find?_eq_some hr, (same_iff.mp hsame).symm⟩

/-- Each row is found by its key where no key repeats. -/
theorem row?_of_mem {t : Table α γ} (ht : Distinct.NoRepeat (keys t)) {r : α × γ} {a : α}
    (hmem : r ∈ t) (h : identity r.1 = identity a) : row? t a = some r := by
  induction t with
  | nil => contradiction
  | cons first rest ih =>
    obtain ⟨hnew, hrest⟩ := List.nodup_cons.mp ht
    rw [row?, List.find?_cons]
    rcases List.mem_cons.mp hmem with rfl | hmem
    · rw [same_iff.mpr h.symm]
    · have hne : same a first.1 = false := by
        rw [same_eq_false_iff, ← h]
        exact fun hsame => hnew (hsame ▸ List.mem_map_of_mem (List.mem_map_of_mem hmem))
      rw [hne]
      exact ih hrest hmem

/-- Where no key repeats, each row gives the value of its key. -/
theorem get?_of_mem {t : Table α γ} (ht : Distinct.NoRepeat (keys t)) {a b : α} {c : γ}
    (hmem : (b, c) ∈ t) (h : identity b = identity a) : get? t a = some c := by
  rw [get?, row?_of_mem ht hmem h]
  rfl

/-- What a table of lists has for a key. -/
def listed (t : Table α (List γ)) (a : α) : List γ := (get? t a).getD []

/-- A table that is filled entry by entry has the keys of the entries, each once. -/
theorem keys_foldl_alter {δ : Type} (key : δ → α) (write : δ → Option γ → γ) (xs : List δ)
    (t : Table α γ) :
    keys (xs.foldl (fun t x => alter (write x) (key x) t) t) =
      Distinct.union (keys t) (xs.map key) := by
  induction xs generalizing t with
  | nil => rfl
  | cons x xs ih =>
    rw [List.foldl_cons, ih, keys_alter]
    rfl

/-- Altering the list of one key is seen by that key only. -/
theorem listed_alter (f : List γ → List γ) (a b : α) (t : Table α (List γ)) :
    listed (alter (fun old => f (old.getD [])) a t) b =
      if same b a then f (listed t b) else listed t b := by
  by_cases h : identity b = identity a
  · rw [listed, get?_alter_self _ h, if_pos (same_iff.mpr h), listed, get?_congr h]
    rfl
  · rw [listed, get?_alter_of_ne _ h, if_neg (mt same_iff.mp h), listed]

/-- A table that was filled with values without repeats lists for a key the values that came with
it, each once and in the order in which they came first. -/
theorem listed_foldl_insert {δ : Type} (key : δ → α) (value : δ → β) (xs : List δ)
    (t : Table α (List β)) (a : α) :
    listed (xs.foldl (fun t x => alter (fun old =>
        Distinct.insert (old.getD []) (value x)) (key x) t) t) a =
      Distinct.union (listed t a) ((xs.filter fun x => same a (key x)).map value) := by
  induction xs generalizing t with
  | nil => rfl
  | cons x xs ih =>
    rw [List.foldl_cons, ih, listed_alter fun old => Distinct.insert old (value x)]
    by_cases h : same a (key x) = true
    · rw [if_pos h, List.filter_cons, if_pos h]
      rfl
    · rw [if_neg h, List.filter_cons, if_neg h]

/-- A table that was filled by appending lists for a key the values that came with it, in order. -/
theorem listed_foldl_append {δ : Type} (key : δ → α) (value : δ → γ) (xs : List δ)
    (t : Table α (List γ)) (a : α) :
    listed (xs.foldl (fun t x => alter (fun old => old.getD [] ++ [value x]) (key x) t) t) a =
      listed t a ++ (xs.filter fun x => same a (key x)).map value := by
  induction xs generalizing t with
  | nil => simp
  | cons x xs ih =>
    rw [List.foldl_cons, ih, listed_alter fun old => old ++ [value x]]
    by_cases h : same a (key x) = true
    · simp [h]
    · simp [h]

end Table

end TwigRelations
