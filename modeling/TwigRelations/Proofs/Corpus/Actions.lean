import TwigRelations.Proofs.Corpus.Reordered

/-!
# Actions found by their coordinates

An id is a path of segments, and coordinates are looked for among whole segments: those of the class
and its method are the last ones, and the bundle is spelled by some that follow each other. The first
action recorded under the coordinates is found, or else the first one whose id stands at them.
-/

namespace TwigRelations

namespace Text

variable {sep : Char} {cs ending : List Char} {front pieces : List (List Char)}

/-- Joining two lists of pieces puts one separator between them. -/
theorem intercalate_append (hfront : front ≠ []) (hpieces : pieces ≠ []) :
    [sep].intercalate (front ++ pieces) =
      [sep].intercalate front ++ sep :: [sep].intercalate pieces := by
  induction front with
  | nil => contradiction
  | cons first front ih =>
    by_cases hlast : front = []
    · rw [hlast, List.singleton_append, List.intercalate_cons_of_ne_nil hpieces,
        List.intercalate_singleton, List.append_assoc]
      rfl
    · rw [List.cons_append, List.intercalate_cons_of_ne_nil (by simp [hlast]), ih hlast,
        List.intercalate_cons_of_ne_nil hlast, List.append_assoc, List.append_assoc,
        List.append_assoc]

/-- A text ends in the pieces of another one exactly if it is that text, or ends in it behind a
separator. -/
theorem splitOn_suffix_iff :
    ending.splitOn sep <:+ cs.splitOn sep ↔ cs = ending ∨ sep :: ending <:+ cs := by
  constructor
  · rintro ⟨front, hfront⟩
    have htext : cs = [sep].intercalate (front ++ ending.splitOn sep) := by
      rw [hfront, List.intercalate_splitOn]
    by_cases hnone : front = []
    · left
      rw [htext, hnone, List.nil_append, List.intercalate_splitOn]
    · right
      refine ⟨[sep].intercalate front, ?_⟩
      rw [htext, intercalate_append hnone (List.splitOn_ne_nil _ _), List.intercalate_splitOn]
  · rintro (rfl | ⟨front, rfl⟩)
    · exact List.suffix_refl _
    · rw [List.splitOn_append_cons_self]
      exact List.suffix_append _ _

end Text

/-- A member of a list is the first one with a property. -/
structure FirstWith {α : Type} (p : α → Prop) (xs : List α) (x : α) : Prop where
  /-- The member has the property. -/
  holds : p x
  /-- No member before it has the property. -/
  none_before : ∃ before after, xs = before ++ x :: after ∧ ∀ y ∈ before, ¬p y

/-- The first member with a property is the one that a search for it finds. -/
theorem firstWith_iff_find? {α : Type} {p : α → Prop} {q : α → Bool} {xs : List α} {x : α}
    (hq : ∀ y, q y = true ↔ p y) : FirstWith p xs x ↔ xs.find? q = some x := by
  have hnot (y : α) : (!q y) = true ↔ ¬p y := by
    rw [Bool.not_eq_true', ← Bool.not_eq_true, hq]
  rw [List.find?_eq_some_iff_append, hq]
  simp only [hnot]
  exact ⟨fun h => ⟨h.holds, h.none_before⟩, fun h => ⟨h.1, h.2⟩⟩

/-- The segments of the id of an action, with every slash read as a backslash. -/
def Action.segments (a : Action) : List (List Char) := (Corpus.classPath a).splitOn '\\'

/-- The segments of the class and its method at some coordinates. -/
def ActionRef.segments (r : ActionRef) : List (List Char) :=
  (r.controller ++ "::" ++ r.action).toList.splitOn '\\'

/-- The id of an action stands at some coordinates: its last segments are those of the class and its
method, and some segments before the last one, which follow each other, spell the bundle. -/
structure Action.StandsAt (a : Action) (r : ActionRef) : Prop where
  /-- The class and its method are the last segments. -/
  ending : r.segments <:+ a.segments
  /-- The bundle, if any, is spelled by segments before the last one. -/
  bundle (b : String) (h : r.bundle = some b) :
    ∃ run, run ≠ [] ∧ run <:+: a.segments.dropLast ∧ run.flatten = b.toList

namespace Corpus

variable {text bundle : List Char} {segments : List (List Char)} {a : Action} {r : ActionRef}

/-- The segments that spell a text are taken off it one by one. -/
theorem beginsWith_iff :
    beginsWith text segments = true ↔ ∃ run, run ≠ [] ∧ run <+: segments ∧ run.flatten = text := by
  induction segments generalizing text with
  | nil =>
    refine iff_of_false (by simp [beginsWith]) ?_
    rintro ⟨run, hne, hrun, -⟩
    exact hne (List.prefix_nil.mp hrun)
  | cons segment rest ih =>
    rw [beginsWith]
    cases hcut : segment.isPrefixOf? text with
    | none =>
      refine iff_of_false Bool.false_ne_true ?_
      rintro ⟨run, hne, hrun, rfl⟩
      obtain ⟨tail, rfl, -⟩ := (List.prefix_cons_iff.mp hrun).resolve_left hne
      have hsome : segment.isPrefixOf? (segment :: tail).flatten = some tail.flatten :=
        List.isPrefixOf?_eq_some_iff_append_eq.mpr rfl
      rw [hcut] at hsome
      contradiction
    | some remaining =>
      obtain rfl : segment ++ remaining = text := List.isPrefixOf?_eq_some_iff_append_eq.mp hcut
      cases remaining with
      | nil =>
        refine iff_of_true rfl ⟨[segment], List.cons_ne_nil _ _, ?_, ?_⟩
        · exact List.prefix_append [segment] rest
        · rw [List.flatten_singleton, List.append_nil]
      | cons c remaining =>
        rw [ih]
        constructor
        · rintro ⟨run, -, hrun, hflat⟩
          refine ⟨segment :: run, List.cons_ne_nil _ _, ?_, ?_⟩
          · exact List.cons_prefix_cons.mpr ⟨rfl, hrun⟩
          · rw [List.flatten_cons, hflat]
        · rintro ⟨run, hne, hrun, hflat⟩
          obtain ⟨tail, rfl, htail⟩ := (List.prefix_cons_iff.mp hrun).resolve_left hne
          rw [List.flatten_cons] at hflat
          have hspelled : tail.flatten = c :: remaining := List.append_cancel_left hflat
          refine ⟨tail, ?_, htail, hspelled⟩
          rintro rfl
          contradiction

/-- A bundle is spelled by a run of segments that follow each other. -/
theorem spellsBundle_iff :
    spellsBundle bundle segments = true ↔
      ∃ run, run ≠ [] ∧ run <:+: segments ∧ run.flatten = bundle := by
  induction segments with
  | nil =>
    refine iff_of_false (by simp [spellsBundle]) ?_
    rintro ⟨run, hne, hrun, -⟩
    exact hne (List.infix_nil.mp hrun)
  | cons segment rest ih =>
    rw [spellsBundle, Bool.or_eq_true, beginsWith_iff, ih]
    simp only [List.infix_cons_iff, and_or_left, or_and_right, exists_or]

/-- An action answers to coordinates exactly if its id stands at them. -/
theorem answersTo_iff : answersTo a r = true ↔ a.StandsAt r := by
  have hending : (classPath a == (r.controller ++ "::" ++ r.action).toList ||
      ('\\' :: (r.controller ++ "::" ++ r.action).toList).isSuffixOf (classPath a)) = true ↔
        r.segments <:+ a.segments := by
    rw [Bool.or_eq_true, beq_iff_eq, List.isSuffixOf_iff_suffix, ActionRef.segments, Action.segments,
      Text.splitOn_suffix_iff]
  rw [answersTo, Bool.and_eq_true, hending]
  cases hbundle : r.bundle with
  | none =>
    constructor
    · exact fun h => ⟨h.1, fun b hb => by rw [hbundle] at hb; contradiction⟩
    · exact fun h => ⟨h.ending, rfl⟩
  | some b =>
    rw [spellsBundle_iff]
    constructor
    · refine fun h => ⟨h.1, fun b' hb => ?_⟩
      obtain rfl : b = b' := Option.some.inj (hbundle.symm.trans hb)
      exact h.2
    · exact fun h => ⟨h.ending, h.bundle b hbundle⟩

/-- An action is found under some coordinates if it is recorded under them, and is then the first
such one. Otherwise it is the first one whose id stands at the coordinates, segment by segment. No
action is found exactly if there is neither. -/
theorem actionFor_first (s : Snapshot) (r : ActionRef) :
    ∃ found, (ofSnapshot s).reply (.actionFor r) = .ok found ∧
      (∀ a, found = some a ↔
        (∃ k, FirstWith (·.route = some r) s.controllers k ∧ k.action = a) ∨
        (∀ k ∈ s.controllers, k.route ≠ some r) ∧
          ∃ k, FirstWith (·.action.StandsAt r) s.controllers k ∧ k.action = a) ∧
      (found = none ↔ ∀ k ∈ s.controllers, k.route ≠ some r ∧ ¬k.action.StandsAt r) := by
  have hroute (k : ControllerRecord) : (k.route == some r) = true ↔ k.route = some r := beq_iff_eq
  have hid (k : ControllerRecord) : answersTo k.action r = true ↔ k.action.StandsAt r :=
    answersTo_iff
  have hnoRoute : s.controllers.find? (·.route == some r) = none ↔
      ∀ k ∈ s.controllers, k.route ≠ some r := by
    simp only [List.find?_eq_none, hroute, ne_eq]
  refine ⟨(ofSnapshot s).actionFor r, reply_of_ready (indexing_ofSnapshot s) _, fun a => ?_, ?_⟩
  · simp only [firstWith_iff_find? hroute, firstWith_iff_find? hid]
    rw [actionFor, controllers_ofSnapshot, Option.map_eq_some_iff, ← hnoRoute]
    constructor
    · rintro ⟨k, hk, hak⟩
      rcases Option.or_eq_some_iff.mp hk with hrecorded | ⟨hnone, hstands⟩
      · exact .inl ⟨k, hrecorded, hak⟩
      · exact .inr ⟨hnone, k, hstands, hak⟩
    · rintro (⟨k, hrecorded, hak⟩ | ⟨hnone, k, hstands, hak⟩)
      · exact ⟨k, Option.or_eq_some_iff.mpr (.inl hrecorded), hak⟩
      · exact ⟨k, Option.or_eq_some_iff.mpr (.inr ⟨hnone, hstands⟩), hak⟩
  · rw [actionFor, controllers_ofSnapshot, Option.map_eq_none_iff, Option.or_eq_none_iff, hnoRoute]
    simp only [List.find?_eq_none, hid, ← forall₂_and]

end Corpus

end TwigRelations
