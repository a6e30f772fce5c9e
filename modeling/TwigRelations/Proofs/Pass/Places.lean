import Mathlib.Data.List.Destutter
import TwigRelations.Proofs.Pass.Orderly
import TwigRelations.Proofs.Pass.Settles

/-!
# Where a template is referred to

Which templates refer to some names is told by one index, and where they do by another one that
reads each of these templates. The two need not agree: a template that is said to refer to the names
and has no reference to any of them is a place as a whole. So each template has at least one place,
all of its places come together, and the templates can be read off the places.
-/

namespace TwigRelations

section lists

variable {α β ε : Type}

/-- Two steps in a row succeed exactly if both do. -/
theorem bind_eq_ok_iff {x : Except ε α} {f : α → Except ε β} {b : β} :
    x >>= f = .ok b ↔ ∃ a, x = .ok a ∧ f a = .ok b := by
  constructor
  · intro h
    cases x with
    | error e => contradiction
    | ok a => exact ⟨a, rfl, h⟩
  · rintro ⟨a, rfl, h⟩
    exact h

/-- A changed result is there exactly if the result is. -/
theorem map_eq_ok_iff {x : Except ε α} {f : α → β} {b : β} :
    f <$> x = .ok b ↔ ∃ a, x = .ok a ∧ f a = b := by
  rw [← bind_pure_comp, bind_eq_ok_iff]
  exact exists_congr fun a => and_congr_right fun _ => Except.ok.injEq (f a) b ▸ Iff.rfl

/-- What is computed for each member of a list, where nothing fails. -/
theorem forall₂_of_mapM_eq_ok {f : α → Except ε β} {xs : List α} {ys : List β}
    (h : xs.mapM f = .ok ys) : List.Forall₂ (fun x y => f x = .ok y) xs ys := by
  induction xs generalizing ys with
  | nil =>
    obtain rfl : [] = ys := Except.ok.inj h
    exact .nil
  | cons x xs ih =>
    rw [List.mapM_cons] at h
    obtain ⟨y, hx, h⟩ := bind_eq_ok_iff.mp h
    obtain ⟨rest, hrest, h⟩ := bind_eq_ok_iff.mp h
    obtain rfl : y :: rest = ys := Except.ok.inj h
    exact .cons hx (ih hrest)

variable {R : α → α → Prop} [DecidableRel R] {a : α} {xs : List α} {groups : List (List α)}

/-- A group of one value counts as that value. -/
theorem destutter_group_append {group : List α} (hrefl : ¬R a a)
    (h : group ≠ [] ∧ ∀ y ∈ group, y = a) (ys : List α) :
    (group ++ ys).destutter R = ys.destutter' R a := by
  obtain ⟨b, rest, rfl⟩ := List.exists_cons_of_ne_nil h.1
  obtain ⟨rfl, hrest⟩ := List.forall_mem_cons.mp h.2
  rw [List.cons_append, List.destutter_cons']
  clear h
  induction rest with
  | nil => rfl
  | cons c rest ih =>
    obtain ⟨rfl, hrest⟩ := List.forall_mem_cons.mp hrest
    rw [List.cons_append, List.destutter'_cons_neg _ hrefl]
    exact ih hrest

/-- Groups of one value each, behind a value and none of the value of the group before it. -/
theorem destutter'_flatten (hrefl : ∀ a, ¬R a a)
    (h : List.Forall₂ (fun x group => group ≠ [] ∧ ∀ y ∈ group, y = x) xs groups)
    (hchain : (a :: xs).IsChain R) : groups.flatten.destutter' R a = a :: xs := by
  induction h generalizing a with
  | nil => rfl
  | @cons x group xs groups hgroup _ ih =>
    obtain ⟨hstep, hrest⟩ := List.isChain_cons_cons.mp hchain
    have hnext : (group ++ groups.flatten).destutter' R a =
        a :: (group ++ groups.flatten).destutter R := by
      obtain ⟨y, rest, rfl⟩ := List.exists_cons_of_ne_nil hgroup.1
      obtain rfl : y = x := hgroup.2 y List.mem_cons_self
      exact List.destutter'_cons_pos _ hstep
    rw [List.flatten_cons, hnext, destutter_group_append (hrefl x) hgroup, ih hrest]

/-- Without consecutive repeats, groups of one value each are these values. -/
theorem destutter_flatten (hrefl : ∀ a, ¬R a a)
    (h : List.Forall₂ (fun x group => group ≠ [] ∧ ∀ y ∈ group, y = x) xs groups)
    (hchain : xs.IsChain R) : groups.flatten.destutter R = xs := by
  cases h with
  | nil => rfl
  | @cons x group xs groups hgroup hrest =>
    rw [List.flatten_cons, destutter_group_append (hrefl x) hgroup,
      destutter'_flatten hrefl hrest hchain]

end lists

variable {names : List LogicalName} {t : Template} {inclusions : List Inclusion}
  {places : List IncludeTarget}

/-- The references that name one of some names, in source order. -/
def referencesTo (names : List LogicalName) (inclusions : List Inclusion) : List Construct :=
  (inclusions.filterMap Inclusion.construct?).filter fun c => Distinct.holds names c.target

/-- The places in a template with given references, for some names: each of its references to one
of them, and the whole file exactly where there is none. -/
structure PlacedIn (names : List LogicalName) (t : Template) (inclusions : List Inclusion)
    (places : List IncludeTarget) : Prop where
  /-- Each reference to one of the names is a place, in source order. -/
  constructs : referencesTo names inclusions ≠ [] →
    places = (referencesTo names inclusions).map (.construct t)
  /-- The file is a place by itself exactly where there is no such reference. -/
  file_iff : places = [.file t] ↔ referencesTo names inclusions = []

namespace PlacedIn

/-- Every template with given references has a place. -/
theorem ne_nil (h : PlacedIn names t inclusions places) : places ≠ [] := by
  by_cases hnone : referencesTo names inclusions = []
  · rw [h.file_iff.mpr hnone]
    exact List.cons_ne_nil _ _
  · rw [h.constructs hnone]
    exact mt List.map_eq_nil_iff.mp hnone

/-- The places in a template are of that template. -/
theorem template_eq (h : PlacedIn names t inclusions places) {place : IncludeTarget}
    (hplace : place ∈ places) : place.template = t := by
  by_cases hnone : referencesTo names inclusions = []
  · rw [h.file_iff.mpr hnone, List.mem_singleton] at hplace
    rw [hplace]
    rfl
  · rw [h.constructs hnone] at hplace
    obtain ⟨c, -, rfl⟩ := List.mem_map.mp hplace
    rfl

end PlacedIn

namespace Pass

/-- The places in a template where these references are looked for, or the file without any. -/
def placesOf (t : Template) : List Construct → List IncludeTarget
  | [] => [.file t]
  | constructs => constructs.map (.construct t)

/-- The places of a template are placed by its references. -/
theorem placedIn_placesOf (names : List LogicalName) (t : Template) (inclusions : List Inclusion) :
    PlacedIn names t inclusions (placesOf t (referencesTo names inclusions)) := by
  constructor
  · intro hsome
    obtain ⟨c, cs, hreferences⟩ := List.exists_cons_of_ne_nil hsome
    rw [hreferences, placesOf]
    exact List.cons_ne_nil c cs
  · cases referencesTo names inclusions with
    | nil => exact iff_of_true rfl rfl
    | cons c cs => exact iff_of_false (fun h => nomatch h) (List.cons_ne_nil c cs)

variable {cancelled : Bool} {reply : (q : Query) → Reply q}

/-- Looking for the places in a template comes to its places, or to the failure that hides its
references. -/
theorem settles_targetsIn (names : List LogicalName) (t : Template) :
    Settles cancelled reply (targetsIn names t)
      ((fun inclusions => placesOf t (referencesTo names inclusions)) <$>
        called cancelled reply (.inclusionsIn t)) := by
  refine .checkpoint_bind ?_ ?_
  · have hplaces : ∀ constructs : List Construct, Settles cancelled reply
        (match constructs.filter fun c => Distinct.holds names c.target with
          | [] => return [.file t]
          | constructs => return constructs.map (.construct t))
        (pure (placesOf t (constructs.filter fun c => Distinct.holds names c.target))) := by
      intro constructs
      cases constructs.filter fun c => Distinct.holds names c.target <;> exact .pure _
    have htargets := (settles_constructsIn t).bind hplaces
    rw [bind_pure_comp, Functor.map_map] at htargets
    exact htargets
  · rintro rfl
    rfl

/-- Looking for all places comes to those of each includer in turn, or to the first failure on the
way. -/
theorem settles_includeTargets (names : List LogicalName) :
    Settles cancelled reply (includeTargets names)
      (allIncluders cancelled reply names >>= fun found => List.flatten <$> found.mapM fun t =>
        (fun inclusions => placesOf t (referencesTo names inclusions)) <$>
          called cancelled reply (.inclusionsIn t)) :=
  (settles_includers names).bind fun _ =>
    (Settles.mapM fun t => settles_targetsIn names t).bind fun _ => .pure _

/-- What the includers come to is each template once. -/
theorem noRepeat_of_allIncluders {names : List LogicalName} {found : List Template}
    (h : allIncluders cancelled reply names = .ok found) : Distinct.NoRepeat found := by
  obtain ⟨all, -, rfl⟩ := map_eq_ok_iff.mp h
  exact Distinct.noRepeat_ofList all

/-- Where no call fails, the places that refer to some names are those in each of the including
templates, one template after the other in the order of the includers, and without consecutive
repeats their templates are the includers. -/
theorem includeTargets_placed {reply : (q : Query) → Reply q} {names : List LogicalName}
    {known : Option Namespace}
    (hquiet : ∀ ev ∈ (includeTargets names known).events (.fixed false reply) (),
      ev.failure? = none) :
    ∃ found groups,
      ((includers names known).run (.fixed false reply) ()).1.1 = .ok found ∧
      ((includeTargets names known).run (.fixed false reply) ()).1.1 = .ok groups.flatten ∧
      List.Forall₂ (fun t places => ∃ inclusions, reply (.inclusionsIn t) = .ok inclusions ∧
        PlacedIn names t inclusions places) found groups ∧
      Distinct.NoRepeat found ∧
      (groups.flatten.map (·.template)).destutter (fun t u => identity t ≠ identity u) = found := by
  have horderly := isOrderly_includeTargets names known fun _ _ => trivial
  obtain ⟨targets, htargets⟩ := horderly.ok_of_quiet (fun _ _ _ _ => trivial) hquiet
  have hincluders : ((includers names known).run (.fixed false reply) ()).1 = _ :=
    settles_includers names known
  have hplaces : ((includeTargets names known).run (.fixed false reply) ()).1 = _ :=
    settles_includeTargets names known
  rw [hplaces] at htargets ⊢
  rw [hincluders]
  obtain ⟨found, hfound, hall⟩ := bind_eq_ok_iff.mp htargets
  obtain ⟨groups, hgroups, rfl⟩ := map_eq_ok_iff.mp hall
  have hplaced : List.Forall₂ (fun t places => ∃ inclusions,
      reply (.inclusionsIn t) = .ok inclusions ∧ PlacedIn names t inclusions places)
      found groups := by
    refine (forall₂_of_mapM_eq_ok hgroups).imp fun t places h => ?_
    obtain ⟨inclusions, hinclusions, rfl⟩ := map_eq_ok_iff.mp h
    exact ⟨inclusions, reply_of_called hinclusions, placedIn_placesOf names t inclusions⟩
  have hnorepeat : Distinct.NoRepeat found := noRepeat_of_allIncluders hfound
  refine ⟨found, groups, hfound, htargets, hplaced, hnorepeat, ?_⟩
  rw [List.map_flatten]
  refine destutter_flatten (fun t => not_not_intro rfl) ?_ (List.pairwise_map.mp hnorepeat).isChain
  rw [List.forall₂_map_right_iff]
  refine hplaced.imp fun t places h => ?_
  obtain ⟨inclusions, -, hplaces⟩ := h
  refine ⟨mt List.map_eq_nil_iff.mp hplaces.ne_nil, fun u hu => ?_⟩
  obtain ⟨place, hplace, rfl⟩ := List.mem_map.mp hu
  exact hplaces.template_eq hplace

/-- Two templates are said to refer to every name. One of them refers to `base`, to a template that
is not named and to `other`; the other one refers to nothing. -/
def strayReferences : (q : Query) → Reply q
  | .referencing _ => .ok [.ofString "page.twig", .ofString "stray.twig"]
  | .inclusionsIn t =>
    if t.path.text = "page.twig" then
      .ok [⟨.inherit, some "base", .zero⟩, ⟨.include, none, .zero⟩, ⟨.include, some "other", .zero⟩]
    else .ok []
  | q => .ok q.nothing

/-- The stray template is not lost. -/
theorem includeTargets_placed_strayReferences :
    (∀ ev ∈ (includeTargets [.ofString "base"] none).events (.fixed false strayReferences) (),
      ev.failure? = none) ∧
    ∃ places : List IncludeTarget,
      ((includeTargets [.ofString "base"] none).run (.fixed false strayReferences) ()).1.1 =
        .ok places ∧
      (places.map (·.template)).destutter (fun t u => identity t ≠ identity u) =
        [.ofString "page.twig", .ofString "stray.twig"] := by
  have hquiet : ∀ ev ∈ (includeTargets [.ofString "base"] none).events
      (.fixed false strayReferences) (), ev.failure? = none := by decide +kernel
  obtain ⟨found, groups, hfound, hplaces, -, -, htemplates⟩ := includeTargets_placed hquiet
  have hincluders : ((includers [.ofString "base"] none).run (.fixed false strayReferences) ()).1.1 =
      .ok [.ofString "page.twig", .ofString "stray.twig"] := by rfl
  obtain rfl := Except.ok.inj (hfound.symm.trans hincluders)
  exact ⟨hquiet, groups.flatten, hplaces, htemplates⟩

end Pass

end TwigRelations
