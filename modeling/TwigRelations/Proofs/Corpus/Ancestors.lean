import TwigRelations.Proofs.Corpus.Reordered
import TwigRelations.Proofs.Corpus.Replacement
import TwigRelations.Proofs.Descent.Distance

/-!
# The nearest ancestors with a block

A climb looks at the ancestors of a template level by level, each level being the templates at one
distance, and ends at the first level that has a block of the name. It ends without a bound on its
levels, because each level takes a recorded template that was not seen; so whatever the templates
extend, a block overrides the blocks of its name that are nearest above it.
-/

namespace TwigRelations

namespace Snapshot

/-- The record that counts for a template extends another template by a name under which any record
registers that. -/
def Inherits (s : Snapshot) (t u : Template) : Prop :=
  ∃ last, s.lastRecord? t = some last ∧ ∃ k ∈ last.constructs, k.kind = .inherit ∧
    ∃ r ∈ s.templates, identity r.template = identity u ∧ ∃ n ∈ r.names,
      identity n = identity k.target

/-- The blocks of a name in a template, in the order of the record that counts for it. -/
def blocksNamed (s : Snapshot) (name : String) (t : Template) : List Block :=
  ((((s.lastRecord? t).map (·.blocks)).getD []).filter (·.name == name)).map fun b =>
    ⟨t, b.name, b.span⟩

/-- The least distance above a template at which another template has a block of the name. -/
structure NearestDefining (s : Snapshot) (name : String) (start : Template) (steps : Nat) :
    Prop where
  /-- Some template at this distance has one. -/
  defines : ∃ t, Distant s.Inherits steps start t ∧ identity t ≠ identity start ∧
    s.blocksNamed name t ≠ []
  /-- No template that is nearer has one. -/
  le_of_defines {t : Template} {other : Nat} (h : Distant s.Inherits other start t)
    (hne : identity t ≠ identity start) (hblocks : s.blocksNamed name t ≠ []) : steps ≤ other

variable {s : Snapshot} {t u v start : Template} {name : String} {steps : Nat}

/-- What a template inherits from is told by its path. -/
theorem Inherits.congr_left (h : identity t = identity u) : s.Inherits t v ↔ s.Inherits u v := by
  rw [Inherits, lastRecord?_congr h, Inherits]

/-- Whether a template has blocks of a name is told by its path. -/
theorem blocksNamed_eq_nil_congr (h : identity t = identity u) :
    s.blocksNamed name t = [] ↔ s.blocksNamed name u = [] := by
  rw [blocksNamed, List.map_eq_nil_iff, lastRecord?_congr h, blocksNamed, List.map_eq_nil_iff]

/-- A block that is recorded with a template belongs to it. -/
theorem template_of_mem_blocksNamed {b : Block} (h : b ∈ s.blocksNamed name t) :
    b.template = t := by
  obtain ⟨r, -, rfl⟩ := List.mem_map.mp h
  rfl

namespace NearestDefining

/-- The nearest templates that define a block are at one number of levels. -/
theorem eq {other : Nat} (h : s.NearestDefining name start steps)
    (h' : s.NearestDefining name start other) : steps = other := by
  obtain ⟨t, ht, hne, hblocks⟩ := h.defines
  obtain ⟨u, hu, hne', hblocks'⟩ := h'.defines
  exact Nat.le_antisymm (h.le_of_defines hu hne' hblocks') (h'.le_of_defines ht hne hblocks)

/-- The template itself is at no such distance. -/
theorem identity_ne (h : s.NearestDefining name start steps)
    (ht : Distant s.Inherits steps start t) : identity t ≠ identity start := by
  intro hsame
  obtain ⟨u, hu, hne, -⟩ := h.defines
  obtain rfl : steps = 0 := ht.eq (Distant.zero_iff.mpr hsame.symm)
  exact hne (Distant.zero_iff.mp hu).symm

end NearestDefining

/-- Where any template above has a block of the name, there is a least distance of one. -/
theorem exists_nearestDefining (h : Within s.Inherits steps start t)
    (hne : identity t ≠ identity start) (hblocks : s.blocksNamed name t ≠ []) :
    ∃ nearest, s.NearestDefining name start nearest := by
  classical
  obtain ⟨near, -, hnear⟩ := h.exists_distant
  have hexists : ∃ near t, Distant s.Inherits near start t ∧ identity t ≠ identity start ∧
    s.blocksNamed name t ≠ [] := ⟨near, t, hnear, hne, hblocks⟩
  exact ⟨Nat.find hexists, Nat.find_spec hexists, fun hother hne' hblocks' =>
    Nat.find_le ⟨_, hother, hne', hblocks'⟩⟩

end Snapshot

namespace Corpus

/-- A climb that goes on for as long as there are new templates and none of them has a block of the
name, with what it finds. -/
inductive Climbs (c : Corpus) (name : String) : List Template → List Template → List Block → Prop
  /-- There are no new templates. -/
  | top {seen frontier} (h : unseen seen frontier = []) : Climbs c name seen frontier []
  /-- Some of the new templates have blocks of the name. -/
  | here {seen frontier found} (hne : found ≠ [])
    (h : ((unseen seen frontier).flatMap c.blocksIn).filter (·.name == name) = found) :
    Climbs c name seen frontier found
  /-- There are new templates without such blocks, and the climb goes on from them. -/
  | above {seen frontier found} (hlevel : unseen seen frontier ≠ [])
    (h : ((unseen seen frontier).flatMap c.blocksIn).filter (·.name == name) = [])
    (hnext : Climbs c name (seen ++ unseen seen frontier)
      ((unseen seen frontier).flatMap c.parents) found) :
    Climbs c name seen frontier found

variable {c : Corpus} {s : Snapshot} {b : Block} {t u start : Template} {name : String}
  {levels depth : Nat} {seen frontier : List Template} {found : List Block}

/-- The unseen templates of a level are those that were not seen before. -/
theorem holds_unseen : Distinct.holds (unseen seen frontier) t = true ↔
    Distinct.holds frontier t = true ∧ Distinct.holds seen t ≠ true := by
  rw [Distinct.holds_iff_exists, Distinct.holds_iff_exists]
  constructor
  · rintro ⟨u, hu, hsame⟩
    obtain ⟨hmem, hnew⟩ := mem_unseen hu
    rw [← Distinct.holds_congr hsame seen, hnew]
    exact ⟨⟨u, hmem, hsame⟩, by decide⟩
  · rintro ⟨hold, hnew⟩
    obtain ⟨u, hu, hsame⟩ := Distinct.holds_iff_exists.mp
      (Distinct.holds_ofList.mpr (Distinct.holds_iff_exists.mpr hold))
    refine ⟨u, List.mem_filter.mpr ⟨hu, ?_⟩, hsame⟩
    rw [Distinct.holds_congr hsame seen, Bool.not_eq_true', ← Bool.not_eq_true]
    exact hnew

theorem noRepeat_unseen (seen frontier : List Template) :
    Distinct.NoRepeat (unseen seen frontier) :=
  (List.filter_sublist.map identity).nodup (Distinct.noRepeat_ofList frontier)

/-- The recorded templates that a climb has not seen. Each level of the climb takes one of them. -/
def unseenRecorded (c : Corpus) (seen : List Template) : List Template :=
  (Table.keys c.records).filter fun t => !Distinct.holds seen t

/-- A level with unseen templates leaves fewer records to be seen, so a climb comes to its end. -/
theorem length_unseenRecorded_lt (hlevel : unseen seen frontier ≠ [])
    (hrecorded : ∀ u ∈ frontier, Distinct.holds (Table.keys c.records) u = true) :
    (c.unseenRecorded (seen ++ unseen seen frontier)).length <
      (c.unseenRecorded seen).length := by
  have hfilter : c.unseenRecorded (seen ++ unseen seen frontier) =
      (c.unseenRecorded seen).filter fun t => !Distinct.holds (unseen seen frontier) t := by
    rw [unseenRecorded, unseenRecorded, List.filter_filter]
    refine List.filter_congr fun t _ => ?_
    rw [Distinct.holds, List.any_append, Bool.not_or, Bool.and_comm]
    rfl
  obtain ⟨u, hu⟩ := List.exists_mem_of_ne_nil _ hlevel
  obtain ⟨hmem, hnew⟩ := mem_unseen hu
  obtain ⟨t, ht, hsame⟩ := Distinct.holds_iff_exists.mp (hrecorded u hmem)
  have hleft : t ∈ c.unseenRecorded seen := by
    refine List.mem_filter.mpr ⟨ht, ?_⟩
    rw [Distinct.holds_congr hsame seen, hnew]
    rfl
  have htaken : Distinct.holds (unseen seen frontier) t = true :=
    Distinct.holds_iff_exists.mpr ⟨u, hu, hsame.symm⟩
  rw [hfilter, List.length_filter_lt_length_iff_exists]
  exact ⟨t, hleft, by simp [htaken]⟩

/-- A climb that may have more levels than there are recorded templates to be seen ends by itself. -/
theorem climbs_climb (hrecorded : ∀ u ∈ frontier, Distinct.holds (Table.keys c.records) u = true)
    (hparents : ∀ t, ∀ u ∈ c.parents t, Distinct.holds (Table.keys c.records) u = true)
    (hlevels : (c.unseenRecorded seen).length < levels) :
    c.Climbs name seen frontier (c.climb name levels seen frontier) := by
  induction levels generalizing seen frontier with
  | zero => contradiction
  | succ levels ih =>
    rw [climb_succ]
    by_cases hlevel : unseen seen frontier = []
    · rw [hlevel]
      exact .top hlevel
    · rw [if_neg (mt List.isEmpty_iff.mp hlevel)]
      split
      · rename_i hnone
        refine .above hlevel (List.isEmpty_iff.mp hnone) (ih (fun u hu => ?_) ?_)
        · obtain ⟨t, -, hu⟩ := List.mem_flatMap.mp hu
          exact hparents t u hu
        · exact (length_unseenRecorded_lt hlevel hrecorded).trans_le (Nat.le_of_lt_succ hlevels)
      · rename_i hsome
        exact .here (mt List.isEmpty_iff.mpr hsome) rfl

/-- What is recorded in a snapshot has a record in its corpus. -/
theorem holds_keys_of_recorded (h : Recorded s t) :
    Distinct.holds (Table.keys (ofSnapshot s).records) t = true := by
  obtain ⟨r, hr, rfl⟩ := h
  have hsome : ((ofSnapshot s).record? r.template).isSome = true := by
    rw [record?_ofSnapshot, Snapshot.lastRecord?, List.find?_isSome]
    exact ⟨r, List.mem_reverse.mpr hr, same_refl _⟩
  obtain ⟨last, hlast⟩ := Option.isSome_iff_exists.mp hsome
  obtain ⟨u, hu, hsame⟩ := Table.mem_of_get? hlast
  exact Distinct.holds_iff_exists.mpr ⟨u, List.mem_map_of_mem hu, hsame⟩

/-- The climb from a block ends by itself. -/
theorem climbs_parentBlocks (s : Snapshot) (b : Block) :
    (ofSnapshot s).Climbs b.name [b.template] ((ofSnapshot s).parents b.template)
      ((ofSnapshot s).parentBlocks b) := by
  have hparents (t : Template) : ∀ u ∈ (ofSnapshot s).parents t,
      Distinct.holds (Table.keys (ofSnapshot s).records) u = true :=
    fun u hu => holds_keys_of_recorded (recorded_of_mem_parents hu)
  refine climbs_climb (hparents b.template) hparents (Nat.lt_succ_of_le ?_)
  refine (List.length_filter_le _ _).trans ?_
  rw [Table.keys, List.length_map, size]

/-- The parents of a template are the templates that the record that counts for it extends. -/
theorem holds_parents_iff :
    Distinct.holds ((ofSnapshot s).parents t) u = true ↔ s.Inherits t u := by
  rw [holds_parents_iff_recorded, record?_ofSnapshot, Snapshot.Inherits]

/-- The blocks of a name in a level are those of its templates. -/
theorem filter_blocksIn (s : Snapshot) (name : String) (level : List Template) :
    (level.flatMap (ofSnapshot s).blocksIn).filter (·.name == name) =
      level.flatMap (s.blocksNamed name) := by
  rw [List.filter_flatMap]
  refine List.flatMap_congr fun t _ => ?_
  rw [blocksIn, record?_ofSnapshot, Snapshot.blocksNamed]
  cases s.lastRecord? t with
  | none => rfl
  | some last => exact List.filter_map

/-- How far a climb has come: it has seen what is within some distance of its start, and what is on
its frontier and not yet seen is one step farther. -/
structure Climbed (s : Snapshot) (start : Template) (depth : Nat) (seen frontier : List Template) :
    Prop where
  /-- What was seen is what is within the distance. -/
  holds_seen (t : Template) : Distinct.holds seen t = true ↔ Within s.Inherits depth start t
  /-- What is to be seen next is one step farther. -/
  holds_level (t : Template) : Distinct.holds (unseen seen frontier) t = true ↔
    Distant s.Inherits (depth + 1) start t

namespace Climbed

/-- What was seen is told, and so is what extensions of the last level lead to. -/
theorem ofLevel {level : List Template}
    (hseen : ∀ t, Distinct.holds seen t = true ↔ Within s.Inherits depth start t)
    (hlevel : ∀ t, Distinct.holds level t = true ↔ Distant s.Inherits depth start t) :
    Climbed s start depth seen (level.flatMap (ofSnapshot s).parents) where
  holds_seen := hseen
  holds_level t := by
    rw [holds_unseen, ne_eq, hseen, Distant.succ_iff]
    apply and_congr_left
    intro hfar
    rw [Distinct.holds_flatMap]
    constructor
    · rintro ⟨u, hu, ht⟩
      exact ((hlevel u).mp (Distinct.holds_of_mem hu)).within.step (holds_parents_iff.mp ht)
    · intro hwithin
      obtain ⟨u, hu, ht⟩ := (Distant.succ_iff.mpr ⟨hwithin, hfar⟩).exists_last
      obtain ⟨w, hw, hsame⟩ := Distinct.holds_iff_exists.mp ((hlevel u).mpr hu)
      exact ⟨w, hw, holds_parents_iff.mpr ((Snapshot.Inherits.congr_left hsame).mpr ht)⟩

/-- A climb begins at distance zero. -/
theorem begins (s : Snapshot) (start : Template) :
    Climbed s start 0 [start] ((ofSnapshot s).parents start) := by
  have hself (t : Template) : Distinct.holds [start] t = true ↔ identity start = identity t := by
    simp [Distinct.holds_iff_exists]
  have hclimbed : Climbed s start 0 [start] ([start].flatMap (ofSnapshot s).parents) :=
    ofLevel (fun t => (hself t).trans Within.zero_iff.symm)
      fun t => (hself t).trans Distant.zero_iff.symm
  rwa [List.flatMap_singleton] at hclimbed

/-- Each level takes a climb one step farther. -/
theorem step (h : Climbed s start depth seen frontier) :
    Climbed s start (depth + 1) (seen ++ unseen seen frontier)
      ((unseen seen frontier).flatMap (ofSnapshot s).parents) := by
  refine ofLevel (fun t => ?_) h.holds_level
  rw [Distinct.holds_append, h.holds_seen, h.holds_level, Distant.succ_iff]
  constructor
  · rintro (hold | ⟨hnew, -⟩)
    · exact hold.levels_le (Nat.le_succ _)
    · exact hnew
  · intro hwithin
    by_cases hold : Within s.Inherits depth start t
    · exact .inl hold
    · exact .inr ⟨hwithin, hold⟩

end Climbed

/-- A climb that has passed over no block of the name finds the nearest ones: all those of the
templates at their distance, each template once. -/
theorem Climbs.nearest (h : (ofSnapshot s).Climbs name seen frontier found)
    (hclimbed : Climbed s start depth seen frontier)
    (hnone : ∀ t, Within s.Inherits depth start t → identity t ≠ identity start →
      s.blocksNamed name t = []) :
    ∃ level, Distinct.NoRepeat level ∧
      (∀ t, Distinct.holds level t = true ↔
        ∃ steps, s.NearestDefining name start steps ∧ Distant s.Inherits steps start t) ∧
      found = level.flatMap (s.blocksNamed name) := by
  induction h generalizing depth with
  | @top seen frontier hlevel =>
    refine ⟨[], List.nodup_nil, fun t => iff_of_false (by simp [Distinct.holds]) ?_, rfl⟩
    rintro ⟨steps, hnearest, -⟩
    obtain ⟨u, hu, hne, hblocks⟩ := hnearest.defines
    by_cases hle : steps ≤ depth
    · exact hblocks (hnone u (hu.within.levels_le hle) hne)
    · obtain ⟨w, hw⟩ := hu.exists_of_le (Nat.lt_of_not_le hle)
      have hheld := (hclimbed.holds_level w).mpr hw
      simp [hlevel, Distinct.holds] at hheld
  | @here seen frontier found hne hfound =>
    rw [filter_blocksIn] at hfound
    have hnearest : s.NearestDefining name start (depth + 1) := by
      obtain ⟨p, hp⟩ := List.exists_mem_of_ne_nil _ (hfound ▸ hne)
      obtain ⟨t, ht, hp⟩ := List.mem_flatMap.mp hp
      have hdistant := (hclimbed.holds_level t).mp (Distinct.holds_of_mem ht)
      refine ⟨⟨t, hdistant, fun hsame => ?_, List.ne_nil_of_mem hp⟩,
        fun {u other} hu hne' hblocks => ?_⟩
      · exact absurd (hdistant.eq (Distant.zero_iff.mpr hsame.symm)) (Nat.succ_ne_zero _)
      · by_contra hless
        exact hblocks (hnone u (hu.within.levels_le (by omega)) hne')
    refine ⟨unseen seen frontier, noRepeat_unseen _ _, fun t => ?_, hfound.symm⟩
    rw [hclimbed.holds_level]
    constructor
    · exact fun ht => ⟨_, hnearest, ht⟩
    · rintro ⟨steps, hsteps, ht⟩
      rwa [hnearest.eq hsteps]
  | @above seen frontier found hlevel hempty _ ih =>
    rw [filter_blocksIn, List.flatMap_eq_nil_iff] at hempty
    refine ih hclimbed.step fun t ht hne => ?_
    by_cases hold : Within s.Inherits depth start t
    · exact hnone t hold hne
    · have hheld := (hclimbed.holds_level t).mpr (Distant.succ_iff.mpr ⟨ht, hold⟩)
      obtain ⟨u, hu, hsame⟩ := Distinct.holds_iff_exists.mp hheld
      exact (Snapshot.blocksNamed_eq_nil_congr hsame).mp (hempty u hu)

/-- Whatever the templates of a snapshot extend, the climb from a block ends, and what the block
overrides are the blocks of its name in the templates at the least distance above its own at which
any other template has one, each template once. None of them is in the template of the block, and
there are none exactly if no template above has a block of the name. -/
theorem parentBlocks_nearest (s : Snapshot) (b : Block) :
    ∃ found level, (ofSnapshot s).reply (.parentBlocks b) = .ok found ∧
      (ofSnapshot s).Climbs b.name [b.template] ((ofSnapshot s).parents b.template) found ∧
      Distinct.NoRepeat level ∧
      (∀ t, Distinct.holds level t = true ↔ ∃ steps,
        s.NearestDefining b.name b.template steps ∧ Distant s.Inherits steps b.template t) ∧
      found = level.flatMap (s.blocksNamed b.name) ∧
      (∀ p ∈ found, identity p.template ≠ identity b.template) ∧
      (found = [] ↔ ∀ t steps, Within s.Inherits steps b.template t →
        identity t ≠ identity b.template → s.blocksNamed b.name t = []) := by
  have hclimbs := climbs_parentBlocks s b
  obtain ⟨level, hnoRepeat, hlevel, hfound⟩ := hclimbs.nearest (.begins s b.template)
    fun t ht hne => absurd (Within.zero_iff.mp ht).symm hne
  refine ⟨(ofSnapshot s).parentBlocks b, level, reply_of_ready (indexing_ofSnapshot s) _, hclimbs,
    hnoRepeat, hlevel, hfound, fun p hp => ?_, ?_⟩
  · rw [hfound] at hp
    obtain ⟨t, ht, hp⟩ := List.mem_flatMap.mp hp
    obtain ⟨steps, hnearest, hdistant⟩ := (hlevel t).mp (Distinct.holds_of_mem ht)
    rw [Snapshot.template_of_mem_blocksNamed hp]
    exact hnearest.identity_ne hdistant
  · rw [hfound, List.flatMap_eq_nil_iff]
    constructor
    · intro hempty t steps ht hne
      by_contra hblocks
      obtain ⟨nearest, hnearest⟩ := Snapshot.exists_nearestDefining ht hne hblocks
      obtain ⟨u, hu, -, hblocks'⟩ := hnearest.defines
      obtain ⟨w, hw, hsame⟩ := Distinct.holds_iff_exists.mp ((hlevel u).mpr ⟨_, hnearest, hu⟩)
      exact hblocks' ((Snapshot.blocksNamed_eq_nil_congr hsame).mp (hempty w hw))
    · intro hnone t ht
      obtain ⟨steps, hnearest, -⟩ := (hlevel t).mp (Distinct.holds_of_mem ht)
      obtain ⟨u, hu, hne, hblocks⟩ := hnearest.defines
      exact absurd (hnone u steps hu.within hne) hblocks

/-- Two templates that extend each other, and a page that extends the first of them by a name that
it shares with it. Only the second one has the block of the page. -/
def mutualExtension : Snapshot where
  templates := [
    { path := .ofString "first.twig"
      names := [.ofString "base"]
      inclusions := [⟨.inherit, some "second", .zero⟩]
      blocks := [] },
    { path := .ofString "second.twig"
      names := [.ofString "second"]
      inclusions := [⟨.inherit, some "base", .zero⟩]
      blocks := [⟨"body", .zero⟩] },
    { path := .ofString "page.twig"
      names := [.ofString "base"]
      inclusions := [⟨.inherit, some "base", .zero⟩]
      blocks := [⟨"body", .zero⟩] }]
  controllers := []

example : (ofSnapshot mutualExtension).parentBlocks ⟨.ofString "page.twig", "body", .zero⟩ =
    [⟨.ofString "second.twig", "body", .zero⟩] := by
  decide +kernel

end Corpus

end TwigRelations
