import TwigRelations.Proofs.Corpus.Duality
import TwigRelations.Proofs.Document.Reordered

/-!
# Corpora of reordered records

A corpus does not depend on the order of its records, as far as it is not shown in the order of what
it lists: each table lists the same templates, and a climb over ancestors finds the same blocks.
-/

namespace TwigRelations

namespace Corpus

variable {s s' : Snapshot} {r : TemplateRecord} {t u : Template} {b : Block} {n : LogicalName}

/-- A template is recorded in a snapshot, spelled in this way. -/
def Recorded (s : Snapshot) (t : Template) : Prop := ∃ r ∈ s.templates, r.template = t

/-- A template is recorded in one spelling only, where no path is recorded twice. -/
theorem Recorded.eq (hs : s.HasDistinctPaths) (ht : Recorded s t) (hu : Recorded s u)
    (h : identity t = identity u) : t = u := by
  obtain ⟨r, hr, rfl⟩ := ht
  obtain ⟨r', hr', rfl⟩ := hu
  have hpaths : (s.templates.map fun r => identity r.template).Nodup := by
    rw [Snapshot.HasDistinctPaths, Distinct.NoRepeat, List.map_map] at hs
    exact hs
  rw [List.inj_on_of_nodup_map hpaths hr hr' h]

theorem hasDistinctPaths_perm (h : s.templates.Perm s'.templates) (hs : s.HasDistinctPaths) :
    s'.HasDistinctPaths :=
  ((h.map TemplateRecord.template).map identity).nodup_iff.mp hs

variable {names : TemplateRecord → List LogicalName}

/-- What is listed under a name is recorded. -/
theorem recorded_of_listedAs (h : t ∈ s.templates.flatMap (listedAs names n)) : Recorded s t := by
  obtain ⟨r, hr, ht⟩ := List.mem_flatMap.mp h
  obtain ⟨m, -, rfl⟩ := List.mem_map.mp ht
  exact ⟨r, hr, rfl⟩

/-- Reordered records are listed in another order. -/
theorem ofList_listedAs_perm (hs : s.HasDistinctPaths) (h : s.templates.Perm s'.templates) :
    (Distinct.ofList (s.templates.flatMap (listedAs names n))).Perm
      (Distinct.ofList (s'.templates.flatMap (listedAs names n))) := by
  refine Distinct.perm_ofList (fun t ht u hu => ?_) (h.flatMap_right _)
  exact (recorded_of_listedAs ht).eq hs (recorded_of_listedAs hu)

theorem recorded_of_mem_templatesNamed (h : t ∈ (ofSnapshot s).templatesNamed n) :
    Recorded s t := by
  rw [templatesNamed_ofSnapshot] at h
  exact recorded_of_listedAs (Distinct.mem_of_mem_ofList h)

theorem recorded_of_mem_referencing (h : t ∈ (ofSnapshot s).referencing n) : Recorded s t := by
  rw [referencing_ofSnapshot] at h
  exact recorded_of_listedAs (Distinct.mem_of_mem_ofList h)

/-- A name leads to the same templates in some order. -/
theorem templatesNamed_perm (hs : s.HasDistinctPaths) (h : s.templates.Perm s'.templates)
    (n : LogicalName) :
    ((ofSnapshot s).templatesNamed n).Perm ((ofSnapshot s').templatesNamed n) := by
  rw [templatesNamed_ofSnapshot, templatesNamed_ofSnapshot]
  exact ofList_listedAs_perm hs h

/-- The same templates refer to a name, in some order. -/
theorem referencing_perm (hs : s.HasDistinctPaths) (h : s.templates.Perm s'.templates)
    (n : LogicalName) :
    ((ofSnapshot s).referencing n).Perm ((ofSnapshot s').referencing n) := by
  rw [referencing_ofSnapshot, referencing_ofSnapshot]
  exact ofList_listedAs_perm hs h

theorem record?_perm (hs : s.HasDistinctPaths) (h : s.templates.Perm s'.templates)
    (t : Template) : (ofSnapshot s).record? t = (ofSnapshot s').record? t := by
  ext r
  rw [record?_eq_some_iff hs, record?_eq_some_iff (hasDistinctPaths_perm h hs), h.mem_iff]

/-- The entries are the same in some order. -/
theorem entries_perm (hs : s.HasDistinctPaths) (h : s.templates.Perm s'.templates) :
    (ofSnapshot s).entries.Perm (ofSnapshot s').entries := by
  rw [entries, entries, records_ofSnapshot hs, records_ofSnapshot (hasDistinctPaths_perm h hs)]
  exact (h.map _).flatMap_right _

/-- A corpus has the controllers of its snapshot, in their order. -/
theorem controllers_ofSnapshot (s : Snapshot) : (ofSnapshot s).controllers = s.controllers := by
  have hfold (records : List TemplateRecord) (c : Corpus) :
      (records.foldl addRecord c).controllers = c.controllers := by
    induction records generalizing c with
    | nil => rfl
    | cons r records ih => exact ih (c.addRecord r)
  exact hfold _ _

theorem inclusionsIn_perm (hs : s.HasDistinctPaths) (h : s.templates.Perm s'.templates)
    (t : Template) : (ofSnapshot s).inclusionsIn t = (ofSnapshot s').inclusionsIn t := by
  rw [inclusionsIn, record?_perm hs h, inclusionsIn]

theorem blocksIn_perm (hs : s.HasDistinctPaths) (h : s.templates.Perm s'.templates)
    (t : Template) : (ofSnapshot s).blocksIn t = (ofSnapshot s').blocksIn t := by
  rw [blocksIn, record?_perm hs h, blocksIn]

/-- The parents of a template are the same in some order. -/
theorem parents_perm (hs : s.HasDistinctPaths) (h : s.templates.Perm s'.templates)
    (t : Template) : ((ofSnapshot s).parents t).Perm ((ofSnapshot s').parents t) := by
  rw [parents, parents, inclusionsIn_perm hs h]
  exact List.Perm.flatMap_left _ fun construct _ => templatesNamed_perm hs h construct.target

/-- The parents of a template are recorded. -/
theorem recorded_of_mem_parents (h : u ∈ (ofSnapshot s).parents t) : Recorded s u := by
  obtain ⟨construct, -, hu⟩ := List.mem_flatMap.mp h
  exact recorded_of_mem_templatesNamed hu

/-- The unseen templates of a level are the same in some order. -/
theorem unseen_perm {seen seen' frontier frontier' : List Template}
    (hone : Distinct.SpelledOnce frontier)
    (hseen : seen.Perm seen') (hfrontier : frontier.Perm frontier') :
    (unseen seen frontier).Perm (unseen seen' frontier') := by
  have hholds : (fun t => !Distinct.holds seen t) = fun t => !Distinct.holds seen' t := by
    funext t
    rw [Distinct.holds_perm hseen]
  rw [unseen, unseen, hholds]
  exact (Distinct.perm_ofList hone hfrontier).filter _

/-- A climb ends at the first level that has a block of the name, or that has no new template. -/
theorem climb_succ (c : Corpus) (name : String) (levels : Nat) (seen frontier : List Template) :
    climb c name (levels + 1) seen frontier =
      if (unseen seen frontier).isEmpty then []
      else if (((unseen seen frontier).flatMap c.blocksIn).filter (·.name == name)).isEmpty then
        climb c name levels (seen ++ unseen seen frontier)
          ((unseen seen frontier).flatMap c.parents)
      else ((unseen seen frontier).flatMap c.blocksIn).filter (·.name == name) := by
  rw [climb]
  cases unseen seen frontier with
  | nil => rfl
  | cons t level =>
    dsimp only
    cases ((t :: level).flatMap c.blocksIn).filter (·.name == name) <;> rfl

/-- A climb is told by the blocks and the parents of templates. -/
theorem climb_congr {c c' : Corpus} (hblocks : c.blocksIn = c'.blocksIn)
    (hparents : c.parents = c'.parents) (name : String) (levels : Nat)
    (seen frontier : List Template) :
    climb c name levels seen frontier = climb c' name levels seen frontier := by
  induction levels generalizing seen frontier with
  | zero => rfl
  | succ levels ih => rw [climb_succ, climb_succ, hblocks, hparents, ih]

/-- A climb finds the same blocks, in another order, when its levels are given in another order. -/
theorem climb_perm (hs : s.HasDistinctPaths) (h : s.templates.Perm s'.templates) (name : String)
    (levels : Nat) {seen seen' frontier frontier' : List Template}
    (hrecorded : ∀ t ∈ frontier, Recorded s t) (hseen : seen.Perm seen')
    (hfrontier : frontier.Perm frontier') :
    (climb (ofSnapshot s) name levels seen frontier).Perm
      (climb (ofSnapshot s') name levels seen' frontier') := by
  induction levels generalizing seen seen' frontier frontier' with
  | zero => exact .nil
  | succ levels ih =>
    have hlevel : (unseen seen frontier).Perm (unseen seen' frontier') :=
      unseen_perm (fun t ht u hu => (hrecorded t ht).eq hs (hrecorded u hu)) hseen hfrontier
    have hfound : (((unseen seen frontier).flatMap (ofSnapshot s).blocksIn).filter
        (·.name == name)).Perm (((unseen seen' frontier').flatMap (ofSnapshot s').blocksIn).filter
          (·.name == name)) := by
      rw [← funext (blocksIn_perm hs h)]
      exact (hlevel.flatMap_right _).filter _
    have hnext : ((unseen seen frontier).flatMap (ofSnapshot s).parents).Perm
        ((unseen seen' frontier').flatMap (ofSnapshot s').parents) :=
      hlevel.flatMap fun t _ => parents_perm hs h t
    rw [climb_succ, climb_succ, ← hlevel.isEmpty_eq, ← hfound.isEmpty_eq]
    by_cases hend : (unseen seen frontier).isEmpty = true
    · rw [if_pos hend, if_pos hend]
    · rw [if_neg hend, if_neg hend]
      split
      · refine ih (fun u hu => ?_) (hseen.append hlevel) hnext
        obtain ⟨t, -, hu⟩ := List.mem_flatMap.mp hu
        exact recorded_of_mem_parents hu
      · exact hfound

/-- The blocks above a block are the same in some order. -/
theorem parentBlocks_perm (hs : s.HasDistinctPaths) (h : s.templates.Perm s'.templates)
    (b : Block) : ((ofSnapshot s).parentBlocks b).Perm ((ofSnapshot s').parentBlocks b) := by
  have hsize : (ofSnapshot s).size = (ofSnapshot s').size := by
    rw [size, size, records_ofSnapshot hs, records_ofSnapshot (hasDistinctPaths_perm h hs),
      List.length_map, List.length_map, h.length_eq]
  rw [parentBlocks, parentBlocks, hsize]
  exact climb_perm hs h b.name _ (fun t ht => recorded_of_mem_parents ht) .rfl
    (parents_perm hs h b.template)

theorem recorded_of_mem_parentBlocks {p : Block} (h : p ∈ (ofSnapshot s).parentBlocks b) :
    Recorded s p.template :=
  (mem_climb (Recorded s) h (fun _ hu => recorded_of_mem_parents hu)
    fun _ _ _ hv => recorded_of_mem_parents hv).2.2

/-- A corpus of reordered records knows the same in another order. -/
theorem reordered_answer (hs : s.HasDistinctPaths) (h : s.templates.Perm s'.templates)
    (hcontrollers : s.controllers = s'.controllers) :
    Knowledge.Reordered (Recorded s) (ofSnapshot s).answer (ofSnapshot s').answer where
  recorded_once ht hu := ht.eq hs hu
  entries_perm := entries_perm hs h
  templatesNamed_perm := templatesNamed_perm hs h
  recorded_of_named := recorded_of_mem_templatesNamed
  referencing_perm := referencing_perm hs h
  recorded_of_referencing := recorded_of_mem_referencing
  controllersOf_eq t := by
    change (ofSnapshot s).controllersOf t = (ofSnapshot s').controllersOf t
    rw [controllersOf, record?_perm hs h, controllers_ofSnapshot, hcontrollers, controllersOf,
      controllers_ofSnapshot]
  actionFor_eq r := by
    change (ofSnapshot s).actionFor r = (ofSnapshot s').actionFor r
    rw [actionFor, controllers_ofSnapshot, hcontrollers, actionFor, controllers_ofSnapshot]
  inclusionsIn_eq := inclusionsIn_perm hs h
  blocksIn_eq := blocksIn_perm hs h
  template_of_block := template_of_mem_blocksIn
  parentBlocks_perm := parentBlocks_perm hs h
  recorded_of_parentBlock := recorded_of_mem_parentBlocks

/-- Where the records of a snapshot have different paths, the order of the records shows in a report
only as the order of what is related. -/
theorem report_perm (s s' : Snapshot) (hs : s.HasDistinctPaths)
    (h : s.templates.Perm s'.templates) (hcontrollers : s.controllers = s'.controllers)
    (rules : Rules) (document : Template) :
    ∃ r r', (ofSnapshot s).undisturbed rules document .report = .ok r ∧
      (ofSnapshot s').undisturbed rules document .report = .ok r' ∧ r.SameUpToOrder r' :=
  ⟨_, _, undisturbed_eq (indexing_ofSnapshot s) .report,
    undisturbed_eq (indexing_ofSnapshot s') .report,
    (reordered_answer hs h hcontrollers).report (consistent_answer _) (consistent_answer _) rules
      document⟩

end Corpus

/-- A page of a given name that extends a base. -/
def TemplateRecord.page (name : String) : TemplateRecord where
  path := .ofString (name ++ ".twig")
  names := [.ofString name]
  inclusions := [⟨.inherit, some "base", .zero⟩]
  blocks := []

/-- A base and the pages that extend it. -/
def Snapshot.pagesOverBase (names : List String) : Snapshot where
  templates := ⟨.ofString "base.twig", [.ofString "base"], [], []⟩ :: names.map .page
  controllers := []

namespace Corpus

/-- Two pages that extend a base are listed in the order of their records, and otherwise the reports
are the same. -/
theorem report_perm_pagesOverBase :
    let base : Template := .ofString "base.twig"
    let home : Template := .ofString "home.twig"
    let shop : Template := .ofString "shop.twig"
    let homeFirst : Snapshot := .pagesOverBase ["home", "shop"]
    let shopFirst : Snapshot := .pagesOverBase ["shop", "home"]
    homeFirst.HasDistinctPaths ∧ homeFirst.templates.Perm shopFirst.templates ∧
      ∃ r r', (ofSnapshot homeFirst).undisturbed (Corpus.rules .default) base .report = .ok r ∧
        (ofSnapshot shopFirst).undisturbed (Corpus.rules .default) base .report = .ok r' ∧
        r.SameUpToOrder r' ∧ r.includers = [home, shop] ∧ r'.includers = [shop, home] := by
  intro base home shop homeFirst shopFirst
  have hpaths : homeFirst.HasDistinctPaths := by
    unfold Snapshot.HasDistinctPaths Distinct.NoRepeat
    decide
  have hperm : homeFirst.templates.Perm shopFirst.templates := .cons _ (.swap _ _ _)
  obtain ⟨r, r', hr, hr', hsame⟩ :=
    report_perm homeFirst shopFirst hpaths hperm rfl (Corpus.rules .default) base
  have hincluders {s : Snapshot} {r : Report}
      (h : (ofSnapshot s).undisturbed (Corpus.rules .default) base .report = .ok r) :
      r.includers = Knowledge.answerTo (ofSnapshot s).answer (Corpus.rules .default) base
        .includers := by
    rw [undisturbed_eq (indexing_ofSnapshot s)] at h
    exact (congrArg Report.includers (Except.ok.inj h)).symm
  refine ⟨hpaths, hperm, r, r', hr, hr', hsame, ?_, ?_⟩
  · rw [hincluders hr]
    decide +kernel
  · rw [hincluders hr']
    decide +kernel

end Corpus

end TwigRelations
