import TwigRelations.Proofs.Corpus.Tables
import TwigRelations.Proofs.Corpus.Undisturbed
import TwigRelations.Proofs.Descent

/-!
# Overriding and implementing

What a block overrides is found by climbing from its template over the templates that it extends,
and what implements a block by descending from its template over the templates that refer to it. The
two agree: within the depth of the descent a block implements whatever it overrides.
-/

namespace TwigRelations

/-- One template of a snapshot extends another one by a name of that. -/
def Snapshot.Extends (s : Snapshot) (t u : Template) : Prop :=
  ∃ r ∈ s.templates, identity r.template = identity t ∧ ∃ k ∈ r.constructs, k.kind = .inherit ∧
    ∃ r' ∈ s.templates, identity r'.template = identity u ∧ ∃ n ∈ r'.names,
      identity n = identity k.target

namespace Corpus

variable {c : Corpus} {s : Snapshot} {t u : Template} {b p : Block} {n : LogicalName}

/-- A template that extends another one refers to it. -/
theorem refers_of_extends (hs : s.HasDistinctPaths) (h : s.Extends t u) :
    Knowledge.Refers (ofSnapshot s).answer t u := by
  obtain ⟨r, hr, hrt, k, hk, -, r', hr', hru, n, hn, hkey⟩ := h
  obtain ⟨i, -, hik⟩ := List.mem_filterMap.mp hk
  have hnamed : Distinct.holds (Knowledge.namesFor (ofSnapshot s).answer u) k.target = true :=
    (holds_namesFor hs).mpr ⟨(Inclusion.construct?_eq_some hik).2, r', hr', hru, n, hn, hkey⟩
  obtain ⟨name, hname, hsame⟩ := Distinct.holds_iff_exists.mp hnamed
  have hlisted : Distinct.holds ((ofSnapshot s).referencing name) t = true :=
    holds_referencing.mpr ⟨r, hr, k, hk, hsame.symm, hrt⟩
  exact Distinct.holds_ofList.mpr (Distinct.holds_flatMap.mpr ⟨name, hname, hlisted⟩)

/-- The parents of a template are the templates that it extends. -/
theorem holds_parents (hs : s.HasDistinctPaths) :
    Distinct.holds ((ofSnapshot s).parents t) u = true ↔ s.Extends t u := by
  rw [holds_parents_iff_recorded]
  constructor
  · rintro ⟨r, hrecord, hextends⟩
    obtain ⟨hr, hrt⟩ := (record?_eq_some_iff hs).mp hrecord
    exact ⟨r, hr, hrt, hextends⟩
  · rintro ⟨r, hr, hrt, hextends⟩
    exact ⟨r, (record?_eq_some_iff hs).mpr ⟨hr, hrt⟩, hextends⟩

theorem mem_unseen {seen frontier : List Template} (hu : u ∈ unseen seen frontier) :
    u ∈ frontier ∧ Distinct.holds seen u = false := by
  obtain ⟨hmem, hseen⟩ := List.mem_filter.mp hu
  exact ⟨Distinct.mem_of_mem_ofList hmem, Bool.not_eq_true' _ ▸ hseen⟩

/-- A climb finds blocks of its name, in templates that were not seen before and that it can climb
to. -/
theorem mem_climb (ancestor : Template → Prop) {name : String} {levels : Nat}
    {seen frontier : List Template} (hp : p ∈ climb c name levels seen frontier)
    (hfrontier : ∀ u ∈ frontier, ancestor u)
    (hparents : ∀ u, ancestor u → ∀ v ∈ c.parents u, ancestor v) :
    p.name = name ∧ Distinct.holds seen p.template = false ∧ ancestor p.template := by
  induction levels generalizing seen frontier with
  | zero => contradiction
  | succ levels ih =>
    rw [climb] at hp
    split at hp
    · contradiction
    · split at hp
      · have hnext : ∀ v ∈ (unseen seen frontier).flatMap c.parents, ancestor v := by
          intro v hv
          obtain ⟨u, hu, hvu⟩ := List.mem_flatMap.mp hv
          exact hparents u (hfrontier u (mem_unseen hu).1) v hvu
        obtain ⟨hname, hseen, hancestor⟩ := ih hp hnext
        rw [Bool.eq_false_iff] at hseen ⊢
        exact ⟨hname, fun h => hseen (Distinct.holds_append.mpr (.inl h)), hancestor⟩
      · obtain ⟨hblock, hname⟩ := List.mem_filter.mp hp
        obtain ⟨u, hu, hpu⟩ := List.mem_flatMap.mp hblock
        obtain ⟨hfront, hseen⟩ := mem_unseen hu
        rw [template_of_mem_blocksIn hpu]
        exact ⟨eq_of_beq hname, hseen, hfrontier u hfront⟩

/-- What a block overrides has its name and belongs to another template, one that a chain of
extensions leads to. -/
theorem mem_overrides (hs : s.HasDistinctPaths)
    (hp : p ∈ Knowledge.overrides (ofSnapshot s).answer b) :
    p.name = b.name ∧ identity b.template ≠ identity p.template ∧
      ∃ steps, Within s.Extends steps b.template p.template := by
  have hparent := (List.mem_filter.mp (Distinct.mem_of_mem_ofList hp)).1
  have hextends (u v : Template) (hv : v ∈ (ofSnapshot s).parents u) : s.Extends u v :=
    (holds_parents hs).mp (Distinct.holds_of_mem hv)
  obtain ⟨hname, hseen, hsteps⟩ := mem_climb
    (fun u => ∃ steps, Within s.Extends steps b.template u) hparent
    (fun u hu => ⟨1, .step (.refl rfl) (hextends _ u hu)⟩)
    (fun u ⟨steps, hu⟩ v hv => ⟨steps + 1, hu.step (hextends u v hv)⟩)
  refine ⟨hname, fun hsame => ?_, hsteps⟩
  rw [Bool.eq_false_iff] at hseen
  exact hseen (Distinct.holds_iff_exists.mpr ⟨b.template, List.mem_cons_self, hsame⟩)

/-- A block of a child template implements every block of its name. -/
theorem holds_implementations {settings : Settings} (hb : b ∈ c.blocksIn t)
    (hname : b.name = p.name)
    (ht : Distinct.holds (Knowledge.children c.answer settings p.template) t = true) :
    Distinct.holds (Knowledge.implementations c.answer settings p) b = true := by
  obtain ⟨u, hu, hut⟩ := Distinct.holds_iff_exists.mp ht
  have hbu : { b with template := u } ∈ (c.blocksIn u).filter (·.name == p.name) :=
    List.mem_filter.mpr ⟨mem_blocksIn_of_same hut.symm hb, beq_iff_eq.mpr hname⟩
  refine Distinct.holds_ofList.mpr (Distinct.holds_flatMap.mpr ⟨u, hu, ?_⟩)
  refine Distinct.holds_iff_exists.mpr ⟨_, hbu, ?_⟩
  have htemplate : b.template = t := template_of_mem_blocksIn hb
  change (identity u, b.name, b.span) = (identity b.template, b.name, b.span)
  rw [htemplate, hut]

/-- Where the records of a snapshot have different paths, each block that a block of a template
overrides is in a template that a chain of extensions leads to, and is implemented by that block
unless the shortest such chain is longer than children are searched for. -/
theorem implementations_of_overrides (s : Snapshot) (hs : s.HasDistinctPaths) (settings : Settings)
    (t : Template) : ∀ b ∈ (ofSnapshot s).blocksIn t,
      ∃ overridden, (ofSnapshot s).resolve (Pass.overrides b) = .ok overridden ∧
        ∀ p ∈ overridden, (∃ steps, Within s.Extends steps t p.template) ∧
          (Within s.Extends settings.maxChildDepth t p.template →
            ∃ found, (ofSnapshot s).resolve (Pass.implementations settings p) = .ok found ∧
              Distinct.holds found b = true) := by
  intro b hb
  obtain rfl : b.template = t := template_of_mem_blocksIn hb
  have hready := indexing_ofSnapshot s
  refine ⟨_, resolve_eq hready (Knowledge.yields_overrides b), fun p hp => ?_⟩
  obtain ⟨hname, hne, hsteps⟩ := mem_overrides hs hp
  refine ⟨hsteps, fun hw => ?_⟩
  refine ⟨_, resolve_eq hready (Knowledge.yields_implementations settings p), ?_⟩
  have hchild := Knowledge.holds_children hne (hw.mono fun _ _ => refers_of_extends hs)
  exact holds_implementations hb hname.symm hchild

/-- The block of the base that the body of a page overrides is implemented by that body. -/
theorem implementations_of_overrides_pageOverBase :
    let base : Template := .ofString "base.twig"
    let page : Template := .ofString "page.twig"
    ∃ found, (ofSnapshot .pageOverBase).resolve
        (Pass.implementations .default ⟨base, "body", .zero⟩) = .ok found ∧
      Distinct.holds found ⟨page, "body", .zero⟩ = true := by
  intro base page
  have hpaths : Snapshot.pageOverBase.HasDistinctPaths := by
    unfold Snapshot.HasDistinctPaths Distinct.NoRepeat
    decide
  obtain ⟨overridden, hresolve, himplement⟩ := implementations_of_overrides .pageOverBase hpaths
    .default page ⟨page, "body", .zero⟩ (by decide)
  have hbody : (ofSnapshot .pageOverBase).resolve (Pass.overrides ⟨page, "body", .zero⟩) =
      .ok [⟨base, "body", .zero⟩] := by decide +kernel
  obtain rfl := Except.ok.inj (hbody.symm.trans hresolve)
  have hextends : Snapshot.pageOverBase.Extends page base := (holds_parents hpaths).mp (by decide)
  exact (himplement ⟨base, "body", .zero⟩ List.mem_cons_self).2 (.step (.refl rfl) hextends)

end Corpus

end TwigRelations
