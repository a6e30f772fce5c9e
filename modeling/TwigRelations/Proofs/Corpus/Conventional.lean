import TwigRelations.Proofs.Corpus.Reordered
import TwigRelations.Proofs.Namespace.Arrangement

/-!
# Names that conventions are asked about

A convention reads the spelling of a name, while a document keeps one spelling for each of its
names: the least one. So an action is found by convention exactly if one of the spellings that are
kept leads to it, and a further name can hide an action only by shadowing such a spelling.
-/

namespace TwigRelations

/-- One spelling of a name shadows another one: it is less, so that a document keeps it instead. -/
def LogicalName.Shadows (m n : LogicalName) : Prop :=
  identity m = identity n ∧ compare m.raw n.raw = .lt

/-- The names of a record that are kept for its document: those that are not blank and that no other
spelling shadows. -/
def TemplateRecord.Keeps (r : TemplateRecord) (n : LogicalName) : Prop :=
  n ∈ r.names ∧ n.isEmpty = false ∧ ∀ m ∈ r.names, ¬m.Shadows n

/-- The conventions derive an action from a name, as far as its id tells. -/
def Corpus.Derives (c : Corpus) (rules : Rules) (n : LogicalName) (a : Action) : Prop :=
  ∃ convention ∈ rules.conventions, ∃ ref, convention.actionRef? n = some ref ∧
    ∃ found, c.actionFor ref = some found ∧ identity found = identity a

/-- A spelling comes no later than another one unless that comes before it. -/
theorem LogicalName.isLE_compare_iff {m n : LogicalName} :
    (compare n.raw m.raw).isLE = true ↔ compare m.raw n.raw ≠ .lt := by
  have hswap : compare n.raw m.raw = (compare m.raw n.raw).swap := Std.OrientedCmp.eq_swap
  rw [hswap]
  cases compare m.raw n.raw <;> decide

/-- A further name shadows at most those names that it is a lesser spelling of. -/
theorem TemplateRecord.Keeps.of_added {r r' : TemplateRecord} {added n : LogicalName}
    (h : r.Keeps n) (hnames : r'.names.Perm (added :: r.names)) (hadded : ¬added.Shadows n) :
    r'.Keeps n := by
  obtain ⟨hmem, hblank, hleast⟩ := h
  refine ⟨hnames.mem_iff.mpr (List.mem_cons_of_mem _ hmem), hblank, fun m hm => ?_⟩
  rcases List.mem_cons.mp (hnames.mem_iff.mp hm) with rfl | hm
  · exact hadded
  · exact hleast m hm

namespace Corpus

variable {s s' : Snapshot} {r : TemplateRecord} {t : Template} {n : LogicalName} {a : Action}
  {rules : Rules}

/-- The names that are given for a template are those of its record that are not blank. -/
theorem mem_given_entries (hs : s.HasDistinctPaths) (hr : r ∈ s.templates) :
    n ∈ Namespace.given (ofSnapshot s).entries r.template ↔
      n ∈ r.names ∧ n.isEmpty = false := by
  rw [Namespace.mem_given]
  constructor
  · rintro ⟨e, he, hblank, htemplate, rfl⟩
    obtain ⟨r', hr', heq, hname⟩ := (mem_entries hs).mp he
    rw [heq] at htemplate
    have hfound := (record?_eq_some_iff hs).mpr ⟨hr', htemplate⟩
    have hrecord := (record?_eq_some_iff hs).mpr ⟨hr, rfl⟩
    rw [Option.some.inj (hrecord.symm.trans hfound)]
    exact ⟨hname, hblank⟩
  · rintro ⟨hname, hblank⟩
    exact ⟨⟨n, r.template⟩, (mem_entries hs).mpr ⟨r, hr, rfl, hname⟩, hblank, rfl, rfl⟩

/-- The names of a document are those that are kept of its record. -/
theorem mem_namesFor_iff (hs : s.HasDistinctPaths) (hr : r ∈ s.templates) :
    n ∈ Knowledge.namesFor (ofSnapshot s).answer r.template ↔ r.Keeps n := by
  change n ∈ (Namespace.ofEntries (ofSnapshot s).entries).namesFor r.template ↔ _
  rw [Namespace.namesFor_ofEntries, mem_arrangeNames_iff, mem_given_entries hs hr,
    TemplateRecord.Keeps, and_assoc]
  refine and_congr_right fun _ => and_congr_right fun hblank => ?_
  constructor
  · rintro hleast m hm ⟨hkey, hlt⟩
    have hgiven : m ∈ Namespace.given (ofSnapshot s).entries r.template :=
      (mem_given_entries hs hr).mpr ⟨hm, (LogicalName.isEmpty_congr hkey).trans hblank⟩
    exact LogicalName.isLE_compare_iff.mp (hleast m hgiven hkey) hlt
  · intro hleast m hm hkey
    have hname := ((mem_given_entries hs hr).mp hm).1
    exact LogicalName.isLE_compare_iff.mpr fun hlt => hleast m hname ⟨hkey, hlt⟩

/-- An action is found by its coordinates among the controllers alone. -/
theorem derives_congr (h : s.controllers = s'.controllers) :
    (ofSnapshot s).Derives rules n a ↔ (ofSnapshot s').Derives rules n a := by
  have hfound (ref : ActionRef) : (ofSnapshot s).actionFor ref = (ofSnapshot s').actionFor ref := by
    simp only [actionFor, controllers_ofSnapshot, h]
  simp only [Derives, hfound]

/-- The actions that the conventions derive for a document are those derived from its names. -/
theorem holds_conventionalUsages (himplicit : rules.settings.implicitControllers = true) :
    Distinct.holds (Knowledge.conventionalUsages (ofSnapshot s).answer rules t) a = true ↔
      ∃ n ∈ Knowledge.namesFor (ofSnapshot s).answer t, (ofSnapshot s).Derives rules n a := by
  rw [Knowledge.conventionalUsages, if_pos himplicit, Distinct.holds_flatMap]
  refine exists_congr fun n => and_congr_right fun _ => ?_
  rw [Distinct.holds_iff_exists]
  constructor
  · rintro ⟨found, hfound, hid⟩
    obtain ⟨convention, hconvention, hderived⟩ := List.mem_filterMap.mp hfound
    obtain ⟨ref, href, haction⟩ := Option.bind_eq_some_iff.mp hderived
    exact ⟨convention, hconvention, ref, href, found, haction, hid⟩
  · rintro ⟨convention, hconvention, ref, href, found, haction, hid⟩
    have hderived : Knowledge.conventional? (ofSnapshot s).answer n convention = some found :=
      Option.bind_eq_some_iff.mpr ⟨ref, href, haction⟩
    exact ⟨found, List.mem_filterMap.mpr ⟨convention, hconvention, hderived⟩, hid⟩

/-- The actions recorded to render a template are those that render one of its recorded names. -/
theorem holds_controllersOf (hs : s.HasDistinctPaths) (hr : r ∈ s.templates) :
    Distinct.holds ((ofSnapshot s).controllersOf r.template) a = true ↔
      ∃ k ∈ s.controllers, identity k.action = identity a ∧
        ∃ n ∈ k.renders, Distinct.holds r.names n = true := by
  rw [controllersOf, (record?_eq_some_iff hs).mpr ⟨hr, rfl⟩, controllers_ofSnapshot]
  simp only [holds_map_action, List.any_eq_true]

/-- Where conventions count, a document is rendered by the actions that they derive from the names
kept for it, and by those that are recorded to render one of its names. -/
theorem holds_controllerUsages (hs : s.HasDistinctPaths) (hr : r ∈ s.templates)
    (himplicit : rules.settings.implicitControllers = true) :
    Distinct.holds (Knowledge.controllerUsages (ofSnapshot s).answer rules r.template) a = true ↔
      (∃ n, r.Keeps n ∧ (ofSnapshot s).Derives rules n a) ∨
        ∃ k ∈ s.controllers, identity k.action = identity a ∧
          ∃ n ∈ k.renders, Distinct.holds r.names n = true := by
  rw [Knowledge.controllerUsages, Distinct.holds_ofList, Distinct.holds_append,
    holds_conventionalUsages himplicit, ← holds_controllersOf hs hr]
  simp only [mem_namesFor_iff hs hr]
  rfl

/-- Where the records of a snapshot have different paths and conventions count, the actions that
render a template are those that a convention derives from a name kept for it, and those recorded to
render one of its names. Whatever else changes in the templates, a further name of the template
leaves them all in place unless it shadows a name that was kept. -/
theorem controllerUsages_spelled (s : Snapshot) (hs : s.HasDistinctPaths) (rules : Rules)
    (himplicit : rules.settings.implicitControllers = true) (r : TemplateRecord)
    (hr : r ∈ s.templates) :
    ∃ usages, (ofSnapshot s).undisturbed rules r.template .controllerUsages = .ok usages ∧
      (∀ a, Distinct.holds usages a = true ↔
        (∃ n, r.Keeps n ∧ (ofSnapshot s).Derives rules n a) ∨
          ∃ k ∈ s.controllers, identity k.action = identity a ∧
            ∃ n ∈ k.renders, Distinct.holds r.names n = true) ∧
      ∀ (s' : Snapshot) (r' : TemplateRecord) (added : LogicalName), s'.HasDistinctPaths →
        s'.controllers = s.controllers → r' ∈ s'.templates →
        r'.names.Perm (added :: r.names) → (∀ n, r.Keeps n → ¬added.Shadows n) →
        ∃ usages', (ofSnapshot s').undisturbed rules r'.template .controllerUsages = .ok usages' ∧
          ∀ a, Distinct.holds usages a = true → Distinct.holds usages' a = true := by
  refine ⟨_, undisturbed_eq (indexing_ofSnapshot s) .controllerUsages,
    fun a => holds_controllerUsages hs hr himplicit, ?_⟩
  intro s' r' added hs' hcontrollers hr' hnames hadded
  refine ⟨_, undisturbed_eq (indexing_ofSnapshot s') .controllerUsages, fun a ha => ?_⟩
  refine (holds_controllerUsages hs' hr' himplicit).mpr ?_
  rcases (holds_controllerUsages hs hr himplicit).mp ha with ⟨n, hkept, hderived⟩ | hrecorded
  · have hkept' : r'.Keeps n := hkept.of_added hnames (hadded n hkept)
    exact .inl ⟨n, hkept', (derives_congr hcontrollers).mpr hderived⟩
  · obtain ⟨k, hk, hid, n, hn, hheld⟩ := hrecorded
    refine .inr ⟨k, hcontrollers ▸ hk, hid, n, hn, ?_⟩
    rw [Distinct.holds_perm hnames]
    obtain ⟨m, hm, hkey⟩ := Distinct.holds_iff_exists.mp hheld
    exact Distinct.holds_iff_exists.mpr ⟨m, List.mem_cons_of_mem _ hm, hkey⟩

end Corpus

/-- A page under given names. -/
def TemplateRecord.postPage (names : List String) : TemplateRecord :=
  ⟨.ofString "show.twig", names.map .ofString, [], []⟩

/-- A page under given names, and an action that is not recorded to render anything. -/
def Snapshot.postPage (names : List String) : Snapshot where
  templates := [.postPage names]
  controllers := [⟨⟨"FooBundle\\PostController::showAction", none, none⟩, [], none⟩]

namespace Corpus

theorem hasDistinctPaths_postPage (names : List String) :
    (Snapshot.postPage names).HasDistinctPaths := List.nodup_singleton _

/-- The convention of Symfony derives the action from one spelling of the name of the page. -/
theorem derives_postPage (names : List String) :
    (ofSnapshot (.postPage names)).Derives (Corpus.rules .default)
      (.ofString "@Foo/Post/show.html.twig")
      ⟨"FooBundle\\PostController::showAction", none, none⟩ := by
  have href : Convention.symfony.actionRef? (.ofString "@Foo/Post/show.html.twig") =
      some ⟨some "FooBundle", "PostController", "showAction"⟩ := by decide +kernel
  have hanswers : answersTo ⟨"FooBundle\\PostController::showAction", none, none⟩
      ⟨some "FooBundle", "PostController", "showAction"⟩ = true := by decide +kernel
  refine ⟨Convention.symfony, List.mem_cons_self, _, href, _, ?_, rfl⟩
  simp [actionFor, controllers_ofSnapshot, Snapshot.postPage, hanswers]

/-- The action is found by the name of the page, and stays when the page is also given the name with
a blank at its end. -/
theorem controllerUsages_spelled_blankAtEnd :
    let name := "@Foo/Post/show.html.twig"
    let action : Action := ⟨"FooBundle\\PostController::showAction", none, none⟩
    ∃ usages usages', (ofSnapshot (.postPage [name])).undisturbed (Corpus.rules .default)
        (.ofString "show.twig") .controllerUsages = .ok usages ∧
      (ofSnapshot (.postPage [name ++ " ", name])).undisturbed (Corpus.rules .default)
        (.ofString "show.twig") .controllerUsages = .ok usages' ∧
      Distinct.holds usages action = true ∧ Distinct.holds usages' action = true := by
  intro name action
  have hkept : (TemplateRecord.postPage [name]).Keeps (.ofString name) := by
    unfold TemplateRecord.Keeps LogicalName.Shadows
    decide
  have hadded : ¬(LogicalName.ofString (name ++ " ")).Shadows (.ofString name) := by
    unfold LogicalName.Shadows
    decide
  have hunshadowed (n : LogicalName) (hn : (TemplateRecord.postPage [name]).Keeps n) :
      ¬(LogicalName.ofString (name ++ " ")).Shadows n := by
    obtain rfl := List.mem_singleton.mp hn.1
    exact hadded
  obtain ⟨usages, hok, hiff, hgrow⟩ := controllerUsages_spelled (.postPage [name])
    (hasDistinctPaths_postPage _) (Corpus.rules .default) rfl (.postPage [name])
    List.mem_cons_self
  obtain ⟨usages', hok', hkeep⟩ := hgrow (.postPage [name ++ " ", name])
    (.postPage [name ++ " ", name]) (.ofString (name ++ " ")) (hasDistinctPaths_postPage _) rfl
    List.mem_cons_self (.refl _) hunshadowed
  have hfound := (hiff action).mpr (.inl ⟨_, hkept, derives_postPage _⟩)
  exact ⟨usages, usages', hok, hok', hfound, hkeep action hfound⟩

/-- The action is lost when the page is also given its name with a leading `./`, which is the lesser
spelling and which no convention reads, although the name that leads to the action is still among
those written. -/
theorem controllerUsages_shadowed :
    let name := "@Foo/Post/show.html.twig"
    let action : Action := ⟨"FooBundle\\PostController::showAction", none, none⟩
    ∃ usages usages', (ofSnapshot (.postPage [name])).undisturbed (Corpus.rules .default)
        (.ofString "show.twig") .controllerUsages = .ok usages ∧
      (ofSnapshot (.postPage [name, "./" ++ name])).undisturbed (Corpus.rules .default)
        (.ofString "show.twig") .controllerUsages = .ok usages' ∧
      Distinct.holds usages action = true ∧
      (LogicalName.ofString name).isEmpty = false ∧
      (ofSnapshot (.postPage [name, "./" ++ name])).Derives (Corpus.rules .default)
        (.ofString name) action ∧
      Distinct.holds usages' action = false := by
  intro name action
  have hkept : (TemplateRecord.postPage [name]).Keeps (.ofString name) := by
    unfold TemplateRecord.Keeps LogicalName.Shadows
    decide
  have hshadows : (LogicalName.ofString ("./" ++ name)).Shadows (.ofString name) := by
    unfold LogicalName.Shadows
    decide
  have hunread : Convention.symfony.actionRef? (.ofString ("./" ++ name)) = none := by
    decide +kernel
  refine ⟨_, _, undisturbed_eq (indexing_ofSnapshot _) .controllerUsages,
    undisturbed_eq (indexing_ofSnapshot _) .controllerUsages, ?_, hkept.2.1, derives_postPage _, ?_⟩
  · exact (holds_controllerUsages (hasDistinctPaths_postPage _) List.mem_cons_self rfl).mpr
      (.inl ⟨_, hkept, derives_postPage _⟩)
  · refine Bool.eq_false_iff.mpr fun hfound => ?_
    have hpaths := hasDistinctPaths_postPage [name, "./" ++ name]
    have hnames (n : LogicalName) : n ∈ (TemplateRecord.postPage [name, "./" ++ name]).names ↔
        n = .ofString name ∨ n = .ofString ("./" ++ name) := by
      simp [TemplateRecord.postPage]
    rcases (holds_controllerUsages hpaths List.mem_cons_self rfl).mp hfound with
      ⟨n, ⟨hn, -, hleast⟩, convention, hconvention, ref, href, -⟩ | ⟨k, hk, -, n, hn, -⟩
    · rcases (hnames n).mp hn with rfl | rfl
      · exact hleast _ ((hnames _).mpr (.inr rfl)) hshadows
      · obtain rfl := List.mem_singleton.mp hconvention
        exact Option.some_ne_none ref (href.symm.trans hunread)
    · obtain rfl := List.mem_singleton.mp hk
      exact absurd hn List.not_mem_nil

end Corpus

end TwigRelations
