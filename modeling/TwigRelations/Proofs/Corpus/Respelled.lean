import TwigRelations.Proofs.Corpus.Includers
import TwigRelations.Proofs.Corpus.Reordered
import TwigRelations.Proofs.Document.Respelled

/-!
# Corpora of respelled snapshots

A snapshot may spell a name in another way wherever one is written: in the names of a template, in
what a reference or a controller names. Each table of a corpus is filled and read by key, so the
corpora of both snapshots say the same but for the spelling of names.
-/

namespace TwigRelations

/-- Two references are the same but for the spelling of the name. -/
structure Inclusion.Respelled (i i' : Inclusion) : Prop where
  kind_eq : i.kind = i'.kind
  key_eq : i.target.map normalize = i'.target.map normalize
  span_eq : i.span = i'.span

/-- Two records are the same but for the spelling of names. -/
structure TemplateRecord.Respelled (r r' : TemplateRecord) : Prop where
  path_eq : r.path = r'.path
  keys_eq : r.names.map identity = r'.names.map identity
  inclusions : List.Forall₂ Inclusion.Respelled r.inclusions r'.inclusions
  blocks_eq : r.blocks = r'.blocks

/-- Two records are the same but for the spelling of names. -/
structure ControllerRecord.Respelled (k k' : ControllerRecord) : Prop where
  action_eq : k.action = k'.action
  keys_eq : k.renders.map identity = k'.renders.map identity
  route_eq : k.route = k'.route

/-- Two snapshots are the same but for the spelling of names. -/
structure Snapshot.Respelled (s s' : Snapshot) : Prop where
  templates : List.Forall₂ TemplateRecord.Respelled s.templates s'.templates
  controllers : List.Forall₂ ControllerRecord.Respelled s.controllers s'.controllers

/-- References that are respelled name templates of one key. -/
theorem Inclusion.Respelled.construct? {i i' : Inclusion} (h : i.Respelled i') :
    Option.Rel Construct.Respelled i.construct? i'.construct? := by
  have hkey := h.key_eq
  rw [Inclusion.construct?, Inclusion.construct?]
  cases htarget : i.target with
  | none =>
    rw [htarget, Option.map_none, eq_comm, Option.map_eq_none_iff] at hkey
    rw [hkey]
    exact .none
  | some target =>
    rw [htarget, Option.map_some, eq_comm, Option.map_eq_some_iff] at hkey
    obtain ⟨target', htarget', hkey⟩ := hkey
    have hname : identity (LogicalName.ofString target) = identity (LogicalName.ofString target') :=
      hkey.symm
    rw [htarget', Option.map_some, Option.bind_some, Option.map_some, Option.bind_some,
      LogicalName.isEmpty_congr hname]
    split
    · exact .none
    · exact .some ⟨h.kind_eq, hname, h.span_eq⟩

/-- References that are respelled name templates of the same keys. -/
theorem Inclusion.constructs_respelled {inclusions inclusions' : List Inclusion}
    (h : List.Forall₂ Inclusion.Respelled inclusions inclusions') :
    List.Forall₂ Construct.Respelled (inclusions.filterMap construct?)
      (inclusions'.filterMap construct?) :=
  List.rel_filterMap (fun _ _ hi => hi.construct?) h

namespace TemplateRecord.Respelled

variable {r r' : TemplateRecord}

/-- A respelled record is of the same file. -/
theorem template_eq (h : r.Respelled r') : r.template = r'.template :=
  congrArg Template.mk h.path_eq

/-- Respelled names are registered under the same keys. -/
theorem registeredNames_keys (h : r.Respelled r') :
    (Corpus.registeredNames r).map identity = (Corpus.registeredNames r').map identity := by
  have hfilter (names : List LogicalName) : (names.filter (!·.isEmpty)).map identity =
      (names.map identity).filter (!·.isEmpty) := by
    rw [List.filter_map]
    rfl
  rw [Corpus.registeredNames, hfilter, h.keys_eq, ← hfilter, Corpus.registeredNames]

theorem targetNames_keys (h : r.Respelled r') :
    (Corpus.targetNames r).map identity = (Corpus.targetNames r').map identity := by
  rw [Corpus.targetNames, List.map_map, Corpus.targetNames, List.map_map]
  exact map_eq_of_forall₂ (Inclusion.constructs_respelled h.inclusions) fun _ _ hc => hc.key_eq

end TemplateRecord.Respelled

namespace Corpus

variable {s s' : Snapshot} {m n : LogicalName}

/-- A record is listed under a name as its keys tell. -/
theorem listedAs_congr {names : TemplateRecord → List LogicalName} {r r' : TemplateRecord}
    (hkeys : (names r).map identity = (names r').map identity)
    (htemplate : r.template = r'.template) (h : identity m = identity n) :
    listedAs names m r = listedAs names n r' := by
  have hsame (a b : LogicalName) (hab : identity a = identity b) :
      same m a = true ↔ same n b = true := by
    rw [same_iff, same_iff, h, hab]
  exact map_eq_of_forall₂ (List.rel_filter hsame (map_eq_map_iff_forall₂.mp hkeys))
    fun _ _ _ => htemplate

/-- Names of one key lead to the same templates in both snapshots. -/
theorem templatesNamed_respelled (hs : s.Respelled s') (h : identity m = identity n) :
    (ofSnapshot s).templatesNamed m = (ofSnapshot s').templatesNamed n := by
  rw [templatesNamed_ofSnapshot, templatesNamed_ofSnapshot]
  exact congrArg Distinct.ofList <| flatMap_eq_of_forall₂ hs.templates fun _ _ hr =>
    listedAs_congr hr.registeredNames_keys hr.template_eq h

/-- Names of one key are referred to by the same templates in both snapshots. -/
theorem referencing_respelled (hs : s.Respelled s') (h : identity m = identity n) :
    (ofSnapshot s).referencing m = (ofSnapshot s').referencing n := by
  rw [referencing_ofSnapshot, referencing_ofSnapshot]
  exact congrArg Distinct.ofList <| flatMap_eq_of_forall₂ hs.templates fun _ _ hr =>
    listedAs_congr hr.targetNames_keys hr.template_eq h

/-- The records of a corpus are related as those of its snapshot, row by row. -/
theorem records_forall₂ {R : TemplateRecord → TemplateRecord → Prop}
    (hR : ∀ r r', R r r' → r.template = r'.template)
    (h : List.Forall₂ R s.templates s'.templates) :
    List.Forall₂ (Table.RowAlike R) (ofSnapshot s).records (ofSnapshot s').records := by
  let alike (c c' : Corpus) : Prop := List.Forall₂ (Table.RowAlike R) c.records c'.records
  have hstep (c c' : Corpus) (hc : alike c c') (r r' : TemplateRecord) (hr : R r r') :
      alike (c.addRecord r) (c'.addRecord r') := by
    change List.Forall₂ _ (Table.put _ _ _) (Table.put _ _ _)
    rw [hR r r' hr]
    exact Table.forall₂_put hc r'.template hr
  exact List.rel_foldl (P := alike) hstep .nil h

/-- A template has the same record but for the spelling of names. -/
theorem record?_respelled (hs : s.Respelled s') (t : Template) :
    ((ofSnapshot s).record? t = none ∧ (ofSnapshot s').record? t = none) ∨
      ∃ r r', (ofSnapshot s).record? t = some r ∧ (ofSnapshot s').record? t = some r' ∧
        r.Respelled r' := by
  have hrecords := records_forall₂ (fun _ _ => TemplateRecord.Respelled.template_eq) hs.templates
  exact rel_cases (Table.get?_of_forall₂ hrecords t)

/-- The references of a template are respelled one by one. -/
theorem inclusionsIn_respelled (hs : s.Respelled s') (t : Template) :
    List.Forall₂ Inclusion.Respelled ((ofSnapshot s).inclusionsIn t)
      ((ofSnapshot s').inclusionsIn t) := by
  rw [inclusionsIn, inclusionsIn]
  rcases record?_respelled hs t with ⟨hnone, hnone'⟩ | ⟨r, r', hsome, hsome', hr⟩
  · rw [hnone, hnone']
    exact .nil
  · rw [hsome, hsome']
    exact hr.inclusions

theorem blocksIn_respelled (hs : s.Respelled s') (t : Template) :
    (ofSnapshot s).blocksIn t = (ofSnapshot s').blocksIn t := by
  rw [blocksIn, blocksIn]
  rcases record?_respelled hs t with ⟨hnone, hnone'⟩ | ⟨r, r', hsome, hsome', hr⟩
  · rw [hnone, hnone']
  · rw [hsome, hsome', Option.map_some, Option.map_some, hr.blocks_eq]

theorem parents_respelled (hs : s.Respelled s') (t : Template) :
    (ofSnapshot s).parents t = (ofSnapshot s').parents t := by
  have hextends (i i' : Inclusion) (hi : i.Respelled i') :
      (i.kind == .inherit) = true ↔ (i'.kind == .inherit) = true := by rw [hi.kind_eq]
  have hconstructs := Inclusion.constructs_respelled
    (List.rel_filter hextends (inclusionsIn_respelled hs t))
  rw [parents, flatMap_eq_of_forall₂ hconstructs fun _ _ hc =>
    templatesNamed_respelled hs hc.key_eq, parents]

theorem parentBlocks_respelled (hs : s.Respelled s') (b : Block) :
    (ofSnapshot s).parentBlocks b = (ofSnapshot s').parentBlocks b := by
  have hsize : (ofSnapshot s).size = (ofSnapshot s').size :=
    (records_forall₂ (fun _ _ => TemplateRecord.Respelled.template_eq) hs.templates).length_eq
  rw [parentBlocks, hsize, parents_respelled hs, parentBlocks]
  exact climb_congr (funext (blocksIn_respelled hs)) (funext (parents_respelled hs)) ..

theorem controllersOf_respelled (hs : s.Respelled s') (t : Template) :
    (ofSnapshot s).controllersOf t = (ofSnapshot s').controllersOf t := by
  rw [controllersOf, controllersOf, controllers_ofSnapshot, controllers_ofSnapshot]
  rcases record?_respelled hs t with ⟨hnone, hnone'⟩ | ⟨r, r', hsome, hsome', hr⟩
  · rw [hnone, hnone']
  · have hrenders (k k' : ControllerRecord) (hk : k.Respelled k') :
        k.renders.any (Distinct.holds r.names) = true ↔
          k'.renders.any (Distinct.holds r'.names) = true := by
      rw [Distinct.any_holds_eq_of_keys hk.keys_eq hr.keys_eq]
    rw [hsome, hsome']
    exact map_eq_of_forall₂ (List.rel_filter hrenders hs.controllers) fun _ _ hk => hk.action_eq

theorem actionFor_respelled (hs : s.Respelled s') (r : ActionRef) :
    (ofSnapshot s).actionFor r = (ofSnapshot s').actionFor r := by
  have hfind {p : ControllerRecord → Bool} (hp : ∀ k k', k.Respelled k' → p k = p k') :
      (s.controllers.find? p).map (·.action) = (s'.controllers.find? p).map (·.action) := by
    rcases rel_cases (find?_of_forall₂ hs.controllers hp) with
      ⟨hnone, hnone'⟩ | ⟨k, k', hsome, hsome', hk⟩
    · rw [hnone, hnone']
    · rw [hsome, hsome', Option.map_some, Option.map_some, hk.action_eq]
  rw [actionFor, actionFor, controllers_ofSnapshot, controllers_ofSnapshot, Option.map_or,
    Option.map_or, hfind fun k k' hk => by rw [hk.route_eq],
    hfind fun k k' hk => by rw [hk.action_eq]]

/-- A template has the same names but for their spelling. -/
theorem namesOf_respelled (hs : s.Respelled s') (t : Template) :
    (s.namesOf t).map identity = (s'.namesOf t).map identity := by
  rw [Snapshot.namesOf, Snapshot.namesOf, ← record?_ofSnapshot, ← record?_ofSnapshot]
  rcases record?_respelled hs t with ⟨hnone, hnone'⟩ | ⟨r, r', hsome, hsome', hr⟩
  · rw [hnone, hnone']
  · rw [hsome, hsome']
    exact hr.registeredNames_keys

/-- The names of a template are in one order however they are spelled. -/
theorem namesFor_respelled (hs : s.Respelled s') (t : Template) :
    (Knowledge.namesFor (ofSnapshot s).answer t).map identity =
      (Knowledge.namesFor (ofSnapshot s').answer t).map identity := by
  have hshown (s : Snapshot) :
      (Knowledge.namesFor (ofSnapshot s).answer t).Pairwise LogicalName.ShownBefore := by
    rw [Knowledge.namesFor, Knowledge.toNamespace, Namespace.namesFor_ofEntries]
    exact pairwise_arrangeNames _
  refine map_identity_eq_of_pairwise_shownBefore (hshown s) (hshown s') fun n => ?_
  rw [holds_namesFor_eq, holds_namesFor_eq]
  exact Distinct.holds_eq_of_keys (namesOf_respelled hs t) rfl

/-- Corpora of respelled snapshots say the same but for the spelling of names. -/
theorem respelled_answer (hs : s.Respelled s') :
    Knowledge.Respelled (ofSnapshot s).answer (ofSnapshot s').answer where
  keys_eq := namesFor_respelled hs
  templatesNamed_eq := templatesNamed_respelled hs
  referencing_eq := referencing_respelled hs
  hasReferencing_eq h := by
    change (!((ofSnapshot s).referencing _).isEmpty) = !((ofSnapshot s').referencing _).isEmpty
    rw [referencing_respelled hs h]
  constructsIn t := Inclusion.constructs_respelled (inclusionsIn_respelled hs t)
  blocksIn_eq := blocksIn_respelled hs
  parentBlocks_eq := parentBlocks_respelled hs
  controllersOf_eq := controllersOf_respelled hs
  actionFor_eq := actionFor_respelled hs

/-- Where each record spells its names alike, so do the entries of a corpus. -/
theorem entries_eq_of_names (h : List.Forall₂ (fun r r' : TemplateRecord =>
    r.template = r'.template ∧ r.names = r'.names) s.templates s'.templates) :
    (ofSnapshot s).entries = (ofSnapshot s').entries := by
  have hrecords := records_forall₂ (fun _ _ hr => hr.1) h
  rw [entries, entries]
  refine flatMap_eq_of_forall₂ hrecords ?_
  rintro ⟨t, r⟩ ⟨t', r'⟩ ⟨htemplate, -, hnames⟩
  dsimp only at htemplate hnames ⊢
  rw [htemplate, hnames]

/-- Spelling names in another way changes nothing in the report of a document but the spelling of
names and what reads it, which are labels and naming conventions. Where the names of templates are
spelled alike, it changes nothing but how the targets of constructs are spelled. -/
theorem report_respelled (s s' : Snapshot) (hs : s.Respelled s') (rules : Rules)
    (document : Template) :
    ∃ r r', (ofSnapshot s).undisturbed rules document .report = .ok r ∧
      (ofSnapshot s').undisturbed rules document .report = .ok r' ∧
      r.SameUpToSpelling r' ∧
      (s.templates.map (·.names) = s'.templates.map (·.names) → r.SameUpToTargets r') := by
  have hanswer := respelled_answer hs
  refine ⟨_, _, undisturbed_eq (indexing_ofSnapshot s) .report,
    undisturbed_eq (indexing_ofSnapshot s') .report, hanswer.report rules document,
    fun hnames => hanswer.report_of_toNamespace_eq ?_ rules document⟩
  have hboth := both_of_forall₂ (hs.templates.imp fun _ _ hr => hr.template_eq)
    (map_eq_map_iff_forall₂.mp hnames)
  exact congrArg Namespace.ofEntries (entries_eq_of_names hboth)

end Corpus

/-- A page that extends a base, and an action that renders the base. The base has a name of its own,
and is referred to by another. -/
def Snapshot.pageOver (name target : String) : Snapshot where
  templates := [
    { path := .ofString "base.twig"
      names := [.ofString name]
      inclusions := []
      blocks := [⟨"body", .zero⟩] },
    { path := .ofString "page.twig"
      names := [.ofString "page"]
      inclusions := [⟨.inherit, some target, .zero⟩]
      blocks := [⟨"body", .zero⟩] }]
  controllers := [⟨⟨"App\\Home::index", none, none⟩, [.ofString target], none⟩]

/-- Another spelling of either name gives a respelled snapshot. -/
theorem Snapshot.respelled_pageOver {name name' target target' : String}
    (hname : normalize name = normalize name') (htarget : normalize target = normalize target') :
    (pageOver name target).Respelled (pageOver name' target') where
  templates :=
    .cons ⟨rfl, congrArg ([·]) hname, .nil, rfl⟩
      (.cons ⟨rfl, rfl, .cons ⟨rfl, congrArg some htarget, rfl⟩ .nil, rfl⟩ .nil)
  controllers := .cons ⟨rfl, congrArg ([·]) htarget, rfl⟩ .nil

namespace Corpus

/-- A base is extended by a page under whatever spelling, and its report shows no more than the
spelling of the target where only that is in capitals. -/
theorem report_respelled_pageOver :
    let base : Template := .ofString "base.twig"
    let written : Snapshot := .pageOver "base" "base"
    let respelled : Snapshot := .pageOver "./Base" " BASE"
    let capital : Snapshot := .pageOver "base" "BASE"
    written.Respelled respelled ∧ written.Respelled capital ∧
      written.templates.map (·.names) = capital.templates.map (·.names) ∧
      ∃ r r' r'', (ofSnapshot written).undisturbed (Corpus.rules .default) base .report = .ok r ∧
        (ofSnapshot respelled).undisturbed (Corpus.rules .default) base .report = .ok r' ∧
        (ofSnapshot capital).undisturbed (Corpus.rules .default) base .report = .ok r'' ∧
        r.SameUpToSpelling r' ∧ r.SameUpToTargets r'' := by
  intro base written respelled capital
  have hrespelled : written.Respelled respelled :=
    Snapshot.respelled_pageOver (by decide) (by decide)
  have hcapital : written.Respelled capital := Snapshot.respelled_pageOver rfl (by decide)
  obtain ⟨r, r', hr, hr', hsame, -⟩ :=
    report_respelled written respelled hrespelled (Corpus.rules .default) base
  obtain ⟨q, r'', hq, hr'', -, htargets⟩ :=
    report_respelled written capital hcapital (Corpus.rules .default) base
  obtain rfl : q = r := Except.ok.inj (hq.symm.trans hr)
  exact ⟨hrespelled, hcapital, rfl, q, r', r'', hr, hr', hr'', hsame, htargets rfl⟩

end Corpus

end TwigRelations
