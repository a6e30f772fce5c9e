import TwigRelations.Proofs.Corpus.Includers
import TwigRelations.Proofs.Corpus.Reordered
import TwigRelations.Proofs.Document.Controllers

/-!
# Blank names

A blank name names nothing, and each table of a corpus leaves blank names out. Which actions render
a template is answered from the records themselves, though: there a blank name that an action
renders meets a blank name of a template. So leaving all blank names out of a snapshot changes the
controllers of a document, and nothing else.
-/

namespace TwigRelations

/-- Whether a reference names no template: it has no target, or a blank one. -/
def Inclusion.isBlank (i : Inclusion) : Bool :=
  i.target.all fun target => (LogicalName.ofString target).isEmpty

/-- A record without its blank names and references. -/
def TemplateRecord.withoutBlanks (r : TemplateRecord) : TemplateRecord :=
  { r with
    names := r.names.filter (!·.isEmpty)
    inclusions := r.inclusions.filter (!·.isBlank) }

/-- A record without its blank names. -/
def ControllerRecord.withoutBlanks (k : ControllerRecord) : ControllerRecord :=
  { k with renders := k.renders.filter (!·.isEmpty) }

namespace Snapshot

/-- A snapshot without its blank names and references. -/
def withoutBlanks (s : Snapshot) : Snapshot where
  templates := s.templates.map .withoutBlanks
  controllers := s.controllers.map .withoutBlanks

/-- Whether a controller is recorded to render a template by a name that is not blank. -/
def rendersByName (s : Snapshot) (t : Template) (k : ControllerRecord) : Bool :=
  k.renders.any (Distinct.holds (s.namesOf t))

/-- Whether there is a blank name among those that a controller renders and among those of a
template. -/
def rendersByBlank (s : Snapshot) (t : Template) (k : ControllerRecord) : Bool :=
  k.renders.any (·.isEmpty) && (s.lastRecord? t).any fun r => r.names.any (·.isEmpty)

end Snapshot

/-- Blank names are all one name. -/
theorem LogicalName.identity_eq_of_isEmpty {m n : LogicalName} (hm : m.isEmpty = true)
    (hn : n.isEmpty = true) : identity m = identity n := by
  have hkeys : m.key = n.key := by
    rw [String.isEmpty_iff.mp hm, String.isEmpty_iff.mp hn]
  exact hkeys

/-- A name is held among some names as one that is not blank, or as a blank one. -/
theorem Distinct.holds_iff_or_blank (names : List LogicalName) {n : LogicalName} :
    holds names n = true ↔ holds (names.filter (!·.isEmpty)) n = true ∨
      n.isEmpty = true ∧ ∃ m ∈ names, m.isEmpty = true := by
  rw [holds_iff_exists, holds_iff_exists]
  constructor
  · rintro ⟨m, hm, hkey⟩
    cases hblank : m.isEmpty with
    | false => exact .inl ⟨m, List.mem_filter.mpr ⟨hm, by rw [hblank]; rfl⟩, hkey⟩
    | true => exact .inr ⟨(LogicalName.isEmpty_congr hkey).symm.trans hblank, m, hm, hblank⟩
  · rintro (⟨m, hm, hkey⟩ | ⟨hn, m, hm, hblank⟩)
    · exact ⟨m, (List.mem_filter.mp hm).1, hkey⟩
    · exact ⟨m, hm, LogicalName.identity_eq_of_isEmpty hblank hn⟩

/-- Entries with a blank name do not show in a namespace. -/
theorem Namespace.ofEntries_filter (entries : List NamespaceEntry) :
    ofEntries (entries.filter (!·.name.isEmpty)) = ofEntries entries := by
  simp only [ofEntries, List.filter_filter, Bool.and_self]

namespace Inclusion

/-- A reference to a blank name names no template. -/
theorem construct?_eq_none_of_isBlank {i : Inclusion} (h : i.isBlank = true) :
    i.construct? = none := by
  rw [isBlank] at h
  rw [construct?]
  cases ht : i.target with
  | none => rfl
  | some target =>
    rw [ht, Option.all_some] at h
    rw [Option.map_some, Option.bind_some, if_pos h]

/-- References that name no template do not count. -/
theorem filterMap_construct?_filter (inclusions : List Inclusion) :
    (inclusions.filter (!·.isBlank)).filterMap construct? = inclusions.filterMap construct? := by
  rw [List.filterMap_filter]
  refine List.filterMap_congr fun i _ => ?_
  cases h : i.isBlank with
  | false => rfl
  | true => rw [construct?_eq_none_of_isBlank h]; rfl

end Inclusion

namespace TemplateRecord

variable (r : TemplateRecord)

theorem constructs_withoutBlanks : r.withoutBlanks.constructs = r.constructs :=
  Inclusion.filterMap_construct?_filter r.inclusions

/-- Blank names are not registered in the first place. -/
theorem registeredNames_withoutBlanks :
    Corpus.registeredNames r.withoutBlanks = Corpus.registeredNames r := by
  simp only [Corpus.registeredNames, withoutBlanks, List.filter_filter, Bool.and_self]

/-- Blank targets are not listed in the first place. -/
theorem targetNames_withoutBlanks :
    Corpus.targetNames r.withoutBlanks = Corpus.targetNames r := by
  rw [Corpus.targetNames, constructs_withoutBlanks, Corpus.targetNames]

end TemplateRecord

namespace Snapshot

variable (s : Snapshot) (t : Template)

/-- The last record of a path is the same one, less its blank names. -/
theorem lastRecord?_withoutBlanks :
    s.withoutBlanks.lastRecord? t = (s.lastRecord? t).map .withoutBlanks := by
  rw [lastRecord?, withoutBlanks, ← List.map_reverse, List.find?_map, lastRecord?]
  rfl

/-- A template has no blank names in either snapshot. -/
theorem namesOf_withoutBlanks : s.withoutBlanks.namesOf t = s.namesOf t := by
  rw [namesOf, lastRecord?_withoutBlanks, namesOf]
  cases s.lastRecord? t with
  | none => rfl
  | some r => exact r.registeredNames_withoutBlanks

/-- A template has no references to blank names in either snapshot. -/
theorem constructsOf_withoutBlanks : s.withoutBlanks.constructsOf t = s.constructsOf t := by
  rw [constructsOf, lastRecord?_withoutBlanks, constructsOf]
  cases s.lastRecord? t with
  | none => rfl
  | some r => exact r.constructs_withoutBlanks

variable (k : ControllerRecord)

/-- Leaving blank names out takes nothing from what is rendered by name. -/
theorem rendersByName_withoutBlanks :
    s.withoutBlanks.rendersByName t k.withoutBlanks = s.rendersByName t k := by
  -- A blank name is held by none of the names that are not blank.
  have hname (n : LogicalName) : (!n.isEmpty && Distinct.holds (s.namesOf t) n) =
      Distinct.holds (s.namesOf t) n := by
    cases hblank : n.isEmpty with
    | false => rfl
    | true =>
      have hnot : ¬Distinct.holds (s.namesOf t) n = true := by
        rw [holds_namesOf, hblank]
        exact fun h => absurd h.1 (by decide)
      rw [Bool.not_true, Bool.false_and, Bool.eq_false_iff.mpr hnot]
  rw [rendersByName, namesOf_withoutBlanks, ControllerRecord.withoutBlanks, List.any_filter,
    funext hname, rendersByName]

/-- Once blank names are left out, no action renders one. -/
theorem rendersByBlank_withoutBlanks :
    s.withoutBlanks.rendersByBlank t k.withoutBlanks = false := by
  have hnone : k.withoutBlanks.renders.any (·.isEmpty) = false := by
    simp [ControllerRecord.withoutBlanks]
  rw [rendersByBlank, hnone, Bool.false_and]

end Snapshot

namespace Corpus

variable (s : Snapshot) (t : Template)

/-- The corpus serves the same record for a template, less its blank names. -/
theorem record?_withoutBlanks :
    (ofSnapshot s.withoutBlanks).record? t = ((ofSnapshot s).record? t).map .withoutBlanks := by
  rw [record?_ofSnapshot, Snapshot.lastRecord?_withoutBlanks, record?_ofSnapshot]

/-- Leaving blanks out of each record before or after a corpus is built is the same. -/
theorem records_withoutBlanks :
    (ofSnapshot s.withoutBlanks).records =
      (ofSnapshot s).records.map fun row => (row.1, row.2.withoutBlanks) := by
  have hfold (records : List TemplateRecord) (c c' : Corpus)
      (h : c'.records = c.records.map fun row => (row.1, row.2.withoutBlanks)) :
      ((records.map .withoutBlanks).foldl addRecord c').records =
        (records.foldl addRecord c).records.map fun row => (row.1, row.2.withoutBlanks) := by
    induction records generalizing c c' with
    | nil => exact h
    | cons r records ih =>
      refine ih _ _ ?_
      change Table.put c'.records r.template r.withoutBlanks = _
      rw [h]
      exact Table.put_map TemplateRecord.withoutBlanks r.template r c.records
  exact hfold s.templates _ _ rfl

/-- The corpus serves the same entries, less those of a blank name. -/
theorem entries_withoutBlanks :
    (ofSnapshot s.withoutBlanks).entries = (ofSnapshot s).entries.filter (!·.name.isEmpty) := by
  rw [entries, entries, records_withoutBlanks, List.flatMap_map, List.filter_flatMap]
  refine List.flatMap_congr fun row _ => ?_
  rw [List.filter_map]
  rfl

/-- A name leads to the same templates. -/
theorem templatesNamed_withoutBlanks (n : LogicalName) :
    (ofSnapshot s.withoutBlanks).templatesNamed n = (ofSnapshot s).templatesNamed n := by
  have hlisted (r : TemplateRecord) :
      listedAs registeredNames n r.withoutBlanks = listedAs registeredNames n r := by
    rw [listedAs, r.registeredNames_withoutBlanks]
    rfl
  rw [templatesNamed_ofSnapshot, Snapshot.withoutBlanks, List.flatMap_map, funext hlisted,
    templatesNamed_ofSnapshot]

theorem referencing_withoutBlanks (n : LogicalName) :
    (ofSnapshot s.withoutBlanks).referencing n = (ofSnapshot s).referencing n := by
  have hlisted (r : TemplateRecord) :
      listedAs targetNames n r.withoutBlanks = listedAs targetNames n r := by
    rw [listedAs, r.targetNames_withoutBlanks]
    rfl
  rw [referencing_ofSnapshot, Snapshot.withoutBlanks, List.flatMap_map, funext hlisted,
    referencing_ofSnapshot]

/-- The corpus serves the same references, less those to a blank name. -/
theorem inclusionsIn_withoutBlanks :
    (ofSnapshot s.withoutBlanks).inclusionsIn t =
      ((ofSnapshot s).inclusionsIn t).filter (!·.isBlank) := by
  rw [inclusionsIn, record?_withoutBlanks, inclusionsIn]
  cases (ofSnapshot s).record? t <;> rfl

theorem blocksIn_withoutBlanks :
    (ofSnapshot s.withoutBlanks).blocksIn t = (ofSnapshot s).blocksIn t := by
  rw [blocksIn, record?_withoutBlanks, blocksIn]
  cases (ofSnapshot s).record? t <;> rfl

theorem parents_withoutBlanks :
    (ofSnapshot s.withoutBlanks).parents t = (ofSnapshot s).parents t := by
  rw [parents, inclusionsIn_withoutBlanks, List.filter_comm, Inclusion.filterMap_construct?_filter,
    parents]
  exact List.flatMap_congr fun construct _ => templatesNamed_withoutBlanks s construct.target

theorem parentBlocks_withoutBlanks (b : Block) :
    (ofSnapshot s.withoutBlanks).parentBlocks b = (ofSnapshot s).parentBlocks b := by
  have hsize : (ofSnapshot s.withoutBlanks).size = (ofSnapshot s).size := by
    rw [size, records_withoutBlanks, List.length_map, size]
  rw [parentBlocks, hsize, parents_withoutBlanks, parentBlocks]
  exact climb_congr (funext (blocksIn_withoutBlanks s)) (funext (parents_withoutBlanks s)) ..

theorem actionFor_withoutBlanks (r : ActionRef) :
    (ofSnapshot s.withoutBlanks).actionFor r = (ofSnapshot s).actionFor r := by
  rw [actionFor, controllers_ofSnapshot, Snapshot.withoutBlanks, List.find?_map, List.find?_map,
    ← Option.map_or, Option.map_map, actionFor, controllers_ofSnapshot]
  rfl

/-- A corpus whose snapshot is rid of blanks says the same, apart from the actions that render a
template. -/
theorem agreeButControllers_withoutBlanks :
    Knowledge.AgreeButControllers (ofSnapshot s).answer (ofSnapshot s.withoutBlanks).answer where
  toNamespace_eq := by
    change Namespace.ofEntries (ofSnapshot s).entries =
      Namespace.ofEntries (ofSnapshot s.withoutBlanks).entries
    rw [entries_withoutBlanks, Namespace.ofEntries_filter]
  templatesNamed_eq n := (templatesNamed_withoutBlanks s n).symm
  referencing_eq n := (referencing_withoutBlanks s n).symm
  hasReferencing_eq n := by
    change (!((ofSnapshot s).referencing n).isEmpty) =
      !((ofSnapshot s.withoutBlanks).referencing n).isEmpty
    rw [referencing_withoutBlanks]
  actionFor_eq r := (actionFor_withoutBlanks s r).symm
  constructsIn_eq t := by rw [constructsIn_eq, constructsIn_eq, s.constructsOf_withoutBlanks]
  blocksIn_eq t := (blocksIn_withoutBlanks s t).symm
  parentBlocks_eq b := (parentBlocks_withoutBlanks s b).symm

/-- A controller renders a template by a name or by a blank if one of its names is held for it. -/
theorem rendersBy_eq (k : ControllerRecord) : (s.rendersByName t k || s.rendersByBlank t k) =
    (s.lastRecord? t).any fun r => k.renders.any (Distinct.holds r.names) := by
  rw [Snapshot.rendersByName, Snapshot.namesOf, Snapshot.rendersByBlank, Bool.eq_iff_iff]
  cases s.lastRecord? t with
  | none => simp [Distinct.holds]
  | some r =>
    simp only [Option.map_some, Option.getD_some, Option.any_some, Bool.or_eq_true,
      Bool.and_eq_true, List.any_eq_true, Distinct.holds_iff_or_blank r.names]
    constructor
    · rintro (⟨n, hn, hheld⟩ | ⟨⟨n, hn, hblank⟩, hrecord⟩)
      · exact ⟨n, hn, .inl hheld⟩
      · exact ⟨n, hn, .inr ⟨hblank, hrecord⟩⟩
    · rintro ⟨n, hn, hheld | ⟨hblank, hrecord⟩⟩
      · exact .inl ⟨n, hn, hheld⟩
      · exact .inr ⟨⟨n, hn, hblank⟩, hrecord⟩

/-- A template is rendered by the actions that render it by a name or by a blank. -/
theorem controllersOf_ofSnapshot : (ofSnapshot s).controllersOf t =
    (s.controllers.filter fun k => s.rendersByName t k || s.rendersByBlank t k).map (·.action) := by
  simp only [controllersOf, record?_ofSnapshot, controllers_ofSnapshot, rendersBy_eq]
  cases s.lastRecord? t <;> simp

/-- Without blanks a template is rendered by the actions that render it by a name. -/
theorem controllersOf_withoutBlanks : (ofSnapshot s.withoutBlanks).controllersOf t =
    (s.controllers.filter (s.rendersByName t)).map (·.action) := by
  have hrenders (k : ControllerRecord) : (s.withoutBlanks.rendersByName t k.withoutBlanks ||
      s.withoutBlanks.rendersByBlank t k.withoutBlanks) = s.rendersByName t k := by
    rw [s.rendersByName_withoutBlanks, s.rendersByBlank_withoutBlanks, Bool.or_false]
  rw [controllersOf_ofSnapshot, Snapshot.withoutBlanks, List.filter_map, List.map_map]
  change (s.controllers.filter fun k => s.withoutBlanks.rendersByName t k.withoutBlanks ||
    s.withoutBlanks.rendersByBlank t k.withoutBlanks).map (·.action) = _
  simp only [hrenders]

/-- Leaving blank names out loses the actions that render a template by a blank. -/
theorem holds_controllersOf_iff {a : Action} :
    Distinct.holds ((ofSnapshot s).controllersOf t) a = true ↔
      Distinct.holds ((ofSnapshot s.withoutBlanks).controllersOf t) a = true ∨
        ∃ k ∈ s.controllers, identity k.action = identity a ∧ s.rendersByBlank t k = true := by
  rw [controllersOf_ofSnapshot, holds_map_action, controllersOf_withoutBlanks, holds_map_action]
  constructor
  · rintro ⟨k, hk, hid, hrenders⟩
    exact (Bool.or_eq_true _ _ ▸ hrenders).imp (⟨k, hk, hid, ·⟩) (⟨k, hk, hid, ·⟩)
  · rintro (⟨k, hk, hid, hrenders⟩ | ⟨k, hk, hid, hrenders⟩)
    · exact ⟨k, hk, hid, by rw [hrenders, Bool.true_or]⟩
    · exact ⟨k, hk, hid, by rw [hrenders, Bool.or_true]⟩

/-- Where each action that meets a template in a blank also renders it by name, leaving blank names
out loses nothing. -/
theorem controllersOf_withoutBlanks_eq
    (h : ∀ k ∈ s.controllers, s.rendersByBlank t k = true → s.rendersByName t k = true) :
    (ofSnapshot s).controllersOf t = (ofSnapshot s.withoutBlanks).controllersOf t := by
  rw [controllersOf_ofSnapshot, controllersOf_withoutBlanks]
  congr 1
  refine List.filter_congr fun k hk => ?_
  cases hblank : s.rendersByBlank t k with
  | false => rw [Bool.or_false]
  | true => rw [h k hk hblank, Bool.or_true]

/-- Leaving all blank names and references out of a snapshot changes nothing in the report of a
document but its controllers. It loses exactly the actions that render the document by a blank only,
and changes nothing at all where each action that has a blank name in common with the document also
renders it by name. -/
theorem report_withoutBlanks (s : Snapshot) (rules : Rules) (document : Template) :
    ∃ r r', (ofSnapshot s).undisturbed rules document .report = .ok r ∧
      (ofSnapshot s.withoutBlanks).undisturbed rules document .report = .ok r' ∧
      r.SameButControllers r' ∧
      (∀ a, Distinct.holds r.controllerUsages a = true ↔
        Distinct.holds r'.controllerUsages a = true ∨
          ∃ k ∈ s.controllers, identity k.action = identity a ∧
            s.rendersByBlank document k = true) ∧
      ((∀ k ∈ s.controllers, s.rendersByBlank document k = true →
        s.rendersByName document k = true) → r = r') := by
  have hagree := agreeButControllers_withoutBlanks s
  have hconventional := hagree.conventionalUsages_eq rules document
  refine ⟨_, _, undisturbed_eq (indexing_ofSnapshot s) .report,
    undisturbed_eq (indexing_ofSnapshot s.withoutBlanks) .report, hagree.report rules document,
    fun a => ?_, fun hnamed => hagree.report_eq ?_⟩
  · change Distinct.holds (Knowledge.controllerUsages _ rules document) a = true ↔
      Distinct.holds (Knowledge.controllerUsages _ rules document) a = true ∨ _
    rw [Knowledge.controllerUsages, hconventional, Knowledge.controllerUsages,
      Distinct.holds_ofList, Distinct.holds_append, Distinct.holds_ofList, Distinct.holds_append,
      or_assoc]
    exact or_congr_right (holds_controllersOf_iff s document)
  · have hrecorded := controllersOf_withoutBlanks_eq s document hnamed
    rw [Knowledge.controllerUsages, hconventional, Knowledge.controllerUsages]
    exact congrArg (fun actions => Distinct.ofList (_ ++ actions)) hrecorded

end Corpus

/-- A page under a blank name, and an action that renders another one. -/
def Snapshot.blankPage : Snapshot where
  templates := [⟨.ofString "page.twig", [.ofString ""], [], []⟩]
  controllers := [⟨⟨"App\\Home::index", none, none⟩, [.ofString "./"], none⟩]

namespace Corpus

/-- An action counts as rendering a page although neither of them gives a name for it: leaving the
blank names out changes the report. -/
theorem report_ne_blankPage :
    let page : Template := .ofString "page.twig"
    ∃ r r', (ofSnapshot .blankPage).undisturbed (Corpus.rules .default) page .report = .ok r ∧
      (ofSnapshot Snapshot.blankPage.withoutBlanks).undisturbed (Corpus.rules .default) page
        .report = .ok r' ∧
      r.controllerUsages = [⟨"App\\Home::index", none, none⟩] ∧ r'.controllerUsages = [] ∧
      r ≠ r' := by
  intro page
  have hblank : Knowledge.controllerUsages (ofSnapshot .blankPage).answer (Corpus.rules .default)
      page = [⟨"App\\Home::index", none, none⟩] := by decide +kernel
  have hnone : Knowledge.controllerUsages (ofSnapshot Snapshot.blankPage.withoutBlanks).answer
      (Corpus.rules .default) page = [] := by decide +kernel
  refine ⟨_, _, undisturbed_eq (indexing_ofSnapshot _) .report,
    undisturbed_eq (indexing_ofSnapshot _) .report, hblank, hnone, fun hsame => ?_⟩
  have husages := hblank.symm.trans ((congrArg Report.controllerUsages hsame).trans hnone)
  contradiction

end Corpus

end TwigRelations
