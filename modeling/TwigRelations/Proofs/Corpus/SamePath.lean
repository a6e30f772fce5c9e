import TwigRelations.Proofs.Batch.Independence
import TwigRelations.Proofs.Corpus.Reordered
import TwigRelations.Proofs.Document.SamePath

/-!
# A corpus tells templates apart by path

Whatever a corpus says of a template it says of the path, so two spellings of one path have the same
report, or no report for the same reason.
-/

namespace TwigRelations

namespace Document

variable {reply : (q : Query) → Reply q} {rules : Rules} {document : Template}

/-- A request that is cancelled from the beginning has no result. -/
theorem alone_of_cancelled : alone true reply rules document = .error .cancelled := by
  rw [alone, ← run_reportProgram, reportProgram_none, Program.run_bind]
  rfl

/-- Without the namespace there is no result. -/
theorem alone_of_unavailable {e : IndexError} (h : reply .namespaceEntries = .error e) :
    alone false reply rules document = .error (.unavailable e) := by
  rw [alone, ← run_reportProgram, reportProgram_none, Program.run_bind, Pass.loadNamespace_none]
  simp [Environment.fixed, h]

end Document

namespace Corpus

variable {c : Corpus} {t t' : Template}

/-- The references of a template are told by its path. -/
theorem inclusionsIn_congr (h : identity t = identity t') :
    c.inclusionsIn t = c.inclusionsIn t' := by
  rw [inclusionsIn, record?_congr h, inclusionsIn]

theorem parents_congr (h : identity t = identity t') : c.parents t = c.parents t' := by
  rw [parents, inclusionsIn_congr h, parents]

/-- The blocks of a template show it in the spelling that was asked for, and are the same otherwise.
-/
theorem blocksIn_spelledAs (h : identity t = identity t') :
    c.blocksIn t' = (c.blocksIn t).map (·.spelledAs t') := by
  rw [blocksIn, blocksIn, ← record?_congr h]
  cases c.record? t with
  | none => rfl
  | some r =>
    rw [Option.map_some, Option.getD_some, Option.map_some, Option.getD_some, List.map_map]
    rfl

theorem controllersOf_congr (h : identity t = identity t') :
    c.controllersOf t = c.controllersOf t' := by
  rw [controllersOf, record?_congr h, controllersOf]

/-- A climb passes over what it has seen, however that is spelled. -/
theorem climb_congr_seen {seen seen' : List Template}
    (h : ∀ t, Distinct.holds seen t = Distinct.holds seen' t) (name : String) (levels : Nat)
    (frontier : List Template) :
    c.climb name levels seen frontier = c.climb name levels seen' frontier := by
  induction levels generalizing seen seen' frontier with
  | zero => rfl
  | succ levels ih =>
    have hunseen : unseen seen frontier = unseen seen' frontier := by
      simp only [unseen, h]
    have hnext (t : Template) : Distinct.holds (seen ++ unseen seen' frontier) t =
        Distinct.holds (seen' ++ unseen seen' frontier) t := by
      rw [Bool.eq_iff_iff, Distinct.holds_append, Distinct.holds_append, h]
    rw [climb_succ, climb_succ, hunseen, ih hnext]

/-- The blocks above a block are told by its identity. -/
theorem parentBlocks_congr {b b' : Block} (h : identity b = identity b') :
    c.parentBlocks b = c.parentBlocks b' := by
  obtain ⟨htemplate, hrest⟩ := Prod.mk.inj h
  obtain ⟨hname, -⟩ := Prod.mk.inj hrest
  have hseen (t : Template) :
      Distinct.holds [b.template] t = Distinct.holds [b'.template] t := by
    simp only [Distinct.holds, List.any_cons, same_congr_right htemplate]
  rw [parentBlocks, hname, parents_congr htemplate, climb_congr_seen hseen, parentBlocks]

/-- What a corpus says of a template is told by its path. -/
theorem byPath_answer (c : Corpus) : Knowledge.ByPath c.answer where
  blocksIn_eq := blocksIn_spelledAs
  parentBlocks_eq := parentBlocks_congr
  controllersOf_eq := controllersOf_congr

/-- Where nothing fails, a document has the report that is true of it. -/
theorem alone_of_ready (hc : c.indexing = false) (rules : Rules) (document : Template) :
    Document.alone false c.reply rules document =
      .ok (Knowledge.report c.answer rules document) := undisturbed_eq hc .report

/-- A request fails for every document of a corpus in one way, or has the report of each. -/
theorem alone_cases (c : Corpus) (cancelled : Bool) (rules : Rules) :
    (∃ e, ∀ document, Document.alone cancelled c.reply rules document = .error e) ∨
      ∀ document, Document.alone cancelled c.reply rules document =
        .ok (Knowledge.report c.answer rules document) := by
  cases cancelled with
  | true => exact .inl ⟨_, fun _ => Document.alone_of_cancelled⟩
  | false =>
    cases hc : c.indexing with
    | true =>
      have hreply : c.reply .namespaceEntries =
          .error ⟨.template, "indexing in progress"⟩ := by simp [reply, hc, Query.index]
      exact .inl ⟨_, fun _ => Document.alone_of_unavailable hreply⟩
    | false => exact .inr (alone_of_ready hc rules)

/-- Two spellings of a path have one report, or none for the same reason, whether or not the corpus
is ready and whether or not the request is cancelled. The report shows the spelling as the document
and as what its own blocks stand in, and nowhere else: all labels and titles and the order of all
groups are the same. -/
theorem report_spelledAs (c : Corpus) (cancelled : Bool) (rules : Rules)
    (h : identity t = identity t') :
    Document.alone cancelled c.reply rules t' =
        (Document.alone cancelled c.reply rules t).map (·.spelledAs t') ∧
      ∀ r, Document.alone cancelled c.reply rules t = .ok r →
        r.Spells t ∧ (r.spelledAs t').Spells t' ∧
        (r.spelledAs t').groups.map (fun g => (g.title, g.relation, g.items)) =
          r.groups.map (fun g => (g.title, g.relation, g.items)) := by
  rcases c.alone_cases cancelled rules with ⟨e, hfailed⟩ | hreport
  · rw [hfailed, hfailed]
    exact ⟨rfl, fun r hr => by contradiction⟩
  · rw [hreport, hreport, c.byPath_answer.report_eq rules h]
    refine ⟨rfl, ?_⟩
    rintro r ⟨rfl⟩
    refine ⟨?_, Report.spells_spelledAs _ t', ?_⟩
    · rw [c.byPath_answer.report_eq rules (t := t) rfl]
      exact Report.spells_spelledAs _ t
    · exact List.map_map

/-- A base whose blocks a page overrides has one report under its path and under the same path with
a doubled slash, a dot and a slash at the end. -/
theorem report_spelledAs_base :
    let c := ofSnapshot .pageOverBase
    let t : Template := .ofString "base.twig"
    let t' : Template := .ofString "base.twig//./"
    t ≠ t' ∧ identity t = identity t' ∧
      ∃ r, Document.alone false c.reply (rules .default) t = .ok r ∧
        r.blockImplementations.length = 2 ∧
        Document.alone false c.reply (rules .default) t' = .ok (r.spelledAs t') ∧
        r.Spells t ∧ (r.spelledAs t').Spells t' ∧
        (r.spelledAs t').groups.map (fun g => (g.title, g.relation, g.items)) =
          r.groups.map (fun g => (g.title, g.relation, g.items)) := by
  intro c t t'
  have hpath : identity t = identity t' := by decide
  have hfound := alone_of_ready (indexing_ofSnapshot .pageOverBase) (rules .default) t
  obtain ⟨hreport, hspells⟩ := report_spelledAs c false (rules .default) hpath
  refine ⟨?_, hpath, _, hfound, ?_, ?_, hspells _ hfound⟩
  · decide
  · decide +kernel
  · rw [hreport, hfound]
    rfl

end Corpus

end TwigRelations
