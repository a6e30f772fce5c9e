import TwigRelations.Proofs.Document.Memory
import TwigRelations.Proofs.Pass.Orderly

/-!
# Findings about a document

Something is to be known of all results about one document, because it is so of every result that
the queries can lead to. Then it is so of every result that an accessor gives and of every result
that is held, in whatever order the document is asked and wherever a resolution fails.
-/

namespace TwigRelations

namespace Pass

/-- What some blocks are related to, leaving out the blocks that are related to none. -/
def relate (resolve : Block → Pass (List Block)) (blocks : List Block) :
    Pass (List BlockRelations) := do
  let relations ← blocks.mapM fun b => return (⟨b, ← resolve b⟩ : BlockRelations)
  return relations.filter (!·.related.isEmpty)

/-- Relating blocks is orderly where it is so for each block. -/
theorem isOrderly_relate {resolve : Block → Pass (List Block)} (h : ∀ b, IsOrderly (resolve b))
    (blocks : List Block) : IsOrderly (relate resolve blocks) :=
  .bind (.mapM fun b => (h b).bind fun _ => .pure _) fun _ => .pure _

end Pass

namespace Document

variable {α β : Type}

theorem inPass_apply (p : Pass α) (m : Memory) :
    inPass p m = (p m.loaded).bind fun r => .done (r.1, m.withLoaded r.2) := rfl

theorem inPass_pure (a : α) : inPass (pure a : Pass α) = pure a := rfl

/-- A step of the pass that is made of two is taken as two. -/
theorem inPass_bind (p : Pass α) (f : α → Pass β) :
    inPass (p >>= f) = inPass p >>= fun a => inPass (f a) := by
  funext m
  rw [Resolution.bind_apply, inPass_apply, inPass_apply, Resolution.bind_apply, Program.bind_assoc,
    Program.bind_assoc]
  congr 1
  funext r
  obtain ⟨a | a, known⟩ := r <;> rfl

/-- A step of the pass for each member of a list is taken as one step each. -/
theorem inPass_mapM (f : α → Pass β) (xs : List α) :
    inPass (xs.mapM f) = xs.mapM fun x => inPass (f x) := by
  induction xs with
  | nil => rfl
  | cons x xs ih => simp only [List.mapM_cons, inPass_bind, ih, inPass_pure]

/-- Relating the blocks of a document is one step of its pass, once the blocks are known. -/
theorem relateBlocks_eq (document : Template) (resolve : Block → Pass (List Block)) :
    relateBlocks document resolve =
      blocks document >>= fun bs => inPass (Pass.relate resolve bs) := by
  simp only [relateBlocks, Pass.relate, inPass_bind, inPass_mapM, inPass_pure]

end Document

/-- What is known of the results about a document, and that it follows from what is admitted as an
answer to a query. -/
structure Findings (rules : Rules) (document : Template) where
  /-- The answers that are admitted. -/
  admits : (q : Query) → q.Answer → Prop
  /-- What is known of the namespace. -/
  kind : Namespace → Prop
  /-- What is known of the results of an accessor. -/
  holds : (a : Accessor) → a.Answer → Prop
  /-- Every namespace that may be told is of that kind. -/
  load : ∀ entries, admits .namespaceEntries entries → kind (.ofEntries entries)
  /-- The names are looked up in the namespace. -/
  names : ∀ ns, kind ns → holds .names (ns.namesFor document)
  /-- Whether there are includers is asked for names that are as known. -/
  hasIncluders : ∀ names, holds .names names →
    Pass.Finds admits kind (Pass.hasIncluders names) (holds .hasIncluders)
  /-- Includers are asked for by names that are as known. -/
  includers : ∀ names, holds .names names →
    Pass.Finds admits kind (Pass.includers names) (holds .includers)
  /-- Includers that are as known tell whether there are any. -/
  includers_any : ∀ found, holds .includers found → holds .hasIncluders (!found.isEmpty)
  /-- The places are asked for by names that are as known. -/
  includeTargets : ∀ names, holds .names names →
    Pass.Finds admits kind (Pass.includeTargets names) (holds .includeTargets)
  /-- The layers are those that a pass finds. -/
  overwrites : Pass.Finds admits kind (Pass.overwrites document) (holds .overwrites)
  /-- The blocks are told by one query. -/
  blocks : ∀ blocks, admits (.blocksIn document) blocks → holds .blocks blocks
  /-- Implementations are asked for by blocks that are as known. -/
  blockImplementations : ∀ blocks, holds .blocks blocks → Pass.Finds admits kind
    (Pass.relate (Pass.implementations rules.settings) blocks) (holds .blockImplementations)
  /-- Overrides are asked for by blocks that are as known. -/
  blockOverrides : ∀ blocks, holds .blocks blocks →
    Pass.Finds admits kind (Pass.relate Pass.overrides blocks) (holds .blockOverrides)
  /-- The controllers are those that a pass finds. -/
  controllerUsages :
    Pass.Finds admits kind (Pass.controllerUsages rules document) (holds .controllerUsages)
  /-- Groups that a memory shows are as known, if all that it holds is. -/
  groups : ∀ (m : Memory) included groups, Pass.Knows kind m.loaded →
    (∀ a v, m.held a = some v → holds a v) → holds .hasIncluders included →
    m.ShowsGroups rules included groups → holds .groups groups
  /-- A report that a memory shows is as known, if all that it holds is. -/
  report : ∀ (m : Memory) included report, Pass.Knows kind m.loaded →
    (∀ a v, m.held a = some v → holds a v) → holds .hasIncluders included →
    m.ShowsReport rules document included report → holds .report report

namespace Findings

variable {σ : Type} (rules : Rules) (document : Template)

/-- Nothing is known where the indexes may answer anything. -/
def anything : Findings rules document where
  admits _ _ := True
  kind _ := True
  holds _ _ := True
  load _ _ := trivial
  names _ _ := trivial
  hasIncluders names _ := Pass.isOrderly_hasIncluders names
  includers names _ := Pass.isOrderly_includers names
  includers_any _ _ := trivial
  includeTargets names _ := Pass.isOrderly_includeTargets names
  overwrites := Pass.isOrderly_overwrites document
  blocks _ _ := trivial
  blockImplementations blocks _ :=
    Pass.isOrderly_relate (Pass.isOrderly_implementations rules.settings) blocks
  blockOverrides blocks _ := Pass.isOrderly_relate Pass.isOrderly_overrides blocks
  controllerUsages := Pass.isOrderly_controllerUsages rules document
  groups _ _ _ _ _ _ _ := trivial
  report _ _ _ _ _ _ _ := trivial

/-- Any surroundings will do where anything may be answered. -/
theorem admits_anything (env : Environment σ) : env.Admits (anything rules document).admits :=
  fun _ _ _ _ => trivial

end Findings

end TwigRelations
