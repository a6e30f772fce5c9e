import TwigRelations.Proofs.Pass.Finds

/-!
# Every resolver is orderly

Whatever the indexes answer, each resolver looks for cancellation right before each query, ends with
the first failure, and remembers exactly the namespace that it was told.
-/

namespace TwigRelations.Pass

variable {α β : Type}

/-- Orderly whatever the answers are. -/
def IsOrderly (p : Pass α) : Prop :=
  Finds (fun _ _ => True) (fun _ => True) p fun _ => True

namespace IsOrderly

theorem pure (a : α) : IsOrderly (pure a : Pass α) := Finds.pure trivial

/-- Orderly steps in a row are orderly. -/
theorem bind {p : Pass α} {f : α → Pass β} (h : IsOrderly p) (hf : ∀ a, IsOrderly (f a)) :
    IsOrderly (p >>= f) := Finds.bind h fun a _ => hf a

theorem checkpoint_bind {f : Unit → Pass α} (h : IsOrderly (f ())) :
    IsOrderly (Resolution.checkpoint >>= f) := Finds.checkpoint_bind h

/-- Looking for cancellation, asking a query other than for the namespace, and going on is orderly.
-/
theorem call_bind {q : Query} {f : q.Answer → Pass α} (hq : q ≠ .namespaceEntries)
    (h : ∀ a, IsOrderly (f a)) :
    IsOrderly (Resolution.checkpoint >>= fun _ => Resolution.ask q >>= f) :=
  Finds.call_bind hq fun a _ => h a

theorem foldlM {xs : List α} {f : β → α → Pass β} {b : β} (h : ∀ b x, IsOrderly (f b x)) :
    IsOrderly (xs.foldlM f b) := Finds.foldlM trivial fun b _ x _ => h b x

theorem mapM {xs : List α} {f : α → Pass β} (h : ∀ x, IsOrderly (f x)) :
    IsOrderly (xs.mapM f) :=
  (Finds.mapM (fun _ => True) fun x _ => h x).mono fun _ _ => trivial

end IsOrderly

theorem isOrderly_loadNamespace : IsOrderly loadNamespace :=
  Finds.loadNamespace fun _ _ => trivial

theorem isOrderly_namesFor (t : Template) : IsOrderly (namesFor t) :=
  isOrderly_loadNamespace.bind fun _ => .pure _

/-- The existence check of a document is orderly. -/
theorem isOrderly_hasIncluders (names : List LogicalName) : IsOrderly (hasIncluders names) := by
  induction names with
  | nil => exact .pure _
  | cons name names ih =>
    refine .call_bind (by simp) fun found => ?_
    cases found with
    | true => exact .pure _
    | false => exact ih

theorem isOrderly_includers (names : List LogicalName) : IsOrderly (includers names) :=
  .foldlM fun _ _ => .call_bind (by simp) fun _ => .pure _

theorem isOrderly_constructsIn (t : Template) : IsOrderly (constructsIn t) :=
  .call_bind (by simp) fun _ => .pure _

theorem isOrderly_targetsIn (names : List LogicalName) (t : Template) :
    IsOrderly (targetsIn names t) := by
  refine .checkpoint_bind ((isOrderly_constructsIn t).bind fun constructs => ?_)
  split <;> exact .pure _

theorem isOrderly_includeTargets (names : List LogicalName) : IsOrderly (includeTargets names) :=
  (isOrderly_includers names).bind fun _ =>
    .bind (.mapM fun t => isOrderly_targetsIn names t) fun _ => .pure _

theorem isOrderly_overwrites (t : Template) : IsOrderly (overwrites t) :=
  (isOrderly_namesFor t).bind fun _ =>
    .foldlM fun _ _ => .call_bind (by simp) fun _ => .pure _

theorem isOrderly_descendLevel (parent : Template) (level : List Template) (d : Descent) :
    IsOrderly (descendLevel parent level d) :=
  .foldlM fun _ t => .checkpoint_bind <|
    (isOrderly_namesFor t).bind fun names => (isOrderly_includers names).bind fun _ => .pure _

/-- A descent is orderly at each of its levels. -/
theorem isOrderly_descend (parent : Template) (levels : Nat) (d : Descent) :
    IsOrderly (descend parent levels d) := by
  induction levels generalizing d with
  | zero => exact .pure _
  | succ levels ih =>
    unfold descend
    split
    · exact .pure _
    · exact (isOrderly_descendLevel _ _ _).bind ih

theorem isOrderly_children (settings : Settings) (parent : Template) :
    IsOrderly (children settings parent) := isOrderly_descend _ _ _

theorem isOrderly_implementations (settings : Settings) (b : Block) :
    IsOrderly (implementations settings b) :=
  (isOrderly_children settings b.template).bind fun _ =>
    .foldlM fun _ _ => .call_bind (by simp) fun _ => .pure _

theorem isOrderly_overrides (b : Block) : IsOrderly (overrides b) :=
  .call_bind (by simp) fun _ => .pure _

/-- Deriving one action is orderly, whether or not there are coordinates to ask for. -/
theorem isOrderly_addConventional (name : LogicalName) (found : List Action)
    (convention : Convention) : IsOrderly (addConventional name found convention) := by
  unfold addConventional
  cases convention.actionRef? name with
  | none => exact .checkpoint_bind (.pure _)
  | some ref =>
    refine .call_bind (by simp) fun action => ?_
    cases action <;> exact .pure _

theorem isOrderly_conventionalUsages (rules : Rules) (t : Template) :
    IsOrderly (conventionalUsages rules t) := by
  unfold conventionalUsages
  split
  · exact (isOrderly_namesFor t).bind fun _ =>
      .foldlM fun _ name => .foldlM fun _ _ => isOrderly_addConventional name _ _
  · exact .pure _

theorem isOrderly_controllerUsages (rules : Rules) (t : Template) :
    IsOrderly (controllerUsages rules t) :=
  (isOrderly_conventionalUsages rules t).bind fun _ =>
    .call_bind (by simp) fun _ => .pure _

end TwigRelations.Pass
