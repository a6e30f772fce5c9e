import TwigRelations.Corpus
import TwigRelations.Proofs.Document.Findings
import TwigRelations.Proofs.Pass.Settles

/-!
# Whether anything refers to a document

Whether any template refers to one of some names is checked without collecting these templates: the
check stops at the first name that is referred to, and at the first failure. It agrees with the full
lookup as far as it goes, for each name and hence for a list of names, and a document that remembers
who refers to it answers from that.
-/

namespace TwigRelations

variable {α β γ ε : Type}

/-- A check tells whether a lookup finds anything. Where it finds nothing or fails, so does the
lookup; only where it finds something the lookup may yet fail. -/
structure Agrees (check : Except ε Bool) (lookup : Except ε (List β)) : Prop where
  /-- A lookup that succeeds is told by the check. -/
  of_ok : ∀ found, lookup = .ok found → check = .ok (!found.isEmpty)
  /-- Where the check finds nothing, the lookup finds nothing. -/
  of_false : check = .ok false → lookup = .ok []
  /-- Where the check fails, the lookup fails in the same way. -/
  of_error : ∀ e, check = .error e → lookup = .error e

namespace Agrees

variable {check : Except ε Bool} {lookup : Except ε (List β)}

/-- A check that fails agrees with a lookup that fails in the same way. -/
theorem failed (e : ε) : Agrees (.error e) (.error e : Except ε (List β)) where
  of_ok _ h := nomatch h
  of_false h := nomatch h
  of_error e' h := by rw [Except.error.inj h]

/-- A check of the list that a lookup finds agrees with the lookup. -/
theorem found (l : List β) : Agrees (.ok (!l.isEmpty)) (.ok l : Except ε (List β)) where
  of_ok l' h := by rw [Except.ok.inj h]
  of_false h := by
    have hempty : (!l.isEmpty) = false := Except.ok.inj h
    rw [Bool.not_eq_false', List.isEmpty_iff] at hempty
    rw [hempty]
  of_error _ h := nomatch h

/-- The check has found something, and the lookup fails later on. -/
theorem stopped (e : ε) : Agrees (.ok true) (.error e : Except ε (List β)) where
  of_ok _ h := nomatch h
  of_false h := nomatch h
  of_error _ h := nomatch h

/-- A check that asks the lookup itself. -/
theorem ofLookup (lookup : Except ε (List β)) : Agrees ((!·.isEmpty) <$> lookup) lookup := by
  cases lookup with
  | error e => exact failed e
  | ok l => exact found l

/-- There is no other way to agree. -/
theorem cases (h : Agrees check lookup) :
    (∃ e, check = .error e ∧ lookup = .error e) ∨
      (∃ l, check = .ok (!l.isEmpty) ∧ lookup = .ok l) ∨
      (check = .ok true ∧ ∃ e, lookup = .error e) := by
  cases lookup with
  | ok l => exact .inr (.inl ⟨l, h.of_ok l rfl, rfl⟩)
  | error e =>
    cases check with
    | error e' => exact .inl ⟨e', rfl, h.of_error e' rfl⟩
    | ok b =>
      cases b with
      | true => exact .inr (.inr ⟨rfl, e, rfl⟩)
      | false => exact nomatch h.of_false rfl

/-- What is found may be arranged in another way. -/
theorem arranged (h : Agrees check lookup) {arrange : List β → List γ}
    (harrange : ∀ l, (arrange l).isEmpty = l.isEmpty) : Agrees check (arrange <$> lookup) := by
  obtain ⟨e, rfl, rfl⟩ | ⟨l, rfl, rfl⟩ | ⟨rfl, e, rfl⟩ := h.cases
  · exact failed e
  · rw [← harrange]
    exact found (arrange l)
  · exact stopped e

/-- Both may depend on something that is computed first. -/
theorem bind {first : Except ε α} {check : α → Except ε Bool} {lookup : α → Except ε (List β)}
    (h : ∀ a, Agrees (check a) (lookup a)) : Agrees (first >>= check) (first >>= lookup) := by
  cases first with
  | error e => exact failed e
  | ok a => exact h a

/-- A check that looks further only where it has found nothing, and a lookup that goes on. -/
theorem andThen {check' : Except ε Bool} {lookup' : Except ε (List β)} (h : Agrees check lookup)
    (h' : Agrees check' lookup') :
    Agrees (check >>= fun found => if found then pure true else check')
      (lookup >>= fun l => (l ++ ·) <$> lookup') := by
  obtain ⟨e, rfl, rfl⟩ | ⟨l, rfl, rfl⟩ | ⟨rfl, e, rfl⟩ := h.cases
  · exact failed e
  · cases l with
    | nil => exact h'.arranged fun l => rfl
    | cons a l =>
      cases lookup' with
      | error e => exact stopped e
      | ok l' => exact found (a :: l ++ l')
  · exact stopped e

/-- A check and a lookup that agree for each member of a list agree for the list. -/
theorem anyM {xs : List α} {check : α → Except ε Bool} {lookup : α → Except ε (List β)}
    (h : ∀ x, Agrees (check x) (lookup x)) : Agrees (xs.anyM check) (xs.flatMapM lookup) := by
  induction xs with
  | nil => exact found []
  | cons x xs ih =>
    rw [List.anyM_cons, List.flatMapM_cons]
    simpa only [bind_pure_comp] using (h x).andThen ih

end Agrees

/-- Surroundings that never change and whose existence check belongs to their lookups: the template
index of a corpus, ready or with its indexes being built, or one without an existence check of its
own. The other services may say anything. -/
inductive Environment.ChecksByLookup : Environment Unit → Prop
  | corpus (c : Corpus) {cancelled reply} (h : ∀ q, q.index = .template → reply q = c.reply q) :
    ChecksByLookup (.fixed cancelled reply)
  | derived (cancelled : Bool) (reply : (q : Query) → Reply q) :
    ChecksByLookup (Environment.fixed cancelled reply).withDerivedCheck

/-- The existence check of each name belongs to its lookup. -/
def DerivesCheck (reply : (q : Query) → Reply q) : Prop :=
  ∀ name, reply (.hasReferencing name) = (reply (.referencing name)).map (!·.isEmpty)

namespace Environment.ChecksByLookup

variable {env : Environment Unit}

/-- All that is used of such surroundings. -/
theorem exists_fixed (h : env.ChecksByLookup) :
    ∃ cancelled reply, env = .fixed cancelled reply ∧ DerivesCheck reply := by
  cases h with
  | @corpus c cancelled reply h =>
    refine ⟨cancelled, reply, rfl, fun name => ?_⟩
    rw [h _ rfl, h _ rfl, Corpus.reply, Corpus.reply]
    cases c.indexing <;> rfl
  | derived cancelled reply =>
    exact ⟨cancelled, fun q => ((fixed cancelled reply).withDerivedCheck.reply q ()).1, rfl,
      fun name => rfl⟩

end Environment.ChecksByLookup

section fixed

variable {cancelled : Bool} {reply : (q : Query) → Reply q}

/-- Where the check of each name belongs to its lookup, the check of all names belongs to theirs. -/
theorem Pass.agrees_anyIncluder (h : DerivesCheck reply) (names : List LogicalName) :
    Agrees (anyIncluder cancelled reply names) (allIncluders cancelled reply names) := by
  have hname (name : LogicalName) : called cancelled reply (.hasReferencing name) =
      (!·.isEmpty) <$> called cancelled reply (.referencing name) := by
    rw [called, called, h]
    cases cancelled with
    | true => rfl
    | false => cases reply (.referencing name) <;> rfl
  refine Agrees.arranged (.anyM fun name => ?_) Distinct.isEmpty_ofList
  rw [hname]
  exact .ofLookup _

/-- Whether names have includers is told in agreement with the includers that are found. -/
theorem Pass.agrees_settled (h : DerivesCheck reply) (names : List LogicalName)
    (known : Option Namespace) :
    Agrees ((hasIncluders names known).settled cancelled reply).1
      ((includers names known).settled cancelled reply).1 := by
  rw [settles_hasIncluders names known, settles_includers names known]
  exact agrees_anyIncluder h names

/-- The names of a template are the same when they are asked for again. -/
theorem Pass.settled_namesFor (t : Template) (known : Option Namespace) : ∃ v known',
    (namesFor t known).settled cancelled reply = (v, known') ∧
      (namesFor t known').settled cancelled reply = (v, known') := by
  cases known with
  | some ns => exact ⟨.ok (ns.namesFor t), some ns, rfl, rfl⟩
  | none =>
    cases hcalled : called cancelled reply .namespaceEntries with
    | error e =>
      have hfails : (namesFor t none).settled cancelled reply = (.error e, none) := by
        rw [namesFor, Resolution.bind_apply, Program.settled_bind, settled_loadNamespace, hcalled]
        rfl
      exact ⟨.error e, none, hfails, hfails⟩
    | ok entries =>
      refine ⟨.ok ((Namespace.ofEntries entries).namesFor t), some (.ofEntries entries), ?_, rfl⟩
      rw [namesFor, Resolution.bind_apply, Program.settled_bind, settled_loadNamespace, hcalled]
      rfl

namespace Document

/-- A step of the pass comes to what it does with the namespace that is loaded, and holds no result.
-/
theorem settled_inPass {p : Pass α} {v : Except ResolveError α} {m : Memory}
    {known : Option Namespace} (h : (p m.loaded).settled cancelled reply = (v, known)) :
    (inPass p m).settled cancelled reply = (v, m.withLoaded known) := by
  rw [inPass_apply, Program.settled_bind, h]
  rfl

/-- The names of a document are the same when they are asked for again: they are kept where they can
be told, and else the next attempt fails in the same way. -/
theorem settled_names (document : Template) (m : Memory) : ∃ v m',
    (names document m).settled cancelled reply = (v, m') ∧
      (names document m').settled cancelled reply = (v, m') ∧ m'.includers = m.includers := by
  have hkept (m : Memory) (ns : List LogicalName) (hm : m.names = some ns) :
      (names document m).settled cancelled reply = (.ok ns, m) := by
    rw [names, Resolution.remember_of_some hm]
    rfl
  cases hm : m.names with
  | some ns => exact ⟨.ok ns, m, hkept m ns hm, hkept m ns hm, rfl⟩
  | none =>
    obtain ⟨v, known, h, hagain⟩ := Pass.settled_namesFor document m.loaded
    have hfirst : (names document m).settled cancelled reply = _ :=
      Resolution.settled_remember hm (settled_inPass h)
    cases v with
    | ok ns => exact ⟨.ok ns, _, hfirst, hkept _ ns rfl, rfl⟩
    | error e =>
      have hlast : (names document (m.withLoaded known)).settled cancelled reply = _ :=
        Resolution.settled_remember hm (settled_inPass hagain)
      exact ⟨.error e, m.withLoaded known, hfirst, hlast, rfl⟩

variable {document : Template} {m m' : Memory} {v : Except ResolveError (List LogicalName)}

/-- A step of the pass that depends on the names of the document. -/
theorem settled_namedStep {p : List LogicalName → Pass α}
    {w : List LogicalName → Except ResolveError α}
    (h : ∀ ns, Pass.Settles cancelled reply (p ns) (w ns))
    (hnames : (names document m).settled cancelled reply = (v, m')) :
    ((names document >>= fun ns => inPass (p ns)) m).settled cancelled reply = (v >>= w, m') := by
  rw [Resolution.bind_apply, Program.settled_bind, hnames]
  cases v with
  | error e => rfl
  | ok ns => exact settled_inPass (h ns m'.loaded)

/-- The check of a document that does not remember who refers to it. -/
theorem settled_hasIncluders (hm : m.includers = none)
    (hnames : (names document m).settled cancelled reply = (v, m')) :
    (hasIncluders document m).settled cancelled reply =
      (v >>= Pass.anyIncluder cancelled reply, m') := by
  rw [hasIncluders, Resolution.get_bind_apply, hm]
  exact settled_namedStep Pass.settles_hasIncluders hnames

/-- The lookup of a document that does not remember who refers to it. -/
theorem settled_includers (hm : m.includers = none)
    (hnames : (names document m).settled cancelled reply = (v, m')) :
    (includers document m).settled cancelled reply =
      (v >>= Pass.allIncluders cancelled reply,
        Resolution.kept (fun m found => { m with includers := some found }) m'
          (v >>= Pass.allIncluders cancelled reply)) :=
  Resolution.settled_remember hm (settled_namedStep Pass.settles_includers hnames)

/-- A document that remembers who refers to it answers at once. -/
theorem settled_of_held {found : List Template} (hm : m.includers = some found) :
    (hasIncluders document m).settled cancelled reply = (.ok (!found.isEmpty), m) ∧
      (includers document m).settled cancelled reply = (.ok found, m) := by
  constructor
  · rw [hasIncluders, Resolution.get_bind_apply, hm]
    rfl
  · rw [includers, Resolution.remember_of_some hm]
    rfl

/-- The check of a document belongs to its lookup, also where one of the two is made after the
other. -/
theorem agrees_settled (h : DerivesCheck reply) (document : Template) (m : Memory) :
    let check m := (hasIncluders document m).settled cancelled reply
    let lookup m := (includers document m).settled cancelled reply
    Agrees (check m).1 (lookup m).1 ∧ Agrees (check m).1 (lookup (check m).2).1 ∧
      Agrees (check (lookup m).2).1 (lookup m).1 := by
  intro check lookup
  cases hm : m.includers with
  | some found =>
    have hcheck : check m = (.ok (!found.isEmpty), m) := (settled_of_held hm).1
    have hlookup : lookup m = (.ok found, m) := (settled_of_held hm).2
    simp only [hcheck, hlookup]
    exact ⟨.found found, .found found, .found found⟩
  | none =>
    obtain ⟨v, m', hnames, hagain, hframe⟩ := settled_names document m
    have hm' : m'.includers = none := hframe.trans hm
    have hcheck : check m = _ := settled_hasIncluders hm hnames
    have hcheck' : check m' = _ := settled_hasIncluders hm' hagain
    have hlookup : lookup m = _ := settled_includers hm hnames
    have hlookup' : lookup m' = _ := settled_includers hm' hagain
    have hagrees : Agrees (v >>= Pass.anyIncluder cancelled reply)
        (v >>= Pass.allIncluders cancelled reply) := .bind (Pass.agrees_anyIncluder h)
    rw [hcheck, hlookup]
    refine ⟨hagrees, by rwa [hlookup'], ?_⟩
    -- A lookup that failed leaves nothing for the check to answer from, so that asks again.
    cases hfound : v >>= Pass.allIncluders cancelled reply with
    | error e =>
      rw [Resolution.kept, hcheck', ← hfound]
      exact hagrees
    | ok found =>
      have hheld : check { m' with includers := some found } = (.ok (!found.isEmpty), _) :=
        (settled_of_held rfl).1
      change Agrees (check { m' with includers := some found }).1 (.ok found)
      rw [hheld]
      exact .found found

end Document

end fixed

/-- The check agrees with the lookup, for any names and for any document, whatever the document
remembers, and also where one of the two is made after the other. -/
theorem Document.hasIncluders_agrees {env : Environment Unit} (henv : env.ChecksByLookup) :
    (∀ names known, Agrees ((Pass.hasIncluders names known).run env ()).1.1
      ((Pass.includers names known).run env ()).1.1) ∧
    ∀ document m,
      let check m := ((hasIncluders document m).run env ()).1
      let lookup m := ((includers document m).run env ()).1
      Agrees (check m).1 (lookup m).1 ∧ Agrees (check m).1 (lookup (check m).2).1 ∧
        Agrees (check (lookup m).2).1 (lookup m).1 := by
  obtain ⟨cancelled, reply, rfl, hreply⟩ := henv.exists_fixed
  exact ⟨Pass.agrees_settled hreply, Document.agrees_settled hreply⟩

/-- An index that cannot tell who refers to `lost`, and knows of a page for every other name. -/
def lostReferences : (q : Query) → Reply q
  | .referencing name =>
    if name.raw = "lost" then .error ⟨.template, "lost"⟩ else .ok [.ofString "page.twig"]
  | q => .ok q.nothing

/-- The check stops before it comes to the lost name, or fails there as the lookup does. -/
theorem Document.hasIncluders_agrees_lostReferences :
    let env := (Environment.fixed false lostReferences).withDerivedCheck
    env.ChecksByLookup ∧
      ((Pass.hasIncluders [.ofString "base", .ofString "lost"] none).run env ()).1.1 = .ok true ∧
      ((Pass.includers [.ofString "lost", .ofString "base"] none).run env ()).1.1 =
        .error (.unavailable ⟨.template, "lost"⟩) := by
  have hchecks : (Environment.fixed false lostReferences).withDerivedCheck.ChecksByLookup :=
    .derived false lostReferences
  have hfails : ((Pass.hasIncluders [.ofString "lost", .ofString "base"] none).run
      (Environment.fixed false lostReferences).withDerivedCheck ()).1.1 =
        .error (.unavailable ⟨.template, "lost"⟩) := by rfl
  exact ⟨hchecks, by rfl, ((hasIncluders_agrees hchecks).1 _ none).of_error _ hfails⟩

end TwigRelations
