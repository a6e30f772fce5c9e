import TwigRelations.Format.Snapshot
import TwigRelations.Format.Template
import TwigRelations.Proofs.Json.Decode

/-!
# Snapshots are read back

Names, paths, ranges, kinds and references as they are written are read as what they are, with the
spelling of every name and path. So is a snapshot, on one line or over several. The members of a
controller record that belong to its action are kept while the record is read; they are no deeper
than there is room for, and the action that is made of them is the one that was written.
-/

namespace TwigRelations

open Json

/-- A name is read back with its spelling. -/
theorem LogicalName.readsBack : ReadsBack LogicalName.ofJson LogicalName.toJson := fun n =>
  congrArg Except.ok n.ofString_raw

theorem Path.readsBack : ReadsBack Path.ofJson Path.toJson := fun p =>
  congrArg Except.ok p.ofString_text

namespace Span

/-- Offsets of 64 bits are read back. -/
theorem readsBack_offset : ReadsBack offset fun n : UInt64 => .number n.toNat := by
  intro n
  rw [offset, natural_toTree]
  exact congrArg Except.ok n.ofNat_toNat

theorem readsBack : ReadsBack ofJson toJson := by
  refine readsBack_record fun s => ⟨(some s.start, some s.stop), ?_, rfl⟩
  refine .field (a := s.start) readsBack_offset (fun _ => rfl) ?_
  refine .field (a := s.stop) readsBack_offset (fun _ => rfl) ?_
  exact .nil _

end Span

/-- A kind is read back from its word. -/
theorem InclusionKind.readsBack : ReadsBack InclusionKind.ofJson InclusionKind.toJson := by
  intro k
  change ofWordJson (.ok k.word) = .ok k
  rw [ofWordJson]
  dsimp only [bind, Except.bind]
  rw [ofWord?_word]

/-- A reference is read back, also one that names nothing. -/
theorem Inclusion.readsBack : ReadsBack Inclusion.ofJson Inclusion.toJson := by
  refine readsBack_record fun i => ⟨⟨some i.kind, some i.target, some i.span⟩, ?_, rfl⟩
  refine .field InclusionKind.readsBack (fun _ => rfl) ?_
  refine .field (readsBack_string.nullable nofun) (fun _ => rfl) ?_
  refine .field Span.readsBack (fun _ => rfl) ?_
  exact .nil _

theorem BlockRecord.readsBack : ReadsBack BlockRecord.ofJson BlockRecord.toJson := by
  refine readsBack_record fun b => ⟨⟨some b.name, some b.span⟩, ?_, rfl⟩
  refine .field readsBack_string (fun _ => rfl) ?_
  refine .field Span.readsBack (fun _ => rfl) ?_
  exact .nil _

theorem TemplateRecord.readsBack : ReadsBack TemplateRecord.ofJson TemplateRecord.toJson := by
  refine readsBack_record fun r =>
    ⟨⟨some r.path, some r.names, some r.inclusions, some r.blocks⟩, ?_, rfl⟩
  refine .field Path.readsBack (fun _ => rfl) ?_
  refine .field LogicalName.readsBack.items (fun _ => rfl) ?_
  refine .field Inclusion.readsBack.items (fun _ => rfl) ?_
  refine .field BlockRecord.readsBack.items (fun _ => rfl) ?_
  exact .nil _

/-- Coordinates are read back, also those without a bundle. -/
theorem ActionRef.readsBack : ReadsBack ActionRef.ofJson ActionRef.toJson := by
  refine readsBack_record fun r => ⟨⟨some r.bundle, some r.controller, some r.action⟩, ?_, rfl⟩
  refine .field (readsBack_string.nullable nofun) (fun _ => rfl) ?_
  refine .field readsBack_string (fun _ => rfl) ?_
  refine .field readsBack_string (fun _ => rfl) ?_
  exact .nil _

/-- The members of an action are its fields. -/
theorem Action.fills_members (a : Action) :
    Fills fields ⟨none, none, none⟩ a.members ⟨some a.id, some a.path, some a.span⟩ := by
  refine .field readsBack_string (fun _ => rfl) ?_
  refine .field (Path.readsBack.nullable nofun) (fun _ => rfl) ?_
  refine .field (Span.readsBack.nullable nofun) (fun _ => rfl) ?_
  exact .nil _

/-- The members of an action have room for the range, which is the only list among them. -/
theorem Action.check_members (a : Action) (room : Nat) :
    ∀ m ∈ a.members, m.2.toTree.check (room + 1) = .ok () := by
  have hspan (s : Span) : s.toJson.toTree.check (room + 1) = .ok () := by
    apply check_object
    simp [check_natural]
  rw [members, List.forall_mem_cons, List.forall_mem_cons, List.forall_mem_singleton]
  refine ⟨rfl, ?_, ?_⟩
  · cases a.path <;> rfl
  · cases a.span with
    | none => rfl
    | some s => exact hspan s

namespace ControllerRecord

variable {room : Nat}

/-- A member that is not the record's own is kept. -/
theorem readMember_kept {key : String} {value : Tree} (hrenders : key ≠ "renders")
    (hroute : key ≠ "route") (hcheck : value.check room = .ok ()) (d : Draft) :
    readMember room (.text (.ofString key)) value d =
      .ok { d with kept := d.kept ++ [(.text (.ofString key), value)] } := by
  rw [readMember]
  dsimp only [Tree.keyName, Quoted.ofString, bind, Except.bind]
  split
  · exact absurd rfl hrenders
  · exact absurd rfl hroute
  · rw [hcheck]
    rfl

/-- Members none of which is the record's own are all kept, in order. -/
theorem foldlM_kept {members : List (String × Value)}
    (hrenders : ∀ m ∈ members, m.1 ≠ "renders") (hroute : ∀ m ∈ members, m.1 ≠ "route")
    (hcheck : ∀ m ∈ members, m.2.toTree.check room = .ok ()) (d : Draft) :
    (Value.memberTrees members).foldlM (fun d (key, value) => readMember room key value d) d =
      .ok { d with kept := d.kept ++ Value.memberTrees members } := by
  induction members generalizing d with
  | nil => rw [Value.memberTrees, List.append_nil]; rfl
  | cons m members ih =>
    rw [List.forall_mem_cons] at hrenders hroute hcheck
    rw [Value.memberTrees, List.foldlM_cons]
    dsimp only
    rw [readMember_kept hrenders.1 hroute.1 hcheck.1]
    refine (ih hrenders.2 hroute.2 hcheck.2 _).trans ?_
    rw [List.append_assoc, List.singleton_append]

/-- The names that an action renders are read back. -/
theorem readMember_renders (names : List LogicalName) {d : Draft} (h : d.renders = none) :
    readMember room (.text (.ofString "renders")) (Value.ofList LogicalName.toJson names).toTree d =
      .ok { d with renders := some names } := by
  change (once d.renders _ _).bind _ = _
  rw [h, LogicalName.readsBack.items.once]
  rfl

/-- The coordinates that an action answers to are read back. -/
theorem readMember_route (route : Option ActionRef) {d : Draft} (h : d.route = none) :
    readMember room (.text (.ofString "route")) (Value.ofOption ActionRef.toJson route).toTree d =
      .ok { d with route := some route } := by
  change (once d.route _ _).bind _ = _
  rw [h, (ActionRef.readsBack.nullable nofun).once]
  rfl

/-- Of the members of an action, all kept, and the record's own the record is made. -/
theorem ofDraft_members (r : ControllerRecord) :
    ofDraft ⟨some r.renders, some r.route, Value.memberTrees r.action.members⟩ = .ok r := by
  rw [ofDraft, r.action.fills_members.readMembers]
  rfl

/-- A controller record is read back where there is room for one list besides the record. -/
theorem readsBack (room : Nat) : ReadsBack (ofJson (room + 1)) toJson := by
  intro r
  have hkept : (Value.memberTrees r.action.members).foldlM
      (fun d (key, value) => readMember (room + 1) key value d) ⟨none, none, []⟩ =
      .ok ⟨none, none, Value.memberTrees r.action.members⟩ :=
    foldlM_kept (by simp [Action.members]) (by simp [Action.members]) (r.action.check_members room)
      _
  rw [toJson, Value.toTree, ofJson, Value.memberTrees_append, List.foldlM_append, hkept]
  change ((readMember (room + 1) (.text (.ofString "renders")) _ _).bind fun d =>
    (readMember (room + 1) (.text (.ofString "route")) _ d).bind .ok).bind ofDraft = _
  rw [readMember_renders r.renders rfl, Except.bind, readMember_route r.route rfl, Except.bind,
    Except.bind, ofDraft_members]

end ControllerRecord

namespace Snapshot

/-- A snapshot is read back. -/
theorem readsBack : ReadsBack ofJson toJson := by
  have hcontroller : ReadsBack controller ControllerRecord.toJson := by
    rw [controller, maxNesting]
    exact ControllerRecord.readsBack 123
  refine readsBack_record fun s => ⟨⟨some s.templates, some s.controllers⟩, ?_, rfl⟩
  refine .field TemplateRecord.readsBack.items (fun _ => rfl) ?_
  refine .field hcontroller.items (fun _ => rfl) ?_
  exact .nil _

/-- A text whose tree is that of a snapshot is read as the snapshot. -/
theorem ofText_eq {text : String} {s : Snapshot}
    (h : Source.ofText text = ⟨s.toJson.toTree, false⟩) : ofText text = .ok s := by
  rw [ofText, readText, h, Source.read, readsBack s]
  rfl

/-- A snapshot as it is written, on one line or over several, is read as the same snapshot, with all
names and paths as they were spelled. A text that is read as a snapshot may therefore be replaced by
the text of that snapshot. -/
theorem ofText_toText :
    (∀ s : Snapshot, ofText s.toText = .ok s ∧ ofText s.toJson.pretty = .ok s) ∧
      ∀ text, ((ofText text).bind fun s => ofText s.toText) = ofText text := by
  have hcompact (s : Snapshot) : ofText s.toText = .ok s := ofText_eq s.toJson.source_compact
  have hpretty (s : Snapshot) : ofText s.toJson.pretty = .ok s :=
    ofText_eq s.toJson.source_pretty.1
  refine ⟨fun s => ⟨hcompact s, hpretty s⟩, fun text => ?_⟩
  cases h : ofText text with
  | error fault => rfl
  | ok s => rw [Except.bind, hcompact]

end Snapshot

end TwigRelations
