import TwigRelations.Json.Decode
import TwigRelations.Proofs.Json.Written

/-!
# Readers that read back

A reader reads a kind of value back if it takes what is written for a value to that value. Readers
of lists, of values that may be null and of records do so if the readers of their parts do.
-/

namespace TwigRelations.Json

variable {α σ : Type}

/-- Whether a reader takes the tree of what is written for a value to that value. -/
def ReadsBack (decode : Decoder α) (write : α → Value) : Prop :=
  ∀ a, decode (write a).toTree = .ok a

theorem readsBack_string : ReadsBack Tree.string .text := fun _ => rfl

/-- A number of 64 bits is read back. -/
theorem natural_toTree (n : UInt64) : Tree.natural (Value.number n.toNat).toTree = .ok n.toNat := by
  rw [Value.toTree, Numeral.ofInt_natCast (Nat.le_pred_of_lt n.toNat_lt)]
  rfl

namespace ReadsBack

variable {decode : Decoder α} {write : α → Value}

theorem mapM (h : ReadsBack decode write) (items : List α) :
    (Value.itemTrees (items.map write)).mapM decode = .ok items := by
  induction items with
  | nil => rfl
  | cons item items ih =>
    rw [List.map_cons, Value.itemTrees, List.mapM_cons, h item, ih]
    rfl

/-- The items of a list are read back. -/
theorem items (h : ReadsBack decode write) : ReadsBack (Tree.items decode) (.ofList write) := by
  intro list
  rw [Value.ofList, Value.toTree, Tree.items, h.mapM]
  rfl

/-- What may be missing is read back, where nothing that is there is written as null. -/
theorem nullable (h : ReadsBack decode write) (hnull : ∀ a, (write a).toTree ≠ .null) :
    ReadsBack (Tree.nullable decode) (.ofOption write) := by
  rintro (_ | a)
  · rfl
  · rw [Value.ofOption, Tree.nullable, h a]
    · rfl
    · exact hnull a

/-- A field that was not given yet is read back. -/
theorem once (h : ReadsBack decode write) (a : α) :
    Json.once none decode (write a).toTree = .ok (some a) := by
  rw [Json.once, h a]
  rfl

end ReadsBack

/-- Members as they are written are fields that are read one after the other. -/
inductive Fills (field : Fields σ) : σ → List (String × Value) → σ → Prop
  /-- No further member. -/
  | nil (s : σ) : Fills field s [] s
  /-- A member that is a field, and further members. -/
  | cons {s s' s'' : σ} {key : String} {value : Value} {members : List (String × Value)}
    (h : field key value.toTree s = some (.ok s')) (hrest : Fills field s' members s'') :
    Fills field s ((key, value) :: members) s''

/-- A member that is a field which was not given yet and is read back. -/
theorem Fills.field {field : Fields σ} {decode : Decoder α} {write : α → Value}
    {set : Option α → σ} {s s' : σ} {key : String} {a : α} {members : List (String × Value)}
    (h : ReadsBack decode write)
    (hfield : ∀ t, field key t s = some ((Json.once none decode t).map set))
    (hrest : Fills field (set (some a)) members s') :
    Fills field s ((key, write a) :: members) s' := by
  refine .cons ?_ hrest
  rw [hfield, h.once]
  rfl

/-- Members that are fields of a record are read into it one after the other. -/
theorem Fills.readMembers {field : Fields σ} {s s' : σ} {members : List (String × Value)}
    (h : Fills field s members s') :
    Json.readMembers field (Value.memberTrees members) s = .ok s' := by
  induction h with
  | nil => rfl
  | @cons s s' s'' key value members h _ ih =>
    rw [Value.memberTrees, Json.readMembers]
    dsimp only [Tree.keyName, Quoted.ofString, bind, Except.bind]
    rw [h]
    exact ih

/-- A record is read back whose members are fields that it can be made of. -/
theorem readsBack_record {field : Fields σ} {start : σ} {ofFields : σ → Except Fault α}
    {row : Ending → Row α} {members : α → List (String × Value)}
    (h : ∀ a, ∃ s, Fills field start (members a) s ∧ ofFields s = .ok a) :
    ReadsBack (record field start ofFields row) fun a => .object (members a) := by
  intro a
  obtain ⟨s, hfills, hs⟩ := h a
  rw [Value.toTree, record, hfills.readMembers]
  exact hs

variable {room : Nat} {members : List (String × Value)}

/-- Members whose values have room have room. -/
theorem checkMembers_memberTrees (h : ∀ m ∈ members, m.2.toTree.check room = .ok ()) :
    Tree.checkMembers room (Value.memberTrees members) = .ok () := by
  induction members with
  | nil => rfl
  | cons member members ih =>
    obtain ⟨hmember, hmembers⟩ := List.forall_mem_cons.mp h
    change (member.2.toTree.check room).bind (fun _ =>
      Tree.checkMembers room (Value.memberTrees members)) = _
    rw [hmember]
    exact ih hmembers

/-- A number of 64 bits takes no room. -/
theorem check_natural (n : UInt64) : (Value.number n.toNat).toTree.check room = .ok () := by
  rw [Value.toTree, Numeral.ofInt_natCast (Nat.le_pred_of_lt n.toNat_lt), Tree.check]

/-- An object takes the room of one list more than its values. -/
theorem check_object (h : ∀ m ∈ members, m.2.toTree.check room = .ok ()) :
    (Value.object members).toTree.check (room + 1) = .ok () := by
  rw [Value.toTree, Tree.check, checkMembers_memberTrees h]
  rfl

end TwigRelations.Json
