import TwigRelations.Proofs.Path

/-!
# Paths that continue a root

Continuing a path by a relative text appends the pieces of the text to its components, whatever
slashes and dots the path is spelled with. So a root continued by the relative path of a file
strictly below it leads back to the file, and no two files below it have one relative path.
-/

namespace TwigRelations

namespace Component

variable {front : List Char}

/-- How a text begins is seen in front of its first slash. -/
theorem leading_append_slash (hne : front ≠ []) (rest : List Char) :
    leading (front ++ '/' :: rest) = leading front := by
  rcases front with _ | ⟨a, _ | ⟨b, front⟩⟩
  · contradiction
  · by_cases hslash : a = '/'
    · rw [hslash]
      rfl
    · by_cases hdot : a = '.'
      · rw [hdot]
        rfl
      · simp [leading, hslash, hdot]
  · by_cases hslash : a = '/'
    · rw [hslash]
      rfl
    · by_cases hdot : a = '.' ∧ b = '/'
      · rw [hdot.1, hdot.2]
        rfl
      · simp_all [leading]

/-- Behind a text that is not empty, a slash and a further text add the pieces of that text. -/
theorem ofText_append_slash (hne : front ≠ []) (rest : List Char) :
    ofText (front ++ '/' :: rest) = ofText front ++ (rest.splitOn '/').filterMap ofPiece? := by
  rw [ofText, leading_append_slash hne, List.splitOn_append_cons_self, List.filterMap_append,
    ← List.append_assoc, ofText]

/-- A slash at the end of a text is no piece of its own. It counts only if it is the whole text. -/
theorem ofText_append_of_slash_end (front rest : List Char) :
    ofText (front ++ '/' :: rest) =
      ofText (front ++ ['/']) ++ (rest.splitOn '/').filterMap ofPiece? := by
  by_cases hne : front = []
  · subst hne
    rw [ofText, List.splitOn_append_cons_self, List.filterMap_append]
    rfl
  · rw [ofText_append_slash hne rest, ofText_append_slash hne [], List.append_assoc]
    rfl

/-- Only the empty text has no components: a dot that stands for none is kept at the beginning. -/
theorem eq_nil_of_ofText_eq_nil {cs : List Char} (h : ofText cs = []) : cs = [] := by
  obtain ⟨hleading, hpieces⟩ := List.append_eq_nil_iff.mp h
  obtain ⟨first, others, hsplit⟩ := List.exists_cons_of_ne_nil (List.splitOn_ne_nil '/' cs)
  have hfirst : ofPiece? first = none :=
    List.filterMap_eq_nil_iff.mp hpieces first (hsplit ▸ List.mem_cons_self)
  have htext : cs = ['/'].intercalate (first :: others) := by
    rw [← hsplit, List.intercalate_splitOn]
  unfold ofPiece? at hfirst
  split at hfirst
  · cases others with
    | nil => exact htext
    | cons piece others =>
      rw [htext, List.intercalate_cons_cons] at hleading
      contradiction
  · cases others with
    | nil =>
      rw [htext] at hleading
      contradiction
    | cons piece others =>
      rw [htext, List.intercalate_cons_cons] at hleading
      contradiction
  · contradiction
  · contradiction

/-- The text of pieces does not begin at the root. -/
theorem startsAtRoot_joined {cs : List Component} (h : ∀ c ∈ cs, IsPiece c) :
    Path.startsAtRoot (joined cs) = false := by
  cases cs with
  | nil => rfl
  | cons c cs =>
    have hfront : ∃ rest, joined (c :: cs) = c.text.toList ++ rest := by
      cases cs with
      | nil => exact ⟨[], by rw [joined, List.map_singleton, List.intercalate_singleton, List.append_nil]⟩
      | cons d cs => exact ⟨_, joined_cons_cons c d cs⟩
    obtain ⟨rest, hrest⟩ := hfront
    have hleading : leading (joined (c :: cs)) = [] := by
      rw [hrest, (h c List.mem_cons_self).leading_append]
    rw [Bool.eq_false_iff, Path.startsAtRoot, ne_eq, beq_iff_eq, List.head?_eq_some_iff]
    rintro ⟨others, hroot⟩
    rw [hroot] at hleading
    contradiction

end Component

namespace Path

variable {p q root : Path} {rest : String} {cs : List Component}

/-- A path lies strictly below a root if its components continue those of the root. -/
def StrictlyBelow (p root : Path) : Prop :=
  root.components <+: p.components ∧ root.components ≠ p.components

/-- A path lies strictly below a root exactly if something is left of it behind the root. -/
theorem strictlyBelow_iff : p.StrictlyBelow root ↔ ∃ cs, p.below? root = some cs := by
  constructor
  · rintro ⟨⟨cs, hcs⟩, hne⟩
    refine ⟨cs, below?_eq_some_iff.mpr ⟨hcs, fun hnil => hne ?_⟩⟩
    rw [← hcs, hnil, List.append_nil]
  · rintro ⟨cs, hbelow⟩
    obtain ⟨hcs, hne⟩ := below?_eq_some_iff.mp hbelow
    refine ⟨⟨cs, hcs⟩, fun heq => hne ?_⟩
    rw [heq] at hcs
    exact List.append_right_eq_self.mp hcs

/-- What continues a path without components is read on its own, relative or not. -/
theorem components_join_of_components_eq_nil (h : p.components = []) (rest : String) :
    (p.join rest).components = Component.ofText rest.toList := by
  rw [p.components_eq] at h
  have hempty : p.text = "" := String.toList_eq_nil_iff.mp (Component.eq_nil_of_ofText_eq_nil h)
  rw [join, hempty]
  split
  · rfl
  · change Component.ofText ("" ++ rest).toList = _
    rw [String.empty_append]

/-- A path that is continued by a relative text goes through its own components first. -/
theorem components_join (hne : p.text ≠ "") (hrelative : startsAtRoot rest.toList = false) :
    (p.join rest).components =
      p.components ++ (rest.toList.splitOn '/').filterMap Component.ofPiece? := by
  have hempty : p.text.isEmpty = false := by simpa using hne
  have hchars : p.text.toList ≠ [] := by simpa using hne
  rw [join, hrelative, hempty, p.components_eq]
  simp only [Bool.false_eq_true, if_false, Bool.false_or]
  split
  · rename_i hslash
    obtain ⟨front, hfront⟩ := List.getLast?_eq_some_iff.mp (beq_iff_eq.mp hslash)
    change Component.ofText (p.text ++ rest).toList = _
    rw [String.toList_append, hfront, List.append_assoc]
    exact Component.ofText_append_of_slash_end front rest.toList
  · change Component.ofText (p.text ++ "/" ++ rest).toList = _
    rw [String.toList_append, String.toList_append, List.append_assoc]
    exact Component.ofText_append_slash hchars rest.toList

/-- A root continued by what remains of a path below it leads to the path. -/
theorem components_join_of_below? (h : p.below? root = some cs) :
    (root.join (p.relativeTo (some root))).components = p.components := by
  obtain ⟨hpath, hne⟩ := below?_eq_some_iff.mp h
  have hcanonical : Component.Canonical (root.components ++ cs) := hpath ▸ p.canonical_components
  have hrelative : p.relativeTo (some root) = "/".intercalate (cs.map Component.text) := by
    rw [relativeTo, Option.bind_some, h]
  rw [hrelative]
  cases hroot : root.components with
  | nil =>
    rw [hroot, List.nil_append] at hpath hcanonical
    rw [components_join_of_components_eq_nil hroot, Component.toList_intercalate_text,
      Component.ofText_joined hcanonical, hpath]
  | cons c before =>
    -- Below a root that has components there are only pieces.
    have hpieces : ∀ d ∈ cs, Component.IsPiece d := by
      rw [hroot] at hcanonical
      exact fun d hd => hcanonical.2 d (List.mem_append_right _ hd)
    have hspelled : root.text ≠ "" := by
      intro hempty
      rw [root.components_eq, hempty] at hroot
      contradiction
    rw [components_join hspelled, Component.toList_intercalate_text,
      Component.filterMap_splitOn_joined hpieces, hpath]
    rw [Component.toList_intercalate_text]
    exact Component.startsAtRoot_joined hpieces

/-- A root continued by the relative path of a file strictly below it leads back to the file, and
two files strictly below it that have one relative path are one. Under every other root, and without
one, the relative path is the path as spelled. -/
theorem relativeTo_rejoined (p q root : Path) :
    (p.StrictlyBelow root → identity (root.join (p.relativeTo (some root))) = identity p) ∧
      (¬p.StrictlyBelow root → p.relativeTo (some root) = p.text) ∧
      p.relativeTo none = p.text ∧
      (p.StrictlyBelow root → q.StrictlyBelow root → identity p ≠ identity q →
        p.relativeTo (some root) ≠ q.relativeTo (some root)) := by
  have hback {r : Path} (h : r.StrictlyBelow root) :
      (root.join (r.relativeTo (some root))).components = r.components := by
    obtain ⟨cs, hcs⟩ := strictlyBelow_iff.mp h
    exact components_join_of_below? hcs
  refine ⟨hback, fun h => ?_, rfl, fun hp hq hne heq => hne ?_⟩
  · have hnone : p.below? root = none := by
      rw [Option.eq_none_iff_forall_ne_some]
      exact fun cs hcs => h (strictlyBelow_iff.mpr ⟨cs, hcs⟩)
    rw [relativeTo, Option.bind_some, hnone]
  · change p.components = q.components
    rw [← hback hp, heq, hback hq]

/-- Below the empty root a path from the root directory has two slashes in front, and leads back all
the same. A root of the same name that is not at the root directory is none of its roots. -/
theorem relativeTo_rejoined_emptyRoot :
    (ofString "/p//./x.twig").StrictlyBelow (ofString "") ∧
      (ofString "/p/y.twig").StrictlyBelow (ofString "") ∧
      ¬(ofString "/p//./x.twig").StrictlyBelow (ofString "p") ∧
      (ofString "/p//./x.twig").relativeTo (some (ofString "")) = "//p/x.twig" ∧
      identity ((ofString "").join ((ofString "/p//./x.twig").relativeTo (some (ofString "")))) =
        identity (ofString "/p//./x.twig") ∧
      (ofString "/p//./x.twig").relativeTo (some (ofString "p")) = "/p//./x.twig" ∧
      (ofString "/p//./x.twig").relativeTo (some (ofString "")) ≠
        (ofString "/p/y.twig").relativeTo (some (ofString "")) := by
  have hbelow : (ofString "/p//./x.twig").StrictlyBelow (ofString "") := by
    unfold StrictlyBelow
    decide
  have hbelow' : (ofString "/p/y.twig").StrictlyBelow (ofString "") := by
    unfold StrictlyBelow
    decide
  have hother : ¬(ofString "/p//./x.twig").StrictlyBelow (ofString "p") := by
    unfold StrictlyBelow
    decide
  have hne : identity (ofString "/p//./x.twig") ≠ identity (ofString "/p/y.twig") := by decide
  obtain ⟨hback, -, -, hdiffer⟩ :=
    relativeTo_rejoined (ofString "/p//./x.twig") (ofString "/p/y.twig") (ofString "")
  exact ⟨hbelow, hbelow', hother, by cbv, hback hbelow,
    (relativeTo_rejoined (ofString "/p//./x.twig") (ofString "/p/y.twig") (ofString "p")).2.1 hother,
    hdiffer hbelow hbelow' hne⟩

end Path

end TwigRelations
