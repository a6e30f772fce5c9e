import TwigRelations.Convention
import TwigRelations.Proofs.Name.Folded
import TwigRelations.Proofs.Path

/-!
# Names that the convention of bundles reads

The convention derives coordinates from the names of two notations, `@Bundle/dirs/file` and
`FooBundle:dirs:file`. A name is in one of them at most and in one way only, so it makes no
difference at which of its slashes a reader would try to cut it first.
-/

namespace TwigRelations

namespace Text

variable {sep : Char} {cs before after : List Char}

/-- A text is cut at the separator before which there is none. -/
theorem cut_eq_some_iff :
    cut sep cs = some (before, after) ↔ cs = before ++ sep :: after ∧ sep ∉ before := by
  constructor
  · exact fun h => ⟨eq_append_of_cut h, not_mem_of_cut h⟩
  · rintro ⟨rfl, hbefore⟩
    exact cut_append_cons hbefore after

/-- Only a text without the separator is not cut. -/
theorem cutLast_eq_none_iff : cutLast sep cs = none ↔ sep ∉ cs := by
  induction cs with
  | nil => simp [cutLast]
  | cons c rest ih =>
    rw [cutLast]
    cases hrest : cutLast sep rest with
    | none =>
      rw [hrest] at ih
      simp [ih.mp rfl, eq_comm]
    | some pieces =>
      rw [hrest] at ih
      simp [show sep ∈ rest by simpa using ih]

/-- A text is cut for the last time at the separator behind which there is none. -/
theorem cutLast_eq_some_iff :
    cutLast sep cs = some (before, after) ↔ cs = before ++ sep :: after ∧ sep ∉ after := by
  induction cs generalizing before after with
  | nil => simp [cutLast]
  | cons c rest ih =>
    rw [cutLast]
    cases hrest : cutLast sep rest with
    | none =>
      have hlast : sep ∉ rest := cutLast_eq_none_iff.mp hrest
      constructor
      · intro h
        obtain ⟨rfl, hpieces⟩ := Option.ite_none_right_eq_some.mp h
        cases hpieces
        exact ⟨rfl, hlast⟩
      · rintro ⟨htext, -⟩
        cases before with
        | nil =>
          obtain ⟨rfl, rfl⟩ := List.cons.inj htext
          exact if_pos rfl
        | cons b before =>
          obtain ⟨-, rfl⟩ := List.cons.inj htext
          exact absurd (List.mem_append_right _ List.mem_cons_self) hlast
    | some pieces =>
      obtain ⟨front, back⟩ := pieces
      obtain ⟨hfront, hback⟩ := ih.mp hrest
      constructor
      · intro h
        cases h
        exact ⟨congrArg (c :: ·) hfront, hback⟩
      · rintro ⟨htext, hafter⟩
        cases before with
        | nil =>
          obtain ⟨-, rfl⟩ := List.cons.inj htext
          exact absurd (hfront ▸ List.mem_append_right _ List.mem_cons_self) hafter
        | cons b before =>
          obtain ⟨rfl, htail⟩ := List.cons.inj htext
          cases hrest.symm.trans (ih.mpr ⟨htail, hafter⟩)
          rfl

/-- A text is cut into three pieces by two separators. -/
theorem splitOn_eq_three_iff {first second third : List Char} :
    cs.splitOn sep = [first, second, third] ↔
      cs = first ++ sep :: (second ++ sep :: third) ∧ sep ∉ first ∧ sep ∉ second ∧ sep ∉ third := by
  constructor
  · intro h
    have hfree (piece : List Char) (hpiece : piece ∈ [first, second, third]) : sep ∉ piece :=
      not_mem_of_mem_splitOn (h ▸ hpiece)
    have hjoined : [sep].intercalate (cs.splitOn sep) = cs := List.intercalate_splitOn sep
    rw [h, List.intercalate_cons_cons, List.intercalate_cons_cons, List.intercalate_singleton,
      List.append_assoc, List.append_assoc] at hjoined
    exact ⟨hjoined.symm, hfree _ (by simp), hfree _ (by simp), hfree _ (by simp)⟩
  · rintro ⟨rfl, hfirst, hsecond, hthird⟩
    rw [List.splitOn_append_cons_self_of_not_mem hfirst,
      List.splitOn_append_cons_self_of_not_mem hsecond, List.splitOn_eq_singleton hthird]

theorem isWord_slash : isWord '/' = false := by decide

theorem isWord_colon : isWord ':' = false := by decide

theorem isWord_at : isWord '@' = false := by decide

end Text

namespace Convention

variable {cs : List Char} {parts parts' : BundleName} {r : ActionRef}

/-- A text is a name in the notation `@Bundle/dirs/file`. -/
structure Namespaced (cs : List Char) (parts : BundleName) : Prop where
  /-- The text is made of the parts. -/
  text : cs = '@' :: (parts.bundle ++ '/' :: (parts.dirs ++ '/' :: parts.file))
  /-- There is a bundle. -/
  bundle_ne_nil : parts.bundle ≠ []
  /-- The bundle is a word. -/
  bundle_word : ∀ c ∈ parts.bundle, Text.isWord c = true
  /-- There are directories. -/
  dirs_ne_nil : parts.dirs ≠ []
  /-- The directories lie on one line. They may hold slashes. -/
  dirs_one_line : '\n' ∉ parts.dirs
  /-- There is a file. -/
  file_ne_nil : parts.file ≠ []
  /-- The file stands behind the last slash. -/
  file_slash : '/' ∉ parts.file

/-- A text is a name in the notation `FooBundle:dirs:file`. -/
structure ColonSeparated (cs : List Char) (parts : BundleName) : Prop where
  /-- The text is made of the parts. -/
  text : cs = parts.bundle ++ ':' :: (parts.dirs ++ ':' :: parts.file)
  /-- The bundle is a word. -/
  bundle_word : ∀ c ∈ parts.bundle, Text.isWord c = true
  /-- The bundle has a name before its ending. -/
  bundle_ending : ∃ front, front ≠ [] ∧ parts.bundle = front ++ "Bundle".toList
  /-- There are directories. -/
  dirs_ne_nil : parts.dirs ≠ []
  /-- The directories stand before the last colon. -/
  dirs_colon : ':' ∉ parts.dirs
  /-- There is a file. -/
  file_ne_nil : parts.file ≠ []
  /-- The file stands behind the last colon. -/
  file_colon : ':' ∉ parts.file
  /-- The file is in none of its own directories. -/
  file_slash : '/' ∉ parts.file

/-- A sign that is no word character is in no text of word characters. -/
theorem not_mem_of_isWord {c : Char} (hc : Text.isWord c = false)
    (h : ∀ d ∈ cs, Text.isWord d = true) : c ∉ cs := by
  intro hmem
  rw [h c hmem] at hc
  contradiction

/-- The word for a bundle is a non-empty run of word characters. -/
theorem isBundleWord_iff :
    isBundleWord cs = true ↔ cs ≠ [] ∧ ∀ c ∈ cs, Text.isWord c = true := by
  rw [isBundleWord, Bool.and_eq_true, Bool.not_eq_true', List.isEmpty_eq_false_iff,
    List.all_eq_true]

/-- The checks on the parts of `@Bundle/dirs/file`. -/
theorem namespacedChecks_iff {bundle dirs file : List Char} :
    (isBundleWord bundle && !dirs.isEmpty && !dirs.contains '\n' && !file.isEmpty) = true ↔
      (bundle ≠ [] ∧ ∀ c ∈ bundle, Text.isWord c = true) ∧ dirs ≠ [] ∧ '\n' ∉ dirs ∧
        file ≠ [] := by
  simp only [Bool.and_eq_true, isBundleWord_iff, Bool.not_eq_true', List.isEmpty_eq_false_iff,
    List.contains_eq_mem, decide_eq_false_iff_not, and_assoc]

/-- A text is read in the notation `@Bundle/dirs/file` exactly if it is a name in it, and then by
its parts. -/
theorem namespaced?_eq_some_iff : namespaced? cs = some parts ↔ Namespaced cs parts := by
  constructor
  · intro h
    unfold namespaced? at h
    split at h
    · split at h
      · rename_i bundle below hcut
        split at h
        · rename_i dirs file hlast
          obtain ⟨hchecks, heq⟩ := Option.ite_none_right_eq_some.mp h
          obtain rfl := Option.some.inj heq
          obtain ⟨⟨hbundle, hword⟩, hdirs, hline, hfile⟩ := namespacedChecks_iff.mp hchecks
          obtain ⟨rfl, -⟩ := Text.cut_eq_some_iff.mp hcut
          obtain ⟨rfl, hslash⟩ := Text.cutLast_eq_some_iff.mp hlast
          exact ⟨rfl, hbundle, hword, hdirs, hline, hfile, hslash⟩
        · contradiction
      · contradiction
    · contradiction
  · intro h
    obtain ⟨bundle, dirs, file⟩ := parts
    obtain ⟨rfl, hbundle, hword, hdirs, hline, hfile, hslash⟩ := h
    have hcut : Text.cut '/' (bundle ++ '/' :: (dirs ++ '/' :: file)) =
        some (bundle, dirs ++ '/' :: file) :=
      Text.cut_eq_some_iff.mpr ⟨rfl, not_mem_of_isWord Text.isWord_slash hword⟩
    have hlast : Text.cutLast '/' (dirs ++ '/' :: file) = some (dirs, file) :=
      Text.cutLast_eq_some_iff.mpr ⟨rfl, hslash⟩
    have hchecks := namespacedChecks_iff.mpr ⟨⟨hbundle, hword⟩, hdirs, hline, hfile⟩
    simp only [namespaced?, hcut, hlast]
    exact if_pos hchecks

/-- A bundle in colon notation has a name before its ending. -/
theorem bundleEnding_iff {bundle : List Char} :
    "Bundle".toList.isSuffixOf bundle = true ∧ bundle.length > 6 ↔
      ∃ front, front ≠ [] ∧ bundle = front ++ "Bundle".toList := by
  have hlength (front : List Char) : (front ++ "Bundle".toList).length = front.length + 6 :=
    List.length_append
  rw [List.isSuffixOf_iff_suffix]
  constructor
  · rintro ⟨⟨front, rfl⟩, hlong⟩
    refine ⟨front, ?_, rfl⟩
    rw [hlength] at hlong
    rintro rfl
    contradiction
  · rintro ⟨front, hne, rfl⟩
    refine ⟨List.suffix_append _ _, ?_⟩
    have hpos := List.length_pos_iff.mpr hne
    rw [hlength]
    omega

/-- The checks on the parts of `FooBundle:dirs:file`. -/
theorem colonChecks_iff {bundle dirs file : List Char} :
    (isBundleWord bundle && "Bundle".toList.isSuffixOf bundle && bundle.length > 6 &&
        !dirs.isEmpty && !file.isEmpty && !file.contains '/') = true ↔
      (∀ c ∈ bundle, Text.isWord c = true) ∧
        (∃ front, front ≠ [] ∧ bundle = front ++ "Bundle".toList) ∧ dirs ≠ [] ∧ file ≠ [] ∧
        '/' ∉ file := by
  simp only [Bool.and_eq_true, isBundleWord_iff, Bool.not_eq_true', List.isEmpty_eq_false_iff,
    List.contains_eq_mem, decide_eq_false_iff_not, decide_eq_true_eq]
  constructor
  · rintro ⟨⟨⟨⟨⟨⟨-, hword⟩, hsuffix⟩, hlong⟩, hdirs⟩, hfile⟩, hslash⟩
    exact ⟨hword, bundleEnding_iff.mp ⟨hsuffix, hlong⟩, hdirs, hfile, hslash⟩
  · rintro ⟨hword, hending, hdirs, hfile, hslash⟩
    obtain ⟨hsuffix, hlong⟩ := bundleEnding_iff.mpr hending
    have hbundle : bundle ≠ [] := List.ne_nil_of_length_pos (Nat.zero_lt_of_lt hlong)
    exact ⟨⟨⟨⟨⟨⟨hbundle, hword⟩, hsuffix⟩, hlong⟩, hdirs⟩, hfile⟩, hslash⟩

/-- A text is read in the notation `FooBundle:dirs:file` exactly if it is a name in it, and then by
its parts. -/
theorem colonSeparated?_eq_some_iff :
    colonSeparated? cs = some parts ↔ ColonSeparated cs parts := by
  constructor
  · intro h
    unfold colonSeparated? at h
    split at h
    · rename_i bundle dirs file hpieces
      obtain ⟨hchecks, heq⟩ := Option.ite_none_right_eq_some.mp h
      obtain rfl := Option.some.inj heq
      obtain ⟨hword, hending, hdirs, hfile, hslash⟩ := colonChecks_iff.mp hchecks
      obtain ⟨rfl, -, hcolon, hcolon'⟩ := Text.splitOn_eq_three_iff.mp hpieces
      exact ⟨rfl, hword, hending, hdirs, hcolon, hfile, hcolon', hslash⟩
    · contradiction
  · intro h
    obtain ⟨bundle, dirs, file⟩ := parts
    obtain ⟨rfl, hword, hending, hdirs, hcolon, hfile, hcolon', hslash⟩ := h
    have hpieces : (bundle ++ ':' :: (dirs ++ ':' :: file)).splitOn ':' = [bundle, dirs, file] :=
      Text.splitOn_eq_three_iff.mpr
        ⟨rfl, not_mem_of_isWord Text.isWord_colon hword, hcolon, hcolon'⟩
    have hchecks := colonChecks_iff.mpr ⟨hword, hending, hdirs, hfile, hslash⟩
    simp only [colonSeparated?, hpieces]
    exact if_pos hchecks

/-- A name in one notation begins with a sign that a name in the other one does not begin with. -/
theorem Namespaced.not_colonSeparated (h : Namespaced cs parts) : ¬ColonSeparated cs parts' := by
  intro h'
  obtain ⟨front, hne, hbundle⟩ := h'.bundle_ending
  obtain ⟨c, front, rfl⟩ := List.exists_cons_of_ne_nil hne
  have hword : Text.isWord c = true := h'.bundle_word c (hbundle ▸ List.mem_cons_self)
  have htext := h.text.symm.trans h'.text
  rw [hbundle] at htext
  obtain rfl : '@' = c := (List.cons.inj htext).1
  rw [Text.isWord_at] at hword
  contradiction

/-- A text is a name in one of the notations. -/
def WrittenAs (cs : List Char) (parts : BundleName) : Prop :=
  Namespaced cs parts ∨ ColonSeparated cs parts

/-- A spelling as the convention reads it: without the blanks around it, and with slashes only. -/
def reading (s : String) : List Char := Text.readAs '\\' '/' (Text.trim s.toList)

/-- A spelling has the parts of a bundle name exactly if it is written that way in either notation.
-/
theorem bundleName?_eq_some_iff {s : String} :
    bundleName? (.ofString s) = some parts ↔ WrittenAs (reading s) parts := by
  change (namespaced? (reading s)).or (colonSeparated? (reading s)) = some parts ↔ _
  rw [Option.or_eq_some_iff, namespaced?_eq_some_iff, colonSeparated?_eq_some_iff, WrittenAs]
  apply or_congr_right
  rw [and_iff_right_iff_imp]
  intro hcolon
  rw [Option.eq_none_iff_forall_ne_some]
  exact fun other hother => (namespaced?_eq_some_iff.mp hother).not_colonSeparated hcolon

/-- The text of a file before its first dot, or the whole text where there is none. -/
def IsStem (file stem : List Char) : Prop :=
  '.' ∉ stem ∧ (file = stem ∨ stem ++ ['.'] <+: file)

/-- A file has one stem, which is what stands before its first dot. -/
theorem isStem_iff {file stem : List Char} :
    IsStem file stem ↔ stem = file.takeWhile (· != '.') := by
  constructor
  · rintro ⟨hdot, hfile⟩
    have hkept : ∀ c ∈ stem, (c != '.') = true := fun c hc =>
      bne_iff_ne.mpr fun heq => hdot (heq ▸ hc)
    rcases hfile with rfl | ⟨rest, rfl⟩
    · exact (List.takeWhile_eq_self_iff.mpr hkept).symm
    · rw [List.append_assoc, List.takeWhile_append_of_pos hkept]
      exact (List.append_nil stem).symm
  · rintro rfl
    refine ⟨fun hdot => absurd (List.mem_takeWhile_imp hdot) (by decide), ?_⟩
    have hparts := List.takeWhile_append_dropWhile (p := (· != '.')) (l := file)
    cases hrest : file.dropWhile (· != '.') with
    | nil =>
      rw [hrest, List.append_nil] at hparts
      exact .inl hparts.symm
    | cons c rest =>
      have hfirst := List.head?_dropWhile_not (· != '.') file
      rw [hrest] at hfirst
      obtain rfl : c = '.' := by simpa using hfirst
      rw [hrest] at hparts
      exact .inr ⟨rest, by rw [List.append_assoc]; exact hparts⟩

namespace BundleName

/-- The file of a name has a stem. -/
def HasStem (n : BundleName) : Prop := ∃ stem, IsStem n.file stem ∧ stem ≠ []

/-- The directories of a name have a segment that is not empty. -/
def HasSegment (n : BundleName) : Prop := ∃ segment ∈ n.dirs.splitOn '/', segment ≠ []

/-- The segments of the directories of a name that are not empty. -/
def segments (n : BundleName) : List (List Char) := (n.dirs.splitOn '/').filter (· ≠ [])

/-- The coordinates that the parts of a name stand for: the bundle with its ending, the controller
that its directories lead to, and the action of its file. -/
structure StandsFor (n : BundleName) (r : ActionRef) : Prop where
  /-- The bundle has its ending, whether or not it is written. -/
  bundle : ∃ b, r.bundle = some (String.ofList b) ∧
    ("Bundle".toList <:+ n.bundle ∧ b = n.bundle ∨
      ¬"Bundle".toList <:+ n.bundle ∧ b = n.bundle ++ "Bundle".toList)
  /-- Some segment is not empty. -/
  segments_ne_nil : n.segments ≠ []
  /-- The segments lead to the controller. -/
  controller : r.controller =
    String.ofList (['\\'].intercalate n.segments ++ "Controller".toList)
  /-- The stem of the file, which is not empty, names the action. -/
  action : ∃ stem, IsStem n.file stem ∧ stem ≠ [] ∧
    r.action = String.ofList (stem ++ "Action".toList)

variable {n : BundleName}

theorem segments_eq (n : BundleName) :
    (n.dirs.splitOn '/').filter (!·.isEmpty) = n.segments :=
  List.filter_congr fun segment _ => by cases segment <;> rfl

theorem hasSegment_iff : n.HasSegment ↔ n.segments ≠ [] := by
  rw [HasSegment, segments, ne_eq, List.filter_eq_nil_iff]
  simp

/-- The ending `Bundle` is added exactly where it is missing. -/
theorem eq_withEnding_iff {b bundle : List Char} :
    b = withEnding bundle ↔
      "Bundle".toList <:+ bundle ∧ b = bundle ∨
        ¬"Bundle".toList <:+ bundle ∧ b = bundle ++ "Bundle".toList := by
  rw [withEnding, ← List.isSuffixOf_iff_suffix]
  by_cases hending : "Bundle".toList.isSuffixOf bundle = true
  · rw [if_pos hending, and_iff_right hending, or_iff_left fun h => h.1 hending]
  · rw [if_neg hending, and_iff_right hending, or_iff_right fun h => hending h.1]

/-- The parts of a name give coordinates exactly if they stand for them. -/
theorem actionRef?_eq_some_iff : n.actionRef? = some r ↔ n.StandsFor r := by
  rw [actionRef?]
  simp only [segments_eq, Option.ite_none_left_eq_some, Bool.or_eq_true, List.isEmpty_iff, not_or]
  constructor
  · rintro ⟨⟨hstem, hsegments⟩, heq⟩
    obtain rfl := Option.some.inj heq
    exact ⟨⟨_, rfl, eq_withEnding_iff.mp rfl⟩, hsegments, rfl, ⟨_, isStem_iff.mpr rfl, hstem, rfl⟩⟩
  · rintro ⟨⟨b, hbundle, hending⟩, hsegments, hcontroller, stem, hstem, hne, haction⟩
    obtain rfl := eq_withEnding_iff.mpr hending
    obtain rfl := isStem_iff.mp hstem
    refine ⟨⟨hne, hsegments⟩, ?_⟩
    rw [← hbundle, ← hcontroller, ← haction]

/-- Parts stand for some coordinates if the file has a stem and the directories a segment. -/
theorem exists_standsFor_iff : (∃ r, n.StandsFor r) ↔ n.HasStem ∧ n.HasSegment := by
  rw [hasSegment_iff]
  constructor
  · rintro ⟨r, h⟩
    obtain ⟨stem, hstem, hne, -⟩ := h.action
    exact ⟨⟨stem, hstem, hne⟩, h.segments_ne_nil⟩
  · rintro ⟨⟨stem, hstem, hne⟩, hsegments⟩
    exact ⟨⟨_, _, _⟩, ⟨_, rfl, eq_withEnding_iff.mp rfl⟩, hsegments, rfl, ⟨stem, hstem, hne, rfl⟩⟩

end BundleName

/-- The convention derives coordinates from a spelling exactly if it is a name in one of the
notations whose file has a stem and whose directories have a segment, and then those that its parts
stand for. There is one way at most to read a spelling as such a name. -/
theorem symfony_derives (s : String) :
    ((symfony.actionRef? (.ofString s)).isSome = true ↔
      ∃ parts, WrittenAs (reading s) parts ∧ parts.HasStem ∧ parts.HasSegment) ∧
      (∀ r, symfony.actionRef? (.ofString s) = some r ↔
        ∃ parts, WrittenAs (reading s) parts ∧ parts.StandsFor r) ∧
      Subsingleton {parts // WrittenAs (reading s) parts} := by
  have hderives (r : ActionRef) : symfony.actionRef? (.ofString s) = some r ↔
      ∃ parts, WrittenAs (reading s) parts ∧ parts.StandsFor r := by
    change (bundleName? (.ofString s)).bind BundleName.actionRef? = some r ↔ _
    rw [Option.bind_eq_some_iff]
    simp only [bundleName?_eq_some_iff, BundleName.actionRef?_eq_some_iff]
  refine ⟨?_, hderives, ⟨fun parts parts' => Subtype.ext ?_⟩⟩
  · rw [Option.isSome_iff_exists]
    simp only [hderives, ← BundleName.exists_standsFor_iff]
    constructor
    · rintro ⟨r, parts, hwritten, hstands⟩
      exact ⟨parts, hwritten, r, hstands⟩
    · rintro ⟨parts, hwritten, r, hstands⟩
      exact ⟨r, parts, hwritten, hstands⟩
  · have hread := bundleName?_eq_some_iff.mpr parts.property
    rw [bundleName?_eq_some_iff.mpr parts'.property] at hread
    exact (Option.some.inj hread).symm

example : symfony.actionRef? (.ofString " @Foo\\Admin//User/edit.html.twig") =
    some ⟨some "FooBundle", "Admin\\UserController", "editAction"⟩ := by
  decide +kernel

end Convention

end TwigRelations
