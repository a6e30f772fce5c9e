import TwigRelations.Cli.View

/-!
# What is printed for a report

A table of relations has rules, and so it is told from the line that stands where there is no
relation.
-/

namespace TwigRelations.Cli

namespace TextTable

/-- A table with columns does not lose them. -/
theorem widen_ne_nil {as : List Nat} (h : as ≠ []) (bs : List Nat) : widen as bs ≠ [] := by
  cases as with
  | nil => contradiction
  | cons a as => cases bs <;> exact List.cons_ne_nil _ _

/-- A table with a head has columns. -/
theorem widths_ne_nil {t : TextTable} (h : t.head ≠ []) : t.widths ≠ [] := by
  have hrows (rows : List (List Nat)) (found : List Nat) (hfound : found ≠ []) :
      rows.foldl widen found ≠ [] := by
    induction rows generalizing found with
    | nil => exact hfound
    | cons row rows ih => exact ih _ (widen_ne_nil hfound row)
  rw [widths, List.map_cons, List.foldl_cons]
  apply hrows
  obtain ⟨cell, cells, hhead⟩ := List.exists_cons_of_ne_nil h
  rw [hhead]
  exact List.cons_ne_nil _ _

/-- What is joined by a separator stands in the text. -/
theorem mem_intercalate {c : Char} {sep : List Char} {pieces : List (List Char)} {piece : List Char}
    (hpiece : piece ∈ pieces) (hc : c ∈ piece) : c ∈ sep.intercalate pieces := by
  induction pieces with
  | nil => contradiction
  | cons first rest ih =>
    cases rest with
    | nil =>
      obtain rfl := List.mem_singleton.mp hpiece
      rwa [List.intercalate_singleton]
    | cons second rest =>
      rw [List.intercalate_cons_cons, List.mem_append]
      rcases List.mem_cons.mp hpiece with rfl | hpiece
      · exact .inl (List.mem_append_left _ hc)
      · exact .inr (ih hpiece)

/-- A plain table has a dash, in the rule below its head. -/
theorem dash_mem_plain {t : TextTable} (h : t.head ≠ []) : '-' ∈ t.plain.toList := by
  have hrule : '-' ∈ rule t.widths := by
    obtain ⟨width, widths, hwidths⟩ := List.exists_cons_of_ne_nil (widths_ne_nil h)
    rw [rule, hwidths, List.map_cons]
    refine mem_intercalate List.mem_cons_self ?_
    exact List.mem_replicate.mpr ⟨by omega, rfl⟩
  rw [plain, joinLines, String.toList_ofList]
  exact mem_intercalate (by simp) hrule

end TextTable

/-- The line with the path and the names of a document. -/
def heading (r : Report) : String :=
  if r.names.isEmpty then r.document.path.text ++ " has no logical name."
  else r.document.path.text ++ " (" ++ ", ".intercalate (r.names.map (·.raw)) ++ ")"

/-- The table of some groups is empty exactly if the groups have no item. -/
theorem isEmpty_rows_relationTable (groups : List RelatedGroup) :
    (relationTable groups).rows.isEmpty = true ↔ ∀ g ∈ groups, g.items = [] := by
  rw [relationTable, List.isEmpty_iff, List.flatMap_eq_nil_iff]
  simp only [List.map_eq_nil_iff]

/-- The line that tells that nothing is related is printed exactly if no group has an item. -/
theorem showReport_eq_iff (r : Report) :
    showReport r = heading r ++ "\nNo related templates found.\n" ↔
      ∀ g ∈ r.groups, g.items = [] := by
  have hshow : showReport r = heading r ++ "\n" ++ (if (relationTable r.groups).rows.isEmpty then
      "No related templates found." else (relationTable r.groups).plain) ++ "\n" := rfl
  have hline : heading r ++ "\nNo related templates found.\n" =
      heading r ++ "\n" ++ "No related templates found." ++ "\n" := by
    rw [String.append_assoc, String.append_assoc]
    rfl
  rw [hshow, hline, ← isEmpty_rows_relationTable]
  by_cases hrows : (relationTable r.groups).rows.isEmpty = true
  · rw [if_pos hrows]
    exact iff_of_true rfl hrows
  · rw [if_neg hrows]
    refine iff_of_false (fun h => ?_) hrows
    have hdash : '-' ∈ (relationTable r.groups).plain.toList :=
      TextTable.dash_mem_plain (List.cons_ne_nil _ _)
    have hchars := congrArg String.toList h
    simp only [String.toList_append] at hchars
    have htable := List.append_cancel_left (List.append_cancel_right hchars)
    rw [htable] at hdash
    exact absurd hdash (by decide)

end TwigRelations.Cli
