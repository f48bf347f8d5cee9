import DeskPanel.Font.Choice
import Mathlib.Data.List.TakeDrop
import Mathlib.Data.List.TakeWhile

/-!
# The stem and the extension of a font file

A font file is matched by its stem, the last component of its path without the extension. A
file name with an extension is its stem, a dot and the extension, where the stem is not empty and
the extension holds no dot: the name splits at its last dot. A file name without one, or whose
only dot leads it, is its own stem.

## Main results

* `fileName_of_extension` — a file name with an extension splits at its last dot.
* `fileStem_of_extension_eq_none` — without an extension the stem is the whole file name.
-/

namespace DeskPanel.Font

/-- A file name with an extension is its stem, a dot and the extension: the stem is not empty,
and the extension holds no dot. -/
theorem fileName_of_extension {path e : String} (h : extension? path = some e) :
    ∃ stem, fileStem? path = some stem ∧ stem ≠ "" ∧ '.' ∉ e.toList ∧
      fileName? path = some (stem.toList ++ '.' :: e.toList) := by
  unfold extension? at h
  cases hn : fileName? path with
  | none => simp [hn] at h
  | some cs =>
    simp only [hn, List.span_eq_takeWhile_dropWhile] at h
    cases hd : cs.reverse.dropWhile (· != '.') with
    | nil => simp [hd] at h
    | cons d before =>
      simp only [Option.bind_eq_bind, Option.bind_some, hd] at h
      have hne : before ≠ [] := fun hnil => by simp [hnil] at h
      rw [if_neg (by simpa using hne)] at h
      cases h
      -- the reversed name splits at its first dot
      have hdot : d = '.' := by
        have hnot := @List.head_dropWhile_not _ (· != '.') cs.reverse (by simp [hd])
        simpa [hd] using hnot
      have hsplit : cs.reverse = cs.reverse.takeWhile (· != '.') ++ d :: before := by
        rw [← hd, List.takeWhile_append_dropWhile]
      refine ⟨String.ofList before.reverse, ?_, ?_, ?_, ?_⟩
      · simp [fileStem?, hn, hd, hne]
      · intro hempty
        have hnil := congrArg String.toList hempty
        simp only [String.toList_ofList, String.toList_empty, List.reverse_eq_nil_iff] at hnil
        exact hne hnil
      · intro hmem
        rw [String.toList_ofList, List.mem_reverse] at hmem
        simpa using List.mem_takeWhile_imp hmem
      · rw [String.toList_ofList, String.toList_ofList, Option.some.injEq]
        nth_rewrite 1 [← List.reverse_reverse cs]
        nth_rewrite 1 [hsplit]
        simp [hdot]

example : fileStem? "/m/Inter.Regular.ttf" = some "Inter.Regular" ∧
    extension? "/m/Inter.Regular.ttf" = some "ttf" := by
  decide

/-- Without an extension the stem is the whole file name: a name whose only dot leads it keeps
the dot, and a path with no file name has no stem. -/
theorem fileStem_of_extension_eq_none {path : String} (h : extension? path = none) :
    fileStem? path = (fileName? path).map String.ofList := by
  unfold extension? at h
  cases hn : fileName? path with
  | none => simp [fileStem?, hn]
  | some cs =>
    simp only [hn, List.span_eq_takeWhile_dropWhile] at h
    cases hd : cs.reverse.dropWhile (· != '.') with
    | nil => simp [fileStem?, hn, hd]
    | cons d before =>
      simp only [Option.bind_eq_bind, Option.bind_some, hd] at h
      -- without an extension the only dot leads the name
      have hnil : before = [] := by
        by_contra hne
        rw [if_neg (by simpa using hne)] at h
        cases h
      simp [fileStem?, hn, hd, hnil]

example : extension? "/o/.ttf" = none ∧ fileStem? "/o/.ttf" = some ".ttf" := by decide

example : fileStem? "/n/dir/" = some "dir" ∧ fileStem? "a/.." = none := by decide

end DeskPanel.Font
