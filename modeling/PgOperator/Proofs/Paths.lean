import Mathlib.Data.List.Basic
import Mathlib.Tactic.Lemma
import PgOperator.Text

/-!
Absolute paths.

A path leads through its parts, the segments that are neither empty nor `.`. Everything about them
follows from one equation: what stands before a slash and what stands behind it have their parts
each for themselves (`pathParts_append_slash`). An absolute path is the list of the parts of what it
has been made of, written out, so that paths may be joined in any grouping (`absolutePath_append`).
-/

namespace PgOperator

/-- The parts of a path, without those that lead nowhere. -/
def pathParts (path : String) : List String :=
  (Text.segments path).filter fun s => s ≠ "" ∧ s ≠ "."

/-! ### Segments -/

lemma not_mem_of_mem_splitOn {α : Type} [DecidableEq α] {a : α} {xs piece : List α}
    (h : piece ∈ xs.splitOn a) : a ∉ piece := by
  induction xs generalizing piece with
  | nil =>
    obtain rfl := List.mem_singleton.1 h
    exact List.not_mem_nil
  | cons x rest ih =>
    rw [List.splitOn_cons_eq_if_modifyHead] at h
    split at h
    · rcases List.mem_cons.1 h with rfl | h
      · exact List.not_mem_nil
      · exact ih h
    · rename_i hx
      obtain ⟨first, others, hrest⟩ := List.exists_cons_of_ne_nil (List.splitOn_ne_nil a rest)
      rw [hrest] at h ih
      rcases List.mem_cons.1 h with rfl | h
      · have hne : a ≠ x := fun heq => hx (beq_iff_eq.2 heq.symm)
        exact List.not_mem_cons_of_ne_of_not_mem hne (ih List.mem_cons_self)
      · exact ih (List.mem_cons_of_mem _ h)

namespace Text

lemma segments_append_slash (a b : String) :
    segments (a ++ "/" ++ b) = segments a ++ segments b := by
  have hchars : (a ++ "/" ++ b).toList = a.toList ++ '/' :: b.toList := by simp
  rw [segments, hchars, List.splitOn_append_cons_self, List.map_append]
  rfl

lemma segments_of_not_mem {s : String} (h : '/' ∉ s.toList) : segments s = [s] := by
  rw [segments, List.splitOn_eq_singleton h, List.map_singleton, String.ofList_toList]

lemma segments_of_mem_segments {s path : String} (h : s ∈ segments path) : segments s = [s] := by
  obtain ⟨piece, hpiece, rfl⟩ := List.mem_map.1 h
  refine segments_of_not_mem ?_
  rw [String.toList_ofList]
  exact not_mem_of_mem_splitOn hpiece

lemma segments_ne_nil (s : String) : segments s ≠ [] := fun h =>
  List.splitOn_ne_nil '/' s.toList (List.map_eq_nil_iff.1 h)

lemma segments_join {paths : List String} (h : paths ≠ []) :
    segments (join "/" paths) = paths.flatMap segments := by
  induction paths with
  | nil => exact absurd rfl h
  | cons path rest ih =>
    cases rest with
    | nil => simp [join]
    | cons next others =>
      have hjoin : join "/" (path :: next :: others) =
          path ++ "/" ++ join "/" (next :: others) := String.intercalate_cons_cons
      rw [hjoin, segments_append_slash, ih (List.cons_ne_nil _ _)]
      rfl

lemma join_segments (s : String) : join "/" (segments s) = s := by
  have hpieces : (segments s).map String.toList = s.toList.splitOn '/' := by
    simp [segments, Function.comp_def]
  refine String.toList_injective ?_
  rw [join, String.toList_intercalate, hpieces]
  exact List.intercalate_splitOn '/'

end Text

/-! ### Parts -/

open Text

lemma mem_pathParts {part path : String} :
    part ∈ pathParts path ↔ part ∈ segments path ∧ part ≠ "" ∧ part ≠ "." := by
  rw [pathParts, List.mem_filter, decide_eq_true_eq]

lemma pathParts_append_slash (a b : String) :
    pathParts (a ++ "/" ++ b) = pathParts a ++ pathParts b := by
  rw [pathParts, segments_append_slash, List.filter_append]
  rfl

lemma pathParts_of_mem_pathParts {part path : String} (h : part ∈ pathParts path) :
    pathParts part = [part] := by
  obtain ⟨hsegment, hne⟩ := mem_pathParts.1 h
  rw [pathParts, segments_of_mem_segments hsegment]
  exact List.filter_cons_of_pos (decide_eq_true hne)

lemma pathParts_slash (path : String) : pathParts ("/" ++ path) = pathParts path :=
  pathParts_append_slash "" path

lemma pathParts_join (paths : List String) :
    pathParts (join "/" paths) = paths.flatMap pathParts := by
  by_cases h : paths = []
  · subst h
    rfl
  · rw [pathParts, segments_join h, List.filter_flatMap]
    rfl

namespace Text

lemma absolutePath_eq_join (paths : List String) :
    absolutePath paths = "/" ++ join "/" (paths.flatMap pathParts) := by
  rw [absolutePath, List.filter_flatMap]
  rfl

/-- An absolute path leads through the parts of the paths that it is made of, in their order. -/
lemma pathParts_absolutePath (paths : List String) :
    pathParts (absolutePath paths) = paths.flatMap pathParts := by
  have hparts : ∀ part ∈ paths.flatMap pathParts, pathParts part = [part] := by
    intro part hpart
    obtain ⟨path, -, hpart⟩ := List.mem_flatMap.1 hpart
    exact pathParts_of_mem_pathParts hpart
  rw [absolutePath_eq_join, pathParts_slash, pathParts_join, List.flatMap_congr hparts]
  exact List.flatMap_singleton' _

lemma exists_of_endsWith {s suffix : String} (h : endsWith s suffix = true) :
    ∃ front, s = front ++ suffix := by
  obtain ⟨front, hfront⟩ := List.isSuffixOf_iff_suffix.1 h
  exact ⟨String.ofList front, String.toList_injective (by simp [hfront])⟩

/-- The path is written in the one form that there is for it: from the root, and behind that
without anything that leads nowhere. -/
def IsCanonical (path : String) : Prop :=
  ∃ rest, path = "/" ++ rest ∧ (rest = "" ∨ ∀ s ∈ segments rest, s ≠ "" ∧ s ≠ ".")

lemma isCanonical_absolutePath (paths : List String) : IsCanonical (absolutePath paths) := by
  refine ⟨_, absolutePath_eq_join paths, ?_⟩
  by_cases h : paths.flatMap pathParts = []
  · rw [h]
    exact .inl rfl
  · refine .inr fun s hs => ?_
    rw [segments_join h] at hs
    obtain ⟨part, hpart, hs⟩ := List.mem_flatMap.1 hs
    obtain ⟨path, -, hpart⟩ := List.mem_flatMap.1 hpart
    obtain ⟨hsegment, hne⟩ := mem_pathParts.1 hpart
    rw [segments_of_mem_segments hsegment] at hs
    exact List.mem_singleton.1 hs ▸ hne

lemma IsCanonical.endsWith_slash_iff {path : String} (h : IsCanonical path) :
    endsWith path "/" = true ↔ path = "/" := by
  obtain ⟨rest, rfl, rfl | hrest⟩ := h
  · exact iff_of_true rfl rfl
  · constructor
    · -- The text behind the last slash is empty, but no segment behind the root is.
      intro hends
      obtain ⟨front, hfront⟩ := exists_of_endsWith hends
      obtain ⟨first, others, hsegments⟩ := List.exists_cons_of_ne_nil (segments_ne_nil front)
      have hsplit : segments "" ++ segments rest = segments front ++ segments "" := by
        rw [← segments_append_slash, ← segments_append_slash, String.append_empty, ← hfront]
        rfl
      rw [hsegments] at hsplit
      have hlast : segments rest = others ++ [""] := (List.cons_eq_cons.1 hsplit).2
      have hmem : "" ∈ segments rest := hlast ▸ List.mem_append_right _ List.mem_cons_self
      exact absurd rfl (hrest "" hmem).1
    · intro hroot
      rw [hroot]
      rfl

/-- The canonical paths are those that are left as they are. -/
theorem absolutePath_eq_self_iff {path : String} :
    absolutePath [path] = path ↔ IsCanonical path := by
  constructor
  · intro h
    exact h ▸ isCanonical_absolutePath [path]
  · rintro ⟨rest, rfl, rfl | hrest⟩
    · decide +kernel
    · have hparts : ["/" ++ rest].flatMap pathParts = segments rest := by
        rw [List.flatMap_singleton, pathParts_slash, pathParts]
        exact List.filter_eq_self.2 fun s hs => decide_eq_true (hrest s hs)
      rw [absolutePath_eq_join, hparts, join_segments]

/-- **Paths may be joined in any grouping.** What comes out leads through the parts of what it is
made of, is canonical, so that only the root ends with a slash, and is left as it is. -/
theorem absolutePath_append (ps qs : List String) :
    absolutePath (ps ++ qs) = absolutePath [absolutePath ps, absolutePath qs] ∧
      pathParts (absolutePath ps) = ps.flatMap pathParts ∧
      IsCanonical (absolutePath ps) ∧
      (endsWith (absolutePath ps) "/" = true ↔ absolutePath ps = "/") ∧
      absolutePath [absolutePath ps] = absolutePath ps := by
  have hcanonical := isCanonical_absolutePath ps
  refine ⟨?_, pathParts_absolutePath ps, hcanonical, hcanonical.endsWith_slash_iff,
    absolutePath_eq_self_iff.2 hcanonical⟩
  have hparts : [absolutePath ps, absolutePath qs].flatMap pathParts =
      (ps ++ qs).flatMap pathParts := by
    simp only [List.flatMap_cons, List.flatMap_nil, List.append_nil, pathParts_absolutePath,
      List.flatMap_append]
  rw [absolutePath_eq_join, absolutePath_eq_join [_, _], hparts]

end Text

end PgOperator
