import AccessControl.Proofs.Text.Split
import AccessControl.Subpath
import Mathlib.Data.List.DropRight

/-!
# Canonical subpaths

A subpath is canonical when it is the root or segments joined by single slashes.  Canonical
subpaths and lists of segments determine each other, and normalizing leaves a canonical subpath
alone.  Every place that is walked is made of segments.
-/

namespace AccessControl

namespace Subpath

/-- A text that can stand between the slashes of a subpath. -/
def IsSegment (text : String) : Prop := text ≠ "" ∧ '/' ∉ text.toList

/-- A subpath written without redundant slashes. -/
def IsCanonical (path : String) : Prop :=
  ∃ segments : List String, (∀ segment ∈ segments, IsSegment segment) ∧ ofSegments segments = path

theorem isSegment_of_mem_segments {path segment : String} (member : segment ∈ segments path) :
    IsSegment segment := by
  obtain ⟨isPiece, nonempty⟩ := List.mem_filter.mp member
  exact ⟨by simpa using nonempty, Text.not_mem_of_mem_split isPiece⟩

theorem isSegment_everywhere : IsSegment everywhere := by
  refine ⟨?_, ?_⟩ <;> decide

@[simp] theorem segments_root : segments root = [] := by decide

@[simp] theorem ofSegments_nil : ofSegments [] = root := rfl

theorem ofSegments_of_ne_nil {parts : List String} (nonempty : parts ≠ []) :
    ofSegments parts = Text.join '/' parts := by
  cases parts with
  | nil => exact absurd rfl nonempty
  | cons first more => rfl

@[simp] theorem ofSegments_singleton (part : String) : ofSegments [part] = part := by
  simp [ofSegments, Text.join, Text.joined]

/-- A subpath determines the segments that it was made from. -/
theorem segments_ofSegments {parts : List String}
    (areSegments : ∀ part ∈ parts, IsSegment part) : segments (ofSegments parts) = parts := by
  cases parts with
  | nil => exact segments_root
  | cons first more =>
      have nonempty : first :: more ≠ [] := List.cons_ne_nil first more
      rw [ofSegments_of_ne_nil nonempty, segments,
        Text.split_join_of_not_mem nonempty fun part member => (areSegments part member).2,
        List.filter_eq_self]
      intro part member
      simpa using (areSegments part member).1

/-- A canonical subpath is made from its segments. -/
theorem IsCanonical.ofSegments_segments {path : String} (canonical : IsCanonical path) :
    ofSegments (segments path) = path := by
  obtain ⟨parts, areSegments, rfl⟩ := canonical
  rw [segments_ofSegments areSegments]

/-! ## Normal form -/

theorem trimmed_eq_rdropWhile (path : List Char) :
    trimmed path = (path.dropWhile (· = '/')).rdropWhile (· = '/') := rfl

/-- Trimming keeps exactly the texts that neither start nor end with a slash. -/
theorem trimmed_eq_self_iff {path : List Char} :
    trimmed path = path ↔
      (∀ positive : 0 < path.length, path[0] ≠ '/') ∧
        ∀ nonempty : path ≠ [], path.getLast nonempty ≠ '/' := by
  constructor
  · intro fixed
    have start : trimmed path <+: path.dropWhile (· = '/') := List.rdropWhile_prefix _ _
    have whole : path.dropWhile (· = '/') = path := by
      refine (List.dropWhile_suffix _).eq_of_length_le ?_
      calc path.length = (trimmed path).length := by rw [fixed]
        _ ≤ (path.dropWhile (· = '/')).length := start.length_le
    have ending : path.rdropWhile (· = '/') = path := by
      rwa [trimmed_eq_rdropWhile, whole] at fixed
    exact ⟨by simpa using List.dropWhile_eq_self_iff.mp whole,
      by simpa using List.rdropWhile_eq_self_iff.mp ending⟩
  · rintro ⟨head, last⟩
    rw [trimmed_eq_rdropWhile, List.dropWhile_eq_self_iff.mpr (by simpa using head),
      List.rdropWhile_eq_self_iff.mpr (by simpa using last)]

theorem trimmed_trimmed (path : List Char) : trimmed (trimmed path) = trimmed path := by
  refine trimmed_eq_self_iff.mpr ⟨fun positive => ?_, fun nonempty => ?_⟩
  · have start : trimmed path <+: path.dropWhile (· = '/') := List.rdropWhile_prefix _ _
    rw [start.getElem positive]
    simpa using List.dropWhile_get_zero_not _ path (Nat.lt_of_lt_of_le positive start.length_le)
  · simpa [trimmed_eq_rdropWhile] using
      List.rdropWhile_last_not (· = '/') (path.dropWhile (· = '/')) nonempty

@[simp] theorem normalize_normalize (path : String) :
    normalize (normalize path) = normalize path := by
  cases shape : trimmed path.toList with
  | nil => simp only [normalize, shape]; decide
  | cons c rest =>
      have again := trimmed_trimmed path.toList
      simp only [normalize, shape, String.toList_ofList]
      rw [shape] at again
      rw [again]

theorem trimmed_concat_slash (path : List Char) : trimmed (path ++ ['/']) = trimmed path := by
  simp only [trimmed_eq_rdropWhile, List.dropWhile_append]
  cases rest : path.dropWhile (· = '/') with
  | nil => simp
  | cons c more => exact List.rdropWhile_concat_pos _ _ '/' (by simp)

/-- Segments joined by slashes neither start nor end with one. -/
theorem trimmed_joined {parts : List (List Char)}
    (areSegments : ∀ part ∈ parts, part ≠ [] ∧ '/' ∉ part) :
    trimmed (Text.joined '/' parts) = Text.joined '/' parts := by
  refine trimmed_eq_self_iff.mpr ⟨fun positive => ?_, fun nonempty => ?_⟩
  · cases parts with
    | nil => simp [Text.joined] at positive
    | cons part more =>
        obtain ⟨partNonempty, absent⟩ := areSegments part (by simp)
        obtain ⟨c, rest, rfl⟩ := List.exists_cons_of_ne_nil partNonempty
        have differs : c ≠ '/' := fun same => absent (by simp [same])
        cases more <;> simpa [Text.joined] using differs
  · induction parts with
    | nil => exact absurd rfl nonempty
    | cons part more ih =>
        cases more with
        | nil =>
            have absent := (areSegments part (by simp)).2
            exact fun same => absent (same ▸ List.getLast_mem nonempty)
        | cons next others =>
            have rest := ih fun other member => areSegments other (by simp [member])
            have restNonempty : Text.joined '/' (next :: others) ≠ [] := by
              obtain ⟨c, tail, shape⟩ :=
                List.exists_cons_of_ne_nil (areSegments next (by simp)).1
              cases others <;> simp [Text.joined, shape]
            simpa [Text.joined, List.getLast_append_of_ne_nil, List.getLast_cons restNonempty]
              using rest restNonempty

/-- A canonical subpath is its own normal form. -/
theorem normalize_of_isCanonical {path : String} (canonical : IsCanonical path) :
    normalize path = path := by
  obtain ⟨parts, areSegments, rfl⟩ := canonical
  cases parts with
  | nil => decide
  | cons first more =>
      have fixed : trimmed (ofSegments (first :: more)).toList =
          (ofSegments (first :: more)).toList := by
        rw [ofSegments_of_ne_nil (List.cons_ne_nil first more), Text.toList_join]
        apply trimmed_joined
        intro chars member
        obtain ⟨part, isPart, rfl⟩ := List.mem_map.mp member
        exact ⟨by simpa using (areSegments part isPart).1, (areSegments part isPart).2⟩
      have nonempty : (ofSegments (first :: more)).toList ≠ [] := by
        obtain ⟨c, rest, shape⟩ := List.exists_cons_of_ne_nil
          (by simpa using (areSegments first (by simp)).1 : first.toList ≠ [])
        cases more <;> simp [ofSegments, Text.joined, shape]
      unfold normalize
      rw [fixed]
      split
      · next empty => exact absurd empty nonempty
      · exact String.ofList_toList

end Subpath

end AccessControl
