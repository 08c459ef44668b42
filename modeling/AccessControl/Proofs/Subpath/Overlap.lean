import AccessControl.Proofs.Subpath.Slashes

/-!
# Slashes that meet

Normalizing takes the slashes off the ends of a path, but leaves slashes that meet between its segments.
A path with such slashes is another text than the one with single slashes, so places that are compared
as texts come apart that have the same segments.  Still, places that overlap as texts overlap by their
segments, and canonical places do so exactly then.
-/

namespace AccessControl.Subpath

variable {path other : String}

/-- Whether slashes meet between the segments of a path. -/
def IsDoubled (path : String) : Prop := ['/', '/'] <:+: trimmed path.toList

instance (path : String) : Decidable (IsDoubled path) :=
  inferInstanceAs (Decidable (['/', '/'] <:+: trimmed path.toList))

theorem isCanonical_normalize_iff_not_isDoubled :
    IsCanonical (normalize path) ↔ ¬ IsDoubled path :=
  isCanonical_normalize_iff

/-- Paths with the same segments have the same normal form, if no slashes meet in them. -/
theorem normalize_eq_of_not_isDoubled (same : segments path = segments other)
    (tidy : ¬ IsDoubled path) (otherTidy : ¬ IsDoubled other) : normalize path = normalize other := by
  have canonical := isCanonical_normalize_iff_not_isDoubled.mpr tidy
  have otherCanonical := isCanonical_normalize_iff_not_isDoubled.mpr otherTidy
  rw [← canonical.ofSegments_segments, ← otherCanonical.ofSegments_segments, segments_normalize,
    segments_normalize, same]

/-! ## Canonical parts -/

theorem trimmed_infix (path : List Char) : trimmed path <:+: path := by
  have start : trimmed path <+: path.dropWhile (· = '/') := List.rdropWhile_prefix _ _
  exact start.isInfix.trans (List.dropWhile_suffix _).isInfix

theorem IsCanonical.slashes_apart (canonical : IsCanonical path) : ¬ ['/', '/'] <:+: path.toList := by
  have fixed := normalize_of_isCanonical canonical
  have apart : ¬ ['/', '/'] <:+: trimmed path.toList := by
    rw [← isCanonical_normalize_iff, fixed]
    exact canonical
  unfold normalize at fixed
  split at fixed
  · rw [← fixed]
    decide
  · rwa [← fixed, String.toList_ofList]

/-- What stands before a pattern is where the text starts. -/
theorem beforeChars_prefix (pattern text : List Char) : Text.beforeChars pattern text <+: text := by
  induction text with
  | nil => exact List.prefix_rfl
  | cons c rest ih =>
      rw [Text.beforeChars]
      split
      · exact List.nil_prefix
      · exact List.cons_prefix_cons.mpr ⟨rfl, ih⟩

/-- The place below which a canonical subpath applies is canonical. -/
theorem IsCanonical.fixedPart (canonical : IsCanonical path) :
    IsCanonical (Subpath.fixedPart path) := by
  rw [Subpath.fixedPart]
  split
  · rw [isCanonical_normalize_iff]
    intro met
    have inBefore := met.trans ( trimmed_infix (Text.before everywhere path).toList)
    rw [Text.before, String.toList_ofList] at inBefore
    exact canonical.slashes_apart (inBefore.trans ( beforeChars_prefix _ _).isInfix)
  · exact canonical

/-! ## Overlapping places -/

theorem segments_append_slash (before after : String) :
    segments (before ++ String.singleton '/' ++ after) = segments before ++ segments after := by
  rw [segments, Text.split_append, List.filter_append]
  rfl

/-- A place above another one has a first part of its segments. -/
theorem segments_prefix_of_isAncestorOrSelf (above : isAncestorOrSelf path other = true) :
    segments path <+: segments other := by
  simp only [isAncestorOrSelf, Bool.or_eq_true, decide_eq_true_eq] at above
  rcases above with (isRoot | isSame) | starts
  · rw [isRoot, segments_root]
    exact List.nil_prefix
  · exact isSame ▸ List.prefix_rfl
  · split at starts
    · next rest found =>
      have shape : other = path ++ String.singleton '/' ++ String.ofList rest := by
        apply String.toList_inj.mp
        rw [Text.afterChars?_eq_some_iff.mp found]
        simp
      rw [shape, segments_append_slash]
      exact List.prefix_append _ _
    · cases starts

theorem segments_prefix_of_overlap (overlaps : overlap path other = true) :
    segments path <+: segments other ∨ segments other <+: segments path := by
  rw [overlap, Bool.or_eq_true] at overlaps
  exact overlaps.imp segments_prefix_of_isAncestorOrSelf segments_prefix_of_isAncestorOrSelf

/-- Canonical places overlap as soon as their segments do. -/
theorem IsCanonical.overlap (canonical : IsCanonical path) (otherCanonical : IsCanonical other)
    (nested : segments path <+: segments other ∨ segments other <+: segments path) :
    Subpath.overlap path other = true := by
  rw [← canonical.ofSegments_segments, ← otherCanonical.ofSegments_segments]
  rcases nested with above | below
  · exact overlap_of_prefixes above List.prefix_rfl
  · exact overlap_of_prefixes List.prefix_rfl below

/-- A canonical place that overlaps some spelling of a place overlaps the one without doubled
slashes. -/
theorem IsCanonical.overlap_normalize {place : String} (canonical : IsCanonical place)
    (same : segments path = segments other) (otherTidy : ¬ IsDoubled other)
    (overlaps : Subpath.overlap place (normalize path) = true) :
    Subpath.overlap place (normalize other) = true := by
  have nested := segments_prefix_of_overlap overlaps
  rw [segments_normalize, same, ← segments_normalize other] at nested
  exact canonical.overlap (isCanonical_normalize_iff_not_isDoubled.mpr otherTidy) nested

end AccessControl.Subpath
