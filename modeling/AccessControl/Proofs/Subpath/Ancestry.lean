import AccessControl.Proofs.Subpath.Overlap

/-!
# Places above each other

Whether a place lies above another one is told by their texts: the one starts the other, and a slash
follows.  Canonical places are made of segments, and for them this is the same as being met on the way
down from the root.  So two of them overlap exactly if some way down leads through both.
-/

namespace AccessControl.Subpath

variable {ancestor path other : String} {type : ResourceType} {entry : Option String}

/-! ## By segments -/

/-- Between canonical places a text lies above another one exactly if its segments come first. -/
theorem isAncestorOrSelf_iff_prefix_segments (above : IsCanonical ancestor)
    (canonical : IsCanonical path) :
    isAncestorOrSelf ancestor path = true ↔ segments ancestor <+: segments path := by
  constructor
  · exact segments_prefix_of_isAncestorOrSelf
  · intro isPrefix
    rw [← above.ofSegments_segments, ← canonical.ofSegments_segments]
    exact isAncestorOrSelf_of_prefix isPrefix

theorem overlap_iff_prefix_segments (canonical : IsCanonical path)
    (otherCanonical : IsCanonical other) :
    overlap path other = true ↔
      segments path <+: segments other ∨ segments other <+: segments path :=
  ⟨segments_prefix_of_overlap, canonical.overlap otherCanonical⟩

/-- The way down to anything but a folder leads through the places whose segments come first. -/
theorem mem_walk_iff_prefix_segments (above : IsCanonical ancestor) (notFolder : type ≠ .folder) :
    ancestor ∈ walk path type entry ↔ segments ancestor <+: segments path := by
  have ends : place path type entry = segments path := by
    rw [place, if_neg notFolder, List.append_nil]
  rw [walk, ends, mem_initials]
  constructor
  · intro isMet
    obtain ⟨start, isPrefix, rfl⟩ := isMet
    rw [segments_ofSegments fun part isPart => isSegment_of_mem_segments (isPrefix.subset isPart)]
    exact isPrefix
  · intro isPrefix
    exact ⟨segments ancestor, isPrefix, above.ofSegments_segments⟩

/-! ## By text and by the way down -/

/-- Canonical places have one below both exactly if the segments of one come first in the other. -/
theorem exists_below_iff (canonical : IsCanonical path) (otherCanonical : IsCanonical other) :
    (∃ below, IsCanonical below ∧ segments path <+: segments below ∧
        segments other <+: segments below) ↔
      segments path <+: segments other ∨ segments other <+: segments path := by
  constructor
  · intro nested
    obtain ⟨below, -, isPrefix, otherPrefix⟩ := nested
    exact List.prefix_or_prefix_of_prefix isPrefix otherPrefix
  · intro nested
    cases nested with
    | inl isPrefix => exact ⟨other, otherCanonical, isPrefix, List.prefix_rfl⟩
    | inr otherPrefix => exact ⟨path, canonical, List.prefix_rfl, otherPrefix⟩

/-- A canonical place lies above another one as a text exactly if the way down to anything but a folder
there leads through it, and the texts of two do not overlap exactly if no way down leads through both. -/
theorem textual_ancestry_iff_walked (canonical : IsCanonical path)
    (otherCanonical : IsCanonical other) (notFolder : type ≠ .folder) (entry : Option String) :
    (isAncestorOrSelf path other = true ↔ path ∈ walk other type entry) ∧
    (overlap path other = false ↔
      ¬ ∃ below, IsCanonical below ∧ path ∈ walk below type entry ∧
        other ∈ walk below type entry) := by
  simp only [mem_walk_iff_prefix_segments canonical notFolder,
    mem_walk_iff_prefix_segments otherCanonical notFolder]
  constructor
  · exact isAncestorOrSelf_iff_prefix_segments canonical otherCanonical
  · rw [exists_below_iff canonical otherCanonical,
      ← overlap_iff_prefix_segments canonical otherCanonical, Bool.not_eq_true]

/-- The way down to the drafts of a blog leads through the blog, and none leads through it and another
place whose name starts like its name. -/
theorem textual_ancestry_iff_walked_blogs :
    "blog" ∈ walk "blog/drafts" .content none ∧ "blog" ∉ walk "blogs" .content none ∧
      ¬ ∃ below, IsCanonical below ∧ "blog" ∈ walk below .content none ∧
        "blogs" ∈ walk below .content none := by
  have blog : IsCanonical "blog" :=
    ⟨["blog"], by simp [IsSegment], rfl⟩
  have blogs : IsCanonical "blogs" :=
    ⟨["blogs"], by simp [IsSegment], rfl⟩
  have drafts : IsCanonical "blog/drafts" :=
    ⟨["blog", "drafts"], by simp [IsSegment], rfl⟩
  have notFolder : ResourceType.content ≠ .folder := by decide
  obtain ⟨onTheWay, -⟩ := textual_ancestry_iff_walked blog drafts notFolder none
  obtain ⟨lookalike, apart⟩ := textual_ancestry_iff_walked blog blogs notFolder none
  refine ⟨onTheWay.mp (by decide), fun isMet => ?_, apart.mp (by decide)⟩
  exact absurd (lookalike.mpr isMet) (by decide)

end AccessControl.Subpath
