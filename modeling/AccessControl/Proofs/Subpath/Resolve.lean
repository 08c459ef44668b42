import AccessControl.Proofs.Subpath.Walk
import AccessControl.Proofs.Text.Replace
import Mathlib.Data.List.Induction

/-!
# Subpaths of permissions

What a permission's subpath names for a user has the segments of the subpath, with the user's name in
the place of the marker in each of them; neither halving runs of slashes nor trimming touches the
segments.  It is looked up everywhere at its depth if it is the marker for every subpath, or holds
that marker as its second segment.
-/

namespace AccessControl

namespace Subpath

/-! ## Slashes -/

/-- The non-empty pieces between slashes. -/
def solid (path : List Char) : List (List Char) :=
  (Text.pieces '/' path).filter (· ≠ [])

theorem segments_eq_map_solid (path : String) :
    segments path = (solid path.toList).map String.ofList := by
  rw [segments, Text.split, solid, List.filter_map]
  congr 1
  refine List.filter_congr fun piece _ => ?_
  simp

/-- Whether two paths start with the same piece and have the same non-empty pieces behind it. -/
def SameSolid (path other : List Char) : Prop :=
  ∃ first more fewer, Text.pieces '/' path = first :: more ∧ Text.pieces '/' other = first :: fewer ∧
    more.filter (· ≠ []) = fewer.filter (· ≠ [])

namespace SameSolid

variable {path other : List Char}

theorem refl (path : List Char) : SameSolid path path := by
  obtain ⟨first, more, shape⟩ := List.exists_cons_of_ne_nil (Text.pieces_ne_nil '/' path)
  exact ⟨first, more, more, shape, shape, rfl⟩

theorem solid_eq (same : SameSolid path other) : solid path = solid other := by
  obtain ⟨first, more, fewer, shape, otherShape, rest⟩ := same
  rw [solid, solid, shape, otherShape, List.filter_cons, List.filter_cons, rest]

theorem cons (same : SameSolid path other) (c : Char) : SameSolid (c :: path) (c :: other) := by
  obtain ⟨first, more, fewer, shape, otherShape, rest⟩ := same
  by_cases isSlash : c = '/'
  · refine ⟨[], first :: more, first :: fewer, ?_, ?_, ?_⟩
    · rw [Text.pieces, if_pos isSlash, shape]
    · rw [Text.pieces, if_pos isSlash, otherShape]
    · rw [List.filter_cons, List.filter_cons, rest]
  · refine ⟨c :: first, more, fewer, ?_, ?_, rest⟩
    · rw [Text.pieces, if_neg isSlash, shape]
    · rw [Text.pieces, if_neg isSlash, otherShape]

/-- One slash separates what two do. -/
theorem halve (same : SameSolid path other) : SameSolid ('/' :: '/' :: path) ('/' :: other) := by
  obtain ⟨first, more, fewer, shape, otherShape, rest⟩ := same
  refine ⟨[], [] :: first :: more, first :: fewer, ?_, ?_, ?_⟩
  · simp [Text.pieces, shape]
  · simp [Text.pieces, otherShape]
  · rw [List.filter_cons_of_neg (by simp), List.filter_cons, List.filter_cons, rest]

end SameSolid

/-- Doubled slashes made single from the left, in one pass: a longer run of slashes is halved. -/
def halved : List Char → List Char
  | '/' :: '/' :: rest => '/' :: halved rest
  | c :: rest => c :: halved rest
  | [] => []

theorem replaceChars_doubled (path : List Char) :
    Text.replaceChars ['/', '/'] ['/'] 0 path = halved path := by
  fun_induction halved path with
  | case1 rest ih => simpa [Text.replaceChars] using ih
  | case2 c rest single ih =>
      have notHere : ¬ ['/', '/'] <+: c :: rest := by
        rintro ⟨more, shape⟩
        simp only [List.cons_append, List.nil_append, List.cons.injEq] at shape
        exact single more shape.1.symm shape.2.symm
      rw [Text.replaceChars, if_neg (by simpa using notHere), ih]
  | case3 => rfl

theorem toList_replace_doubled (path : String) :
    (Text.replace "//" "/" path).toList = halved path.toList := by
  rw [Text.replace, String.toList_ofList]
  exact replaceChars_doubled path.toList

/-- Halving leaves the non-empty pieces. -/
theorem sameSolid_halved (path : List Char) : SameSolid path (halved path) := by
  fun_induction halved path with
  | case1 rest ih => exact ih.halve
  | case2 c rest _ ih => exact ih.cons c
  | case3 => exact .refl []

theorem solid_dropWhile (path : List Char) : solid (path.dropWhile (· = '/')) = solid path := by
  induction path with
  | nil => rfl
  | cons c rest ih =>
      by_cases isSlash : c = '/'
      · simpa [solid, Text.pieces, isSlash] using ih
      · simp [isSlash]

theorem solid_rdropWhile (path : List Char) : solid (path.rdropWhile (· = '/')) = solid path := by
  induction path using List.reverseRecOn with
  | nil => rfl
  | append_singleton rest c ih =>
      by_cases isSlash : c = '/'
      · rw [List.rdropWhile_concat_pos _ _ _ (by simpa using isSlash), ih, isSlash, solid, solid,
          Text.pieces_append]
        simp [Text.pieces]
      · rw [List.rdropWhile_concat_neg _ _ _ (by simpa using isSlash)]

/-- Normalizing leaves the segments. -/
theorem segments_normalize (path : String) : segments (normalize path) = segments path := by
  have kept : solid (trimmed path.toList) = solid path.toList := by
    rw [trimmed_eq_rdropWhile, solid_rdropWhile, solid_dropWhile]
  rw [segments_eq_map_solid path, ← kept, normalize]
  split
  · next nothing =>
    rw [nothing]
    decide
  · rw [segments_eq_map_solid, String.toList_ofList]

theorem segments_replace_doubled (path : String) :
    segments (Text.replace "//" "/" path) = segments path := by
  rw [segments_eq_map_solid, segments_eq_map_solid, toList_replace_doubled,
    (sameSolid_halved path.toList).solid_eq]

/-! ## The current user -/

/-- A permission's subpath names for a user the segments with the user's name in the place of the
marker. -/
theorem segments_resolve (path : String) (user : Shortname) :
    segments (resolve path user.text) = (segments path).map (Text.replace currentUser user.text) := by
  rw [resolve, segments_normalize, segments_replace_doubled, segments, segments,
    Text.split_replace (by decide) (by decide) user.isSegment.2, List.filter_map]
  congr 1
  refine List.filter_congr fun piece _ => ?_
  simp [Text.replace_eq_empty_iff user.text_ne_empty]

/-- A subpath that was made from parts has the segments of the parts, which may hold slashes. -/
theorem segments_ofSegments_eq_flatMap (parts : List String) :
    segments (ofSegments parts) = parts.flatMap segments := by
  cases parts with
  | nil => exact segments_root
  | cons first more =>
      have nonempty : first :: more ≠ [] := List.cons_ne_nil first more
      rw [ofSegments_of_ne_nil nonempty, segments, Text.split_join nonempty, List.filter_flatMap]
      rfl

/-! ## Wildcards -/

/-- Whether a subpath is looked up at a whole depth: it is the marker for every subpath, or holds it
as the second of its segments. -/
inductive IsWildcard : String → Prop where
  | bare : IsWildcard everywhere
  | second {first : String} {rest : List String} (areSegments : ∀ part ∈ first :: rest, IsSegment part) :
      IsWildcard (ofSegments (first :: everywhere :: rest))

theorem isWildcard_globalAccess (path : String) : IsWildcard (globalAccess path) := by
  rcases globalAccess_cases path with bare | widened
  · exact bare ▸ .bare
  · obtain ⟨first, second, rest, shape, isWide⟩ := wildcard?_eq_some_iff.mp widened
    rw [← isWide]
    refine .second fun part isPart => ?_
    have inPath : part ∈ segments path := by
      rw [shape]
      grind
    exact isSegment_of_mem_segments inPath

/-- What is looked up on the way to a place and is no wildcard has the place below it. -/
theorem Reaches.segments_prefix {path : String} {parts : List String}
    (reaches : Reaches path (initials parts)) (tame : ¬ IsWildcard path) :
    segments path <+: segments (ofSegments parts) := by
  obtain ⟨upper, isPrefix, rfl | isGlobal⟩ := reaches
  · obtain ⟨start, ⟨below, rfl⟩, rfl⟩ := mem_initials.mp isPrefix
    rw [segments_ofSegments_eq_flatMap, segments_ofSegments_eq_flatMap, List.flatMap_append]
    exact List.prefix_append _ _
  · exact absurd (isGlobal ▸ isWildcard_globalAccess upper) tame

/-- A wildcard is looked up at a place that does not lie below it. -/
theorem IsWildcard.exists_elsewhere {path : String} (wildcard : IsWildcard path) :
    ∃ parts, (∀ part ∈ parts, IsSegment part) ∧ globalAccess (ofSegments parts) = path ∧
      ¬ segments path <+: parts := by
  cases wildcard with
  | bare => exact ⟨[], by simp, globalAccess_root, by decide⟩
  | @second first rest areSegments =>
      have others (second : String) (isSegment : IsSegment second) :
          ∀ part ∈ first :: second :: rest, IsSegment part := by
        intro part isPart
        rcases List.mem_cons.mp isPart with rfl | later
        · exact areSegments part List.mem_cons_self
        · rcases List.mem_cons.mp later with rfl | isRest
          · exact isSegment
          · exact areSegments part (List.mem_cons_of_mem first isRest)
      -- Any segment but the marker will do in its place.
      have elsewhere := others "elsewhere" ⟨by decide, by decide⟩
      refine ⟨first :: "elsewhere" :: rest, elsewhere, ?_, ?_⟩
      · exact globalAccess_of_wildcard?
          (wildcard?_eq_some_iff.mpr ⟨first, _, rest, segments_ofSegments elsewhere, rfl⟩)
      · rw [segments_ofSegments (others everywhere isSegment_everywhere)]
        intro isPrefix
        have same := (List.cons_prefix_cons.mp (List.cons_prefix_cons.mp isPrefix).2).1
        exact absurd same (by decide)

/-- A wildcard holds the marker for every subpath as a segment. -/
theorem IsWildcard.everywhere_mem_segments {path : String} (wildcard : IsWildcard path) :
    everywhere ∈ segments path := by
  cases wildcard with
  | bare => decide
  | second areSegments =>
      rw [segments_ofSegments_eq_flatMap]
      exact List.mem_flatMap.mpr ⟨everywhere, by simp, by decide⟩

theorem isWide_of_everywhere_mem_segments {path : String} (isSegment : everywhere ∈ segments path) :
    isWide path = true := by
  have isPiece : everywhere ∈ Text.split '/' path := (List.mem_filter.mp isSegment).1
  rw [isWide, Text.contains_iff, ← Text.join_split '/' path, Text.toList_join,
    Text.infix_joined (by decide) not_mem_slash_everywhere]
  exact ⟨everywhere.toList, List.mem_map_of_mem isPiece, List.infix_rfl⟩

/-- Only a name that is part of the marker for every subpath makes a wildcard of a subpath without
that marker. -/
theorem infix_of_isWildcard_resolve {path : String} {user : Shortname} (narrow : isWide path = false)
    (wildcard : IsWildcard (resolve path user.text)) : user.text.toList <:+: everywhere.toList := by
  have marked := wildcard.everywhere_mem_segments
  rw [segments_resolve] at marked
  obtain ⟨segment, isSegment, becomes⟩ := List.mem_map.mp marked
  by_cases occurs : currentUser.toList <:+: segment.toList
  · rw [← becomes, Text.replace, String.toList_ofList]
    exact Text.infix_replaceChars (by decide) occurs
  · rw [Text.replace_of_not_infix _ occurs] at becomes
    rw [becomes] at isSegment
    exact absurd (isWide_of_everywhere_mem_segments isSegment) (by rw [narrow]; decide)

end Subpath

end AccessControl
