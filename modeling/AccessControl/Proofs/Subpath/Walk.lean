import AccessControl.Proofs.Shortname
import AccessControl.Proofs.Subpath.Segments

/-!
# The way down to a place

The prefixes of a place are the subpaths made from the first of its segments.  Widening a prefix
puts the marker for every subpath in the place of its second segment, so a place without markers
tells its prefixes and their widened forms apart.  Two prefixes of one place always overlap, and so
does what stands before the marker of a widened one.
-/

namespace AccessControl

/-- A name can be a segment of a subpath. -/
theorem Shortname.isSegment (name : Shortname) : Subpath.IsSegment name.text :=
  ⟨name.text_ne_empty, name.not_mem_of_isReserved (by decide)⟩

namespace Subpath

/-! ## Prefixes -/

theorem mem_initials {parts : List String} {path : String} :
    path ∈ initials parts ↔ ∃ start, start <+: parts ∧ ofSegments start = path := by
  simp only [initials, List.mem_map, List.mem_range]
  constructor
  · rintro ⟨depth, -, rfl⟩
    exact ⟨parts.take depth, List.take_prefix depth parts, rfl⟩
  · rintro ⟨start, isPrefix, rfl⟩
    exact ⟨start.length, Nat.lt_succ_of_le isPrefix.length_le,
      by rw [← List.prefix_iff_eq_take.mp isPrefix]⟩

theorem root_mem_initials (parts : List String) : root ∈ initials parts :=
  mem_initials.mpr ⟨[], List.nil_prefix, rfl⟩

/-- Every place is made of segments, if the name of a folder is one. -/
theorem isSegment_of_mem_place {path part : String} {type : ResourceType} {entry : Option String}
    (named : type = .folder → ∀ name ∈ entry, IsSegment name)
    (member : part ∈ place path type entry) : IsSegment part := by
  rcases List.mem_append.mp member with inPath | isName
  · exact isSegment_of_mem_segments inPath
  · split at isName
    · next isFolder => exact named isFolder part (Option.mem_toList.mp isName)
    · cases isName

/-! ## Plain places -/

/-- A character that a path does not hold is in none of its segments. -/
theorem not_mem_of_mem_segments {path part : String} {c : Char} (absent : c ∉ path.toList)
    (member : part ∈ segments path) : c ∉ part.toList := by
  obtain ⟨chars, isPiece, rfl⟩ := List.mem_map.mp (List.mem_filter.mp member).1
  rw [String.toList_ofList]
  intro inPart
  apply absent
  rw [← Text.joined_pieces '/' path.toList]
  exact Text.mem_joined_of_mem isPiece inPart

/-- Apart from slashes a subpath holds the characters of its segments only. -/
theorem not_mem_ofSegments {parts : List String} {c : Char} (notSlash : c ≠ '/')
    (absent : ∀ part ∈ parts, c ∉ part.toList) : c ∉ (ofSegments parts).toList := by
  cases parts with
  | nil => simpa [root] using notSlash
  | cons first more =>
      rw [ofSegments_of_ne_nil (List.cons_ne_nil first more)]
      exact Text.not_mem_join notSlash absent

theorem mem_trimmed {path : List Char} {c : Char} (member : c ∈ trimmed path) : c ∈ path :=
  List.dropWhile_subset _ ((List.rdropWhile_prefix _ _).subset member)

theorem isPlain_normalize {path : String} (plain : Text.IsPlain path) :
    Text.IsPlain (normalize path) := by
  unfold normalize
  split
  · decide
  · rw [Text.IsPlain, String.toList_ofList]
    exact ⟨fun colon => plain.1 (mem_trimmed colon), fun bar => plain.2 (mem_trimmed bar)⟩

theorem isPlain_replace {pattern replacement text : String}
    (plainReplacement : Text.IsPlain replacement) (plainText : Text.IsPlain text) :
    Text.IsPlain (Text.replace pattern replacement text) := by
  rw [Text.IsPlain, Text.replace, String.toList_ofList]
  exact ⟨fun colon => (Text.mem_replaceChars colon).elim plainReplacement.1 plainText.1,
    fun bar => (Text.mem_replaceChars bar).elim plainReplacement.2 plainText.2⟩

/-- What a plain subpath of a permission names for a user is plain. -/
theorem isPlain_resolve {path : String} (plain : Text.IsPlain path) (user : Shortname) :
    Text.IsPlain (resolve path user.text) :=
  isPlain_normalize (isPlain_replace (by decide) (isPlain_replace user.isPlain plain))

/-! ## Widened prefixes -/

theorem wildcard?_eq_some_iff {path wide : String} :
    wildcard? path = some wide ↔
      ∃ first second rest, segments path = first :: second :: rest ∧
        ofSegments (first :: everywhere :: rest) = wide := by
  unfold wildcard?
  constructor
  · intro found
    split at found
    · next first second rest shape => exact ⟨first, second, rest, shape, Option.some.inj found⟩
    · cases found
  · rintro ⟨first, second, rest, shape, rfl⟩
    rw [shape]
    rfl

/-- Widening a prefix brings in nothing but the marker. -/
theorem not_mem_of_wildcard? {path wide : String} {c : Char} (notSlash : c ≠ '/')
    (notMarker : c ∉ everywhere.toList) (absent : c ∉ path.toList)
    (widened : wildcard? path = some wide) : c ∉ wide.toList := by
  obtain ⟨first, second, rest, shape, rfl⟩ := wildcard?_eq_some_iff.mp widened
  have absentParts : ∀ part ∈ first :: second :: rest, c ∉ part.toList := fun part isPart =>
    not_mem_of_mem_segments absent (shape ▸ isPart)
  refine not_mem_ofSegments notSlash fun part isPart => ?_
  rcases List.mem_cons.mp isPart with rfl | isPart
  · exact absentParts part (by simp)
  · rcases List.mem_cons.mp isPart with rfl | isPart
    · exact notMarker
    · exact absentParts part (by simp [isPart])

theorem globalAccess_of_wildcard? {path wide : String} (widened : wildcard? path = some wide) :
    globalAccess path = wide := by
  rw [globalAccess, widened, Option.getD_some]

/-- At a prefix the bare marker or the widened prefix is looked up. -/
theorem globalAccess_cases (path : String) :
    globalAccess path = everywhere ∨ wildcard? path = some (globalAccess path) := by
  cases widened : wildcard? path with
  | none => exact .inl (by rw [globalAccess, widened, Option.getD_none])
  | some wide => exact .inr (by rw [globalAccess_of_wildcard? widened])

/-- Whether a permission's subpath is looked up on the way down to a place: as one of the prefixes,
or as the subpath for "all subpaths" grants at one. -/
def Reaches (subpath : String) (prefixes : List String) : Prop :=
  ∃ path ∈ prefixes, subpath = path ∨ subpath = globalAccess path

@[simp] theorem globalAccess_root : globalAccess root = everywhere := by decide

/-! ## Markers -/

theorem not_mem_slash_everywhere : '/' ∉ everywhere.toList := isSegment_everywhere.2

@[simp] theorem isWide_everywhere : isWide everywhere = true := by decide

/-- A subpath holds the marker exactly if one of its segments does. -/
theorem isWide_ofSegments (parts : List String) :
    isWide (ofSegments parts) = true ↔ ∃ part ∈ parts, isWide part = true := by
  cases parts with
  | nil =>
      have narrow : isWide root = false := by decide
      simp [narrow]
  | cons first more =>
      have marker : everywhere.toList ≠ [] := by decide
      rw [ofSegments_of_ne_nil (List.cons_ne_nil first more), isWide, Text.contains_iff,
        Text.toList_join, Text.infix_joined marker not_mem_slash_everywhere]
      simp [isWide, Text.contains_iff]

/-- A widened prefix holds the marker. -/
theorem isWide_of_wildcard? {path wide : String} (widened : wildcard? path = some wide) :
    isWide wide = true := by
  obtain ⟨first, second, rest, shape, rfl⟩ := wildcard?_eq_some_iff.mp widened
  exact (isWide_ofSegments _).mpr ⟨everywhere, by simp, isWide_everywhere⟩

/-- No prefix of a place without markers holds one. -/
theorem isWide_eq_false_of_prefix {parts start : List String}
    (unmarked : ∀ part ∈ parts, isWide part = false) (isPrefix : start <+: parts) :
    isWide (ofSegments start) = false := by
  rw [← Bool.not_eq_true, isWide_ofSegments]
  rintro ⟨part, member, wide⟩
  simp [unmarked part (isPrefix.subset member)] at wide

/-! ## Places above each other -/

theorem isAncestorOrSelf_of_prefix {upper lower : List String} (isPrefix : upper <+: lower) :
    isAncestorOrSelf (ofSegments upper) (ofSegments lower) = true := by
  obtain ⟨below, rfl⟩ := isPrefix
  cases upper with
  | nil => simp [isAncestorOrSelf]
  | cons first more =>
      cases below with
      | nil => simp [isAncestorOrSelf]
      | cons next rest =>
          have upperNonempty : first :: more ≠ [] := List.cons_ne_nil first more
          have reached : Text.afterChars? (ofSegments (first :: more)).toList
              (ofSegments (first :: more ++ next :: rest)).toList =
              some ('/' :: Text.joined '/' ((next :: rest).map String.toList)) := by
            rw [Text.afterChars?_eq_some_iff, ofSegments_of_ne_nil upperNonempty,
              ofSegments_of_ne_nil (List.append_ne_nil_of_left_ne_nil upperNonempty _),
              Text.toList_join, Text.toList_join, List.map_append,
              Text.joined_append (by simp) (by simp)]
          rw [isAncestorOrSelf, reached]
          simp

/-- Two prefixes of one place lie above each other. -/
theorem overlap_of_prefixes {parts left right : List String} (leftPrefix : left <+: parts)
    (rightPrefix : right <+: parts) : overlap (ofSegments left) (ofSegments right) = true := by
  rw [overlap, Bool.or_eq_true]
  exact (List.prefix_or_prefix_of_prefix leftPrefix rightPrefix).imp
    isAncestorOrSelf_of_prefix isAncestorOrSelf_of_prefix

theorem fixedPart_of_not_isWide {path : String} (narrow : isWide path = false) :
    fixedPart path = path := by
  simp [fixedPart, narrow]

@[simp] theorem fixedPart_everywhere : fixedPart everywhere = root := by decide

/-- A subpath widened below an unmarked first segment applies below that segment. -/
theorem fixedPart_widened {first : String} (isSegment : IsSegment first)
    (unmarked : isWide first = false) (rest : List String) :
    fixedPart (ofSegments (first :: everywhere :: rest)) = first := by
  have wide : isWide (ofSegments (first :: everywhere :: rest)) = true :=
    (isWide_ofSegments _).mpr ⟨everywhere, by simp, isWide_everywhere⟩
  obtain ⟨after, shape⟩ : ∃ after, (ofSegments (first :: everywhere :: rest)).toList =
      first.toList ++ '/' :: (everywhere.toList ++ after) := by
    rw [ofSegments_of_ne_nil (List.cons_ne_nil first _), Text.toList_join]
    cases rest with
    | nil => exact ⟨[], by simp [Text.joined]⟩
    | cons next more =>
        exact ⟨'/' :: Text.joined '/' ((next :: more).map String.toList), by simp [Text.joined]⟩
  have fresh : ¬ everywhere.toList <:+: first.toList := by
    rw [← Text.contains_iff]
    simpa [isWide] using unmarked
  have start : (Text.before everywhere (ofSegments (first :: everywhere :: rest))).toList =
      first.toList ++ ['/'] := by
    rw [Text.before, String.toList_ofList, shape,
      Text.beforeChars_append_separator (by decide) not_mem_slash_everywhere fresh]
  have canonical : IsCanonical first := ⟨[first], by simpa using isSegment, by simp⟩
  calc fixedPart (ofSegments (first :: everywhere :: rest))
      = normalize (Text.before everywhere (ofSegments (first :: everywhere :: rest))) := by
        simp [fixedPart, wide]
    _ = normalize first := by rw [normalize, start, trimmed_concat_slash, normalize]
    _ = first := normalize_of_isCanonical canonical

end Subpath

end AccessControl
