import AccessControl.Proofs.Subpath.Resolve

/-!
# Redundant slashes

A permission's subpath has its doubled slashes made single in one pass, which halves longer runs of
them.  Slashes at both ends are trimmed whatever their number, and two between segments become one,
but three or more leave a run behind.  A place is walked down along subpaths without such runs, so
the permission is never looked up.
-/

namespace AccessControl

namespace Subpath

/-! ## Halving -/

theorem halved_cons {c : Char} {rest : List Char}
    (single : ∀ more, c = '/' → rest = '/' :: more → False) :
    halved (c :: rest) = c :: halved rest := by
  rw [halved]
  exact single

theorem halved_eq_nil_iff {path : List Char} : halved path = [] ↔ path = [] := by
  fun_cases halved path <;> simp

theorem slash_prefix_halved_iff {path : List Char} : ['/'] <+: halved path ↔ ['/'] <+: path := by
  fun_cases halved path <;> simp

theorem dropWhile_halved (path : List Char) :
    (halved path).dropWhile (· = '/') = halved (path.dropWhile (· = '/')) := by
  fun_induction halved path with
  | case1 rest ih => simpa using ih
  | case2 c rest single ih =>
      by_cases isSlash : c = '/'
      · simpa [isSlash] using ih
      · simp [isSlash, halved_cons single]
  | case3 => rfl

/-- What is dropped from the end reaches the first item only if nothing else is kept. -/
theorem rdropWhile_cons {α : Type} (p : α → Bool) (item : α) (rest : List α) :
    (item :: rest).rdropWhile p =
      if rest.rdropWhile p = [] then [item].rdropWhile p else item :: rest.rdropWhile p := by
  simp only [List.rdropWhile, List.reverse_cons, List.dropWhile_append, List.isEmpty_iff,
    List.reverse_eq_nil_iff]
  split <;> simp

theorem rdropWhile_halved (path : List Char) :
    (halved path).rdropWhile (· = '/') = halved (path.rdropWhile (· = '/')) := by
  fun_induction halved path with
  | case1 rest ih =>
      rw [rdropWhile_cons, rdropWhile_cons _ '/' ('/' :: rest), rdropWhile_cons _ '/' rest, ih]
      by_cases nothing : rest.rdropWhile (· = '/') = []
      · simp [nothing, List.rdropWhile_singleton, halved]
      · simp [nothing, halved, halved_eq_nil_iff]
  | case2 c rest single ih =>
      rw [rdropWhile_cons, rdropWhile_cons _ c rest, ih]
      simp only [halved_eq_nil_iff]
      split
      · rw [List.rdropWhile_singleton]
        split <;> simp [halved]
      · rw [halved_cons]
        intro more isSlash shape
        have start : rest.rdropWhile (· = '/') <+: rest := List.rdropWhile_prefix _ _
        rw [shape] at start
        obtain ⟨later, rfl⟩ := start
        exact single _ isSlash rfl
  | case3 => rfl

/-- The slashes at both ends are trimmed away, halved or not. -/
theorem trimmed_halved (path : List Char) : trimmed (halved path) = halved (trimmed path) := by
  rw [trimmed_eq_rdropWhile, trimmed_eq_rdropWhile, dropWhile_halved, rdropWhile_halved]

theorem slash_prefix_of_two {path : List Char} (two : ['/', '/'] <+: path) : ['/'] <+: path :=
  List.IsPrefix.trans ⟨['/'], rfl⟩ two

/-- Two slashes are left of three. -/
theorem infix_halved_iff {path : List Char} :
    ['/', '/'] <:+: halved path ↔ ['/', '/', '/'] <:+: path := by
  fun_induction halved path with
  | case1 rest ih =>
      simp only [List.infix_cons_iff, List.cons_prefix_cons, slash_prefix_halved_iff, ih, true_and]
      constructor
      · exact Or.imp_right .inr
      · rintro (one | two | later)
        · exact .inl one
        · exact .inl (slash_prefix_of_two two)
        · exact .inr later
  | case2 c rest single ih =>
      have notTwo : ¬ ('/' = c ∧ ['/'] <+: rest) := by
        rintro ⟨isSlash, more, rfl⟩
        exact single more isSlash.symm rfl
      have notThree : ¬ ('/' = c ∧ ['/', '/'] <+: rest) := by
        rintro ⟨isSlash, two⟩
        exact notTwo ⟨isSlash, slash_prefix_of_two two⟩
      rw [List.infix_cons_iff, List.infix_cons_iff, List.cons_prefix_cons, List.cons_prefix_cons,
        slash_prefix_halved_iff, ih, or_iff_right notTwo, or_iff_right notThree]
  | case3 => simp

/-! ## Canonical results -/

/-- Anything but the root is canonical if its slashes separate non-empty pieces. -/
theorem isCanonical_iff_of_ne_root {path : String} (below : path ≠ root) :
    IsCanonical path ↔ "" ∉ Text.split '/' path := by
  constructor
  · rintro ⟨parts, areSegments, rfl⟩ isPiece
    have nonempty : parts ≠ [] := fun none => below (none ▸ ofSegments_nil)
    rw [ofSegments_of_ne_nil nonempty,
      Text.split_join_of_not_mem nonempty fun part isPart => (areSegments part isPart).2] at isPiece
    exact (areSegments "" isPiece).1 rfl
  · intro noneEmpty
    refine ⟨Text.split '/' path, fun part isPart => ⟨?_, Text.not_mem_of_mem_split isPart⟩, ?_⟩
    · exact fun isEmpty => noneEmpty (isEmpty ▸ isPart)
    · rw [ofSegments_of_ne_nil (Text.split_ne_nil path), Text.join_split]

/-- A text that does not start or end with a slash has an empty piece where two slashes meet. -/
theorem nil_mem_pieces_iff {path : List Char} (fixed : trimmed path = path) (nonempty : path ≠ []) :
    [] ∈ Text.pieces '/' path ↔ ['/', '/'] <:+: path := by
  constructor
  · intro isPiece
    obtain ⟨before, after, cut⟩ := List.append_of_mem isPiece
    obtain rfl : Text.joined '/' (before ++ [] :: after) = path := by
      rw [← cut, Text.joined_pieces]
    obtain ⟨head, last⟩ := trimmed_eq_self_iff.mp fixed
    by_cases first : before = []
    · subst first
      cases after with
      | nil => exact absurd rfl nonempty
      | cons next later => exact absurd rfl (head (by simp [Text.joined]))
    · cases after with
      | nil =>
          simp only [Text.joined_append first (List.cons_ne_nil _ _)] at last nonempty
          exact absurd (by simp [Text.joined]) (last nonempty)
      | cons next later =>
          rw [Text.joined_append first (List.cons_ne_nil _ _), Text.joined]
          exact ⟨Text.joined '/' before, Text.joined '/' (next :: later), by simp⟩
  · rintro ⟨before, after, rfl⟩
    rw [List.append_assoc, List.cons_append, Text.pieces_append]
    simp [Text.pieces]

/-- Normalizing makes a path canonical unless slashes meet between its ends. -/
theorem isCanonical_normalize_iff {path : String} :
    IsCanonical (normalize path) ↔ ¬ ['/', '/'] <:+: trimmed path.toList := by
  have fixed := trimmed_trimmed path.toList
  unfold normalize
  split
  · next nothing =>
    rw [nothing]
    exact iff_of_true ⟨[], by simp, rfl⟩ (by simp)
  · next chars something =>
    have below : String.ofList (trimmed path.toList) ≠ root := by
      intro isRoot
      rw [← String.toList_inj, String.toList_ofList] at isRoot
      rw [isRoot] at fixed
      exact absurd fixed (by decide)
    rw [isCanonical_iff_of_ne_root below, ← nil_mem_pieces_iff fixed something]
    simp [Text.split]

/-! ## Crowded slashes -/

/-- Whether three slashes in a row stand between two segments of a path. -/
def IsCrowded (path : String) : Prop :=
  ∃ before after, path = before ++ "///" ++ after ∧ segments before ≠ [] ∧ segments after ≠ []

theorem segments_ne_nil_iff {path : String} :
    segments path ≠ [] ↔ ∃ piece ∈ Text.split '/' path, piece ≠ "" := by
  simp [segments, List.filter_eq_nil_iff]

theorem segments_eq_nil_iff {path : String} :
    segments path = [] ↔ ∀ c ∈ path.toList, c = '/' := by
  rw [segments_eq_map_solid, List.map_eq_nil_iff]
  induction path.toList with
  | nil => simp [solid, Text.pieces]
  | cons c rest ih =>
      by_cases isSlash : c = '/'
      · simpa [solid, Text.pieces, isSlash] using ih
      · obtain ⟨first, more, shape⟩ := List.exists_cons_of_ne_nil (Text.pieces_ne_nil '/' rest)
        simp [solid, Text.pieces, isSlash, shape]

/-- In a crowded path two empty pieces follow each other between the segments. -/
theorem isCrowded_iff_split {path : String} :
    IsCrowded path ↔ ∃ before after, Text.split '/' path = before ++ "" :: "" :: after ∧
      (∃ piece ∈ before, piece ≠ "") ∧ ∃ piece ∈ after, piece ≠ "" := by
  constructor
  · rintro ⟨before, after, rfl, above, below⟩
    refine ⟨Text.split '/' before, Text.split '/' after, ?_, segments_ne_nil_iff.mp above,
      segments_ne_nil_iff.mp below⟩
    simp [Text.split, Text.pieces_append, Text.pieces]
  · rintro ⟨before, after, cut, above, below⟩
    have before_ne : before ≠ [] := fun none => by simp [none] at above
    have after_ne : after ≠ [] := fun none => by simp [none] at below
    have noSlash : ∀ piece ∈ before ++ "" :: "" :: after, '/' ∉ piece.toList := fun piece isPiece =>
      Text.not_mem_of_mem_split (cut ▸ isPiece)
    refine ⟨Text.join '/' before, Text.join '/' after, ?_, segments_ne_nil_iff.mpr ?_,
      segments_ne_nil_iff.mpr ?_⟩
    · obtain ⟨next, later, rfl⟩ := List.exists_cons_of_ne_nil after_ne
      rw [← Text.join_split '/' path, cut, Text.join_append before_ne (List.cons_ne_nil _ _)]
      simp [← String.toList_inj, Text.joined]
    · rwa [Text.split_join_of_not_mem before_ne fun piece isPiece => noSlash piece (by simp [isPiece])]
    · rwa [Text.split_join_of_not_mem after_ne fun piece isPiece => noSlash piece (by simp [isPiece])]

/-- Filling in a name neither adds slashes nor takes any away. -/
theorem isCrowded_replace_iff {path : String} (user : Shortname) :
    IsCrowded (Text.replace currentUser user.text path) ↔ IsCrowded path := by
  have kept (piece : String) : Text.replace currentUser user.text piece = "" ↔ piece = "" :=
    Text.replace_eq_empty_iff user.text_ne_empty
  rw [isCrowded_iff_split, isCrowded_iff_split,
    Text.split_replace (by decide) (by decide) user.isSegment.2]
  constructor
  · rintro ⟨before, after, cut, above, below⟩
    obtain ⟨sooner, later, shape, rfl, rest⟩ := List.map_eq_append_iff.mp cut
    obtain ⟨first, later, rfl, firstEmpty, rest⟩ := List.map_eq_cons_iff.mp rest
    obtain ⟨second, later, rfl, secondEmpty, rfl⟩ := List.map_eq_cons_iff.mp rest
    rw [kept] at firstEmpty secondEmpty
    subst firstEmpty secondEmpty
    exact ⟨sooner, later, shape, by simpa [kept] using above, by simpa [kept] using below⟩
  · rintro ⟨before, after, cut, above, below⟩
    rw [cut]
    exact ⟨before.map (Text.replace currentUser user.text),
      after.map (Text.replace currentUser user.text), by simp [(kept "").mpr rfl],
      by simpa [kept] using above, by simpa [kept] using below⟩

/-- A crowded path keeps its three slashes when the slashes at both ends are trimmed. -/
theorem isCrowded_iff_infix {path : String} :
    IsCrowded path ↔ ['/', '/', '/'] <:+: trimmed path.toList := by
  simp only [IsCrowded, ne_eq, segments_eq_nil_iff]
  constructor
  · rintro ⟨before, after, rfl, above, below⟩
    refine ⟨before.toList.dropWhile (· = '/'), after.toList.rdropWhile (· = '/'), ?_⟩
    simp [trimmed, List.dropWhile_append, List.rdropWhile, above, below]
  · rintro ⟨before, after, whole⟩
    obtain ⟨head, last⟩ := trimmed_eq_self_iff.mp (trimmed_trimmed path.toList)
    simp only [← whole] at head last
    obtain ⟨left, dropped⟩ := List.dropWhile_suffix (· = '/') (l := path.toList)
    obtain ⟨right, kept⟩ := List.rdropWhile_prefix (· = '/') (path.toList.dropWhile (· = '/'))
    rw [← trimmed_eq_rdropWhile, ← whole] at kept
    refine ⟨String.ofList (left ++ before), String.ofList (after ++ right), ?_, ?_, ?_⟩
    · rw [← String.toList_inj, ← dropped, ← kept]
      simp
    · cases before with
      | nil => exact absurd rfl (head (by simp))
      | cons c rest =>
          intro onlySlashes
          exact head (by simp) (onlySlashes c (by simp))
    · rcases after.eq_nil_or_concat with rfl | ⟨rest, c, rfl⟩
      · exact absurd (by simp) (last (by simp))
      · intro onlySlashes
        exact last (by simp) (by simpa using onlySlashes c (by simp))

instance (path : String) : Decidable (IsCrowded path) :=
  decidable_of_iff (Text.occursIn ['/', '/', '/'] (trimmed path.toList) = true)
    (Text.occursIn_iff.trans isCrowded_iff_infix.symm)

/-! ## What becomes of a permission's subpath -/

/-- Filling in the user's name and removing slashes gives a canonical subpath unless the slashes are
crowded. -/
theorem isCanonical_resolve_iff {path : String} (user : Shortname) :
    IsCanonical (resolve path user.text) ↔ ¬ IsCrowded path := by
  rw [resolve, isCanonical_normalize_iff, toList_replace_doubled, trimmed_halved, infix_halved_iff,
    ← isCrowded_iff_infix, isCrowded_replace_iff]

theorem IsWildcard.isCanonical {path : String} (wildcard : IsWildcard path) : IsCanonical path := by
  cases wildcard with
  | bare => exact ⟨[everywhere], by simpa using isSegment_everywhere, ofSegments_singleton _⟩
  | @second first rest areSegments =>
      refine ⟨first :: everywhere :: rest, fun part isPart => ?_, rfl⟩
      rcases List.mem_cons.mp isPart with rfl | isPart
      · exact areSegments part List.mem_cons_self
      · rcases List.mem_cons.mp isPart with rfl | isPart
        · exact isSegment_everywhere
        · exact areSegments part (List.mem_cons_of_mem first isPart)

/-- What is looked up on the way down to a place is canonical. -/
theorem Reaches.isCanonical {path : String} {parts : List String}
    (areSegments : ∀ part ∈ parts, IsSegment part) (reaches : Reaches path (initials parts)) :
    IsCanonical path := by
  obtain ⟨upper, isPrefix, rfl | rfl⟩ := reaches
  · obtain ⟨start, isStart, rfl⟩ := mem_initials.mp isPrefix
    exact ⟨start, fun part isPart => areSegments part (isStart.subset isPart), rfl⟩
  · exact (isWildcard_globalAccess upper).isCanonical

/-- A canonical subpath is walked through on the way to every entry there. -/
theorem IsCanonical.mem_walk {path : String} (canonical : IsCanonical path) (type : ResourceType)
    (entry : Option String) : path ∈ walk path type entry :=
  mem_initials.mpr ⟨segments path, List.prefix_append _ _, canonical.ofSegments_segments⟩

/-- Which redundant slashes a permission survives.  Among subpaths with the same segments all that are
not crowded resolve to one text, the crowded ones to none that is ever looked up; what the others
resolve to has single slashes and is looked up at its place. -/
theorem redundant_slashes_harmless_iff (path : String) (user : Shortname) :
    (∀ other, segments other = segments path → ¬ IsCrowded other →
      (resolve path user.text = resolve other user.text ↔ ¬ IsCrowded path)) ∧
    ((∃ place type entry, (∀ name ∈ entry, IsSegment name) ∧
      Reaches (resolve path user.text) (walk place type entry)) ↔ ¬ IsCrowded path) ∧
    (¬ IsCrowded path →
      resolve path user.text =
          ofSegments ((segments path).map (Text.replace currentUser user.text)) ∧
        ∀ type entry, resolve path user.text ∈ walk (resolve path user.text) type entry) := by
  have canonical {path : String} : IsCanonical (resolve path user.text) ↔ ¬ IsCrowded path :=
    isCanonical_resolve_iff user
  -- A canonical text is made of its segments, and these are the same however they are separated.
  have written {path : String} (roomy : ¬ IsCrowded path) : resolve path user.text =
      ofSegments ((segments path).map (Text.replace currentUser user.text)) := by
    rw [← segments_resolve, (canonical.mpr roomy).ofSegments_segments]
  constructor
  · intro other same otherRoomy
    constructor
    · intro equal
      rw [← canonical, equal, canonical]
      exact otherRoomy
    · intro roomy
      rw [written roomy, written otherRoomy, same]
  constructor
  · constructor
    · rintro ⟨place, type, entry, named, reaches⟩
      apply canonical.mp
      apply reaches.isCanonical
      intro part isPart
      exact isSegment_of_mem_place (fun _ => named) isPart
    · intro roomy
      have found := (canonical.mpr roomy).mem_walk .content none
      exact ⟨resolve path user.text, .content, none, by simp, _, found, .inl rfl⟩
  · intro roomy
    exact ⟨written roomy, (canonical.mpr roomy).mem_walk⟩

/-- A permission on the news of one year is found with any number of slashes around it and one or two
inside, and is lost with three inside. -/
theorem redundant_slashes_harmless_iff_news :
    let reader : Shortname := ⟨"alice", by decide⟩
    segments "news///2024" = segments "///news//2024/" ∧
      resolve "///news//2024/" reader.text = "news/2024" ∧
      resolve "news///2024" reader.text ≠ resolve "///news//2024/" reader.text ∧
      "news/2024" ∈ walk "news/2024" .content (some "budget") ∧
      ¬ ∃ place type entry, (∀ name ∈ entry, IsSegment name) ∧
        Reaches (resolve "news///2024" reader.text) (walk place type entry) := by
  intro reader
  have same : segments "news///2024" = segments "///news//2024/" := by decide
  have crowded : IsCrowded "news///2024" := by decide
  have roomy : ¬ IsCrowded "///news//2024/" := by decide
  obtain ⟨agree, found, -⟩ := redundant_slashes_harmless_iff "news///2024" reader
  obtain ⟨-, -, atPlace⟩ := redundant_slashes_harmless_iff "///news//2024/" reader
  have written : resolve "///news//2024/" reader.text = "news/2024" := by decide
  refine ⟨same, written, ?_, ?_, fun reached => found.mp reached crowded⟩
  · exact fun equal => (agree _ same.symm roomy).mp equal crowded
  · exact written ▸ (atPlace roomy).2 .content (some "budget")

end Subpath

end AccessControl
