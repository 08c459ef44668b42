import AccessControl.Proofs.Database.Like
import AccessControl.Proofs.PolicyToken.Matching
import AccessControl.Proofs.Text.Blank

/-!
# Tokens as patterns

A database compares written tokens with patterns.  The pattern of a plain filter token matches the
written tokens that the filter admits, and no others.  Patterns are made of trimmed filters, though:
what counts is the filter with the blanks taken off at the start of its space and at the end of its
owner's name.
-/

namespace AccessControl

open Database (Matches pattern)

namespace OwnerScope

/-- The scope without the blanks at the end of the owner's name. -/
def trimmed : OwnerScope → OwnerScope
  | .subject name => .subject (Text.trimEnd name)
  | scope => scope

@[simp] theorem trimmed_eq_unscoped {scope : OwnerScope} :
    scope.trimmed = .unscoped ↔ scope = .unscoped := by
  cases scope <;> simp [trimmed]

/-- Trimming the name of a user or a group keeps it apart from the star. -/
theorem isPlain_trimmed {scope : OwnerScope}
    (named : ∀ owner, scope = .subject owner → ∃ name : Shortname, owner = name.text) :
    scope.trimmed.IsPlain := by
  intro text isText
  cases scope with
  | unscoped => cases isText
  | any => cases isText
  | subject owner =>
      obtain ⟨name, rfl⟩ := named owner rfl
      obtain rfl := OwnerScope.subject.inj isText
      have absent (c : Char) (reserved : isReserved c = true) :
          c ∉ (Text.trimEnd name.text).toList := fun member =>
        name.not_mem_of_isReserved reserved (Text.mem_of_mem_trimEnd member)
      refine ⟨⟨absent ':' (by decide), absent '|' (by decide)⟩, fun isStar => ?_⟩
      have noStar := absent '*' (by decide)
      rw [isStar] at noStar
      exact noStar (by decide)

end OwnerScope

namespace PolicyToken

variable {filter stored : PolicyToken}

/-- The token without the blanks that its written form starts and ends with. -/
def trimmed (token : PolicyToken) : PolicyToken where
  key := { token.key with space := Text.trimStart token.key.space }
  active := token.active
  owner := token.owner.trimmed

/-- Trimming a written token trims the token. -/
theorem trim_text (token : PolicyToken) : Text.trim token.text = token.trimmed.text := by
  obtain ⟨⟨space, subpath, type⟩, state, owner⟩ := token
  have colon : Text.isBlank ':' = false := by decide
  cases owner with
  | unscoped =>
      have stays : Text.trimEnd state.text = state.text := by cases state <;> decide
      have trims := Text.trim_join colon space state.text [subpath, type.name]
      rwa [stays] at trims
  | any =>
      have stays : Text.trimEnd "*" = "*" := by decide
      have trims := Text.trim_join colon space "*" [subpath, type.name, state.text]
      rwa [stays] at trims
  | subject name => exact Text.trim_join colon space name [subpath, type.name, state.text]

/-- A trimmed token can be told apart in its written form if the names in it could. -/
theorem isPlain_trimmed {token : PolicyToken} (plain : token.IsPlain)
    (named : ∀ owner, token.owner = .subject owner → ∃ name : Shortname, owner = name.text) :
    token.trimmed.IsPlain where
  space := ⟨fun member => plain.space.1 (Text.mem_of_mem_trimStart member),
    fun member => plain.space.2 (Text.mem_of_mem_trimStart member)⟩
  subpath := plain.subpath
  owner := OwnerScope.isPlain_trimmed named

theorem text_ne_empty (token : PolicyToken) : token.text ≠ "" := by
  intro empty
  have colon : ':' ∈ token.text.toList := by
    simp [text, Text.joined]
  rw [empty] at colon
  simp at colon

/-- The parts of a key and what follows them. -/
theorem segments_eq_append_iff {key : PermissionKey} {more : List String} (token : PolicyToken) :
    token.segments = [key.space, key.subpath, key.type.name] ++ more ↔
      token.key = key ∧ token.active.text :: token.owner.segment?.toList = more := by
  obtain ⟨⟨space, subpath, type⟩, state, owner⟩ := token
  simp only [segments, List.cons_append, List.nil_append, List.cons.injEq]
  constructor
  · rintro ⟨rfl, rfl, sameName, rest⟩
    exact ⟨by rw [ResourceType.name_injective sameName], rest⟩
  · rintro ⟨rfl, rest⟩
    exact ⟨rfl, rfl, rfl, rest⟩

theorem state_eq_iff {state other : ActiveState} : state.text = other.text ↔ state = other := by
  cases state <;> cases other <;> decide

/-- The pattern of a filter that is open to every activity and owner matches the tokens of its
key. -/
theorem matches_pattern_unrestricted_iff {key : PermissionKey} (plain : (unrestricted key).IsPlain)
    (storedPlain : stored.IsPlain) :
    Matches (pattern (unrestricted key).text) stored.text ↔ stored.key = key := by
  have frontPlain : ∀ part ∈ [key.space, key.subpath, key.type.name], ':' ∉ part.toList :=
    fun part isPart => (plain.segment (List.mem_append_left _ (List.mem_append_left [_] isPart))).1
  have written : (unrestricted key).text =
      Text.join ':' ([key.space, key.subpath, key.type.name] ++ ["*"]) := rfl
  rw [written, stored.text_eq_join,
    Database.matches_pattern_star_iff (by simp) (by simp [segments]) frontPlain
      fun part isPart => (storedPlain.segment isPart).1]
  simp only [segments_eq_append_iff]
  constructor
  · rintro ⟨more, -, sameKey, -⟩
    exact sameKey
  · intro sameKey
    exact ⟨_, List.cons_ne_nil _ _, sameKey, rfl⟩

/-- The pattern of a filter for any owner matches the tokens of its key and state that have one. -/
theorem matches_pattern_any_iff {key : PermissionKey} {state : ActiveState}
    (plain : (⟨key, state, .any⟩ : PolicyToken).IsPlain) (storedPlain : stored.IsPlain) :
    Matches (pattern (⟨key, state, .any⟩ : PolicyToken).text) stored.text ↔
      stored.key = key ∧ stored.active = state ∧ stored.owner ≠ .unscoped := by
  have frontPlain : ∀ part ∈ [key.space, key.subpath, key.type.name, state.text],
      ':' ∉ part.toList :=
    fun part isPart => (plain.segment (List.mem_append_left ["*"] isPart)).1
  have written : (⟨key, state, .any⟩ : PolicyToken).text =
      Text.join ':' ([key.space, key.subpath, key.type.name, state.text] ++ ["*"]) := rfl
  rw [written, stored.text_eq_join,
    Database.matches_pattern_star_iff (by simp) (by simp [segments]) frontPlain
      fun part isPart => (storedPlain.segment isPart).1]
  have regrouped (more : List String) :
      [key.space, key.subpath, key.type.name, state.text] ++ more =
        [key.space, key.subpath, key.type.name] ++ state.text :: more := rfl
  simp only [regrouped, segments_eq_append_iff, List.cons.injEq, state_eq_iff]
  constructor
  · rintro ⟨more, nonempty, sameKey, sameState, rest⟩
    refine ⟨sameKey, sameState, fun isUnscoped => nonempty ?_⟩
    rw [← rest, isUnscoped]
    rfl
  · rintro ⟨sameKey, sameState, isOwned⟩
    refine ⟨_, fun noOwner => isOwned ?_, sameKey, sameState, rfl⟩
    cases owner : stored.owner with
    | unscoped => rfl
    | any => simp [owner, OwnerScope.segment?] at noOwner
    | subject name => simp [owner, OwnerScope.segment?] at noOwner

/-- The pattern of a filter that ends in no star matches what is written like the filter. -/
theorem matches_pattern_literal_iff {text : String} (plain : filter.IsPlain)
    (notAny : filter.owner ≠ .any) (stated : filter.active = .any → filter.owner ≠ .unscoped) :
    Matches (pattern filter.text) text ↔ text = filter.text := by
  obtain ⟨key, state, owner⟩ := filter
  cases owner with
  | any => exact absurd rfl notAny
  | unscoped =>
      have notStar : state.text ≠ "*" := by
        intro isStar
        cases state with
        | any => exact stated rfl rfl
        | active => exact absurd isStar (by decide)
        | inactive => exact absurd isStar (by decide)
      rw [show (⟨key, state, .unscoped⟩ : PolicyToken).text =
        Text.join ':' ([key.space, key.subpath, key.type.name] ++ [state.text]) from rfl]
      exact Database.matches_pattern_iff state.isPlain_text.1 notStar
  | subject name =>
      obtain ⟨namePlain, notStar⟩ := plain.owner name rfl
      rw [show (⟨key, state, .subject name⟩ : PolicyToken).text =
        Text.join ':' ([key.space, key.subpath, key.type.name, state.text] ++ [name]) from rfl]
      exact Database.matches_pattern_iff namePlain.1 notStar

theorem admits_iff_of_stated (stated : filter.active ≠ .any) :
    filter.admits stored = true ↔ stored.key = filter.key ∧ stored.active = filter.active ∧
      filter.owner.admits stored.owner = true := by
  rw [admits_iff, or_iff_right stated, @eq_comm ActiveState filter.active]

/-- The pattern of a plain filter matches the written tokens that the filter admits.  A filter that
speaks of either activity speaks of no owner, and a stored token names its owner if it has one. -/
theorem matches_pattern_text_iff (plain : filter.IsPlain) (storedPlain : stored.IsPlain)
    (unowned : filter.active = .any → filter.owner = .unscoped) (named : stored.owner ≠ .any) :
    Matches (pattern filter.text) stored.text ↔ filter.admits stored = true := by
  by_cases unrestricts : filter.active = .any
  · obtain ⟨key, state, owner⟩ := filter
    obtain rfl : state = .any := unrestricts
    obtain rfl : owner = .unscoped := unowned rfl
    have sameKey := matches_pattern_unrestricted_iff plain storedPlain
    simp only [unrestricted] at sameKey
    rw [sameKey]
    simp [admits, eq_comm]
  rw [admits_iff_of_stated unrestricts]
  by_cases isAny : filter.owner = .any
  · obtain ⟨key, state, owner⟩ := filter
    obtain rfl : owner = .any := isAny
    rw [matches_pattern_any_iff plain storedPlain]
    cases owner : stored.owner with
    | any => exact absurd owner named
    | unscoped => simp [OwnerScope.admits]
    | subject name => simp [OwnerScope.admits]
  · rw [matches_pattern_literal_iff plain isAny fun any => absurd any unrestricts,
      OwnerScope.admits_iff_eq isAny]
    constructor
    · intro sameText
      obtain rfl := storedPlain.text_injective plain sameText
      exact ⟨rfl, rfl, rfl⟩
    · rintro ⟨sameKey, sameState, sameOwner⟩
      rw [text, text, sameKey, sameState, sameOwner]

/-- Written tokens are trimmed like the tokens. -/
theorem WrittenAs.trimmed {tokens : PolicyToken → Prop} {texts : List String}
    (written : WrittenAs tokens texts)
    (named : ∀ token owner, tokens token → token.owner = .subject owner →
      ∃ name : Shortname, owner = name.text) :
    WrittenAs (fun trimmed => ∃ token, tokens token ∧ trimmed = token.trimmed)
      (texts.map Text.trim) where
  plain := by
    rintro _ ⟨token, isToken, rfl⟩
    exact isPlain_trimmed (written.plain token isToken) fun owner => named token owner isToken
  mem_iff text := by
    rw [List.mem_map]
    constructor
    · rintro ⟨whole, isText, rfl⟩
      obtain ⟨token, isToken, rfl⟩ := (written.mem_iff whole).mp isText
      exact ⟨token.trimmed, ⟨token, isToken, rfl⟩, token.trim_text⟩
    · rintro ⟨_, ⟨token, isToken, rfl⟩, rfl⟩
      exact ⟨token.text, (written.mem_iff _).mpr ⟨token, isToken, rfl⟩, token.trim_text⟩

end PolicyToken

/-! ## Selection by a database -/

namespace Database

/-- Whether a database selects what is stored with these policies: one of them matches a pattern. -/
def Selects (filters policies : List String) : Prop :=
  ∃ policy ∈ policies, ∃ pattern ∈ filterPatterns filters, Matches pattern policy

theorem mem_filterPatterns {filters : List String} {text : String} :
    text ∈ filterPatterns filters ↔
      ∃ trimmed ∈ (filterAlternatives filters).map Text.trim, trimmed ≠ "" ∧
        text = pattern trimmed := by
  simp only [filterPatterns, filterAlternatives, List.mem_eraseDups, List.mem_map, List.mem_filter,
    decide_eq_true_eq]
  constructor
  · rintro ⟨trimmed, ⟨isTrimmed, nonempty⟩, rfl⟩
    exact ⟨trimmed, isTrimmed, nonempty, rfl⟩
  · rintro ⟨trimmed, isTrimmed, nonempty, rfl⟩
    exact ⟨trimmed, ⟨isTrimmed, nonempty⟩, rfl⟩

/-- Where trimmed filters and policies are written tokens, a database selects by the tokens. -/
theorem selects_iff_of_writtenAs {filters policies : List String}
    {filterTokens storedTokens : PolicyToken → Prop}
    (writtenFilters : PolicyToken.WrittenAs filterTokens
      ((filterAlternatives filters).map Text.trim))
    (writtenStored : PolicyToken.WrittenAs storedTokens policies)
    (unowned : ∀ filter, filterTokens filter → filter.active = .any → filter.owner = .unscoped)
    (named : ∀ stored, storedTokens stored → stored.owner ≠ .any) :
    Selects filters policies ↔
      ∃ filter, filterTokens filter ∧ ∃ stored, storedTokens stored ∧
        filter.admits stored = true := by
  have matches_iff {filter stored : PolicyToken} (isFilter : filterTokens filter)
      (isStored : storedTokens stored) :
      Matches (pattern filter.text) stored.text ↔ filter.admits stored = true :=
    PolicyToken.matches_pattern_text_iff (writtenFilters.plain filter isFilter)
      (writtenStored.plain stored isStored) (unowned filter isFilter) (named stored isStored)
  simp only [Selects, mem_filterPatterns, writtenFilters.mem_iff, writtenStored.mem_iff]
  constructor
  · rintro ⟨_, ⟨stored, isStored, rfl⟩, _, ⟨_, ⟨filter, isFilter, rfl⟩, -, rfl⟩, matched⟩
    exact ⟨filter, isFilter, stored, isStored, (matches_iff isFilter isStored).mp matched⟩
  · rintro ⟨filter, isFilter, stored, isStored, admits⟩
    exact ⟨_, ⟨stored, isStored, rfl⟩, _, ⟨_, ⟨filter, isFilter, rfl⟩, filter.text_ne_empty, rfl⟩,
      (matches_iff isFilter isStored).mpr admits⟩

end Database

end AccessControl
