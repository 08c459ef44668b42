import AccessControl.Proofs.Ordered
import AccessControl.Proofs.PolicyToken.Placement
import AccessControl.Proofs.QueryPolicies.Projection

/-!
# What the filters of a query select

A grant covers an entry when its key reaches the entry's place and its conditions hold of the entry.
The filters of a query match an entry only if some held grant covers it; when the query is above
the entry, and no segment of the entry's place holds the marker for every subpath, they match it
exactly then.
-/

namespace AccessControl

namespace QueryPolicies

/-- What a query grant under a key has to satisfy so that an entry is shown by it.  Ownership is
asked of the owner and the owning group alike. -/
structure Covers (owners : List String) (key : PermissionKey) (grant : Grant) (entry : Placement) :
    Prop where
  type : key.type = entry.type
  inSpace : key.space = entry.space ∨ key.space = allSpaces
  query : grant.allowsAction .query = true
  reaches : Subpath.Reaches key.subpath entry.walk
  active : .isActive ∈ grant.conditions → entry.isActive = true
  own : .own ∈ grant.conditions → key.isNestedWide = false ∧
    (entry.owner ∈ owners ∨ ∃ group ∈ entry.ownerGroup, group ∈ owners)

variable {owners : List String} {key : PermissionKey} {grant : Grant} {entry : Placement}

/-! ## Admitted tokens -/

theorem subject_groupScope {name : String} :
    entry.groupScope = .subject name ↔ entry.ownerGroup = some name := by
  cases group : entry.ownerGroup <;> simp [Placement.groupScope, group]

theorem ofFlag_eq_active {isActive : Bool} :
    ActiveState.ofFlag isActive = .active ↔ isActive = true := by
  cases isActive <;> simp [ActiveState.ofFlag]

theorem concretize_space {space place : String}
    (inSpace : key.space = space ∨ key.space = allSpaces) :
    (key.concretize space place).space = space := by
  by_cases everywhere : key.space = allSpaces
  · simp [PermissionKey.concretize, PermissionKey.coversAllSpaces, everywhere]
  · simp [PermissionKey.concretize, PermissionKey.coversAllSpaces,
      inSpace.resolve_right everywhere]

theorem concretize_subpath_of_ne {space place : String}
    (notBare : key.subpath ≠ Subpath.everywhere) :
    (key.concretize space place).subpath = key.subpath := by
  simp [PermissionKey.concretize, notBare]

theorem concretize_subpath_of_eq {space place : String} (bare : key.subpath = Subpath.everywhere) :
    (key.concretize space place).subpath = Subpath.normalize place := by
  simp [PermissionKey.concretize, bare]

theorem isNestedWide_concretize {space place : String} (nested : key.isNestedWide = true) :
    (key.concretize space place).isNestedWide = true := by
  have notBare : key.subpath ≠ Subpath.everywhere := by
    simp only [PermissionKey.isNestedWide, Bool.and_eq_true, bne_iff_ne] at nested
    exact nested.2
  simpa [PermissionKey.isNestedWide, PermissionKey.isWide, concretize_subpath_of_ne notBare]
    using nested

/-- A filter that admits a token of an entry, in a state and for an owner that the conditions of a
grant dictate, says that these conditions hold of the entry. -/
theorem conditions_of_admits {nested : Bool} {filter stored : PolicyToken}
    (isDictated : (filter.active, filter.owner) ∈ dictated nested owners grant)
    (isStored : stored ∈ entry.tokens) (admits : filter.admits stored = true) :
    (.isActive ∈ grant.conditions → entry.isActive = true) ∧
      (.own ∈ grant.conditions → nested = false ∧
        (entry.owner ∈ owners ∨ ∃ group ∈ entry.ownerGroup, group ∈ owners)) := by
  obtain ⟨path, -, sameState, -, -, placed⟩ := Placement.mem_tokens.mp isStored
  obtain ⟨-, sameScope⟩ := PolicyToken.admits_iff.mp admits
  rw [mem_dictated] at isDictated
  constructor
  · intro mustBeActive
    rw [← ofFlag_eq_active, ← sameState]
    simp only [mustBeActive, not_true, and_false, or_false, if_true] at isDictated
    split at isDictated <;> grind
  · intro mustBeOwned
    rw [if_pos mustBeOwned] at isDictated
    obtain ⟨notNested, ⟨name, isOwner, isSubject⟩, isState⟩ := isDictated
    refine ⟨notNested, ?_⟩
    have sameOwner : stored.owner = .subject name := by
      rcases sameScope with anyState | ⟨-, admitted⟩
      · rcases isState with isState | ⟨isState, -⟩ <;> rw [isState] at anyState <;> cases anyState
      · exact OwnerScope.subject_admits_iff.mp (isSubject ▸ admitted)
    rcases placed with ⟨-, isEntryOwner | isGroup⟩ | ⟨-, isOpen⟩
    · rw [sameOwner] at isEntryOwner
      exact .inl (OwnerScope.subject.inj isEntryOwner ▸ isOwner)
    · exact .inr ⟨name, subject_groupScope.mp (isGroup.symm.trans sameOwner), isOwner⟩
    · rw [sameOwner] at isOpen
      cases isOpen

/-- A filter that admits a token of an entry comes from a grant that covers the entry. -/
theorem covers_of_admits {place : String} {filter stored : PolicyToken}
    (inSpace : key.space = entry.space ∨ key.space = allSpaces)
    (query : grant.allowsAction .query = true)
    (projected : filter ∈ tokens owners entry.space place key grant)
    (isStored : stored ∈ entry.tokens) (admits : filter.admits stored = true) :
    Covers owners key grant entry := by
  obtain ⟨scope, isDictated, rfl⟩ := List.mem_map.mp projected
  obtain ⟨active, own⟩ := conditions_of_admits isDictated isStored admits
  obtain ⟨path, isPrefix, -, -, sameType, placed⟩ := Placement.mem_tokens.mp isStored
  simp only [PolicyToken.admits, Bool.and_eq_true, decide_eq_true_eq] at admits
  have sameKey : key.concretize entry.space place = stored.key := admits.1
  refine ⟨?_, inSpace, query, ?_, active, fun mustBeOwned => ⟨?_, (own mustBeOwned).2⟩⟩
  · rw [← sameType, ← sameKey]
    rfl
  · by_cases bare : key.subpath = Subpath.everywhere
    · exact ⟨Subpath.root, Subpath.root_mem_initials _, .inr (by simp [bare])⟩
    · have literal : key.subpath = stored.key.subpath :=
        (concretize_subpath_of_ne bare).symm.trans (congrArg PermissionKey.subpath sameKey)
      rcases placed with ⟨atPath, -⟩ | ⟨widened, -⟩
      · exact ⟨path, isPrefix, .inl (literal.trans atPath)⟩
      · exact ⟨path, isPrefix,
          .inr (literal.trans (Subpath.globalAccess_of_wildcard? widened).symm)⟩
  · cases nested : key.isNestedWide with
    | false => rfl
    | true =>
        have notNested := (own mustBeOwned).1
        rw [isNestedWide_concretize nested] at notNested
        cases notNested

/-! ## Covered entries -/

theorem mem_tokens_of_mem_walk {path : String} {owner : OwnerScope} (isPrefix : path ∈ entry.walk)
    (isOwner : owner = .subject entry.owner ∨ owner = entry.groupScope) :
    ⟨⟨entry.space, path, entry.type⟩, .ofFlag entry.isActive, owner⟩ ∈ entry.tokens :=
  Placement.mem_tokens.mpr ⟨path, isPrefix, rfl, rfl, rfl, .inl ⟨rfl, isOwner⟩⟩

/-- At each prefix of its place a covered entry carries a token in a scope that the grant
dictates. -/
theorem exists_admitted_of_mem_walk {path : String} (covers : Covers owners key grant entry)
    (isPrefix : path ∈ entry.walk) :
    ∃ scope ∈ dictated false owners grant, ∃ stored ∈ entry.tokens,
      PolicyToken.admits ⟨⟨entry.space, path, entry.type⟩, scope.1, scope.2⟩ stored = true := by
  by_cases mustBeOwned : .own ∈ grant.conditions
  · obtain ⟨name, isOwner, carried⟩ : ∃ name ∈ owners,
        OwnerScope.subject name = .subject entry.owner ∨
          OwnerScope.subject name = entry.groupScope := by
      rcases (covers.own mustBeOwned).2 with isOwner | ⟨group, isGroup, isOwner⟩
      · exact ⟨entry.owner, isOwner, .inl rfl⟩
      · exact ⟨group, isOwner, .inr (subject_groupScope.mpr isGroup).symm⟩
    refine ⟨(.ofFlag entry.isActive, .subject name), mem_dictated.mpr ?_, _,
      mem_tokens_of_mem_walk isPrefix carried, by simp [PolicyToken.admits, OwnerScope.admits]⟩
    rw [if_pos mustBeOwned]
    refine ⟨rfl, ⟨name, isOwner, rfl⟩, ?_⟩
    cases activity : entry.isActive with
    | true => exact .inl rfl
    | false =>
        refine .inr ⟨rfl, fun mustBeActive => ?_⟩
        rw [covers.active mustBeActive] at activity
        cases activity
  · by_cases mustBeActive : .isActive ∈ grant.conditions
    · refine ⟨(.active, .any), mem_dictated.mpr ?_, _,
        mem_tokens_of_mem_walk isPrefix (.inl rfl), ?_⟩
      · simp [mustBeOwned, mustBeActive]
      · simp [PolicyToken.admits, OwnerScope.admits, covers.active mustBeActive,
          ActiveState.ofFlag]
    · refine ⟨(.any, .unscoped), mem_dictated.mpr ?_, _,
        mem_tokens_of_mem_walk isPrefix (.inl rfl), ?_⟩
      · simp [mustBeOwned, mustBeActive]
      · simp [PolicyToken.admits]

/-- Under a widened prefix a covered entry carries an open token in a scope that the grant
dictates, unless ownership is asked for. -/
theorem exists_admitted_of_wildcard? {path wide : String} (covers : Covers owners key grant entry)
    (isPrefix : path ∈ entry.walk) (widened : Subpath.wildcard? path = some wide)
    (unowned : .own ∉ grant.conditions) :
    ∃ scope ∈ dictated true owners grant, ∃ stored ∈ entry.tokens,
      PolicyToken.admits ⟨⟨entry.space, wide, entry.type⟩, scope.1, scope.2⟩ stored = true := by
  have carried : ⟨⟨entry.space, wide, entry.type⟩, .ofFlag entry.isActive, .unscoped⟩ ∈
      entry.tokens :=
    Placement.mem_tokens.mpr ⟨path, isPrefix, rfl, rfl, rfl, .inr ⟨widened, rfl⟩⟩
  by_cases mustBeActive : .isActive ∈ grant.conditions
  · refine ⟨(.active, .unscoped), mem_dictated.mpr ?_, _, carried, ?_⟩
    · simp [unowned, mustBeActive]
    · simp [PolicyToken.admits, OwnerScope.admits, covers.active mustBeActive,
        ActiveState.ofFlag]
  · refine ⟨(.any, .unscoped), mem_dictated.mpr ?_, _, carried, ?_⟩
    · simp [unowned, mustBeActive]
    · simp [PolicyToken.admits]

/-! ## Plain filters -/

theorem isPlain_place {subpath : Option String} (plain : ∀ path ∈ subpath, Text.IsPlain path) :
    Text.IsPlain (place subpath) := by
  cases subpath with
  | none => decide
  | some path => exact Subpath.isPlain_normalize (plain path rfl)

theorem isPlain_of_mem_dictated {nested : Bool} {scope : ActiveState × OwnerScope}
    (plainOwners : ∀ owner ∈ owners, (OwnerScope.subject owner).IsPlain)
    (isDictated : scope ∈ dictated nested owners grant) : scope.2.IsPlain := by
  rw [mem_dictated] at isDictated
  split at isDictated
  · obtain ⟨-, ⟨name, isOwner, isSubject⟩, -⟩ := isDictated
    exact isSubject ▸ plainOwners name isOwner
  · split at isDictated
    · obtain ⟨-, isScope⟩ := isDictated
      cases nested
      · exact isScope ▸ OwnerScope.isPlain_any
      · exact isScope ▸ OwnerScope.isPlain_unscoped
    · exact isDictated.2 ▸ OwnerScope.isPlain_unscoped

/-- A plain query over plain keys is projected onto plain tokens. -/
theorem isPlain_of_mem_tokens {space : String} {subpath : Option String} {grants : Grants}
    {token : PolicyToken} (plainSpace : Text.IsPlain space)
    (plainOwners : ∀ owner ∈ owners, (OwnerScope.subject owner).IsPlain)
    (plainKeys : ∀ key ∈ grants, Text.IsPlain key.subpath)
    (plainPath : ∀ path ∈ subpath, Text.IsPlain path)
    (projects : Projects grants space subpath key grant)
    (isToken : token ∈ tokens owners space (place subpath) key grant) : token.IsPlain := by
  obtain ⟨scope, isDictated, rfl⟩ := List.mem_map.mp isToken
  refine ⟨?_, ?_, isPlain_of_mem_dictated plainOwners isDictated⟩
  · exact (concretize_space projects.inSpace).symm ▸ plainSpace
  · by_cases bare : key.subpath = Subpath.everywhere
    · rw [concretize_subpath_of_eq bare, normalize_place]
      exact isPlain_place plainPath
    · rw [concretize_subpath_of_ne bare]
      exact plainKeys key (Dict.mem_iff_exists_getElem?.mpr ⟨grant, projects.held⟩)

/-- The tokens of the grants that a query concerns. -/
def IsFilter (owners : List String) (grants : Grants) (space : String) (subpath : Option String)
    (token : PolicyToken) : Prop :=
  ∃ key grant, Projects grants space subpath key grant ∧
    token ∈ tokens owners space (place subpath) key grant

/-- The alternatives of a plain query over plain keys are the written tokens of the grants it
concerns. -/
theorem writtenAs_ofGrants {format : FilterFormat} {space : String} {subpath : Option String}
    {grants : Grants} (plainSpace : Text.IsPlain space)
    (plainOwners : ∀ owner ∈ owners, (OwnerScope.subject owner).IsPlain)
    (plainKeys : ∀ key ∈ grants, Text.IsPlain key.subpath)
    (plainPath : ∀ path ∈ subpath, Text.IsPlain path) :
    PolicyToken.WrittenAs (IsFilter owners grants space subpath)
      (filterAlternatives (ofGrants format owners space subpath grants)) := by
  have plain : ∀ token, IsFilter owners grants space subpath token → token.IsPlain := by
    rintro token ⟨key, grant, projects, isToken⟩
    exact isPlain_of_mem_tokens plainSpace plainOwners plainKeys plainPath projects isToken
  refine ⟨plain, fun text => ?_⟩
  rw [mem_filterAlternatives_ofGrants]
  constructor
  · rintro ⟨key, grant, projects, token, isToken, isPiece⟩
    have isFilter : IsFilter owners grants space subpath token := ⟨key, grant, projects, isToken⟩
    rw [(plain token isFilter).split_bar, List.mem_singleton] at isPiece
    exact ⟨token, isFilter, isPiece⟩
  · rintro ⟨token, ⟨key, grant, projects, isToken⟩, rfl⟩
    refine ⟨key, grant, projects, token, isToken, ?_⟩
    rw [(plain token ⟨key, grant, projects, isToken⟩).split_bar]
    exact List.mem_singleton_self _

/-! ## Selection -/

variable {format : FilterFormat} {subpath : Option String} {grants : Grants}

/-- Every entry that the filters match is covered by a grant that they come from. -/
theorem exists_covers_of_policiesMatch (entry : Placement) (plainEntry : entry.IsPlain)
    (plainOwners : ∀ owner ∈ owners, (OwnerScope.subject owner).IsPlain)
    (plainKeys : ∀ key ∈ grants, Text.IsPlain key.subpath)
    (plainPath : ∀ path ∈ subpath, Text.IsPlain path)
    (matched : policiesMatch (ofGrants format owners entry.space subpath grants)
      entry.policies = true) :
    ∃ key grant, Projects grants entry.space subpath key grant ∧
      Covers owners key grant entry := by
  obtain ⟨filter, ⟨key, grant, projects, isToken⟩, stored, isStored, admits⟩ :=
    (policiesMatch_iff_of_writtenAs
      (writtenAs_ofGrants plainEntry.space plainOwners plainKeys plainPath)
      plainEntry.writtenAs).mp matched
  exact ⟨key, grant, projects,
    covers_of_admits projects.inSpace projects.query isToken isStored admits⟩

/-- Below an unmarked place a subpath that reaches it overlaps every prefix of it. -/
theorem overlap_of_reaches {parts start : List String} {subpath : String}
    (areSegments : ∀ part ∈ parts, Subpath.IsSegment part)
    (unmarked : ∀ part ∈ parts, Subpath.isWide part = false)
    (reaches : Subpath.Reaches subpath (Subpath.initials parts)) (isPrefix : start <+: parts) :
    Subpath.overlap (Subpath.fixedPart subpath) (Subpath.ofSegments start) = true := by
  obtain ⟨path, isInitial, literalOrWide⟩ := reaches
  obtain ⟨upper, upperPrefix, rfl⟩ := Subpath.mem_initials.mp isInitial
  rcases literalOrWide with rfl | rfl
  · rw [Subpath.fixedPart_of_not_isWide (Subpath.isWide_eq_false_of_prefix unmarked upperPrefix)]
    exact Subpath.overlap_of_prefixes upperPrefix isPrefix
  · rcases Subpath.globalAccess_cases (Subpath.ofSegments upper) with bare | widened
    · rw [bare, Subpath.fixedPart_everywhere]
      exact Subpath.overlap_of_prefixes List.nil_prefix isPrefix
    · obtain ⟨first, second, rest, shape, isWide⟩ := Subpath.wildcard?_eq_some_iff.mp widened
      have isUpper : upper = first :: second :: rest := by
        rw [← shape, Subpath.segments_ofSegments fun part member =>
          areSegments part (upperPrefix.subset member)]
      have firstPrefix : [first] <+: parts :=
        (by simp [isUpper] : [first] <+: upper).trans upperPrefix
      have isFirst : first ∈ parts := firstPrefix.subset (by simp)
      rw [← isWide, Subpath.fixedPart_widened (areSegments first isFirst) (unmarked first isFirst),
        ← Subpath.ofSegments_singleton first]
      exact Subpath.overlap_of_prefixes firstPrefix isPrefix

/-- The token that a covering grant projects below an unmarked place admits what is stored there. -/
theorem exists_admitted_of_covers
    (unmarked : ∀ part ∈ entry.segments, Subpath.isWide part = false)
    (above : place subpath ∈ entry.walk) (covers : Covers owners key grant entry) :
    ∃ filter ∈ tokens owners entry.space (place subpath) key grant,
      ∃ stored ∈ entry.tokens, filter.admits stored = true := by
  have narrow : ∀ path ∈ entry.walk, Subpath.isWide path = false := by
    intro path member
    obtain ⟨start, isPrefix, rfl⟩ := Subpath.mem_initials.mp member
    exact Subpath.isWide_eq_false_of_prefix unmarked isPrefix
  have projected : ∀ path nested,
      (key.concretize entry.space (place subpath)).subpath = path →
      (key.concretize entry.space (place subpath)).isNestedWide = nested →
      (∃ scope ∈ dictated nested owners grant, ∃ stored ∈ entry.tokens,
        PolicyToken.admits ⟨⟨entry.space, path, entry.type⟩, scope.1, scope.2⟩ stored = true) →
      ∃ filter ∈ tokens owners entry.space (place subpath) key grant,
        ∃ stored ∈ entry.tokens, filter.admits stored = true := by
    rintro path nested rfl rfl ⟨scope, isDictated, stored, isStored, admits⟩
    refine ⟨_, List.mem_map.mpr ⟨scope, isDictated, rfl⟩, stored, isStored, ?_⟩
    have sameSpace : (key.concretize entry.space (place subpath)).space = entry.space :=
      concretize_space covers.inSpace
    rw [← sameSpace, ← covers.type] at admits
    exact admits
  by_cases bare : key.subpath = Subpath.everywhere
  · have concrete : (key.concretize entry.space (place subpath)).subpath = place subpath :=
      (concretize_subpath_of_eq bare).trans (normalize_place subpath)
    refine projected _ false concrete ?_ (exists_admitted_of_mem_walk covers above)
    simp [PermissionKey.isNestedWide, PermissionKey.isWide, concrete, narrow _ above]
  · have concrete : (key.concretize entry.space (place subpath)).subpath = key.subpath :=
      concretize_subpath_of_ne bare
    obtain ⟨path, isPrefix, literalOrWide⟩ := covers.reaches
    rcases literalOrWide with literal | wide
    · refine projected path false (concrete.trans literal) ?_
        (exists_admitted_of_mem_walk covers isPrefix)
      simp [PermissionKey.isNestedWide, PermissionKey.isWide, concrete, literal,
        narrow path isPrefix]
    · have widened : Subpath.wildcard? path = some key.subpath := by
        rw [wide]
        exact (Subpath.globalAccess_cases path).resolve_left (wide ▸ bare)
      have nested : key.isNestedWide = true := by
        simp [PermissionKey.isNestedWide, PermissionKey.isWide,
          Subpath.isWide_of_wildcard? widened, bare]
      have unowned : .own ∉ grant.conditions := fun mustBeOwned => by
        have notNested := (covers.own mustBeOwned).1
        rw [nested] at notNested
        cases notNested
      exact projected key.subpath true concrete (isNestedWide_concretize nested)
        (exists_admitted_of_wildcard? covers isPrefix widened unowned)

/-- A query above an unmarked entry shows every entry that a held grant covers. -/
theorem policiesMatch_of_covers (entry : Placement) (plainEntry : entry.IsPlain)
    (plainOwners : ∀ owner ∈ owners, (OwnerScope.subject owner).IsPlain)
    (plainKeys : ∀ key ∈ grants, Text.IsPlain key.subpath)
    (plainPath : ∀ path ∈ subpath, Text.IsPlain path)
    (unmarked : ∀ part ∈ entry.segments, Subpath.isWide part = false)
    (above : place subpath ∈ entry.walk) (held : grants[key]? = some grant)
    (covers : Covers owners key grant entry) :
    policiesMatch (ofGrants format owners entry.space subpath grants) entry.policies = true := by
  have near : ∀ path ∈ subpath, Subpath.overlap (Subpath.fixedPart key.subpath)
      (Subpath.normalize path) = true := by
    rintro path ⟨rfl⟩
    obtain ⟨start, isPrefix, isPlace⟩ := Subpath.mem_initials.mp above
    rw [show Subpath.normalize path = Subpath.ofSegments start from isPlace.symm]
    exact overlap_of_reaches plainEntry.isSegment unmarked covers.reaches isPrefix
  obtain ⟨filter, isToken, stored, isStored, admits⟩ :=
    exists_admitted_of_covers unmarked above covers
  have isFilter : IsFilter owners grants entry.space subpath filter :=
    ⟨key, grant, ⟨held, covers.query, covers.inSpace, near⟩, isToken⟩
  exact (policiesMatch_iff_of_writtenAs
    (writtenAs_ofGrants plainEntry.space plainOwners plainKeys plainPath)
    plainEntry.writtenAs).mpr ⟨filter, isFilter, stored, isStored, admits⟩

end QueryPolicies

end AccessControl
