import AccessControl.Proofs.QueryPolicies.Injection
import AccessControl.Proofs.Subpath.Overlap

/-!
# Spellings of a queried subpath

Deciding on an entry and stamping it look at the segments of a path, so every spelling of the path does
the same there.  A query compares paths as texts in normal form, which keeps slashes that meet between
segments.  Hence two spellings are answered alike exactly if their normal forms are the same, and a
spelling with doubled slashes is answered like no spelling without.  What a query loses by it are
entries: it never shows one that the query with single slashes does not show.
-/

namespace AccessControl

open Subpath (IsDoubled segments)

namespace QueryPolicies

variable {owners : List String} {grants : Grants} {format : FilterFormat} {space path other : String}

/-- Whether every query is answered alike for two subpaths, whoever asks, in whatever state. -/
def AnsweredAlike (path other : String) : Prop :=
  ∀ (cluster : Cluster) (node : Nat) (settings : Settings) (name space : String),
    (Cluster.operate node (queryPolicies settings name space (some path)) cluster).1 =
      (Cluster.operate node (queryPolicies settings name space (some other)) cluster).1

/-- Whether a query for one subpath shows only entries that the query for another one shows, for whoever
is known to the node, if spaces, subpaths and keys are free of the characters that delimit tokens and
filters. -/
def ShowsNoMore (path other : String) : Prop :=
  ∀ (cluster : Cluster) (node : Nat) (settings : Settings) (name : Shortname) (user : User)
      (grants : Grants) (space stored : String) (entry : Entry) (filters others : List String),
    (Cluster.operate node (Principal.load settings name.text) cluster).1 = .ok ⟨some user, grants⟩ →
    (∀ key ∈ grants, Text.IsPlain key.subpath) → Text.IsPlain space → Text.IsPlain stored →
    Text.IsPlain path → Text.IsPlain other →
    (Cluster.operate node (queryPolicies settings name.text space (some path)) cluster).1 =
      .ok filters →
    (Cluster.operate node (queryPolicies settings name.text space (some other)) cluster).1 =
      .ok others →
    policiesMatch filters (entry.policies space stored) = true →
      policiesMatch others (entry.policies space stored) = true

/-! ## Normal forms -/

/-- The filters depend on the normal form of the subpath only. -/
theorem ofGrants_congr (same : Subpath.normalize path = Subpath.normalize other) :
    ofGrants format owners space (some path) grants =
      ofGrants format owners space (some other) grants := by
  simp only [ofGrants, Option.map_some, same]

theorem answeredAlike_of_normalize_eq (same : Subpath.normalize path = Subpath.normalize other) :
    AnsweredAlike path other := by
  intro cluster node settings name space
  simp only [queryPolicies, ofGrants_congr same]

namespace Reader

/-- What a reader of everything is granted is projected onto one filter, which holds the place. -/
theorem project_granted (type : ResourceType) (place : String) :
    project format owners space place ⟨allSpaces, Subpath.everywhere, type⟩
        (Grant.empty.absorb (permission type)) =
      [(PolicyToken.unrestricted ⟨space, Subpath.normalize place, type⟩).text] := by
  have concrete : (⟨allSpaces, Subpath.everywhere, type⟩ : PermissionKey).concretize space place =
      ⟨space, Subpath.normalize place, type⟩ := by
    simp [PermissionKey.concretize, PermissionKey.coversAllSpaces]
  have ofNobody : (Grant.empty.absorb (permission type)).conditions.contains .own = false := rfl
  have inAnyState : (Grant.empty.absorb (permission type)).conditions.contains .isActive = false := rfl
  rw [project, concrete, nestedFilter, filters, ofNobody, inAnyState]
  simp

theorem concerns_granted (type : ResourceType) (place : String) :
    concerns space (some place) ⟨allSpaces, Subpath.everywhere, type⟩
      (Grant.empty.absorb (permission type)) = true := by
  have queries : (Grant.empty.absorb (permission type)).allowsAction .query = true := rfl
  simp [concerns, PermissionKey.coversAllSpaces, Subpath.overlap, Subpath.isAncestorOrSelf, queries]

/-- A reader of everything is answered a single filter, which holds the normal form. -/
theorem operate_queryPolicies (type : ResourceType) (space path : String) :
    (Cluster.operate 0 (queryPolicies { cacheSeconds := 0 } "ada" space (some path))
        (cluster type)).1 =
      .ok [(PolicyToken.unrestricted ⟨space, Subpath.normalize path, type⟩).text] := by
  have loaded : Cluster.operate 0 (Principal.load { cacheSeconds := 0 } "ada") (cluster type) =
      (.ok ⟨some user, granted type⟩, _) := Prod.ext (known type) rfl
  rw [QueryPolicies.operate_queryPolicies space (some path) loaded, ofGrants, toList_granted]
  simp [concerns_granted, project_granted, List.eraseDups_cons]

end Reader

/-- The filter of a reader of everything tells the normal form of the queried subpath. -/
theorem normalize_eq_of_answeredAlike (alike : AnsweredAlike path other) :
    Subpath.normalize path = Subpath.normalize other := by
  have answers := alike (Reader.cluster .content) 0 { cacheSeconds := 0 } "ada" "acme"
  rw [Reader.operate_queryPolicies, Reader.operate_queryPolicies, Except.ok.injEq,
    List.singleton_inj, PolicyToken.text_eq_append, PolicyToken.text_eq_append,
    ← String.toList_inj] at answers
  apply String.toList_inj.mp
  simpa [PolicyToken.unrestricted, PolicyToken.ending, PolicyToken.endingParts] using answers

example : ¬ AnsweredAlike "news//2024" "news/2024" :=
  fun alike => absurd (normalize_eq_of_answeredAlike alike) (by decide)

/-! ## Doubled slashes -/

/-- The tokens of an entry have canonical subpaths. -/
theorem isCanonical_of_mem_tokens {entry : Placement} {token : PolicyToken}
    (plainEntry : entry.IsPlain) (isToken : token ∈ entry.tokens) :
    Subpath.IsCanonical token.key.subpath := by
  rcases Placement.mem_tokens.mp isToken with ⟨path, isPrefix, -, -, -, placed⟩
  have reaches : Subpath.Reaches token.key.subpath entry.walk := by
    rcases placed with ⟨atPath, -⟩ | ⟨widened, -⟩
    · exact ⟨path, isPrefix, .inl atPath⟩
    · exact ⟨path, isPrefix, .inr (Subpath.globalAccess_of_wildcard? widened).symm⟩
  exact reaches.isCanonical plainEntry.isSegment

/-- A key for a part of the space is projected onto the same tokens, whatever place is queried. -/
theorem tokens_eq_of_ne {key : PermissionKey} {grant : Grant} {place otherPlace : String}
    (notBare : key.subpath ≠ Subpath.everywhere) :
    tokens owners space place key grant = tokens owners space otherPlace key grant := by
  have concrete : key.concretize space place = key.concretize space otherPlace := by
    simp [PermissionKey.concretize, notBare]
  rw [tokens, concrete, tokens]

/-- What a query for a spelling with doubled slashes shows, the query without shows too. -/
theorem policiesMatch_of_isDoubled (entry : Placement) (plainEntry : entry.IsPlain)
    (plainOwners : ∀ owner ∈ owners, (OwnerScope.subject owner).IsPlain)
    (plainKeys : ∀ key ∈ grants, Text.IsPlain key.subpath) (plainPath : Text.IsPlain path)
    (plainOther : Text.IsPlain other) (same : segments path = segments other)
    (doubled : IsDoubled path) (otherTidy : ¬ IsDoubled other)
    (matched : policiesMatch (ofGrants format owners entry.space (some path) grants)
      entry.policies = true) :
    policiesMatch (ofGrants format owners entry.space (some other) grants) entry.policies = true := by
  have written {subpath : String} (plain : Text.IsPlain subpath) :
      PolicyToken.WrittenAs (IsFilter owners grants entry.space (some subpath))
        (filterAlternatives (ofGrants format owners entry.space (some subpath) grants)) :=
    writtenAs_ofGrants plainEntry.space plainOwners plainKeys (by simpa using plain)
  rw [policiesMatch_iff_of_writtenAs (written plainPath) plainEntry.writtenAs] at matched
  rw [policiesMatch_iff_of_writtenAs (written plainOther) plainEntry.writtenAs]
  rcases matched with ⟨filter, ⟨key, grant, projects, isToken⟩, stored, isStored, admits⟩
  have covers := covers_of_admits projects.inSpace projects.query isToken isStored admits
  have keyCanonical := covers.reaches.isCanonical plainEntry.isSegment
  -- A grant for every subpath puts the doubled slashes into its filter, where no entry has any.
  have notBare : key.subpath ≠ Subpath.everywhere := by
    intro bare
    rcases List.mem_map.mp isToken with ⟨scope, -, isFilter⟩
    have filterKey : filter.key = key.concretize entry.space (place (some path)) := by rw [← isFilter]
    have canonical := isCanonical_of_mem_tokens plainEntry isStored
    rw [(PolicyToken.admits_iff.mp admits).1, filterKey, concretize_subpath_of_eq bare,
      normalize_place] at canonical
    exact Subpath.isCanonical_normalize_iff_not_isDoubled.mp canonical doubled
  have near : ∀ place ∈ some other, Subpath.overlap (Subpath.fixedPart key.subpath)
      (Subpath.normalize place) = true := by
    intro place isOther
    rw [← Option.mem_some_iff.mp isOther]
    exact keyCanonical.fixedPart.overlap_normalize same otherTidy (projects.near path rfl)
  refine ⟨filter, ⟨key, grant, ⟨projects.held, projects.query, projects.inSpace, near⟩, ?_⟩, stored,
    isStored, admits⟩
  exact tokens_eq_of_ne notBare ▸ isToken

theorem showsNoMore_of_segments_eq (same : segments path = segments other)
    (otherTidy : ¬ IsDoubled other) : ShowsNoMore path other := by
  intro cluster node settings name user grants space stored entry filters others known plainKeys
    plainSpace plainStored plainPath plainOther ran ranOther matched
  rw [operate_queryPolicies space _ (Prod.ext known rfl)] at ran ranOther
  have isFilters := Except.ok.inj ran
  have isOthers := Except.ok.inj ranOther
  rw [← isFilters] at matched
  rw [← isOthers]
  by_cases doubled : IsDoubled path
  · exact policiesMatch_of_isDoubled (entry.placement space stored)
      (entry.isPlain_placement plainSpace plainStored) (isPlain_owners ⟨some user, grants⟩ name)
      plainKeys plainPath plainOther same doubled otherTidy matched
  · rwa [ofGrants_congr (Subpath.normalize_eq_of_not_isDoubled same doubled otherTidy)] at matched

/-- Two subpaths are answered alike, whoever asks in whatever state, if and only if they have the same
normal form.  Of the subpaths with the same segments as one without doubled slashes these are the ones
without; and the others show no entry that it does not show. -/
theorem queryPolicies_alike_iff_normalize_eq (path other : String) :
    (AnsweredAlike path other ↔ Subpath.normalize path = Subpath.normalize other) ∧
    (segments path = segments other → ¬ IsDoubled other →
      (AnsweredAlike path other ↔ ¬ IsDoubled path) ∧ ShowsNoMore path other) := by
  refine ⟨⟨normalize_eq_of_answeredAlike, answeredAlike_of_normalize_eq⟩, fun same otherTidy =>
    ⟨⟨fun alike doubled => ?_, fun tidy => ?_⟩, showsNoMore_of_segments_eq same otherTidy⟩⟩
  · rw [← Subpath.isCanonical_normalize_iff_not_isDoubled,
      ← normalize_eq_of_answeredAlike alike] at otherTidy
    exact Subpath.isCanonical_normalize_iff_not_isDoubled.mp otherTidy doubled
  · exact answeredAlike_of_normalize_eq
      (Subpath.normalize_eq_of_not_isDoubled same tidy otherTidy)

end QueryPolicies

end AccessControl
