import AccessControl.Proofs.PolicyToken.Cut
import AccessControl.Proofs.QueryPolicies.Selection

/-!
# What a queried subpath can put into filters

A grant for every subpath is projected onto the queried one as it was given, and filters are cut at
bars before they are read.  So a queried subpath with bars can hold alternatives of its own.  This
module says which subpaths do: for all others, whatever colons, bars and stars they hold, every
alternative that is read as a token comes from a held grant.
-/

namespace AccessControl

namespace QueryPolicies

variable {owners : List String} {grants : Grants} {space : String} {subpath : Option String}
  {format : FilterFormat}

/-! ## Earned tokens -/

/-- A token that a query in a space is entitled to: some held query grant for that space is of the
token's type, and its conditions dictate the token's state and owner. -/
def Earned (owners : List String) (grants : Grants) (space : String) (token : PolicyToken) : Prop :=
  token.key.space = space ∧
    ∃ (key : PermissionKey) (grant : Grant), grants[key]? = some grant ∧
      grant.allowsAction .query = true ∧
      (key.space = space ∨ key.space = allSpaces) ∧ key.type = token.key.type ∧
      ∃ nested, (token.active, token.owner) ∈ dictated nested owners grant

/-- A place that holds an alternative of its own between its bars: one that starts behind the space,
one that stands alone, or one that a single colon completes. -/
def Smuggles (place : String) : Prop :=
  ∃ first middle last, Text.split '|' place = first :: (middle ++ [last]) ∧
    ((∃ token, PolicyToken.parse (":" ++ first) = .ok token) ∨
      (∃ piece ∈ middle, ∃ token, PolicyToken.parse piece = .ok token) ∨
      ∃ space subpath, Text.split ':' last = [space, subpath])

/-- A place without bars holds no alternative. -/
theorem not_smuggles_of_not_mem_bar {place : String} (absent : '|' ∉ place.toList) :
    ¬ Smuggles place := by
  rintro ⟨first, middle, last, cut, -⟩
  rw [Text.split_of_not_mem absent] at cut
  simp at cut

example : Smuggles "x:schema:*|y" := ⟨"x:schema:*", [], "y", rfl, .inl ⟨_, rfl⟩⟩

/-- The tokens of a held query grant are earned. -/
theorem earned_of_mem_tokens {key : PermissionKey} {grant : Grant} {place : String}
    {token : PolicyToken} (projects : Projects grants space subpath key grant)
    (isToken : token ∈ tokens owners space place key grant) : Earned owners grants space token := by
  obtain ⟨scope, isDictated, rfl⟩ := List.mem_map.mp isToken
  exact ⟨concretize_space projects.inSpace, key, grant, projects.held, projects.query,
    projects.inSpace, rfl, _, isDictated⟩

/-- The pieces that a written token is cut into at bars, when its subpath holds some. -/
theorem split_text_of_split (token : PolicyToken) {first last : String} {middle : List String}
    (plainSpace : Text.IsPlain token.key.space) (plainOwner : token.owner.IsPlain)
    (cut : Text.split '|' token.key.subpath = first :: (middle ++ [last])) :
    Text.split '|' token.text =
      ((token.key.space ++ ":") ++ first) :: (middle ++ [last ++ (":" ++ token.ending)]) := by
  rw [token.text_eq_append]
  refine Text.split_surrounded ?_ ?_ cut
  · simpa using plainSpace.2
  · simpa using PolicyToken.not_mem_bar_ending plainOwner

/-- What is read from a written token whose subpath holds no alternative is that token. -/
theorem eq_of_mem_split_text {token read : PolicyToken} {alternative : String}
    (plainSpace : Text.IsPlain token.key.space) (plainOwner : token.owner.IsPlain)
    (harmless : ¬ Smuggles token.key.subpath) (inText : alternative ∈ Text.split '|' token.text)
    (parsed : PolicyToken.parse alternative = .ok read) : read = token := by
  match cut : Text.split '|' token.key.subpath with
  | [] => exact absurd cut (Text.split_ne_nil _)
  | [whole] =>
      have noBar : '|' ∉ token.key.subpath.toList :=
        Text.eq_of_split_eq_singleton cut ▸
          Text.not_mem_of_mem_split (cut ▸ List.mem_singleton_self whole)
      rw [Text.split_of_not_mem (PolicyToken.not_mem_bar_text plainSpace noBar plainOwner),
        List.mem_singleton] at inText
      exact PolicyToken.eq_of_parse_text plainOwner.ne_star (inText ▸ parsed)
  | first :: second :: rest =>
      obtain ⟨middle, last, shape⟩ : ∃ middle last, second :: rest = middle ++ [last] :=
        ⟨_, _, (List.dropLast_append_getLast (List.cons_ne_nil second rest)).symm⟩
      rw [shape] at cut
      rw [split_text_of_split token plainSpace plainOwner cut] at inText
      refine absurd ⟨first, middle, last, cut, ?_⟩ harmless
      rcases List.mem_cons.mp inText with rfl | inText
      · exact .inl ⟨_, ((PolicyToken.parse_opening_iff plainSpace).mp parsed).2⟩
      · rcases List.mem_append.mp inText with isMiddle | isLast
        · exact .inr (.inl ⟨alternative, isMiddle, read, parsed⟩)
        · obtain rfl := List.mem_singleton.mp isLast
          obtain ⟨space, subpath, pieces, -⟩ :=
            (PolicyToken.parse_closing_iff token plainOwner).mp parsed
          exact .inr (.inr ⟨space, subpath, pieces⟩)

/-- Below a place that holds no alternative, every alternative that is read as a token is earned. -/
theorem earned_of_mem_filterAlternatives {alternative : String} {read : PolicyToken}
    (plainSpace : Text.IsPlain space)
    (plainOwners : ∀ owner ∈ owners, (OwnerScope.subject owner).IsPlain)
    (plainKeys : ∀ key ∈ grants, Text.IsPlain key.subpath) (harmless : ¬ Smuggles (place subpath))
    (isAlternative : alternative ∈ filterAlternatives (ofGrants format owners space subpath grants))
    (parsed : PolicyToken.parse alternative = .ok read) : Earned owners grants space read := by
  obtain ⟨key, grant, projects, token, isToken, inText⟩ :=
    mem_filterAlternatives_ofGrants.mp isAlternative
  suffices same : read = token by exact same ▸ earned_of_mem_tokens projects isToken
  obtain ⟨scope, isDictated, rfl⟩ := List.mem_map.mp isToken
  refine eq_of_mem_split_text ?_ (isPlain_of_mem_dictated plainOwners isDictated) ?_ inText parsed
  · rwa [concretize_space projects.inSpace]
  · by_cases bare : key.subpath = Subpath.everywhere
    · rwa [concretize_subpath_of_eq bare, normalize_place]
    · rw [concretize_subpath_of_ne bare]
      have isKey : key ∈ grants := Dict.mem_iff_exists_getElem?.mpr ⟨grant, projects.held⟩
      exact not_smuggles_of_not_mem_bar (plainKeys key isKey).2

/-! ## Admitted entries -/

/-- Whether filters show nothing that the grants exclude: every alternative that is read as a token
is earned, and an entry is matched only if it is of the type of a held query grant for the space
whose conditions hold of it. -/
structure KeepTo (filters owners : List String) (grants : Grants) (space : String) : Prop where
  earned : ∀ alternative ∈ filterAlternatives filters, ∀ token,
    PolicyToken.parse alternative = .ok token → Earned owners grants space token
  admitted : ∀ (entry : Entry) (stored : String),
    policiesMatch filters (entry.policies space stored) = true →
      ∃ (key : PermissionKey) (grant : Grant), grants[key]? = some grant ∧
        grant.allowsAction .query = true ∧ (key.space = space ∨ key.space = allSpaces) ∧
        key.type = entry.type ∧ (.isActive ∈ grant.conditions → entry.isActive = true) ∧
        (.own ∈ grant.conditions →
          entry.owner.text ∈ owners ∨ ∃ group ∈ entry.ownerGroup, group.text ∈ owners)

/-- Filters whose alternatives are earned match only what the grants allow. -/
theorem keepTo_of_earned {filters : List String} (plainSpace : Text.IsPlain space)
    (earned : ∀ alternative ∈ filterAlternatives filters, ∀ token,
      PolicyToken.parse alternative = .ok token → Earned owners grants space token) :
    KeepTo filters owners grants space := by
  refine ⟨earned, fun entry stored matched => ?_⟩
  obtain ⟨filter, isFilter, token, isToken, admits⟩ := policiesMatch_iff.mp matched
  obtain ⟨alternative, isAlternative, parsed⟩ := mem_readPolicies.mp isFilter
  obtain ⟨-, key, grant, held, query, inSpace, sameType, nested, isDictated⟩ :=
    earned alternative isAlternative filter parsed
  have plainEntry := entry.isPlain_placement plainSpace (by decide : Text.IsPlain "")
  have isStored : token ∈ (entry.placement space stored).tokens :=
    Placement.mem_tokens_of_mem_readPolicies plainEntry.owner plainEntry.ownerGroup isToken
  obtain ⟨active, own⟩ := conditions_of_admits isDictated isStored admits
  obtain ⟨-, -, -, -, storedType, -⟩ := Placement.mem_tokens.mp isStored
  simp only [PolicyToken.admits, Bool.and_eq_true, decide_eq_true_eq] at admits
  refine ⟨key, grant, held, query, inSpace, ?_, active, fun mustBeOwned => ?_⟩
  · rw [sameType, admits.1, storedType]
    rfl
  · refine (own mustBeOwned).2.imp_right ?_
    rintro ⟨text, isGroup, isOwner⟩
    obtain ⟨group, named, rfl⟩ := Option.map_eq_some_iff.mp isGroup
    exact ⟨group, named, isOwner⟩

/-! ## Readers of one type -/

namespace Reader

/-- All of one type may be queried, in every space. -/
def permission (type : ResourceType) : Permission where
  shortname := ⟨"reading", by decide⟩
  isActive := true
  subpaths := Std.ExtTreeMap.ofList [(allSpaces, [Subpath.everywhere])]
  types := Std.ExtTreeSet.ofList [type]
  actions := Std.ExtTreeSet.ofList [Action.query]
  conditions := ∅
  restrictedFields := []
  allowedValues := ∅

def user : User := ⟨⟨"ada", by decide⟩, true, [⟨"auditor", by decide⟩], []⟩

/-- A cluster that knows a single user, who may query one type. -/
def cluster (type : ResourceType) : Cluster :=
  let role : Role := ⟨⟨"auditor", by decide⟩, true, [⟨"reading", by decide⟩]⟩
  Cluster.standalone
    { Snapshot.empty with
      roles := Std.ExtTreeMap.ofList [("auditor", role)]
      permissions := Std.ExtTreeMap.ofList [("reading", permission type)] }
    (Std.ExtTreeMap.ofList [((⟨"management", "users", "ada", .user⟩ : Locator),
      (⟨true, user.toJson, []⟩ : StoredEntry))])

def granted (type : ResourceType) : Grants :=
  Resolution.grants ((cluster type).nodes 0).snapshot user (some "logged_in")

theorem known (type : ResourceType) :
    (Cluster.operate 0 (Principal.load { cacheSeconds := 0 } "ada") (cluster type)).1 =
      .ok ⟨some user, granted type⟩ := rfl

theorem toList_granted (type : ResourceType) :
    (granted type).toList =
      [(⟨allSpaces, Subpath.everywhere, type⟩, Grant.empty.absorb (permission type))] := rfl

theorem getElem?_granted {type : ResourceType} {key : PermissionKey} {grant : Grant} :
    (granted type)[key]? = some grant ↔
      key = ⟨allSpaces, Subpath.everywhere, type⟩ ∧ grant = Grant.empty.absorb (permission type) := by
  rw [← Std.ExtTreeMap.mem_toList_iff_getElem?_eq_some, toList_granted, List.mem_singleton,
    Prod.mk.injEq]

/-- The filters for the reader hold all that the queried place makes of one unrestricted token. -/
theorem mem_filterAlternatives {type : ResourceType} {alternative : String}
    (inText : alternative ∈ Text.split '|'
      (PolicyToken.unrestricted ⟨space, place subpath, type⟩).text) :
    alternative ∈ filterAlternatives (ofGrants format owners space subpath (granted type)) := by
  refine mem_filterAlternatives_ofGrants.mpr ⟨_, _,
    ⟨getElem?_granted.mpr ⟨rfl, rfl⟩, rfl, .inr rfl, fun path _ => ?_⟩, _,
    List.mem_map.mpr ⟨(.any, .unscoped), mem_dictated.mpr ?_, rfl⟩, ?_⟩
  · simp [Subpath.overlap, Subpath.isAncestorOrSelf]
  · simp [Grant.absorb, Grant.empty, permission]
  · simpa [PermissionKey.concretize, PermissionKey.coversAllSpaces, PolicyToken.unrestricted]
      using inText

theorem isPlain_of_mem_granted {type : ResourceType} {key : PermissionKey}
    (isKey : key ∈ granted type) : Text.IsPlain key.space ∧ Text.IsPlain key.subpath := by
  obtain ⟨grant, held⟩ := Dict.mem_iff_exists_getElem?.mp isKey
  obtain ⟨rfl, -⟩ := getElem?_granted.mp held
  exact (by decide : Text.IsPlain allSpaces ∧ Text.IsPlain Subpath.everywhere)

/-- Whatever filters that keep to the reader's grants hold is of the queried space and the type. -/
theorem eq_of_keepTo {type : ResourceType} {alternative : String} {read : PolicyToken}
    (kept : KeepTo (ofGrants format owners space subpath (granted type)) owners (granted type)
      space)
    (inText : alternative ∈ Text.split '|'
      (PolicyToken.unrestricted ⟨space, place subpath, type⟩).text)
    (parsed : PolicyToken.parse alternative = .ok read) :
    read.key.space = space ∧ read.key.type = type := by
  obtain ⟨sameSpace, key, grant, held, -, -, sameType, -⟩ :=
    kept.earned alternative (mem_filterAlternatives inText) read parsed
  obtain ⟨rfl, -⟩ := getElem?_granted.mp held
  exact ⟨sameSpace, sameType.symm⟩

end Reader

theorem exists_type_ne (type : ResourceType) : ∃ other : ResourceType, other ≠ type := by
  by_cases isContent : type = .content
  · exact ⟨.schema, by simp [isContent]⟩
  · exact ⟨.content, fun same => isContent same.symm⟩

theorem exists_space_ne (space : String) : ∃ other, Text.IsPlain other ∧ other ≠ space := by
  by_cases isAcme : space = "acme"
  · exact ⟨"umbrella", by decide, by simp [isAcme]⟩
  · exact ⟨"acme", by decide, fun same => isAcme same.symm⟩

/-- A place that holds an alternative shows some reader what the reader's grants exclude: another
type if the alternative takes the queried space, and else another space. -/
theorem not_smuggles_of_keepTo
    (kept : ∀ (type : ResourceType) (space : String), Text.IsPlain space →
      KeepTo (ofGrants format owners space subpath (Reader.granted type)) owners
        (Reader.granted type) space) : ¬ Smuggles (place subpath) := by
  rintro ⟨first, middle, last, cut, holds⟩
  have pieces (type : ResourceType) (space : String) (plainSpace : Text.IsPlain space) :=
    split_text_of_split (.unrestricted ⟨space, place subpath, type⟩) plainSpace
      OwnerScope.isPlain_unscoped cut
  rcases holds with ⟨token, opening⟩ | ⟨piece, isMiddle, token, alone⟩ | ⟨other, path, closing⟩
  · have plainSpace : Text.IsPlain "acme" := by decide
    have noSpace : token.key.space = "" :=
      ((PolicyToken.parse_opening_iff (by decide : Text.IsPlain "")).mp (by simpa using opening)).1
    have parsed : PolicyToken.parse (("acme" ++ ":") ++ first) =
        .ok ⟨{ token.key with space := "acme" }, token.active, token.owner⟩ :=
      (PolicyToken.parse_opening_iff plainSpace).mpr ⟨rfl, by rw [opening, ← noSpace]⟩
    obtain ⟨type, differs⟩ := exists_type_ne token.key.type
    refine differs (Reader.eq_of_keepTo (kept type "acme" plainSpace) ?_ parsed).2.symm
    rw [pieces type _ plainSpace]
    exact List.mem_cons_self ..
  · obtain ⟨space, plainSpace, differs⟩ := exists_space_ne token.key.space
    refine differs (Reader.eq_of_keepTo (kept .content space plainSpace) ?_ alone).1.symm
    rw [pieces _ _ plainSpace]
    simp [isMiddle]
  · obtain ⟨space, plainSpace, differs⟩ := exists_space_ne other
    have parsed := (PolicyToken.parse_closing_iff
      (.unrestricted ⟨space, place subpath, .content⟩) OwnerScope.isPlain_unscoped).mpr
        ⟨other, path, closing, rfl⟩
    refine differs (Reader.eq_of_keepTo (kept .content space plainSpace) ?_ parsed).1.symm
    rw [pieces _ _ plainSpace]
    simp

/-- Exactly the queries of places that hold no alternative of their own get filters that keep to the
user's grants, whoever asks in whatever plain space.  For every other place there is a user whose
filters show what the user's grants exclude. -/
theorem queryPolicies_keepTo_iff_not_smuggles (subpath : Option String) :
    (∀ (cluster : Cluster) (node : Nat) (settings : Settings) (name : Shortname) (user : User)
        (grants : Grants) (space : String) (filters : List String),
      (Cluster.operate node (Principal.load settings name.text) cluster).1 =
        .ok ⟨some user, grants⟩ →
      (∀ key ∈ grants, Text.IsPlain key.space ∧ Text.IsPlain key.subpath) → Text.IsPlain space →
      (Cluster.operate node (queryPolicies settings name.text space subpath) cluster).1 =
        .ok filters →
      KeepTo filters (user.groups.map Shortname.text ++ [name.text]) grants space) ↔
      ¬ Smuggles (place subpath) := by
  constructor
  · intro kept
    apply not_smuggles_of_keepTo
    intro type space plainSpace
    have ran := operate_queryPolicies space subpath (Prod.ext (Reader.known type) rfl)
    exact kept (Reader.cluster type) 0 { cacheSeconds := 0 } Reader.user.shortname Reader.user
      (Reader.granted type) space _ (Reader.known type)
      (fun key isKey => Reader.isPlain_of_mem_granted isKey) plainSpace (congrArg Prod.fst ran)
  · intro harmless cluster node settings name user grants space filters known plainKeys plainSpace
      ran
    rw [operate_queryPolicies space subpath (Prod.ext known rfl)] at ran
    obtain rfl := Except.ok.inj ran
    apply keepTo_of_earned plainSpace
    intro alternative isAlternative token parsed
    exact earned_of_mem_filterAlternatives plainSpace (isPlain_owners ⟨some user, grants⟩ name)
      (fun key isKey => (plainKeys key isKey).2) harmless isAlternative parsed

end QueryPolicies

end AccessControl
