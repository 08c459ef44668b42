import AccessControl.Proofs.Cluster.Provision
import AccessControl.Proofs.Memory.Changes
import AccessControl.Proofs.QueryPolicies.Selection
import Mathlib.Data.List.Sort

/-!
# Grants elsewhere

Grants for one type and space have no effect on another.  Two nodes that find the same record of a
user in the same table may have different grants for the user.  As long as these agree on the keys of
a type in a space and in all spaces, both nodes decide alike about everything of the type in the
space, and a search in the space shows the same entries of the type with the filters of either.  A
decision on one request depends on even less, the keys on the way to the addressed place.
-/

namespace AccessControl

/-- Two maps of grants that hold the same under certain keys. -/
def Grants.AgreeOn (keys : PermissionKey → Prop) (first second : Grants) : Prop :=
  ∀ key, keys key → first[key]? = second[key]?

/-- Whether a key is of a type, and in a space or all spaces. -/
structure PermissionKey.Concerns (type : ResourceType) (space : String) (key : PermissionKey) :
    Prop where
  type : key.type = type
  inSpace : key.space = space ∨ key.space = allSpaces

variable {keys fewer : PermissionKey → Prop} {first second : Grants} {type : ResourceType}
  {space : String}

namespace Grants.AgreeOn

theorem symm (agree : AgreeOn keys first second) : AgreeOn keys second first :=
  fun key isKey => (agree key isKey).symm

theorem mono (agree : AgreeOn keys first second) (among : ∀ key, fewer key → keys key) :
    AgreeOn fewer first second :=
  fun key isKey => agree key (among key isKey)

end Grants.AgreeOn

/-! ## Decisions -/

namespace AccessRequest

variable {request : AccessRequest}

theorem Meets.concerns {key : PermissionKey} (meets : request.Meets key) :
    key.Concerns request.type request.effectiveSpace :=
  ⟨meets.type, meets.inSpace⟩

theorem held?_congr {key : PermissionKey} (same : first[key]? = second[key]?) :
    held? first key = held? second key := by
  rw [held?, held?, same]

/-- The first held grant depends on the keys that are asked for. -/
theorem findSome?_held?_congr {asked : List PermissionKey}
    (agree : Grants.AgreeOn (· ∈ asked) first second) :
    asked.findSome? (held? first) = asked.findSome? (held? second) := by
  induction asked with
  | nil => rfl
  | cons key rest ih =>
      have sameFirst := held?_congr (agree key List.mem_cons_self)
      have sameRest := ih (agree.mono fun _ => List.mem_cons_of_mem key)
      rw [List.findSome?_cons, List.findSome?_cons, sameFirst, sameRest]

/-- The same grants are consulted if the maps agree on the way to the addressed place. -/
theorem consulted_congr (agree : Grants.AgreeOn request.Meets first second) :
    request.consulted first = request.consulted second := by
  refine List.flatMap_congr fun path isPrefix => ?_
  have sameWide := findSome?_held?_congr
    (agree.mono fun _ isWide => meets_of_mem_wideKeys isPrefix isWide)
  have sameLiteral := held?_congr (agree _ (meets_of_mem_walk isPrefix))
  rw [consultedAt, consultedAt, sameWide, sameLiteral]

theorem allowedBy_congr (agree : Grants.AgreeOn request.Meets first second) (user : Option User) :
    request.allowedBy ⟨user, first⟩ = request.allowedBy ⟨user, second⟩ := by
  simp only [allowedBy, consulted_congr agree]

end AccessRequest

/-! ## Searches -/

namespace QueryPolicies

variable {owners : List String} {subpath : Option String} {format : FilterFormat}

/-- A filter of a type comes from a grant under a key of the type. -/
theorem IsFilter.of_agree {filter : PolicyToken}
    (agree : Grants.AgreeOn (PermissionKey.Concerns filter.key.type space) first second)
    (isFilter : IsFilter owners first space subpath filter) :
    IsFilter owners second space subpath filter := by
  obtain ⟨key, grant, projects, isToken⟩ := isFilter
  have sameType : key.type = filter.key.type := by
    obtain ⟨scope, -, rfl⟩ := List.mem_map.mp isToken
    rfl
  have held : second[key]? = some grant :=
    (agree key ⟨sameType, projects.inSpace⟩).symm.trans projects.held
  exact ⟨key, grant, ⟨held, projects.query, projects.inSpace, projects.near⟩, isToken⟩

/-- Policies of one type are matched by the filters of both maps or of none, whatever other types the
filters are for. -/
theorem policiesMatch_of_agree {stored : List String}
    (ofType : ∀ token ∈ readPolicies stored, token.key.type = type)
    (plainSpace : Text.IsPlain space)
    (plainOwners : ∀ owner ∈ owners, (OwnerScope.subject owner).IsPlain)
    (plainFirst : ∀ key ∈ first, Text.IsPlain key.subpath)
    (plainSecond : ∀ key ∈ second, Text.IsPlain key.subpath)
    (plainPath : ∀ path ∈ subpath, Text.IsPlain path)
    (agree : Grants.AgreeOn (PermissionKey.Concerns type space) first second)
    (matched : policiesMatch (ofGrants format owners space subpath first) stored = true) :
    policiesMatch (ofGrants format owners space subpath second) stored = true := by
  obtain ⟨filter, isRead, token, isStored, admits⟩ := policiesMatch_iff.mp matched
  rw [(writtenAs_ofGrants plainSpace plainOwners plainFirst plainPath).mem_readPolicies] at isRead
  have sameKey : filter.key = token.key := by
    simp only [PolicyToken.admits, Bool.and_eq_true, decide_eq_true_eq] at admits
    exact admits.1
  have sameType : filter.key.type = type :=
    (congrArg PermissionKey.type sameKey).trans (ofType token isStored)
  have isFilter : IsFilter owners second space subpath filter :=
    isRead.of_agree (sameType ▸ agree)
  exact policiesMatch_iff.mpr ⟨filter,
    (writtenAs_ofGrants plainSpace plainOwners plainSecond plainPath).mem_readPolicies.mpr isFilter,
    token, isStored, admits⟩

end QueryPolicies

namespace EntryTable

variable {table : EntryTable} {locator : Locator} {stored : StoredEntry} {entry : Entry}
  {filters others : List String}

/-- What is read from stored policies is of the entry's type. -/
theorem Stamped.type_of_mem_readPolicies {token : PolicyToken}
    (stamped : Stamped locator stored entry)
    (isRead : token ∈ readPolicies stored.policies) : token.key.type = locator.type := by
  rw [stamped.policies] at isRead
  have isToken : token ∈ (entry.placement locator.space locator.subpath).tokens :=
    Placement.mem_tokens_of_mem_readPolicies (OwnerScope.isPlain_subject entry.owner)
      (entry.isPlain_groupScope _ _) isRead
  obtain ⟨-, -, -, -, sameType, -⟩ := Placement.mem_tokens.mp isToken
  exact sameType.trans stamped.type

/-- A search shows the same entries of a type if the filters match the same of what is stored for
entries of the type. -/
theorem filter_search_congr
    (same : ∀ (locator : Locator) (stored : StoredEntry), table[locator]? = some stored →
      locator.space = space → locator.type = type →
        (policiesMatch filters stored.policies = true ↔
          policiesMatch others stored.policies = true)) :
    (table.search space filters).filter (·.type = type) =
      (table.search space others).filter (·.type = type) := by
  have ordered (filters : List String) :
      ((table.search space filters).filter (·.type = type)).Pairwise fun first second =>
        compare first second = .lt :=
    List.Pairwise.filter _ ordered_search
  have : Std.Irrefl fun first second : Locator => compare first second = .lt :=
    ⟨fun locator less => by simp at less⟩
  have : Std.Antisymm fun first second : Locator => compare first second = .lt :=
    ⟨fun first second less greater => by simp [Std.OrientedCmp.gt_of_lt less] at greater⟩
  refine (ordered filters).eq_of_mem_iff (ordered others) fun locator => ?_
  simp only [List.mem_filter, mem_search_iff, decide_eq_true_eq]
  refine and_congr_left fun ofType => and_congr_right fun inSpace => exists_congr fun stored => ?_
  exact and_congr_right fun held => same locator stored held inSpace ofType

end EntryTable

variable {node other : Nat} {cluster peer : Cluster} {settings : Settings} {table : EntryTable}
  {name : String} {found : Option User}

namespace Cluster.Provides

/-- Two nodes that find the same record decide a request alike if their grants agree on the way to the
addressed place. -/
theorem checkAccess_congr {request : AccessRequest} (reachable : table.Reachable)
    (provides : cluster.Provides node settings table request.user found first)
    (peerProvides : peer.Provides other settings table request.user found second)
    (agree : Grants.AgreeOn request.Meets first second) :
    ∃ allowed, (operate node (AccessControl.checkAccess settings request) cluster).1 = .ok allowed ∧
      (operate other (AccessControl.checkAccess settings request) peer).1 = .ok allowed := by
  obtain ⟨byEntry, read⟩ := reachable.exists_grantedByEntry request
  exact ⟨_, provides.checkAccess read,
    AccessRequest.allowedBy_congr agree found ▸ peerProvides.checkAccess read⟩

/-- Whoever has a record in a table of saved entries has a valid name, as all groups do. -/
theorem isPlain_owners {user : User} (reachable : table.Reachable)
    (provides : cluster.Provides node settings table name (some user) first) :
    ∀ owner ∈ QueryPolicies.owners ⟨some user, first⟩ name, (OwnerScope.subject owner).IsPlain := by
  obtain ⟨valid, rfl⟩ : ∃ valid : Shortname, name = valid.text :=
    reachable.exists_name_of_find provides.record
  exact QueryPolicies.isPlain_owners _ valid

/-- Searches with the filters of two nodes that find the same record show the same entries of a type
if the nodes' grants agree on the keys of the type. -/
theorem search_congr {subpath : Option String} (reachable : table.Reachable)
    (provides : cluster.Provides node settings table name found first)
    (peerProvides : peer.Provides other settings table name found second)
    (plainSpace : Text.IsPlain space) (plainPath : ∀ path ∈ subpath, Text.IsPlain path)
    (plainFirst : ∀ key ∈ first, Text.IsPlain key.subpath)
    (plainSecond : ∀ key ∈ second, Text.IsPlain key.subpath)
    (agree : Grants.AgreeOn (PermissionKey.Concerns type space) first second) :
    ∃ filters others,
      (operate node (queryPolicies settings name space subpath) cluster).1 = .ok filters ∧
      (operate other (queryPolicies settings name space subpath) peer).1 = .ok others ∧
      (table.search space filters).filter (·.type = type) =
        (table.search space others).filter (·.type = type) := by
  obtain ⟨after, loaded⟩ := provides.load
  obtain ⟨peerAfter, peerLoaded⟩ := peerProvides.load
  refine ⟨_, _, congrArg Prod.fst (QueryPolicies.operate_queryPolicies space subpath loaded),
    congrArg Prod.fst (QueryPolicies.operate_queryPolicies space subpath peerLoaded), ?_⟩
  cases found with
  | none =>
      -- Without a record there are no grants, so both searches are the same.
      obtain rfl := provides.eq_empty
      obtain rfl := peerProvides.eq_empty
      rfl
  | some user =>
      have plainOwners := provides.isPlain_owners reachable
      refine EntryTable.filter_search_congr fun locator stored held _ ofType => ?_
      obtain ⟨entry, stamped⟩ := reachable.stamped held
      have typed : ∀ token ∈ readPolicies stored.policies, token.key.type = type := by
        intro token isRead
        exact (stamped.type_of_mem_readPolicies isRead).trans ofType
      exact ⟨QueryPolicies.policiesMatch_of_agree typed plainSpace plainOwners plainFirst plainSecond
          plainPath agree,
        QueryPolicies.policiesMatch_of_agree typed plainSpace plainOwners plainSecond plainFirst
          plainPath agree.symm⟩

end Cluster.Provides

/-! ## Two nodes -/

/-- Two nodes find the same record of a user in the same table.  They decide a request alike if the
user's grants agree on the way to the addressed place.  If the grants agree on all keys of a type that
lie in a space or all spaces, then the nodes decide alike about everything of the type in the space,
and searches there with the filters of either node show the same entries of the type. -/
theorem Cluster.grants_elsewhere_have_no_effect (reachable : table.Reachable)
    (provides : cluster.Provides node settings table name found first)
    (peerProvides : peer.Provides other settings table name found second) :
    (∀ request : AccessRequest, request.user = name → Grants.AgreeOn request.Meets first second →
      ∃ allowed, (operate node (checkAccess settings request) cluster).1 = .ok allowed ∧
        (operate other (checkAccess settings request) peer).1 = .ok allowed) ∧
    ∀ (type : ResourceType) (space : String),
      Grants.AgreeOn (PermissionKey.Concerns type space) first second →
      (∀ request : AccessRequest, request.user = name → request.type = type →
        request.effectiveSpace = space →
        ∃ allowed, (operate node (checkAccess settings request) cluster).1 = .ok allowed ∧
          (operate other (checkAccess settings request) peer).1 = .ok allowed) ∧
      ∀ subpath : Option String, Text.IsPlain space → (∀ path ∈ subpath, Text.IsPlain path) →
        (∀ key ∈ first, Text.IsPlain key.subpath) → (∀ key ∈ second, Text.IsPlain key.subpath) →
        ∃ filters others,
          (operate node (queryPolicies settings name space subpath) cluster).1 = .ok filters ∧
          (operate other (queryPolicies settings name space subpath) peer).1 = .ok others ∧
          (table.search space filters).filter (·.type = type) =
            (table.search space others).filter (·.type = type) := by
  refine ⟨?_, fun type space agree => ⟨?_, ?_⟩⟩
  · rintro request rfl agree
    exact provides.checkAccess_congr reachable peerProvides agree
  · rintro request rfl rfl rfl
    exact provides.checkAccess_congr reachable peerProvides (agree.mono fun _ meets => meets.concerns)
  · intro subpath plainSpace plainPath plainFirst plainSecond
    exact provides.search_congr reachable peerProvides plainSpace plainPath plainFirst plainSecond
      agree

/-! ## A bureau -/

namespace Bureau

/-- A member of the staff. -/
def editor : User := ⟨⟨"dana", by decide⟩, true, [], []⟩

/-- The editor's record and a post. -/
def history : List EntryTable.Change :=
  [.save "management" "users" (.obj [("shortname", .str "dana"), ("resource_type", .str "user"),
      ("is_active", .bool true), ("owner_shortname", .str "dana")]),
    .save "acme" "blog" (.obj [("shortname", .str "hello"), ("resource_type", .str "content"),
      ("owner_shortname", .str "erin")])]

/-- The cached grants of the editor. -/
def cache (grants : Grants) : GrantCache :=
  (∅ : GrantCache).insert ⟨Snapshot.empty.revision, "dana"⟩ grants

/-- A cluster whose nodes have these grants for the editor. -/
def holding (grants : Grants) : Cluster :=
  { Cluster.standalone .empty (.after history) with
    cacheStores := fun _ => { store := .memory (cache grants) } }

/-- Any grants can be those of the editor. -/
theorem provides_holding (grants : Grants) :
    (holding grants).Provides 0 {} (.after history) "dana" (some editor) grants where
  reads := ⟨fun kind => by cases kind <;> rfl, rfl⟩
  record := rfl
  has := by
    have isCached : (cache grants).get Snapshot.empty.revision "dana" = some grants :=
      Std.ExtTreeMap.getElem?_insert_self
    have has : (holding grants).HasGrants 0 {} "dana" (some editor)
        (((cache grants).get Snapshot.empty.revision "dana").getD
          (Resolution.grants .empty editor (some "logged_in"))) :=
      .cached (by decide) rfl
    rwa [isCached] at has

/-- Leave to find and to view. -/
def reading : Grant := ⟨Std.ExtTreeSet.ofList [Action.query, Action.view], ∅, [], ∅⟩

/-- Grants for the posts of a blog. -/
def posts : Grants := (∅ : Grants).insert ⟨"acme", "blog", .content⟩ reading

/-- The same, with grants for the folders of the blog and for the posts of another space. -/
def everything : Grants :=
  (posts.insert ⟨"acme", "blog", .folder⟩ reading).insert
    ⟨"umbrella", Subpath.everywhere, .content⟩ reading

theorem agreeOn_posts :
    Grants.AgreeOn (PermissionKey.Concerns .content "acme") posts everything := by
  intro key concerns
  have notUmbrella : (⟨"umbrella", Subpath.everywhere, .content⟩ : PermissionKey) ≠ key := by
    rintro rfl
    exact absurd concerns.inSpace (by decide)
  have notFolder : (⟨"acme", "blog", .folder⟩ : PermissionKey) ≠ key := by
    rintro rfl
    exact absurd concerns.type (by decide)
  simp only [everything, Std.ExtTreeMap.getElem?_insert, Std.LawfulEqCmp.compare_eq_iff_eq,
    notUmbrella, notFolder, if_false]

theorem isPlain_of_mem_everything {key : PermissionKey} (isKey : key ∈ everything) :
    Text.IsPlain key.subpath := by
  simp only [everything, posts, Std.ExtTreeMap.mem_insert, Std.LawfulEqCmp.compare_eq_iff_eq] at isKey
  rcases isKey with rfl | rfl | rfl | isKey
  · decide
  · decide
  · decide
  · simp at isKey

theorem isPlain_of_mem_posts {key : PermissionKey} (isKey : key ∈ posts) :
    Text.IsPlain key.subpath := by
  refine isPlain_of_mem_everything ?_
  simp [everything, isKey]

/-- A request to view the post. -/
def viewing : AccessRequest :=
  { user := "dana", space := "acme", subpath := "blog", type := .content, action := .view,
    entry := some "hello" }

end Bureau

theorem Cluster.grants_elsewhere_have_no_effect_bureau :
    (∃ key : PermissionKey, Bureau.posts[key]? = none ∧ Bureau.everything[key]? = some Bureau.reading) ∧
    (∃ allowed,
      (operate 0 (checkAccess {} Bureau.viewing) (Bureau.holding Bureau.posts)).1 = .ok allowed ∧
      (operate 0 (checkAccess {} Bureau.viewing) (Bureau.holding Bureau.everything)).1 =
        .ok allowed) ∧
    ∃ filters others,
      (operate 0 (queryPolicies {} "dana" "acme" (some "blog")) (Bureau.holding Bureau.posts)).1 =
        .ok filters ∧
      (operate 0 (queryPolicies {} "dana" "acme" (some "blog"))
        (Bureau.holding Bureau.everything)).1 = .ok others ∧
      ((EntryTable.after Bureau.history).search "acme" filters).filter (·.type = .content) =
        ((EntryTable.after Bureau.history).search "acme" others).filter (·.type = .content) := by
  obtain ⟨-, elsewhere⟩ := grants_elsewhere_have_no_effect
    (EntryTable.reachable_after Bureau.history) (Bureau.provides_holding Bureau.posts)
    (Bureau.provides_holding Bureau.everything)
  obtain ⟨decided, searched⟩ := elsewhere .content "acme" Bureau.agreeOn_posts
  refine ⟨⟨⟨"umbrella", Subpath.everywhere, .content⟩, rfl, rfl⟩, decided Bureau.viewing rfl rfl rfl,
    ?_⟩
  exact searched (some "blog") (by decide) (by rintro path ⟨rfl⟩; decide)
    (fun _ => Bureau.isPlain_of_mem_posts) (fun _ => Bureau.isPlain_of_mem_everything)

end AccessControl
