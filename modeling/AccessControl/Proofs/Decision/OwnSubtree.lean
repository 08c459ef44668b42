import AccessControl.Proofs.Decision.Inheritance
import AccessControl.Proofs.Resolution
import AccessControl.Proofs.Subpath.Resolve

/-!
# The user's own subtree

A permission may list a subpath with the user's name in it.  Whoever holds nothing else is kept to
the space and, below the name, to a subtree of it, unless the name turns the subpath into a wildcard:
names are taken as they are, and one of them may be the marker for every subpath.
-/

namespace AccessControl

open Cluster

/-- Whether a permission lists one subpath under one space. -/
def Permission.ListsOnly (permission : Permission) (space subpath : String) : Prop :=
  ∀ other : String, permission.subpaths[other]? = if other = space then some [subpath] else none

namespace Permission.ListsOnly

variable {permission : Permission} {space subpath user : String}
  (lists : permission.ListsOnly space subpath)
include lists

theorem contributes_iff {key : PermissionKey} :
    Resolution.Contributes permission user key ↔
      key.space = space ∧ key.subpath = Subpath.resolve subpath user ∧
        key.type ∈ permission.types := by
  constructor
  · rintro ⟨⟨subpaths, found, path, isSubpath, resolved⟩, isType⟩
    rw [lists key.space] at found
    split at found
    · next inSpace =>
      obtain rfl := Option.some.inj found
      obtain rfl := List.mem_singleton.mp isSubpath
      exact ⟨inSpace, resolved.symm, isType⟩
    · cases found
  · rintro ⟨inSpace, resolved, isType⟩
    refine ⟨⟨[subpath], ?_, subpath, List.mem_singleton_self subpath, resolved.symm⟩, isType⟩
    rw [lists, if_pos inSpace]

end Permission.ListsOnly

/-- A payload without attributes respects all restrictions. -/
theorem Grant.restrictionsMet_nil (grant : Grant) (action : Action) :
    grant.restrictionsMet action [] = true := by
  have bare : Attributes.flatten [] = ∅ := rfl
  have untouched : grant.touchesRestricted ∅ = false := by simp [touchesRestricted_eq_false_iff]
  have allowed : grant.valuesAllowed ∅ = true := by simp [valuesAllowed_iff]
  simp [restrictionsMet, bare, untouched, allowed]

namespace Resolution

variable {snapshot : Snapshot} {user : User} {defaultRole : Option String} {permission : Permission}
  {space subpath : String} {key : PermissionKey} {grant : Grant}

/-- A single permission with a single subpath gives grants under keys of one kind. -/
theorem mem_grants_iff_of_listsOnly
    (single : ∀ other, Holds snapshot user defaultRole other ↔ other = permission)
    (lists : permission.ListsOnly space subpath) :
    key ∈ grants snapshot user defaultRole ↔
      key.space = space ∧ key.subpath = Subpath.resolve subpath user.shortname.text ∧
        key.type ∈ permission.types := by
  rw [← lists.contributes_iff]
  constructor
  · intro isKey
    obtain ⟨grant, held⟩ := Dict.mem_iff_exists_getElem?.mp isKey
    obtain ⟨permissions, nonempty, same, -⟩ := exists_contributions held
    obtain ⟨other, member⟩ := List.exists_mem_of_ne_nil permissions nonempty
    obtain ⟨holds, contributes⟩ := (same other).mp member
    exact (single other).mp holds ▸ contributes
  · intro contributes
    exact Dict.mem_iff_exists_getElem?.mpr (exists_grant ((single permission).mpr rfl) contributes)

/-- What a single permission gives lets its actions pass where nothing is written and all conditions
are satisfied. -/
theorem isOk_evaluate_of_single {action : Action} {achieved : Bag Condition}
    (single : ∀ other, Holds snapshot user defaultRole other ↔ other = permission)
    (isAction : action ∈ permission.actions) (all : ∀ condition, condition ∈ achieved)
    (held : (grants snapshot user defaultRole)[key]? = some grant) :
    (grant.evaluate action achieved []).isOk = true := by
  obtain ⟨permissions, nonempty, same, rfl⟩ := exists_contributions held
  obtain ⟨other, member⟩ := List.exists_mem_of_ne_nil permissions nonempty
  have isPermission : other = permission := (single other).mp ((same other).mp member).1
  refine Grant.isOk_evaluate.mpr ⟨?_, ?_, Grant.restrictionsMet_nil _ _⟩
  · rw [Grant.allowsAction, ← Std.ExtTreeSet.mem_iff_contains, Grant.mem_actions_foldl]
    exact .inr ⟨other, member, isPermission ▸ isAction⟩
  · exact Grant.conditionsMet_iff.mpr fun _ condition _ => all condition

end Resolution

namespace AccessRequest

/-- A request of a user about an active resource of the user's own. -/
def forOwn (user space subpath : String) (type : ResourceType) (action : Action) : AccessRequest where
  user := user
  space := space
  subpath := subpath
  type := type
  action := action
  isActive := true
  owner := some user

variable {request : AccessRequest} {grants : Grants} {grant : Grant} {user space subpath : String}
  {type : ResourceType} {action : Action}

theorem place_forOwn {parts : List String}
    (areSegments : ∀ part ∈ parts, Subpath.IsSegment part) :
    (forOwn user space (Subpath.ofSegments parts) type action).place = parts := by
  by_cases isFolder : type = .folder <;>
    simp [place, Subpath.place, forOwn, Subpath.segments_ofSegments areSegments, isFolder]

theorem mem_walk_forOwn {parts : List String}
    (areSegments : ∀ part ∈ parts, Subpath.IsSegment part) :
    Subpath.ofSegments parts ∈
      (forOwn user space (Subpath.ofSegments parts) type action).walk := by
  rw [mem_walk, place_forOwn areSegments]
  exact ⟨parts, List.prefix_rfl, rfl⟩

theorem mem_achieved_forOwn {name : User} (condition : Condition) :
    condition ∈ (forOwn user space subpath type action).achieved (some name) := by
  rw [mem_achieved_iff]
  cases condition with
  | isActive => rfl
  | own => exact .inl rfl

/-- A grant for all subpaths of the request's space is consulted if none for all spaces is held. -/
theorem mem_consulted_of_globalAccess {path : String} (isPrefix : path ∈ request.walk)
    (noneInAll : ∀ key ∈ grants, key.space ≠ allSpaces)
    (held : grants[(⟨request.effectiveSpace, Subpath.globalAccess path, request.type⟩ :
      PermissionKey)]? = some grant) :
    (⟨request.effectiveSpace, Subpath.globalAccess path, request.type⟩, grant) ∈
      request.consulted grants := by
  refine mem_consulted_iff.mpr ⟨path, isPrefix, mem_consultedAt_iff.mpr (.inl ?_)⟩
  have notHeld : grants[(⟨allSpaces, path, request.type⟩ : PermissionKey)]? = none :=
    Std.ExtTreeMap.getElem?_eq_none fun isKey => noneInAll _ isKey rfl
  simp [wideKeys, held?, notHeld, held]

end AccessRequest

/-! ## Confinement -/

namespace Cluster.Serves

variable {node : Nat} {cluster : Cluster} {settings : Settings} {table : EntryTable}
  {snapshot : Snapshot} {user : User} {permission : Permission} {space subpath : String}
  (serves : cluster.Serves node settings table snapshot user.shortname.text user)
include serves

/-- Where the addressed entry does not grant it, the resolved grants decide on a request. -/
theorem checkAccess_of_declined {request : AccessRequest}
    (asks : request.user = user.shortname.text)
    (declined : request.grantedByEntry table = .ok false) :
    (operate node (checkAccess settings request) cluster).1 =
      .ok (request.allowedBy
        ⟨some user, Resolution.grants snapshot user settings.defaultRole⟩) := by
  have provides := serves.provides
  rw [← asks] at provides
  rw [provides.checkAccess declined, Bool.false_or]

variable
  (single : ∀ other, Resolution.Holds snapshot user settings.defaultRole other ↔ other = permission)
  (lists : permission.ListsOnly space subpath)
include single lists

/-- What is allowed is allowed under a key of the single permission. -/
theorem exists_meets_of_allowed {request : AccessRequest}
    (asks : request.user = user.shortname.text)
    (declined : request.grantedByEntry table = .ok false)
    (allowed : (operate node (checkAccess settings request) cluster).1 = .ok true) :
    ∃ key, request.Meets key ∧ key.space = space ∧
      key.subpath = Subpath.resolve subpath user.shortname.text := by
  rw [serves.checkAccess_of_declined asks declined] at allowed
  obtain ⟨key, grant, isConsulted, -⟩ := AccessRequest.allowedBy_iff.mp (Except.ok.inj allowed)
  obtain ⟨meets, held⟩ := AccessRequest.meets_of_mem_consulted isConsulted
  obtain ⟨inSpace, named, -⟩ := (Resolution.mem_grants_iff_of_listsOnly single lists).mp
    (Dict.mem_iff_exists_getElem?.mpr ⟨grant, held⟩)
  exact ⟨key, meets, inSpace, named⟩

/-- At every place where its subpath is looked up for all subpaths, the single permission allows its
actions on what belongs to the user. -/
theorem allowed_of_globalAccess {parts : List String} {type : ResourceType} {action : Action}
    (notAll : space ≠ allSpaces) (isType : type ∈ permission.types)
    (isAction : action ∈ permission.actions)
    (areSegments : ∀ part ∈ parts, Subpath.IsSegment part)
    (isGlobal : Subpath.globalAccess (Subpath.ofSegments parts) =
      Subpath.resolve subpath user.shortname.text) :
    (operate node (checkAccess settings
      (.forOwn user.shortname.text space (Subpath.ofSegments parts) type action)) cluster).1 =
        .ok true := by
  rw [serves.checkAccess_of_declined rfl rfl]
  have keyed (key : PermissionKey) :
      key ∈ Resolution.grants snapshot user settings.defaultRole ↔
        key.space = space ∧ key.subpath = Subpath.resolve subpath user.shortname.text ∧
          key.type ∈ permission.types :=
    Resolution.mem_grants_iff_of_listsOnly single lists
  obtain ⟨grant, held⟩ := Dict.mem_iff_exists_getElem?.mp
    ((keyed ⟨space, Subpath.globalAccess (Subpath.ofSegments parts), type⟩).mpr
      ⟨rfl, isGlobal, isType⟩)
  refine congrArg Except.ok (AccessRequest.allowedBy_iff.mpr ⟨_, grant,
    AccessRequest.mem_consulted_of_globalAccess (AccessRequest.mem_walk_forOwn areSegments) ?_ held, ?_⟩)
  · intro key isKey isAll
    exact notAll (((keyed key).mp isKey).1.symm.trans isAll)
  · exact Resolution.isOk_evaluate_of_single single isAction
      (fun condition => AccessRequest.mem_achieved_forOwn condition) held

end Cluster.Serves

/-- Whoever holds a single permission for a subpath of one space is allowed nothing in any other space
but what entries grant, and nothing outside the subtree that the subpath names for the user exactly if
it does not name a wildcard.  If the subpath has no marker for every subpath, only the name of a user
that is a part of this marker makes it one. -/
theorem Cluster.kept_to_own_subtree_iff_not_wildcard
    {node : Nat} {cluster : Cluster} {settings : Settings} {table : EntryTable}
    {snapshot : Snapshot} {user : User} {permission : Permission} {space subpath : String}
    (serves : cluster.Serves node settings table snapshot user.shortname.text user)
    (single : ∀ other, Resolution.Holds snapshot user settings.defaultRole other ↔ other = permission)
    (lists : permission.ListsOnly space subpath) (notAll : space ≠ allSpaces)
    (typed : ∃ type, type ∈ permission.types) (active : ∃ action, action ∈ permission.actions) :
    (∀ request : AccessRequest, request.user = user.shortname.text →
      request.grantedByEntry table = .ok false →
      (operate node (checkAccess settings request) cluster).1 = .ok true →
        request.effectiveSpace = space) ∧
    ((∀ request : AccessRequest, request.user = user.shortname.text →
        request.grantedByEntry table = .ok false →
        (operate node (checkAccess settings request) cluster).1 = .ok true →
          (Subpath.segments subpath).map (Text.replace Subpath.currentUser user.shortname.text) <+:
            Subpath.segments (Subpath.ofSegments request.place)) ↔
      ¬ Subpath.IsWildcard (Subpath.resolve subpath user.shortname.text)) ∧
    (Subpath.isWide subpath = false →
      Subpath.IsWildcard (Subpath.resolve subpath user.shortname.text) →
        user.shortname.text.toList <:+: Subpath.everywhere.toList) := by
  rw [← Subpath.segments_resolve]
  refine ⟨?_, ⟨?_, ?_⟩, Subpath.infix_of_isWildcard_resolve⟩
  · intro request asks declined allowed
    obtain ⟨key, meets, inSpace, -⟩ := serves.exists_meets_of_allowed single lists asks declined allowed
    rcases meets.inSpace with isSpace | isAll
    · exact isSpace.symm.trans inSpace
    · exact absurd (inSpace.symm.trans isAll) notAll
  · intro kept wildcard
    obtain ⟨type, isType⟩ := typed
    obtain ⟨action, isAction⟩ := active
    -- Something of the user's own that lies elsewhere is within reach of a wildcard.
    obtain ⟨parts, areSegments, isGlobal, outside⟩ := wildcard.exists_elsewhere
    have inside := kept _ rfl rfl
      (serves.allowed_of_globalAccess single lists notAll isType isAction areSegments isGlobal)
    rw [AccessRequest.place_forOwn areSegments, Subpath.segments_ofSegments areSegments] at inside
    exact outside inside
  · intro tame request asks declined allowed
    obtain ⟨key, meets, -, named⟩ := serves.exists_meets_of_allowed single lists asks declined allowed
    rw [← named] at tame ⊢
    exact meets.reaches.segments_prefix tame

/-! ## Homes -/

namespace Homes

/-- Leave to view what is in one's home. -/
def visiting : Permission where
  shortname := ⟨"visiting", by decide⟩
  isActive := true
  subpaths := Std.ExtTreeMap.ofList [("acme", ["homes/__current_user__"])]
  types := Std.ExtTreeSet.ofList [ResourceType.content]
  actions := Std.ExtTreeSet.ofList [Action.view]
  conditions := Std.ExtTreeSet.ofList [Condition.isActive]
  restrictedFields := []
  allowedValues := ∅

def tenant : Role := ⟨⟨"tenant", by decide⟩, true, [visiting.shortname]⟩

def snapshot : Snapshot :=
  { Snapshot.empty with
    roles := Std.ExtTreeMap.ofList [("tenant", tenant)]
    permissions := Std.ExtTreeMap.ofList [("visiting", visiting)] }

/-- A user with the name of the marker for every subpath. -/
def impostor : User := ⟨⟨"__all_subpaths__", by decide⟩, true, [tenant.shortname], []⟩

/-- The stored record of the user. -/
def table : EntryTable :=
  Std.ExtTreeMap.ofList [((⟨"management", "users", "__all_subpaths__", .user⟩ : Locator),
    (⟨true, impostor.toJson, []⟩ : StoredEntry))]

def serving : Cluster := Cluster.standalone snapshot table

theorem serves_serving :
    serving.Serves 0 {} table snapshot impostor.shortname.text impostor where
  current := rfl
  answers kind := by cases kind <;> rfl
  entries := rfl
  known := rfl
  coherent := by
    refine .inr ⟨∅, rfl, fun grants found => ?_⟩
    simp [GrantCache.get] at found

theorem holds_iff (permission : Permission) :
    Resolution.Holds snapshot impostor (some "logged_in") permission ↔ permission = visiting := by
  constructor
  · rintro ⟨-, -, -, known⟩
    exact (Prod.mk.inj (List.mem_singleton.mp (Dict.mem_of_getElem?_ofList known))).2
  · rintro rfl
    have known : snapshot.roles[tenant.shortname.text]? = some tenant := by simp [snapshot, tenant]
    exact .through (.direct (List.mem_singleton_self _)) known (List.mem_singleton_self _)
      (by simp [snapshot, visiting])

theorem listsOnly_visiting : visiting.ListsOnly "acme" "homes/__current_user__" := by
  intro other
  simp [visiting, Std.ExtTreeMap.getElem?_insert, Std.LawfulEqCmp.compare_eq_iff_eq,
    @eq_comm String "acme"]

/-- A request to view somebody else's home. -/
def visit : AccessRequest := .forOwn "__all_subpaths__" "acme" "homes/alice" .content .view

end Homes

/-- Under the name of the marker one is let into the homes of others. -/
theorem Cluster.kept_to_own_subtree_iff_not_wildcard_homes :
    (operate 0 (checkAccess {} Homes.visit) Homes.serving).1 = .ok true ∧
      ¬ ["homes", "__all_subpaths__"] <+:
        Subpath.segments (Subpath.ofSegments Homes.visit.place) ∧
      Subpath.IsWildcard (Subpath.resolve "homes/__current_user__" "__all_subpaths__") := by
  have allowed : (operate 0 (checkAccess {} Homes.visit) Homes.serving).1 = .ok true := by
    decide +kernel
  have outside : ¬ ["homes", "__all_subpaths__"] <+:
      Subpath.segments (Subpath.ofSegments Homes.visit.place) := by
    decide +kernel
  refine ⟨allowed, outside, ?_⟩
  obtain ⟨-, ⟨-, kept⟩, -⟩ := kept_to_own_subtree_iff_not_wildcard Homes.serves_serving
    Homes.holds_iff Homes.listsOnly_visiting (by decide)
    ⟨.content, by simp [Homes.visiting]⟩ ⟨.view, by simp [Homes.visiting]⟩
  by_contra tame
  exact outside (kept tame Homes.visit rfl rfl allowed)

end AccessControl
