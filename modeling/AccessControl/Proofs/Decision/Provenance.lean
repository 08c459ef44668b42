import AccessControl.Proofs.Cluster.Frame
import AccessControl.Proofs.Decision.Judgement
import AccessControl.Proofs.Principal
import AccessControl.Proofs.Resolution
import AccessControl.Proofs.Snapshot.Loaded

/-!
# Where an allowed request comes from

A request that is allowed is granted by the addressed entry itself, or by active permissions that the
user holds.  In the second case all permissions that contribute to one key on the way to the addressed
place have to agree: some of them lists the action, and none of them states a condition or a
restriction that the request does not meet.
-/

namespace AccessControl

namespace AccessRequest

/-- An active permission that a user holds and that contributes to a key. -/
structure Contributor (snapshot : Snapshot) (user : User) (defaultRole : Option String)
    (key : PermissionKey) (permission : Permission) : Prop where
  active : permission.isActive = true
  holds : Resolution.Holds snapshot user defaultRole permission
  contributes : Resolution.Contributes permission user.shortname.text key

/-- What permissions have to satisfy so that they allow a user's request together. -/
structure AllowedTogether (request : AccessRequest) (user : User)
    (contributor : Permission → Prop) : Prop where
  granted : ∃ permission, contributor permission ∧ request.action ∈ permission.actions
  achieved : request.action ≠ .create → request.action ≠ .query →
    ∀ permission, contributor permission →
      ∀ condition ∈ permission.conditions, request.Achieves user condition
  unrestricted : request.action = .create ∨ request.action = .update →
    ∀ permission, contributor permission → ∀ field ∈ permission.restrictedFields,
      ∀ path ∈ Attributes.flatten request.attributes,
        path ≠ field ∧ ∀ rest, path ≠ field ++ "." ++ rest
  valued : request.action = .create ∨ request.action = .update →
    ∀ permission, contributor permission → ∀ field ∈ permission.allowedValues,
      ∀ value ∈ (Attributes.flatten request.attributes)[field]?,
        AllowedValues.TogetherPermit
          (fun spec => ∃ other, contributor other ∧ other.allowedValues[field]? = some spec) value

variable {request : AccessRequest} {user : User}

/-- A grant that lets a request pass was folded from permissions that allow it together. -/
theorem allowedTogether_of_judge {permissions : List Permission} {contributor : Permission → Prop}
    (same : ∀ permission, permission ∈ permissions ↔ contributor permission)
    (passed : (request.judge (some user) (permissions.foldl Grant.absorb .empty)).isOk = true) :
    request.AllowedTogether user contributor := by
  obtain ⟨granted, achieved, respected⟩ := Grant.isOk_evaluate.mp passed
  rw [Grant.conditionsMet_iff] at achieved
  have checked (writes : request.action = .create ∨ request.action = .update) :
      (permissions.foldl Grant.absorb .empty).touchesRestricted
          (Attributes.flatten request.attributes) = false ∧
        (permissions.foldl Grant.absorb .empty).valuesAllowed
          (Attributes.flatten request.attributes) = true := by
    have checksFields : request.action.checksFields = true := by
      rcases writes with writes | writes <;> simp [writes, Action.checksFields]
    simpa [Grant.restrictionsMet, checksFields] using respected
  refine ⟨?_, ?_, ?_, ?_⟩
  · rw [Grant.allowsAction, ← Std.ExtTreeSet.mem_iff_contains, Grant.mem_actions_foldl] at granted
    rcases granted with fromNothing | ⟨permission, member, lists⟩
    · simp [Grant.empty] at fromNothing
    · exact ⟨permission, (same permission).mp member, lists⟩
  · intro notCreate notQuery permission contributes condition stated
    have judged : request.action.skipsConditions = false := by
      simp [Action.skipsConditions, notCreate, notQuery]
    refine mem_achieved_iff.mp (achieved judged condition (Grant.mem_conditions_foldl.mpr ?_))
    exact .inr ⟨permission, (same permission).mpr contributes, stated⟩
  · intro writes permission contributes field restricted path present
    have untouched := Grant.touchesRestricted_eq_false_iff.mp (checked writes).1 field
      (Grant.mem_restrictedFields_foldl.mpr
        (.inr ⟨permission, (same permission).mpr contributes, restricted⟩)) path present
    rw [← Bool.not_eq_true, Grant.isSameOrBelow_iff, not_or, not_exists] at untouched
    exact untouched
  · intro writes permission contributes field constrained value present
    have isConstrained :
        (permissions.foldl Grant.absorb .empty).allowedValues[field]?.isSome = true :=
      Grant.isSome_allowedValues_foldl.mpr (.inr ⟨permission, (same permission).mpr contributes,
        Std.ExtTreeMap.mem_iff_isSome_getElem?.mp constrained⟩)
    obtain ⟨spec, isSpec⟩ := Option.isSome_iff_exists.mp isConstrained
    have permitted := Grant.valuesAllowed_iff.mp (checked writes).2 field spec isSpec value present
    refine (Grant.isNamedBy_allowedValues_foldl ?_ ?_ spec isSpec).togetherPermit permitted
    · simp [Grant.empty]
    · intro other member otherSpec found
      exact ⟨other, (same other).mp member, found⟩

/-! ## The addressed entry -/

variable {node : Nat} {cluster : Cluster} {settings : Settings}

/-- Whether the addressed entry, when a node loads it, grants the action to the user. -/
def IsGrantedByEntry (request : AccessRequest) (node : Nat) (cluster : Cluster) : Prop :=
  ∃ locator entry, request.aclLocator? = some locator ∧
    (Cluster.call node (.findEntry locator) cluster).1 = .ok (some entry) ∧
    ∃ item ∈ entry.acl, item.user.text = request.user ∧ request.action ∈ item.actions

theorem isGrantedByEntry_of_aclAllows
    (allowed : (Cluster.operate node (aclAllows request) cluster).1 = .ok true) :
    request.IsGrantedByEntry node cluster := by
  unfold aclAllows at allowed
  cases addressed : request.aclLocator? with
  | none =>
      rw [addressed] at allowed
      cases allowed
  | some locator =>
      simp only [addressed] at allowed
      obtain ⟨found, after, loaded, answered⟩ := Cluster.exists_of_operate_bind allowed
      rw [Cluster.operate_call] at loaded
      cases found with
      | none => cases answered
      | some entry =>
          obtain ⟨item, isItem, grants⟩ := List.any_eq_true.mp (Except.ok.inj answered)
          rw [Bool.and_eq_true, decide_eq_true_eq, ← Std.ExtTreeSet.mem_iff_contains] at grants
          exact ⟨locator, entry, addressed, by rw [loaded], item, isItem, grants⟩

theorem nodes_aclAllows :
    (Cluster.operate node (aclAllows request) cluster).2.nodes = cluster.nodes := by
  unfold aclAllows
  cases request.aclLocator? with
  | none => rfl
  | some locator =>
      have unchanged : (Cluster.call node (.findEntry locator) cluster).2.nodes = cluster.nodes :=
        (Cluster.storeChange_call _ _ _).nodes
      cases loaded : Cluster.call node (.findEntry locator) cluster with
      | mk answer after =>
          rw [loaded] at unchanged
          rw [Cluster.operate_bind, Cluster.operate_call, loaded]
          cases answer with
          | error error => exact unchanged
          | ok found => cases found <;> exact unchanged

/-! ## The decision -/

/-- Whoever is not granted the action by the addressed entry is judged by the held grants. -/
theorem operate_checkAccess_of_load {afterEntry afterLoad : Cluster} {principal : Principal}
    (declined : Cluster.operate node (aclAllows request) cluster = (.ok false, afterEntry))
    (loaded : Cluster.operate node (Principal.load settings request.user) afterEntry =
      (.ok principal, afterLoad)) :
    (Cluster.operate node (checkAccess settings request) cluster).1 =
      .ok (request.allowedBy principal) := by
  rw [checkAccess, Cluster.operate_bind_of_ok declined, if_neg Bool.false_ne_true,
    Cluster.operate_bind_of_ok loaded]
  cases settings.debugDenials with
  | false => rfl
  | true =>
      rw [if_pos rfl, Cluster.operate_bind_of_ok (Cluster.operate_notes _)]
      rfl

/-- A request is allowed by the addressed entry or by the grants of whoever was loaded then. -/
theorem exists_of_checkAccess
    (allowed : (Cluster.operate node (checkAccess settings request) cluster).1 = .ok true) :
    request.IsGrantedByEntry node cluster ∨
      ∃ principal,
        (Cluster.operate node (Principal.load settings request.user)
          (Cluster.operate node (aclAllows request) cluster).2).1 = .ok principal ∧
        request.allowedBy principal = true := by
  obtain ⟨byEntry, afterEntry, entryRan, rest⟩ := Cluster.exists_of_operate_bind allowed
  cases byEntry with
  | true => exact .inl (isGrantedByEntry_of_aclAllows (by rw [entryRan]))
  | false =>
      rw [if_neg Bool.false_ne_true] at rest
      obtain ⟨principal, afterLoad, loadRan, -⟩ := Cluster.exists_of_operate_bind rest
      rw [operate_checkAccess_of_load entryRan loadRan] at allowed
      exact .inr ⟨principal, by rw [entryRan, loadRan], Except.ok.inj allowed⟩

/-- A node without a cache and with a loaded snapshot allows a request only if the addressed entry
grants the action, or if the user is known and there is a key on the way to the addressed place whose
contributing permissions, all of them active and held by the user, allow the request together. -/
theorem checkAccess_allows_only_with_permissions (loaded : (cluster.nodes node).snapshot.Loaded)
    (uncached : settings.cacheSeconds = 0)
    (allowed : (Cluster.operate node (checkAccess settings request) cluster).1 = .ok true) :
    request.IsGrantedByEntry node cluster ∨
      ∃ user key,
        (Cluster.call node (.findUser (Principal.locator settings request.user))
          (Cluster.operate node (aclAllows request) cluster).2).1 = .ok (some user) ∧
        request.Meets key ∧
        request.AllowedTogether user
          (Contributor (cluster.nodes node).snapshot user settings.defaultRole key) := by
  rcases exists_of_checkAccess allowed with byEntry | ⟨principal, loadRan, byGrants⟩
  · exact .inl byEntry
  · obtain ⟨key, grant, consulted, passed⟩ := allowedBy_iff.mp byGrants
    obtain ⟨meets, held⟩ := meets_of_mem_consulted consulted
    rcases Principal.exists_of_load uncached loadRan with rfl | ⟨user, found, rfl⟩
    · simp [Principal.unknown] at held
    · rw [nodes_aclAllows] at held
      obtain ⟨permissions, -, same, rfl⟩ := Resolution.exists_contributions held
      refine .inr ⟨user, key, found, meets, allowedTogether_of_judge ?_ passed⟩
      intro permission
      rw [same]
      constructor
      · rintro ⟨holds, contributes⟩
        obtain ⟨-, -, -, known⟩ := id holds
        exact ⟨loaded.allActive _ permission known, holds, contributes⟩
      · rintro ⟨-, holds, contributes⟩
        exact ⟨holds, contributes⟩

/-! ## A member of the staff -/

namespace Staff

/-- A permission to update what one owns below the blog, with a restricted field and a constrained
one. -/
def permission : Json :=
  .obj [
    ("shortname", .str "edit"), ("is_active", .bool true),
    ("subpaths", .obj [("acme", .arr [.str "blog/__all_subpaths__"])]),
    ("resource_types", .arr [.str "content"]), ("actions", .arr [.str "update"]),
    ("conditions", .arr [.str "own"]), ("restricted_fields", .arr [.str "status"]),
    ("allowed_fields_values", .obj [("tags", .arr [.str "news", .str "draft"])])]

/-- The permission is held through the role of a group. -/
def management : Cluster :=
  let role : Json :=
    .obj [("shortname", .str "editor"), ("is_active", .bool true), ("permissions", .arr [.str "edit"])]
  let group : Json :=
    .obj [("shortname", .str "staff"), ("is_active", .bool true), ("roles", .arr [.str "editor"])]
  let member : Json := .obj [("shortname", .str "alice"), ("groups", .arr [.str "staff"])]
  let users : EntryTable := Std.ExtTreeMap.ofList
    [((⟨"management", "users", "alice", .user⟩ : Locator), (⟨true, member, []⟩ : StoredEntry))]
  { Cluster.standalone .empty users with
    listings _ := Std.ExtTreeMap.ofList
      [("permissions", [(⟨"edit", permission⟩ : ListedEntry)]), ("roles", [⟨"editor", role⟩]),
        ("groups", [⟨"staff", group⟩])] }

/-- The cluster after its node reloaded. -/
def reloaded : Except ServiceError Snapshot × Cluster :=
  Cluster.operate 0 (reload "management") management

/-- An update of what belongs to the group. -/
def update : AccessRequest where
  user := "alice"
  space := "acme"
  subpath := "blog/2024"
  type := .content
  action := .update
  owner := some "bob"
  ownerGroup := some "staff"
  attributes := [("tags", .arr [.str "news"]), ("statuses", .str "open")]
  entry := some "post"

end Staff

theorem checkAccess_allows_only_with_permissions_staff :
    Staff.update.IsGrantedByEntry 0 Staff.reloaded.2 ∨
      ∃ user key,
        (Cluster.call 0 (.findUser ⟨"management", "users", "alice", .user⟩)
          (Cluster.operate 0 (aclAllows Staff.update) Staff.reloaded.2).2).1 = .ok (some user) ∧
        Staff.update.Meets key ∧
        Staff.update.AllowedTogether user
          (Contributor (Staff.reloaded.2.nodes 0).snapshot user (some "logged_in") key) := by
  have loaded : Staff.reloaded.1 = .ok (Staff.reloaded.2.nodes 0).snapshot := rfl
  have uncached : ({ cacheSeconds := 0 } : Settings).cacheSeconds = 0 := rfl
  exact checkAccess_allows_only_with_permissions (.reloaded loaded) uncached rfl

end AccessRequest

end AccessControl
