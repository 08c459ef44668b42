import AccessControl.Proofs.Cluster.Attendance
import AccessControl.Proofs.Memory.Changes

/-!
# What entries grant

An entry can grant actions to users by itself.  Where no permissions are held nothing else grants, so
a request is allowed exactly if the entry at the addressed place grants the action.  A folder is the
exception: whatever place is addressed, the entry that counts is the folder of that name at the root
of the space.
-/

namespace AccessControl

/-- Whether an entry grants an action to a user by itself. -/
def Entry.Grants (entry : Entry) (user : String) (action : Action) : Prop :=
  ∃ item ∈ entry.acl, item.user.text = user ∧ action ∈ item.actions

theorem Entry.aclGrants_iff {entry : Entry} {user : String} {action : Action} :
    entry.aclGrants user action = true ↔ entry.Grants user action := by
  simp [Entry.aclGrants, Entry.Grants]

/-- A snapshot without permissions grants nothing. -/
theorem Resolution.grants_of_no_permissions {snapshot : Snapshot} {user : User}
    {defaultRole : Option String} (bare : snapshot.permissions = ∅) :
    Resolution.grants snapshot user defaultRole = ∅ := by
  have nothingHeld : Resolution.heldPermissions snapshot user defaultRole = [] := by
    simp [Resolution.heldPermissions, bare]
  rw [Resolution.grants, nothingHeld, List.foldl_nil]

namespace AccessRequest

variable {node : Nat} {cluster : Cluster} {settings : Settings} {snapshot : Snapshot}
  {table : EntryTable} {changes : List EntryTable.Change} {request : AccessRequest} {name : String}

/-- Where the entry stands whose grants count for a request that names it. -/
def grantingPlace (request : AccessRequest) : String :=
  if request.type = .folder then Subpath.root else Subpath.normalize request.subpath

theorem normalize_grantingPlace (request : AccessRequest) :
    Subpath.normalize request.grantingPlace = request.grantingPlace := by
  rw [grantingPlace]
  split
  · decide
  · exact Subpath.normalize_normalize request.subpath

/-- Nothing is allowed by grants where there are none. -/
theorem allowedBy_empty (request : AccessRequest) (user : Option User) :
    request.allowedBy ⟨user, ∅⟩ = false := by
  rw [Bool.eq_false_iff]
  intro allowed
  obtain ⟨key, grant, isConsulted, -⟩ := allowedBy_iff.mp allowed
  have held := (meets_of_mem_consulted isConsulted).2
  simp at held

/-- Without permissions and with a readable record of the user, the addressed entry decides. -/
theorem decided_of_no_permissions {found : Option User} (bare : snapshot.permissions = ∅)
    (readable : table.find User.decoder (Principal.locator settings request.user) = .ok found) :
    request.decided settings table snapshot = request.grantedByEntry table := by
  have refused : ∃ principal, Principal.found settings table snapshot request.user = .ok principal ∧
      request.allowedBy principal = false := by
    rw [Principal.found, readable]
    cases found with
    | none => exact ⟨_, rfl, request.allowedBy_empty none⟩
    | some user =>
        simp only [Resolution.grants_of_no_permissions bare]
        exact ⟨_, rfl, request.allowedBy_empty (some user)⟩
  obtain ⟨principal, loaded, refuses⟩ := refused
  rw [decided, loaded]
  cases request.grantedByEntry table with
  | error error => rfl
  | ok granted =>
      cases granted with
      | true => rfl
      | false =>
          change Except.ok (request.allowedBy principal) = Except.ok false
          rw [refuses]

/-- Reading the addressed entry from a table tells whether an entry that grants the action is stored
at the place that counts. -/
theorem grantedByEntry_after (addressed : request.entry = some name) :
    ∃ granted, request.grantedByEntry (.after changes) = .ok granted ∧
      (granted = true ↔ ∃ entry,
        EntryTable.IsStored changes ⟨request.space, request.grantingPlace, name, request.type⟩
          entry ∧ entry.Grants request.user request.action) := by
  have locates : request.aclLocator? =
      some ⟨request.space, request.grantingPlace, name, request.type⟩ := by
    rw [aclLocator?, addressed]
    rfl
  have normal : (⟨request.space, request.grantingPlace, name, request.type⟩ : Locator).normalize =
      ⟨request.space, request.grantingPlace, name, request.type⟩ := by
    rw [Locator.normalize, request.normalize_grantingPlace]
  obtain ⟨answer, found⟩ := (EntryTable.reachable_after changes).exists_find
    ⟨request.space, request.grantingPlace, name, request.type⟩
  have read : request.grantedByEntry (.after changes) =
      .ok (answer.elim false fun entry => entry.aclGrants request.user request.action) := by
    rw [grantedByEntry, locates]
    simp only [found, Except.map]
  refine ⟨_, read, ?_⟩
  simp only [← EntryTable.find_after_iff normal, found]
  cases answer with
  | none => simp
  | some entry => simp [Entry.aclGrants_iff]

/-- A node whose snapshot holds no permissions allows a request that names an entry if and only if
an entry that grants the action is stored at the place that counts for the request: at the addressed
place, or for a folder at the root of the space. -/
theorem checkAccess_allows_iff_stored_entry_grants
    (attends : cluster.Attends node settings (.after changes) snapshot request.user)
    (bare : snapshot.permissions = ∅) {found : Option User}
    (readable : (EntryTable.after changes).find User.decoder
      (Principal.locator settings request.user) = .ok found)
    (addressed : request.entry = some name) :
    ∃ allowed,
      (Cluster.operate node (checkAccess settings request) cluster).1 = .ok allowed ∧
      (allowed = true ↔ ∃ entry,
        EntryTable.IsStored changes
          ⟨request.space,
            if request.type = .folder then Subpath.root else Subpath.normalize request.subpath,
            name, request.type⟩ entry ∧
        ∃ item ∈ entry.acl, item.user.text = request.user ∧ request.action ∈ item.actions) := by
  rw [attends.checkAccess, decided_of_no_permissions bare readable]
  exact grantedByEntry_after addressed

/-! ## A blog -/

namespace Blog

/-- An entry that lets one user view it. -/
def document (type shortname user : String) : Json :=
  .obj [
    ("shortname", .str shortname), ("resource_type", .str type), ("owner_shortname", .str "erin"),
    ("acl", .arr [.obj [("user_shortname", .str user), ("allowed_actions", .arr [.str "view"])]])]

/-- A post that first grants to one user and then to another, and folders of one name below the root
and at the root, each of which grants to one user. -/
def history : List EntryTable.Change :=
  [.save "acme" "blog" (document "content" "hello" "alice"),
    .save "acme" "/blog/" (document "content" "hello" "bob"),
    .save "acme" "blog" (document "folder" "drafts" "bob"),
    .save "acme" "/" (document "folder" "drafts" "carol")]

def serving : Cluster := Cluster.standalone .empty (.after history)

/-- Asking to view an entry below the blog. -/
def viewing (user : String) (type : ResourceType) (entry : String) : AccessRequest :=
  { user := user, space := "acme", subpath := "blog", type := type, action := .view,
    entry := some entry }

/-- The entry that such a document describes. -/
def entry (type : ResourceType) (shortname user : Shortname) : Entry :=
  ⟨none, shortname, type, false, ⟨"erin", by decide⟩, none, [⟨user, Std.ExtTreeSet.ofList [Action.view]⟩]⟩

theorem attends_serving (user : String) :
    serving.Attends 0 {} (.after history) .empty user where
  current := rfl
  answers kind := by cases kind <;> rfl
  entries := rfl
  coherent user _ := by
    refine .inr ⟨∅, rfl, fun grants found => ?_⟩
    simp [GrantCache.get] at found

end Blog

theorem checkAccess_allows_iff_stored_entry_grants_blog :
    ∃ allowed,
      (Cluster.operate 0 (checkAccess {} (Blog.viewing "bob" .content "hello")) Blog.serving).1 =
        .ok allowed ∧
      (allowed = true ↔ ∃ entry,
        EntryTable.IsStored Blog.history ⟨"acme", "blog", "hello", .content⟩ entry ∧
        ∃ item ∈ entry.acl, item.user.text = "bob" ∧ .view ∈ item.actions) :=
  checkAccess_allows_iff_stored_entry_grants (Blog.attends_serving "bob") rfl
    (rfl : (EntryTable.after Blog.history).find User.decoder ⟨"management", "users", "bob", .user⟩ =
      .ok none) rfl

/-- A folder below the root is stored at the very place that is addressed and grants the action, but
the request is refused; and a request for a folder below the root is allowed by the folder at the
root. -/
theorem checkAccess_passes_over_folder_below_root :
    (∃ entry, EntryTable.IsStored Blog.history ⟨"acme", "blog", "drafts", .folder⟩ entry ∧
        entry.Grants "bob" .view) ∧
      (Cluster.operate 0 (checkAccess {} (Blog.viewing "bob" .folder "drafts")) Blog.serving).1 =
        .ok false ∧
      (∀ entry, EntryTable.IsStored Blog.history ⟨"acme", "blog", "drafts", .folder⟩ entry →
        ¬ entry.Grants "carol" .view) ∧
      (Cluster.operate 0 (checkAccess {} (Blog.viewing "carol" .folder "drafts")) Blog.serving).1 =
        .ok true := by
  have found : (EntryTable.after Blog.history).find Entry.decoder ⟨"acme", "blog", "drafts", .folder⟩ =
      .ok (some (Blog.entry .folder ⟨"drafts", by decide⟩ ⟨"bob", by decide⟩)) := rfl
  have stored := (EntryTable.find_after_iff (by decide)).mp found
  refine ⟨⟨_, stored, Entry.aclGrants_iff.mp (by decide)⟩, rfl, fun entry isStored => ?_, rfl⟩
  have same := (EntryTable.find_after_iff (by decide)).mpr isStored
  rw [found] at same
  obtain rfl := Option.some.inj (Except.ok.inj same)
  rw [← Entry.aclGrants_iff]
  decide

end AccessRequest

end AccessControl
