import AccessControl.Proofs.Cluster.Operation
import AccessControl.Proofs.QueryPolicies.Coverage

/-!
# Queries of known users

The filters that a node answers to a known user's query select, below the queried place, exactly the
entries that one of the user's grants covers.
-/

namespace AccessControl

namespace QueryPolicies

variable {cluster : Cluster} {node : Nat} {settings : Settings} {space stored : String}
  {subpath : Option String}

/-- The filters for a principal that was looked up are those of its grants. -/
theorem operate_queryPolicies (space : String) (subpath : Option String) {name : String}
    {principal : Principal} {after : Cluster}
    (known : Cluster.operate node (Principal.load settings name) cluster = (.ok principal, after)) :
    Cluster.operate node (queryPolicies settings name space subpath) cluster =
      (.ok (ofGrants settings.filterFormat (owners principal name) space subpath principal.grants),
        after) := by
  rw [queryPolicies, Cluster.operate_bind_of_ok known, Cluster.operate_pure]

theorem isPlain_owners (principal : Principal) (name : Shortname) :
    ∀ owner ∈ owners principal name.text, (OwnerScope.subject owner).IsPlain := by
  intro owner isOwner
  rcases List.mem_append.mp isOwner with isGroup | isUser
  · obtain ⟨group, -, rfl⟩ := List.mem_map.mp isGroup
    exact OwnerScope.isPlain_subject group
  · exact List.mem_singleton.mp isUser ▸ OwnerScope.isPlain_subject name

/-- A known user's query in a space, everywhere or above an unmarked entry, is answered with filters
that match the entry's policies exactly if one of the user's grants covers the entry.  Spaces,
subpaths and keys are free of the characters that delimit tokens and filters. -/
theorem queryPolicies_match_iff_covered (name : Shortname) (user : User) {grants : Grants}
    (entry : Entry)
    (known : (Cluster.operate node (Principal.load settings name.text) cluster).1 =
      .ok ⟨some user, grants⟩)
    (plainSpace : Text.IsPlain space) (plainStored : Text.IsPlain stored)
    (plainKeys : ∀ key ∈ grants, Text.IsPlain key.subpath)
    (plainQuery : ∀ path ∈ subpath, Text.IsPlain path)
    (unmarked : ∀ part ∈ (entry.placement space stored).segments, Subpath.isWide part = false)
    (above : ∀ path ∈ subpath,
      Subpath.normalize path ∈ (entry.placement space stored).walk) :
    ∃ filters,
      (Cluster.operate node (queryPolicies settings name.text space subpath) cluster).1 =
        .ok filters ∧
      (policiesMatch filters (entry.policies space stored) = true ↔
        ∃ key grant, grants[key]? = some grant ∧
          Covers (user.groups.map Shortname.text ++ [name.text]) key grant
            (entry.placement space stored)) := by
  have plainEntry := entry.isPlain_placement plainSpace plainStored
  have reached : place subpath ∈ (entry.placement space stored).walk := by
    cases subpath with
    | none => exact Subpath.root_mem_initials _
    | some path => exact above path rfl
  have ran : Cluster.operate node (Principal.load settings name.text) cluster =
      (.ok ⟨some user, grants⟩,
        (Cluster.operate node (Principal.load settings name.text) cluster).2) :=
    Prod.ext known rfl
  have plainOwners := isPlain_owners ⟨some user, grants⟩ name
  refine ⟨ofGrants settings.filterFormat (owners ⟨some user, grants⟩ name.text) space subpath grants,
    congrArg Prod.fst (operate_queryPolicies space subpath ran), ?_⟩
  constructor
  · intro matched
    obtain ⟨key, grant, projects, covers⟩ := exists_covers_of_policiesMatch
      (entry.placement space stored) plainEntry plainOwners plainKeys plainQuery matched
    exact ⟨key, grant, projects.held, covers⟩
  · rintro ⟨key, grant, held, covers⟩
    exact policiesMatch_of_covers (entry.placement space stored) plainEntry plainOwners plainKeys
      plainQuery unmarked reached held covers

/-! ## A reader of drafts -/

namespace Drafts

/-- A member of the staff, who holds one role. -/
def reader : User := ⟨⟨"alice", by decide⟩, true, [⟨"editor", by decide⟩], [⟨"staff", by decide⟩]⟩

/-- Active drafts of every year, and all that belongs to the reader. -/
def snapshot : Snapshot :=
  let reading : Permission :=
    { shortname := ⟨"drafts", by decide⟩
      isActive := true
      subpaths := Std.ExtTreeMap.ofList [("acme", ["blog/__all_subpaths__/drafts"])]
      types := Std.ExtTreeSet.ofList [ResourceType.folder]
      actions := Std.ExtTreeSet.ofList [Action.query, Action.view]
      conditions := Std.ExtTreeSet.ofList [Condition.isActive]
      restrictedFields := []
      allowedValues := ∅ }
  let owning : Permission :=
    { reading with
      shortname := ⟨"own", by decide⟩
      subpaths := Std.ExtTreeMap.ofList [(allSpaces, [Subpath.everywhere])]
      conditions := Std.ExtTreeSet.ofList [Condition.own] }
  let editor : Role := ⟨⟨"editor", by decide⟩, true, [reading.shortname, owning.shortname]⟩
  { Snapshot.empty with
    roles := Std.ExtTreeMap.ofList [("editor", editor)]
    permissions := Std.ExtTreeMap.ofList [("drafts", reading), ("own", owning)] }

/-- The stored record of the reader. -/
def table : EntryTable :=
  Std.ExtTreeMap.ofList
    [((⟨"management", "users", "alice", .user⟩ : Locator), (⟨true, reader.toJson, []⟩ : StoredEntry))]

/-- A folder of drafts that belongs to somebody else. -/
def folder : Entry :=
  ⟨none, ⟨"drafts", by decide⟩, .folder, true, ⟨"bob", by decide⟩, some ⟨"press", by decide⟩, []⟩

end Drafts

theorem queryPolicies_match_iff_covered_drafts :
    ∃ filters,
      (Cluster.operate 0 (queryPolicies {} "alice" "acme" (some "/blog"))
        (Cluster.standalone Drafts.snapshot Drafts.table)).1 = .ok filters ∧
      (policiesMatch filters (Drafts.folder.policies "acme" "blog/2024") = true ↔
        ∃ key grant,
          (Resolution.grants Drafts.snapshot Drafts.reader (some "logged_in"))[key]? = some grant ∧
          Covers ["staff", "alice"] key grant (Drafts.folder.placement "acme" "blog/2024")) := by
  have keys : (Resolution.grants Drafts.snapshot Drafts.reader (some "logged_in")).keys =
      [⟨allSpaces, Subpath.everywhere, .folder⟩, ⟨"acme", "blog/__all_subpaths__/drafts", .folder⟩] :=
    rfl
  refine queryPolicies_match_iff_covered Drafts.reader.shortname Drafts.reader Drafts.folder
    rfl (by decide) (by decide) ?_ ?_ (by decide) ?_
  · intro key held
    rw [← Std.ExtTreeMap.mem_keys, keys] at held
    revert key
    decide
  · rintro path ⟨rfl⟩
    decide
  · rintro path ⟨rfl⟩
    decide

end QueryPolicies

end AccessControl
