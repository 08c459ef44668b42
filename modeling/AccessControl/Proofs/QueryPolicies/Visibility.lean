import AccessControl.Proofs.Cluster.Provision
import AccessControl.Proofs.QueryPolicies.Selection

/-!
# What a search shows and what may be viewed

Every entry that a search shows to a user is covered by a held grant for queries.  Where the user
may view what may be queried, the decision on viewing the entry can still be a refusal: the covering
grant is not consulted when another grant for all spaces or all subpaths comes before it at every
prefix, and it does not pass when it asks for ownership and the owner only shares a name with the
user or one of the user's groups.  These are the only reasons.
-/

namespace AccessControl

namespace AccessRequest

variable {request : AccessRequest} {principal : Principal} {key : PermissionKey} {grant : Grant}

/-- A user's question about viewing a stored entry. -/
def viewing (user : String) (locator : Locator) (entry : Entry) (attributes : Attributes.Members) :
    AccessRequest where
  user := user
  space := locator.space
  subpath := locator.subpath
  type := locator.type
  action := .view
  isActive := entry.isActive
  owner := some entry.owner.text
  ownerGroup := entry.ownerGroup.map Shortname.text
  attributes := attributes
  entry := some locator.shortname

/-- A key whose grant is a candidate at some prefix but is never consulted: it is not the key of a
very place on the way, and wherever it is a candidate among the keys for all spaces or all subpaths,
an earlier candidate is held whose grant refuses the request. -/
structure Displaced (request : AccessRequest) (principal : Principal) (key : PermissionKey) :
    Prop where
  wide : ∀ path ∈ request.walk, key ≠ ⟨request.effectiveSpace, path, request.type⟩
  candidate : ∃ path ∈ request.walk, key ∈ request.wideKeys path
  behind : ∀ path ∈ request.walk, ∀ before after, request.wideKeys path = before ++ key :: after →
    ∃ other ∈ before, ∃ grant, principal.grants[other]? = some grant ∧
      (request.judge principal.user grant).isOk = false

/-- A key on the way is the key of a very place or a candidate for all spaces or all subpaths. -/
theorem exists_wideKeys_of_meets (meets : request.Meets key)
    (wide : ∀ path ∈ request.walk, key ≠ ⟨request.effectiveSpace, path, request.type⟩) :
    ∃ path ∈ request.walk, key ∈ request.wideKeys path := by
  obtain ⟨space, subpath, type⟩ := key
  obtain ⟨rfl, inSpace, path, isPrefix, place⟩ := meets
  refine ⟨path, isPrefix, ?_⟩
  rcases inSpace with rfl | rfl
  · rcases place with rfl | rfl
    · exact absurd rfl (wide _ isPrefix)
    · simp [wideKeys]
  · rcases place with rfl | rfl <;> simp [wideKeys]

/-- A held grant that would let the request pass does so, or it is displaced. -/
theorem allowedBy_or_displaced (principal : Principal) (meets : request.Meets key)
    (held : principal.grants[key]? = some grant)
    (passes : (request.judge principal.user grant).isOk = true) :
    request.allowedBy principal = true ∨ request.Displaced principal key := by
  by_cases allowed : request.allowedBy principal = true
  · exact .inl allowed
  · have refused : ∀ other otherGrant, (other, otherGrant) ∈ request.consulted principal.grants →
        (request.judge principal.user otherGrant).isOk = false := by
      intro other otherGrant consulted
      rw [← Bool.not_eq_true]
      exact fun passed => allowed (allowedBy_iff.mpr ⟨other, otherGrant, consulted, passed⟩)
    have unconsulted : ∀ path ∈ request.walk,
        (key, grant) ∉ request.consultedAt principal.grants path := by
      intro path isPrefix atPath
      have refuses := refused key grant (mem_consulted_iff.mpr ⟨path, isPrefix, atPath⟩)
      rw [passes] at refuses
      cases refuses
    have wide : ∀ path ∈ request.walk, key ≠ ⟨request.effectiveSpace, path, request.type⟩ :=
      fun path isPrefix same =>
        unconsulted path isPrefix (mem_consultedAt_iff.mpr (.inr ⟨same, held⟩))
    refine .inr ⟨wide, exists_wideKeys_of_meets meets wide, ?_⟩
    intro path isPrefix before after shape
    have first : (request.wideKeys path).findSome? (held? principal.grants) =
        (before.findSome? (held? principal.grants)).or (some (key, grant)) := by
      rw [shape, List.findSome?_append, List.findSome?_cons,
        held?_eq_some_iff.mpr (⟨rfl, held⟩ : (key, grant).1 = key ∧ _)]
    cases found : before.findSome? (held? principal.grants) with
    | none =>
        rw [found, Option.none_or] at first
        exact absurd (mem_consultedAt_iff.mpr (.inl first)) (unconsulted path isPrefix)
    | some other =>
        rw [found, Option.some_or] at first
        obtain ⟨candidate, isBefore, hit⟩ := List.exists_of_findSome?_eq_some found
        obtain ⟨rfl, heldOther⟩ := held?_eq_some_iff.mp hit
        exact ⟨other.1, isBefore, other.2, heldOther, refused _ _
          (mem_consulted_iff.mpr ⟨path, isPrefix, mem_consultedAt_iff.mpr (.inl first)⟩)⟩

end AccessRequest

variable {node : Nat} {cluster : Cluster} {settings : Settings} {table : EntryTable}
  {snapshot : Snapshot} {user : User}

/-! ## Covered entries -/

namespace QueryPolicies

variable {owners : List String} {key : PermissionKey} {grant : Grant} {locator : Locator}
  {entry : Entry} {attributes : Attributes.Members}

/-- A key that covers a stored entry is on the way to it, unless the entry is a space. -/
theorem meets_of_covers {name : String} {stored : StoredEntry}
    (stamped : EntryTable.Stamped locator stored entry) (notSpace : locator.type ≠ .space)
    (covers : Covers owners key grant (entry.placement locator.space locator.subpath)) :
    (AccessRequest.viewing name locator entry attributes).Meets key := by
  have sameWalk : (AccessRequest.viewing name locator entry attributes).walk =
      (entry.placement locator.space locator.subpath).walk := by
    simp only [AccessRequest.walk, AccessRequest.viewing, ← stamped.shortname, ← stamped.type]
    rfl
  have sameSpace : (AccessRequest.viewing name locator entry attributes).effectiveSpace =
      locator.space := if_neg notSpace
  refine ⟨covers.type.trans stamped.type, ?_, ?_⟩
  · rw [sameSpace]
    exact covers.inSpace
  · rw [sameWalk]
    exact covers.reaches

/-- A covering grant lets the user view the entry if it lists viewing and the ownership it may ask
for is the user's. -/
theorem isOk_judge_of_covers {name : String}
    (covers : Covers owners key grant (entry.placement locator.space locator.subpath))
    (views : grant.allowsAction .view = true)
    (owned : .own ∈ grant.conditions →
      (AccessRequest.viewing name locator entry attributes).Achieves user .own) :
    ((AccessRequest.viewing name locator entry attributes).judge (some user) grant).isOk =
      true := by
  refine Grant.isOk_evaluate.mpr ⟨views, Grant.conditionsMet_iff.mpr ?_, rfl⟩
  intro _ condition asked
  rw [AccessRequest.mem_achieved_iff]
  cases condition with
  | isActive => exact covers.active asked
  | own => exact owned asked

/-- Whether no held grant that covers an entry lets its viewer pass: each is displaced, or asks for
ownership while the entry's owner or owning group has no more than a name in common with the user's
groups or the user. -/
def Withheld (request : AccessRequest) (user : User) (grants : Grants) (owners : List String)
    (entry : Placement) : Prop :=
  ∀ key grant, grants[key]? = some grant → Covers owners key grant entry →
    request.Displaced ⟨some user, grants⟩ key ∨
      .own ∈ grant.conditions ∧ ¬ request.Achieves user .own

/-- A user who may view whatever the user may query, by permissions with plain subpaths. -/
structure IsViewer (snapshot : Snapshot) (user : User) (defaultRole : Option String) : Prop where
  views : ∀ permission, Resolution.Holds snapshot user defaultRole permission →
    .query ∈ permission.actions → .view ∈ permission.actions
  plain : ∀ permission, Resolution.Holds snapshot user defaultRole permission →
    ∀ (space : String) (subpaths : List String), permission.subpaths[space]? = some subpaths →
      ∀ subpath ∈ subpaths, Text.IsPlain subpath

/-- Whether a node has an entry that a held grant covers at an address, and lets the user view it or
withholds it. -/
def ViewableUnlessWithheld (cluster : Cluster) (node : Nat) (settings : Settings)
    (table : EntryTable) (user : User) (grants : Grants) (name : String)
    (attributes : Attributes.Members) (locator : Locator) : Prop :=
  let owners := user.groups.map Shortname.text ++ [name]
  ∃ stored entry allowed, table[locator]? = some stored ∧
    Entry.decoder stored.document = .ok entry ∧
    (∃ key grant, grants[key]? = some grant ∧
      Covers owners key grant (entry.placement locator.space locator.subpath)) ∧
    (Cluster.operate node (checkAccess settings
      (AccessRequest.viewing name locator entry attributes)) cluster).1 = .ok allowed ∧
    (allowed = true ∨
      Withheld (AccessRequest.viewing name locator entry attributes) user grants owners
        (entry.placement locator.space locator.subpath))

/-- A node that serves a user who may view what the user may query shows the user covered entries
only, and lets the user view each of them, unless no covering grant lets the user pass.  The space,
the queried subpath and those of the entries are free of the characters that delimit tokens and
filters, and spaces as entries are left aside. -/
theorem shown_entries_viewable_unless_withheld (name : Shortname) {space : String}
    {subpath : Option String} (attributes : Attributes.Members)
    (serves : cluster.Serves node settings table snapshot name.text user)
    (reachable : table.Reachable) (viewer : IsViewer snapshot user settings.defaultRole)
    (plainSpace : Text.IsPlain space) (plainQuery : ∀ path ∈ subpath, Text.IsPlain path) :
    ∃ filters searched found,
      Cluster.operate node (queryPolicies settings name.text space subpath) cluster =
        (.ok filters, searched) ∧
      Cluster.searchEntries (searched.nodes node).wiring.entries space filters searched =
        (.ok found, searched) ∧
      ∀ locator ∈ found, locator.type ≠ .space → Text.IsPlain locator.subpath →
        ViewableUnlessWithheld searched node settings table user
          (Resolution.grants snapshot user settings.defaultRole) name.text attributes locator := by
  obtain ⟨searched, loaded, servesThen⟩ := serves.load
  refine ⟨_, searched, _, operate_queryPolicies space subpath loaded,
    servesThen.searchEntries space _, fun locator shown notSpace plainLocator => ?_⟩
  obtain ⟨rfl, stored, found, matched⟩ := EntryTable.mem_search_iff.mp shown
  obtain ⟨entry, stamped⟩ := reachable.stamped found
  rw [stamped.policies] at matched
  have plainOwners :=
    isPlain_owners ⟨some user, Resolution.grants snapshot user settings.defaultRole⟩ name
  obtain ⟨key, grant, projects, covers⟩ := exists_covers_of_policiesMatch
    (entry.placement locator.space locator.subpath)
    (entry.isPlain_placement plainSpace plainLocator) plainOwners
    (fun key isKey => Resolution.isPlain_of_mem_grants viewer.plain isKey) plainQuery matched
  obtain ⟨byEntry, read⟩ := reachable.exists_grantedByEntry
    (AccessRequest.viewing name.text locator entry attributes)
  have decided := servesThen.provides.checkAccess read
  refine ⟨stored, entry, _, found, stamped.document, ⟨key, grant, projects.held, covers⟩, decided,
    or_iff_not_imp_left.mpr fun refused key grant held covers => ?_⟩
  by_cases owned : .own ∈ grant.conditions →
      (AccessRequest.viewing name.text locator entry attributes).Achieves user .own
  · have views := Resolution.allowsAction_of_allowsAction viewer.views held covers.query
    rcases AccessRequest.allowedBy_or_displaced
      ⟨some user, Resolution.grants snapshot user settings.defaultRole⟩
      (meets_of_covers stamped notSpace covers) held (isOk_judge_of_covers covers views owned) with
      allowed | displaced
    · exact absurd (by rw [allowed, Bool.or_true]) refused
    · exact .inl displaced
  · exact .inr (Classical.not_imp.mp owned)

/-! ## A reader of roots -/

namespace Roots

/-- A member of the crew, who holds one role. -/
def reader : User := ⟨⟨"carol", by decide⟩, true, [⟨"visitor", by decide⟩], [⟨"crew", by decide⟩]⟩

/-- All of one space, and what the reader owns at the root of every space. -/
def current : Snapshot :=
  let reading : Permission :=
    { shortname := ⟨"read_acme", by decide⟩
      isActive := true
      subpaths := Std.ExtTreeMap.ofList [("acme", [Subpath.everywhere])]
      types := Std.ExtTreeSet.ofList [ResourceType.content]
      actions := Std.ExtTreeSet.ofList [Action.query, Action.view]
      conditions := ∅
      restrictedFields := []
      allowedValues := ∅ }
  let owning : Permission :=
    { reading with
      shortname := ⟨"read_roots", by decide⟩
      subpaths := Std.ExtTreeMap.ofList [(allSpaces, [Subpath.root])]
      conditions := Std.ExtTreeSet.ofList [Condition.own] }
  let role : Role := ⟨⟨"visitor", by decide⟩, true, [reading.shortname, owning.shortname]⟩
  { Snapshot.empty with
    roles := Std.ExtTreeMap.ofList [("visitor", role)]
    permissions := Std.ExtTreeMap.ofList [("read_acme", reading), ("read_roots", owning)] }

/-- The document of the reader's record, which is an entry too. -/
def record : Json :=
  .obj [("shortname", .str "carol"), ("resource_type", .str "user"), ("is_active", .bool true),
    ("owner_shortname", .str "carol"), ("roles", .arr [.str "visitor"]),
    ("groups", .arr [.str "crew"])]

/-- An entry that belongs to somebody else. -/
def welcome : Entry := ⟨none, ⟨"welcome", by decide⟩, .content, true, ⟨"dan", by decide⟩, none, []⟩

/-- An entry of a user whose name is that of a group. -/
def board : Entry := ⟨none, ⟨"board", by decide⟩, .content, true, ⟨"crew", by decide⟩, none, []⟩

/-- The reader's record, and the two entries at the roots of two spaces. -/
def saved : EntryTable :=
  let reader : Entry := ⟨none, ⟨"carol", by decide⟩, .user, true, ⟨"carol", by decide⟩, none, []⟩
  ((Std.ExtTreeMap.empty.insert (⟨"management", "users", "carol", .user⟩ : Locator)
    (⟨true, record, reader.policies "management" "users"⟩ : StoredEntry)).insert
    ⟨"acme", "/", "welcome", .content⟩ ⟨true, welcome.toJson, welcome.policies "acme" "/"⟩).insert
    ⟨"umbrella", "/", "board", .content⟩ ⟨true, board.toJson, board.policies "umbrella" "/"⟩

def serving : Cluster := Cluster.standalone current saved

theorem reachable_saved : saved.Reachable := by
  have users := EntryTable.Reachable.save .empty
    (rfl : EntryTable.save ∅ "management" "users" record = .ok (_, _))
  have welcomed := EntryTable.Reachable.save users
    (rfl : EntryTable.save _ "acme" "/" welcome.toJson = .ok (_, _))
  exact EntryTable.Reachable.save welcomed
    (rfl : EntryTable.save _ "umbrella" "/" board.toJson = .ok (_, saved))

theorem serves_serving :
    serving.Serves 0 {} saved current reader.shortname.text reader where
  current := rfl
  answers kind := by cases kind <;> rfl
  entries := rfl
  known := rfl
  coherent := by
    refine .inr ⟨∅, rfl, fun grants found => ?_⟩
    simp [GrantCache.get] at found

theorem isViewer_reader : IsViewer current reader (some "logged_in") := by
  constructor
  · rintro permission ⟨-, -, -, known⟩ -
    have isMember := Dict.mem_of_getElem?_ofList known
    simp only [List.mem_cons, Prod.mk.injEq, List.not_mem_nil, or_false] at isMember
    rcases isMember with ⟨-, rfl⟩ | ⟨-, rfl⟩ <;> simp [Std.ExtTreeSet.mem_ofList]
  · rintro permission ⟨-, -, -, known⟩ space subpaths found
    have isMember := Dict.mem_of_getElem?_ofList known
    simp only [List.mem_cons, Prod.mk.injEq, List.not_mem_nil, or_false] at isMember
    rcases isMember with ⟨-, rfl⟩ | ⟨-, rfl⟩ <;>
    · have isScope := Dict.mem_of_getElem?_ofList found
      simp only [List.mem_singleton, Prod.mk.injEq] at isScope
      rw [isScope.2]
      decide

end Roots

/-- Whether a node shows a user a stored entry that it then does not let the user view. -/
def ShownButRefused (cluster : Cluster) (node : Nat) (settings : Settings) (table : EntryTable)
    (name : String) (subpath : Option String) (locator : Locator) (entry : Entry) : Prop :=
  ∃ stored filters found, table[locator]? = some stored ∧
    Entry.decoder stored.document = .ok entry ∧
    (Cluster.operate node (queryPolicies settings name locator.space subpath) cluster).1 =
      .ok filters ∧
    (Cluster.searchEntries (cluster.nodes node).wiring.entries locator.space filters
      (Cluster.operate node (queryPolicies settings name locator.space subpath) cluster).2).1 =
      .ok found ∧
    locator ∈ found ∧
    (Cluster.operate node (checkAccess settings (AccessRequest.viewing name locator entry []))
      (Cluster.operate node (queryPolicies settings name locator.space subpath) cluster).2).1 =
      .ok false

theorem shown_entries_viewable_unless_withheld_roots :
    ∃ filters searched found,
      Cluster.operate 0 (queryPolicies {} "carol" "acme" (some "/")) Roots.serving =
        (.ok filters, searched) ∧
      Cluster.searchEntries (searched.nodes 0).wiring.entries "acme" filters searched =
        (.ok found, searched) ∧
      ∀ locator ∈ found, locator.type ≠ .space → Text.IsPlain locator.subpath →
        ViewableUnlessWithheld searched 0 {} Roots.saved Roots.reader
          (Resolution.grants Roots.current Roots.reader (some "logged_in")) "carol" [] locator :=
  shown_entries_viewable_unless_withheld Roots.reader.shortname [] Roots.serves_serving
    Roots.reachable_saved Roots.isViewer_reader (by decide) (by rintro path ⟨rfl⟩; decide)

/-- A viewer is shown, and then refused, what a grant for one's own at the root of every space
displaces the covering grant for, and what belongs to a user with the name of a group. -/
theorem shown_entries_refused_roots :
    (Roots.serving.Serves 0 {} Roots.saved Roots.current "carol" Roots.reader ∧
      Roots.saved.Reachable ∧ IsViewer Roots.current Roots.reader (some "logged_in")) ∧
    ShownButRefused Roots.serving 0 {} Roots.saved "carol" (some "/")
      ⟨"acme", "/", "welcome", .content⟩ Roots.welcome ∧
    ShownButRefused Roots.serving 0 {} Roots.saved "carol" (some "/")
      ⟨"umbrella", "/", "board", .content⟩ Roots.board := by
  refine ⟨⟨Roots.serves_serving, Roots.reachable_saved, Roots.isViewer_reader⟩, ?_, ?_⟩
  · exact ⟨_, ["acme:/:content:true:crew", "acme:/:content:false:crew",
      "acme:/:content:true:carol", "acme:/:content:false:carol", "acme:/:content:*"], _, rfl, rfl,
      rfl, rfl, EntryTable.mem_search_iff.mpr ⟨rfl, _, rfl, rfl⟩, rfl⟩
  · exact ⟨_, ["umbrella:/:content:true:crew", "umbrella:/:content:false:crew",
      "umbrella:/:content:true:carol", "umbrella:/:content:false:carol"], _, rfl, rfl,
      rfl, rfl, EntryTable.mem_search_iff.mpr ⟨rfl, _, rfl, rfl⟩, rfl⟩

end QueryPolicies

end AccessControl
