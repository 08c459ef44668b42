import AccessControl.Proofs.Cluster.Service
import AccessControl.Proofs.Entry
import AccessControl.Proofs.PolicyToken.Pattern
import AccessControl.Proofs.QueryPolicies.Selection
import AccessControl.Proofs.Resolution

/-!
# What patterns select

A database selects the entries of which some policy matches some pattern of the filters.  Patterns are
made of trimmed filters, so they select what the trimmed filters match.  That is what the filters
match themselves as long as no blank stands where filters are trimmed: at the start of the space and at
the end of the names of the user and the user's groups.  Names may well end in a blank.
-/

namespace AccessControl

namespace QueryPolicies

variable {format : FilterFormat} {owners : List String}
  {space : String} {subpath : Option String} {grants : Grants} {key : PermissionKey}
  {grant : Grant}

/-! ## Trimmed tokens -/

/-- The space and the names of owners without a blank where filters are trimmed. -/
structure Unpadded (space : String) (owners : List String) : Prop where
  space : Text.trimStart space = space
  owners : ∀ owner ∈ owners, Text.trimEnd owner = owner

/-- The owner of a filter is one of those that the filters ask for. -/
theorem mem_owners_of_mem_tokens {place owner : String} {token : PolicyToken}
    (isToken : token ∈ tokens owners space place key grant)
    (isOwner : token.owner = .subject owner) : owner ∈ owners := by
  obtain ⟨⟨state, scope⟩, isDictated, rfl⟩ := List.mem_map.mp isToken
  obtain rfl : scope = .subject owner := isOwner
  rw [mem_dictated] at isDictated
  split at isDictated
  · obtain ⟨-, ⟨name, isName, same⟩, -⟩ := isDictated
    exact OwnerScope.subject.inj same ▸ isName
  · split at isDictated
    · obtain ⟨-, isOpen⟩ := isDictated
      split at isOpen <;> cases isOpen
    · cases isDictated.2

/-- Filters that speak of either activity speak of no owner. -/
theorem unscoped_of_mem_tokens {place : String} {token : PolicyToken}
    (isToken : token ∈ tokens owners space place key grant) (isAny : token.active = .any) :
    token.owner = .unscoped := by
  obtain ⟨⟨state, scope⟩, isDictated, rfl⟩ := List.mem_map.mp isToken
  obtain rfl : state = .any := isAny
  rw [mem_dictated] at isDictated
  split at isDictated
  · obtain ⟨-, -, isActive | ⟨isInactive, -⟩⟩ := isDictated
    · cases isActive
    · cases isInactive
  · split at isDictated
    · cases isDictated.1
    · exact isDictated.2

theorem Unpadded.trimmed_eq {place : String} {token : PolicyToken} (unpadded : Unpadded space owners)
    (inSpace : key.space = space ∨ key.space = allSpaces)
    (isToken : token ∈ tokens owners space place key grant) : token.trimmed = token := by
  have sameOwner : token.owner.trimmed = token.owner := by
    cases owner : token.owner with
    | unscoped => rfl
    | any => rfl
    | subject name =>
        exact congrArg OwnerScope.subject
          (unpadded.owners name (mem_owners_of_mem_tokens isToken owner))
  have sameSpace : Text.trimStart token.key.space = token.key.space := by
    obtain ⟨scope, -, rfl⟩ := List.mem_map.mp isToken
    rw [concretize_space inSpace]
    exact unpadded.space
  rw [PolicyToken.trimmed, sameOwner, sameSpace]

/-! ## Selection -/

/-- The tokens of a query's filters when the written filters are trimmed. -/
def IsTrimmedFilter (owners : List String) (grants : Grants) (space : String)
    (subpath : Option String) (trimmed : PolicyToken) : Prop :=
  ∃ token, IsFilter owners grants space subpath token ∧ trimmed = token.trimmed

/-- Without padding trimming the filters changes nothing. -/
theorem Unpadded.isTrimmedFilter_iff (unpadded : Unpadded space owners) {token : PolicyToken} :
    IsTrimmedFilter owners grants space subpath token ↔
      IsFilter owners grants space subpath token := by
  constructor
  · rintro ⟨token, ⟨key, grant, projects, isToken⟩, rfl⟩
    rw [unpadded.trimmed_eq projects.inSpace isToken]
    exact ⟨key, grant, projects, isToken⟩
  · rintro ⟨key, grant, projects, isToken⟩
    exact ⟨token, ⟨key, grant, projects, isToken⟩,
      (unpadded.trimmed_eq projects.inSpace isToken).symm⟩

theorem isPlain_of_named (named : ∀ owner ∈ owners, ∃ name : Shortname, owner = name.text)
    {owner : String} (isOwner : owner ∈ owners) : (OwnerScope.subject owner).IsPlain := by
  obtain ⟨name, rfl⟩ := named owner isOwner
  exact OwnerScope.isPlain_subject name

theorem trimmedWrittenAs_ofGrants (plainSpace : Text.IsPlain space)
    (named : ∀ owner ∈ owners, ∃ name : Shortname, owner = name.text)
    (plainKeys : ∀ key ∈ grants, Text.IsPlain key.subpath)
    (plainPath : ∀ path ∈ subpath, Text.IsPlain path) :
    PolicyToken.WrittenAs (IsTrimmedFilter owners grants space subpath)
      ((filterAlternatives (ofGrants format owners space subpath grants)).map Text.trim) := by
  refine (writtenAs_ofGrants plainSpace (fun _ => isPlain_of_named named) plainKeys
    plainPath).trimmed ?_
  rintro token owner ⟨key, grant, -, isToken⟩ isOwner
  exact named owner (mem_owners_of_mem_tokens isToken isOwner)

/-- What is stored with a plain entry is selected exactly if a trimmed filter admits it. -/
theorem selects_ofGrants_iff (plainSpace : Text.IsPlain space)
    (named : ∀ owner ∈ owners, ∃ name : Shortname, owner = name.text)
    (plainKeys : ∀ key ∈ grants, Text.IsPlain key.subpath)
    (plainPath : ∀ path ∈ subpath, Text.IsPlain path) {entry : Placement}
    (plainEntry : entry.IsPlain) :
    Database.Selects (ofGrants format owners space subpath grants) entry.policies ↔
      ∃ filter, IsTrimmedFilter owners grants space subpath filter ∧
        ∃ stored ∈ entry.tokens, filter.admits stored = true := by
  refine Database.selects_iff_of_writtenAs
    (trimmedWrittenAs_ofGrants plainSpace named plainKeys plainPath) plainEntry.writtenAs ?_ ?_
  · rintro _ ⟨token, ⟨key, grant, -, isToken⟩, rfl⟩ isAny
    exact OwnerScope.trimmed_eq_unscoped.mpr (unscoped_of_mem_tokens isToken isAny)
  · intro stored isStored isAny
    obtain ⟨-, -, -, -, -, ⟨-, isOwner | isGroup⟩ | ⟨-, isOpen⟩⟩ := Placement.mem_tokens.mp isStored
    · exact OwnerScope.noConfusion (isAny.symm.trans isOwner)
    · rw [isAny, Placement.groupScope] at isGroup
      cases group : entry.ownerGroup <;> simp [group] at isGroup
    · exact OwnerScope.noConfusion (isAny.symm.trans isOpen)

/-- Where ownership is asked for, a trimmed filter admits an entry's token only if blanks change
neither the space nor the owner's name. -/
theorem unpadded_of_admits {entry : Placement} {filter stored : PolicyToken}
    (mustBeOwned : ∀ (key : PermissionKey) (grant : Grant), grants[key]? = some grant →
      .own ∈ grant.conditions)
    (isFilter : IsTrimmedFilter owners grants space subpath filter) (isStored : stored ∈ entry.tokens)
    (ungrouped : entry.ownerGroup = none) (admits : filter.admits stored = true) :
    Text.trimStart space = entry.space ∧ Text.trimEnd entry.owner = entry.owner := by
  obtain ⟨token, ⟨key, grant, projects, isToken⟩, rfl⟩ := isFilter
  obtain ⟨⟨state, scope⟩, isDictated, rfl⟩ := List.mem_map.mp isToken
  rw [mem_dictated, if_pos (mustBeOwned key grant projects.held)] at isDictated
  obtain ⟨-, ⟨name, -, rfl⟩, isState⟩ := isDictated
  have stated : state ≠ .any := by
    rcases isState with rfl | ⟨rfl, -⟩ <;> simp
  obtain ⟨sameKey, -, sameOwner⟩ := (PolicyToken.admits_iff_of_stated stated).mp admits
  obtain ⟨_, -, -, inSpace, -, carried⟩ := Placement.mem_tokens.mp isStored
  constructor
  · rw [← inSpace, sameKey]
    exact congrArg Text.trimStart (concretize_space projects.inSpace).symm
  · have isSubject : stored.owner = .subject (Text.trimEnd name) :=
      OwnerScope.subject_admits_iff.mp sameOwner
    rcases carried with ⟨-, isOwner | isGroup⟩ | ⟨-, isOpen⟩
    · rw [isOwner] at isSubject
      rw [OwnerScope.subject.inj isSubject, Text.trimEnd_trimEnd]
    · rw [isGroup, Placement.groupScope, ungrouped] at isSubject
      cases isSubject
    · rw [isOpen] at isSubject
      cases isSubject

/-! ## Answered queries -/

/-- Filters that a node answers when a user of these groups queries a space, everywhere or on a plain
subpath, with grants under plain keys. -/
inductive IsAnswered (name : Shortname) (groups : List Shortname) (space : String) :
    List String → Prop where
  | answered {cluster after : Cluster} {node : Nat} {settings : Settings} {principal : Principal}
      {subpath : Option String} {filters : List String}
      (known : Cluster.operate node (Principal.load settings name.text) cluster =
        (.ok principal, after))
      (grouped : principal.groups = groups)
      (plainKeys : ∀ key ∈ principal.grants, Text.IsPlain key.subpath)
      (plainPath : ∀ path ∈ subpath, Text.IsPlain path)
      (ran : (Cluster.operate node (queryPolicies settings name.text space subpath) cluster).1 =
        .ok filters) :
      IsAnswered name groups space filters

theorem exists_name_of_mem_owners {name : Shortname} {groups : List Shortname} {owner : String}
    (isOwner : owner ∈ groups.map Shortname.text ++ [name.text]) :
    ∃ named : Shortname, owner = named.text := by
  rcases List.mem_append.mp isOwner with isGroup | isUser
  · obtain ⟨group, -, rfl⟩ := List.mem_map.mp isGroup
    exact ⟨group, rfl⟩
  · exact ⟨name, List.mem_singleton.mp isUser⟩

/-- Answered filters are those of grants under plain keys. -/
theorem IsAnswered.exists_ofGrants {name : Shortname} {groups : List Shortname}
    {filters : List String} (answered : IsAnswered name groups space filters) :
    ∃ format grants subpath,
      (∀ key ∈ grants, Text.IsPlain key.subpath) ∧ (∀ path ∈ subpath, Text.IsPlain path) ∧
        filters =
          ofGrants format (groups.map Shortname.text ++ [name.text]) space subpath grants := by
  obtain ⟨known, rfl, plainKeys, plainPath, ran⟩ := answered
  rw [operate_queryPolicies _ _ known] at ran
  exact ⟨_, _, _, plainKeys, plainPath, (Except.ok.inj ran).symm⟩

section

variable {name : Shortname} {groups : List Shortname} {filters : List String} {entry : Entry}
  {home place : String}

/-- What is stored with a plain entry is selected by answered filters exactly if the trimmed filters
match it. -/
theorem IsAnswered.selects_iff_trimmed (answered : IsAnswered name groups space filters)
    (plainSpace : Text.IsPlain space) (plainHome : Text.IsPlain home)
    (plainPlace : Text.IsPlain place) :
    Database.Selects filters (entry.policies home place) ↔
      policiesMatch ((filterAlternatives filters).map Text.trim) (entry.policies home place) =
        true := by
  obtain ⟨format, grants, subpath, plainKeys, plainPath, rfl⟩ := answered.exists_ofGrants
  have plainEntry := entry.isPlain_placement plainHome plainPlace
  have named : ∀ owner ∈ groups.map Shortname.text ++ [name.text],
      ∃ named : Shortname, owner = named.text := fun _ => exists_name_of_mem_owners
  rw [Entry.policies, selects_ofGrants_iff plainSpace named plainKeys plainPath plainEntry]
  exact (policiesMatch_iff_of_writtenAs
    (trimmedWrittenAs_ofGrants plainSpace named plainKeys plainPath).filterAlternatives
    plainEntry.writtenAs).symm

/-- Without padding it is selected exactly if the filters match it. -/
theorem IsAnswered.selects_iff_of_unpadded (answered : IsAnswered name groups space filters)
    (unpadded : Unpadded space (groups.map Shortname.text ++ [name.text]))
    (plainSpace : Text.IsPlain space) (plainHome : Text.IsPlain home)
    (plainPlace : Text.IsPlain place) :
    Database.Selects filters (entry.policies home place) ↔
      policiesMatch filters (entry.policies home place) = true := by
  obtain ⟨format, grants, subpath, plainKeys, plainPath, rfl⟩ := answered.exists_ofGrants
  have plainEntry := entry.isPlain_placement plainHome plainPlace
  have named : ∀ owner ∈ groups.map Shortname.text ++ [name.text],
      ∃ named : Shortname, owner = named.text := fun _ => exists_name_of_mem_owners
  rw [Entry.policies, selects_ofGrants_iff plainSpace named plainKeys plainPath plainEntry]
  simp only [unpadded.isTrimmedFilter_iff]
  exact (policiesMatch_iff_of_writtenAs
    (writtenAs_ofGrants plainSpace (fun _ => isPlain_of_named named) plainKeys plainPath)
    plainEntry.writtenAs).symm

end

namespace Owning

/-- All content that belongs to whoever asks may be queried, in every space. -/
def permission : Permission where
  shortname := ⟨"own_content", by decide⟩
  isActive := true
  subpaths := Std.ExtTreeMap.ofList [(allSpaces, [Subpath.everywhere])]
  types := Std.ExtTreeSet.ofList [ResourceType.content]
  actions := Std.ExtTreeSet.ofList [Action.query]
  conditions := Std.ExtTreeSet.ofList [Condition.own]
  restrictedFields := []
  allowedValues := ∅

/-- Every known user holds the permission. -/
def snapshot : Snapshot :=
  let role : Role := ⟨⟨"logged_in", by decide⟩, true, [⟨"own_content", by decide⟩]⟩
  { Snapshot.empty with
    roles := Std.ExtTreeMap.ofList [("logged_in", role)]
    permissions := Std.ExtTreeMap.ofList [("own_content", permission)] }

/-- The stored record of a user. -/
def table (user : User) : EntryTable :=
  Std.ExtTreeMap.ofList [((⟨"management", "users", user.shortname.text, .user⟩ : Locator),
    (⟨true, user.toJson, []⟩ : StoredEntry))]

def granted (user : User) : Grants := Resolution.grants snapshot user (some "logged_in")

variable {user : User}

theorem find_table (user : User) :
    (table user).find User.decoder (Principal.locator {} user.shortname.text) = .ok (some user) := by
  have same : (Principal.locator {} user.shortname.text).normalize =
      ⟨"management", "users", user.shortname.text, .user⟩ :=
    congrArg (Locator.mk "management" · user.shortname.text .user)
      (by decide : Subpath.normalize "users" = "users")
  have stored : (table user)[(Principal.locator {} user.shortname.text).normalize]? =
      some ⟨true, user.toJson, []⟩ := by
    rw [same]
    exact Std.ExtTreeMap.getElem?_ofList_of_mem (Std.ReflCmp.compare_self ..)
      (List.pairwise_singleton ..) (List.mem_singleton_self _)
  have read : User.decoder (Json.Form.written.apply user.toJson) = .ok user := user.decoder_form
  simp only [EntryTable.find, stored]
  rw [show User.decoder user.toJson = .ok user from read]

/-- The user is known and has the grants of the snapshot. -/
theorem load (user : User) :
    ∃ after, Cluster.operate 0 (Principal.load { cacheSeconds := 0 } user.shortname.text)
      (Cluster.standalone snapshot (table user)) = (.ok ⟨some user, granted user⟩, after) := by
  have serves : (Cluster.standalone snapshot (table user)).Serves 0 { cacheSeconds := 0 }
      (table user) snapshot user.shortname.text user :=
    ⟨rfl, fun kind => by cases kind <;> rfl, rfl, find_table user, .inl rfl⟩
  obtain ⟨after, loaded, -⟩ := serves.load
  exact ⟨after, loaded⟩

/-- Nothing else is held. -/
theorem eq_of_holds {held : Permission}
    (holds : Resolution.Holds snapshot user (some "logged_in") held) : held = permission := by
  obtain ⟨-, -, -, known⟩ := holds
  have isEntry := List.mem_singleton.mp (Dict.mem_of_getElem?_ofList known)
  exact (Prod.mk.inj isEntry).2

theorem isPlain_of_mem_granted {key : PermissionKey} (isKey : key ∈ granted user) :
    Text.IsPlain key.subpath := by
  refine Resolution.isPlain_of_mem_grants (fun held holds space subpaths found path isPath => ?_) isKey
  obtain rfl := eq_of_holds holds
  have isEntry := List.mem_singleton.mp (Dict.mem_of_getElem?_ofList found)
  obtain ⟨-, rfl⟩ := Prod.mk.inj isEntry
  obtain rfl := List.mem_singleton.mp isPath
  decide

/-- Every held grant is for queries of what is owned. -/
theorem query_and_own (held : (granted user)[key]? = some grant) :
    grant.allowsAction .query = true ∧ .own ∈ grant.conditions := by
  obtain ⟨permissions, nonempty, same, rfl⟩ := Resolution.exists_contributions held
  obtain ⟨first, isFirst⟩ := List.exists_mem_of_ne_nil permissions nonempty
  obtain rfl := eq_of_holds ((same first).mp isFirst).1
  rw [Grant.allowsAction, ← Std.ExtTreeSet.mem_iff_contains]
  exact ⟨Grant.mem_actions_foldl.mpr (.inr ⟨permission, isFirst, by decide⟩),
    Grant.mem_conditions_foldl.mpr (.inr ⟨permission, isFirst, by decide⟩)⟩

/-- Something is held for content everywhere. -/
theorem exists_held (user : User) :
    ∃ grant, (granted user)[(⟨allSpaces, Subpath.everywhere, .content⟩ : PermissionKey)]? =
      some grant := by
  have holds : Resolution.Holds snapshot user (some "logged_in") permission :=
    .through (.byDefault rfl) rfl (List.mem_singleton_self _) rfl
  have resolved : Subpath.resolve Subpath.everywhere user.shortname.text = Subpath.everywhere := by
    have unnamed : ¬ Subpath.currentUser.toList <:+: Subpath.everywhere.toList := by
      intro inside
      have sameLength : Subpath.currentUser.toList.length = Subpath.everywhere.toList.length := by
        decide
      have same := String.toList_inj.mp (inside.eq_of_length sameLength)
      exact absurd same (by decide)
    rw [Subpath.resolve, Text.replace_of_not_infix _ unnamed]
    decide
  have contributes : Resolution.Contributes permission user.shortname.text
      ⟨allSpaces, Subpath.everywhere, .content⟩ :=
    ⟨⟨_, rfl, _, List.mem_singleton_self _, resolved⟩, by decide⟩
  exact Resolution.exists_grant holds contributes

/-- The filters for the user's query of a whole space. -/
def filters (user : User) (space : String) : List String :=
  ofGrants .separate (QueryPolicies.owners ⟨some user, granted user⟩ user.shortname.text) space none
    (granted user)

theorem isAnswered (user : User) (space : String) :
    IsAnswered user.shortname user.groups space (filters user space) := by
  obtain ⟨after, loaded⟩ := load user
  have ran := operate_queryPolicies space none loaded
  have answers : (Cluster.operate 0 (queryPolicies { cacheSeconds := 0 } user.shortname.text space
      none) (Cluster.standalone snapshot (table user))).1 = .ok (filters user space) := by
    rw [ran, filters]
  exact .answered loaded rfl (fun _ isKey => isPlain_of_mem_granted isKey) (by simp) answers

/-- An entry of somebody's at the root of a space. -/
def entry (owner : Shortname) : Entry :=
  ⟨none, ⟨"mine", by decide⟩, .content, true, owner, none, []⟩

theorem covers_entry {owner : Shortname}
    (held : (granted user)[(⟨allSpaces, Subpath.everywhere, .content⟩ : PermissionKey)]? = some grant)
    (isOwner : owner.text ∈ QueryPolicies.owners ⟨some user, granted user⟩ user.shortname.text) :
    Covers (QueryPolicies.owners ⟨some user, granted user⟩ user.shortname.text)
      ⟨allSpaces, Subpath.everywhere, .content⟩ grant
      ((entry owner).placement space Subpath.root) where
  type := rfl
  inSpace := .inr rfl
  query := (query_and_own held).1
  reaches := ⟨Subpath.root, Subpath.root_mem_initials _, .inr Subpath.globalAccess_root.symm⟩
  active _ := rfl
  own _ := ⟨by simp [PermissionKey.isNestedWide], .inl isOwner⟩

/-- The user's filters match what the user or a group of the user's owns. -/
theorem policiesMatch_entry (plainSpace : Text.IsPlain space) {owner : Shortname}
    (isOwner : owner.text ∈ QueryPolicies.owners ⟨some user, granted user⟩ user.shortname.text) :
    policiesMatch (filters user space) ((entry owner).policies space Subpath.root) = true := by
  obtain ⟨grant, held⟩ := exists_held user
  have plainEntry := (entry owner).isPlain_placement plainSpace (by decide : Text.IsPlain Subpath.root)
  have atRoot : ((entry owner).placement space Subpath.root).segments = [] :=
    (by decide : Subpath.place Subpath.root .content (some "mine") = [])
  have unmarked : ∀ part ∈ ((entry owner).placement space Subpath.root).segments,
      Subpath.isWide part = false := by
    rw [atRoot]
    simp
  have above : place none ∈ ((entry owner).placement space Subpath.root).walk :=
    Subpath.root_mem_initials _
  exact policiesMatch_of_covers ((entry owner).placement space Subpath.root) plainEntry
    (isPlain_owners ⟨some user, granted user⟩ user.shortname)
    (fun _ isKey => isPlain_of_mem_granted isKey) (fun _ => nofun) unmarked above held
    (covers_entry held isOwner)

/-- The user's filters select what somebody of these owns only if blanks change neither the space nor
the owner's name. -/
theorem unpadded_of_selects (plainSpace : Text.IsPlain space) {owner : Shortname}
    (selected : Database.Selects (filters user space)
      ((entry owner).policies space Subpath.root)) :
    Text.trimStart space = space ∧ Text.trimEnd owner.text = owner.text := by
  have plainEntry := (entry owner).isPlain_placement plainSpace (by decide : Text.IsPlain Subpath.root)
  have everywhere : ∀ path ∈ (none : Option String), Text.IsPlain path := fun _ => nofun
  obtain ⟨filter, isFilter, stored, isStored, admits⟩ :=
    (selects_ofGrants_iff plainSpace (fun _ => exists_name_of_mem_owners)
      (fun _ isKey => isPlain_of_mem_granted isKey) everywhere plainEntry).mp selected
  exact unpadded_of_admits (fun _ _ held => (query_and_own held).2) isFilter isStored rfl admits

end Owning

/-- Patterns select what the trimmed filters match.  This is what the filters match themselves, for
every query that a user of these groups can make in the space and whatever is stored, exactly if no
blank stands at the start of the space or at the end of the name of the user or of a group. -/
theorem patterns_select_iff_unpadded (name : Shortname) (groups : List Shortname) (space : String)
    (plainSpace : Text.IsPlain space) :
    (∀ filters, IsAnswered name groups space filters → ∀ (entry : Entry) (home place : String),
      Text.IsPlain home → Text.IsPlain place →
      (Database.Selects filters (entry.policies home place) ↔
        policiesMatch ((filterAlternatives filters).map Text.trim)
          (entry.policies home place) = true)) ∧
    ((∀ filters, IsAnswered name groups space filters → ∀ (entry : Entry) (home place : String),
      Text.IsPlain home → Text.IsPlain place →
      (Database.Selects filters (entry.policies home place) ↔
        policiesMatch filters (entry.policies home place) = true)) ↔
      Unpadded space (groups.map Shortname.text ++ [name.text])) := by
  refine ⟨fun filters answered entry home place => answered.selects_iff_trimmed plainSpace, ?_, ?_⟩
  · intro agree
    let user : User := ⟨name, true, [], groups⟩
    have unpadded (owner : Shortname)
        (isOwner : owner.text ∈ groups.map Shortname.text ++ [name.text]) :
        Text.trimStart space = space ∧ Text.trimEnd owner.text = owner.text := by
      have matched : policiesMatch (Owning.filters user space)
          ((Owning.entry owner).policies space Subpath.root) = true :=
        Owning.policiesMatch_entry plainSpace isOwner
      have selected := (agree _ (Owning.isAnswered user space) (Owning.entry owner) space
        Subpath.root plainSpace (by decide)).mpr matched
      exact Owning.unpadded_of_selects plainSpace selected
    constructor
    · exact (unpadded name (by simp)).1
    · intro owner isOwner
      obtain ⟨named, rfl⟩ := exists_name_of_mem_owners isOwner
      exact (unpadded named isOwner).2
  · intro unpadded filters answered entry home place
    exact answered.selects_iff_of_unpadded unpadded plainSpace

/-- A name that ends in a blank: some query of this user's is answered with filters that do not select
what they match. -/
theorem patterns_select_iff_unpadded_bob :
    let bob : Shortname := ⟨"bob ", by decide⟩
    Text.IsPlain "acme" ∧
      ∃ filters, IsAnswered bob [] "acme" filters ∧
        ∃ (entry : Entry) (home place : String), Text.IsPlain home ∧ Text.IsPlain place ∧
          ¬ (Database.Selects filters (entry.policies home place) ↔
            policiesMatch filters (entry.policies home place) = true) := by
  intro bob
  have padded : ¬ Unpadded "acme" ([bob.text]) := fun unpadded =>
    absurd (unpadded.owners "bob " (List.mem_singleton_self _)) (by decide)
  refine ⟨by decide, ?_⟩
  by_contra agree
  push Not at agree
  refine padded ((patterns_select_iff_unpadded bob [] "acme" (by decide)).2.mp ?_)
  intro filters answered entry home place plainHome plainPlace
  by_contra differs
  exact differs (agree filters answered entry home place plainHome plainPlace)

end QueryPolicies

end AccessControl
