import AccessControl.Keyspace.GrantCache
import AccessControl.Memory.GrantCache
import AccessControl.Proofs.Grants.Document
import AccessControl.Proofs.Keyspace.Effects
import AccessControl.Proofs.Uuid

/-!
# Grants cached in memory and in a keyspace

A cache in a keyspace holds texts where a cache in memory holds grants, under keys that are put
together from a revision and a user, and registers these keys so that they can be dropped.  The two
caches answer alike, whatever was put and cleared before, with one exception: grants with a key that is
not legible are stored as a text that is refused when it is read.
-/

namespace AccessControl

namespace Uuid

/-- A written identifier holds no colon. -/
theorem not_mem_colon_text (u : Uuid) : ':' ∉ u.text.toList := by
  have noDigit (digits : List (Fin 16)) : ':' ∉ digits.map digitChar := by
    intro member
    obtain ⟨digit, -, isColon⟩ := List.mem_map.mp member
    revert digit
    decide
  have noGroup (sizes : List Nat) (chars : List Char) (absent : ':' ∉ chars) :
      ':' ∉ grouped sizes chars := by
    induction sizes generalizing chars with
    | nil => exact absent
    | cons size sizes ih =>
        have inFront : ':' ∉ chars.take size := fun member => absent (List.mem_of_mem_take member)
        have behind : ':' ∉ chars.drop size := fun member => absent (List.mem_of_mem_drop member)
        cases sizes with
        | nil => exact inFront
        | cons next more =>
            have inRest := ih _ behind
            simp [grouped, inFront, inRest]
  rw [text, String.toList_ofList]
  exact noGroup groupSizes _ (noDigit u.digits)

end Uuid

namespace Keyspace

variable {keyPrefix : String}

/-! ## Keys -/

theorem toList_grantsKey (revision : Uuid) (user : String) :
    (grantsKey keyPrefix revision user).toList =
      ("\x7b" ++ keyPrefix ++ "\x7d:users_permissions").toList ++
        ':' :: (revision.text.toList ++ ':' :: user.toList) := by
  simp [grantsKey]

theorem toList_grantsIndexKey :
    (grantsIndexKey keyPrefix).toList =
      ("\x7b" ++ keyPrefix ++ "\x7d:users_permissions").toList ++ "_index".toList := by
  simp [grantsIndexKey]

/-- The key of cached grants tells the revision and the user. -/
theorem grantsKey_inj {revision other : Uuid} {user otherUser : String}
    (same : grantsKey keyPrefix revision user = grantsKey keyPrefix other otherUser) :
    revision = other ∧ user = otherUser := by
  have chars := congrArg String.toList same
  rw [toList_grantsKey, toList_grantsKey, List.append_cancel_left_eq, List.cons.injEq] at chars
  have pieces := congrArg (Text.pieces ':') chars.2
  rw [Text.pieces_append, Text.pieces_append, Text.pieces_of_not_mem revision.not_mem_colon_text,
    Text.pieces_of_not_mem other.not_mem_colon_text] at pieces
  have texts : revision.text = other.text := String.toList_inj.mp (List.cons.inj pieces).1
  have named := revision.parse_text
  rw [texts, other.parse_text] at named
  obtain rfl := Except.ok.inj named
  have users := List.append_cancel_left chars.2
  exact ⟨rfl, String.toList_inj.mp (List.cons.inj users).2⟩

theorem grantsKey_ne_grantsIndexKey (revision : Uuid) (user : String) :
    grantsKey keyPrefix revision user ≠ grantsIndexKey keyPrefix := by
  intro same
  have chars := congrArg String.toList same
  rw [toList_grantsKey, toList_grantsIndexKey, List.append_cancel_left_eq] at chars
  cases chars

/-! ## Scripts -/

section Scripts

variable {slots : Slots} {key index : String} {held : Bag String} {expiry : Option String}

/-- Putting a text that is to be found through an index changes the text's key and the index only. -/
theorem does_putIndexed (isSet : setIn? slots index = some (held, expiry)) (apart : key ≠ index)
    (value seconds : String) :
    ∃ after, Does (putIndexed key index value seconds) slots 1 after ∧
      textIn? after key = some (some value) ∧
      setIn? after index = some (held.insert key, some seconds) ∧
      ∀ other, other ≠ key → other ≠ index → after[other]? = slots[other]? := by
  have written := Does.set key value (some seconds) slots
  have isSetThen : setIn? (slots.insert key ⟨.text value, some seconds⟩) index =
      some (held, expiry) := by
    rw [← isSet]
    refine setIn?_of_getElem?_eq ?_
    simp [Std.ExtTreeMap.getElem?_insert, Std.LawfulEqCmp.compare_eq_iff_eq, apart]
  obtain ⟨added, registered⟩ := Does.addMember isSetThen key
  have present : ((slots.insert key ⟨.text value, some seconds⟩).insert index
      ⟨.set (held.insert key), expiry⟩)[index]? = some ⟨.set (held.insert key), expiry⟩ :=
    Std.ExtTreeMap.getElem?_insert_self
  have prolonged := Does.expire present seconds
  refine ⟨_, written.bind (registered.bind (prolonged.bind (Does.pure 1 _))), ?_, ?_, ?_⟩
  · simp only [textIn?, Std.ExtTreeMap.getElem?_insert, Std.LawfulEqCmp.compare_eq_iff_eq,
      apart.symm, if_false, if_true]
  · simp [setIn?]
  · intro other notKey notIndex
    simp [Std.ExtTreeMap.getElem?_insert, Std.LawfulEqCmp.compare_eq_iff_eq, notKey.symm,
      notIndex.symm]

theorem does_deleteBatches (keys : List String) (slots : Slots) :
    Does (deleteBatches keys) slots () (keys.foldl Std.ExtTreeMap.erase slots) := by
  induction keys using deleteBatches.induct generalizing slots with
  | case1 =>
      rw [deleteBatches]
      exact Does.pure () slots
  | case2 key rest ih =>
      obtain ⟨deleted, does⟩ := Does.delete ((key :: rest).take deleteBatch) slots
      have whole : (key :: rest).foldl Std.ExtTreeMap.erase slots =
          ((key :: rest).drop deleteBatch).foldl Std.ExtTreeMap.erase
            (((key :: rest).take deleteBatch).foldl Std.ExtTreeMap.erase slots) := by
        rw [← List.foldl_append, List.take_append_drop]
      rw [deleteBatches, whole]
      exact does.bind (ih _)

/-- Clearing an index empties the keys that are registered in it, and no others. -/
theorem does_clearIndexed (isSet : setIn? slots index = some (held, expiry)) :
    ∃ count after, Does (clearIndexed index) slots count after ∧
      ∀ other, after[other]? = if other ∈ held ∨ other = index then none else slots[other]? := by
  obtain ⟨deleted, dropped⟩ :=
    Does.delete [index] (held.toList.foldl Std.ExtTreeMap.erase slots)
  refine ⟨_, _, (Does.members isSet).bind ((does_deleteBatches _ slots).bind
    (dropped.bind (Does.pure _ _))), fun other => ?_⟩
  rw [getElem?_foldl_erase, getElem?_foldl_erase]
  simp only [List.mem_singleton, Std.ExtTreeSet.mem_toList]
  by_cases isIndex : other = index <;> simp [isIndex]

end Scripts

/-! ## Putting, getting and clearing -/

section Calls

variable {keyspace : Keyspace} {held : Bag String} {expiry : Option String}

/-- Caching grants for a time writes their text, registers its key and changes nothing else. -/
theorem exists_putGrants (free : keyspace.refusals = ∅)
    (isSet : setIn? keyspace.slots (grantsIndexKey keyPrefix) = some (held, expiry))
    (revision : Uuid) (user : String) (grants : Grants) {seconds : Nat} (lasts : seconds ≠ 0) :
    ∃ later, putGrants true keyPrefix revision user grants seconds keyspace = (.ok (), later) ∧
      later.refusals = ∅ ∧
      textIn? later.slots (grantsKey keyPrefix revision user) = some (some grants.text) ∧
      setIn? later.slots (grantsIndexKey keyPrefix) =
        some (held.insert (grantsKey keyPrefix revision user), some (toString seconds)) ∧
      ∀ other, other ≠ grantsKey keyPrefix revision user → other ≠ grantsIndexKey keyPrefix →
        later.slots[other]? = keyspace.slots[other]? := by
  rcases does_putIndexed isSet (grantsKey_ne_grantsIndexKey revision user) grants.text
    (toString seconds) with ⟨after, does, written, registered, unchanged⟩
  have invoked : Does (invoke .putGrants [grantsKey keyPrefix revision user,
      grantsIndexKey keyPrefix] [grants.text, toString seconds]) keyspace.slots 1 after :=
    Does.invoke does
  rcases invoked.ignored.attempt (.writeCache user) free rfl with ⟨later, ran, freeThen, rfl⟩
  refine ⟨later, ?_, freeThen, written, registered, unchanged⟩
  rw [putGrants, if_neg lasts]
  exact ran

/-- What a get answers when it finds a text, or none. -/
def answerOf (user : String) : Option String → Except ServiceError (Option Grants)
  | none => .ok none
  | some text =>
    match Grants.ofText text with
    | .ok grants => .ok (some grants)
    | .error fault => .error (.corruptCache user fault)

/-- A get reads the text under its key and changes nothing. -/
theorem exists_getGrants (free : keyspace.refusals = ∅) {revision : Uuid} {user : String}
    {found : Option String}
    (isText : textIn? keyspace.slots (grantsKey keyPrefix revision user) = some found) :
    ∃ later, getGrants true keyPrefix revision user keyspace = (answerOf user found, later) ∧
      later.refusals = ∅ ∧ later.slots = keyspace.slots := by
  rcases (Does.getText isText).attempt (.readCache user) free rfl with ⟨later, ran, freeThen, same⟩
  refine ⟨later, ?_, freeThen, same⟩
  rw [getGrants, ran]
  cases found with
  | none => rfl
  | some text =>
      simp only [answerOf]
      cases Grants.ofText text <;> rfl

/-- Clearing empties the registered keys and the index, and no others. -/
theorem exists_clearGrants (free : keyspace.refusals = ∅)
    (isSet : setIn? keyspace.slots (grantsIndexKey keyPrefix) = some (held, expiry)) :
    ∃ later, clearGrants true keyPrefix keyspace = (.ok (), later) ∧ later.refusals = ∅ ∧
      ∀ other, later.slots[other]? =
        if other ∈ held ∨ other = grantsIndexKey keyPrefix then none else keyspace.slots[other]? := by
  rcases does_clearIndexed isSet with ⟨count, after, does, erased⟩
  have invoked : Does (invoke .clearGrants [grantsIndexKey keyPrefix] []) keyspace.slots count
      after := Does.invoke does
  rcases invoked.ignored.attempt .clearCache free rfl with ⟨later, ran, freeThen, rfl⟩
  exact ⟨later, ran, freeThen, erased⟩

end Calls

end Keyspace

theorem GrantCache.get_insert_of_ne {cache : GrantCache} {revision other : Uuid}
    {user otherUser : String} {grants : Grants} (apart : ¬ (revision = other ∧ user = otherUser)) :
    GrantCache.get (cache.insert ⟨revision, user⟩ grants) other otherUser =
      cache.get other otherUser := by
  have keys : (⟨revision, user⟩ : CacheKey) ≠ ⟨other, otherUser⟩ := by simpa using apart
  simp [GrantCache.get, Std.ExtTreeMap.getElem?_insert, Std.LawfulEqCmp.compare_eq_iff_eq, keys]

/-! ## Uses of a cache -/

/-- What a cache is used for. -/
inductive CacheUse where
  | put (revision : Uuid) (user : String) (grants : Grants) (seconds : Nat)
  | get (revision : Uuid) (user : String)
  | clear

namespace CacheUse

/-- What a use makes of a cache in memory. -/
def inMemory (cache : GrantCache) : CacheUse → GrantCache
  | put revision user grants seconds => cache.put revision user grants seconds
  | get .. => cache
  | clear => ∅

/-- What a use makes of a keyspace that the cache is kept in. -/
def inKeyspace (keyPrefix : String) (keyspace : Keyspace) : CacheUse → Keyspace
  | put revision user grants seconds =>
    (Keyspace.putGrants true keyPrefix revision user grants seconds keyspace).2
  | get revision user => (Keyspace.getGrants true keyPrefix revision user keyspace).2
  | clear => (Keyspace.clearGrants true keyPrefix keyspace).2

end CacheUse

/-- The cache in memory after it was used. -/
def GrantCache.after (uses : List CacheUse) : GrantCache :=
  uses.foldl CacheUse.inMemory ∅

/-- A keyspace after the cache in it was used. -/
def Keyspace.afterUses (keyPrefix : String) (start : Keyspace) (uses : List CacheUse) : Keyspace :=
  uses.foldl (CacheUse.inKeyspace keyPrefix) start

namespace Keyspace

variable {keyPrefix : String} {cache : GrantCache} {keyspace : Keyspace}

/-- A keyspace that refuses nothing and holds a cache: the texts of all cached grants, registered in
the index, and no other texts under such keys. -/
structure Mirrors (keyPrefix : String) (cache : GrantCache) (keyspace : Keyspace) : Prop where
  free : keyspace.refusals = ∅
  texts : ∀ (revision : Uuid) (user : String),
    textIn? keyspace.slots (grantsKey keyPrefix revision user) =
      some ((cache.get revision user).map Grants.text)
  registered : ∃ held expiry, setIn? keyspace.slots (grantsIndexKey keyPrefix) = some (held, expiry) ∧
    ∀ (revision : Uuid) (user : String), (cache.get revision user).isSome = true →
      grantsKey keyPrefix revision user ∈ held

namespace Mirrors

theorem put (mirrors : Mirrors keyPrefix cache keyspace) (revision : Uuid) (user : String)
    (grants : Grants) (seconds : Nat) :
    ∃ later, putGrants true keyPrefix revision user grants seconds keyspace = (.ok (), later) ∧
      Mirrors keyPrefix (cache.put revision user grants seconds) later := by
  by_cases lasts : seconds = 0
  · rw [putGrants, GrantCache.put, if_pos lasts, if_pos lasts]
    exact ⟨keyspace, rfl, mirrors⟩
  · rw [GrantCache.put, if_neg lasts]
    obtain ⟨held, expiry, isSet, isRegistered⟩ := mirrors.registered
    obtain ⟨later, ran, free, written, registered, unchanged⟩ :=
      exists_putGrants mirrors.free isSet revision user grants lasts
    refine ⟨later, ran, free, fun other otherUser => ?_, _, _, registered, fun other otherUser => ?_⟩
    · by_cases same : revision = other ∧ user = otherUser
      · obtain ⟨rfl, rfl⟩ := same
        rw [written, GrantCache.get, Std.ExtTreeMap.getElem?_insert_self]
        rfl
      · have otherKey : grantsKey keyPrefix other otherUser ≠ grantsKey keyPrefix revision user :=
          fun equal => same ((grantsKey_inj equal).imp Eq.symm Eq.symm)
        rw [textIn?_of_getElem?_eq (unchanged _ otherKey (grantsKey_ne_grantsIndexKey _ _)),
          mirrors.texts, GrantCache.get_insert_of_ne same]
    · intro cached
      by_cases same : revision = other ∧ user = otherUser
      · obtain ⟨rfl, rfl⟩ := same
        exact Std.ExtTreeSet.mem_insert_self
      · rw [GrantCache.get_insert_of_ne same] at cached
        exact Std.ExtTreeSet.mem_insert.mpr (.inr (isRegistered other otherUser cached))

theorem clear (mirrors : Mirrors keyPrefix cache keyspace) :
    ∃ later, clearGrants true keyPrefix keyspace = (.ok (), later) ∧ Mirrors keyPrefix ∅ later := by
  obtain ⟨held, expiry, isSet, isRegistered⟩ := mirrors.registered
  obtain ⟨later, ran, free, erased⟩ := exists_clearGrants mirrors.free isSet
  refine ⟨later, ran, free, fun revision user => ?_, ∅, none, ?_, by simp [GrantCache.get]⟩
  · rw [GrantCache.get, Std.ExtTreeMap.getElem?_empty, Option.map_none]
    have isText := mirrors.texts revision user
    by_cases isHeld : grantsKey keyPrefix revision user ∈ held
    · rw [textIn?, erased, if_pos (.inl isHeld)]
    · have nothing : cache.get revision user = none := by
        by_contra something
        exact isHeld (isRegistered revision user (Option.isSome_iff_ne_none.mpr something))
      have notIndex : grantsKey keyPrefix revision user ≠ grantsIndexKey keyPrefix :=
        grantsKey_ne_grantsIndexKey revision user
      rw [nothing, Option.map_none] at isText
      rw [← isText]
      refine textIn?_of_getElem?_eq ?_
      rw [erased, if_neg (by simp [isHeld, notIndex])]
  · rw [setIn?, erased]
    simp

/-- What is found is read from the text of the grants that are cached in memory. -/
theorem get (mirrors : Mirrors keyPrefix cache keyspace) (revision : Uuid) (user : String) :
    ∃ later, getGrants true keyPrefix revision user keyspace =
        (match cache.get revision user with
          | none => .ok none
          | some grants =>
            match Grants.ofText grants.text with
            | .ok read => .ok (some read)
            | .error fault => .error (.corruptCache user fault), later) ∧
      Mirrors keyPrefix cache later := by
  obtain ⟨later, ran, free, same⟩ := exists_getGrants mirrors.free (mirrors.texts revision user)
  refine ⟨later, ?_, free, same ▸ mirrors.texts, same ▸ mirrors.registered⟩
  rw [ran]
  cases cache.get revision user <;> rfl

/-- A cache in a keyspace goes on mirroring the cache in memory. -/
theorem use (mirrors : Mirrors keyPrefix cache keyspace) (use : CacheUse) :
    Mirrors keyPrefix (use.inMemory cache) (use.inKeyspace keyPrefix keyspace) := by
  cases use with
  | put revision user grants seconds =>
      obtain ⟨later, ran, mirrorsThen⟩ := mirrors.put revision user grants seconds
      rwa [CacheUse.inKeyspace, ran]
  | get revision user =>
      obtain ⟨later, ran, mirrorsThen⟩ := mirrors.get revision user
      rwa [CacheUse.inKeyspace, ran]
  | clear =>
      obtain ⟨later, ran, mirrorsThen⟩ := mirrors.clear
      rwa [CacheUse.inKeyspace, ran]

theorem uses (mirrors : Mirrors keyPrefix cache keyspace) (uses : List CacheUse) :
    Mirrors keyPrefix (uses.foldl CacheUse.inMemory cache)
      (uses.foldl (CacheUse.inKeyspace keyPrefix) keyspace) := by
  induction uses generalizing cache keyspace with
  | nil => exact mirrors
  | cons first rest ih => exact ih (mirrors.use first)

end Mirrors

/-- A server that refuses nothing and holds nothing under the keys of a cache mirrors the empty
cache. -/
theorem mirrors_empty (free : keyspace.refusals = ∅)
    (vacant : ∀ (revision : Uuid) (user : String),
      keyspace.slots[grantsKey keyPrefix revision user]? = none)
    (unregistered : keyspace.slots[grantsIndexKey keyPrefix]? = none) :
    Mirrors keyPrefix ∅ keyspace where
  free := free
  texts revision user := by simp [textIn?, vacant, GrantCache.get]
  registered := ⟨∅, none, by simp [setIn?, unregistered], by simp [GrantCache.get]⟩

end Keyspace

/-! ## What the two caches answer -/

/-- Whether a use puts grants that a snapshot of decoded permissions resolves to, and that their text
keeps. -/
def CacheUse.PutsResolved : CacheUse → Prop
  | .put _ _ grants _ => grants.IsResolved ∧ Json.IsKept Grants.shape grants.toJson
  | _ => True

theorem GrantCache.of_get_uses {uses : List CacheUse} {kind : Grants → Prop} {cache : GrantCache}
    (held : ∀ (revision : Uuid) (user : String) (grants : Grants),
      cache.get revision user = some grants → kind grants)
    (puts : ∀ (revision : Uuid) (user : String) (grants : Grants) (seconds : Nat),
      .put revision user grants seconds ∈ uses → kind grants) :
    ∀ (revision : Uuid) (user : String) (grants : Grants),
      (uses.foldl CacheUse.inMemory cache).get revision user = some grants → kind grants := by
  induction uses generalizing cache with
  | nil => exact held
  | cons first rest ih =>
      refine ih (fun revision user grants found => ?_) fun revision user grants seconds later =>
        puts revision user grants seconds (List.mem_cons_of_mem first later)
      cases first with
      | get => exact held revision user grants found
      | clear => simp [CacheUse.inMemory, GrantCache.get] at found
      | put putRevision putUser putGrants seconds =>
          rw [CacheUse.inMemory, GrantCache.put] at found
          split at found
          · exact held revision user grants found
          · by_cases same : putRevision = revision ∧ putUser = user
            · obtain ⟨rfl, rfl⟩ := same
              rw [GrantCache.get, Std.ExtTreeMap.getElem?_insert_self] at found
              exact Option.some.inj found ▸ puts _ _ _ _ (List.mem_cons_self ..)
            · rw [GrantCache.get_insert_of_ne same] at found
              exact held revision user grants found

/-- Whether grants are found in a cache whose keys are all legible, or nothing is found. -/
def AllLegible (found : Option Grants) : Prop :=
  ∀ grants ∈ found, ∀ key ∈ grants, key.IsLegible

/-- After any uses, a cache in a keyspace answers as the one in memory does, if and only if all keys
of the cached grants are legible; if some key is not, the answer is that the cached text is corrupt. -/
theorem getGrants_agrees_iff_allLegible {keyPrefix : String} {start : Keyspace}
    {uses : List CacheUse} (free : start.refusals = ∅)
    (vacant : ∀ (revision : Uuid) (user : String),
      start.slots[Keyspace.grantsKey keyPrefix revision user]? = none)
    (unregistered : start.slots[Keyspace.grantsIndexKey keyPrefix]? = none)
    (resolved : ∀ use ∈ uses, use.PutsResolved) (revision : Uuid) (user : String) :
    ((Keyspace.getGrants true keyPrefix revision user (start.afterUses keyPrefix uses)).1 =
        .ok ((GrantCache.after uses).get revision user) ↔
      AllLegible ((GrantCache.after uses).get revision user)) ∧
    (¬ AllLegible ((GrantCache.after uses).get revision user) →
      ∃ fault, (Keyspace.getGrants true keyPrefix revision user
        (start.afterUses keyPrefix uses)).1 = .error (.corruptCache user fault)) := by
  have mirrors := (Keyspace.mirrors_empty free vacant unregistered).uses uses
  obtain ⟨later, answered, -⟩ := mirrors.get revision user
  rw [Keyspace.afterUses, answered, ← GrantCache.after]
  cases held : (GrantCache.after uses).get revision user with
  | none => simp [AllLegible]
  | some grants =>
      have puts (revision : Uuid) (user : String) (grants : Grants) (seconds : Nat)
          (isUse : .put revision user grants seconds ∈ uses) :
          grants.IsResolved ∧ Json.IsKept Grants.shape grants.toJson :=
        resolved (.put revision user grants seconds) isUse
      obtain ⟨isResolved, kept⟩ :=
        GrantCache.of_get_uses (by simp [GrantCache.get]) puts revision user grants held
      have allLegible_iff : AllLegible (some grants) ↔ ∀ key ∈ grants, key.IsLegible := by
        simp only [AllLegible, Option.mem_some_iff, forall_eq']
      rw [allLegible_iff]
      by_cases legible : ∀ key ∈ grants, key.IsLegible
      · simp only [isResolved.ofText_text kept legible]
        exact ⟨iff_of_true trivial legible, fun illegible => absurd legible illegible⟩
      · obtain ⟨fault, refused⟩ := isResolved.exists_ofText_text_error kept legible
        simp only [refused]
        exact ⟨iff_of_false (by simp) legible, fun _ => ⟨fault, rfl⟩⟩

/-! ## A press office -/

namespace Press

/-- A permission to view content at one subpath. -/
def document (name subpath : String) : Json :=
  .obj [("actions", .arr [.str "view"]), ("is_active", .bool true),
    ("resource_types", .arr [.str "content"]), ("shortname", .str name),
    ("subpaths", .obj [("acme", .arr [.str subpath])])]

/-- What such a document says. -/
def permission (name : Shortname) (subpath : String) : Permission where
  shortname := name
  isActive := true
  subpaths := Std.ExtTreeMap.ofList [("acme", [subpath])]
  types := Std.ExtTreeSet.ofList [ResourceType.content]
  actions := Std.ExtTreeSet.ofList [Action.view]
  conditions := ∅
  restrictedFields := []
  allowedValues := ∅

/-- Two permissions, one of which names a subpath with a colon, and a role for each. -/
def current : Snapshot :=
  { Snapshot.empty with
    permissions := Std.ExtTreeMap.ofList [("read_blog", permission ⟨"read_blog", by decide⟩ "blog"),
      ("read_press", permission ⟨"read_press", by decide⟩ "press:2024")]
    roles := Std.ExtTreeMap.ofList
      [("blogger", (⟨⟨"blogger", by decide⟩, true, [⟨"read_blog", by decide⟩]⟩ : Role)),
        ("reporter", ⟨⟨"reporter", by decide⟩, true, [⟨"read_press", by decide⟩]⟩)] }

/-- What a user with one role may do. -/
def granted (role : Shortname) : Grants :=
  Resolution.grants current ⟨⟨"writer", by decide⟩, true, [role], []⟩ none

theorem isResolved_granted (role : Shortname) : (granted role).IsResolved := by
  refine .grants (fun name permission known => ?_) _ none
  have isMember := Dict.mem_of_getElem?_ofList known
  simp only [List.mem_cons, Prod.mk.injEq, List.not_mem_nil, or_false] at isMember
  rcases isMember with ⟨-, rfl⟩ | ⟨-, rfl⟩
  · exact ⟨document "read_blog" "blog", rfl, rfl⟩
  · exact ⟨document "read_press" "press:2024", rfl, rfl⟩

/-- What a reporter may do, under a key that holds a colon too many. -/
def alice : Grants := granted ⟨"reporter", by decide⟩

/-- What a blogger may do. -/
def bob : Grants := granted ⟨"blogger", by decide⟩

theorem not_allLegible_alice : ¬ AllLegible (some alice) := by
  intro legible
  have isKey : (⟨"acme", "press:2024", .content⟩ : PermissionKey) ∈ alice := by decide
  exact absurd (legible alice rfl _ isKey).2 (by decide)

/-- Neither role has numbers in its grants. -/
theorem isKept_granted {role : Shortname}
    (shallow : Json.nesting (granted role).toJson < Json.depthLimit)
    (noNumbers : (Json.numbers (granted role).toJson).isEmpty = true) :
    Json.IsKept Grants.shape (granted role).toJson := by
  refine Grants.isKept_toJson (fun _ _ => (isResolved_granted role).isReadable) shallow ?_
  intro number isNumber
  rw [List.isEmpty_iff.mp noNumbers] at isNumber
  cases isNumber

theorem isKept_alice : Json.IsKept Grants.shape alice.toJson :=
  isKept_granted (by decide +kernel) (by decide +kernel)

theorem isKept_bob : Json.IsKept Grants.shape bob.toJson :=
  isKept_granted (by decide +kernel) (by decide +kernel)

/-- The reporter's grants are cached, dropped and cached again, and so are the blogger's. -/
def uses : List CacheUse :=
  [.put .nil "alice" alice 300, .get .nil "alice", .clear, .put .nil "bob" bob 60, .get .nil "bob",
    .put .nil "alice" alice 300]

theorem putsResolved_uses : ∀ use ∈ uses, use.PutsResolved := by
  intro use isUse
  simp only [uses, List.mem_cons, List.not_mem_nil, or_false] at isUse
  rcases isUse with rfl | rfl | rfl | rfl | rfl | rfl
  · exact ⟨isResolved_granted _, isKept_alice⟩
  · trivial
  · trivial
  · exact ⟨isResolved_granted _, isKept_bob⟩
  · trivial
  · exact ⟨isResolved_granted _, isKept_alice⟩

end Press

theorem getGrants_agrees_iff_allLegible_press :
    ¬ AllLegible ((GrantCache.after Press.uses).get .nil "alice") ∧
    ((Keyspace.getGrants true "press" .nil "alice"
        (Keyspace.empty.afterUses "press" Press.uses)).1 =
        .ok ((GrantCache.after Press.uses).get .nil "alice") ↔
      AllLegible ((GrantCache.after Press.uses).get .nil "alice")) ∧
    (¬ AllLegible ((GrantCache.after Press.uses).get .nil "alice") →
      ∃ fault, (Keyspace.getGrants true "press" .nil "alice"
        (Keyspace.empty.afterUses "press" Press.uses)).1 = .error (.corruptCache "alice" fault)) := by
  have cached : (GrantCache.after Press.uses).get .nil "alice" = some Press.alice := rfl
  refine ⟨cached ▸ Press.not_allLegible_alice, ?_⟩
  exact getGrants_agrees_iff_allLegible rfl (fun _ _ => by simp [Keyspace.empty])
    (by simp [Keyspace.empty]) Press.putsResolved_uses .nil "alice"

end AccessControl
