import AccessControl.Proofs.Keyspace.GrantCache
import AccessControl.Proofs.Keyspace.SnapshotShelf

/-!
# Sharing a keyspace

Published documents and cached grants may be held by one server.  A cache writes under keys of its own
only, and drops only what it has registered there.  So as long as none of its keys is one for published
documents, these stay as they are, whatever caches are asked to do.
-/

namespace AccessControl.Keyspace

/-! ## What steps uphold -/

section Upholds

variable {α β : Type} {invariant : Keyspace → Prop} {step : Step α} {answers : α → Prop}

/-- Whether a step keeps the server in states of a kind, and answers values of a kind if it answers
one. -/
def Upholds (invariant : Keyspace → Prop) (step : Step α) (answers : α → Prop) : Prop :=
  ∀ keyspace, invariant keyspace → invariant (step.run keyspace).2 ∧
    ∀ value, (step.run keyspace).1 = .ok value → answers value

namespace Upholds

theorem pure {value : α} (isAnswer : answers value) :
    Upholds invariant (Pure.pure value : Step α) answers := by
  intro keyspace held
  refine ⟨held, fun other same => ?_⟩
  cases same
  exact isAnswer

/-- Ending with a value upholds everything, if the value does not matter. -/
theorem done (value : α) : Upholds invariant (Pure.pure value : Step α) fun _ => True :=
  pure trivial

theorem throw (error : ReplyError) : Upholds invariant (MonadExcept.throw error : Step α) answers :=
  fun _ held => ⟨held, nofun⟩

theorem bind {middle : α → Prop} {next : α → Step β} {answers : β → Prop}
    (first : Upholds invariant step middle)
    (second : ∀ value, middle value → Upholds invariant (next value) answers) :
    Upholds invariant (step >>= next) answers := by
  intro keyspace held
  have upheld := first keyspace held
  rw [run_bind]
  cases ran : step.run keyspace with
  | mk answer later =>
      rw [ran] at upheld
      cases answer with
      | error error => exact ⟨upheld.1, nofun⟩
      | ok value => exact second value (upheld.2 value rfl) later upheld.1

theorem tryCatch {handler : ReplyError → Step α} (first : Upholds invariant step answers)
    (second : ∀ error, Upholds invariant (handler error) answers) :
    Upholds invariant (tryCatch step handler) answers := by
  intro keyspace held
  have upheld := first keyspace held
  rw [run_tryCatch]
  cases ran : step.run keyspace with
  | mk answer later =>
      rw [ran] at upheld
      cases answer with
      | error error => exact second error later upheld.1
      | ok value => exact upheld

/-- The server is asked in a state of the kind. -/
theorem get : Upholds invariant (MonadState.get : Step Keyspace) invariant := by
  intro keyspace held
  refine ⟨held, fun other same => ?_⟩
  cases same
  exact held

theorem modify {change : Keyspace → Keyspace}
    (kept : ∀ keyspace, invariant keyspace → invariant (change keyspace)) :
    Upholds invariant (modify change : Step Unit) fun _ => True :=
  fun keyspace held => ⟨kept keyspace held, fun _ _ => trivial⟩

theorem permit (name : String) : Upholds invariant (Keyspace.permit name) fun _ => True := by
  refine get.bind fun keyspace _ => ?_
  split
  · exact throw _
  · exact pure trivial

/-- Whatever a step is to be permitted by does not matter. -/
theorem permitted {name : String} (upholds : Upholds invariant step answers) :
    Upholds invariant (Keyspace.permit name >>= fun _ => step) answers :=
  (permit name).bind fun _ _ => upholds

theorem slot? (key : String) {answers : Option Slot → Prop}
    (isAnswer : ∀ keyspace, invariant keyspace → answers keyspace.slots[key]?) :
    Upholds invariant (Keyspace.slot? key) answers :=
  get.bind fun keyspace held => pure (isAnswer keyspace held)

theorem put {key : String} {slot : Slot}
    (kept : ∀ keyspace, invariant keyspace →
      invariant { keyspace with slots := keyspace.slots.insert key slot }) :
    Upholds invariant (Keyspace.put key slot) fun _ => True :=
  modify kept

theorem runScript {script : Script} {keys arguments : List String} {answers : Nat → Prop}
    (upholds : Upholds invariant (script.body keys arguments) answers) :
    Upholds invariant (Keyspace.runScript script keys arguments) answers := by
  refine permitted (get.bind fun keyspace _ => ?_)
  split
  · exact upholds
  · exact throw _

/-- Giving the server a script does not matter where the known scripts do not. -/
theorem invoke {script : Script} {keys arguments : List String} {answers : Nat → Prop}
    (upholds : Upholds invariant (script.body keys arguments) answers)
    (taught : ∀ keyspace, invariant keyspace → invariant (taught script keyspace)) :
    Upholds invariant (Keyspace.invoke script keys arguments) answers := by
  refine upholds.runScript.tryCatch fun error => ?_
  split
  · exact Upholds.bind (permitted (modify taught)) fun _ _ => upholds.runScript
  · exact throw _

/-- An attempt does what its step does, or nothing if the server is not there. -/
theorem attempt (upholds : Upholds invariant step answers) {keyspace : Keyspace}
    (held : invariant keyspace) (isUp : Bool) (errand : KeyspaceErrand) :
    invariant (Keyspace.attempt isUp errand step keyspace).2 := by
  have upheld := (upholds keyspace held).1
  rw [Keyspace.attempt]
  cases isUp with
  | false => exact held
  | true =>
      simp only [if_true]
      cases ran : step.run keyspace with
      | mk answer later =>
          rw [ran] at upheld
          cases answer <;> exact upheld

end Upholds

end Upholds

/-! ## Keys -/

section Keys

variable {keyPrefix cachePrefix other : String} {slots : Slots} {key : String}

/-- Whether a key is for cached grants. -/
def IsGrantsKey (cachePrefix key : String) : Prop :=
  ∃ revision user, key = grantsKey cachePrefix revision user

/-- Whether no key of a cache is one for published documents. -/
structure Apart (keyPrefix cachePrefix : String) : Prop where
  grants : ∀ key, IsGrantsKey cachePrefix key → ¬ IsShelfKey keyPrefix key
  index : ¬ IsShelfKey keyPrefix (grantsIndexKey cachePrefix)

theorem cons_append_ne {c d : Char} (differs : c ≠ d) (front one two : List Char) :
    c :: (front ++ one) ≠ front ++ d :: two := by
  induction front with
  | nil => exact fun same => differs (List.cons.inj same).1
  | cons first rest ih =>
      intro same
      rcases List.cons.inj same with ⟨rfl, same⟩
      exact ih same

/-- A key that starts with a brace and the name of a store is none of the store's. -/
theorem not_isShelfKey_of_isPrefix (starts : '\x7b' :: keyPrefix.toList <+: key.toList) :
    ¬ IsShelfKey keyPrefix key := by
  rcases starts with ⟨rest, braced⟩
  have ne_colon (two : List Char) : key.toList ≠ keyPrefix.toList ++ ':' :: two := by
    rw [← braced]
    exact cons_append_ne (by decide) _ _ _
  intro isShelf
  rcases isShelf with (rfl | ⟨name, rfl⟩) | ⟨name, rfl⟩
  · exact ne_colon _ toList_permissionNamesKey
  · exact ne_colon _ toList_permissionKey
  · exact ne_colon _ toList_snapshotKey

/-- A cache and a store of documents with the same name in front of their keys do not meet. -/
theorem apart_self : Apart keyPrefix keyPrefix where
  grants key isGrants := by
    rcases isGrants with ⟨revision, user, rfl⟩
    apply not_isShelfKey_of_isPrefix
    simp [grantsKey]
  index := by
    apply not_isShelfKey_of_isPrefix
    simp [grantsIndexKey]

theorem grantsIndexKey_inj (same : grantsIndexKey cachePrefix = grantsIndexKey other) :
    cachePrefix = other := by
  rw [← String.toList_inj] at same ⊢
  simpa [toList_grantsIndexKey] using same

/-- Whether what a cache has registered, if anything, are keys for cached grants. -/
def RegistersGrants (cachePrefix : String) (slots : Slots) : Prop :=
  ∀ held expiry, slots[grantsIndexKey cachePrefix]? = some ⟨.set held, expiry⟩ →
    ∀ key ∈ held, IsGrantsKey cachePrefix key

namespace RegistersGrants

theorem of_getElem?_eq {after : Slots} (registers : RegistersGrants cachePrefix slots)
    (same : after[grantsIndexKey cachePrefix]? = slots[grantsIndexKey cachePrefix]?) :
    RegistersGrants cachePrefix after := by
  intro held expiry isHeld
  exact registers held expiry (same.symm.trans isHeld)

/-- A set that is put where the registered keys are holds keys for cached grants only. -/
theorem insert {slot : Slot} (registers : RegistersGrants cachePrefix slots)
    (fits : key = grantsIndexKey cachePrefix → ∀ held expiry, slot = ⟨.set held, expiry⟩ →
      ∀ member ∈ held, IsGrantsKey cachePrefix member) :
    RegistersGrants cachePrefix (slots.insert key slot) := by
  intro held expiry isHeld
  by_cases same : key = grantsIndexKey cachePrefix
  · subst same
    rw [Std.ExtTreeMap.getElem?_insert_self] at isHeld
    exact fits rfl held expiry (Option.some.inj isHeld)
  · rw [getElem?_insert_of_ne (Ne.symm same)] at isHeld
    exact registers held expiry isHeld

theorem foldl_erase (registers : RegistersGrants cachePrefix slots) (keys : List String) :
    RegistersGrants cachePrefix (keys.foldl Std.ExtTreeMap.erase slots) := by
  intro held expiry isHeld
  rw [getElem?_foldl_erase] at isHeld
  split at isHeld
  · cases isHeld
  · exact registers held expiry isHeld

end RegistersGrants

end Keys

/-! ## Published documents among cached grants -/

/-- A server that refuses nothing and holds the documents, besides caches that have registered keys of
their own only. -/
structure Publishes (keyPrefix : String) (documents : Dict String Json) (keyspace : Keyspace) :
    Prop where
  free : keyspace.refusals = ∅
  files : ∃ permissions, Files keyPrefix permissions (documents[·]?) keyspace.slots
  registers : ∀ cachePrefix, Apart keyPrefix cachePrefix → RegistersGrants cachePrefix keyspace.slots

namespace Publishes

variable {keyPrefix cachePrefix key : String} {documents : Dict String Json} {keyspace : Keyspace}
  {isUp : Bool}

theorem empty : Publishes keyPrefix ∅ Keyspace.empty where
  free := rfl
  files := by
    have nothing : (fun name => (∅ : Dict String Json)[name]?) = fun _ => none :=
      funext fun _ => Std.ExtTreeMap.getElem?_empty
    rw [nothing]
    exact ⟨[], Files.empty⟩
  registers _ _ := by simp [RegistersGrants, Keyspace.empty]

/-- What the server knows besides what it holds does not matter. -/
theorem congr (publishes : Publishes keyPrefix documents keyspace) {after : Keyspace}
    (free : after.refusals = keyspace.refusals) (same : after.slots = keyspace.slots) :
    Publishes keyPrefix documents after where
  free := free.trans publishes.free
  files := by rw [same]; exact publishes.files
  registers := by rw [same]; exact publishes.registers

/-- Something is put under a key that is none for published documents. -/
theorem put (publishes : Publishes keyPrefix documents keyspace) {slot : Slot}
    (apart : ¬ IsShelfKey keyPrefix key)
    (fits : ∀ cachePrefix, key = grantsIndexKey cachePrefix → ∀ held expiry,
      slot = ⟨.set held, expiry⟩ → ∀ member ∈ held, IsGrantsKey cachePrefix member) :
    Publishes keyPrefix documents { keyspace with slots := keyspace.slots.insert key slot } where
  free := publishes.free
  files := by
    rcases publishes.files with ⟨permissions, files⟩
    refine ⟨permissions, files.congr fun other isShelf => ?_⟩
    apply getElem?_insert_of_ne
    rintro rfl
    exact apart isShelf
  registers other isApart := (publishes.registers other isApart).insert (fits other)

/-- Keys are dropped that are none for published documents. -/
theorem erase (publishes : Publishes keyPrefix documents keyspace) {keys : List String}
    (apart : ∀ key ∈ keys, ¬ IsShelfKey keyPrefix key) :
    Publishes keyPrefix documents
      { keyspace with slots := keys.foldl Std.ExtTreeMap.erase keyspace.slots } where
  free := publishes.free
  files := by
    rcases publishes.files with ⟨permissions, files⟩
    refine ⟨permissions, files.congr fun other isShelf => ?_⟩
    rw [getElem?_foldl_erase, if_neg fun dropped => apart other dropped isShelf]
  registers other isApart := (publishes.registers other isApart).foldl_erase keys

/-! ### Caches -/

theorem set (apart : ¬ IsShelfKey keyPrefix key) (value : String) (expiry : Option String) :
    Upholds (Publishes keyPrefix documents) (Keyspace.set key value expiry) fun _ => True :=
  .permitted (.put fun _ publishes => publishes.put apart fun _ _ _ _ isSet => by cases isSet)

theorem delete {keys : List String} (apart : ∀ key ∈ keys, ¬ IsShelfKey keyPrefix key) :
    Upholds (Publishes keyPrefix documents) (Keyspace.delete keys) fun _ => True := by
  refine .permitted ?_
  intro keyspace publishes
  exact ⟨publishes.erase apart, fun _ _ => trivial⟩

theorem deleteBatches {keys : List String} (apart : ∀ key ∈ keys, ¬ IsShelfKey keyPrefix key) :
    Upholds (Publishes keyPrefix documents) (Keyspace.deleteBatches keys) fun _ => True := by
  induction keys using deleteBatches.induct with
  | case1 =>
      rw [Keyspace.deleteBatches]
      exact .pure trivial
  | case2 key rest ih =>
      rw [Keyspace.deleteBatches]
      refine (delete fun other isFirst => apart other (List.mem_of_mem_take isFirst)).bind fun _ _ => ?_
      exact ih fun other isLater => apart other (List.mem_of_mem_drop isLater)

variable (apart : Apart keyPrefix cachePrefix)

include apart

/-- A set that is found where a cache registers keys holds keys for cached grants only. -/
theorem slot?_index : Upholds (Publishes keyPrefix documents)
    (slot? (grantsIndexKey cachePrefix)) fun slot => ∀ held expiry, slot = some ⟨.set held, expiry⟩ →
      ∀ member ∈ held, IsGrantsKey cachePrefix member :=
  .slot? _ fun _ publishes => publishes.registers cachePrefix apart

theorem setAt_index : Upholds (Publishes keyPrefix documents)
    (setAt (grantsIndexKey cachePrefix)) fun found =>
      ∀ member ∈ found.1, IsGrantsKey cachePrefix member := by
  refine (slot?_index apart).bind fun slot fits => ?_
  split
  · exact .pure (by simp)
  · exact .pure (fits _ _ rfl)
  · exact .throw _

theorem members_index : Upholds (Publishes keyPrefix documents)
    (members (grantsIndexKey cachePrefix)) fun keys => ∀ key ∈ keys, IsGrantsKey cachePrefix key := by
  refine .permitted ((setAt_index apart).bind fun found fits => .pure fun key isMember => ?_)
  exact fits key (Std.ExtTreeSet.mem_toList.mp isMember)

/-- Whatever is put where a cache registers keys holds keys for cached grants only. -/
theorem put_index {slot : Slot} (fits : ∀ held expiry, slot = ⟨.set held, expiry⟩ →
      ∀ member ∈ held, IsGrantsKey cachePrefix member) :
    Upholds (Publishes keyPrefix documents) (Keyspace.put (grantsIndexKey cachePrefix) slot)
      fun _ => True := by
  refine .put fun keyspace publishes => publishes.put apart.index fun other same => ?_
  cases grantsIndexKey_inj same
  exact fits

theorem addMember_index (isGrants : IsGrantsKey cachePrefix key) :
    Upholds (Publishes keyPrefix documents) (addMembers (grantsIndexKey cachePrefix) [key])
      fun _ => True := by
  refine .permitted ((setAt_index apart).bind fun found fits => ?_)
  refine (put_index apart fun held expiry isSet member isMember => ?_).bind fun _ _ => .pure trivial
  cases isSet
  rw [List.foldl_cons, List.foldl_nil, Std.ExtTreeSet.mem_insert,
    Std.LawfulEqCmp.compare_eq_iff_eq] at isMember
  rcases isMember with rfl | isOld
  · exact isGrants
  · exact fits member isOld

theorem expire_index (seconds : String) :
    Upholds (Publishes keyPrefix documents) (expire (grantsIndexKey cachePrefix) seconds)
      fun _ => True := by
  refine .permitted ((slot?_index apart).bind fun slot fits => ?_)
  split
  · exact .pure trivial
  · next slot =>
    refine (put_index apart fun held expiry isSet => ?_).bind fun _ _ => .pure trivial
    refine fits held slot.expiry ?_
    cases slot
    cases isSet
    rfl

theorem putIndexed (isGrants : IsGrantsKey cachePrefix key) (value seconds : String) :
    Upholds (Publishes keyPrefix documents)
      (Keyspace.putIndexed key (grantsIndexKey cachePrefix) value seconds) fun _ => True :=
  (set (apart.grants key isGrants) value _).bind fun _ _ =>
    (addMember_index apart isGrants).bind fun _ _ =>
      (expire_index apart seconds).bind fun _ _ => .pure trivial

theorem clearIndexed : Upholds (Publishes keyPrefix documents)
    (Keyspace.clearIndexed (grantsIndexKey cachePrefix)) fun _ => True := by
  refine (members_index apart).bind fun keys isGrants => ?_
  refine (deleteBatches fun key isKey => apart.grants key (isGrants key isKey)).bind fun _ _ => ?_
  refine (delete fun key isIndex => ?_).bind fun _ _ => .pure trivial
  cases List.mem_singleton.mp isIndex
  exact apart.index

/-- Whatever a cache is asked to put, what is published stays. -/
theorem putGrants (publishes : Publishes keyPrefix documents keyspace) (isUp : Bool) (revision : Uuid)
    (user : String) (grants : Grants) (seconds : Nat) :
    Publishes keyPrefix documents
      (Keyspace.putGrants isUp cachePrefix revision user grants seconds keyspace).2 := by
  rw [Keyspace.putGrants]
  split
  · exact publishes
  · have asked : Upholds (Publishes keyPrefix documents)
        (invoke .putGrants [grantsKey cachePrefix revision user, grantsIndexKey cachePrefix]
          [grants.text, toString seconds]) fun _ => True :=
      .invoke (putIndexed apart ⟨revision, user, rfl⟩ _ _) fun _ held => held.congr rfl rfl
    exact (asked.bind fun _ _ => .done ()).attempt publishes isUp _

/-- Whatever a cache drops, what is published stays. -/
theorem clearGrants (publishes : Publishes keyPrefix documents keyspace) (isUp : Bool) :
    Publishes keyPrefix documents (Keyspace.clearGrants isUp cachePrefix keyspace).2 := by
  have asked : Upholds (Publishes keyPrefix documents)
      (invoke .clearGrants [grantsIndexKey cachePrefix] []) fun _ => True :=
    .invoke (clearIndexed apart) fun _ held => held.congr rfl rfl
  exact (asked.bind fun _ _ => .done ()).attempt publishes isUp _

omit apart

theorem getGrants (publishes : Publishes keyPrefix documents keyspace) (isUp : Bool)
    (revision : Uuid) (user : String) :
    Publishes keyPrefix documents
      (Keyspace.getGrants isUp cachePrefix revision user keyspace).2 := by
  have asked : Upholds (Publishes keyPrefix documents)
      (getText (grantsKey cachePrefix revision user)) fun _ => True := by
    have looked : Upholds (Publishes keyPrefix documents)
        (slot? (grantsKey cachePrefix revision user)) fun _ => True := .slot? _ fun _ _ => trivial
    refine .permitted (looked.bind fun slot _ => ?_)
    split
    · exact .pure trivial
    · exact .pure trivial
    · exact .throw _
  have kept := asked.attempt publishes isUp (.readCache user)
  rw [Keyspace.getGrants]
  split
  · next ran => rwa [ran] at kept
  · next ran => rwa [ran] at kept
  · next ran =>
    rw [ran] at kept
    split <;> exact kept

/-! ### Documents -/

theorem prepareIndex (publishes : Publishes keyPrefix documents keyspace) (isUp : Bool)
    (indexed : String) :
    Publishes keyPrefix documents (Keyspace.prepareIndex isUp indexed keyspace).2 := by
  have asked (name : String) (description : List String) : Upholds (Publishes keyPrefix documents)
      (createIndex name description) fun _ => True := by
    refine .permitted (Upholds.get.bind fun server _ => ?_)
    have refused : Upholds (Publishes keyPrefix documents) (throw indexExists : Step Unit)
      fun _ => True := .throw _
    split
    · exact refused.bind fun _ _ => .modify fun _ held => held.congr rfl rfl
    · exact .modify fun _ held => held.congr rfl rfl
  have kept := (asked (permissionIndexName indexed) (indexDescription indexed)).attempt publishes isUp
    .createIndex
  rw [Keyspace.prepareIndex]
  split
  · next ran =>
    rw [ran] at kept
    split
    · exact kept
    · split <;> exact kept
  · next ran => rwa [ran] at kept

/-- Publishing succeeds if the server is there, and else changes nothing. -/
theorem persist (publishes : Publishes keyPrefix documents keyspace) (isUp : Bool) (name : String)
    (document : Json) {answer : Except ServiceError Unit} {later : Keyspace}
    (ran : Keyspace.persist isUp keyPrefix name document keyspace = (answer, later)) :
    (answer = .ok () ∧ Publishes keyPrefix (documents.insert name document) later) ∨
      ∃ error, answer = .error error ∧ Publishes keyPrefix documents later := by
  cases isUp with
  | false =>
      cases ran
      exact .inr ⟨_, rfl, publishes⟩
  | true =>
      rcases publishes.files with ⟨permissions, files⟩
      rcases files.persist publishes.free name document with ⟨_, done, free, filesThen, same⟩
      cases ran.symm.trans done
      have inserted : publishing name document (documents[·]?) =
          ((documents.insert name document)[·]?) := by
        funext other
        simp only [publishing, Std.ExtTreeMap.getElem?_insert, Std.LawfulEqCmp.compare_eq_iff_eq,
          eq_comm (a := other)]
      refine .inl ⟨rfl, free, ⟨_, inserted ▸ filesThen⟩, fun cachePrefix isApart => ?_⟩
      exact (publishes.registers cachePrefix isApart).of_getElem?_eq (same _ isApart.index)

/-- What a fetch gives is read from the text of the document. -/
theorem fetch (publishes : Publishes keyPrefix documents keyspace) (isUp : Bool) (name : String) :
    Publishes keyPrefix documents (Keyspace.fetch isUp keyPrefix name keyspace).2 ∧
      ∀ fetched, (Keyspace.fetch isUp keyPrefix name keyspace).1 = .ok fetched →
        Option.Rel (fun document read => Json.read document.write = .ok read) documents[name]?
          fetched := by
  cases isUp with
  | false => exact ⟨publishes, nofun⟩
  | true =>
      rcases publishes.files with ⟨permissions, files⟩
      rcases files.fetch_eq publishes.free name with ⟨later, free, same, ran⟩
      have kept : Publishes keyPrefix documents later :=
        publishes.congr (free.trans publishes.free.symm) same
      rw [ran]
      cases documents[name]? with
      | none =>
          refine ⟨kept, fun fetched isOk => ?_⟩
          cases isOk
          exact .none
      | some document =>
          dsimp only
          cases isRead : Json.read document.write with
          | error fault => exact ⟨kept, nofun⟩
          | ok read =>
              refine ⟨kept, fun fetched isOk => ?_⟩
              cases isOk
              exact .some isRead

end Publishes

end AccessControl.Keyspace
