import AccessControl.Proofs.History
import AccessControl.Proofs.Keyspace.GrantCache

/-!
# Clearing the grants cached in a keyspace

Which keys are cached is told from the uses of a cache: those that grants were put under, for some time,
since the cache was last cleared.  The index registers exactly these keys after any uses.  So clearing,
which empties what the index registers, leaves nothing to be found, and leaves every other key alone.
-/

namespace AccessControl

open Keyspace (grantsKey grantsIndexKey setIn? textIn?)

namespace CacheUse

variable {keyPrefix key : String} {uses : List CacheUse}

/-- Whether a use writes a text under a key.  Grants that are to last for no time at all are not
written. -/
def Caches (keyPrefix key : String) : CacheUse → Prop
  | put revision user _ seconds => seconds ≠ 0 ∧ key = grantsKey keyPrefix revision user
  | get .. => False
  | clear => False

/-- Whether a text was written under a key and the cache was not cleared since. -/
def IsCached (keyPrefix : String) (uses : List CacheUse) (key : String) : Prop :=
  History.Stands (Caches keyPrefix key) (· = clear) uses

theorem not_isCached_nil : ¬ IsCached keyPrefix [] key :=
  History.not_stands_nil

theorem isCached_concat_put {revision : Uuid} {user : String} {grants : Grants} {seconds : Nat} :
    IsCached keyPrefix (uses ++ [put revision user grants seconds]) key ↔
      (seconds ≠ 0 ∧ key = grantsKey keyPrefix revision user) ∨ IsCached keyPrefix uses key := by
  simp [IsCached, History.stands_concat, Caches]

theorem isCached_concat_get {revision : Uuid} {user : String} :
    IsCached keyPrefix (uses ++ [get revision user]) key ↔ IsCached keyPrefix uses key := by
  simp [IsCached, History.stands_concat, Caches]

theorem not_isCached_concat_clear : ¬ IsCached keyPrefix (uses ++ [clear]) key := by
  simp [IsCached, History.stands_concat, Caches]

end CacheUse

open CacheUse (IsCached)

namespace Keyspace

variable {keyPrefix : String} {cached : String → Prop} {keyspace : Keyspace}

/-- A keyspace that refuses nothing, whose index holds exactly the cached keys, and that holds no text
of grants under any other key. -/
structure Registers (keyPrefix : String) (cached : String → Prop) (keyspace : Keyspace) : Prop where
  free : keyspace.refusals = ∅
  registered : ∃ held expiry, setIn? keyspace.slots (grantsIndexKey keyPrefix) = some (held, expiry) ∧
    ∀ key, key ∈ held ↔ cached key
  texts : ∀ (revision : Uuid) (user : String),
    ∃ found, textIn? keyspace.slots (grantsKey keyPrefix revision user) = some found ∧
      (¬ cached (grantsKey keyPrefix revision user) → found = none)

namespace Registers

/-- The same keys can be told in another way. -/
theorem congr {others : String → Prop} (registers : Registers keyPrefix cached keyspace)
    (same : ∀ key, cached key ↔ others key) : Registers keyPrefix others keyspace := by
  have equal : cached = others := funext fun key => propext (same key)
  exact equal ▸ registers

theorem put (registers : Registers keyPrefix cached keyspace) (revision : Uuid) (user : String)
    (grants : Grants) {seconds : Nat} (lasts : seconds ≠ 0) :
    Registers keyPrefix (fun key => key = grantsKey keyPrefix revision user ∨ cached key)
      (putGrants true keyPrefix revision user grants seconds keyspace).2 := by
  rcases registers.registered with ⟨held, expiry, isSet, isHeld⟩
  rcases exists_putGrants registers.free isSet revision user grants lasts with
    ⟨later, ran, free, written, isSetThen, unchanged⟩
  rw [ran]
  refine ⟨free, ⟨_, _, isSetThen, fun key => ?_⟩, fun other otherUser => ?_⟩
  · rw [Std.ExtTreeSet.mem_insert, Std.LawfulEqCmp.compare_eq_iff_eq, isHeld, eq_comm]
  · by_cases same : grantsKey keyPrefix other otherUser = grantsKey keyPrefix revision user
    · exact ⟨some grants.text, same ▸ written, fun absent => absurd (.inl same) absent⟩
    · rcases registers.texts other otherUser with ⟨found, isText, vacant⟩
      refine ⟨found, ?_, fun absent => vacant fun wasCached => absent (.inr wasCached)⟩
      rw [← isText]
      exact textIn?_of_getElem?_eq (unchanged _ same (grantsKey_ne_grantsIndexKey other otherUser))

theorem get (registers : Registers keyPrefix cached keyspace) (revision : Uuid) (user : String) :
    Registers keyPrefix cached (getGrants true keyPrefix revision user keyspace).2 := by
  rcases registers.texts revision user with ⟨found, isText, -⟩
  rcases exists_getGrants registers.free isText with ⟨later, ran, free, same⟩
  rw [ran]
  exact ⟨free, same ▸ registers.registered, same ▸ registers.texts⟩

/-- A get finds nothing under a key that is not cached. -/
theorem getGrants_eq_none (registers : Registers keyPrefix cached keyspace) {revision : Uuid}
    {user : String} (absent : ¬ cached (grantsKey keyPrefix revision user)) :
    (getGrants true keyPrefix revision user keyspace).1 = .ok none := by
  rcases registers.texts revision user with ⟨found, isText, vacant⟩
  rcases exists_getGrants registers.free isText with ⟨later, ran, -⟩
  rw [ran, vacant absent]
  rfl

/-- Clearing empties the cached keys and the index, and no others. -/
theorem exists_clear (registers : Registers keyPrefix cached keyspace) :
    ∃ later, clearGrants true keyPrefix keyspace = (.ok (), later) ∧
      Registers keyPrefix (fun _ => False) later ∧
      later.slots[grantsIndexKey keyPrefix]? = none ∧
      (∀ key, cached key → later.slots[key]? = none) ∧
      ∀ key, key ≠ grantsIndexKey keyPrefix → ¬ cached key →
        later.slots[key]? = keyspace.slots[key]? := by
  rcases registers.registered with ⟨held, expiry, isSet, isHeld⟩
  rcases exists_clearGrants registers.free isSet with ⟨later, ran, free, erased⟩
  have noIndex : later.slots[grantsIndexKey keyPrefix]? = none := by rw [erased, if_pos (.inr rfl)]
  have gone (key : String) (wasCached : cached key) : later.slots[key]? = none := by
    rw [erased, if_pos (.inl ((isHeld key).mpr wasCached))]
  have kept (key : String) (notIndex : key ≠ grantsIndexKey keyPrefix) (absent : ¬ cached key) :
      later.slots[key]? = keyspace.slots[key]? := by
    rw [erased, if_neg]
    intro dropped
    rcases dropped with isMember | isIndex
    · exact absent ((isHeld key).mp isMember)
    · exact notIndex isIndex
  refine ⟨later, ran, ⟨free, ⟨∅, none, ?_, by simp⟩, fun revision user => ?_⟩, noIndex, gone, kept⟩
  · rw [setIn?, noIndex]
  · by_cases wasCached : cached (grantsKey keyPrefix revision user)
    · exact ⟨none, by rw [textIn?, gone _ wasCached], fun _ => rfl⟩
    · rcases registers.texts revision user with ⟨found, isText, vacant⟩
      refine ⟨found, ?_, fun _ => vacant wasCached⟩
      rw [← isText]
      exact textIn?_of_getElem?_eq (kept _ (grantsKey_ne_grantsIndexKey revision user) wasCached)

/-- A use leaves the keys registered that are cached with it. -/
theorem use {uses : List CacheUse} (registers : Registers keyPrefix (IsCached keyPrefix uses) keyspace)
    (use : CacheUse) :
    Registers keyPrefix (IsCached keyPrefix (uses ++ [use])) (use.inKeyspace keyPrefix keyspace) := by
  cases use with
  | put revision user grants seconds =>
      by_cases lasts : seconds = 0
      · rw [CacheUse.inKeyspace, putGrants, if_pos lasts]
        exact registers.congr fun key => by simp [CacheUse.isCached_concat_put, lasts]
      · rw [CacheUse.inKeyspace]
        exact (registers.put revision user grants lasts).congr fun key => by
          simp [CacheUse.isCached_concat_put, lasts]
  | get revision user =>
      exact (registers.get revision user).congr fun key => CacheUse.isCached_concat_get.symm
  | clear =>
      rcases registers.exists_clear with ⟨later, ran, registersNone, -⟩
      rw [CacheUse.inKeyspace, ran]
      exact registersNone.congr fun key => iff_of_false id CacheUse.not_isCached_concat_clear

end Registers

/-- A server that refuses nothing and holds nothing under the keys of a cache registers no key. -/
theorem registers_nil (free : keyspace.refusals = ∅)
    (vacant : ∀ (revision : Uuid) (user : String),
      keyspace.slots[grantsKey keyPrefix revision user]? = none)
    (unregistered : keyspace.slots[grantsIndexKey keyPrefix]? = none) :
    Registers keyPrefix (IsCached keyPrefix []) keyspace where
  free := free
  registered := ⟨∅, none, by rw [setIn?, unregistered], fun key => by
    simp [CacheUse.not_isCached_nil]⟩
  texts revision user := ⟨none, by rw [textIn?, vacant], fun _ => rfl⟩

/-- After any uses, the keys are registered that are cached then. -/
theorem registers_afterUses {start : Keyspace}
    (registers : Registers keyPrefix (IsCached keyPrefix []) start) (uses : List CacheUse) :
    Registers keyPrefix (IsCached keyPrefix uses) (start.afterUses keyPrefix uses) := by
  induction uses using List.reverseRecOn with
  | nil => exact registers
  | append_singleton uses use ih =>
      rw [afterUses, List.foldl_append]
      exact ih.use use

/-! ## What clearing leaves -/

/-- After any uses, the index holds exactly the keys that are cached.  Clearing then leaves no grants to
be found and no index, and every key keeps what it holds that is neither the index nor cached. -/
theorem clearGrants_drops_exactly_cached {start : Keyspace} (free : start.refusals = ∅)
    (vacant : ∀ (revision : Uuid) (user : String),
      start.slots[grantsKey keyPrefix revision user]? = none)
    (unregistered : start.slots[grantsIndexKey keyPrefix]? = none) (uses : List CacheUse) :
    (∃ held expiry, setIn? (start.afterUses keyPrefix uses).slots (grantsIndexKey keyPrefix) =
        some (held, expiry) ∧ ∀ key, key ∈ held ↔ IsCached keyPrefix uses key) ∧
    ∃ cleared, clearGrants true keyPrefix (start.afterUses keyPrefix uses) = (.ok (), cleared) ∧
      (∀ (revision : Uuid) (user : String),
        (getGrants true keyPrefix revision user cleared).1 = .ok none) ∧
      cleared.slots[grantsIndexKey keyPrefix]? = none ∧
      (∀ key, IsCached keyPrefix uses key → cleared.slots[key]? = none) ∧
      ∀ key, key ≠ grantsIndexKey keyPrefix → ¬ IsCached keyPrefix uses key →
        cleared.slots[key]? = (start.afterUses keyPrefix uses).slots[key]? := by
  have registers := registers_afterUses (registers_nil free vacant unregistered) uses
  refine ⟨registers.registered, ?_⟩
  rcases registers.exists_clear with ⟨cleared, ran, registersNone, noIndex, gone, kept⟩
  exact ⟨cleared, ran, fun revision user => registersNone.getGrants_eq_none id, noIndex, gone, kept⟩

/-! ## A shared server -/

namespace Shared

/-- A server that is used for sessions too. -/
def sessions : Keyspace :=
  { Keyspace.empty with
    slots := Std.ExtTreeMap.ofList [("session:alice", (⟨.text "open", none⟩ : Slot))] }

/-- Grants are cached, one of them for no time at all, and dropped. -/
def before : List CacheUse := [.put .nil "alice" ∅ 300, .put .nil "bob" ∅ 0] ++ [.clear]

/-- After that, grants are cached again. -/
def uses : List CacheUse := before ++ [.put .nil "bob" ∅ 60]

theorem isCached_uses_iff (key : String) :
    IsCached "press" uses key ↔ key = grantsKey "press" .nil "bob" := by
  have dropped : ¬ IsCached "press" before key := CacheUse.not_isCached_concat_clear
  rw [uses, CacheUse.isCached_concat_put]
  simp [dropped]

theorem ne_grantsKey (revision : Uuid) (user : String) :
    "session:alice" ≠ grantsKey "press" revision user := by
  intro same
  have chars := congrArg String.toList same
  rw [toList_grantsKey] at chars
  simp at chars

end Shared

theorem clearGrants_drops_exactly_cached_shared :
    IsCached "press" Shared.uses (grantsKey "press" .nil "bob") ∧
    ∃ cleared, clearGrants true "press" (Shared.sessions.afterUses "press" Shared.uses) =
        (.ok (), cleared) ∧
      (getGrants true "press" .nil "bob" cleared).1 = .ok none ∧
      cleared.slots["session:alice"]? =
        (Shared.sessions.afterUses "press" Shared.uses).slots["session:alice"]? := by
  have vacant (key : String) (notSession : "session:alice" ≠ key) :
      Shared.sessions.slots[key]? = none := by
    simp [Shared.sessions, Std.ExtTreeMap.ofList_singleton,
      Std.LawfulEqCmp.compare_eq_iff_eq, notSession]
  have vacantGrants (revision : Uuid) (user : String) :
      Shared.sessions.slots[grantsKey "press" revision user]? = none :=
    vacant _ (Shared.ne_grantsKey revision user)
  rcases clearGrants_drops_exactly_cached rfl vacantGrants (vacant _ (by decide)) Shared.uses with
    ⟨-, cleared, ran, nothing, -, -, kept⟩
  refine ⟨(Shared.isCached_uses_iff _).mpr rfl, cleared, ran, nothing .nil "bob", kept _ (by decide) ?_⟩
  rw [Shared.isCached_uses_iff]
  exact Shared.ne_grantsKey .nil "bob"

end Keyspace

end AccessControl
