import AccessControl.Keyspace.SnapshotShelf
import AccessControl.Proofs.Json.KeptText
import AccessControl.Proofs.Keyspace.Effects
import Mathlib.Data.List.Induction

/-!
# What a keyspace holds of published documents

Publishing empties the hash of every permission that is registered, and writes and registers those of
the new document.  So the registered names, the hashes of permissions and the permissions of the last
document stay in step, whatever was published before.  A published document is given back if its text
keeps it.
-/

namespace AccessControl.Keyspace

/-! ## Last values -/

section Latest

variable {α : Type} {name other : String} {pairs : List (String × α)}

/-- The last value that pairs have for a name. -/
def latest? (name : String) (pairs : List (String × α)) : Option α :=
  pairs.reverse.lookup name

theorem latest?_nil : latest? name ([] : List (String × α)) = none := rfl

theorem latest?_concat {value : α} :
    latest? name (pairs ++ [(other, value)]) =
      if name = other then some value else latest? name pairs := by
  rw [latest?, List.reverse_append]
  by_cases same : name = other
  · simp [same]
  · rw [if_neg same, List.reverse_singleton, List.singleton_append, List.lookup_cons,
      beq_eq_false_iff_ne.mpr same]
    rfl

theorem latest?_eq_none_iff : latest? name pairs = none ↔ name ∉ pairs.map Prod.fst := by
  induction pairs using List.reverseRecOn with
  | nil => simp [latest?_nil]
  | append_singleton pairs pair ih =>
      rw [latest?_concat]
      by_cases same : name = pair.1 <;> simp [same, ih]

end Latest

/-! ## Hashes -/

section Hashes

variable {fields old : List (String × String)} {slots : Slots} {key : String}

/-- A hash with some fields. -/
def hashOf (fields : List (String × String)) : Slot :=
  ⟨.hash (fields.foldl (fun hash field => hash.insert field.1 field.2) ∅), none⟩

theorem getElem?_foldl_insert (fields : List (String × String)) (start : Dict String String)
    (field : String) :
    (fields.foldl (fun hash field => hash.insert field.1 field.2) start)[field]? =
      (latest? field fields).or start[field]? := by
  induction fields using List.reverseRecOn with
  | nil => simp [latest?_nil]
  | append_singleton fields last ih =>
      rw [List.foldl_append, List.foldl_cons, List.foldl_nil, Std.ExtTreeMap.getElem?_insert, ih,
        latest?_concat]
      by_cases same : field = last.1
      · simp [same]
      · simp [same, Ne.symm same, Std.LawfulEqCmp.compare_eq_iff_eq]

/-- Fields written over fields of the same names leave nothing of these. -/
theorem foldl_insert_overwrites (sameNames : old.map Prod.fst = fields.map Prod.fst) :
    fields.foldl (fun hash field => hash.insert field.1 field.2)
        (old.foldl (fun hash field => hash.insert field.1 field.2) (∅ : Dict String String)) =
      fields.foldl (fun hash field => hash.insert field.1 field.2) ∅ := by
  apply Std.ExtTreeMap.ext_getElem?
  intro field
  rw [getElem?_foldl_insert, getElem?_foldl_insert, getElem?_foldl_insert]
  cases written : latest? field fields with
  | some value => rfl
  | none =>
      have absent : latest? field old = none := by
        rw [latest?_eq_none_iff, sameNames]
        exact latest?_eq_none_iff.mp written
      simp [absent]

/-- Writing a hash where there is none, or one with fields of the same names. -/
theorem does_putHash (fields : List (String × String)) {old? : Option (List (String × String))}
    (held : slots[key]? = old?.map hashOf)
    (sameNames : ∀ old ∈ old?, old.map Prod.fst = fields.map Prod.fst) :
    ∃ added, Does (putFields key fields) slots added (slots.insert key (hashOf fields)) := by
  cases old? with
  | none =>
      have isHash : hashIn? slots key = some (∅, none) := by
        rw [hashIn?, held]
        rfl
      exact Does.putFields isHash fields
  | some old =>
      have isHash : hashIn? slots key =
          some (old.foldl (fun hash field => hash.insert field.1 field.2) ∅, none) := by
        rw [hashIn?, held]
        rfl
      rcases Does.putFields isHash fields with ⟨added, does⟩
      rw [foldl_insert_overwrites (sameNames old rfl)] at does
      exact ⟨added, does⟩

theorem getElem?_insert_of_ne {slot : Slot} {other : String} (apart : other ≠ key) :
    (slots.insert key slot)[other]? = slots[other]? := by
  simp [Std.ExtTreeMap.getElem?_insert, Std.LawfulEqCmp.compare_eq_iff_eq, apart.symm]

end Hashes

/-! ## Keys -/

section Keys

variable {keyPrefix name other : String}

theorem toList_snapshotKey :
    (snapshotKey keyPrefix name).toList =
      keyPrefix.toList ++ (":snapshots:".toList ++ name.toList) := by
  simp [snapshotKey, toString]

theorem toList_permissionKey :
    (permissionKeyPrefix keyPrefix ++ name).toList =
      keyPrefix.toList ++ (":permissions:".toList ++ name.toList) := by
  simp [permissionKeyPrefix, toString]

theorem toList_permissionNamesKey :
    (permissionNamesKey keyPrefix).toList = keyPrefix.toList ++ ":permission_names".toList := by
  simp [permissionNamesKey, toString]

theorem snapshotKey_inj : snapshotKey keyPrefix name = snapshotKey keyPrefix other ↔ name = other := by
  rw [← String.toList_inj, toList_snapshotKey, toList_snapshotKey, List.append_cancel_left_eq,
    List.append_cancel_left_eq, String.toList_inj]

theorem permissionKey_inj :
    permissionKeyPrefix keyPrefix ++ name = permissionKeyPrefix keyPrefix ++ other ↔ name = other := by
  rw [← String.toList_inj, toList_permissionKey, toList_permissionKey, List.append_cancel_left_eq,
    List.append_cancel_left_eq, String.toList_inj]

theorem permissionKey_ne_permissionNamesKey :
    permissionKeyPrefix keyPrefix ++ name ≠ permissionNamesKey keyPrefix := by
  rw [Ne, ← String.toList_inj, toList_permissionKey, toList_permissionNamesKey]
  simp

/-- Whether a key is for a published permission or for the names of them all. -/
def IsPermissionKey (keyPrefix key : String) : Prop :=
  key = permissionNamesKey keyPrefix ∨ ∃ name, key = permissionKeyPrefix keyPrefix ++ name

theorem not_isPermissionKey_snapshotKey : ¬ IsPermissionKey keyPrefix (snapshotKey keyPrefix name) := by
  rintro (same | ⟨permission, same⟩)
  · rw [← String.toList_inj, toList_snapshotKey, toList_permissionNamesKey] at same
    simp at same
  · rw [← String.toList_inj, toList_snapshotKey, toList_permissionKey] at same
    simp at same

/-- Whether a key is for something published. -/
def IsShelfKey (keyPrefix key : String) : Prop :=
  IsPermissionKey keyPrefix key ∨ ∃ name, key = snapshotKey keyPrefix name

theorem isShelfKey_snapshotKey : IsShelfKey keyPrefix (snapshotKey keyPrefix name) :=
  .inr ⟨name, rfl⟩

end Keys

/-! ## Permissions -/

section Permissions

variable {keyPrefix : String} {permissions : List (String × Json)} {slots : Slots}

/-- The fields of a published permission. -/
def permissionFields (name : String) (permission : Json) : List (String × String) :=
  [("name", name), ("document", permission.write)]

/-- Slots that hold the hashes of some permissions, the last of each name, with their names registered,
and no other such hashes. -/
structure Lists (keyPrefix : String) (permissions : List (String × Json)) (slots : Slots) : Prop where
  names : ∃ held, setIn? slots (permissionNamesKey keyPrefix) = some (held, none) ∧
    ∀ name, name ∈ held ↔ name ∈ permissions.map Prod.fst
  hashes : ∀ name, slots[permissionKeyPrefix keyPrefix ++ name]? =
    (latest? name permissions).map fun permission => hashOf (permissionFields name permission)

/-- Slots where nothing changed but what is kept of permissions. -/
def SameElsewhere (keyPrefix : String) (slots after : Slots) : Prop :=
  ∀ key, ¬ IsPermissionKey keyPrefix key → after[key]? = slots[key]?

theorem does_deleteEach (start : String) (names : List String) (slots : Slots) :
    Does (deleteEach start names) slots ()
      ((names.map (start ++ ·)).foldl Std.ExtTreeMap.erase slots) := by
  induction names generalizing slots with
  | nil => exact Does.pure () slots
  | cons name rest ih =>
      rcases Does.delete [start ++ name] slots with ⟨deleted, does⟩
      exact does.bind (ih _)

namespace Lists

/-- The permissions can be told by what the slots hold under their keys. -/
theorem congr (lists : Lists keyPrefix permissions slots) {after : Slots}
    (same : ∀ key, IsPermissionKey keyPrefix key → after[key]? = slots[key]?) :
    Lists keyPrefix permissions after where
  names := by
    rw [setIn?_of_getElem?_eq (same _ (.inl rfl))]
    exact lists.names
  hashes name := (same _ (.inr ⟨name, rfl⟩)).trans (lists.hashes name)

/-- One more permission is written and registered. -/
theorem concat (lists : Lists keyPrefix permissions slots) (name : String) (permission : Json) :
    ∃ added registered middle after,
      Does (putFields (permissionKeyPrefix keyPrefix ++ name) (permissionFields name permission)) slots
        added middle ∧
      Does (addMembers (permissionNamesKey keyPrefix) [name]) middle registered after ∧
      Lists keyPrefix (permissions ++ [(name, permission)]) after ∧
      SameElsewhere keyPrefix slots after := by
  rcases lists.names with ⟨held, isSet, isHeld⟩
  have old : slots[permissionKeyPrefix keyPrefix ++ name]? =
      ((latest? name permissions).map (permissionFields name)).map hashOf := by
    rw [lists.hashes, Option.map_map]
    rfl
  rcases does_putHash (permissionFields name permission) old (by simp [permissionFields]) with
    ⟨added, written⟩
  have isSetThen : setIn? (slots.insert (permissionKeyPrefix keyPrefix ++ name)
      (hashOf (permissionFields name permission))) (permissionNamesKey keyPrefix) =
        some (held, none) := by
    rw [← isSet]
    exact setIn?_of_getElem?_eq (getElem?_insert_of_ne permissionKey_ne_permissionNamesKey.symm)
  rcases Does.addMember isSetThen name with ⟨registered, does⟩
  refine ⟨added, registered, _, _, written, does, ⟨⟨held.insert name, ?_, ?_⟩, ?_⟩, ?_⟩
  · simp [setIn?]
  · intro other
    rw [Std.ExtTreeSet.mem_insert, Std.LawfulEqCmp.compare_eq_iff_eq, isHeld]
    simp [or_comm, eq_comm]
  · intro other
    rw [getElem?_insert_of_ne permissionKey_ne_permissionNamesKey, latest?_concat]
    by_cases same : other = name
    · subst same
      simp
    · rw [getElem?_insert_of_ne (mt permissionKey_inj.mp same), if_neg same, lists.hashes]
  · intro key elsewhere
    rw [getElem?_insert_of_ne fun same => elsewhere (.inl same),
      getElem?_insert_of_ne fun same => elsewhere (.inr ⟨name, same⟩)]

/-- Permissions are written and registered one after the other. -/
theorem writeEach (lists : Lists keyPrefix permissions slots) (more : List (String × Json)) :
    ∃ after, Does (Keyspace.writeEach (permissionKeyPrefix keyPrefix) (permissionNamesKey keyPrefix)
        (more.map fun member => (member.1, member.2.write))) slots () after ∧
      Lists keyPrefix (permissions ++ more) after ∧ SameElsewhere keyPrefix slots after := by
  -- The permissions written so far are part of what the induction keeps.
  induction more generalizing permissions slots with
  | nil =>
      refine ⟨slots, Does.pure () slots, ?_, fun key _ => rfl⟩
      rw [List.append_nil]
      exact lists
  | cons member rest ih =>
      rcases lists.concat member.1 member.2 with
        ⟨added, registered, middle, after, written, listed, listsThen, same⟩
      rcases ih listsThen with ⟨final, does, listsAll, sameThen⟩
      refine ⟨final, written.bind (listed.bind does), ?_, fun key elsewhere => ?_⟩
      · rw [List.append_cons]
        exact listsAll
      · rw [sameThen key elsewhere, same key elsewhere]

/-- What is registered goes, and the names with it. -/
theorem clear (lists : Lists keyPrefix permissions slots) :
    ∃ names middle deleted after, Does (members (permissionNamesKey keyPrefix)) slots names slots ∧
      Does (deleteEach (permissionKeyPrefix keyPrefix) names) slots () middle ∧
      Does (delete [permissionNamesKey keyPrefix]) middle deleted after ∧
      Lists keyPrefix [] after ∧ SameElsewhere keyPrefix slots after := by
  rcases lists.names with ⟨held, isSet, isHeld⟩
  have emptied := does_deleteEach (permissionKeyPrefix keyPrefix) held.toList slots
  rcases Does.delete [permissionNamesKey keyPrefix]
    ((held.toList.map (permissionKeyPrefix keyPrefix ++ ·)).foldl Std.ExtTreeMap.erase slots) with
    ⟨deleted, does⟩
  refine ⟨_, _, deleted, _, Does.members isSet, emptied, does, ⟨⟨∅, ?_, by simp⟩, ?_⟩, ?_⟩
  · rw [setIn?, getElem?_foldl_erase, if_pos (List.mem_singleton_self _)]
  · intro name
    -- A hash that is not emptied was not registered, so it was not there before either.
    have isNone : slots[permissionKeyPrefix keyPrefix ++ name]? = none ∨
        name ∈ permissions.map Prod.fst := by
      rw [lists.hashes, Option.map_eq_none_iff, latest?_eq_none_iff]
      exact (Decidable.em _).symm
    rw [getElem?_foldl_erase, getElem?_foldl_erase,
      if_neg (mt List.mem_singleton.mp permissionKey_ne_permissionNamesKey)]
    rcases isNone with vacant | isListed
    · rw [vacant, ite_self]
      rfl
    · rw [if_pos (List.mem_map_of_mem (Std.ExtTreeSet.mem_toList.mpr ((isHeld name).mpr isListed)))]
      rfl
  · intro key elsewhere
    rw [getElem?_foldl_erase, getElem?_foldl_erase, if_neg, if_neg]
    · intro isEmptied
      rcases List.mem_map.mp isEmptied with ⟨name, -, rfl⟩
      exact elsewhere (.inr ⟨name, rfl⟩)
    · intro isNames
      exact elsewhere (.inl (List.mem_singleton.mp isNames))

end Lists

end Permissions

/-! ## Documents -/

section Documents

variable {keyPrefix : String} {slots : Slots}

/-- The members of the permissions in a document, none if it has none or they are not a map. -/
def permissionsOf (document : Json) : List (String × Json) :=
  match document.member? "permissions" with
  | some (.obj members) => members
  | _ => []

theorem permissionDocuments_eq (document : Json) :
    permissionDocuments document =
      (permissionsOf document).map fun member => (member.1, member.2.write) := by
  rw [permissionDocuments, permissionsOf]
  cases document.member? "permissions" with
  | none => rfl
  | some permissions => cases permissions <;> rfl

theorem pairs_flatMap (listed : List (String × String)) :
    pairs (listed.flatMap fun (name, text) => [name, text]) = listed := by
  induction listed with
  | nil => rfl
  | cons first rest ih => exact congrArg (first :: ·) ih

/-- The generation in a document as it is written. -/
def generationText (document : Json) : String :=
  toString (((document.member? "generation").bind Json.natural?).getD 0)

/-- The fields of a published document. -/
def snapshotFields (name : String) (document : Json) : List (String × String) :=
  [("name", name), ("generation", generationText document), ("document", document.write)]

/-- Slots that hold the documents of some names, with the permissions of one document.  Under other
keys they may hold anything. -/
structure Files (keyPrefix : String) (permissions : List (String × Json))
    (document? : String → Option Json) (slots : Slots) : Prop where
  permissions : Lists keyPrefix permissions slots
  snapshots : ∀ name, slots[snapshotKey keyPrefix name]? =
    (document? name).map fun document => hashOf (snapshotFields name document)

/-- The documents of names after one of them was published. -/
def publishing (name : String) (document : Json) (document? : String → Option Json) :
    String → Option Json :=
  fun other => if other = name then some document else document? other

namespace Files

variable {permissions : List (String × Json)} {document? : String → Option Json}
  {keyspace : Keyspace} {isUp : Bool}

theorem empty : Files keyPrefix [] (fun _ => none) Keyspace.empty.slots where
  permissions := ⟨⟨∅, by simp [setIn?, Keyspace.empty], by simp⟩, fun name => by
    simp [Keyspace.empty, latest?_nil]⟩
  snapshots name := by simp [Keyspace.empty]

/-- What is published can be told by what the slots hold under keys for it. -/
theorem congr (files : Files keyPrefix permissions document? slots) {after : Slots}
    (same : ∀ key, IsShelfKey keyPrefix key → after[key]? = slots[key]?) :
    Files keyPrefix permissions document? after where
  permissions := files.permissions.congr fun key isPermission => same key (.inl isPermission)
  snapshots name := (same _ isShelfKey_snapshotKey).trans (files.snapshots name)

/-- Publishing writes the hash of the document and replaces the permissions. -/
theorem does_replaceSnapshot (files : Files keyPrefix permissions document? slots) (name : String)
    (document : Json) :
    ∃ after, Does (replaceSnapshot (snapshotKey keyPrefix name) (permissionNamesKey keyPrefix) name
        (generationText document) document.write (permissionKeyPrefix keyPrefix)
        (permissionDocuments document)) slots (permissionDocuments document).length after ∧
      Files keyPrefix (permissionsOf document) (publishing name document document?) after ∧
      ∀ key, ¬ IsShelfKey keyPrefix key → after[key]? = slots[key]? := by
  have old : slots[snapshotKey keyPrefix name]? =
      ((document? name).map (snapshotFields name)).map hashOf := by
    rw [files.snapshots, Option.map_map]
    rfl
  rcases does_putHash (snapshotFields name document) old (by simp [snapshotFields]) with
    ⟨added, written⟩
  have kept (key : String) (isPermission : IsPermissionKey keyPrefix key) :
      (slots.insert (snapshotKey keyPrefix name) (hashOf (snapshotFields name document)))[key]? = slots[key]? := by
    apply getElem?_insert_of_ne
    rintro rfl
    exact not_isPermissionKey_snapshotKey isPermission
  rcases (files.permissions.congr kept).clear with
    ⟨names, middle, deleted, cleared, asked, emptied, dropped, listsNone, same⟩
  rcases listsNone.writeEach (permissionsOf document) with ⟨after, registered, listsNew, sameThen⟩
  rw [← permissionDocuments_eq] at registered
  have elsewhere (key : String) (notPermission : ¬ IsPermissionKey keyPrefix key) :
      after[key]? = (slots.insert (snapshotKey keyPrefix name) (hashOf (snapshotFields name document)))[key]? := by
    rw [sameThen key notPermission, same key notPermission]
  refine ⟨after, written.bind (asked.bind (emptied.bind (dropped.bind (registered.bind
    (Does.pure _ after))))), ⟨listsNew, fun other => ?_⟩, fun key notShelf => ?_⟩
  · rw [elsewhere _ not_isPermissionKey_snapshotKey, publishing]
    by_cases same : other = name
    · subst same
      simp
    · rw [getElem?_insert_of_ne (mt snapshotKey_inj.mp same), if_neg same, files.snapshots]
  · rw [elsewhere key (mt .inl notShelf), getElem?_insert_of_ne]
    rintro rfl
    exact notShelf isShelfKey_snapshotKey

/-- Publishing succeeds, and changes only what is held under keys for it. -/
theorem persist (files : Files keyPrefix permissions document? keyspace.slots)
    (free : keyspace.refusals = ∅) (name : String) (document : Json) :
    ∃ later, Keyspace.persist true keyPrefix name document keyspace = (.ok (), later) ∧
      later.refusals = ∅ ∧
      Files keyPrefix (permissionsOf document) (publishing name document document?) later.slots ∧
      ∀ key, ¬ IsShelfKey keyPrefix key → later.slots[key]? = keyspace.slots[key]? := by
  rcases files.does_replaceSnapshot name document with ⟨after, does, filesThen, same⟩
  rw [← pairs_flatMap (permissionDocuments document)] at does
  have invoked : Does (invoke .persistSnapshot
      [snapshotKey keyPrefix name, permissionNamesKey keyPrefix]
      ([name, generationText document, document.write, permissionKeyPrefix keyPrefix] ++
        (permissionDocuments document).flatMap fun (name, text) => [name, text])) keyspace.slots _
      after := Does.invoke does
  rcases invoked.ignored.attempt (.persistSnapshot name) free rfl with ⟨later, ran, freeThen, rfl⟩
  exact ⟨later, ran, freeThen, filesThen, same⟩

/-- The text that is kept under a name is that of its document. -/
theorem does_getDocument (files : Files keyPrefix permissions document? slots) (name : String) :
    Does (getField (snapshotKey keyPrefix name) "document") slots ((document? name).map Json.write)
      slots := by
  have held := files.snapshots name
  cases isDocument : document? name with
  | none =>
      rw [isDocument] at held
      have isHash : hashIn? slots (snapshotKey keyPrefix name) = some (∅, none) := by
        rw [hashIn?, held]
        rfl
      have does := Does.getField isHash "document"
      rwa [Std.ExtTreeMap.getElem?_empty] at does
  | some document =>
      rw [isDocument] at held
      have isHash : hashIn? slots (snapshotKey keyPrefix name) =
          some ((snapshotFields name document).foldl
            (fun hash field => hash.insert field.1 field.2) ∅, none) := by
        rw [hashIn?, held]
        rfl
      have does := Does.getField isHash "document"
      rwa [getElem?_foldl_insert] at does

/-- A fetch gives what is read from the text of the document, and changes nothing that is held. -/
theorem fetch_eq (files : Files keyPrefix permissions document? keyspace.slots)
    (free : keyspace.refusals = ∅) (name : String) :
    ∃ later, later.refusals = ∅ ∧ later.slots = keyspace.slots ∧
      fetch true keyPrefix name keyspace =
        match document? name with
        | none => (.ok none, later)
        | some document =>
          match Json.read document.write with
          | .ok read => (.ok (some read), later)
          | .error fault => (.error (.unreadableSnapshotText name fault), later) := by
  rcases (files.does_getDocument name).attempt (.readSnapshot name) free rfl with
    ⟨later, ran, freeThen, same⟩
  refine ⟨later, freeThen, same, ?_⟩
  rw [fetch, ran]
  cases document? name with
  | none => rfl
  | some document =>
      cases read : Json.read document.write <;> simp only [Option.map_some, read]

/-- A fetch gives the document exactly if that is kept by its text. -/
theorem fetch_eq_iff (files : Files keyPrefix permissions document? keyspace.slots)
    (free : keyspace.refusals = ∅) (name : String) :
    (fetch true keyPrefix name keyspace).1 = .ok (document? name) ↔
      ∀ document, document? name = some document → document.IsKeptByText := by
  rcases files.fetch_eq free name with ⟨later, -, -, fetched⟩
  rw [fetched]
  cases document? name with
  | none => simp
  | some document =>
      simp only [Option.some.injEq, forall_eq', ← Json.read_write_eq_ok_iff]
      cases Json.read document.write <;> simp

end Files

/-- Slots that hold the documents of some publications, the last of each name, with the permissions of
the last of all, and nothing else. -/
structure Shelves (keyPrefix : String) (calls : List (String × Json)) (slots : Slots) : Prop where
  files : Files keyPrefix ((calls.getLast?.map fun call => permissionsOf call.2).getD [])
    (latest? · calls) slots
  vacant : ∀ key, ¬ IsShelfKey keyPrefix key → slots[key]? = none

namespace Shelves

variable {calls : List (String × Json)} {keyspace : Keyspace}

theorem empty : Shelves keyPrefix [] Keyspace.empty.slots where
  files := Files.empty
  vacant key _ := by simp [Keyspace.empty]

/-- Publishing succeeds, and what the keyspace holds then is told by the publications. -/
theorem persist (shelves : Shelves keyPrefix calls keyspace.slots) (free : keyspace.refusals = ∅)
    (name : String) (document : Json) :
    ∃ later, Keyspace.persist true keyPrefix name document keyspace = (.ok (), later) ∧
      later.refusals = ∅ ∧ Shelves keyPrefix (calls ++ [(name, document)]) later.slots := by
  rcases shelves.files.persist free name document with ⟨later, ran, freeThen, filesThen, same⟩
  refine ⟨later, ran, freeThen, ?_, fun key notShelf => ?_⟩
  · rw [List.getLast?_concat]
    have last : publishing name document (latest? · calls) = (latest? · (calls ++ [(name, document)])) :=
      funext fun _ => latest?_concat.symm
    rw [← last]
    exact filesThen
  · rw [same key notShelf, shelves.vacant key notShelf]

end Shelves

/-- A keyspace after some documents were published in it. -/
def published (keyPrefix : String) (calls : List (String × Json)) : Keyspace :=
  calls.foldl (fun keyspace call => (persist true keyPrefix call.1 call.2 keyspace).2) Keyspace.empty

/-- After any publications, what the keyspace holds is told by them. -/
theorem shelves_published (keyPrefix : String) (calls : List (String × Json)) :
    (published keyPrefix calls).refusals = ∅ ∧
      Shelves keyPrefix calls (published keyPrefix calls).slots := by
  induction calls using List.reverseRecOn with
  | nil => exact ⟨rfl, Shelves.empty⟩
  | append_singleton calls call ih =>
      rcases ih with ⟨free, shelves⟩
      rcases shelves.persist free call.1 call.2 with ⟨later, ran, freeThen, shelvesThen⟩
      rw [published, List.foldl_append, List.foldl_cons, List.foldl_nil, ← published, ran]
      exact ⟨freeThen, shelvesThen⟩

/-! ## What publishing leaves -/

/-- After any publications another one succeeds; the registered names are those of the permissions in
the last document, each of them has its hash, and there are no other such hashes; the hash of every name
holds the last document of that name; and nothing else is held.  The last document of a name is given
back exactly if it is kept by its text. -/
theorem published_mirrors_last (keyPrefix : String) (calls : List (String × Json)) :
    (∀ name document, (persist true keyPrefix name document (published keyPrefix calls)).1 = .ok ()) ∧
    (∃ held, setIn? (published keyPrefix calls).slots (permissionNamesKey keyPrefix) =
        some (held, none) ∧
      ∀ name, name ∈ held ↔ ∃ call, calls.getLast? = some call ∧
        name ∈ (permissionsOf call.2).map Prod.fst) ∧
    (∀ name, (published keyPrefix calls).slots[permissionKeyPrefix keyPrefix ++ name]? =
      calls.getLast?.bind fun call => (latest? name (permissionsOf call.2)).map fun permission =>
        hashOf (permissionFields name permission)) ∧
    (∀ name, (published keyPrefix calls).slots[snapshotKey keyPrefix name]? =
      (latest? name calls).map fun document => hashOf (snapshotFields name document)) ∧
    (∀ key, ¬ IsPermissionKey keyPrefix key → (∀ name, key ≠ snapshotKey keyPrefix name) →
      (published keyPrefix calls).slots[key]? = none) ∧
    ∀ name, (fetch true keyPrefix name (published keyPrefix calls)).1 = .ok (latest? name calls) ↔
      ∀ document, latest? name calls = some document → document.IsKeptByText := by
  rcases shelves_published keyPrefix calls with ⟨free, shelves⟩
  refine ⟨fun name document => ?_, ?_, fun name => ?_, shelves.files.snapshots,
    fun key notPermission notSnapshot => ?_, shelves.files.fetch_eq_iff free⟩
  · rcases shelves.persist free name document with ⟨later, ran, -⟩
    rw [ran]
  · rcases shelves.files.permissions.names with ⟨held, isSet, isHeld⟩
    refine ⟨held, isSet, fun name => ?_⟩
    rw [isHeld]
    cases calls.getLast? <;> simp
  · rw [shelves.files.permissions.hashes]
    cases calls.getLast? <;> rfl
  · refine shelves.vacant key (not_or.mpr ⟨notPermission, ?_⟩)
    exact fun isSnapshot => isSnapshot.elim notSnapshot

end Documents

end AccessControl.Keyspace
