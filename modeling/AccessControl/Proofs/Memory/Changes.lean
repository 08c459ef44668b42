import AccessControl.Proofs.History
import AccessControl.Proofs.Memory.EntryTable

/-!
# Changes to tables of entries

What a table holds is told from the changes that made it, without looking at the table: an entry is
stored at an address if it was saved there and nothing was saved or deleted at that address since.
The table holds the document that was saved last at each address, and no others; so looking the
address up finds exactly this entry.
-/

namespace AccessControl

namespace EntryTable

/-- A change to a table. -/
inductive Change where
  | save (space subpath : String) (document : Json)
  | delete (locator : Locator)

namespace Change

/-- The table after a change.  A document that does not decode is not saved. -/
def applyTo (table : EntryTable) : Change → EntryTable
  | save space subpath document =>
    match table.save space subpath document with
    | .ok (_, after) => after
    | .error _ => table
  | delete locator => (table.delete locator).2

/-- Whether a change saves an entry at an address. -/
inductive Saves (locator : Locator) (entry : Entry) : Change → Prop where
  | save {subpath : String} {document : Json} (decoded : Entry.decoder document = .ok entry)
      (place : Subpath.normalize subpath = locator.subpath)
      (shortname : entry.shortname.text = locator.shortname) (type : entry.type = locator.type) :
      Saves locator entry (.save locator.space subpath document)

/-- Whether a change saves a document at an address. -/
inductive SavesDocument (locator : Locator) (document : Json) : Change → Prop where
  | save {subpath : String} {entry : Entry} (decoded : Entry.decoder document = .ok entry)
      (place : Subpath.normalize subpath = locator.subpath)
      (shortname : entry.shortname.text = locator.shortname) (type : entry.type = locator.type) :
      SavesDocument locator document (.save locator.space subpath document)

/-- Whether a change saves or deletes at an address. -/
def Concerns (locator : Locator) (change : Change) : Prop :=
  change = .delete locator ∨ ∃ entry, change.Saves locator entry

end Change

/-- The table that changes make, the earliest first. -/
def after (changes : List Change) : EntryTable :=
  changes.foldl Change.applyTo ∅

/-- Whether the last change that concerns an address saved an entry there. -/
def IsStored (changes : List Change) (locator : Locator) (entry : Entry) : Prop :=
  ∃ earlier change later, changes = earlier ++ change :: later ∧ change.Saves locator entry ∧
    ∀ other ∈ later, ¬ other.Concerns locator

/-- Whether the last change that concerns an address saved a document there. -/
def IsCurrent (changes : List Change) (locator : Locator) (document : Json) : Prop :=
  ∃ earlier change later, changes = earlier ++ change :: later ∧
    change.SavesDocument locator document ∧ ∀ other ∈ later, ¬ other.Concerns locator

variable {changes : List Change} {change : Change} {table : EntryTable} {locator : Locator}
  {entry : Entry} {document : Json} {stored : StoredEntry}

theorem after_concat : after (changes ++ [change]) = change.applyTo (after changes) := by
  simp [after]

/-- What was saved at an address is a document of the entry that was saved there. -/
theorem saves_iff : change.Saves locator entry ↔
    ∃ document, change.SavesDocument locator document ∧ Entry.decoder document = .ok entry := by
  constructor
  · rintro ⟨decoded, place, shortname, type⟩
    exact ⟨_, .save decoded place shortname type, decoded⟩
  · rintro ⟨document, ⟨decoded, place, shortname, type⟩, decodedAgain⟩
    obtain rfl := Except.ok.inj (decoded.symm.trans decodedAgain)
    exact .save decoded place shortname type

namespace Change

theorem not_savesDocument_delete {deleted : Locator} :
    ¬ (delete deleted).SavesDocument locator document := by
  rintro ⟨⟩

theorem concerns_delete_iff {deleted : Locator} :
    (delete deleted).Concerns locator ↔ deleted = locator := by
  simp [Concerns, saves_iff, not_savesDocument_delete]

theorem savesDocument_save_iff {space subpath : String} {other : Json}
    (decoded : Entry.decoder document = .ok entry) :
    (save space subpath document).SavesDocument locator other ↔
      other = document ∧ (⟨space, Subpath.normalize subpath, entry.shortname.text, entry.type⟩ :
        Locator) = locator := by
  constructor
  · rintro ⟨decodedAgain, place, shortname, type⟩
    obtain rfl := Except.ok.inj (decoded.symm.trans decodedAgain)
    exact ⟨rfl, by rw [place, shortname, type]⟩
  · rintro ⟨rfl, rfl⟩
    exact .save decoded rfl rfl rfl

theorem concerns_save_iff {space subpath : String} (decoded : Entry.decoder document = .ok entry) :
    (save space subpath document).Concerns locator ↔
      (⟨space, Subpath.normalize subpath, entry.shortname.text, entry.type⟩ : Locator) =
        locator := by
  simp [Concerns, saves_iff, savesDocument_save_iff decoded, decoded]

end Change

theorem isStored_iff : IsStored changes locator entry ↔
    ∃ document, IsCurrent changes locator document ∧ Entry.decoder document = .ok entry := by
  simp only [IsStored, IsCurrent, saves_iff]
  constructor
  · rintro ⟨earlier, change, later, split, ⟨document, saves, decoded⟩, unconcerned⟩
    exact ⟨document, ⟨earlier, change, later, split, saves, unconcerned⟩, decoded⟩
  · rintro ⟨document, ⟨earlier, change, later, split, saves, unconcerned⟩, decoded⟩
    exact ⟨earlier, change, later, split, ⟨document, saves, decoded⟩, unconcerned⟩

theorem isCurrent_nil : ¬ IsCurrent [] locator document :=
  History.not_stands_nil

theorem isCurrent_concat :
    IsCurrent (changes ++ [change]) locator document ↔
      change.SavesDocument locator document ∨
        ¬ change.Concerns locator ∧ IsCurrent changes locator document :=
  History.stands_concat

theorem reachable_applyTo (reachable : table.Reachable) : (change.applyTo table).Reachable := by
  cases change with
  | save space subpath document =>
      cases saved : table.save space subpath document with
      | error error => simpa only [Change.applyTo, saved] using reachable
      | ok result => simpa only [Change.applyTo, saved] using reachable.save saved
  | delete locator => exact reachable.delete locator

theorem reachable_after (changes : List Change) : (after changes).Reachable := by
  induction changes using List.reverseRecOn with
  | nil => exact .empty
  | append_singleton changes change ih => exact after_concat ▸ reachable_applyTo ih

/-! ## What is held -/

/-- The record of a current document. -/
theorem IsCurrent.stamped (current : IsCurrent changes locator document)
    (decoded : Entry.decoder document = .ok entry) :
    Stamped locator ⟨entry.isActive, document, entry.policies locator.space locator.subpath⟩
      entry := by
  obtain ⟨-, -, -, -, ⟨decodedThen, place, shortname, type⟩, -⟩ := current
  obtain rfl := Except.ok.inj (decodedThen.symm.trans decoded)
  exact ⟨decoded, place ▸ Subpath.normalize_normalize _, shortname, type, rfl, rfl⟩

/-- A record is determined by the address and the document. -/
theorem Stamped.eq {other : StoredEntry} {otherEntry : Entry} (stamped : Stamped locator stored entry)
    (otherStamped : Stamped locator other otherEntry) (same : stored.document = other.document) :
    stored = other := by
  have sameEntry : entry = otherEntry :=
    Except.ok.inj (stamped.document.symm.trans (same ▸ otherStamped.document))
  obtain ⟨isActive, document, policies⟩ := stored
  obtain ⟨otherActive, otherDocument, otherPolicies⟩ := other
  obtain rfl : document = otherDocument := same
  obtain rfl : isActive = entry.isActive := stamped.isActive
  obtain rfl : policies = _ := stamped.policies
  obtain rfl : otherActive = otherEntry.isActive := otherStamped.isActive
  obtain rfl : otherPolicies = _ := otherStamped.policies
  rw [sameEntry]

/-- Saving a document decides what is held at the address that its entry names. -/
theorem getElem?_save {space subpath : String} (decoded : Entry.decoder document = .ok entry) :
    ((Change.save space subpath document).applyTo table)[locator]? = some stored ↔
      ((Change.save space subpath document).SavesDocument locator stored.document ∧
          ∃ entry, Stamped locator stored entry) ∨
        ¬ (Change.save space subpath document).Concerns locator ∧
          table[locator]? = some stored := by
  simp only [Change.applyTo, save, decoded, Change.savesDocument_save_iff decoded,
    Change.concerns_save_iff decoded, Std.ExtTreeMap.getElem?_insert,
    Std.LawfulEqCmp.compare_eq_iff_eq]
  split
  · next same =>
    subst same
    have stamped : Stamped _ ⟨entry.isActive, document,
        entry.policies space (Subpath.normalize subpath)⟩ entry := stamped_of_decoder decoded
    simp only [and_true, not_true_eq_false, false_and, or_false, Option.some.injEq]
    constructor
    · rintro rfl
      exact ⟨rfl, entry, stamped⟩
    · rintro ⟨isDocument, other, isStamped⟩
      exact stamped.eq isStamped isDocument.symm
  · next differs => simp [differs]

/-- A change decides what is held at the addresses that it concerns. -/
theorem getElem?_applyTo :
    (change.applyTo table)[locator]? = some stored ↔
      (change.SavesDocument locator stored.document ∧ ∃ entry, Stamped locator stored entry) ∨
        ¬ change.Concerns locator ∧ table[locator]? = some stored := by
  cases change with
  | delete deleted =>
      simp only [Change.applyTo, delete, Change.not_savesDocument_delete, Change.concerns_delete_iff,
        false_and, false_or, Std.ExtTreeMap.getElem?_erase, Std.LawfulEqCmp.compare_eq_iff_eq]
      by_cases same : deleted = locator <;> simp [same]
  | save space subpath document =>
      cases decoded : Entry.decoder document with
      | ok entry => exact getElem?_save decoded
      | error cause =>
          have noSave (other : Json) :
              ¬ (Change.save space subpath document).SavesDocument locator other := by
            rintro ⟨saved⟩
            simp [decoded] at saved
          simp [Change.applyTo, save, decoded, Change.Concerns, saves_iff, noSave]

/-- What is held at an address is the document that was saved there last, as it is stamped. -/
theorem getElem?_after_iff :
    (after changes)[locator]? = some stored ↔
      IsCurrent changes locator stored.document ∧ ∃ entry, Stamped locator stored entry := by
  induction changes using List.reverseRecOn with
  | nil => simp [after, isCurrent_nil]
  | append_singleton changes change ih =>
      rw [after_concat, getElem?_applyTo, isCurrent_concat, ih, or_and_right, and_assoc]

/-- A document that was saved last at an address is held there. -/
theorem IsCurrent.getElem? (current : IsCurrent changes locator document)
    (decoded : Entry.decoder document = .ok entry) :
    (after changes)[locator]? =
      some ⟨entry.isActive, document, entry.policies locator.space locator.subpath⟩ :=
  getElem?_after_iff.mpr ⟨current, entry, current.stamped decoded⟩

/-- Looking an address up finds the entry that is stored there. -/
theorem find_after_iff (normal : locator.normalize = locator) :
    (after changes).find Entry.decoder locator = .ok (some entry) ↔
      IsStored changes locator entry := by
  rw [isStored_iff]
  constructor
  · intro found
    cases held : (after changes)[locator]? with
    | none => simp [find, normal, held] at found
    | some stored =>
        obtain ⟨current, other, stamped⟩ := getElem?_after_iff.mp held
        simp only [find, normal, held, stamped.document, Except.ok.injEq, Option.some.injEq] at found
        exact ⟨stored.document, current, found ▸ stamped.document⟩
  · rintro ⟨document, current, decoded⟩
    simp only [find, normal, current.getElem? decoded, decoded]

end EntryTable

end AccessControl
