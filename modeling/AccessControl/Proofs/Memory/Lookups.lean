import AccessControl.Proofs.Memory.Changes

/-!
# What lookups and deletions agree on

Saving puts an entry under the normal form of its subpath.  Finding an entry puts the subpath of its
address in normal form first; asking for its policies and deleting it do not.  So these operations agree
about an address exactly if it is in normal form or no entry is stored under its normal form.  At a
spelling that is not normal, the stored entry is found, has no policies and cannot be deleted.
-/

namespace AccessControl.EntryTable

variable {table : EntryTable} {changes : List Change} {locator other : Locator}

/-! ## Addresses in normal form -/

/-- An entry is stored under an address in normal form. -/
theorem Reachable.normalize_eq {stored : StoredEntry} (reachable : table.Reachable)
    (found : table[locator]? = some stored) : locator.normalize = locator := by
  rcases reachable.stamped found with ⟨entry, stamped⟩
  rw [Locator.normalize, stamped.subpath]

/-- Nothing is stored under an address that is not in normal form. -/
theorem Reachable.getElem?_eq_none (reachable : table.Reachable)
    (notNormal : locator.normalize ≠ locator) : table[locator]? = none := by
  cases found : table[locator]? with
  | none => rfl
  | some stored => exact absurd (reachable.normalize_eq found) notNormal

/-- Looking an entry up finds one if one is stored under the normal form of the address. -/
theorem Reachable.find_ne_none_iff (reachable : table.Reachable) :
    table.find Entry.decoder locator ≠ .ok none ↔ table[locator.normalize]?.isSome = true := by
  cases found : table[locator.normalize]? with
  | none => simp [find, found]
  | some stored =>
      rcases reachable.stamped found with ⟨entry, stamped⟩
      simp [find, found, stamped.document]

/-! ## Deleting -/

theorem getElem?_delete :
    (table.delete locator).2[other]? = if locator = other then none else table[other]? := by
  simp only [delete, Std.ExtTreeMap.getElem?_erase, Std.LawfulEqCmp.compare_eq_iff_eq]

theorem delete_eq_true_iff : (table.delete locator).1 = true ↔ table[locator]?.isSome = true := by
  rw [delete, Std.ExtTreeMap.contains_eq_isSome_getElem?]

/-- Deleting at an address that is not in normal form changes nothing. -/
theorem Reachable.delete_eq (reachable : table.Reachable) (notNormal : locator.normalize ≠ locator) :
    (table.delete locator).2 = table := by
  refine Std.ExtTreeMap.ext_getElem? fun other => ?_
  rw [getElem?_delete]
  split
  · next same => rw [← same, reachable.getElem?_eq_none notNormal]
  · rfl

/-- Whatever is not stored under the normal form of an address outlives deleting there. -/
theorem Reachable.getElem?_delete_of_ne (reachable : table.Reachable)
    (apart : other ≠ locator.normalize) : (table.delete locator).2[other]? = table[other]? := by
  by_cases normal : locator.normalize = locator
  · rw [getElem?_delete, if_neg (normal ▸ apart.symm)]
  · rw [reachable.delete_eq normal]

/-! ## Agreement -/

/-- Something is stored at an address if a document was saved there last. -/
theorem isSome_getElem?_after_iff :
    (after changes)[locator]?.isSome = true ↔ ∃ document, IsCurrent changes locator document := by
  rw [Option.isSome_iff_exists]
  constructor
  · intro held
    rcases held with ⟨stored, found⟩
    exact ⟨stored.document, (getElem?_after_iff.mp found).1⟩
  · intro saved
    rcases saved with ⟨document, current⟩
    have ⟨_, _, _, _, ⟨decoded, _, _, _⟩, _⟩ := current
    exact ⟨_, current.getElem? decoded⟩

/-- Whether an entry is stored at an address, but this is not the spelling that it is stored under. -/
def IsMisspelled (changes : List Change) (locator : Locator) : Prop :=
  locator.normalize ≠ locator ∧ ∃ document, IsCurrent changes locator.normalize document

/-- Every other spelling of an address is misspelled as soon as a document is saved there. -/
theorem isMisspelled_concat_save {space subpath : String} {document : Json} {entry : Entry}
    (decoded : Entry.decoder document = .ok entry) (notNormal : locator.normalize ≠ locator)
    (address : (⟨space, Subpath.normalize subpath, entry.shortname.text, entry.type⟩ : Locator) =
      locator.normalize) :
    IsMisspelled (changes ++ [.save space subpath document]) locator := by
  refine ⟨notNormal, document, isCurrent_concat.mpr (.inl ?_)⟩
  exact (Change.savesDocument_save_iff decoded).mpr ⟨rfl, address⟩

/-- What is stored under an address itself is what is stored under its normal form, unless the address is
misspelled. -/
theorem isSome_getElem?_iff_not_isMisspelled :
    ((after changes)[locator]?.isSome = true ↔ (after changes)[locator.normalize]?.isSome = true) ↔
      ¬ IsMisspelled changes locator := by
  rw [IsMisspelled, ← isSome_getElem?_after_iff]
  by_cases normal : locator.normalize = locator
  · simp [normal]
  · simp [normal, (reachable_after changes).getElem?_eq_none normal]

/-- After any changes, an address has policies, and can be deleted, if and only if an entry is found
there, and nothing is found after deleting: all this holds of exactly the addresses that are not
misspelled.  Deleting leaves the entries at all other addresses alone, and everything if the address is
misspelled. -/
theorem lookups_agree_iff_not_misspelled (changes : List Change) (locator : Locator) :
    ((((after changes).policies? locator).isSome = true ↔
        (after changes).find Entry.decoder locator ≠ .ok none) ↔ ¬ IsMisspelled changes locator) ∧
    ((((after changes).delete locator).1 = true ↔
        (after changes).find Entry.decoder locator ≠ .ok none) ↔ ¬ IsMisspelled changes locator) ∧
    (((after changes).delete locator).2.find Entry.decoder locator = .ok none ↔
      ¬ IsMisspelled changes locator) ∧
    (∀ other, other ≠ locator.normalize →
      ((after changes).delete locator).2[other]? = (after changes)[other]?) ∧
    (IsMisspelled changes locator → ((after changes).delete locator).2 = after changes) := by
  have reachable := reachable_after changes
  have found : (after changes).find Entry.decoder locator ≠ .ok none ↔
      (after changes)[locator.normalize]?.isSome = true := reachable.find_ne_none_iff
  refine ⟨?_, ?_, ?_, fun other apart => reachable.getElem?_delete_of_ne apart,
    fun misspelled => reachable.delete_eq misspelled.1⟩
  · rw [policies?, Option.isSome_map, found]
    exact isSome_getElem?_iff_not_isMisspelled
  · rw [delete_eq_true_iff, found]
    exact isSome_getElem?_iff_not_isMisspelled
  · rw [← not_iff_not, not_not, ← ne_eq, (reachable.delete locator).find_ne_none_iff, IsMisspelled,
      ← isSome_getElem?_after_iff, getElem?_delete]
    by_cases normal : locator.normalize = locator
    · simp [normal]
    · simp [normal, Ne.symm normal]

end AccessControl.EntryTable
