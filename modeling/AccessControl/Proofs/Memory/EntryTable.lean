import AccessControl.Memory.EntryTable
import AccessControl.Proofs.Ordered
import AccessControl.Proofs.Subpath.Segments

/-!
# Tables of saved entries

A store of entries starts empty, and then entries are saved and deleted.  Whatever the order, each
record holds a document that decodes, stands at the address that its entry names, and carries the
policies that its entry is stamped with there.
-/

namespace AccessControl

namespace EntryTable

variable {table after : EntryTable} {locator : Locator} {stored : StoredEntry}

/-- The tables that come about by saving and deleting entries. -/
inductive Reachable : EntryTable → Prop where
  | empty : Reachable ∅
  | save {table after : EntryTable} {space subpath : String} {document : Json}
      {policies : List String} (before : Reachable table)
      (saved : table.save space subpath document = .ok (policies, after)) : Reachable after
  | delete {table : EntryTable} (before : Reachable table) (locator : Locator) :
      Reachable (table.delete locator).2

/-- A record as it is saved for an entry. -/
structure Stamped (locator : Locator) (stored : StoredEntry) (entry : Entry) : Prop where
  document : Entry.decoder stored.document = .ok entry
  subpath : Subpath.normalize locator.subpath = locator.subpath
  shortname : entry.shortname.text = locator.shortname
  type : entry.type = locator.type
  isActive : stored.isActive = entry.isActive
  policies : stored.policies = entry.policies locator.space locator.subpath

/-- The record of a document that was just saved. -/
theorem stamped_of_decoder {space subpath : String} {document : Json}
    {entry : Entry} (decoded : Entry.decoder document = .ok entry) :
    Stamped ⟨space, Subpath.normalize subpath, entry.shortname.text, entry.type⟩
      ⟨entry.isActive, document, entry.policies space (Subpath.normalize subpath)⟩ entry :=
  ⟨decoded, Subpath.normalize_normalize subpath, rfl, rfl, rfl, by dsimp only⟩

/-- What saving does: it stores the document of an entry at the address that the entry names. -/
theorem exists_of_save {space subpath : String} {document : Json} {policies : List String}
    (saved : table.save space subpath document = .ok (policies, after)) :
    ∃ entry, Entry.decoder document = .ok entry ∧
      after = table.insert ⟨space, Subpath.normalize subpath, entry.shortname.text, entry.type⟩
        ⟨entry.isActive, document, entry.policies space (Subpath.normalize subpath)⟩ := by
  unfold save at saved
  split at saved
  · cases saved
  · next entry decoded => exact ⟨entry, decoded, (congrArg Prod.snd (Except.ok.inj saved)).symm⟩

/-- Saving adds one stamped record and keeps the others. -/
theorem stamped_or_found_of_save {space subpath : String} {document : Json} {policies : List String}
    (saved : table.save space subpath document = .ok (policies, after))
    (found : after[locator]? = some stored) :
    (stored.document = document ∧ ∃ entry, Stamped locator stored entry) ∨
      table[locator]? = some stored := by
  obtain ⟨entry, decoded, rfl⟩ := exists_of_save saved
  rw [Std.ExtTreeMap.getElem?_insert] at found
  split at found
  · next same =>
    obtain rfl := Std.LawfulEqCmp.eq_of_compare same
    obtain rfl := Option.some.inj found
    exact .inl ⟨rfl, entry, stamped_of_decoder decoded⟩
  · exact .inr found

/-- Saving an entry leaves alone what is found at addresses of other types. -/
theorem find_of_save {α : Type} {decoder : Decoder α} {space subpath : String} {document : Json}
    {policies : List String} (saved : table.save space subpath document = .ok (policies, after))
    (other : ∀ entry, Entry.decoder document = .ok entry → entry.type ≠ locator.type) :
    after.find decoder locator = table.find decoder locator := by
  obtain ⟨entry, decoded, rfl⟩ := exists_of_save saved
  have differs : (⟨space, Subpath.normalize subpath, entry.shortname.text, entry.type⟩ : Locator) ≠
      locator.normalize := fun same => other entry decoded (congrArg Locator.type same)
  simp only [find, Std.ExtTreeMap.getElem?_insert, Std.LawfulEqCmp.compare_eq_iff_eq, differs,
    if_false]

/-- Deleting an entry leaves alone what is found at addresses of other types. -/
theorem find_of_delete {α : Type} {decoder : Decoder α} {deleted : Locator}
    (other : deleted.type ≠ locator.type) :
    (table.delete deleted).2.find decoder locator = table.find decoder locator := by
  have differs : deleted ≠ locator.normalize := by
    rintro rfl
    exact other rfl
  simp only [find, delete, Std.ExtTreeMap.getElem?_erase, Std.LawfulEqCmp.compare_eq_iff_eq, differs,
    if_false]

/-- What is listed is stored. -/
theorem exists_of_mem_activeEntries {space subpath : String} {type : ResourceType}
    {entry : ListedEntry} (listed : entry ∈ table.activeEntries space subpath type) :
    ∃ (locator : Locator) (stored : StoredEntry), table[locator]? = some stored ∧
      stored.document = entry.document := by
  obtain ⟨⟨locator, stored⟩, member, rfl⟩ := List.mem_map.mp listed
  have found := Std.ExtTreeMap.mem_toList_iff_getElem?_eq_some.mp member
  rw [Std.ExtTreeMap.getElem?_filter', Option.filter_eq_some_iff] at found
  exact ⟨locator, stored, found.1, rfl⟩

theorem found_of_delete {deleted : Locator}
    (found : (table.delete deleted).2[locator]? = some stored) : table[locator]? = some stored := by
  simp only [delete, Std.ExtTreeMap.getElem?_erase] at found
  split at found
  · cases found
  · exact found

/-- Every record is stamped, however the table came about. -/
theorem Reachable.stamped (reachable : table.Reachable) (found : table[locator]? = some stored) :
    ∃ entry, Stamped locator stored entry := by
  induction reachable with
  | empty => simp at found
  | save before saved ih =>
      rcases stamped_or_found_of_save saved found with ⟨-, stamped⟩ | old
      · exact stamped
      · exact ih old
  | delete before deleted ih => exact ih (found_of_delete found)

/-- Whatever is found is found under a valid name. -/
theorem Reachable.exists_name_of_find {α : Type} {decoder : Decoder α} {value : α}
    (reachable : table.Reachable) (found : table.find decoder locator = .ok (some value)) :
    ∃ name : Shortname, locator.shortname = name.text := by
  cases held : table[locator.normalize]? with
  | none =>
      simp only [find, held] at found
      cases found
  | some stored =>
      obtain ⟨entry, stamped⟩ := reachable.stamped held
      exact ⟨entry.shortname, stamped.shortname.symm⟩

/-- Looking an entry up never fails. -/
theorem Reachable.exists_find (reachable : table.Reachable) (locator : Locator) :
    ∃ answer, table.find Entry.decoder locator = .ok answer := by
  cases found : table[locator.normalize]? with
  | none => exact ⟨none, by rw [find, found]⟩
  | some stored =>
      obtain ⟨entry, stamped⟩ := reachable.stamped found
      exact ⟨some entry, by simp only [find, found, stamped.document]⟩

/-- A search shows the records of the space whose policies match. -/
theorem mem_search_iff {space : String} {filters : List String} :
    locator ∈ table.search space filters ↔ locator.space = space ∧
      ∃ stored, table[locator]? = some stored ∧ policiesMatch filters stored.policies = true := by
  rw [search, Std.ExtTreeMap.mem_keys, Dict.mem_iff_exists_getElem?]
  simp only [Std.ExtTreeMap.getElem?_filter', Option.filter_eq_some_iff, Bool.and_eq_true,
    decide_eq_true_eq]
  constructor
  · rintro ⟨stored, found, inSpace, matched⟩
    exact ⟨inSpace, stored, found, matched⟩
  · rintro ⟨inSpace, stored, found, matched⟩
    exact ⟨stored, found, inSpace, matched⟩

/-- A search shows addresses in their order. -/
theorem ordered_search {space : String} {filters : List String} :
    (table.search space filters).Pairwise fun first second => compare first second = .lt :=
  Std.ExtTreeMap.ordered_keys

end EntryTable

end AccessControl
