import AccessControl.Proofs.Memory.Changes

/-!
# What a table shows

A table keeps four things of an entry: its document, its address, its activity and its policies.
Whatever was saved and deleted, the last three are those of the document that was saved last.  So
looking an entry up, searching a space and listing what is active all answer from the same documents,
each entry once and in order.
-/

namespace AccessControl

namespace Locator

variable {first second : Locator}

theorem compare_of_space_eq (sameSpace : first.space = second.space) :
    compare first second = (compareOn subpath first second).then
      ((compareOn shortname first second).then
        (compareOn (fun locator => locator.type.name) first second)) := by
  have space : compareOn space first second = .eq := by simp [compareOn, sameSpace]
  change (compareOn Locator.space first second).then _ = _
  rw [space]
  rfl

/-- In one space addresses come by subpath and then by name. -/
theorem isLE_of_compare_eq_lt (sameSpace : first.space = second.space)
    (less : compare first second = .lt) :
    (compareLex (compareOn subpath) (compareOn shortname) first second).isLE = true := by
  rw [compare_of_space_eq sameSpace] at less
  rw [compareLex]
  cases bySubpath : compareOn subpath first second with
  | lt => rfl
  | gt =>
      rw [bySubpath] at less
      cases less
  | eq =>
      rw [bySubpath, Ordering.eq_then] at less
      rw [Ordering.eq_then]
      cases byName : compareOn shortname first second with
      | lt => rfl
      | eq => rfl
      | gt =>
          rw [byName] at less
          cases less

/-- At one place addresses of one type come by name. -/
theorem compare_shortname_of_compare_eq_lt (sameSpace : first.space = second.space)
    (sameSubpath : first.subpath = second.subpath) (sameType : first.type = second.type)
    (less : compare first second = .lt) : compare first.shortname second.shortname = .lt := by
  have subpath : compareOn subpath first second = .eq := by simp [compareOn, sameSubpath]
  have type : compareOn (fun locator => locator.type.name) first second = .eq := by
    simp [compareOn, sameType]
  rw [compare_of_space_eq sameSpace, subpath, type, Ordering.eq_then, Ordering.then_eq] at less
  exact less

end Locator

namespace EntryTable

variable {changes : List Change} {locator : Locator} {stored : StoredEntry} {space subpath : String}
  {filters : List String} {table : EntryTable}

/-- A search answers by subpath and then by name. -/
theorem pairwise_search : (table.search space filters).Pairwise fun first second =>
    (compareLex (compareOn Locator.subpath) (compareOn Locator.shortname) first second).isLE = true := by
  have inSpace : ∀ locator ∈ table.search space filters, locator.space = space := fun locator shown =>
    (mem_search_iff.mp shown).1
  exact ordered_search.imp_of_mem fun isFirst isSecond => Locator.isLE_of_compare_eq_lt
    ((inSpace _ isFirst).trans (inSpace _ isSecond).symm)

theorem nodup_search : (table.search space filters).Nodup :=
  ordered_search.imp fun less same => by simp [same] at less

/-- The active entries of one type that are stored at a subpath. -/
theorem mem_activeAt_iff {type : ResourceType} {place : String} :
    (locator, stored) ∈ (table.filter fun locator entry => entry.isActive &&
        locator.space = space && locator.subpath = place && locator.type = type).toList ↔
      (locator.space = space ∧ locator.subpath = place ∧ locator.type = type) ∧
        table[locator]? = some stored ∧ stored.isActive = true := by
  rw [Std.ExtTreeMap.mem_toList_iff_getElem?_eq_some, Std.ExtTreeMap.getElem?_filter',
    Option.filter_eq_some_iff]
  simp only [Bool.and_eq_true, decide_eq_true_eq]
  constructor
  · rintro ⟨held, ⟨⟨isActive, inSpace⟩, atPlace⟩, ofType⟩
    exact ⟨⟨inSpace, atPlace, ofType⟩, held, isActive⟩
  · rintro ⟨⟨inSpace, atPlace, ofType⟩, held, isActive⟩
    exact ⟨held, ⟨⟨isActive, inSpace⟩, atPlace⟩, ofType⟩

/-- What is listed is stored at the subpath under its name, and active. -/
theorem mem_activeEntries_iff {type : ResourceType} {listed : ListedEntry} :
    listed ∈ table.activeEntries space subpath type ↔
      ∃ stored, table[(⟨space, Subpath.normalize subpath, listed.shortname, type⟩ : Locator)]? =
        some stored ∧ stored.isActive = true ∧ stored.document = listed.document := by
  rw [activeEntries, List.mem_map]
  constructor
  · rintro ⟨⟨locator, stored⟩, isActiveAt, rfl⟩
    obtain ⟨⟨rfl, atPlace, rfl⟩, held, isActive⟩ := mem_activeAt_iff.mp isActiveAt
    exact ⟨stored, atPlace ▸ held, isActive, rfl⟩
  · rintro ⟨stored, held, isActive, isDocument⟩
    exact ⟨(_, stored), mem_activeAt_iff.mpr ⟨⟨rfl, rfl, rfl⟩, held, isActive⟩,
      by simp only [isDocument]⟩

/-- A listing is in the order of the names, none of which comes twice. -/
theorem pairwise_activeEntries {type : ResourceType} :
    (table.activeEntries space subpath type).Pairwise fun first second =>
      compare first.shortname second.shortname = .lt := by
  refine List.pairwise_map.mpr (Std.ExtTreeMap.ordered_keys_toList.imp_of_mem ?_)
  rintro ⟨first, firstStored⟩ ⟨second, secondStored⟩ isFirst isSecond
  obtain ⟨⟨firstSpace, firstPlace, firstType⟩, -⟩ := mem_activeAt_iff.mp isFirst
  obtain ⟨⟨secondSpace, secondPlace, secondType⟩, -⟩ := mem_activeAt_iff.mp isSecond
  exact Locator.compare_shortname_of_compare_eq_lt (firstSpace.trans secondSpace.symm)
    (firstPlace.trans secondPlace.symm) (firstType.trans secondType.symm)

/-! ## After any changes -/

/-- What is held after any changes is a document that decodes, at the address that it names, with its
own activity and policies.  So a lookup finds the document that was saved last, a search shows the
addresses whose current documents match, and a listing shows the current documents that are active. -/
theorem after_keepsTo_documents (changes : List Change) :
    (∀ (locator : Locator) (stored : StoredEntry), (after changes)[locator]? = some stored →
      ∃ entry, Stamped locator stored entry ∧ IsCurrent changes locator stored.document ∧
        (after changes).find Entry.decoder locator = .ok (some entry)) ∧
    (∀ (space : String) (filters : List String),
      ((after changes).search space filters).Nodup ∧
      (((after changes).search space filters).Pairwise fun first second =>
        (compareLex (compareOn Locator.subpath) (compareOn Locator.shortname)
          first second).isLE = true) ∧
      ∀ locator, locator ∈ (after changes).search space filters ↔
        locator.space = space ∧ ∃ document entry, IsCurrent changes locator document ∧
          Entry.decoder document = .ok entry ∧
          policiesMatch filters (entry.policies space locator.subpath) = true) ∧
    ∀ (space subpath : String) (type : ResourceType),
      (((after changes).activeEntries space subpath type).Pairwise fun first second =>
        compare first.shortname second.shortname = .lt) ∧
      ∀ listed, listed ∈ (after changes).activeEntries space subpath type ↔
        IsCurrent changes ⟨space, Subpath.normalize subpath, listed.shortname, type⟩
            listed.document ∧
          ∃ entry, Entry.decoder listed.document = .ok entry ∧ entry.isActive = true := by
  refine ⟨fun locator stored held => ?_, fun space filters => ⟨nodup_search, pairwise_search,
    fun locator => ?_⟩, fun space subpath type => ⟨pairwise_activeEntries, fun listed => ?_⟩⟩
  · obtain ⟨current, entry, stamped⟩ := getElem?_after_iff.mp held
    refine ⟨entry, stamped, current, ?_⟩
    have normal : locator.normalize = locator := by
      rw [Locator.normalize, stamped.subpath]
    simp only [find, normal, held, stamped.document]
  · rw [mem_search_iff]
    refine and_congr_right fun inSpace => ?_
    constructor
    · rintro ⟨stored, held, matched⟩
      obtain ⟨current, entry, stamped⟩ := getElem?_after_iff.mp held
      refine ⟨stored.document, entry, current, stamped.document, ?_⟩
      rwa [stamped.policies, inSpace] at matched
    · rintro ⟨document, entry, current, decoded, matched⟩
      exact ⟨_, current.getElem? decoded, inSpace ▸ matched⟩
  · rw [mem_activeEntries_iff]
    constructor
    · rintro ⟨stored, held, isActive, isDocument⟩
      obtain ⟨current, entry, stamped⟩ := getElem?_after_iff.mp held
      rw [isDocument] at current
      exact ⟨current, entry, isDocument ▸ stamped.document, stamped.isActive.symm.trans isActive⟩
    · rintro ⟨current, entry, decoded, isActive⟩
      exact ⟨_, current.getElem? decoded, isActive, rfl⟩

end EntryTable

end AccessControl
