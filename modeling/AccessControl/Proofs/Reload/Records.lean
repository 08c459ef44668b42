import AccessControl.Proofs.Ordered
import AccessControl.Reload

/-!
# Records of a listing

A reload reads a listing if all of its documents decode, those of inactive records included.  What a
snapshot then holds under a name is the last active record of that name in the listing.
-/

namespace AccessControl

namespace Reload

variable {α : Type} {space subpath : String} {decoder : Decoder α} {isActive : α → Bool}
  {name : α → Shortname} {entry : ListedEntry} {entries rest : List ListedEntry}
  {records : List α} {record : α} {key : String}

/-! ## What is read -/

/-- Whether all listed documents decode. -/
def AllDecode (decoder : Decoder α) (entries : List ListedEntry) : Prop :=
  ∀ entry ∈ entries, ∃ record, decoder entry.document = .ok record

/-- A listing is read entry by entry, and each of them has to decode. -/
theorem readRecords_cons_eq_ok :
    readRecords space subpath decoder isActive (entry :: rest) = .ok records ↔
      ∃ record more, decoder entry.document = .ok record ∧
        readRecords space subpath decoder isActive rest = .ok more ∧
        records = if isActive record then record :: more else more := by
  rw [readRecords]
  cases decoded : decoder entry.document with
  | error cause => simp [throw, throwThe, MonadExceptOf.throw]
  | ok record =>
      cases read : readRecords space subpath decoder isActive rest with
      | error error => simp [bind, Except.bind]
      | ok more =>
          simp only [bind, Except.bind, pure, Except.pure, Except.ok.injEq, exists_and_left,
            exists_eq_left', eq_comm]

/-- A listing is read just if all of its documents decode. -/
theorem exists_readRecords_iff :
    (∃ records, readRecords space subpath decoder isActive entries = .ok records) ↔
      AllDecode decoder entries := by
  induction entries with
  | nil => exact iff_of_true ⟨[], rfl⟩ fun _ member => nomatch member
  | cons entry rest ih =>
      rw [AllDecode, List.forall_mem_cons, ← AllDecode, ← ih]
      simp only [readRecords_cons_eq_ok]
      constructor
      · rintro ⟨_, record, more, decoded, read, -⟩
        exact ⟨⟨record, decoded⟩, more, read⟩
      · rintro ⟨⟨record, decoded⟩, more, read⟩
        exact ⟨_, record, more, decoded, read, rfl⟩

/-- What is read was decoded from the document of an entry. -/
theorem exists_entry_of_mem_readRecords
    (read : readRecords space subpath decoder isActive entries = .ok records)
    (member : record ∈ records) : ∃ entry ∈ entries, decoder entry.document = .ok record := by
  induction entries generalizing records with
  | nil =>
      obtain rfl : [] = records := Except.ok.inj read
      cases member
  | cons entry rest ih =>
      obtain ⟨first, more, decoded, readRest, rfl⟩ := readRecords_cons_eq_ok.mp read
      have isFirstOrLater : record = first ∨ record ∈ more := by
        split at member
        · exact List.mem_cons.mp member
        · exact .inr member
      rcases isFirstOrLater with rfl | later
      · exact ⟨entry, List.mem_cons_self, decoded⟩
      · obtain ⟨found, isFound, read⟩ := ih readRest later
        exact ⟨found, List.mem_cons_of_mem _ isFound, read⟩

/-- A listing that is not read is reported as a snapshot that cannot be loaded. -/
theorem kind_of_readRecords {error : ServiceError}
    (failed : readRecords space subpath decoder isActive entries = .error error) :
    error.kind = .snapshotLoad := by
  induction entries with
  | nil => cases failed
  | cons entry rest ih =>
      cases decoded : decoder entry.document with
      | error cause =>
          simp only [readRecords, decoded] at failed
          obtain rfl := Except.error.inj failed
          rfl
      | ok record =>
          cases read : readRecords space subpath decoder isActive rest with
          | error other =>
              simp only [readRecords, decoded, read, bind, Except.bind] at failed
              obtain rfl := Except.error.inj failed
              exact ih read
          | ok more => simp [readRecords, decoded, read, bind, Except.bind, pure, Except.pure] at failed

/-! ## What is kept -/

/-- Whether a document is that of an active record of a name. -/
structure IsActiveRecord (decoder : Decoder α) (isActive : α → Bool) (name : α → Shortname)
    (key : String) (document : Json) (record : α) : Prop where
  decoded : decoder document = .ok record
  isActive : isActive record = true
  named : (name record).text = key

/-- Whether a record is the last active one of a name in a listing. -/
def IsLastActive (decoder : Decoder α) (isActive : α → Bool) (name : α → Shortname)
    (entries : List ListedEntry) (key : String) (record : α) : Prop :=
  ∃ before entry after, entries = before ++ entry :: after ∧
    IsActiveRecord decoder isActive name key entry.document record ∧
    ∀ later ∈ after, ∀ other, ¬ IsActiveRecord decoder isActive name key later.document other

theorem isLastActive_cons :
    IsLastActive decoder isActive name (entry :: rest) key record ↔
      IsLastActive decoder isActive name rest key record ∨
        IsActiveRecord decoder isActive name key entry.document record ∧
          ∀ later ∈ rest, ∀ other,
            ¬ IsActiveRecord decoder isActive name key later.document other := by
  constructor
  · rintro ⟨before, last, after, split, isRecord, isLast⟩
    cases before with
    | nil =>
        obtain ⟨rfl, rfl⟩ := List.cons.inj split
        exact .inr ⟨isRecord, isLast⟩
    | cons first before =>
        obtain ⟨-, rfl⟩ := List.cons.inj split
        exact .inl ⟨before, last, after, rfl, isRecord, isLast⟩
  · rintro (⟨before, last, after, rfl, isRecord, isLast⟩ | ⟨isRecord, isLast⟩)
    · exact ⟨entry :: before, last, after, rfl, isRecord, isLast⟩
    · exact ⟨[], entry, rest, rfl, isRecord, isLast⟩

/-- One of the active records of a name is the last one. -/
theorem exists_isLastActive
    (exists_record : ∃ entry ∈ entries, ∃ record,
      IsActiveRecord decoder isActive name key entry.document record) :
    ∃ last, IsLastActive decoder isActive name entries key last := by
  induction entries with
  | nil => obtain ⟨_, member, -⟩ := exists_record; cases member
  | cons first rest ih =>
      by_cases more : ∃ entry ∈ rest, ∃ record,
          IsActiveRecord decoder isActive name key entry.document record
      · obtain ⟨last, isLast⟩ := ih more
        exact ⟨last, isLastActive_cons.mpr (.inl isLast)⟩
      · obtain ⟨entry, member, record, isRecord⟩ := exists_record
        obtain rfl := (List.mem_cons.mp member).resolve_right fun later =>
          more ⟨entry, later, record, isRecord⟩
        exact ⟨record, isLastActive_cons.mpr (.inr ⟨isRecord, fun later member other isOther =>
          more ⟨later, member, other, isOther⟩⟩)⟩

theorem IsLastActive.exists_record (isLast : IsLastActive decoder isActive name entries key record) :
    ∃ entry ∈ entries, IsActiveRecord decoder isActive name key entry.document record := by
  obtain ⟨before, entry, after, rfl, isRecord, -⟩ := isLast
  exact ⟨entry, by simp, isRecord⟩

/-- The records of a listing by name: under each name the last active one. -/
theorem getElem?_byName_iff
    (read : readRecords space subpath decoder isActive entries = .ok records) :
    (Snapshot.byName name records)[key]? = some record ↔
      IsLastActive decoder isActive name entries key record := by
  induction entries generalizing records record with
  | nil =>
      obtain rfl : [] = records := Except.ok.inj read
      refine iff_of_false (by simp [Snapshot.byName]) fun isLast => ?_
      obtain ⟨_, member, -⟩ := isLast.exists_record
      cases member
  | cons entry rest ih =>
      obtain ⟨first, more, decoded, readRest, rfl⟩ := readRecords_cons_eq_ok.mp read
      have isFirst {other : α}
          (isRecord : IsActiveRecord decoder isActive name key entry.document other) :
          first = other :=
        Except.ok.inj (decoded.symm.trans isRecord.decoded)
      rw [isLastActive_cons, ← ih readRest]
      cases active : isActive first with
      | false =>
          refine (or_iff_left fun ⟨isRecord, _⟩ => ?_).symm
          rw [isFirst isRecord, isRecord.isActive] at active
          cases active
      | true =>
          rw [if_pos rfl, Snapshot.byName, List.map_cons, Dict.getElem?_ofList_cons,
            ← Snapshot.byName]
          cases found : (Snapshot.byName name more)[key]? with
          | some other =>
              obtain ⟨later, member, isRecord⟩ := ((ih readRest).mp found).exists_record
              exact (or_iff_left fun ⟨_, isLast⟩ => isLast later member other isRecord).symm
          | none =>
              have isLast : ∀ later ∈ rest, ∀ other,
                  ¬ IsActiveRecord decoder isActive name key later.document other := by
                intro later member other isRecord
                obtain ⟨last, isLast⟩ := exists_isLastActive ⟨later, member, other, isRecord⟩
                rw [(ih readRest).mpr isLast] at found
                cases found
              simp only [Option.none_or, reduceCtorEq, false_or, Option.ite_none_right_eq_some,
                Option.some.injEq]
              constructor
              · rintro ⟨named, rfl⟩
                exact ⟨⟨decoded, active, named⟩, isLast⟩
              · rintro ⟨isRecord, -⟩
                obtain rfl := isFirst isRecord
                exact ⟨isRecord.named, rfl⟩

end Reload

end AccessControl
