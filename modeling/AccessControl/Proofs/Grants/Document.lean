import AccessControl.Proofs.Grant
import AccessControl.Proofs.Json.Shaped
import AccessControl.Proofs.Permission
import AccessControl.Proofs.PermissionKey
import AccessControl.Proofs.Resolution

/-!
# Documents of grants

Grants are written as a map from the written forms of their keys.  A key is read back from its written
form exactly if neither its space nor its subpath holds a colon, which nothing forbids.  Everything
else in the document is read back as it was, as long as the grants were resolved from permissions that
were decoded from documents.
-/

namespace AccessControl

/-! ## Allowed values -/

namespace Decoder

/-- Any sequence is a list of documents. -/
theorem list_any (items : List Json) : list any (.arr items) = .ok items := by
  have read : list any (.arr (items.map id)) = .ok items := list_map fun _ _ => rfl
  rwa [List.map_id] at read

/-- A sequence is a list of lists exactly if all of its items are sequences. -/
theorem exists_list_list_iff {items : List Json} :
    (∃ sets, list (list any) (.arr items) = .ok sets) ↔
      ∀ item ∈ items, ∃ set, item = .arr set := by
  constructor
  · intro ⟨sets, decoded⟩ item isItem
    have written : Json.arr (sets.map .arr) = .arr items :=
      arr_map_of_list (fun _ _ isSet => arr_of_list_ok isSet) decoded
    rw [← Json.arr.inj written] at isItem
    obtain ⟨set, -, rfl⟩ := List.mem_map.mp isItem
    exact ⟨set, rfl⟩
  · intro each
    obtain ⟨sets, rfl⟩ : ∃ sets : List (List Json), items = sets.map .arr := by
      induction items with
      | nil => exact ⟨[], rfl⟩
      | cons first rest ih =>
          obtain ⟨⟨set, rfl⟩, others⟩ := List.forall_mem_cons.mp each
          obtain ⟨sets, rfl⟩ := ih others
          exact ⟨set :: sets, rfl⟩
    exact ⟨sets, list_map fun set _ => list_any set⟩

end Decoder

namespace AllowedValues

variable {form : Json.Form} {values more : AllowedValues} {sets : List (List Json)}
  {items : List Json}

theorem readsBack_lists_iff :
    (lists sets).ReadsBack form ↔ ∀ set ∈ sets, ∀ item ∈ set, form.Has item := by
  have has_iff : form.Has (lists sets).toJson ↔ ∀ set ∈ sets, ∀ item ∈ set, form.Has item := by
    simp [toJson, Json.Form.has_arr_iff]
  have read : Decoder.list (Decoder.list Decoder.any) (lists sets).toJson = .ok sets :=
    Decoder.list_map fun set _ => Decoder.list_any set
  constructor
  · intro back
    exact has_iff.mp back.has
  · intro has
    exact ⟨has_iff.mpr has, by rw [decoder, read]⟩

/-- Values are not taken for sets of values if one of them is no sequence. -/
theorem readsBack_scalars_iff :
    (scalars items).ReadsBack form ↔
      (∀ item ∈ items, form.Has item) ∧ ∃ item ∈ items, ∀ set, item ≠ .arr set := by
  have has_iff : form.Has (scalars items).toJson ↔ ∀ item ∈ items, form.Has item :=
    Json.Form.has_arr_iff
  constructor
  · intro back
    refine ⟨has_iff.mp back.has, ?_⟩
    by_contra noOther
    have allLists : ∀ item ∈ items, ∃ set, item = .arr set := by simpa using noOther
    obtain ⟨sets, read⟩ := Decoder.exists_list_list_iff.mpr allLists
    have decoded := back.decoded
    rw [decoder, toJson, read] at decoded
    cases decoded
  · rintro ⟨has, item, isItem, notList⟩
    refine ⟨has_iff.mpr has, ?_⟩
    rw [decoder, toJson]
    cases read : Decoder.list (Decoder.list Decoder.any) (.arr items) with
    | ok sets =>
        obtain ⟨set, same⟩ := Decoder.exists_list_list_iff.mp ⟨sets, read⟩ item isItem
        exact absurd same (notList set)
    | error cause => simp only [Decoder.list_any]

theorem mem_foldl_addValue {item : Json} {others : List Json} (member : item ∈ items) :
    item ∈ others.foldl addValue items := by
  induction others generalizing items with
  | nil => exact member
  | cons first rest ih =>
      refine ih ?_
      unfold addValue
      split
      · exact member
      · exact List.mem_append_left _ member

/-- Merged values are read back as they are if both parts are: the shape that they have is that of
the first part, and it stays recognizable. -/
theorem ReadsBack.merge (back : values.ReadsBack form) (moreBack : more.ReadsBack form) :
    (values.merge more).ReadsBack form := by
  cases values with
  | lists sets =>
      cases more with
      | scalars others => exact back
      | lists others =>
          rw [readsBack_lists_iff] at back moreBack
          refine readsBack_lists_iff.mpr fun set isSet => ?_
          exact (mem_of_mem_foldl mem_of_mem_addSet isSet).elim (back set) (moreBack set)
  | scalars items =>
      cases more with
      | lists others => exact back
      | scalars others =>
          rw [readsBack_scalars_iff] at back moreBack
          obtain ⟨has, item, isItem, notList⟩ := back
          refine readsBack_scalars_iff.mpr
            ⟨fun value isValue => ?_, item, mem_foldl_addValue isItem, notList⟩
          exact (mem_of_mem_foldl mem_of_mem_addValue isValue).elim (has value) (moreBack.1 value)

end AllowedValues

/-! ## Grants -/

namespace Grant

variable {form : Json.Form} {grant : Grant} {permission : Permission}
  {permissions : List Permission}

/-- Whether all allowed values of a grant are read back from documents in one of the forms. -/
def ReadsBack (form : Json.Form) (grant : Grant) : Prop :=
  ∀ (field : String) (values : AllowedValues), grant.allowedValues[field]? = some values →
    values.ReadsBack form

/-- Whether all allowed values of a grant are read back as they were. -/
def IsReadable (grant : Grant) : Prop :=
  ∀ (field : String) (values : AllowedValues), grant.allowedValues[field]? = some values →
    values.IsReadable

theorem IsReadable.readsBack (readable : grant.IsReadable) : grant.ReadsBack form :=
  fun field values found => (readable field values found).readsBack

theorem readsBack_empty : empty.ReadsBack form := by
  intro field values found
  simp [empty] at found

theorem ReadsBack.absorb (back : grant.ReadsBack form) (more : permission.ReadsBack form) :
    (grant.absorb permission).ReadsBack form := by
  have overList (members : List (String × AllowedValues))
      (each : ∀ member ∈ members, member.2.ReadsBack form) (allowed : Dict String AllowedValues)
      (start : ∀ (field : String) (values : AllowedValues), allowed[field]? = some values →
        values.ReadsBack form) :
      ∀ (field : String) (values : AllowedValues),
        (members.foldl (fun allowed member => addValues allowed member.1 member.2)
          allowed)[field]? = some values → values.ReadsBack form := by
    induction members generalizing allowed with
    | nil => exact start
    | cons first rest ih =>
        obtain ⟨firstBack, restBack⟩ := List.forall_mem_cons.mp each
        refine ih restBack _ fun field values found => ?_
        rw [getElem?_addValues] at found
        split at found
        · obtain rfl := Option.some.inj found
          cases present : allowed[field]? with
          | none => exact firstBack
          | some old => exact (start field old present).merge firstBack
        · exact start field values found
  intro field values found
  rw [Grant.absorb, Std.ExtTreeMap.foldl_eq_foldl_toList] at found
  refine overList _ (fun member isMember => ?_) grant.allowedValues back field values found
  exact more member.1 member.2 (Std.ExtTreeMap.mem_toList_iff_getElem?_eq_some.mp isMember)

theorem readsBack_foldl_absorb (back : grant.ReadsBack form)
    (each : ∀ permission ∈ permissions, permission.ReadsBack form) :
    (permissions.foldl Grant.absorb grant).ReadsBack form := by
  induction permissions generalizing grant with
  | nil => exact back
  | cons first rest ih =>
      obtain ⟨firstBack, restBack⟩ := List.forall_mem_cons.mp each
      exact ih (back.absorb firstBack) restBack

/-- The document of a grant has the shape of a grant. -/
theorem admits_toJson (readable : grant.IsReadable) : shape.Admits grant.toJson := by
  have words {α : Type} [Vocabulary α] [Vocabulary.Lawful α] [Ord α] [Std.TransOrd α] (bag : Bag α) :
      (Json.Shape.list (.word (Vocabulary.names α))).Admits (.ofWords bag) := by
    simp only [Json.ofWords, Json.Shape.Admits, List.forall_mem_map]
    intro word _
    exact List.mem_map.mpr ⟨word, Vocabulary.Lawful.mem_all word, rfl⟩
  refine ⟨rfl, words _, rfl, words _, rfl, ?_, rfl, ?_, trivial⟩
  · simp [Json.ofTexts, Json.Shape.Admits]
  · simp only [Json.ofDict, Json.Shape.Admits, List.forall_mem_map]
    intro member isMember
    have valuesReadable := readable member.1 member.2
      (Std.ExtTreeMap.mem_toList_iff_getElem?_eq_some.mp isMember)
    exact ⟨trivial, valuesReadable.isNormal, by rw [valuesReadable.decoded]⟩

theorem isProper_shape : shape.IsProper := by
  simp [shape, Json.Shape.IsProper, Json.AreProper]

/-- A grant is read back from its document in either form. -/
theorem ReadsBack.decoder_form (back : grant.ReadsBack form) :
    decoder (form.apply grant.toJson) = .ok grant := by
  refine Fields.Reads.decoder_form (.seq (.seq (.seq (.map ?_ mk) ?_) ?_) ?_) (by simp)
  · exact Fields.reads_written rfl rfl (Json.isNormal_ofWords _) (Decoder.words_ofWords _)
  · exact Fields.reads_written rfl rfl (Json.isNormal_ofWords _) (Decoder.words_ofWords _)
  · exact Fields.reads_written rfl rfl (Json.isNormal_ofTexts _) (Decoder.texts_ofTexts _)
  · exact Fields.reads_form rfl rfl
      (Decoder.dict_form fun field values found => (back field values found).decoder_form)

/-- What a decoded grant allows is read back in the form of the document that it was decoded from. -/
theorem readsBack_of_decoder {document : Json} (has : form.Has document)
    (decoded : decoder document = .ok grant) : grant.ReadsBack form := by
  intro field values found
  obtain ⟨layout, built, holds⟩ := Fields.exists_build_of_decoder decoded
  simp only [Fields.build_seq_eq_ok, Fields.build_map_eq_ok] at built
  obtain ⟨_, ⟨_, ⟨_, ⟨_, -, rfl⟩, _, -, rfl⟩, _, -, rfl⟩, allowed, isAllowed, rfl⟩ := built
  obtain ⟨held, isHeld, isDict⟩ := Fields.exists_of_required isAllowed
  obtain ⟨members, rfl, member, isMember, -, isValues⟩ := Decoder.exists_of_dict isDict found
  exact AllowedValues.readsBack_of_decoder ((holds form has _ isHeld).of_mem isMember) isValues

end Grant

namespace Grants

/-- Grants that a snapshot of decoded permissions resolves to for some user. -/
inductive IsResolved : Grants → Prop where
  | grants {snapshot : Snapshot}
      (decoded : ∀ (name : String) (permission : Permission),
        snapshot.permissions[name]? = some permission →
          ∃ document : Json, document.IsNormal ∧ Permission.decoder document = .ok permission)
      (user : User) (defaultRole : Option String) :
      IsResolved (Resolution.grants snapshot user defaultRole)

variable {form : Json.Form} {grants : Grants}

/-- Resolved grants hold what can be read back. -/
theorem IsResolved.isReadable (resolved : grants.IsResolved) {key : PermissionKey} {grant : Grant}
    (held : grants[key]? = some grant) : grant.IsReadable := by
  obtain ⟨decoded, user, defaultRole⟩ := resolved
  obtain ⟨permissions, -, same, rfl⟩ := Resolution.exists_contributions held
  have back : (permissions.foldl Grant.absorb .empty).ReadsBack .normal := by
    refine Grant.readsBack_foldl_absorb Grant.readsBack_empty fun permission isPermission => ?_
    obtain ⟨⟨-, -, -, known⟩, -⟩ := (same permission).mp isPermission
    obtain ⟨document, isNormal, isDocument⟩ := decoded _ permission known
    exact Permission.readsBack_of_decoder isNormal isDocument
  exact fun field values found => (back field values found).isReadable

/-- Grants are read back from their document in either form if their keys are legible. -/
theorem decoder_form (legible : ∀ key ∈ grants, key.IsLegible)
    (back : ∀ (key : PermissionKey) (grant : Grant), grants[key]? = some grant →
      grant.ReadsBack form) :
    decoder (form.apply grants.toJson) = .ok grants := by
  have isKey : ∀ member ∈ grants.toList, member.1.IsLegible := fun member isMember =>
    legible member.1 (Dict.mem_iff_exists_getElem?.mpr
      ⟨_, Std.ExtTreeMap.mem_toList_iff_getElem?_eq_some.mp isMember⟩)
  have read : Decoder.pairs readKey Grant.decoder
      (grants.toList.map fun member => (member.1.text, form.apply member.2.toJson)) =
        .ok grants.toList := by
    refine Decoder.pairs_map (fun member isMember => ?_) fun member isMember => ?_
    · rw [readKey, PermissionKey.parse_text_of_isLegible (isKey member isMember)]
    · have held := Std.ExtTreeMap.mem_toList_iff_getElem?_eq_some.mp isMember
      exact (back member.1 member.2 held).decoder_form
  have distinct : ((grants.toList.map fun member =>
      (member.1.text, member.2.toJson)).map Prod.fst).Nodup := by
    rw [List.map_map]
    refine List.pairwise_map.mpr (Std.ExtTreeMap.distinct_keys_toList.imp_of_mem ?_)
    intro member other isMember isOther apart same
    exact apart (Std.LawfulEqCmp.compare_eq_iff_eq.mpr
      (PermissionKey.eq_of_text_eq (isKey member isMember) (isKey other isOther) same))
  have moved : (form.members _).Perm _ := Json.Form.members_perm distinct
  rw [List.map_map] at moved
  obtain ⟨values, readMoved, sameValues⟩ := Decoder.pairs_perm moved.symm read
  rw [toJson, Json.Form.apply_obj, decoder, Decoder.dict, readMoved]
  exact congrArg Except.ok
    ((Dict.ofList_perm sameValues Std.ExtTreeMap.distinct_keys_toList).trans (Dict.ofList_toList _))

/-- The document of grants has the shape of grants exactly if all keys are legible. -/
theorem admits_toJson_iff
    (readable : ∀ (key : PermissionKey) (grant : Grant), grants[key]? = some grant →
      grant.IsReadable) :
    shape.Admits grants.toJson ↔ ∀ key ∈ grants, key.IsLegible := by
  simp only [shape, toJson, Json.Shape.Admits, List.forall_mem_map]
  constructor
  · intro admits key isKey
    obtain ⟨grant, held⟩ := Dict.mem_iff_exists_getElem?.mp isKey
    have accepted :=
      (admits (key, grant) (Std.ExtTreeMap.mem_toList_iff_getElem?_eq_some.mpr held)).1
    by_contra illegible
    simp [readKey, PermissionKey.parse_text_of_not_isLegible illegible] at accepted
  · intro legible member isMember
    have held := Std.ExtTreeMap.mem_toList_iff_getElem?_eq_some.mp isMember
    have isLegible := legible member.1 (Dict.mem_iff_exists_getElem?.mpr ⟨_, held⟩)
    refine ⟨?_, Grant.admits_toJson (readable member.1 member.2 held)⟩
    simp only [readKey, PermissionKey.parse_text_of_isLegible isLegible]

/-- Grants that can be read back are kept by their text if it keeps the numbers in them and they are not
nested too deep: the text is refused only for a key that is not legible. -/
theorem isKept_toJson
    (readable : ∀ (key : PermissionKey) (grant : Grant), grants[key]? = some grant →
      grant.IsReadable)
    (shallow : Json.nesting grants.toJson < Json.depthLimit) (keeps : grants.toJson.KeepsNumbers) :
    Json.IsKept shape grants.toJson := by
  refine Json.isKept_dict Grant.isProper_shape (List.forall_mem_map.mpr fun member isMember => ?_)
    ((Json.reread_eq_self_iff _ _ (by decide)).mpr ⟨shallow, keeps⟩)
  have held := Std.ExtTreeMap.mem_toList_iff_getElem?_eq_some.mp isMember
  exact Grant.admits_toJson (readable member.1 member.2 held)

/-- Resolved grants are read back from their text if all keys are legible. -/
theorem IsResolved.ofText_text (resolved : grants.IsResolved)
    (kept : Json.IsKept shape grants.toJson) (legible : ∀ key ∈ grants, key.IsLegible) :
    ofText grants.text = .ok grants := by
  rw [ofText, text, kept.admitted ((admits_toJson_iff fun _ _ => resolved.isReadable).mpr legible)]
  have read : decoder (Json.Form.written.apply grants.toJson) = .ok grants :=
    decoder_form legible fun _ _ held => (resolved.isReadable held).readsBack
  simp only [show decoder grants.toJson = .ok grants from read]

/-- Resolved grants are not read back from their text if some key is not legible. -/
theorem IsResolved.exists_ofText_text_error (resolved : grants.IsResolved)
    (kept : Json.IsKept shape grants.toJson) (illegible : ¬ ∀ key ∈ grants, key.IsLegible) :
    ∃ fault, ofText grants.text = .error fault := by
  obtain ⟨fault, refused⟩ := kept.refused
    ((admits_toJson_iff fun _ _ => resolved.isReadable).not.mpr illegible)
  exact ⟨fault, by rw [ofText, text, refused]⟩

end Grants

end AccessControl
