import AccessControl.Proofs.Json.Records

/-!
# Groups, roles and permissions in documents

Groups and roles are read back from their documents as they were, in either form.  So are
permissions, provided that their allowed values are: a list of values that happens to hold lists only
would be taken for sets of values.  No decoded permission has such a list, and what it has was in
normal form if the document was that it was decoded from.
-/

namespace AccessControl

variable {form : Json.Form} {document : Json}

/-! ## Groups and roles -/

/-- A group is read back from its document in either form. -/
theorem Group.decoder_form (group : Group) : decoder (form.apply group.toJson) = .ok group := by
  refine Fields.Reads.decoder_form (.seq (.seq (.map ?_ mk) ?_) ?_) (by simp)
  · exact Fields.reads_written rfl rfl rfl (Decoder.shortname_text _)
  · exact Fields.reads_written rfl rfl rfl rfl
  · exact Fields.reads_written rfl rfl (Json.isNormal_ofNames _) (Decoder.shortnames_ofNames _)

/-- A role is read back from its document in either form. -/
theorem Role.decoder_form (role : Role) : decoder (form.apply role.toJson) = .ok role := by
  refine Fields.Reads.decoder_form (.seq (.seq (.map ?_ mk) ?_) ?_) (by simp)
  · exact Fields.reads_written rfl rfl rfl (Decoder.shortname_text _)
  · exact Fields.reads_written rfl rfl rfl rfl
  · exact Fields.reads_written rfl rfl (Json.isNormal_ofNames _) (Decoder.shortnames_ofNames _)

/-! ## Allowed values -/

namespace AllowedValues

variable {values : AllowedValues}

/-- Values are written as the document that they were decoded from. -/
theorem toJson_of_decoder (decoded : decoder document = .ok values) : values.toJson = document := by
  rw [decoder] at decoded
  split at decoded
  · next sets isSets =>
    rw [← Except.ok.inj decoded, toJson]
    refine Decoder.arr_map_of_list (fun document values isSet => ?_) isSets
    exact Decoder.arr_of_list_ok isSet
  · split at decoded
    · next isValues =>
      rw [← Except.ok.inj decoded, toJson]
      exact Decoder.arr_of_list_ok isValues
    · cases decoded

/-- Values that are written in one of the forms and read back as they were. -/
structure ReadsBack (form : Json.Form) (values : AllowedValues) : Prop where
  has : form.Has values.toJson
  decoded : decoder values.toJson = .ok values

/-- Values that are written in normal form and read back as they were. -/
structure IsReadable (values : AllowedValues) : Prop where
  isNormal : values.toJson.IsNormal
  decoded : decoder values.toJson = .ok values

theorem IsReadable.readsBack (readable : values.IsReadable) : values.ReadsBack form where
  has := Json.Form.has_of_isNormal readable.isNormal
  decoded := readable.decoded

theorem ReadsBack.isReadable (back : values.ReadsBack .normal) : values.IsReadable where
  isNormal := back.has
  decoded := back.decoded

theorem ReadsBack.decoder_form (back : values.ReadsBack form) :
    decoder (form.apply values.toJson) = .ok values := by
  rw [back.has]
  exact back.decoded

theorem readsBack_of_decoder (has : form.Has document) (decoded : decoder document = .ok values) :
    values.ReadsBack form := by
  obtain rfl := toJson_of_decoder decoded
  exact ⟨has, decoded⟩

end AllowedValues

/-! ## Permissions -/

namespace Permission

variable {permission : Permission}

/-- Whether all allowed values of a permission are read back from documents in one of the forms. -/
def ReadsBack (form : Json.Form) (permission : Permission) : Prop :=
  ∀ (name : String) (values : AllowedValues), permission.allowedValues[name]? = some values →
    values.ReadsBack form

/-- Whether all allowed values of a permission are read back as they were. -/
def IsReadable (permission : Permission) : Prop :=
  ∀ (name : String) (values : AllowedValues), permission.allowedValues[name]? = some values →
    values.IsReadable

theorem IsReadable.readsBack (readable : permission.IsReadable) : permission.ReadsBack form :=
  fun name values found => (readable name values found).readsBack

theorem ReadsBack.decoder_form (back : permission.ReadsBack form) :
    decoder (form.apply permission.toJson) = .ok permission := by
  refine Fields.Reads.decoder_form
    (.seq (.seq (.seq (.seq (.seq (.seq (.seq (.map ?_ mk) ?_) ?_) ?_) ?_) ?_) ?_) ?_) (by simp)
  · exact Fields.reads_written rfl rfl rfl (Decoder.shortname_text _)
  · exact Fields.reads_written rfl rfl rfl rfl
  · refine Fields.reads_form rfl rfl (Decoder.dict_form fun _ texts _ => ?_)
    rw [Json.Form.has_of_isNormal (Json.isNormal_ofTexts texts)]
    exact Decoder.texts_ofTexts texts
  · exact Fields.reads_written rfl rfl (Json.isNormal_ofWords _) (Decoder.words_ofWords _)
  · exact Fields.reads_written rfl rfl (Json.isNormal_ofWords _) (Decoder.words_ofWords _)
  · exact Fields.reads_written rfl rfl (Json.isNormal_ofWords _) (Decoder.words_ofWords _)
  · exact Fields.reads_written rfl rfl (Json.isNormal_ofTexts _) (Decoder.texts_ofTexts _)
  · exact Fields.reads_form rfl rfl
      (Decoder.dict_form fun name values found => (back name values found).decoder_form)

/-- What a decoded permission allows is read back in the form of the document that it was decoded
from. -/
theorem readsBack_of_decoder (has : form.Has document)
    (decoded : decoder document = .ok permission) : permission.ReadsBack form := by
  intro name values found
  obtain ⟨layout, built, holds⟩ := Fields.exists_build_of_decoder decoded
  simp only [fields, Fields.build_seq_eq_ok, Fields.build_map_eq_ok] at built
  obtain ⟨_, ⟨_, ⟨_, ⟨_, ⟨_, ⟨_, ⟨_, ⟨_, -, rfl⟩, _, -, rfl⟩, _, -, rfl⟩, _, -, rfl⟩, _, -, rfl⟩, _, -,
    rfl⟩, _, -, rfl⟩, allowed, isAllowed, rfl⟩ := built
  rcases Fields.eq_or_exists_of_withDefault isAllowed with rfl | ⟨held, isHeld, isDict⟩
  · simp at found
  · obtain ⟨members, rfl, member, isMember, -, isValues⟩ := Decoder.exists_of_dict isDict found
    exact AllowedValues.readsBack_of_decoder ((holds form has _ isHeld).of_mem isMember) isValues

theorem isReadable_of_decoder (isNormal : document.IsNormal)
    (decoded : decoder document = .ok permission) : permission.IsReadable := by
  have back : permission.ReadsBack .normal := readsBack_of_decoder isNormal decoded
  exact fun name values found => (back name values found).isReadable

end Permission

end AccessControl
