import AccessControl.Entry
import AccessControl.Proofs.Json.Records
import AccessControl.Proofs.Uuid

/-!
# Users and entries in documents

Users, the grants that an entry makes by itself, and entries are read back from their documents as
they were, in either form.
-/

namespace AccessControl

variable {form : Json.Form}

/-- A user is read back from its document in either form. -/
theorem User.decoder_form (user : User) : decoder (form.apply user.toJson) = .ok user := by
  refine Fields.Reads.decoder_form (.seq (.seq (.seq (.map ?_ mk) ?_) ?_) ?_) (by simp)
  · exact Fields.reads_written rfl rfl rfl (Decoder.shortname_text _)
  · exact Fields.reads_written rfl rfl rfl rfl
  · exact Fields.reads_written rfl rfl (Json.isNormal_ofNames _) (Decoder.shortnames_ofNames _)
  · exact Fields.reads_written rfl rfl (Json.isNormal_ofNames _) (Decoder.shortnames_ofNames _)

/-- A grant of an entry is read back from its document in either form. -/
theorem AclItem.decoder_form (item : AclItem) : decoder (form.apply item.toJson) = .ok item := by
  refine Fields.Reads.decoder_form (.seq (.map ?_ mk) ?_) (by simp)
  · exact Fields.reads_written rfl rfl rfl (Decoder.shortname_text _)
  · exact Fields.reads_written rfl rfl (Json.isNormal_ofWords _) (Decoder.words_ofWords _)

/-- An entry is read back from its document in either form. -/
theorem Entry.decoder_form (entry : Entry) : decoder (form.apply entry.toJson) = .ok entry := by
  have uuid_text (uuid : Uuid) : Decoder.uuid (.str uuid.text) = .ok uuid := by
    rw [Decoder.uuid, Uuid.parse_text]
  refine Fields.Reads.decoder_form
    (.seq (.seq (.seq (.seq (.seq (.seq (.map ?_ mk) ?_) ?_) ?_) ?_) ?_) ?_) (by simp)
  · exact Fields.reads_form rfl rfl (Decoder.optional_form uuid_text _)
  · exact Fields.reads_written rfl rfl rfl (Decoder.shortname_text _)
  · exact Fields.reads_written rfl rfl rfl (Decoder.word_name _)
  · exact Fields.reads_written rfl rfl rfl rfl
  · exact Fields.reads_written rfl rfl rfl (Decoder.shortname_text _)
  · exact Fields.reads_form rfl rfl (Decoder.optional_form Decoder.shortname_text _)
  · exact Fields.reads_form rfl rfl (Decoder.list_form fun item _ => item.decoder_form)

end AccessControl
