import AccessControl.Proofs.Entry
import AccessControl.Proofs.Grants.Document

/-!
# Encoding loses nothing

Whatever was decoded from a document is read back as it was from the document that it is written as.
Most records are read back whatever they hold.  Allowed values are read back because they were decoded:
a list of values that could be taken for sets of values was taken for them, and merging keeps to that.
Keys are read back because they were read from one text, so that no part of theirs holds a colon.
-/

namespace AccessControl

variable {form : Json.Form} {document : Json}

/-- Whether every value that was decoded from a document is read back from the document that it is
written as, in either form that both documents are passed on in. -/
def Decoder.IsLossless {α : Type} (decoder : Decoder α) (encode : α → Json) : Prop :=
  ∀ (form : Json.Form) (document : Json) (value : α), form.Has document →
    decoder document = .ok value → decoder (form.apply (encode value)) = .ok value

namespace Grants

variable {grants : Grants}

/-- The keys of decoded grants are legible, since each was read from one text. -/
theorem isLegible_of_decoder (decoded : decoder document = .ok grants) :
    ∀ key ∈ grants, key.IsLegible := by
  intro key isKey
  obtain ⟨grant, held⟩ := Dict.mem_iff_exists_getElem?.mp isKey
  obtain ⟨members, rfl, member, -, isName, -⟩ := Decoder.exists_of_dict decoded held
  cases parsed : PermissionKey.parse member.1 with
  | error cause =>
      rw [readKey, parsed] at isName
      cases isName
  | ok name =>
      rw [readKey, parsed] at isName
      obtain rfl := Except.ok.inj isName
      exact PermissionKey.isLegible_of_parse parsed

theorem readsBack_of_decoder (has : form.Has document) (decoded : decoder document = .ok grants)
    {key : PermissionKey} {grant : Grant} (held : grants[key]? = some grant) :
    grant.ReadsBack form := by
  obtain ⟨members, rfl, member, isMember, -, isGrant⟩ := Decoder.exists_of_dict decoded held
  exact Grant.readsBack_of_decoder (has.of_mem isMember) isGrant

end Grants

/-- Encoding loses nothing that documents can be decoded to, whether documents are passed on as they
were written or in normal form.  Nor does it lose anything of a grant that permissions were folded
into one after the other. -/
theorem Decoder.isLossless_records :
    (IsLossless Permission.decoder Permission.toJson ∧
      IsLossless AllowedValues.decoder AllowedValues.toJson ∧
      IsLossless Role.decoder Role.toJson ∧
      IsLossless Group.decoder Group.toJson ∧
      IsLossless User.decoder User.toJson ∧
      IsLossless AclItem.decoder AclItem.toJson ∧
      IsLossless Entry.decoder Entry.toJson ∧
      IsLossless Grant.decoder Grant.toJson ∧
      IsLossless Grants.decoder Grants.toJson) ∧
    ∀ (form : Json.Form) (permissions : List Permission),
      (∀ permission ∈ permissions, ∃ document, form.Has document ∧
        Permission.decoder document = .ok permission) →
      Grant.decoder (form.apply (permissions.foldl Grant.absorb .empty).toJson) =
        .ok (permissions.foldl Grant.absorb .empty) := by
  refine ⟨⟨?_, ?_, ?_, ?_, ?_, ?_, ?_, ?_, ?_⟩, ?_⟩
  · intro form document permission has decoded
    exact (Permission.readsBack_of_decoder has decoded).decoder_form
  · intro form document values has decoded
    exact (AllowedValues.readsBack_of_decoder has decoded).decoder_form
  · exact fun _ _ role _ _ => role.decoder_form
  · exact fun _ _ group _ _ => group.decoder_form
  · exact fun _ _ user _ _ => user.decoder_form
  · exact fun _ _ item _ _ => item.decoder_form
  · exact fun _ _ entry _ _ => entry.decoder_form
  · intro form document grant has decoded
    exact (Grant.readsBack_of_decoder has decoded).decoder_form
  · intro form document grants has decoded
    exact Grants.decoder_form (Grants.isLegible_of_decoder decoded) fun _ _ held =>
      Grants.readsBack_of_decoder has decoded held
  · intro form permissions decoded
    have back : (permissions.foldl Grant.absorb .empty).ReadsBack form := by
      refine Grant.readsBack_foldl_absorb Grant.readsBack_empty fun permission isPermission => ?_
      obtain ⟨document, has, isDecoded⟩ := decoded permission isPermission
      exact Permission.readsBack_of_decoder has isDecoded
    exact back.decoder_form

/-- Values that came from two permissions stay values, also beside a sequence. -/
theorem Decoder.isLossless_records_genre :
    let permit (values : List Json) : Permission :=
      ⟨⟨"edit_news", by decide⟩, true, ∅, ∅, ∅, ∅, [],
        Std.ExtTreeMap.ofList [("genre", AllowedValues.scalars values)]⟩
    let merged := [permit [.str "news"], permit [.arr [], .str "news"]].foldl Grant.absorb .empty
    merged.allowedValues["genre"]? = some (.scalars [.str "news", .arr []]) ∧
      Grant.decoder merged.toJson.normal = .ok merged := by
  intro permit merged
  have permitted (values : List Json) (listed : (AllowedValues.scalars values).ReadsBack .normal) :
      ∃ document, Json.Form.normal.Has document ∧
        Permission.decoder document = .ok (permit values) := by
    refine ⟨Json.Form.normal.apply (permit values).toJson, Json.normal_normal _, ?_⟩
    refine Permission.ReadsBack.decoder_form fun name held found => ?_
    obtain ⟨-, rfl⟩ := Prod.mk.inj (List.mem_singleton.mp (Dict.mem_of_getElem?_ofList found))
    exact listed
  refine ⟨rfl, Decoder.isLossless_records.2 .normal _ fun permission isPermission => ?_⟩
  rcases List.mem_pair.mp isPermission with rfl | rfl
  · exact permitted _ ⟨rfl, rfl⟩
  · exact permitted _ ⟨rfl, rfl⟩

end AccessControl
