import AccessControl.Proofs.Permission
import AccessControl.Proofs.Timestamp
import AccessControl.Proofs.Uuid
import AccessControl.Snapshot

/-!
# Documents of snapshots

The document of a snapshot is read back as the snapshot, if 64 bits hold the generation and all
allowed values are read back as they were.  Generations are counted as far as 64 bits go, and the
document claims the generation of the snapshot.
-/

namespace AccessControl

namespace Snapshot

variable {snapshot : Snapshot}

/-- A snapshot that is read back from its document. -/
structure IsReadable (snapshot : Snapshot) : Prop where
  generation : snapshot.generation < Decimal.capacity 64
  permissions : ∀ (name : String) (permission : Permission),
    snapshot.permissions[name]? = some permission → permission.IsReadable

/-- A readable snapshot is read back from its document as it was. -/
theorem IsReadable.decoder_document (readable : snapshot.IsReadable) :
    decoder snapshot.document = .ok snapshot := by
  obtain ⟨generation, revision, loadedAt, groups, roles, permissions⟩ := snapshot
  change Fields.decoder _ _ (Json.Form.normal.apply (.obj _)) = _
  refine Fields.Reads.decoder_form
    (.seq (.seq (.seq (.seq (.seq (.map ?_ _) ?_) ?_) ?_) ?_) ?_) (by simp)
  · refine Fields.reads_written rfl rfl rfl ?_
    have inRange : 0 ≤ (generation : Int) ∧ (generation : Int) < (Decimal.capacity 64 : Nat) :=
      ⟨Int.natCast_nonneg _, Int.ofNat_lt.mpr readable.generation⟩
    rw [Decoder.natural, if_pos inRange, Int.toNat_natCast]
  · exact Fields.reads_written rfl rfl rfl (by rw [Decoder.uuid, Uuid.parse_text])
  · refine Fields.reads_form rfl rfl (Decoder.optional_form (fun time => ?_) loadedAt)
    rw [Decoder.timestamp, Timestamp.parse_text]
  · exact Fields.reads_form rfl rfl (Decoder.dict_form fun _ group _ => group.decoder_form)
  · exact Fields.reads_form rfl rfl (Decoder.dict_form fun _ role _ => role.decoder_form)
  · exact Fields.reads_form rfl rfl (Decoder.dict_form fun name permission found =>
      (readable.permissions name permission found).readsBack.decoder_form)

/-- Records that are held by name are among the given ones. -/
theorem mem_of_getElem?_byName {α : Type} {name : α → Shortname} {records : List α} {key : String}
    {record : α} (found : (byName name records)[key]? = some record) : record ∈ records := by
  obtain ⟨held, isHeld, pair⟩ := List.mem_map.mp (Dict.mem_of_getElem?_ofList found)
  obtain ⟨-, rfl⟩ := Prod.mk.inj pair
  exact isHeld

theorem isReadable_build {generation : Nat} {edition : Edition} {groups : List Group}
    {roles : List Role} {permissions : List Permission} (counted : generation < Decimal.capacity 64)
    (readable : ∀ permission ∈ permissions, permission.IsReadable) :
    (build generation edition groups roles permissions).IsReadable where
  generation := counted
  permissions _ permission found := readable permission (mem_of_getElem?_byName found)

/-- Whether a published document claims a generation that 64 bits hold. -/
def Claims (published : Option Json) (generation : Nat) : Prop :=
  generation < 2 ^ 64 ∧
    ∃ document, published = some document ∧ document.member? "generation" = some (.int generation)

theorem natural?_eq_some_iff {document : Json} {number : Nat} :
    document.natural? = some number ↔ document = .int number ∧ number < 2 ^ 64 := by
  unfold Json.natural?
  split
  · next held =>
    change (if held < 2 ^ 64 then some held else none) = some number ↔ Json.int held = .int number ∧ _
    rw [Option.ite_none_right_eq_some, Json.int.injEq, Int.ofNat_inj, Option.some.injEq]
    constructor
    · rintro ⟨inRange, rfl⟩
      exact ⟨rfl, inRange⟩
    · rintro ⟨rfl, inRange⟩
      exact ⟨inRange, rfl⟩
  · next other =>
    refine iff_of_false nofun ?_
    rintro ⟨rfl, -⟩
    exact other _ rfl

theorem claims_iff {published : Option Json} {generation : Nat} :
    Claims published generation ↔
      (published.bind (Json.member? "generation")).bind Json.natural? = some generation := by
  simp only [Claims, Option.bind_eq_some_iff, natural?_eq_some_iff]
  constructor
  · rintro ⟨inRange, document, isPublished, found⟩
    exact ⟨_, ⟨document, isPublished, found⟩, rfl, inRange⟩
  · rintro ⟨_, ⟨document, isPublished, found⟩, rfl, inRange⟩
    exact ⟨inRange, document, isPublished, found⟩

/-- The generation that counts is the claimed one, or zero if none is claimed. -/
theorem claims_publishedGeneration (published : Option Json) :
    Claims published (publishedGeneration published) ∨
      publishedGeneration published = 0 ∧ ∀ generation, ¬ Claims published generation := by
  simp only [claims_iff, publishedGeneration]
  cases (published.bind (Json.member? "generation")).bind Json.natural? with
  | none => exact .inr ⟨rfl, fun _ => nofun⟩
  | some generation => exact .inl rfl

theorem publishedGeneration_lt (published : Option Json) :
    publishedGeneration published < Decimal.capacity 64 := by
  rcases claims_publishedGeneration published with claims | ⟨isZero, -⟩
  · exact claims.1
  · rw [isZero]
    exact Nat.two_pow_pos 64

/-- The document of a snapshot claims the snapshot's generation. -/
theorem publishedGeneration_document (holds : snapshot.generation < Decimal.capacity 64) :
    publishedGeneration (some snapshot.document) = snapshot.generation := by
  have found : snapshot.document.member? "generation" = some (.int snapshot.generation) := by
    rw [document, Json.normal, Json.member?, Json.lookup_sortMembers, Json.lookup_reverse_normalMembers]
    rfl
  rw [publishedGeneration, Option.bind_some, found]
  exact congrArg (Option.getD · 0) (if_pos holds)

theorem generationAfter_lt (current published : Nat) :
    generationAfter current published < Decimal.capacity 64 := by
  rw [generationAfter, lastGeneration]
  exact (Nat.min_le_right ..).trans_lt (by decide)

/-- No generation that 64 bits hold is ahead of the generation after it. -/
theorem le_generationAfter {current published : Nat} (holds : published < Decimal.capacity 64) :
    published ≤ generationAfter current published := by
  rw [generationAfter, lastGeneration]
  omega

end Snapshot

end AccessControl
