import AccessControl.Proofs.Attributes
import AccessControl.Proofs.Grant

/-!
# What restrictions keep out of payloads

Restrictions are judged by the flattened payload, so they see its leaves and nothing else.  A
restricted field is kept from everything but maps that hold nothing but maps, and a constrained
attribute from values that are not allowed, as long as they are no maps and no later leaf has the same
path.
-/

namespace AccessControl

namespace Grant

open Attributes

variable {grant : Grant} {action : Action} {attributes : Attributes.Members}

/-- Restricted fields are left alone exactly if nothing but maps is at them or below. -/
theorem touchesRestricted_flatten_eq_false_iff :
    grant.touchesRestricted (flatten attributes) = false ↔
      ∀ field ∈ grant.restrictedFields, ∀ position ∈ positions attributes,
        position.Reaches field → position.isLeaf = false := by
  rw [touchesRestricted_eq_false_iff, flatten_eq_gathered]
  refine forall_congr' fun field => imp_congr_right fun _ => ?_
  constructor
  · intro untouched position isPosition reaches
    rw [Bool.eq_false_iff]
    intro isLeaf
    have carried : position.path ∈ gathered (positions attributes) :=
      mem_gathered_iff.mpr ⟨position, isPosition, isLeaf, rfl⟩
    exact Bool.false_ne_true ((untouched _ carried).symm.trans (isSameOrBelow_iff.mpr reaches))
  · intro onlyMaps path carried
    obtain ⟨position, isPosition, isLeaf, rfl⟩ := mem_gathered_iff.mp carried
    rw [Bool.eq_false_iff]
    intro reaches
    have isMap := onlyMaps position isPosition (isSameOrBelow_iff.mp reaches)
    exact Bool.false_ne_true (isMap.symm.trans isLeaf)

/-- The values of a payload are allowed exactly if the last leaf at each constrained path has an
allowed value. -/
theorem valuesAllowed_flatten_iff :
    grant.valuesAllowed (flatten attributes) = true ↔
      ∀ (field : String) (spec : AllowedValues), grant.allowedValues[field]? = some spec →
        ∀ position, IsLastLeaf (positions attributes) position → position.path = field →
          spec.permits position.value = true := by
  rw [valuesAllowed_iff, flatten_eq_gathered]
  refine forall_congr' fun field => forall_congr' fun spec => imp_congr_right fun _ => ?_
  simp only [Option.mem_def, getElem?_gathered_eq_some_iff]
  constructor
  · intro allowed position last atField
    exact allowed position.value ⟨position, last, atField, rfl⟩
  · rintro allowed value ⟨position, last, atField, rfl⟩
    exact allowed position last atField

theorem restrictionsMet_of_checksFields (checks : action.checksFields = true) :
    grant.restrictionsMet action attributes =
      (!grant.touchesRestricted (flatten attributes) && grant.valuesAllowed (flatten attributes)) := by
  simp [restrictionsMet, checks]

/-- Restricted fields refuse every write but that of a hollow map: what reaches one and is not hollow
is refused, and where nothing else reaches one only the allowed values count. -/
theorem restricted_fields_refuse_all_but_hollow_maps (grant : Grant) {action : Action}
    (checks : action.checksFields = true) (attributes : Attributes.Members) :
    (∀ field ∈ grant.restrictedFields, ∀ position ∈ positions attributes,
      position.Reaches field → ¬ IsHollow position.value →
        grant.restrictionsMet action attributes = false) ∧
    ((∀ field ∈ grant.restrictedFields, ∀ position ∈ positions attributes,
        position.Reaches field → IsHollow position.value) →
      grant.restrictionsMet action attributes =
        restrictionsMet { empty with allowedValues := grant.allowedValues } action attributes) := by
  simp only [restrictionsMet_of_checksFields checks]
  constructor
  · intro field isRestricted position isPosition reaches notHollow
    have touches : grant.touchesRestricted (flatten attributes) = true := by
      simp only [IsHollow, not_forall, Bool.not_eq_false] at notHollow
      obtain ⟨inner, isInner, isLeaf⟩ := notHollow
      rw [← Bool.not_eq_false, touchesRestricted_flatten_eq_false_iff]
      intro onlyMaps
      have isMap := onlyMaps field isRestricted (position.goOn inner)
        (goOn_mem_positions isPosition isInner) (reaches.goOn (names_ne_nil isPosition))
      exact Bool.false_ne_true (isMap.symm.trans isLeaf)
    rw [touches]
    rfl
  · intro hollow
    have untouched : grant.touchesRestricted (flatten attributes) = false := by
      rw [touchesRestricted_flatten_eq_false_iff]
      intro field isRestricted position isPosition reaches
      exact hollow field isRestricted position isPosition reaches ⟨[], position.value⟩
        (root_mem_positionsIn position.value)
    rw [untouched]
    rfl

/-- The grant of updates that leave a secret alone. -/
def discreet : Grant :=
  { empty with actions := Std.ExtTreeSet.ofList [Action.update], restrictedFields := ["secret"] }

/-- A secret can be made an empty map, and nothing else. -/
theorem restricted_fields_refuse_all_but_hollow_maps_secret :
    (∃ position ∈ positions [("secret", .obj [])], position.Reaches "secret") ∧
      discreet.restrictionsMet .update [("secret", .obj [])] = true ∧
      discreet.restrictionsMet .update [("secret", .obj [("word", .null)])] = false := by
  have checks : Action.update.checksFields = true := rfl
  refine ⟨⟨⟨["secret"], .obj []⟩, by simp [positions, positionsIn, Position.under], .inl rfl⟩, ?_, ?_⟩
  · obtain ⟨-, unrestricted⟩ :=
      restricted_fields_refuse_all_but_hollow_maps discreet checks [("secret", .obj [])]
    refine (unrestricted fun field _ position isPosition _ => ?_).trans (by decide +kernel)
    simp only [positions, positionsIn, List.map_cons, List.map_nil, List.append_nil,
      List.mem_singleton] at isPosition
    simp [isPosition, IsHollow, Position.under, positions, positionsIn, Position.isLeaf, Json.isMap]
  · obtain ⟨refused, -⟩ :=
      restricted_fields_refuse_all_but_hollow_maps discreet checks [("secret", .obj [("word", .null)])]
    refine refused "secret" (by simp [discreet]) ⟨["secret"], .obj [("word", .null)]⟩
      (by simp [positions, positionsIn, Position.under]) (.inl rfl) fun hollow => ?_
    have isMap := hollow ⟨["word"], .null⟩ (by simp [positions, positionsIn, Position.under])
    cases isMap

/-- A payload passes the restrictions exactly if no leaf reaches a restricted field and the last leaf
at each constrained path has an allowed value.  So a constrained attribute is given no other value,
unless it is a map or a later leaf has the same path. -/
theorem restrictionsMet_iff_last_leaves_permitted (grant : Grant) {action : Action}
    (checks : action.checksFields = true) (attributes : Attributes.Members) :
    grant.restrictionsMet action attributes = true ↔
      (∀ field ∈ grant.restrictedFields, ∀ position ∈ positions attributes,
        position.Reaches field → position.isLeaf = false) ∧
      ∀ (field : String) (spec : AllowedValues), grant.allowedValues[field]? = some spec →
        ∀ before position after, positions attributes = before ++ position :: after →
          position.path = field →
            spec.permits position.value = true ∨ position.isLeaf = false ∨
              ∃ later ∈ after, later.isLeaf = true ∧ later.path = field := by
  rw [restrictionsMet_of_checksFields checks, Bool.and_eq_true, Bool.not_eq_true',
    touchesRestricted_flatten_eq_false_iff, valuesAllowed_flatten_iff]
  refine and_congr_right fun _ => forall_congr' fun field => forall_congr' fun spec =>
    imp_congr_right fun _ => ?_
  constructor
  · rintro allowed before position after cut rfl
    by_cases isLeaf : position.isLeaf = true
    · by_cases overtaken : ∃ later ∈ after, later.isLeaf = true ∧ later.path = position.path
      · exact .inr (.inr overtaken)
      · refine .inl (allowed position (isLastLeaf_iff.mpr ⟨before, after, cut, isLeaf, ?_⟩) rfl)
        intro later isLater leaf samePath
        exact overtaken ⟨later, isLater, leaf, samePath⟩
    · exact .inr (.inl (Bool.not_eq_true _ ▸ isLeaf))
  · rintro allowed position last rfl
    obtain ⟨before, after, cut, isLeaf, isLast⟩ := isLastLeaf_iff.mp last
    rcases allowed before position after cut rfl with permitted | isMap | overtaken
    · exact permitted
    · exact absurd (isMap.symm.trans isLeaf) Bool.false_ne_true
    · obtain ⟨later, isLater, leaf, samePath⟩ := overtaken
      exact absurd samePath (isLast later isLater leaf)

/-- The grant of updates that make nothing of the news but a draft. -/
def drafting : Grant :=
  { empty with
    actions := Std.ExtTreeSet.ofList [Action.update]
    allowedValues := Std.ExtTreeMap.ofList [("news.status", AllowedValues.scalars [.str "draft"])] }

/-- A status that is not allowed gets by with an allowed one after it, under a name with a dot. -/
theorem restrictionsMet_iff_last_leaves_permitted_news :
    drafting.restrictionsMet .update
        [("news", .obj [("status", .str "published")]), ("news.status", .str "draft")] = true ∧
      (AllowedValues.scalars [.str "draft"]).permits (.str "published") = false ∧
      ∃ later ∈ [(⟨["news.status"], .str "draft"⟩ : Position)],
        later.isLeaf = true ∧ later.path = "news.status" := by
  have passes : drafting.restrictionsMet .update
      [("news", .obj [("status", .str "published")]), ("news.status", .str "draft")] = true := by
    decide +kernel
  have refused : (AllowedValues.scalars [.str "draft"]).permits (.str "published") = false := by
    decide
  refine ⟨passes, refused, ?_⟩
  obtain ⟨-, permitted⟩ := (restrictionsMet_iff_last_leaves_permitted drafting rfl _).mp passes
  have outcome := permitted "news.status" (.scalars [.str "draft"]) (by simp [drafting])
    [⟨["news"], .obj [("status", .str "published")]⟩] ⟨["news", "status"], .str "published"⟩
    [⟨["news.status"], .str "draft"⟩] rfl (by decide)
  rcases outcome with isPermitted | isMap | overtaken
  · rw [refused] at isPermitted
    cases isPermitted
  · cases isMap
  · exact overtaken

end Grant

end AccessControl
