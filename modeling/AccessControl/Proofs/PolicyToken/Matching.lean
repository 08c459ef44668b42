import AccessControl.Proofs.PolicyToken.Text

/-!
# Matching of written tokens

A filter admits a token under the same key, if it asks for nothing or for the state and the owner of the
token.  Filters and policies are matched by way of their written forms, which for plain tokens comes to
the same as matching the tokens.
-/

namespace AccessControl

/-! ## Admission -/

namespace OwnerScope

variable {owner scope : OwnerScope}

/-- The owner of a filter that is open to no more than it says admits its like only. -/
theorem admits_iff_eq (notAny : owner ≠ .any) : owner.admits scope = true ↔ scope = owner := by
  cases owner with
  | any => exact absurd rfl notAny
  | unscoped => cases scope <;> simp [admits]
  | subject name => cases scope <;> simp [admits, @eq_comm String name]

theorem subject_admits_iff {name : String} :
    (subject name).admits scope = true ↔ scope = .subject name :=
  admits_iff_eq nofun

theorem admits_subject_iff {name : String} :
    scope.admits (.subject name) = true ↔ scope = .any ∨ scope = .subject name := by
  cases scope <;> simp [admits]

theorem admits_unscoped_iff : scope.admits .unscoped = true ↔ scope = .unscoped := by
  cases scope <;> simp [admits]

end OwnerScope

/-- A filter admits the tokens under its key, if it asks for nothing or for their state and owner. -/
theorem PolicyToken.admits_iff {filter stored : PolicyToken} :
    filter.admits stored = true ↔ stored.key = filter.key ∧
      (filter.active = .any ∨
        filter.active = stored.active ∧ filter.owner.admits stored.owner = true) := by
  simp [admits, @eq_comm PermissionKey filter.key]

/-! ## Reading policies -/

theorem mem_readPolicies {texts : List String} {token : PolicyToken} :
    token ∈ readPolicies texts ↔ ∃ text ∈ texts, PolicyToken.parse text = .ok token := by
  simp only [readPolicies, List.mem_filterMap]
  constructor
  · rintro ⟨text, member, read⟩
    refine ⟨text, member, ?_⟩
    cases parsed : PolicyToken.parse text with
    | error cause => simp [parsed, Except.toOption] at read
    | ok found => rw [parsed] at read; exact congrArg Except.ok (Option.some.inj read)
  · rintro ⟨text, member, parsed⟩
    exact ⟨text, member, by rw [parsed]; rfl⟩

/-- Written tokens that are read back are the tokens among their written forms. -/
theorem readPolicies_map_text {tokens : List PolicyToken}
    (readBack : ∀ token ∈ tokens, PolicyToken.parse token.text = .ok token) :
    readPolicies (tokens.map PolicyToken.text) = tokens := by
  rw [readPolicies, List.filterMap_map]
  calc tokens.filterMap ((fun policy => (PolicyToken.parse policy).toOption) ∘ PolicyToken.text)
      = tokens.filterMap some := List.filterMap_congr fun token isToken => by
        rw [Function.comp_apply, readBack token isToken]
        rfl
    _ = tokens := List.filterMap_some

/-- Whether texts are the written forms of certain plain tokens, and of no others. -/
structure PolicyToken.WrittenAs (tokens : PolicyToken → Prop) (texts : List String) : Prop where
  plain : ∀ token, tokens token → token.IsPlain
  mem_iff : ∀ text, text ∈ texts ↔ ∃ token, tokens token ∧ text = token.text

namespace PolicyToken.WrittenAs

variable {tokens : PolicyToken → Prop} {texts : List String}

/-- What is read from written tokens is the tokens. -/
theorem mem_readPolicies (written : WrittenAs tokens texts) {token : PolicyToken} :
    token ∈ readPolicies texts ↔ tokens token := by
  rw [AccessControl.mem_readPolicies]
  constructor
  · rintro ⟨text, isText, parsed⟩
    obtain ⟨other, isToken, rfl⟩ := (written.mem_iff text).mp isText
    rw [(written.plain other isToken).parse_text] at parsed
    exact Except.ok.inj parsed ▸ isToken
  · intro isToken
    exact ⟨token.text, (written.mem_iff _).mpr ⟨token, isToken, rfl⟩,
      (written.plain token isToken).parse_text⟩

/-- Written tokens, as filters, have no alternatives but themselves. -/
theorem filterAlternatives (written : WrittenAs tokens texts) :
    WrittenAs tokens (filterAlternatives texts) where
  plain := written.plain
  mem_iff text := by
    rw [AccessControl.filterAlternatives, List.mem_flatMap]
    constructor
    · rintro ⟨whole, isText, isPiece⟩
      obtain ⟨token, isToken, rfl⟩ := (written.mem_iff whole).mp isText
      rw [(written.plain token isToken).split_bar, List.mem_singleton] at isPiece
      exact ⟨token, isToken, isPiece⟩
    · rintro ⟨token, isToken, rfl⟩
      refine ⟨token.text, (written.mem_iff _).mpr ⟨token, isToken, rfl⟩, ?_⟩
      rw [(written.plain token isToken).split_bar]
      exact List.mem_singleton_self _

end PolicyToken.WrittenAs

/-! ## Matching -/

theorem policiesMatch_iff {filters stored : List String} :
    policiesMatch filters stored = true ↔
      ∃ filter ∈ readPolicies (filterAlternatives filters),
        ∃ token ∈ readPolicies stored, filter.admits token = true := by
  simp [policiesMatch]

/-- Written filters match written policies exactly if one of the filters admits one of the policies. -/
theorem policiesMatch_iff_of_writtenAs {filters stored : List String}
    {filterTokens storedTokens : PolicyToken → Prop}
    (writtenFilters : PolicyToken.WrittenAs filterTokens (filterAlternatives filters))
    (writtenStored : PolicyToken.WrittenAs storedTokens stored) :
    policiesMatch filters stored = true ↔
      ∃ filter, filterTokens filter ∧ ∃ token, storedTokens token ∧ filter.admits token = true := by
  simp only [policiesMatch_iff, writtenFilters.mem_readPolicies, writtenStored.mem_readPolicies]

end AccessControl
