import AccessControl.Proofs.PolicyToken.Placement

/-!
# The scope of a filter

A filter that is written without delimiters in its parts is matched with what an entry was stamped
with, both by way of texts.  It admits the entry exactly if its scope covers the entry: at a prefix of
the entry's place if it asks for nothing or for the entry's state and for one who owns the entry, and
under the widened form of a prefix if it asks for nothing or for the state alone.
-/

namespace AccessControl

namespace Placement

/-- An entry that is stored by names, in a space and at a subpath without the character between the
parts of tokens. -/
structure IsLegible (entry : Placement) : Prop where
  space : ':' ∉ entry.space.toList
  subpath : ':' ∉ entry.subpath.toList
  owner : IsShortname entry.owner
  ownerGroup : ∀ group ∈ entry.ownerGroup, IsShortname group
  name : ∀ name ∈ entry.name, IsShortname name

namespace IsLegible

variable {entry : Placement} (legible : entry.IsLegible)
include legible

/-- The tokens of a legible entry are read back from their written forms. -/
theorem parse_text {token : PolicyToken} (isToken : token ∈ entry.tokens) :
    PolicyToken.parse token.text = .ok token := by
  have plainOwner : token.owner.IsPlain :=
    isPlain_of_mem_tokens (OwnerScope.isPlain_subject ⟨entry.owner, legible.owner⟩)
      (isPlain_groupScope legible.ownerGroup) isToken
  obtain ⟨-, -, -, sameSpace, -, -⟩ := mem_tokens.mp isToken
  have absentName : ∀ name ∈ entry.name, ':' ∉ name.toList := fun name named =>
    (⟨name, legible.name name named⟩ : Shortname).isPlain.1
  refine PolicyToken.parse_text_self_iff.mpr
    ⟨⟨⟨sameSpace ▸ legible.space, ?_⟩, fun name owner => (plainOwner name owner).1.1⟩,
      plainOwner.ne_star⟩
  exact not_mem_subpath_of_mem_tokens (by decide) (by decide) legible.subpath absentName isToken

theorem readPolicies_policies : readPolicies entry.policies = entry.tokens :=
  readPolicies_map_text fun _ => legible.parse_text

end IsLegible

end Placement

/-- Whether the owner segment of a filter, or its absence, takes in an entry. -/
inductive OwnerScope.TakesIn (entry : Placement) : OwnerScope → Prop where
  | any : TakesIn entry .any
  | owner : TakesIn entry (.subject entry.owner)
  | group {name : String} : entry.ownerGroup = some name → TakesIn entry (.subject name)
  | unscoped : entry.ownerGroup = none → TakesIn entry .unscoped

namespace OwnerScope

variable {scope : OwnerScope} {entry : Placement}

/-- The tokens at a prefix speak of the owner, and of the group or of nobody. -/
theorem takesIn_iff :
    scope.TakesIn entry ↔
      scope.admits (.subject entry.owner) = true ∨ scope.admits entry.groupScope = true := by
  constructor
  · intro takesIn
    cases takesIn with
    | any => exact .inl rfl
    | owner => exact .inl (admits_subject_iff.mpr (.inr rfl))
    | group isGroup =>
        right
        rw [Placement.groupScope, isGroup]
        exact admits_subject_iff.mpr (.inr rfl)
    | unscoped noGroup =>
        right
        rw [Placement.groupScope, noGroup]
        rfl
  · rintro (admitsOwner | admitsGroup)
    · rcases admits_subject_iff.mp admitsOwner with rfl | rfl
      · exact .any
      · exact .owner
    · cases group : entry.ownerGroup with
      | none =>
          rw [Placement.groupScope, group] at admitsGroup
          exact admits_unscoped_iff.mp admitsGroup ▸ .unscoped group
      | some name =>
          rw [Placement.groupScope, group] at admitsGroup
          rcases admits_subject_iff.mp admitsGroup with rfl | rfl
          · exact .any
          · exact .group group

end OwnerScope

namespace PolicyToken

variable {filter : PolicyToken} {entry : Placement}

/-- Whether the scope of a filter covers an entry. -/
structure Covers (filter : PolicyToken) (entry : Placement) : Prop where
  space : filter.key.space = entry.space
  type : filter.key.type = entry.type
  place :
    filter.key.subpath ∈ entry.walk ∧
        (filter.active = .any ∨
          filter.active = .ofFlag entry.isActive ∧ filter.owner.TakesIn entry) ∨
      (∃ path ∈ entry.walk, Subpath.wildcard? path = some filter.key.subpath) ∧
        (filter.active = .any ∨
          filter.active = .ofFlag entry.isActive ∧ filter.owner = .unscoped)

theorem Covers.exists_admits (covers : filter.Covers entry) :
    ∃ stored ∈ entry.tokens, filter.admits stored = true := by
  -- All tokens of the entry are of its space, type and state.
  have admitted (owner : OwnerScope) (path : String) (isPrefix : path ∈ entry.walk)
      (placed : filter.key.subpath = path ∧
          (owner = .subject entry.owner ∨ owner = entry.groupScope) ∨
        Subpath.wildcard? path = some filter.key.subpath ∧ owner = .unscoped)
      (asks : filter.active = .any ∨
        filter.active = .ofFlag entry.isActive ∧ filter.owner.admits owner = true) :
      ∃ stored ∈ entry.tokens, filter.admits stored = true :=
    ⟨⟨filter.key, .ofFlag entry.isActive, owner⟩,
      Placement.mem_tokens.mpr ⟨path, isPrefix, rfl, covers.space, covers.type, placed⟩,
      admits_iff.mpr ⟨rfl, asks⟩⟩
  rcases covers.place with ⟨isPrefix, asks⟩ | ⟨⟨path, isPrefix, widened⟩, asks⟩
  · rcases asks with nothing | ⟨sameState, takesIn⟩
    · exact admitted _ _ isPrefix (.inl ⟨rfl, .inl rfl⟩) (.inl nothing)
    · rcases OwnerScope.takesIn_iff.mp takesIn with admitsOwner | admitsGroup
      · exact admitted _ _ isPrefix (.inl ⟨rfl, .inl rfl⟩) (.inr ⟨sameState, admitsOwner⟩)
      · exact admitted _ _ isPrefix (.inl ⟨rfl, .inr rfl⟩) (.inr ⟨sameState, admitsGroup⟩)
  · refine admitted .unscoped path isPrefix (.inr ⟨widened, rfl⟩) (asks.imp_right fun asks => ?_)
    exact ⟨asks.1, OwnerScope.admits_unscoped_iff.mpr asks.2⟩

theorem covers_of_admits {stored : PolicyToken} (isStored : stored ∈ entry.tokens)
    (admits : filter.admits stored = true) : filter.Covers entry := by
  obtain ⟨sameKey, asks⟩ := admits_iff.mp admits
  obtain ⟨path, isPrefix, state, space, type, placed⟩ := Placement.mem_tokens.mp isStored
  rw [sameKey] at space type placed
  rw [state] at asks
  refine ⟨space, type, ?_⟩
  rcases placed with ⟨literal, owned⟩ | ⟨widened, isOpen⟩
  · refine .inl ⟨literal ▸ isPrefix, asks.imp_right fun ⟨sameState, admitsOwner⟩ => ?_⟩
    refine ⟨sameState, OwnerScope.takesIn_iff.mpr ?_⟩
    rcases owned with isOwner | isGroup
    · exact .inl (isOwner ▸ admitsOwner)
    · exact .inr (isGroup ▸ admitsOwner)
  · refine .inr ⟨⟨path, isPrefix, widened⟩, asks.imp_right fun ⟨sameState, admitsOwner⟩ => ?_⟩
    rw [isOpen] at admitsOwner
    exact ⟨sameState, OwnerScope.admits_unscoped_iff.mp admitsOwner⟩

/-- A plain filter has no alternatives and is read as it was written. -/
theorem IsPlain.readPolicies_filterAlternatives (plain : filter.IsPlain) :
    readPolicies (filterAlternatives [filter.text]) = [filter] := by
  have alone : filterAlternatives [filter.text] = [filter].map text := by
    simp [filterAlternatives, plain.split_bar]
  rw [alone]
  refine readPolicies_map_text fun token isFilter => ?_
  rw [List.mem_singleton.mp isFilter]
  exact plain.parse_text

/-- A filter matches what an entry is stamped with exactly if its scope covers the entry. -/
theorem policiesMatch_text_iff_covers (legible : entry.IsLegible) (plain : filter.IsPlain) :
    policiesMatch [filter.text] entry.policies = true ↔ filter.Covers entry := by
  rw [policiesMatch_iff, plain.readPolicies_filterAlternatives, legible.readPolicies_policies]
  constructor
  · rintro ⟨other, isFilter, stored, isStored, admits⟩
    exact covers_of_admits isStored (List.mem_singleton.mp isFilter ▸ admits)
  · intro covers
    obtain ⟨stored, isStored, admits⟩ := covers.exists_admits
    exact ⟨filter, List.mem_singleton_self filter, stored, isStored, admits⟩

/-- At a place that holds the marker itself, a prefix is its own widened form: there a filter for nobody
in particular admits the folder of a group. -/
theorem policiesMatch_text_iff_covers_marked :
    let folder : Placement :=
      ⟨"acme", "blog/__all_subpaths__", .folder, true, "bob", some "press", some "drafts"⟩
    let filter : PolicyToken :=
      ⟨⟨"acme", "blog/__all_subpaths__/drafts", .folder⟩, .active, .unscoped⟩
    folder.IsLegible ∧ filter.IsPlain ∧ ¬ filter.owner.TakesIn folder ∧
      policiesMatch [filter.text] folder.policies = true := by
  intro folder filter
  have legible : folder.IsLegible :=
    ⟨by decide, by decide, by decide, by rintro _ ⟨rfl⟩; decide, by rintro _ ⟨rfl⟩; decide⟩
  have plain : filter.IsPlain := ⟨by decide, by decide, OwnerScope.isPlain_unscoped⟩
  have owned : ¬ filter.owner.TakesIn folder := by rintro ⟨⟩; contradiction
  have widened : Subpath.wildcard? filter.key.subpath = some filter.key.subpath := by decide
  have isPrefix : filter.key.subpath ∈ folder.walk := by decide
  have covers : filter.Covers folder :=
    ⟨rfl, rfl, .inr ⟨⟨_, isPrefix, widened⟩, .inr ⟨rfl, rfl⟩⟩⟩
  exact ⟨legible, plain, owned, (policiesMatch_text_iff_covers legible plain).mpr covers⟩

end PolicyToken

end AccessControl
