import AccessControl.Entry
import AccessControl.Proofs.PolicyToken.Matching
import AccessControl.Proofs.Subpath.Walk

/-!
# Tokens of stored entries

At every prefix of its place an entry carries a token of its owner and one of its owning group, or
an open one without a group; under the widened form of the prefix it carries an open one.  What was
written of an entry with plain parts is read back as these tokens.
-/

namespace AccessControl

namespace Placement

/-- The segments of the place that the entry occupies. -/
def segments (entry : Placement) : List String :=
  Subpath.place entry.subpath entry.type entry.name

/-- The prefixes of that place. -/
def walk (entry : Placement) : List String := Subpath.initials entry.segments

/-- The owner that the second token at a prefix speaks of. -/
def groupScope (entry : Placement) : OwnerScope :=
  (entry.ownerGroup.map .subject).getD .unscoped

theorem mem_tokens {entry : Placement} {token : PolicyToken} :
    token ∈ entry.tokens ↔
      ∃ path ∈ entry.walk, token.active = .ofFlag entry.isActive ∧
        token.key.space = entry.space ∧ token.key.type = entry.type ∧
        (token.key.subpath = path ∧
            (token.owner = .subject entry.owner ∨ token.owner = entry.groupScope) ∨
          Subpath.wildcard? path = some token.key.subpath ∧ token.owner = .unscoped) := by
  obtain ⟨⟨space, subpath, type⟩, state, owner⟩ := token
  rw [tokens, Subpath.walk, List.mem_flatMap]
  refine exists_congr fun path => and_congr_right fun _ => ?_
  cases widened : Subpath.wildcard? path <;>
    simp only [tokensAt, groupScope, widened, List.mem_append, List.mem_cons, List.mem_map,
      Option.mem_toList, List.not_mem_nil, PolicyToken.mk.injEq, PermissionKey.mk.injEq] <;>
    grind

/-- An entry whose parts can be told apart in its written tokens. -/
structure IsPlain (entry : Placement) : Prop where
  space : Text.IsPlain entry.space
  subpath : Text.IsPlain entry.subpath
  owner : (OwnerScope.subject entry.owner).IsPlain
  ownerGroup : entry.groupScope.IsPlain
  name : ∀ name ∈ entry.name, Text.IsPlain name ∧ Subpath.IsSegment name

theorem IsPlain.isSegment {entry : Placement} (plain : entry.IsPlain) :
    ∀ part ∈ entry.segments, Subpath.IsSegment part :=
  fun _ => Subpath.isSegment_of_mem_place fun _ name named => (plain.name name named).2

/-- The prefixes of an entry's place hold no other characters than its subpath, its name and slashes. -/
theorem not_mem_of_mem_walk {entry : Placement} {path : String} {c : Char} (notSlash : c ≠ '/')
    (absent : c ∉ entry.subpath.toList) (absentName : ∀ name ∈ entry.name, c ∉ name.toList)
    (member : path ∈ entry.walk) : c ∉ path.toList := by
  obtain ⟨start, isPrefix, rfl⟩ := Subpath.mem_initials.mp member
  refine Subpath.not_mem_ofSegments notSlash fun part isPart => ?_
  rcases List.mem_append.mp (isPrefix.subset isPart) with inPath | isName
  · exact Subpath.not_mem_of_mem_segments absent inPath
  · split at isName
    · exact absentName part (Option.mem_toList.mp isName)
    · cases isName

/-- The same holds of the subpaths of an entry's tokens, but for the marker. -/
theorem not_mem_subpath_of_mem_tokens {entry : Placement} {token : PolicyToken} {c : Char}
    (notSlash : c ≠ '/') (notMarker : c ∉ Subpath.everywhere.toList)
    (absent : c ∉ entry.subpath.toList) (absentName : ∀ name ∈ entry.name, c ∉ name.toList)
    (isToken : token ∈ entry.tokens) : c ∉ token.key.subpath.toList := by
  obtain ⟨path, isPrefix, -, -, -, ⟨literal, -⟩ | ⟨widened, -⟩⟩ := mem_tokens.mp isToken
  · exact literal ▸ not_mem_of_mem_walk notSlash absent absentName isPrefix
  · exact Subpath.not_mem_of_wildcard? notSlash notMarker
      (not_mem_of_mem_walk notSlash absent absentName isPrefix) widened

theorem isPlain_groupScope {entry : Placement}
    (named : ∀ group ∈ entry.ownerGroup, IsShortname group) : entry.groupScope.IsPlain := by
  cases group : entry.ownerGroup with
  | none => simpa [groupScope, group] using OwnerScope.isPlain_unscoped
  | some name => simpa [groupScope, group] using OwnerScope.isPlain_subject ⟨name, named name group⟩

theorem isPlain_of_mem_tokens {entry : Placement} {token : PolicyToken}
    (plainOwner : (OwnerScope.subject entry.owner).IsPlain) (plainGroup : entry.groupScope.IsPlain)
    (isToken : token ∈ entry.tokens) : token.owner.IsPlain := by
  obtain ⟨-, -, -, -, -, ⟨-, isOwner | isGroup⟩ | ⟨-, isOpen⟩⟩ := mem_tokens.mp isToken
  · exact isOwner ▸ plainOwner
  · exact isGroup ▸ plainGroup
  · exact isOpen ▸ OwnerScope.isPlain_unscoped

/-- What is read from an entry's policies is one of its tokens, wherever it is stored. -/
theorem mem_tokens_of_mem_readPolicies {entry : Placement} {token : PolicyToken}
    (plainOwner : (OwnerScope.subject entry.owner).IsPlain) (plainGroup : entry.groupScope.IsPlain)
    (isRead : token ∈ readPolicies entry.policies) : token ∈ entry.tokens := by
  obtain ⟨text, member, parsed⟩ := mem_readPolicies.mp isRead
  obtain ⟨stored, isStored, rfl⟩ := List.mem_map.mp member
  have same : token = stored := PolicyToken.eq_of_parse_text
    (isPlain_of_mem_tokens plainOwner plainGroup isStored).ne_star parsed
  exact same ▸ isStored

/-- The tokens of a plain entry are plain. -/
theorem IsPlain.token {entry : Placement} (plain : entry.IsPlain) {token : PolicyToken}
    (isToken : token ∈ entry.tokens) : token.IsPlain := by
  obtain ⟨-, -, -, sameSpace, -, -⟩ := mem_tokens.mp isToken
  refine ⟨sameSpace ▸ plain.space, ⟨?_, ?_⟩,
    isPlain_of_mem_tokens plain.owner plain.ownerGroup isToken⟩
  · exact not_mem_subpath_of_mem_tokens (by decide) (by decide) plain.subpath.1
      (fun name named => (plain.name name named).1.1) isToken
  · exact not_mem_subpath_of_mem_tokens (by decide) (by decide) plain.subpath.2
      (fun name named => (plain.name name named).1.2) isToken

/-- The policies of a plain entry are its written tokens. -/
theorem IsPlain.writtenAs {entry : Placement} (plain : entry.IsPlain) :
    PolicyToken.WrittenAs (· ∈ entry.tokens) entry.policies where
  plain _ := plain.token
  mem_iff text := by simp [policies, eq_comm]

end Placement

theorem Entry.isPlain_groupScope (entry : Entry) (space subpath : String) :
    (entry.placement space subpath).groupScope.IsPlain := by
  apply Placement.isPlain_groupScope
  intro group isGroup
  obtain ⟨name, -, rfl⟩ := Option.map_eq_some_iff.mp isGroup
  exact name.valid

/-- What an entry is stamped with in a plain space, at a plain subpath, is plain. -/
theorem Entry.isPlain_placement (entry : Entry) {space subpath : String}
    (plainSpace : Text.IsPlain space) (plainSubpath : Text.IsPlain subpath) :
    (entry.placement space subpath).IsPlain where
  space := plainSpace
  subpath := plainSubpath
  owner := OwnerScope.isPlain_subject entry.owner
  ownerGroup := entry.isPlain_groupScope space subpath
  name := by
    rintro name ⟨rfl⟩
    exact ⟨entry.shortname.isPlain, entry.shortname.isSegment⟩

end AccessControl
