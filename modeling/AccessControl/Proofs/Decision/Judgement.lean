import AccessControl.Decision
import AccessControl.Proofs.Grant
import AccessControl.Proofs.Subpath.Walk

/-!
# Consulted grants and their judgement

The grants that a request is decided by are held under keys of its type, in its space or all spaces,
at the prefixes of its place.  A grant for that very place is always consulted; of the grants for all
spaces or all subpaths at a prefix only the first held one is.
-/

namespace AccessControl

namespace AccessRequest

variable {request : AccessRequest} {grants : Grants} {key : PermissionKey} {grant : Grant}

/-! ## Conditions -/

/-- Whether the resource satisfies a condition when a known user asks: it is active, or it belongs to
the user or to one of the user's groups. -/
def Achieves (request : AccessRequest) (user : User) : Condition → Prop
  | .isActive => request.isActive = true
  | .own => request.owner = some request.user ∨
      ∃ group ∈ user.groups, request.ownerGroup = some group.text

theorem owns_iff {user : User} :
    request.owns (some user) = true ↔ request.Achieves user .own := by
  simp only [owns, Achieves, User.isMemberOf]
  cases request.ownerGroup with
  | none => simp
  | some group => simp [@eq_comm String group]

theorem mem_achieved_iff {user : User} {condition : Condition} :
    condition ∈ request.achieved (some user) ↔ request.Achieves user condition := by
  simp only [achieved, Std.ExtTreeSet.mem_ofList, List.contains_iff_mem, List.mem_append]
  cases condition with
  | isActive => simp [Achieves]
  | own => simp [← owns_iff]

/-! ## Consulted grants -/

theorem held?_eq_some_iff {found : PermissionKey × Grant} :
    held? grants key = some found ↔ found.1 = key ∧ grants[key]? = some found.2 := by
  obtain ⟨foundKey, foundGrant⟩ := found
  simp only [held?, Option.map_eq_some_iff, Prod.mk.injEq]
  constructor
  · rintro ⟨_, held, rfl, rfl⟩
    exact ⟨rfl, held⟩
  · rintro ⟨rfl, held⟩
    exact ⟨foundGrant, held, rfl, rfl⟩

theorem mem_consultedAt_iff {path : String} :
    (key, grant) ∈ request.consultedAt grants path ↔
      (request.wideKeys path).findSome? (held? grants) = some (key, grant) ∨
        key = ⟨request.effectiveSpace, path, request.type⟩ ∧ grants[key]? = some grant := by
  simp only [consultedAt, List.mem_append, Option.mem_toList, held?_eq_some_iff]
  refine or_congr_right (and_congr_right fun isKey => ?_)
  rw [isKey]

theorem mem_consulted_iff :
    (key, grant) ∈ request.consulted grants ↔
      ∃ path ∈ request.walk, (key, grant) ∈ request.consultedAt grants path :=
  List.mem_flatMap

/-- What is consulted is held, under a key of the request's type on the way to its place. -/
structure Meets (request : AccessRequest) (key : PermissionKey) : Prop where
  type : key.type = request.type
  inSpace : key.space = request.effectiveSpace ∨ key.space = allSpaces
  reaches : Subpath.Reaches key.subpath request.walk

theorem meets_of_mem_walk {path : String} (isPrefix : path ∈ request.walk) :
    request.Meets ⟨request.effectiveSpace, path, request.type⟩ :=
  ⟨rfl, .inl rfl, path, isPrefix, .inl rfl⟩

theorem meets_of_mem_wideKeys {path : String} (isPrefix : path ∈ request.walk)
    (isWide : key ∈ request.wideKeys path) : request.Meets key := by
  simp only [wideKeys, List.mem_cons, List.not_mem_nil, or_false] at isWide
  rcases isWide with rfl | rfl | rfl
  · exact ⟨rfl, .inr rfl, path, isPrefix, .inl rfl⟩
  · exact ⟨rfl, .inl rfl, path, isPrefix, .inr rfl⟩
  · exact ⟨rfl, .inr rfl, path, isPrefix, .inr rfl⟩

theorem meets_of_mem_consulted (consulted : (key, grant) ∈ request.consulted grants) :
    request.Meets key ∧ grants[key]? = some grant := by
  obtain ⟨path, isPrefix, atPath⟩ := mem_consulted_iff.mp consulted
  rcases mem_consultedAt_iff.mp atPath with wide | ⟨rfl, held⟩
  · obtain ⟨candidate, isCandidate, hit⟩ := List.exists_of_findSome?_eq_some wide
    obtain ⟨rfl, held⟩ := held?_eq_some_iff.mp hit
    exact ⟨meets_of_mem_wideKeys isPrefix isCandidate, held⟩
  · exact ⟨meets_of_mem_walk isPrefix, held⟩

theorem allowedBy_iff {principal : Principal} :
    request.allowedBy principal = true ↔
      ∃ key grant, (key, grant) ∈ request.consulted principal.grants ∧
        (request.judge principal.user grant).isOk = true := by
  simp [allowedBy]

end AccessRequest

end AccessControl
