import AccessControl.Proofs.Decision.Inheritance

/-!
# What keeps the widest grant from counting

A grant for all subpaths of all spaces comes last at every prefix: it is consulted only if neither a
grant for the prefix in all spaces nor one for all subpaths of the space is held.  Near the top it is
looked up under its own key, at the root and again at the first segment, so it takes a grant that does
not let the request pass at each of them, or one for all subpaths of the space, to keep it from
counting.
-/

namespace AccessControl

open Cluster

/-- At a single segment the bare marker is looked up. -/
theorem Subpath.globalAccess_of_isSegment {segment : String} (isSegment : IsSegment segment) :
    globalAccess segment = everywhere := by
  have alone : segments segment = [segment] := by
    simpa using segments_ofSegments (List.forall_mem_singleton.mpr isSegment)
  simp [globalAccess, wildcard?, alone]

namespace AccessRequest

variable {request : AccessRequest} {user : Option User} {grants : Grants} {grant : Grant}
  {key : PermissionKey} {path space : String}

/-- Whether a grant for a subpath of a space is held and does not let a request pass. -/
def FailsAt (request : AccessRequest) (user : Option User) (grants : Grants)
    (space subpath : String) : Prop :=
  ∃ grant, grants[(⟨space, subpath, request.type⟩ : PermissionKey)]? = some grant ∧
    (request.judge user grant).isOk = false

theorem FailsAt.mem (fails : request.FailsAt user grants space path) :
    ⟨space, path, request.type⟩ ∈ grants := by
  obtain ⟨grant, held, -⟩ := fails
  exact Dict.mem_iff_exists_getElem?.mpr ⟨grant, held⟩

theorem not_failsAt_of_passes
    (held : grants[(⟨space, path, request.type⟩ : PermissionKey)]? = some grant)
    (passes : (request.judge user grant).isOk = true) : ¬ request.FailsAt user grants space path := by
  rintro ⟨other, isOther, refuses⟩
  obtain rfl : grant = other := Option.some.inj (held.symm.trans isOther)
  exact Bool.false_ne_true (refuses.symm.trans passes)

/-- What is consulted for a request that is not allowed does not let it pass. -/
theorem failsAt_of_consulted (denied : request.allowedBy ⟨user, grants⟩ = false)
    (isConsulted : (⟨space, path, request.type⟩, grant) ∈ request.consulted grants) :
    request.FailsAt user grants space path := by
  refine ⟨grant, (meets_of_mem_consulted isConsulted).2, ?_⟩
  rw [← Bool.not_eq_true]
  intro passes
  have allowed : request.allowedBy ⟨user, grants⟩ = true :=
    allowedBy_iff.mpr ⟨_, grant, isConsulted, passes⟩
  exact Bool.false_ne_true (denied.symm.trans allowed)

/-- Where the bare marker is looked up, only a grant for the prefix in all spaces and one for all
subpaths of the space come before the widest grant. -/
theorem shadowed_at
    (held : grants[(⟨allSpaces, Subpath.everywhere, request.type⟩ : PermissionKey)]? = some grant)
    (passes : (request.judge user grant).isOk = true)
    (denied : request.allowedBy ⟨user, grants⟩ = false) (isPrefix : path ∈ request.walk)
    (isTop : Subpath.globalAccess path = Subpath.everywhere) :
    request.FailsAt user grants allSpaces path ∨
      request.effectiveSpace ≠ allSpaces ∧
        request.FailsAt user grants request.effectiveSpace Subpath.everywhere := by
  have notWidest : ¬ request.FailsAt user grants allSpaces Subpath.everywhere :=
    not_failsAt_of_passes held passes
  have fails {space subpath : String} (found : Grant)
      (isFirst : (request.wideKeys path).findSome? (held? grants) =
        some (⟨space, subpath, request.type⟩, found)) : request.FailsAt user grants space subpath :=
    failsAt_of_consulted denied
      (mem_consulted_iff.mpr ⟨path, isPrefix, mem_consultedAt_iff.mpr (.inl isFirst)⟩)
  rw [wideKeys, isTop] at fails
  cases atPath : grants[(⟨allSpaces, path, request.type⟩ : PermissionKey)]? with
  | some first => exact .inl (fails first (by simp [held?, atPath]))
  | none =>
      cases inSpace :
          grants[(⟨request.effectiveSpace, Subpath.everywhere, request.type⟩ : PermissionKey)]? with
      | some second =>
          have failsInSpace : request.FailsAt user grants request.effectiveSpace Subpath.everywhere :=
            fails second (by simp [held?, atPath, inSpace])
          exact .inr ⟨fun isAll => notWidest (isAll ▸ failsInSpace), failsInSpace⟩
      | none => exact absurd (fails grant (by simp [held?, atPath, inSpace, held])) notWidest

/-- What keeps the widest grant from counting. -/
theorem shadowed_of_denied
    (named : request.type = .folder → ∀ name ∈ request.entry, Subpath.IsSegment name)
    (held : grants[(⟨allSpaces, Subpath.everywhere, request.type⟩ : PermissionKey)]? = some grant)
    (passes : (request.judge user grant).isOk = true)
    (denied : request.allowedBy ⟨user, grants⟩ = false) :
    (request.effectiveSpace ≠ allSpaces ∧
        request.FailsAt user grants request.effectiveSpace Subpath.everywhere) ∨
      (request.FailsAt user grants allSpaces Subpath.root ∧
        ∀ first ∈ request.place.head?, request.FailsAt user grants allSpaces first) := by
  rcases shadowed_at held passes denied (Subpath.root_mem_initials _) Subpath.globalAccess_root with
    atRoot | inSpace
  · cases shape : request.place with
    | nil => exact .inr ⟨atRoot, fun _ isFirst => nomatch isFirst⟩
    | cons first rest =>
        have isFirst : first ∈ request.place := shape ▸ List.mem_cons_self
        have isSegment : Subpath.IsSegment first := Subpath.isSegment_of_mem_place named isFirst
        have isPrefix : first ∈ request.walk :=
          mem_walk.mpr ⟨[first], shape ▸ ⟨rest, rfl⟩, Subpath.ofSegments_singleton first⟩
        rcases shadowed_at held passes denied isPrefix
          (Subpath.globalAccess_of_isSegment isSegment) with atFirst | inSpace
        · refine .inr ⟨atRoot, ?_⟩
          rintro _ ⟨⟩
          exact atFirst
        · exact .inl inSpace
  · exact .inl inSpace

variable {cluster : Cluster} {node : Nat} {settings : Settings} {byEntry : Bool}

/-- A user holds a grant for all subpaths of all spaces that lets a request pass.  The request is
refused only if grants that do not let it pass are held for all subpaths of its space, or in all spaces
for the root and also for the first segment of its place, if there is one.  So it is allowed if neither
is held. -/
theorem widest_grant_covers_unless_shadowed
    (finds : cluster.FindsOut node settings request byEntry ⟨user, grants⟩)
    (named : request.type = .folder → ∀ name ∈ request.entry, Subpath.IsSegment name)
    (held : grants[(⟨allSpaces, Subpath.everywhere, request.type⟩ : PermissionKey)]? = some grant)
    (passes : (request.judge user grant).isOk = true) :
    ((operate node (checkAccess settings request) cluster).1 = .ok false →
      (request.effectiveSpace ≠ allSpaces ∧
          request.FailsAt user grants request.effectiveSpace Subpath.everywhere) ∨
        (request.FailsAt user grants allSpaces Subpath.root ∧
          ∀ first ∈ request.place.head?, request.FailsAt user grants allSpaces first)) ∧
    ((request.effectiveSpace = allSpaces ∨
        ⟨request.effectiveSpace, Subpath.everywhere, request.type⟩ ∉ grants) →
      (⟨allSpaces, Subpath.root, request.type⟩ ∉ grants ∨
        ∃ first ∈ request.place.head?, ⟨allSpaces, first, request.type⟩ ∉ grants) →
      (operate node (checkAccess settings request) cluster).1 = .ok true) := by
  rw [finds.checkAccess]
  constructor
  · intro refused
    have denied : request.allowedBy ⟨user, grants⟩ = false :=
      (Bool.or_eq_false_iff.mp (Except.ok.inj refused)).2
    exact shadowed_of_denied named held passes denied
  · intro notInSpace notAtTop
    have allowed : request.allowedBy ⟨user, grants⟩ = true := by
      rw [← Bool.not_eq_false]
      intro denied
      rcases shadowed_of_denied named held passes denied with
        ⟨otherSpace, inSpace⟩ | ⟨atRoot, atFirst⟩
      · exact notInSpace.elim otherSpace (· inSpace.mem)
      · rcases notAtTop with notAtRoot | ⟨first, isFirst, notAtFirst⟩
        · exact notAtRoot atRoot.mem
        · exact notAtFirst (atFirst first isFirst).mem
    rw [allowed, Bool.or_true]

end AccessRequest

/-! ## A shadowed grant -/

namespace Bureau

/-- The widest grant, and one of nothing for the roots of all spaces. -/
def shadowedAtRoot : Grants :=
  ((∅ : Grants).insert ⟨allSpaces, Subpath.everywhere, .content⟩ reading).insert
    ⟨allSpaces, Subpath.root, .content⟩ .empty

/-- The same, and a grant of nothing for the blogs of all spaces. -/
def shadowed : Grants := shadowedAtRoot.insert ⟨allSpaces, "blog", .content⟩ .empty

end Bureau

/-- One of the two grants of nothing does not keep the widest grant from counting, and both do. -/
theorem AccessRequest.widest_grant_covers_unless_shadowed_bureau :
    (operate 0 (checkAccess {} Bureau.viewing) (Bureau.holding Bureau.shadowedAtRoot)).1 = .ok true ∧
      (operate 0 (checkAccess {} Bureau.viewing) (Bureau.holding Bureau.shadowed)).1 = .ok false ∧
      ((Bureau.viewing.effectiveSpace ≠ allSpaces ∧
          Bureau.viewing.FailsAt (some Bureau.editor) Bureau.shadowed "acme" Subpath.everywhere) ∨
        (Bureau.viewing.FailsAt (some Bureau.editor) Bureau.shadowed allSpaces Subpath.root ∧
          ∀ first ∈ Bureau.viewing.place.head?,
            Bureau.viewing.FailsAt (some Bureau.editor) Bureau.shadowed allSpaces first)) := by
  have notFolder : Bureau.viewing.type = .folder → ∀ name ∈ Bureau.viewing.entry,
      Subpath.IsSegment name := fun isFolder => nomatch isFolder
  have refused : (operate 0 (checkAccess {} Bureau.viewing)
      (Bureau.holding Bureau.shadowed)).1 = .ok false := by decide +kernel
  have findsAtRoot : (Bureau.holding Bureau.shadowedAtRoot).FindsOut 0 {} Bureau.viewing false _ :=
    Bureau.findsOut_holding Bureau.shadowedAtRoot rfl Bureau.declined_viewing
  have finds : (Bureau.holding Bureau.shadowed).FindsOut 0 {} Bureau.viewing false _ :=
    Bureau.findsOut_holding Bureau.shadowed rfl Bureau.declined_viewing
  obtain ⟨-, covers⟩ :=
    widest_grant_covers_unless_shadowed findsAtRoot notFolder rfl (by decide : _ = true)
  obtain ⟨isShadowed, -⟩ :=
    widest_grant_covers_unless_shadowed finds notFolder rfl (by decide : _ = true)
  exact ⟨covers (.inr (by decide)) (.inr ⟨"blog", by decide, by decide⟩), refused, isShadowed refused⟩

end AccessControl
