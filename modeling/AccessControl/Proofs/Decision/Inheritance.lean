import AccessControl.Proofs.Decision.Confinement

/-!
# Inherited access

A grant that lets a request pass at a place lets it pass everywhere below, as long as the resource
satisfies the same conditions.  Deeper places only add prefixes at the end of the walk, and what is
consulted at a prefix does not depend on what follows.  So access depends on the segments of a place,
and not on how its slashes are written.
-/

namespace AccessControl

open Cluster

namespace AccessRequest

variable {request deeper : AccessRequest} {user : Option User} {grants : Grants} {grant : Grant}
  {principal : Principal}

/-- The segments of the place that a request is about. -/
def place (request : AccessRequest) : List String :=
  Subpath.place request.subpath request.type request.entry

/-- Whether requests of one user ask for one action on resources of one type in one space, with the
same attributes. -/
structure AsksLike (deeper request : AccessRequest) : Prop where
  user : deeper.user = request.user
  space : deeper.effectiveSpace = request.effectiveSpace
  type : deeper.type = request.type
  action : deeper.action = request.action
  attributes : deeper.attributes = request.attributes

theorem mem_walk {path : String} :
    path ∈ request.walk ↔ ∃ start, start <+: request.place ∧ Subpath.ofSegments start = path :=
  Subpath.mem_initials

/-- Every prefix of a place is a prefix of the places below. -/
theorem walk_subset (isAbove : request.place <+: deeper.place) : request.walk ⊆ deeper.walk := by
  intro path isPrefix
  obtain ⟨start, starts, isPath⟩ := mem_walk.mp isPrefix
  exact mem_walk.mpr ⟨start, starts.trans isAbove, isPath⟩

namespace AsksLike

variable (alike : deeper.AsksLike request)
include alike

theorem symm : request.AsksLike deeper :=
  ⟨alike.user.symm, alike.space.symm, alike.type.symm, alike.action.symm, alike.attributes.symm⟩

/-- What is consulted at a prefix does not depend on where the prefix leads. -/
theorem consultedAt (path : String) :
    deeper.consultedAt grants path = request.consultedAt grants path := by
  simp only [AccessRequest.consultedAt, wideKeys, alike.space, alike.type]

/-- What is consulted for a place is consulted for everything below it, too. -/
theorem consulted_subset (isAbove : request.place <+: deeper.place) :
    request.consulted grants ⊆ deeper.consulted grants := by
  intro found isConsulted
  obtain ⟨path, isPrefix, atPath⟩ := mem_consulted_iff.mp isConsulted
  rw [← alike.consultedAt] at atPath
  exact mem_consulted_iff.mpr ⟨path, walk_subset isAbove isPrefix, atPath⟩

/-- A grant lets a request pass if it lets one pass whose resource satisfies fewer conditions. -/
theorem judge_of_judge
    (achieves : ∀ condition ∈ request.achieved user, condition ∈ deeper.achieved user)
    (passes : (request.judge user grant).isOk = true) : (deeper.judge user grant).isOk = true := by
  rw [judge, Grant.isOk_evaluate, Grant.conditionsMet_iff] at passes ⊢
  obtain ⟨granted, conditioned, respected⟩ := passes
  rw [alike.action, alike.attributes]
  refine ⟨granted, fun judged condition stated => ?_, respected⟩
  exact achieves condition (conditioned judged condition stated)

/-- What the grants of a user allow at a place, they allow below it. -/
theorem allowedBy_of_allowedBy (isAbove : request.place <+: deeper.place)
    (achieves : ∀ condition ∈ request.achieved principal.user,
      condition ∈ deeper.achieved principal.user)
    (allowed : request.allowedBy principal = true) : deeper.allowedBy principal = true := by
  obtain ⟨key, grant, isConsulted, passes⟩ := allowedBy_iff.mp allowed
  exact allowedBy_iff.mpr ⟨key, grant, alike.consulted_subset isAbove isConsulted,
    alike.judge_of_judge achieves passes⟩

/-- The grants of a user allow the same at one place, however it is written. -/
theorem allowedBy_eq (samePlace : deeper.place = request.place)
    (sameConditions : ∀ condition,
      condition ∈ deeper.achieved principal.user ↔ condition ∈ request.achieved principal.user) :
    deeper.allowedBy principal = request.allowedBy principal := by
  have isAbove : request.place <+: deeper.place := samePlace ▸ List.prefix_rfl
  have isBelow : deeper.place <+: request.place := samePlace ▸ List.prefix_rfl
  exact Bool.eq_iff_iff.mpr
    ⟨alike.symm.allowedBy_of_allowedBy isBelow fun condition => (sameConditions condition).mp,
      alike.allowedBy_of_allowedBy isAbove fun condition => (sameConditions condition).mpr⟩

end AsksLike

variable {cluster : Cluster} {node : Nat} {settings : Settings}

/-- Two requests of a user ask for the same on resources at two places, and neither is granted by the
addressed entry.  If one place is the other or lies above it, and the resource there satisfies no more
conditions, then what is allowed above is allowed below.  Requests about one place and the same
conditions are answered alike, however the slashes of the place are written. -/
theorem checkAccess_inherits (alike : deeper.AsksLike request)
    (finds : cluster.FindsOut node settings request false principal)
    (findsDeeper : cluster.FindsOut node settings deeper false principal) :
    (request.place <+: deeper.place →
      (∀ condition ∈ request.achieved principal.user, condition ∈ deeper.achieved principal.user) →
      (operate node (checkAccess settings request) cluster).1 = .ok true →
        (operate node (checkAccess settings deeper) cluster).1 = .ok true) ∧
    (deeper.place = request.place →
      (∀ condition, condition ∈ deeper.achieved principal.user ↔
        condition ∈ request.achieved principal.user) →
      ∃ allowed, (operate node (checkAccess settings request) cluster).1 = .ok allowed ∧
        (operate node (checkAccess settings deeper) cluster).1 = .ok allowed) := by
  rw [finds.checkAccess, findsDeeper.checkAccess, Bool.false_or, Bool.false_or]
  constructor
  · intro isAbove achieves allowed
    rw [alike.allowedBy_of_allowedBy isAbove achieves (Except.ok.inj allowed)]
  · intro samePlace sameConditions
    exact ⟨_, rfl, congrArg Except.ok (alike.allowedBy_eq samePlace sameConditions)⟩

end AccessRequest

/-! ## Slashes -/

namespace Bureau

/-- The request about the blog, written with more slashes than needed. -/
def viewingAgain : AccessRequest := { viewing with subpath := "/blog//" }

/-- The same about an active post further down. -/
def viewingBelow : AccessRequest := { viewing with subpath := "//blog///2024/", isActive := true }

/-- The post does not grant anything by itself. -/
theorem declined_viewing : viewing.grantedByEntry (.after history) = .ok false := by
  decide +kernel

theorem findsOut_holding {request : AccessRequest} (grants : Grants)
    (isEditor : request.user = "dana")
    (declined : request.grantedByEntry (.after history) = .ok false) :
    (holding grants).FindsOut 0 {} request false ⟨some editor, grants⟩ := by
  have provides := provides_holding grants
  rw [← isEditor] at provides
  exact provides.finds declined

end Bureau

theorem AccessRequest.checkAccess_inherits_bureau :
    (operate 0 (checkAccess {} Bureau.viewingBelow) (Bureau.holding Bureau.posts)).1 = .ok true ∧
      ∃ allowed,
        (operate 0 (checkAccess {} Bureau.viewing) (Bureau.holding Bureau.posts)).1 = .ok allowed ∧
        (operate 0 (checkAccess {} Bureau.viewingAgain) (Bureau.holding Bureau.posts)).1 =
          .ok allowed := by
  have finds : (Bureau.holding Bureau.posts).FindsOut 0 {} Bureau.viewing false _ :=
    Bureau.findsOut_holding Bureau.posts rfl Bureau.declined_viewing
  have findsBelow : (Bureau.holding Bureau.posts).FindsOut 0 {} Bureau.viewingBelow false _ :=
    Bureau.findsOut_holding Bureau.posts rfl (by decide +kernel)
  have findsAgain : (Bureau.holding Bureau.posts).FindsOut 0 {} Bureau.viewingAgain false _ :=
    Bureau.findsOut_holding Bureau.posts rfl (by decide +kernel)
  have alikeBelow : Bureau.viewingBelow.AsksLike Bureau.viewing := ⟨rfl, rfl, rfl, rfl, rfl⟩
  have alikeAgain : Bureau.viewingAgain.AsksLike Bureau.viewing := ⟨rfl, rfl, rfl, rfl, rfl⟩
  have allowed : (operate 0 (checkAccess {} Bureau.viewing) (Bureau.holding Bureau.posts)).1 =
      .ok true := by
    decide +kernel
  constructor
  · refine (checkAccess_inherits alikeBelow finds findsBelow).1 (by decide +kernel) ?_ allowed
    intro condition isAchieved
    cases condition <;> exact absurd isAchieved (by decide)
  · exact (checkAccess_inherits alikeAgain finds findsAgain).2 (by decide +kernel) fun _ => Iff.rfl

end AccessControl
