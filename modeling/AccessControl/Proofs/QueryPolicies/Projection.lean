import AccessControl.Proofs.PolicyToken.Matching
import AccessControl.Proofs.Subpath.Segments
import AccessControl.QueryPolicies

/-!
# Filters as tokens

The filters of a query are written tokens.  Here they are taken apart again: the alternatives of the
filters of one grant are the written forms of the tokens that its conditions dictate, whatever the
format, and a filter and a stored policy match exactly if the tokens read from them do.
-/

namespace AccessControl

namespace QueryPolicies

/-! ## The tokens of one grant -/

/-- The states and owners that the conditions of a grant dictate to its filters.  Under a key with a
marker among other segments entries carry no owner, so nothing can be asked of it. -/
def dictated (nested : Bool) (owners : List String) (grant : Grant) :
    List (ActiveState × OwnerScope) :=
  match grant.conditions.contains .isActive, grant.conditions.contains .own with
  | true, true => if nested then [] else owners.map fun owner => (.active, .subject owner)
  | true, false => [(.active, if nested then .unscoped else .any)]
  | false, true =>
    if nested then []
    else owners.flatMap fun owner => [(.active, .subject owner), (.inactive, .subject owner)]
  | false, false => [(.any, .unscoped)]

theorem mem_dictated {nested : Bool} {owners : List String} {grant : Grant} {state : ActiveState}
    {owner : OwnerScope} :
    (state, owner) ∈ dictated nested owners grant ↔
      if .own ∈ grant.conditions then
        nested = false ∧ (∃ name ∈ owners, owner = .subject name) ∧
          (state = .active ∨ state = .inactive ∧ .isActive ∉ grant.conditions)
      else if .isActive ∈ grant.conditions then
        state = .active ∧ owner = if nested then .unscoped else .any
      else state = .any ∧ owner = .unscoped := by
  simp only [Std.ExtTreeSet.mem_iff_contains, dictated]
  cases grant.conditions.contains .isActive <;> cases grant.conditions.contains .own <;>
    cases nested <;> simp <;> grind

/-- The tokens of the filters of one grant for a query at a place. -/
def tokens (owners : List String) (space place : String) (key : PermissionKey) (grant : Grant) :
    List PolicyToken :=
  let key := key.concretize space place
  (dictated key.isNestedWide owners grant).map fun (state, owner) => ⟨key, state, owner⟩

/-- In either format the alternatives of the filters of a grant are its written tokens, cut at the
bars that the queried place may hold. -/
theorem filterAlternatives_project (format : FilterFormat) (owners : List String)
    (space place : String) (key : PermissionKey) (grant : Grant) :
    filterAlternatives (project format owners space place key grant) =
      (tokens owners space place key grant).flatMap fun token => Text.split '|' token.text := by
  have joined (left right : String) :
      Text.split '|' (left ++ "|" ++ right) = Text.split '|' left ++ Text.split '|' right :=
    Text.split_append left right
  unfold project tokens dictated
  cases nested : (key.concretize space place).isNestedWide <;>
    cases isActive : grant.conditions.contains .isActive <;>
    cases own : grant.conditions.contains .own <;>
    simp [nestedFilter, filters, isActive, own, nested, filterAlternatives, List.flatMap_map,
      List.flatMap_assoc, PolicyToken.unrestricted]
  cases format with
  | separate => simp
  | alternation => simp [joined]

/-! ## The filters of all grants -/

/-- The place that is put where a grant names every subpath. -/
def place (subpath : Option String) : String :=
  (subpath.map Subpath.normalize).getD Subpath.root

@[simp] theorem normalize_place (subpath : Option String) :
    Subpath.normalize (place subpath) = place subpath := by
  cases subpath with
  | none => decide
  | some path => exact Subpath.normalize_normalize path

/-- A grant that the user holds under a key and that concerns a query. -/
structure Projects (grants : Grants) (space : String) (subpath : Option String)
    (key : PermissionKey) (grant : Grant) : Prop where
  held : grants[key]? = some grant
  query : grant.allowsAction .query = true
  inSpace : key.space = space ∨ key.space = allSpaces
  near : ∀ path ∈ subpath, Subpath.overlap (Subpath.fixedPart key.subpath)
    (Subpath.normalize path) = true

theorem projects_iff {grants : Grants} {space : String} {subpath : Option String}
    {key : PermissionKey} {grant : Grant} :
    Projects grants space subpath key grant ↔
      (key, grant) ∈ grants.toList ∧
        concerns space (subpath.map Subpath.normalize) key grant = true := by
  rw [Std.ExtTreeMap.mem_toList_iff_getElem?_eq_some]
  constructor
  · rintro ⟨held, query, inSpace, near⟩
    refine ⟨held, ?_⟩
    cases subpath <;>
      simp_all [concerns, PermissionKey.coversAllSpaces, or_comm]
  · rintro ⟨held, concerned⟩
    simp only [concerns, PermissionKey.coversAllSpaces, Bool.and_eq_true, Bool.or_eq_true,
      decide_eq_true_eq, Option.all_eq_true] at concerned
    obtain ⟨⟨query, inSpace⟩, near⟩ := concerned
    exact ⟨held, query, inSpace.symm, fun path asked =>
      near _ (Option.map_eq_some_iff.mpr ⟨path, asked, rfl⟩)⟩

/-- The alternatives of the filters of a query are those of the grants that concern it. -/
theorem mem_filterAlternatives_ofGrants {format : FilterFormat} {owners : List String}
    {space alternative : String} {subpath : Option String} {grants : Grants} :
    alternative ∈ filterAlternatives (ofGrants format owners space subpath grants) ↔
      ∃ key grant, Projects grants space subpath key grant ∧
        ∃ token ∈ tokens owners space (place subpath) key grant,
          alternative ∈ Text.split '|' token.text := by
  have fromOne : ∀ key grant, alternative ∈
      filterAlternatives (project format owners space (place subpath) key grant) ↔
        ∃ token ∈ tokens owners space (place subpath) key grant,
          alternative ∈ Text.split '|' token.text := by
    intro key grant
    rw [filterAlternatives_project, List.mem_flatMap]
  simp only [projects_iff, ← fromOne]
  simp only [filterAlternatives, ofGrants, List.mem_flatMap, List.mem_eraseDups, List.mem_filter,
    Prod.exists]
  constructor
  · rintro ⟨text, ⟨key, grant, held, isText⟩, inText⟩
    exact ⟨key, grant, held, text, isText, inText⟩
  · rintro ⟨key, grant, held, text, isText, inText⟩
    exact ⟨text, ⟨key, grant, held, isText⟩, inText⟩

end QueryPolicies

end AccessControl
