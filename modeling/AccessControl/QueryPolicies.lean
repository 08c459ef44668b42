import AccessControl.PolicyToken
import AccessControl.Principal

/-!
# Filters of queries

A query shows what the grants for `query` cover.  Each such grant in the queried space that lies on
the queried subpath, above it or below it is projected onto filters, which are matched with the
policies that entries were stamped with.
-/

namespace AccessControl

namespace QueryPolicies

/-- The filters of a grant under a key without a marker among other segments.  What has to be owned
is asked for owner by owner. -/
def filters (format : FilterFormat) (owners : List String) (key : PermissionKey) (grant : Grant) :
    List String :=
  let token (state : ActiveState) (owner : OwnerScope) := PolicyToken.text ⟨key, state, owner⟩
  match grant.conditions.contains .isActive, grant.conditions.contains .own with
  | true, true => owners.map fun owner => token .active (.subject owner)
  | true, false => [token .active .any]
  | false, true =>
    owners.flatMap fun owner =>
      let active := token .active (.subject owner)
      let inactive := token .inactive (.subject owner)
      match format with
      | .separate => [active, inactive]
      | .alternation => [active ++ "|" ++ inactive]
  | false, false => [(PolicyToken.unrestricted key).text]

/-- The filter of a grant under a key with a marker among other segments.  Entries carry no owner
under such a subpath, so a grant that asks for ownership has none. -/
def nestedFilter (key : PermissionKey) (grant : Grant) : List String :=
  if grant.conditions.contains .own then []
  else if grant.conditions.contains .isActive then
    [PolicyToken.text ⟨key, .active, .unscoped⟩]
  else [(PolicyToken.unrestricted key).text]

/-- Whether a grant under the key concerns a query in the space: everywhere in it if no subpath is
given, and else on the subpath, above it or below it. -/
def concerns (space : String) (subpath : Option String) (key : PermissionKey) (grant : Grant) :
    Bool :=
  grant.allowsAction .query && (key.coversAllSpaces || key.space = space) &&
    subpath.all fun path => Subpath.overlap (Subpath.fixedPart key.subpath) path

/-- The filters of one grant for a query at a place. -/
def project (format : FilterFormat) (owners : List String) (space place : String)
    (key : PermissionKey) (grant : Grant) : List String :=
  let key := key.concretize space place
  if key.isNestedWide then nestedFilter key grant else filters format owners key grant

/-- The filters for a query in a space, in the order of the keys and without repetitions.  Without
a subpath the whole space is queried. -/
def ofGrants (format : FilterFormat) (owners : List String) (space : String)
    (subpath : Option String) (grants : Grants) : List String :=
  let path := subpath.map Subpath.normalize
  let relevant := grants.toList.filter fun (key, grant) => concerns space path key grant
  (relevant.flatMap fun (key, grant) =>
    project format owners space (path.getD Subpath.root) key grant).eraseDups

/-- Whoever may own what the user asks for: the user's groups and the user. -/
def owners (principal : Principal) (user : String) : List String :=
  principal.groups.map Shortname.text ++ [user]

end QueryPolicies

/-- The filters for a user's query in a space, on a subpath or everywhere. -/
def queryPolicies (settings : Settings) (user space : String) (subpath : Option String) :
    Operation (List String) := do
  let principal ← Principal.load settings user
  return QueryPolicies.ofGrants settings.filterFormat (QueryPolicies.owners principal user) space
    subpath principal.grants

end AccessControl
