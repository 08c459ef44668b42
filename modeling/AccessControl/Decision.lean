import AccessControl.Principal

/-!
# Access decisions

A request is allowed if the addressed entry itself grants the action to the user.  Otherwise the
way from the root of the space down to the addressed place is walked, and the request is allowed if
a grant met on the way passes all checks.  At each prefix one grant for all spaces or all subpaths
is consulted, and then the grant for that very place.
-/

namespace AccessControl

/-- A question: may a user act on a resource. -/
structure AccessRequest where
  user : String
  space : String
  subpath : String
  type : ResourceType
  action : Action
  /-- Whether the resource is active. -/
  isActive : Bool := false
  owner : Option String := none
  ownerGroup : Option String := none
  /-- The payload of a create or an update. -/
  attributes : Attributes.Members := []
  /-- The name of the addressed entry, if a single one is addressed. -/
  entry : Option String := none

namespace AccessRequest

/-- Where the entry is kept whose own grants count.  A folder is looked for at the root. -/
def aclLocator? (request : AccessRequest) : Option Locator :=
  request.entry.map fun name =>
    ⟨request.space,
      if request.type = .folder then Subpath.root else Subpath.normalize request.subpath,
      name, request.type⟩

/-- The space that the request is decided in.  A space that is addressed as an entry is meant
itself. -/
def effectiveSpace (request : AccessRequest) : String :=
  match request.entry with
  | some name => if request.type = .space then name else request.space
  | none => request.space

/-- Whether the resource belongs to the user or to one of the user's groups. -/
def owns (request : AccessRequest) (user : Option User) : Bool :=
  request.owner = some request.user ||
    match request.ownerGroup, user with
    | some group, some user => user.isMemberOf group
    | _, _ => false

/-- The conditions that the resource satisfies. -/
def achieved (request : AccessRequest) (user : Option User) : Bag Condition :=
  let active : List Condition := if request.isActive then [.isActive] else []
  let own : List Condition := if request.owns user then [.own] else []
  .ofList (active ++ own)

/-- The prefixes from the root down to the addressed place. -/
def walk (request : AccessRequest) : List String :=
  Subpath.walk request.subpath request.type request.entry

/-- The keys of the grants for all spaces or all subpaths at a prefix; the first that is held is
consulted. -/
def wideKeys (request : AccessRequest) (path : String) : List PermissionKey :=
  let space := request.effectiveSpace
  [⟨allSpaces, path, request.type⟩,
    ⟨space, Subpath.globalAccess path, request.type⟩,
    ⟨allSpaces, Subpath.globalAccess path, request.type⟩]

/-- A held grant with its key. -/
def held? (grants : Grants) (key : PermissionKey) : Option (PermissionKey × Grant) :=
  grants[key]?.map fun grant => (key, grant)

/-- The grants that are consulted at a prefix. -/
def consultedAt (request : AccessRequest) (grants : Grants) (path : String) :
    List (PermissionKey × Grant) :=
  ((request.wideKeys path).findSome? (held? grants)).toList ++
    (held? grants ⟨request.effectiveSpace, path, request.type⟩).toList

/-- The grants that are consulted, in order. -/
def consulted (request : AccessRequest) (grants : Grants) : List (PermissionKey × Grant) :=
  request.walk.flatMap (request.consultedAt grants)

/-- Whether a grant lets the request pass, or the check that fails. -/
def judge (request : AccessRequest) (user : Option User) (grant : Grant) : Except AccessCheck Unit :=
  grant.evaluate request.action (request.achieved user) request.attributes

/-- Whether some consulted grant lets the request pass. -/
def allowedBy (request : AccessRequest) (principal : Principal) : Bool :=
  (request.consulted principal.grants).any fun (_, grant) =>
    (request.judge principal.user grant).isOk

/-- The failed checks on the given grants up to the first that lets the request pass, and the
denial if none does. -/
def report (request : AccessRequest) (user : Option User) :
    List (PermissionKey × Grant) → List Event
  | [] =>
    [.denied request.user request.effectiveSpace request.subpath request.type request.action]
  | (key, grant) :: rest =>
    match request.judge user grant with
    | .ok _ => []
    | .error check =>
      .checkFailed request.user key request.action check :: request.report user rest

end AccessRequest

/-- Whether the addressed entry itself grants the action to the user. -/
def aclAllows (request : AccessRequest) : Operation Bool := do
  match request.aclLocator? with
  | none => return false
  | some locator =>
    match ← Operation.call (.findEntry locator) with
    | none => return false
    | some entry => return entry.aclGrants request.user request.action

/-- Whether the request is allowed. -/
def checkAccess (settings : Settings) (request : AccessRequest) : Operation Bool := do
  if ← aclAllows request then
    return true
  else
    let principal ← Principal.load settings request.user
    if settings.debugDenials then
      Operation.notes (request.report principal.user (request.consulted principal.grants))
    return request.allowedBy principal

/-- Demands that the request is allowed. -/
def requireAccess (settings : Settings) (request : AccessRequest) : Operation Unit := do
  if ← checkAccess settings request then
    return ()
  else
    throw .notAuthorized

/-- Whether the user holds any grant in the space. -/
def checkSpaceAccess (settings : Settings) (user space : String) : Operation Bool := do
  let principal ← Principal.load settings user
  return principal.grants.keys.any fun key => key.space = space || key.coversAllSpaces

end AccessControl
