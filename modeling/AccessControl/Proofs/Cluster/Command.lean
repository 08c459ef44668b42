import AccessControl.Cluster

/-!
# Commands

What a node can be asked to do: to save an entry, to reload or adopt a snapshot, or to answer a
question about a user.
-/

namespace AccessControl

/-- What a node can be asked to do. -/
inductive Command where
  | save (space subpath : String) (document : Json)
  | reload
  | adopt
  | check (request : AccessRequest)
  | require (request : AccessRequest)
  | checkSpace (user space : String)
  | grants (user : String)
  | policies (user space : String) (subpath : Option String)

/-- What a command is answered with if it does not fail. -/
abbrev Command.Answer : Command → Type
  | .save .. => List String
  | .reload => Snapshot
  | .adopt => Bool
  | .check _ => Bool
  | .require _ => Unit
  | .checkSpace .. => Bool
  | .grants _ => Grants
  | .policies .. => List String

namespace Cluster

/-- Lets a node with the settings and the wiring carry a command out. -/
def carryOutAs (node : Nat) (settings : Settings) (wiring : Wiring) :
    (command : Command) → StateM Cluster (Except ServiceError command.Answer)
  | .save space subpath document => saveEntry wiring.entries space subpath document
  | .reload => operate node (AccessControl.reload settings.managementSpace)
  | .adopt => operate node AccessControl.adopt
  | .check request => operate node (checkAccess settings request)
  | .require request => operate node (requireAccess settings request)
  | .checkSpace user space => operate node (checkSpaceAccess settings user space)
  | .grants user => operate node (userGrants settings user)
  | .policies user space subpath => operate node (queryPolicies settings user space subpath)

/-- Lets a node carry a command out. -/
def carryOut (node : Nat) (command : Command) :
    StateM Cluster (Except ServiceError command.Answer) := do
  let ⟨settings, wiring, _, _⟩ := (← get).nodes node
  carryOutAs node settings wiring command

end Cluster

end AccessControl
