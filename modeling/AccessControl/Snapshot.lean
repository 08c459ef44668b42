import AccessControl.Entry

/-!
# Snapshots

A snapshot holds the active groups, roles and permissions as they were at one moment, by name.
Requests are answered from a snapshot, and a node publishes the snapshots it builds so that other
nodes can adopt them.  Each build gets a revision of its own, since two nodes may arrive at the
same generation independently.
-/

namespace AccessControl

/-- What tells one build of a snapshot from all others, and when it was built. -/
structure Edition where
  revision : Uuid
  builtAt : Timestamp
  deriving DecidableEq, Repr

/-- The active groups, roles and permissions at one moment. -/
structure Snapshot where
  /-- Counts reloads; kept ahead of every snapshot seen before. -/
  generation : Nat
  revision : Uuid
  loadedAt : Option Timestamp
  groups : Dict String Group
  roles : Dict String Role
  permissions : Dict String Permission

namespace Snapshot

/-- The generation that is never passed. -/
def lastGeneration : Nat := Decimal.capacity 64 - 1

/-- The snapshot before anything was loaded. -/
def empty : Snapshot := ⟨0, .nil, none, ∅, ∅, ∅⟩

instance : Inhabited Snapshot := ⟨empty⟩

/-- Records by their names; of equal names the last counts. -/
def byName {α : Type} (name : α → Shortname) (records : List α) : Dict String α :=
  .ofList (records.map fun record => ((name record).text, record))

/-- The snapshot of the given records. -/
def build (generation : Nat) (edition : Edition) (groups : List Group) (roles : List Role)
    (permissions : List Permission) : Snapshot where
  generation := generation
  revision := edition.revision
  loadedAt := some edition.builtAt
  groups := byName Group.shortname groups
  roles := byName Role.shortname roles
  permissions := byName Permission.shortname permissions

/-- How many groups, roles and permissions the snapshot holds. -/
structure Counts where
  groups : Nat
  roles : Nat
  permissions : Nat
  deriving DecidableEq, Repr

/-- How many groups, roles and permissions the snapshot holds. -/
def counts (snapshot : Snapshot) : Counts :=
  ⟨snapshot.groups.size, snapshot.roles.size, snapshot.permissions.size⟩

/-- Reads a snapshot. -/
def decoder : Decoder Snapshot :=
  Fields.decoder "PermissionSnapshot" (mk <$> .required "generation" (.natural 64)
    <*> .required "revision" .uuid
    <*> .nullable "loaded_at" .timestamp
    <*> .required "groups" (.dict .ok Group.decoder)
    <*> .required "roles" (.dict .ok Role.decoder)
    <*> .required "permissions" (.dict .ok Permission.decoder))

/-- The document of a snapshot, its members in ascending order throughout. -/
def document (snapshot : Snapshot) : Json :=
  Json.normal <| .obj [
    ("generation", .int snapshot.generation),
    ("revision", .str snapshot.revision.text),
    ("loaded_at", snapshot.loadedAt.elim .null fun time => .str time.text),
    ("groups", .ofDict Group.toJson snapshot.groups),
    ("roles", .ofDict Role.toJson snapshot.roles),
    ("permissions", .ofDict Permission.toJson snapshot.permissions)]

/-- The generation that a published document claims; zero if there is no document or it claims
none that can be counted with. -/
def publishedGeneration (document : Option Json) : Nat :=
  ((document.bind (Json.member? "generation")).bind Json.natural?).getD 0

/-- The generation after two others. -/
def generationAfter (current published : Nat) : Nat :=
  min (max current published + 1) lastGeneration

end Snapshot

end AccessControl
