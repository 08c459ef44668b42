import AccessControl.Json.Basic
import AccessControl.Ordered

/-!
# Published documents kept in memory

Documents by name, each replacing the one before, and whether the index of permissions was asked
for.
-/

namespace AccessControl

/-- Published documents. -/
structure SnapshotShelf where
  documents : Dict String Json
  indexPrepared : Bool

namespace SnapshotShelf

/-- A shelf with nothing on it. -/
def empty : SnapshotShelf := ⟨∅, false⟩

/-- The shelf after the index was asked for. -/
def prepareIndex (shelf : SnapshotShelf) : SnapshotShelf := { shelf with indexPrepared := true }

/-- The shelf with a document under a name. -/
def persist (shelf : SnapshotShelf) (name : String) (document : Json) : SnapshotShelf :=
  { shelf with documents := shelf.documents.insert name document }

/-- The document under a name. -/
def fetch (shelf : SnapshotShelf) (name : String) : Option Json := shelf.documents[name]?

end SnapshotShelf

end AccessControl
