import AccessControl.Program

/-!
# Reloading and adopting snapshots

A reload builds a snapshot from the management space, publishes it and installs it, in this order,
so that a reload that fails leaves the current snapshot alone.  Other nodes adopt what was
published.  A node carries out one reload or installation at a time, and never goes back to an
older snapshot.
-/

namespace AccessControl

namespace Snapshot

/-- The name that snapshots are published under. -/
def publishedName : String := "access_control_snapshot"

end Snapshot

namespace Reload

variable {α : Type}

/-- Decodes the listed entries of a subpath and keeps the active records.  All have to decode. -/
def readRecords (space subpath : String) (decoder : Decoder α) (isActive : α → Bool) :
    List ListedEntry → Except ServiceError (List α)
  | [] => .ok []
  | entry :: rest => do
    match decoder entry.document with
    | .error cause => throw (.unreadableRecord space subpath entry.shortname cause)
    | .ok record =>
      let records ← readRecords space subpath decoder isActive rest
      return if isActive record then record :: records else records

/-- The active records of one type in the management space. -/
def loadRecords (space subpath : String) (type : ResourceType) (decoder : Decoder α)
    (isActive : α → Bool) : Operation (List α) := do
  let entries ← Operation.call (.loadActiveEntries space subpath type)
  MonadExcept.ofExcept (readRecords space subpath decoder isActive entries)

end Reload

/-- Builds a snapshot from the management space, publishes it and installs it.  That the cached
grants cannot be dropped does not keep the reload from succeeding. -/
def reload (managementSpace : String) : Operation Snapshot :=
  Operation.exclusively do
    let current ← Operation.current
    let published ← Operation.call (.fetchSnapshot Snapshot.publishedName)
    let generation :=
      Snapshot.generationAfter current.generation (Snapshot.publishedGeneration published)
    let groups ← Reload.loadRecords managementSpace ResourceType.groupsSubpath .group
      Group.decoder Group.isActive
    let roles ← Reload.loadRecords managementSpace ResourceType.rolesSubpath .role
      Role.decoder Role.isActive
    let permissions ← Reload.loadRecords managementSpace ResourceType.permissionsSubpath .permission
      Permission.decoder Permission.isActive
    let edition ← Operation.request .edition
    let snapshot := Snapshot.build generation edition groups roles permissions
    Operation.call .prepareIndex
    Operation.call (.persistSnapshot Snapshot.publishedName snapshot.document)
    Operation.install snapshot
    Operation.note (.reloaded generation snapshot.revision snapshot.counts)
    match ← Operation.attempt .cacheClear with
    | .ok _ => pure ()
    | .error error => Operation.note (.cacheNotCleared generation error)
    return snapshot

/-- Installs the published snapshot, unless it is the current one or older than that.  Answers
whether it did. -/
def adopt : Operation Bool := do
  match ← Operation.call (.fetchSnapshot Snapshot.publishedName) with
  | none => return false
  | some document =>
    match Snapshot.decoder document with
    | .error cause => throw (.unreadableSnapshot cause)
    | .ok snapshot =>
      Operation.exclusively do
        let current ← Operation.current
        if snapshot.revision = current.revision then
          return false
        else if snapshot.generation < current.generation then
          Operation.note (.olderIgnored snapshot.generation current.generation)
          return false
        else
          Operation.note (.adopted snapshot.generation snapshot.revision)
          Operation.install snapshot
          return true

end AccessControl
