import AccessControl.Entry
import AccessControl.ServiceError

/-!
# Entries kept in memory

A table of entries by their addresses.  An entry is stored with the policies it is stamped with, so
that a search only has to match them with filters.
-/

namespace AccessControl

/-- An entry as it is stored. -/
structure StoredEntry where
  isActive : Bool
  document : Json
  policies : List String

/-- Stored entries by address. -/
abbrev EntryTable := Dict Locator StoredEntry

namespace EntryTable

variable {α : Type}

/-- Stores an entry below a subpath and answers the policies it is stamped with. -/
def save (table : EntryTable) (space subpath : String) (document : Json) :
    Except ServiceError (List String × EntryTable) :=
  match Entry.decoder document with
  | .error cause => .error (.invalidEntry cause)
  | .ok entry =>
    let place := Subpath.normalize subpath
    let policies := entry.policies space place
    .ok (policies, table.insert ⟨space, place, entry.shortname.text, entry.type⟩
      ⟨entry.isActive, document, policies⟩)

/-- Removes the entry at exactly this address and answers whether there was one. -/
def delete (table : EntryTable) (locator : Locator) : Bool × EntryTable :=
  (table.contains locator, table.erase locator)

/-- The policies of the entry at exactly this address. -/
def policies? (table : EntryTable) (locator : Locator) : Option (List String) :=
  table[locator]?.map StoredEntry.policies

/-- The entries of a space whose policies match the filters, by subpath and name. -/
def search (table : EntryTable) (space : String) (filters : List String) : List Locator :=
  Std.ExtTreeMap.keys <| table.filter fun locator entry =>
    locator.space = space && policiesMatch filters entry.policies

/-- The decoded entry at an address, its subpath in whatever spelling. -/
def find (table : EntryTable) (decoder : Decoder α) (locator : Locator) :
    Except ServiceError (Option α) :=
  match table[locator.normalize]? with
  | none => .ok none
  | some entry =>
    match decoder entry.document with
    | .ok value => .ok (some value)
    | .error cause => .error (.corruptEntry locator.normalize cause)

/-- The active entries of a type at a subpath, by name. -/
def activeEntries (table : EntryTable) (space subpath : String) (type : ResourceType) :
    List ListedEntry :=
  let place := Subpath.normalize subpath
  let active := table.filter fun locator entry =>
    entry.isActive && locator.space = space && locator.subpath = place && locator.type = type
  active.toList.map fun (locator, entry) => ⟨locator.shortname, entry.document⟩

end EntryTable

end AccessControl
