import AccessControl.Principal
import AccessControl.Proofs.Reload.Publication

/-!
# The conduct of errands

What a node does on its own is an errand: it reloads, it adopts what was published, or it looks a user
up.  An errand reads the current snapshot before it finds a record, installs only what is read from a
document that it holds, publishes only under an identity that it drew, and caches only what it resolves
from the snapshot that it read and the record that it found.
-/

namespace AccessControl

open Cluster

/-- How an errand ended. -/
inductive Outcome where
  | reloaded (answer : Except ServiceError Snapshot)
  | adopted (answer : Except ServiceError Bool)
  /-- A user was looked up. -/
  | resolved (name : String) (answer : Except ServiceError Principal)

/-- The errands of a node with the settings. -/
inductive IsErrand (settings : Settings) : Program Outcome → Prop where
  | reload : IsErrand settings (.reloaded <$> (AccessControl.reload settings.managementSpace).run)
  | adopt : IsErrand settings (.adopted <$> AccessControl.adopt.run)
  | resolve (name : String) :
      IsErrand settings (.resolved name <$> (Principal.load settings name).run)

namespace Errand

/-! ## The protocol -/

/-- What an errand works with. -/
inductive Phase where
  | idle
  /-- It has read the current snapshot. -/
  | reads (snapshot : Snapshot)
  /-- It has also found the record of a user, and then perhaps cached grants. -/
  | knows (snapshot : Snapshot) (name : String) (user : User) (cached : Option Grants)
  /-- It has drawn the identity of a new snapshot. -/
  | drew (edition : Edition)
  /-- It has published a document, or fetched the published one. -/
  | holds (document : Json)

namespace Phase

/-- Reading the current snapshot, unless a document is held. -/
def read (snapshot : Snapshot) : Phase → Phase
  | .idle => .reads snapshot
  | phase => phase

/-- Finding a record. -/
def find (name : String) (user : User) : Phase → Phase
  | .reads snapshot => .knows snapshot name user none
  | phase => phase

/-- Taking what was cached. -/
def take (cached : Option Grants) : Phase → Phase
  | .knows snapshot name user _ => .knows snapshot name user cached
  | phase => phase

/-- What an errand of a node with the settings may ask for. -/
def Allows (settings : Settings) (phase : Phase) : Request → Prop
  | .current => phase = .idle ∨ ∃ document, phase = .holds document
  | .install snapshot => ∃ document, phase = .holds document ∧ Snapshot.decoder document = .ok snapshot
  | .call (.findUser locator) =>
    ∃ snapshot name, phase = .reads snapshot ∧ locator = Principal.locator settings name
  | .call (.persistSnapshot name document) => name = Snapshot.publishedName ∧
    ∃ edition snapshot, phase = .drew edition ∧ document = Snapshot.document snapshot ∧
      snapshot.revision = edition.revision ∧ snapshot.IsReadable
  | .call (.fetchSnapshot name) => name = Snapshot.publishedName
  | .call (.cacheGet revision name) =>
    ∃ snapshot user, phase = .knows snapshot name user none ∧ revision = snapshot.revision
  | .call (.cachePut revision name grants _) =>
    ∃ snapshot user, phase = .knows snapshot name user none ∧ revision = snapshot.revision ∧
      grants = Resolution.grants snapshot user settings.defaultRole
  | _ => True

end Phase

/-- How far an errand has come, and whether all documents that it was listed are in normal form, as
they are kept. -/
structure Progress where
  phase : Phase
  isRegular : Prop

/-- How far an errand has come when a request was answered. -/
def Progress.next (progress : Progress) : (request : Request) → request.Answer → Progress
  | .current, snapshot => { progress with phase := progress.phase.read snapshot }
  | .edition, edition => { progress with phase := .drew edition }
  | .call (.findUser locator), .ok (some user) =>
    { progress with phase := progress.phase.find locator.shortname user }
  | .call (.cacheGet ..), .ok cached => { progress with phase := progress.phase.take cached }
  | .call (.fetchSnapshot _), .ok (some document) => { progress with phase := .holds document }
  | .call (.persistSnapshot _ document), .ok _ => { progress with phase := .holds document }
  | .call (.loadActiveEntries ..), .ok entries =>
    { progress with
      isRegular := progress.isRegular ∧ ∀ entry ∈ entries, entry.document.IsNormal }
  | _, _ => progress

/-- What errands of a node with the settings may ask for, as long as they are listed documents in normal
form. -/
def conduct (settings : Settings) : Protocol Progress where
  start := ⟨.idle, True⟩
  allows progress request := progress.isRegular → progress.phase.Allows settings request
  next := Progress.next

/-- How errands end: who was found has the grants that were cached, or those that were resolved. -/
def Concludes (settings : Settings) : Outcome → Progress → Prop
  | .resolved name (.ok ⟨some record, grants⟩), progress =>
    ∃ snapshot cached, progress.phase = .knows snapshot name record cached ∧
      grants = cached.getD (Resolution.grants snapshot record settings.defaultRole)
  | _, _ => True

variable {settings : Settings} {progress : Progress} {snapshot : Snapshot} {name : String}
  {user : User} {document : Json}

/-- Requests that every errand may ask for and that get it nowhere. -/
theorem ignores {request : Request} (allowed : ∀ phase, Phase.Allows settings phase request)
    (same : ∀ answer, progress.next request answer = progress) :
    (conduct settings).Ignores progress request :=
  ⟨fun _ => allowed _, same⟩

theorem conforms_notes {β : Type} {events : List Event} {next : Operation β}
    {fails : Progress → Prop} {later : β → Progress → Prop}
    (conforms : next.Conforms (conduct settings) fails later progress) :
    (Operation.notes events >>= fun _ => next).Conforms (conduct settings) fails later progress := by
  induction events with
  | nil => exact conforms
  | cons event rest ih =>
      rw [Operation.notes, bind_assoc]
      exact Operation.conforms_request_bind (ignores (fun _ => trivial) fun _ => rfl) fun _ => ih

/-! ## Looking a user up -/

/-- How a known user is looked up: the grants are those that were cached or resolved. -/
def Resolves (settings : Settings) (snapshot : Snapshot) (name : String) (user : User)
    (grants : Grants) (progress : Progress) : Prop :=
  ∃ cached, progress.phase = .knows snapshot name user cached ∧
    grants = cached.getD (Resolution.grants snapshot user settings.defaultRole)

theorem conforms_resolve :
    (Principal.resolve settings snapshot user).Conforms (conduct settings) (fun _ => True)
      (fun grants reached => reached = progress ∧
        grants = Resolution.grants snapshot user settings.defaultRole) progress :=
  conforms_notes (Operation.conforms_pure ⟨rfl, rfl⟩)

theorem conforms_cached (known : progress.phase = .knows snapshot name user none) :
    (Principal.cached settings snapshot name user).Conforms (conduct settings) (fun _ => True)
      (Resolves settings snapshot name user) progress := by
  have asking : (Operation.call (.cacheGet snapshot.revision name)).Conforms (conduct settings)
      (fun _ => True) (fun cached reached => reached.phase = .knows snapshot name user cached)
      progress := by
    refine Operation.conforms_call (fun _ => ⟨snapshot, user, known, rfl⟩) (fun _ => trivial)
      fun cached => ?_
    change Phase.take cached progress.phase = _
    rw [known, Phase.take]
  refine asking.bind fun cached reached taken => ?_
  cases cached with
  | some grants => exact Operation.conforms_pure ⟨some grants, taken, rfl⟩
  | none =>
      refine conforms_resolve.bind ?_
      rintro grants _ ⟨rfl, rfl⟩
      refine Operation.conforms_call_bind ⟨fun _ => ⟨snapshot, user, taken, rfl, rfl⟩, fun _ => rfl⟩
        trivial fun _ => ?_
      exact Operation.conforms_pure ⟨none, taken, rfl⟩

/-- Looking a user up starts with the current snapshot and ends with the grants under it. -/
theorem conforms_load : (Principal.load settings name).Conforms (conduct settings) (fun _ => True)
    (fun principal reached => Concludes settings (.resolved name (.ok principal)) reached)
    (conduct settings).start := by
  have reading : Operation.current.Conforms (conduct settings) (fun _ => True)
      (fun snapshot reached => reached.phase = .reads snapshot) (conduct settings).start :=
    Operation.conforms_request (fun _ => .inl rfl) fun _ => rfl
  refine reading.bind fun snapshot reached read => ?_
  have finding : (Operation.call (.findUser (Principal.locator settings name))).Conforms
      (conduct settings) (fun _ => True)
      (fun found reached => ∀ user, found = some user →
        reached.phase = .knows snapshot name user none) reached := by
    refine Operation.conforms_call (fun _ => ⟨snapshot, name, read, rfl⟩) (fun _ => trivial) ?_
    rintro _ user rfl
    change Phase.find name user reached.phase = _
    rw [read, Phase.find]
  refine finding.bind fun found reached known => ?_
  cases found with
  | none => exact Operation.conforms_pure trivial
  | some user =>
      have known := known user rfl
      have ending (grants : Grants) (last : Progress)
          (resolves : Resolves settings snapshot name user grants last) :
          (pure ⟨some user, grants⟩ : Operation Principal).Conforms (conduct settings)
            (fun _ => True) (fun principal reached =>
              Concludes settings (.resolved name (.ok principal)) reached) last :=
        Operation.conforms_pure ⟨snapshot, resolves⟩
      dsimp only
      split
      · refine conforms_resolve.bind ?_
        rintro grants _ ⟨rfl, rfl⟩
        exact ending _ _ ⟨none, known, rfl⟩
      · exact (conforms_cached known).bind ending

/-! ## Adopting -/

theorem conforms_adopt : adopt.Conforms (conduct settings) (fun _ => True) (fun _ _ => True)
    (conduct settings).start := by
  have fetching : (Operation.call (.fetchSnapshot Snapshot.publishedName)).Conforms (conduct settings)
      (fun _ => True)
      (fun published reached => ∀ document, published = some document →
        reached.phase = .holds document) (conduct settings).start := by
    refine Operation.conforms_call (fun _ => rfl) (fun _ => trivial) ?_
    rintro _ document rfl
    rfl
  refine fetching.bind fun published reached held => ?_
  cases published with
  | none => exact Operation.conforms_pure trivial
  | some document =>
      have held := held document rfl
      cases decoded : Snapshot.decoder document with
      | error cause =>
          simp only [decoded]
          trivial
      | ok snapshot =>
          simp only [decoded]
          refine Operation.conforms_exclusively (fun _ => trivial) ?_
          have reading : Operation.current.Conforms (conduct settings)
              (fun reached => (conduct settings).allows reached .unlock ∧ True)
              (fun _ reached => reached.phase = .holds document) reached := by
            refine Operation.conforms_request (fun _ => .inr ⟨document, held⟩) fun current => ?_
            change Phase.read current reached.phase = _
            rw [held]
            rfl
          refine reading.bind fun current reached held => ?_
          split
          · exact Operation.conforms_pure ⟨fun _ => trivial, trivial⟩
          · split
            · refine Operation.conforms_request_bind (ignores (fun _ => trivial) fun _ => rfl) fun _ => ?_
              exact Operation.conforms_pure ⟨fun _ => trivial, trivial⟩
            · refine Operation.conforms_request_bind (ignores (fun _ => trivial) fun _ => rfl) fun _ => ?_
              refine Operation.conforms_request_bind ⟨fun _ => ⟨document, held, decoded⟩, fun _ => rfl⟩
                fun _ => ?_
              exact Operation.conforms_pure ⟨fun _ => trivial, trivial⟩

/-! ## Reloading -/

/-- The records of a listing are of a kind, if records of documents in normal form are of the kind. -/
theorem conforms_loadRecords {α : Type} {phase : Phase} {space subpath : String}
    {type : ResourceType} {decoder : Decoder α} {isActive : α → Bool} {kind : α → Prop}
    (isKind : ∀ document record, document.IsNormal → decoder document = .ok record → kind record)
    (stands : progress.phase = phase) :
    (Reload.loadRecords space subpath type decoder isActive).Conforms (conduct settings)
      (fun _ => True) (fun records reached => reached.phase = phase ∧
        (reached.isRegular → ∀ record ∈ records, kind record)) progress := by
  have listing : (Operation.call (.loadActiveEntries space subpath type)).Conforms (conduct settings)
      (fun _ => True) (fun entries reached => reached.phase = phase ∧
        (reached.isRegular → ∀ entry ∈ entries, entry.document.IsNormal)) progress :=
    Operation.conforms_call (fun _ => trivial) (fun _ => trivial) fun _ => ⟨stands, And.right⟩
  refine listing.bind fun entries reached listed => ?_
  refine Operation.conforms_ofExcept trivial fun records read => ⟨listed.1, ?_⟩
  intro regular record member
  obtain ⟨entry, isEntry, decoded⟩ := Reload.exists_entry_of_mem_readRecords read member
  exact isKind _ _ (listed.2 regular entry isEntry) decoded

/-- What a reload gathers has the identity that it drew, and is read back from its document. -/
def Gathered (snapshot : Snapshot) (progress : Progress) : Prop :=
  ∃ edition, progress.phase = .drew edition ∧ snapshot.revision = edition.revision ∧
    (progress.isRegular → snapshot.IsReadable)

theorem conforms_gather {space : String} :
    (Reload.gather space).Conforms (conduct settings) (fun _ => True) Gathered
      (conduct settings).start := by
  have reading : Operation.current.Conforms (conduct settings) (fun _ => True) (fun _ _ => True)
      (conduct settings).start :=
    Operation.conforms_request (fun _ => .inl rfl) fun _ => trivial
  refine reading.bind fun current first _ => ?_
  have fetching : (Operation.call (.fetchSnapshot Snapshot.publishedName)).Conforms (conduct settings)
      (fun _ => True) (fun _ _ => True) first :=
    Operation.conforms_call (fun _ => rfl) (fun _ => trivial) fun _ => trivial
  refine fetching.bind fun published second _ => ?_
  refine (conforms_loadRecords (fun _ _ _ _ => trivial) rfl).bind fun groups third _ => ?_
  refine (conforms_loadRecords (fun _ _ _ _ => trivial) rfl).bind fun roles fourth _ => ?_
  refine (conforms_loadRecords (fun _ _ => Permission.isReadable_of_decoder) rfl).bind
    fun permissions fifth loaded => ?_
  have drawing : (Operation.request .edition).Conforms (conduct settings) (fun _ => True)
      (fun edition reached => reached.phase = .drew edition ∧ reached.isRegular = fifth.isRegular)
      fifth :=
    Operation.conforms_request (fun _ => trivial) fun _ => ⟨rfl, rfl⟩
  refine drawing.bind fun edition last drew => Operation.conforms_pure ?_
  refine ⟨edition, drew.1, rfl, fun regular => ?_⟩
  exact Snapshot.isReadable_build (Snapshot.generationAfter_lt ..) (loaded.2 (drew.2 ▸ regular))

theorem conforms_finish (held : progress.phase = .holds document)
    (decoded : progress.isRegular → Snapshot.decoder document = .ok snapshot) :
    (Reload.finish snapshot).Conforms (conduct settings) (fun _ => True) (fun _ _ => True)
      progress := by
  refine Operation.conforms_request_bind ⟨fun regular => ⟨document, held, decoded regular⟩, fun _ => rfl⟩
    fun _ => ?_
  refine Operation.conforms_request_bind (ignores (fun _ => trivial) fun _ => rfl) fun _ => ?_
  refine Operation.conforms_request_bind (ignores (fun _ => trivial) fun _ => rfl) fun cleared => ?_
  cases cleared with
  | ok _ => exact Operation.conforms_pure trivial
  | error error =>
      refine Operation.conforms_request_bind (ignores (fun _ => trivial) fun _ => rfl) fun _ => ?_
      exact Operation.conforms_pure trivial

theorem conforms_establish (gathered : Gathered snapshot progress) :
    (Reload.establish snapshot).Conforms (conduct settings) (fun _ => True) (fun _ _ => True)
      progress := by
  obtain ⟨edition, drew, revision, readable⟩ := gathered
  refine Operation.conforms_call_bind (ignores (fun _ => trivial) fun _ => rfl) trivial fun _ => ?_
  have persisting : (Operation.call (.persistSnapshot Snapshot.publishedName
      snapshot.document)).Conforms (conduct settings) (fun _ => True)
      (fun _ reached => reached.phase = .holds snapshot.document ∧
        reached.isRegular = progress.isRegular) progress :=
    Operation.conforms_call
      (fun regular => ⟨rfl, edition, snapshot, drew, rfl, revision, readable regular⟩)
      (fun _ => trivial) fun _ => ⟨rfl, rfl⟩
  refine persisting.bind fun _ reached held => conforms_finish held.1 fun regular => ?_
  exact (readable (held.2 ▸ regular)).decoder_document

theorem conforms_reload {space : String} :
    (reload space).Conforms (conduct settings) (fun _ => True) (fun _ _ => True)
      (conduct settings).start := by
  rw [Reload.reload_eq]
  refine Operation.conforms_exclusively (fun _ => trivial) ?_
  have inside : (Reload.gather space >>= Reload.establish).Conforms (conduct settings)
      (fun _ => True) (fun _ _ => True) (conduct settings).start :=
    conforms_gather.bind fun _ _ => conforms_establish
  exact inside.mono (fun _ _ => ⟨fun _ => trivial, trivial⟩) fun _ _ _ => ⟨fun _ => trivial, trivial⟩

/-! ## All errands -/

/-- Errands conform to the conduct of errands and end as errands end. -/
theorem conforms_of_isErrand {errand : Program Outcome} (isErrand : IsErrand settings errand) :
    errand.Conforms (conduct settings) (Concludes settings) (conduct settings).start := by
  cases isErrand with
  | reload => exact Program.Conforms.map (Program.Conforms.mono conforms_reload fun _ _ _ => trivial)
  | adopt => exact Program.Conforms.map (Program.Conforms.mono conforms_adopt fun _ _ _ => trivial)
  | resolve name =>
      refine Program.Conforms.map (Program.Conforms.mono conforms_load fun answer reached ended => ?_)
      cases answer with
      | error error => trivial
      | ok principal => exact ended

end Errand

end AccessControl
