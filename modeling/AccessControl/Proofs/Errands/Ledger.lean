import AccessControl.Proofs.Cluster.Twins
import AccessControl.Proofs.Errands.Conduct

/-!
# Ledgers of errands

What an errand has read, fetched and installed so far is kept in a ledger.  It installs at most one
snapshot, while it holds the lock of its node, and only if the current snapshot that it has read under
the lock is not newer.  By the end, a reload that succeeds has read the current snapshot once, fetched
what is published once, and installed a snapshot that comes after both.
-/

namespace AccessControl

open Cluster

/-! ## Generations -/

theorem Decoder.lt_of_natural {bits number : Nat} {document : Json}
    (decoded : Decoder.natural bits document = .ok number) : number < Decimal.capacity bits := by
  cases document with
  | int n =>
      rw [Decoder.natural] at decoded
      split at decoded
      · next inRange =>
        cases decoded
        exact (Int.toNat_lt inRange.1).mpr inRange.2
      · cases decoded
  | _ => cases decoded

namespace Snapshot

/-- Whether a snapshot may take the place of the current one: 64 bits hold its generation, and it is
not older. -/
structure Follows (snapshot current : Snapshot) : Prop where
  counted : snapshot.generation < Decimal.capacity 64
  notOlder : current.generation < Decimal.capacity 64 → current.generation ≤ snapshot.generation

/-- No document is read as a snapshot of a generation that 64 bits do not hold. -/
theorem generation_lt_of_decoder {document : Json} {snapshot : Snapshot}
    (decoded : decoder document = .ok snapshot) : snapshot.generation < Decimal.capacity 64 := by
  obtain ⟨layout, built, -⟩ := Fields.exists_build_of_decoder decoded
  simp only [Fields.build_seq_eq_ok, Fields.build_map_eq_ok] at built
  obtain ⟨_, ⟨_, ⟨_, ⟨_, ⟨_, ⟨generation, isGeneration, rfl⟩, _, -, rfl⟩, _, -, rfl⟩, _, -, rfl⟩, _, -,
    rfl⟩, _, -, rfl⟩ := built
  obtain ⟨held, -, isNatural⟩ := Fields.exists_of_required isGeneration
  exact Decoder.lt_of_natural isNatural

theorem current_le_generationAfter {current published : Nat} (holds : current < Decimal.capacity 64) :
    current ≤ generationAfter current published := by
  rw [generationAfter, lastGeneration]
  omega

/-- The generation after two others is ahead of them, and of what came before the current one, unless
one of these is the last generation. -/
theorem lt_generationAfter_or {began current published : Nat} (later : began ≤ current)
    (holds : began < Decimal.capacity 64) (publishedHolds : published < Decimal.capacity 64) :
    max began published < generationAfter current published ∨
      max began published = lastGeneration := by
  rw [generationAfter, lastGeneration]
  omega

end Snapshot

/-! ## What requests bring about -/

namespace Request

/-- The current snapshot, if a request reads it. -/
def read? : (request : Request) → request.Answer → Option Snapshot
  | .current, snapshot => some snapshot
  | _, _ => none

/-- What is published, if a request fetches it. -/
def fetched? : (request : Request) → request.Answer → Option (Option Json)
  | .call (.fetchSnapshot _), .ok published => some published
  | _, _ => none

/-- The snapshot that a request installs, if it installs one. -/
def installed? : Request → Option Snapshot
  | .install snapshot => some snapshot
  | _ => none

/-- Whether the lock is held after a request, by whether it was held before. -/
def keepsLock (isHeld : Bool) : Request → Bool
  | .lock => true
  | .unlock => false
  | _ => isHeld

end Request

namespace Errand

/-! ## The protocol -/

/-- Whether an errand holds the lock of its node, and what it has read, fetched and installed, the
latest first. -/
structure Ledger where
  isInside : Bool := false
  read : List Snapshot := []
  fetched : List (Option Json) := []
  installed : List Snapshot := []

namespace Ledger

/-- The ledger with a request and its answer entered. -/
def enter (ledger : Ledger) (request : Request) (answer : request.Answer) : Ledger where
  isInside := request.keepsLock ledger.isInside
  read := (request.read? answer).toList ++ ledger.read
  fetched := (request.fetched? answer).toList ++ ledger.fetched
  installed := request.installed?.toList ++ ledger.installed

/-- What an errand may ask for, by its ledger: the lock before anything is read, and a snapshot to be
installed under the lock, if it follows on what was read. -/
def Allows (ledger : Ledger) : Request → Prop
  | .lock => ledger.isInside = false ∧ ledger.read = []
  | .unlock => ledger.isInside = true
  | .install snapshot => ledger.isInside = true ∧ ledger.installed = [] ∧
    ∃ current, ledger.read = [current] ∧ snapshot.Follows current
  | _ => True

end Ledger

/-- How errands take and give back the lock, and what they install under it. -/
def succession : Protocol Ledger where
  start := {}
  allows := Ledger.Allows
  next := Ledger.enter

/-- How errands end: a reload that succeeds has installed a snapshot that comes after the current one
and after the published one. -/
def Closes : Outcome → Ledger → Prop
  | .reloaded (.ok snapshot), ledger =>
    ∃ current published, ledger.read = [current] ∧ ledger.fetched = [published] ∧
      ledger.installed = [snapshot] ∧ snapshot.generation =
        Snapshot.generationAfter current.generation (Snapshot.publishedGeneration published)
  | _, _ => True

/-- The lock is held as long as the ledger says. -/
theorem brackets_succession : succession.Brackets (·.isInside = true) where
  start := Bool.false_ne_true
  lock _ := rfl
  unlock _ isInside := ⟨isInside, Bool.false_ne_true⟩
  other ledger request answer _ isNotLock isNotUnlock := by
    cases request with
    | lock => exact absurd rfl isNotLock
    | unlock => exact absurd rfl isNotUnlock
    | _ => exact Iff.rfl

namespace Ledger

variable {ledger : Ledger} {snapshot current : Snapshot} {published : Option Json}
  {settings : Settings}

/-! ## Adopting -/

theorem conforms_fetch {fails : Ledger → Prop} (failed : fails ledger) :
    (Operation.call (.fetchSnapshot Snapshot.publishedName)).Conforms succession fails
      (fun published reached => reached = { ledger with fetched := published :: ledger.fetched })
      ledger :=
  Operation.conforms_call trivial (fun _ => failed) fun _ => rfl

theorem conforms_current {fails : Ledger → Prop} :
    Operation.current.Conforms succession fails
      (fun current reached => reached = { ledger with read := current :: ledger.read }) ledger :=
  Operation.conforms_request trivial fun _ => rfl

theorem conforms_install {fails : Ledger → Prop} (follows : snapshot.Follows current) :
    (Operation.install snapshot).Conforms succession fails
      (fun _ reached => reached = ⟨true, [current], [published], [snapshot]⟩)
      ⟨true, [current], [published], []⟩ :=
  Operation.conforms_request ⟨rfl, rfl, current, rfl, follows⟩ fun _ => rfl

theorem conforms_note {event : Event} {fails : Ledger → Prop} :
    (Operation.note event).Conforms succession fails (fun _ reached => reached = ledger) ledger :=
  Operation.conforms_request trivial fun _ => rfl

/-- A snapshot is adopted after it was compared, under the lock, with the current one. -/
theorem conforms_adopt : adopt.Conforms succession (fun _ => True) (fun _ _ => True) {} := by
  apply (conforms_fetch trivial).bind
  rintro published _ rfl
  cases published with
  | none => exact Operation.conforms_pure trivial
  | some document =>
      cases decoded : Snapshot.decoder document with
      | error cause =>
          simp only [decoded]
          trivial
      | ok snapshot =>
          simp only [decoded]
          refine Operation.conforms_exclusively ⟨rfl, rfl⟩ ?_
          apply conforms_current.bind
          rintro current _ rfl
          split
          · exact Operation.conforms_pure ⟨rfl, trivial⟩
          · split
            · apply conforms_note.bind
              rintro _ _ rfl
              exact Operation.conforms_pure ⟨rfl, trivial⟩
            · next notOlder =>
              have follows : snapshot.Follows current :=
                ⟨Snapshot.generation_lt_of_decoder decoded, fun _ => Nat.le_of_not_lt notOlder⟩
              apply conforms_note.bind
              rintro _ _ rfl
              apply (conforms_install follows).bind
              rintro _ _ rfl
              exact Operation.conforms_pure ⟨rfl, trivial⟩

/-! ## Reloading -/

theorem conforms_loadRecords {α : Type} {space subpath : String} {type : ResourceType}
    {decoder : Decoder α} {isActive : α → Bool} (inside : ledger.isInside = true) :
    (Reload.loadRecords space subpath type decoder isActive).Conforms succession (·.isInside = true)
      (fun _ reached => reached = ledger) ledger :=
  Reload.conforms_loadRecords ⟨trivial, fun _ => rfl⟩ inside

theorem conforms_gather {space : String} :
    (Reload.gather space).Conforms succession (·.isInside = true)
      (fun snapshot reached => ∃ current published,
        reached = ⟨true, [current], [published], []⟩ ∧ snapshot.generation =
          Snapshot.generationAfter current.generation (Snapshot.publishedGeneration published))
      ⟨true, [], [], []⟩ := by
  apply conforms_current.bind
  rintro current _ rfl
  have fetching : (Operation.call (.fetchSnapshot Snapshot.publishedName)).Conforms succession
      (·.isInside = true) (fun published reached => reached = ⟨true, [current], [published], []⟩)
      ⟨true, [current], [], []⟩ :=
    conforms_fetch rfl
  apply fetching.bind
  rintro published _ rfl
  apply (conforms_loadRecords rfl).bind
  rintro groups _ rfl
  apply (conforms_loadRecords rfl).bind
  rintro roles _ rfl
  apply (conforms_loadRecords rfl).bind
  rintro permissions _ rfl
  apply Operation.conforms_request_bind ⟨trivial, fun _ => rfl⟩
  intro edition
  exact Operation.conforms_pure ⟨current, published, rfl, rfl⟩

theorem conforms_finish (follows : snapshot.Follows current) :
    (Reload.finish snapshot).Conforms succession (·.isInside = true)
      (fun result reached => result = snapshot ∧
        reached = ⟨true, [current], [published], [snapshot]⟩)
      ⟨true, [current], [published], []⟩ := by
  apply (conforms_install follows).bind
  rintro _ _ rfl
  apply conforms_note.bind
  rintro _ _ rfl
  apply Operation.conforms_request_bind ⟨trivial, fun _ => rfl⟩
  intro cleared
  cases cleared with
  | ok _ => exact Operation.conforms_pure ⟨rfl, rfl⟩
  | error error =>
      apply conforms_note.bind
      rintro _ _ rfl
      exact Operation.conforms_pure ⟨rfl, rfl⟩

theorem conforms_establish (follows : snapshot.Follows current) :
    (Reload.establish snapshot).Conforms succession (·.isInside = true)
      (fun result reached => result = snapshot ∧
        reached = ⟨true, [current], [published], [snapshot]⟩)
      ⟨true, [current], [published], []⟩ := by
  refine Operation.conforms_call_bind ⟨trivial, fun _ => rfl⟩ rfl fun _ => ?_
  refine Operation.conforms_call_bind ⟨trivial, fun _ => rfl⟩ rfl fun _ => ?_
  exact conforms_finish follows

/-- A reload installs what comes after the snapshot that it has read and after what it has fetched. -/
theorem conforms_reload {space : String} :
    (reload space).Conforms succession (fun _ => True)
      (fun snapshot reached => Closes (.reloaded (.ok snapshot)) reached) {} := by
  rw [Reload.reload_eq]
  refine Operation.conforms_exclusively ⟨rfl, rfl⟩ ?_
  have inside : (Reload.gather space >>= Reload.establish).Conforms succession (·.isInside = true)
      (fun snapshot reached => reached.isInside = true ∧ Closes (.reloaded (.ok snapshot)) reached)
      ⟨true, [], [], []⟩ := by
    apply conforms_gather.bind
    rintro snapshot _ ⟨current, published, rfl, isAfter⟩
    have follows : snapshot.Follows current := by
      constructor
      · rw [isAfter]
        exact Snapshot.generationAfter_lt _ _
      · intro holds
        rw [isAfter]
        exact Snapshot.current_le_generationAfter holds
    apply (conforms_establish follows).mono fun _ => id
    rintro _ _ ⟨rfl, rfl⟩
    exact ⟨rfl, current, published, rfl, rfl, rfl, isAfter⟩
  exact inside.mono (fun _ isInside => ⟨isInside, trivial⟩) fun _ _ ended => ⟨ended.1, ended.2⟩

/-! ## All errands -/

/-- Errands take turns under the lock and end as their ledgers say. -/
theorem conforms_of_isErrand {errand : Program Outcome} (isErrand : IsErrand settings errand) :
    errand.Conforms succession Closes succession.start := by
  cases isErrand with
  | reload =>
      apply Program.Conforms.map
      apply Program.Conforms.mono conforms_reload
      intro answer reached ended
      cases answer with
      | error error => trivial
      | ok snapshot => exact ended
  | adopt =>
      apply Program.Conforms.map
      exact Program.Conforms.mono conforms_adopt fun _ _ _ => trivial
  | resolve name =>
      have inquires (request : Request) (isInquiry : request.Inquires) (ledger : Ledger) :
          succession.allows ledger request := by
        cases request with
        | lock | unlock | install => exact isInquiry.elim
        | _ => trivial
      apply Program.Conforms.map
      exact Program.Conforms.mono (asksOnly_load.conforms_of_allows inquires _) fun _ _ _ => trivial

end Ledger

end Errand

end AccessControl
