import AccessControl.Proofs.Protocol
import AccessControl.Proofs.Reload.Run
import AccessControl.Proofs.Snapshot.Document

/-!
# When reloads publish

A reload publishes only while it holds the lock of its node, only after it has fetched what was
published, and nothing that is behind what it fetched.
-/

namespace AccessControl

open Cluster

namespace Reload

variable {σ α : Type} {managementSpace : String}

/-! ## The protocol -/

/-- How far a reload has come. -/
inductive Phase where
  /-- It does not hold the lock. -/
  | outside
  | inside
  /-- It has fetched a published generation that it is going to leave behind. -/
  | ready (fetched : Nat)

/-- Nothing is published but under the lock, after what was published has been fetched, and nothing
that is behind it. -/
def publication : Protocol Phase where
  start := .outside
  allows
    | .outside, request => request = .lock
    | .inside, request =>
      request ≠ .lock ∧ ∀ name document, request ≠ .call (.persistSnapshot name document)
    | .ready fetched, request =>
      request ≠ .lock ∧ ∀ name document, request = .call (.persistSnapshot name document) →
        fetched ≤ Snapshot.publishedGeneration (some document)
  next
    | _, .lock, _ => .inside
    | _, .unlock, _ => .outside
    | _, .call (.persistSnapshot ..), _ => .inside
    | phase, .call (.fetchSnapshot name), .ok published =>
      if name = Snapshot.publishedName then .ready (Snapshot.publishedGeneration published) else phase
    | phase, _, _ => phase

theorem next_fetchSnapshot {phase : Phase} {name : String} {published : Option Json} :
    publication.next phase (.call (.fetchSnapshot name)) (.ok published) =
      if name = Snapshot.publishedName then .ready (Snapshot.publishedGeneration published)
      else phase :=
  rfl

/-- Requests that have nothing to do with the lock and with what is published. -/
def Neutral : Request → Prop
  | .lock | .unlock | .call (.persistSnapshot ..) | .call (.fetchSnapshot _) => False
  | _ => True

theorem ignores_of_neutral {request : Request} {phase : Phase} (neutral : Neutral request)
    (inside : phase ≠ .outside) : publication.Ignores phase request := by
  have isNotLock : request ≠ .lock := by
    rintro rfl
    exact neutral
  have isNotPersist (name : String) (document : Json) :
      request ≠ .call (.persistSnapshot name document) := by
    rintro rfl
    exact neutral
  constructor
  · cases phase with
    | outside => exact absurd rfl inside
    | inside => exact ⟨isNotLock, isNotPersist⟩
    | ready fetched => exact ⟨isNotLock, fun name document is => absurd is (isNotPersist name document)⟩
  · intro answer
    cases request with
    | lock | unlock => exact neutral.elim
    | call storeCall =>
        cases storeCall with
        | persistSnapshot name document | fetchSnapshot name => exact neutral.elim
        | _ => rfl
    | _ => rfl

theorem allows_unlock {phase : Phase} (inside : phase ≠ .outside) :
    publication.allows phase .unlock := by
  cases phase with
  | outside => exact absurd rfl inside
  | inside => exact ⟨nofun, nofun⟩
  | ready fetched => exact ⟨nofun, nofun⟩

/-- The lock is held in all phases but the one outside. -/
theorem brackets_publication : publication.Brackets (· ≠ .outside) where
  start := absurd rfl
  lock _ := nofun
  unlock phase allowed := by
    refine ⟨?_, absurd rfl⟩
    rintro rfl
    cases allowed
  other phase request answer allowed isNotLock isNotUnlock := by
    have inside : phase ≠ .outside := by
      rintro rfl
      exact isNotLock allowed
    refine iff_of_true ?_ inside
    cases request with
    | lock => exact absurd rfl isNotLock
    | unlock => exact absurd rfl isNotUnlock
    | call storeCall =>
        cases storeCall with
        | persistSnapshot name document => nofun
        | fetchSnapshot name =>
            cases answer with
            | error error => exact inside
            | ok published =>
                rw [next_fetchSnapshot]
                split
                · nofun
                · exact inside
        | _ => exact inside
    | _ => exact inside

/-- What is published is not behind what the task that publishes it has fetched. -/
theorem exists_ready_of_publishes {phase : Phase} {name : String} {document : Json}
    (allowed : publication.allows phase (.call (.persistSnapshot name document))) :
    ∃ fetched, phase = .ready fetched ∧
      fetched ≤ Snapshot.publishedGeneration (some document) := by
  cases phase with
  | outside => cases allowed
  | inside => exact absurd rfl (allowed.2 name document)
  | ready fetched => exact ⟨fetched, rfl, allowed.2 name document rfl⟩

/-- How a task comes to be ready: by fetching, or by staying so. -/
theorem next_eq_ready {phase : Phase} {fetched : Nat} {request : Request} {answer : request.Answer}
    (isReady : publication.next phase request answer = .ready fetched) :
    (∃ published, Made.ofRequest? request answer =
        some ⟨.fetchSnapshot Snapshot.publishedName, .ok published⟩ ∧
        Snapshot.publishedGeneration published = fetched) ∨
      phase = .ready fetched ∧ ∀ name document, request ≠ .call (.persistSnapshot name document) := by
  cases request with
  | lock | unlock => cases isReady
  | call storeCall =>
      cases storeCall with
      | persistSnapshot name document => cases isReady
      | fetchSnapshot name =>
          cases answer with
          | error error => exact .inr ⟨isReady, nofun⟩
          | ok published =>
              rw [next_fetchSnapshot] at isReady
              split at isReady
              · next same =>
                subst same
                exact .inl ⟨published, rfl, Phase.ready.inj isReady⟩
              · exact .inr ⟨isReady, nofun⟩
      | _ => exact .inr ⟨isReady, nofun⟩
  | _ => exact .inr ⟨isReady, nofun⟩

/-! ## Reloads -/

theorem conforms_loadRecords {protocol : Protocol σ} {state : σ} {fails : σ → Prop}
    {space subpath : String} {type : ResourceType} {decoder : Decoder α} {isActive : α → Bool}
    (ignored : protocol.Ignores state (.call (.loadActiveEntries space subpath type)))
    (failed : fails state) :
    (loadRecords space subpath type decoder isActive).Conforms protocol fails
      (fun _ reached => reached = state) state :=
  Operation.conforms_call_bind ignored failed fun _ =>
    Operation.conforms_ofExcept failed fun _ _ => rfl

theorem conforms_gather : (gather managementSpace).Conforms publication (· ≠ .outside)
    (fun snapshot phase => ∃ fetched,
      phase = .ready fetched ∧ fetched ≤ Snapshot.publishedGeneration (some snapshot.document))
    .inside := by
  refine Operation.conforms_request_bind (ignores_of_neutral ⟨⟩ nofun) fun current => ?_
  have fetching : (Operation.call (.fetchSnapshot Snapshot.publishedName)).Conforms publication
      (· ≠ .outside) (fun published phase => phase = .ready (Snapshot.publishedGeneration published))
      .inside :=
    Operation.conforms_call ⟨nofun, nofun⟩ (fun _ => nofun) fun _ =>
      next_fetchSnapshot.trans (if_pos rfl)
  refine fetching.bind ?_
  rintro published _ rfl
  have ready : Phase.ready (Snapshot.publishedGeneration published) ≠ .outside := nofun
  refine (conforms_loadRecords (ignores_of_neutral ⟨⟩ ready) ready).bind ?_
  rintro groups _ rfl
  refine (conforms_loadRecords (ignores_of_neutral ⟨⟩ ready) ready).bind ?_
  rintro roles _ rfl
  refine (conforms_loadRecords (ignores_of_neutral ⟨⟩ ready) ready).bind ?_
  rintro permissions _ rfl
  refine Operation.conforms_request_bind (ignores_of_neutral ⟨⟩ ready) fun edition => ?_
  refine Operation.conforms_pure ⟨_, rfl, ?_⟩
  rw [Snapshot.publishedGeneration_document (Snapshot.generationAfter_lt ..)]
  exact Snapshot.le_generationAfter (Snapshot.publishedGeneration_lt published)

theorem conforms_finish {snapshot : Snapshot} :
    (finish snapshot).Conforms publication (· ≠ .outside) (fun _ phase => phase ≠ .outside)
      .inside := by
  refine Operation.conforms_request_bind (ignores_of_neutral ⟨⟩ nofun) fun _ => ?_
  refine Operation.conforms_request_bind (ignores_of_neutral ⟨⟩ nofun) fun _ => ?_
  refine Operation.conforms_request_bind (ignores_of_neutral ⟨⟩ nofun) fun cleared => ?_
  cases cleared with
  | ok _ => exact Operation.conforms_pure nofun
  | error error =>
      refine Operation.conforms_request_bind (ignores_of_neutral ⟨⟩ nofun) fun _ => ?_
      exact Operation.conforms_pure nofun

theorem conforms_establish {snapshot : Snapshot} {fetched : Nat}
    (notBehind : fetched ≤ Snapshot.publishedGeneration (some snapshot.document)) :
    (establish snapshot).Conforms publication (· ≠ .outside) (fun _ phase => phase ≠ .outside)
      (.ready fetched) := by
  refine Operation.conforms_call_bind (ignores_of_neutral ⟨⟩ nofun) nofun fun _ => ?_
  have persisting : (Operation.call (.persistSnapshot Snapshot.publishedName
      snapshot.document)).Conforms publication (· ≠ .outside) (fun _ phase => phase = .inside)
      (.ready fetched) := by
    refine Operation.conforms_call ⟨nofun, ?_⟩ (fun _ => nofun) fun _ => rfl
    rintro _ _ ⟨⟩
    exact notBehind
  refine persisting.bind ?_
  rintro _ _ rfl
  exact conforms_finish

/-- A reload keeps to the order of fetching and publishing. -/
theorem conforms_reload :
    (reload managementSpace).run.Conforms publication (fun _ _ => True) publication.start := by
  rw [reload_eq]
  have reloading : (Operation.exclusively (gather managementSpace >>= establish)).Conforms publication
      (fun _ => True) (fun _ _ => True) .outside := by
    have inside : (gather managementSpace >>= establish).Conforms publication (· ≠ .outside)
        (fun _ phase => phase ≠ .outside) .inside := by
      refine conforms_gather.bind ?_
      rintro snapshot _ ⟨fetched, rfl, notBehind⟩
      exact conforms_establish notBehind
    refine Operation.conforms_exclusively rfl (inside.mono ?_ ?_)
    · exact fun phase held => ⟨allows_unlock held, trivial⟩
    · exact fun _ phase held => ⟨allows_unlock held, trivial⟩
  exact Program.Conforms.mono reloading fun _ _ _ => trivial

end Reload

end AccessControl
