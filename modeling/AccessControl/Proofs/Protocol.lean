import AccessControl.Program

/-!
# Protocols

A protocol says what a program may ask for, by what it asked before and how it was answered.
Whether a program conforms to a protocol is seen from the program alone, so it holds whatever the
program is answered and whatever else happens between its requests.
-/

namespace AccessControl

variable {σ α β : Type}

/-- What programs may ask for, depending on a state that changes with each answer. -/
structure Protocol (σ : Type) where
  start : σ
  allows : σ → Request → Prop
  next : σ → (request : Request) → request.Answer → σ

/-- A request that a protocol allows in a state and does not leave the state for. -/
structure Protocol.Ignores (protocol : Protocol σ) (state : σ) (request : Request) : Prop where
  allowed : protocol.allows state request
  same : ∀ answer, protocol.next state request answer = state

/-- Whether a protocol makes programs give the lock back before they take it again, so that they hold
it in some of its states. -/
structure Protocol.Brackets (protocol : Protocol σ) (holds : σ → Prop) : Prop where
  start : ¬ holds protocol.start
  lock : ∀ state, holds (protocol.next state .lock ())
  unlock : ∀ state, protocol.allows state .unlock →
    holds state ∧ ¬ holds (protocol.next state .unlock ())
  other : ∀ state (request : Request) answer, protocol.allows state request → request ≠ .lock →
    request ≠ .unlock → (holds (protocol.next state request answer) ↔ holds state)

/-- Whether a program asks only for what a protocol allows from a state on, and ends with a result
and a state of a kind. -/
def Program.Conforms (protocol : Protocol σ) (ends : α → σ → Prop) : Program α → σ → Prop
  | .done result, state => ends result state
  | .ask request more, state =>
    protocol.allows state request ∧
      ∀ answer, (more answer).Conforms protocol ends (protocol.next state request answer)

namespace Program

variable {protocol : Protocol σ} {program : Program α} {state : σ} {ends : α → σ → Prop}

theorem Conforms.bind {next : α → Program β} {later : β → σ → Prop}
    (first : program.Conforms protocol ends state)
    (second : ∀ result reached, ends result reached →
      (next result).Conforms protocol later reached) :
    (program >>= next).Conforms protocol later state := by
  induction program generalizing state with
  | done result => exact second result state first
  | ask request more ih => exact ⟨first.1, fun answer => ih answer (first.2 answer)⟩

/-- What is made of the result does not matter to what is asked for. -/
theorem Conforms.map {f : α → β} {later : β → σ → Prop}
    (conforms : program.Conforms protocol (fun result reached => later (f result) reached) state) :
    (f <$> program).Conforms protocol later state := by
  rw [map_eq_pure_bind]
  exact conforms.bind fun _ _ ended => ended

theorem Conforms.mono {weaker : α → σ → Prop} (conforms : program.Conforms protocol ends state)
    (weakens : ∀ result reached, ends result reached → weaker result reached) :
    program.Conforms protocol weaker state := by
  induction program generalizing state with
  | done result => exact weakens result state conforms
  | ask request more ih => exact ⟨conforms.1, fun answer => ih answer (conforms.2 answer)⟩

end Program

namespace Operation

variable {protocol : Protocol σ} {operation : Operation α} {state : σ} {fails : σ → Prop}
  {ends : α → σ → Prop}

/-- The ends of an operation: in a result and a state of a kind, or with an error in a state of a
kind. -/
def Ends (fails : σ → Prop) (ends : α → σ → Prop) : Except ServiceError α → σ → Prop
  | .ok value, reached => ends value reached
  | .error _, reached => fails reached

/-- Whether an operation asks only for what a protocol allows from a state on, and ends with a result
and a state of a kind, or with an error in a state of a kind. -/
def Conforms (protocol : Protocol σ) (fails : σ → Prop) (ends : α → σ → Prop)
    (operation : Operation α) (state : σ) : Prop :=
  operation.run.Conforms protocol (Ends fails ends) state

theorem conforms_pure {value : α} (ended : ends value state) :
    (pure value : Operation α).Conforms protocol fails ends state :=
  ended

theorem conforms_ofExcept {result : Except ServiceError α} (failed : fails state)
    (ended : ∀ value, result = .ok value → ends value state) :
    (MonadExcept.ofExcept result : Operation α).Conforms protocol fails ends state := by
  cases result with
  | error error => exact failed
  | ok value => exact ended value rfl

theorem conforms_request {request : Request} {ends : request.Answer → σ → Prop}
    (allowed : protocol.allows state request)
    (ended : ∀ answer, ends answer (protocol.next state request answer)) :
    (Operation.request request).Conforms protocol fails ends state :=
  ⟨allowed, ended⟩

theorem conforms_call {storeCall : StoreCall} {ends : storeCall.Answer → σ → Prop}
    (allowed : protocol.allows state (.call storeCall))
    (failed : ∀ error, fails (protocol.next state (.call storeCall) (.error error)))
    (ended : ∀ answer, ends answer (protocol.next state (.call storeCall) (.ok answer))) :
    (Operation.call storeCall).Conforms protocol fails ends state := by
  refine ⟨allowed, fun answer => ?_⟩
  cases answer with
  | error error => exact failed error
  | ok answer => exact ended answer

theorem Conforms.bind {next : α → Operation β} {later : β → σ → Prop}
    (first : operation.Conforms protocol fails ends state)
    (second : ∀ value reached, ends value reached →
      (next value).Conforms protocol fails later reached) :
    (operation >>= next).Conforms protocol fails later state := by
  rw [Conforms, ExceptT.run_bind]
  refine Program.Conforms.bind first fun answer reached ended => ?_
  cases answer with
  | error error => exact ended
  | ok value => exact second value reached ended

theorem Conforms.mono {weakly : σ → Prop} {weaker : α → σ → Prop}
    (conforms : operation.Conforms protocol fails ends state)
    (weakensFails : ∀ reached, fails reached → weakly reached)
    (weakens : ∀ value reached, ends value reached → weaker value reached) :
    operation.Conforms protocol weakly weaker state := by
  refine Program.Conforms.mono conforms fun answer reached ended => ?_
  cases answer with
  | error error => exact weakensFails reached ended
  | ok value => exact weakens value reached ended

/-- What a protocol ignores may be asked for before anything else. -/
theorem conforms_request_bind {request : Request} {next : request.Answer → Operation β}
    {later : β → σ → Prop} (ignored : protocol.Ignores state request)
    (second : ∀ answer, (next answer).Conforms protocol fails later state) :
    (Operation.request request >>= next).Conforms protocol fails later state := by
  have asked : (Operation.request request).Conforms protocol fails
      (fun _ reached => reached = state) state :=
    conforms_request ignored.allowed ignored.same
  refine asked.bind ?_
  rintro answer _ rfl
  exact second answer

/-- What a protocol ignores may be called before anything else. -/
theorem conforms_call_bind {storeCall : StoreCall} {next : storeCall.Answer → Operation β}
    {later : β → σ → Prop} (ignored : protocol.Ignores state (.call storeCall))
    (failed : fails state)
    (second : ∀ answer, (next answer).Conforms protocol fails later state) :
    (Operation.call storeCall >>= next).Conforms protocol fails later state := by
  have called : (Operation.call storeCall).Conforms protocol fails
      (fun _ reached => reached = state) state :=
    conforms_call ignored.allowed (fun error => (ignored.same (.error error)).symm ▸ failed)
      fun answer => ignored.same (.ok answer)
  refine called.bind ?_
  rintro answer _ rfl
  exact second answer

/-- What an operation does while it holds the lock, it does between taking and giving it back. -/
theorem conforms_exclusively (locks : protocol.allows state .lock)
    (inside : operation.Conforms protocol
      (fun reached => protocol.allows reached .unlock ∧ fails (protocol.next reached .unlock ()))
      (fun value reached =>
        protocol.allows reached .unlock ∧ ends value (protocol.next reached .unlock ()))
      (protocol.next state .lock ())) :
    (Operation.exclusively operation).Conforms protocol fails ends state := by
  refine ⟨locks, fun _ => ?_⟩
  change Program.Conforms protocol (Ends fails ends)
    (operation.run >>= fun result => Program.request .unlock >>= fun _ => pure result)
    (protocol.next state .lock ())
  refine Program.Conforms.bind inside fun answer reached ended => ?_
  cases answer with
  | error error => exact ⟨ended.1, fun _ => ended.2⟩
  | ok value => exact ⟨ended.1, fun _ => ended.2⟩

end Operation

/-! ## Requests of a kind -/

/-- Nothing but requests of a kind, in any order. -/
def Protocol.only (allowed : Request → Prop) : Protocol Unit where
  start := ()
  allows _ := allowed
  next _ _ _ := ()

namespace Operation

/-- An operation that asks only for what is allowed. -/
structure AsksOnly (allowed : Request → Prop) (operation : Operation α) : Prop where
  conforms : operation.Conforms (.only allowed) (fun _ => True) (fun _ _ => True) ()

namespace AsksOnly

variable {operation : Operation α} {allowed : Request → Prop}

theorem pure (value : α) : (Pure.pure value : Operation α).AsksOnly allowed :=
  ⟨conforms_pure trivial⟩

theorem bind {next : α → Operation β} (first : operation.AsksOnly allowed)
    (later : ∀ value, (next value).AsksOnly allowed) : (operation >>= next).AsksOnly allowed :=
  ⟨first.conforms.bind fun value _ _ => (later value).conforms⟩

theorem request {request : Request} (isAllowed : allowed request) :
    (Operation.request request).AsksOnly allowed :=
  ⟨conforms_request isAllowed fun _ => trivial⟩

theorem call {storeCall : StoreCall} (isAllowed : allowed (.call storeCall)) :
    (Operation.call storeCall).AsksOnly allowed :=
  ⟨conforms_call isAllowed (fun _ => trivial) fun _ => trivial⟩

theorem mono {more : Request → Prop} (asks : operation.AsksOnly allowed)
    (weakens : ∀ request, allowed request → more request) : operation.AsksOnly more := by
  constructor
  have conforms := asks.conforms
  rw [Conforms] at conforms ⊢
  generalize operation.run = program at conforms ⊢
  induction program with
  | done result => exact conforms
  | ask request more ih =>
      exact ⟨weakens request conforms.1, fun answer => ih answer (conforms.2 answer)⟩

/-- An operation conforms to every protocol that always allows what it asks for. -/
theorem conforms_of_allows {protocol : Protocol σ} (asks : operation.AsksOnly allowed)
    (allows : ∀ request, allowed request → ∀ state, protocol.allows state request) (state : σ) :
    operation.Conforms protocol (fun _ => True) (fun _ _ => True) state := by
  have conforms := asks.conforms
  rw [Conforms] at conforms ⊢
  generalize operation.run = program at conforms ⊢
  induction program generalizing state with
  | done result => cases result <;> trivial
  | ask request more ih =>
      exact ⟨allows request conforms.1 state, fun answer => ih answer _ (conforms.2 answer)⟩

theorem ofExcept (result : Except ServiceError α) :
    (MonadExcept.ofExcept result : Operation α).AsksOnly allowed :=
  ⟨conforms_ofExcept trivial fun _ _ => trivial⟩

theorem notes (isAllowed : ∀ event, allowed (.note event)) (events : List Event) :
    (Operation.notes events).AsksOnly allowed := by
  induction events with
  | nil => exact pure ()
  | cons event rest ih => exact (request (isAllowed event)).bind fun _ => ih

theorem exclusively (locks : allowed .lock) (unlocks : allowed .unlock)
    (inside : operation.AsksOnly allowed) : (Operation.exclusively operation).AsksOnly allowed :=
  ⟨conforms_exclusively locks
    (inside.conforms.mono (fun _ _ => ⟨unlocks, trivial⟩) fun _ _ _ => ⟨unlocks, trivial⟩)⟩

end AsksOnly

end Operation

end AccessControl
