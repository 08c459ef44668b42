import AccessControl.Event

/-!
# Programs

What a node does is described as a program: a tree of requests, each with the way to go on for
every answer.  A request asks for the node's own snapshot or lock, for the identity of a new
snapshot, or for a call to one of the stores that the node works with.  Programs do nothing by
themselves; they are carried out one request at a time, so that the programs of several nodes can
be interleaved between any two requests.
-/

namespace AccessControl

/-- A call to one of the stores that a node works with: the entries, the published snapshots, and
the cache of resolved permissions. -/
inductive StoreCall where
  /-- The active entries of one type at a subpath. -/
  | loadActiveEntries (space subpath : String) (type : ResourceType)
  | findUser (locator : Locator)
  | findEntry (locator : Locator)
  /-- Make ready what searches in published permissions need. -/
  | prepareIndex
  | persistSnapshot (name : String) (document : Json)
  | fetchSnapshot (name : String)
  | cacheGet (revision : Uuid) (user : String)
  | cachePut (revision : Uuid) (user : String) (grants : Grants) (seconds : Nat)
  | cacheClear

/-- What a call answers when it succeeds. -/
abbrev StoreCall.Answer : StoreCall → Type
  | .loadActiveEntries .. => List ListedEntry
  | .findUser _ => Option User
  | .findEntry _ => Option Entry
  | .prepareIndex => Unit
  | .persistSnapshot .. => Unit
  | .fetchSnapshot _ => Option Json
  | .cacheGet .. => Option Grants
  | .cachePut .. => Unit
  | .cacheClear => Unit

/-- The kinds of calls. -/
inductive CallKind where
  | loadActiveEntries | findUser | findEntry | prepareIndex | persistSnapshot | fetchSnapshot
  | cacheGet | cachePut | cacheClear
  deriving DecidableEq, Repr

/-- The kind of a call. -/
def StoreCall.kind : StoreCall → CallKind
  | .loadActiveEntries .. => .loadActiveEntries
  | .findUser _ => .findUser
  | .findEntry _ => .findEntry
  | .prepareIndex => .prepareIndex
  | .persistSnapshot .. => .persistSnapshot
  | .fetchSnapshot _ => .fetchSnapshot
  | .cacheGet .. => .cacheGet
  | .cachePut .. => .cachePut
  | .cacheClear => .cacheClear

/-- One thing that a program asks for. -/
inductive Request where
  /-- The node's current snapshot. -/
  | current
  /-- Make a snapshot the current one. -/
  | install (snapshot : Snapshot)
  /-- Wait until no other program of the node holds its lock, and take it. -/
  | lock
  | unlock
  /-- The identity of a new snapshot. -/
  | edition
  /-- Tell of an event. -/
  | note (event : Event)
  | call (storeCall : StoreCall)

/-- What a request is answered with. -/
abbrev Request.Answer : Request → Type
  | .current => Snapshot
  | .install _ => Unit
  | .lock => Unit
  | .unlock => Unit
  | .edition => Edition
  | .note _ => Unit
  | .call storeCall => Except ServiceError storeCall.Answer

/-- A program with a result. -/
inductive Program (α : Type) : Type where
  | done (result : α)
  | ask (request : Request) (next : request.Answer → Program α)

namespace Program

variable {α β : Type}

/-- One program after another that depends on its result. -/
def bind : Program α → (α → Program β) → Program β
  | .done result, next => next result
  | .ask request more, next => .ask request fun answer => (more answer).bind next

instance : Monad Program where
  pure := .done
  bind := bind

instance : LawfulMonad Program := LawfulMonad.mk' Program
  (fun program => by
    induction program with
    | done => rfl
    | ask request next ih => exact congrArg (Program.ask request) (funext ih))
  (fun _ _ => rfl)
  (fun program f g => by
    induction program with
    | done => rfl
    | ask request next ih => exact congrArg (Program.ask request) (funext ih))

/-- The program of a single request. -/
def request (request : Request) : Program request.Answer := .ask request .done

/-- Carries out a program, each request by the given step on a state. -/
def run {σ : Type} (step : (request : Request) → σ → request.Answer × σ) :
    Program α → σ → α × σ
  | .done result, state => (result, state)
  | .ask request next, state =>
    let (answer, state) := step request state
    (next answer).run step state

/-- Carrying out one program after another is carrying out both in turn. -/
theorem run_bind {σ : Type} (step : (request : Request) → σ → request.Answer × σ)
    (program : Program α) (next : α → Program β) (state : σ) :
    (program >>= next).run step state =
      (next (program.run step state).1).run step (program.run step state).2 := by
  induction program generalizing state with
  | done => rfl
  | ask request more ih => exact ih _ _

end Program

/-- A program that may end in an error. -/
abbrev Operation := ExceptT ServiceError Program

namespace Operation

variable {α : Type}

/-- A request that is always answered. -/
def request (request : Request) : Operation request.Answer :=
  ExceptT.lift (Program.request request)

/-- A call to a store; its error ends the operation. -/
def call (storeCall : StoreCall) : Operation storeCall.Answer :=
  ExceptT.mk (Program.request (.call storeCall))

/-- A call to a store, with its error as a result. -/
def attempt (storeCall : StoreCall) :
    Operation (Except ServiceError storeCall.Answer) :=
  request (.call storeCall)

/-- The node's current snapshot. -/
def current : Operation Snapshot := request .current

/-- Makes a snapshot the current one. -/
def install (snapshot : Snapshot) : Operation Unit := request (.install snapshot)

/-- Tells of an event. -/
def note (event : Event) : Operation Unit := request (.note event)

/-- Tells of some events. -/
def notes : List Event → Operation Unit
  | [] => pure ()
  | event :: rest => do
    note event
    notes rest

/-- An operation while holding the node's lock, which is given back however it ends. -/
def exclusively (operation : Operation α) : Operation α :=
  ExceptT.mk do
    Program.request .lock
    let result ← operation.run
    Program.request .unlock
    return result

end Operation

end AccessControl
