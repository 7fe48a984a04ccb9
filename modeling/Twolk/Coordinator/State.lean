/-
  Twolk.Coordinator.State
  ───────────────────────
  **THE COORDINATOR'S STATE** (`coordinator.ts` and its subservices).

  The coordinator is single-threaded: a bus request, a worker's answer or
  the continuation of a settled promise runs as one synchronous stretch.
  What a stretch leaves behind are promises; each is recorded as data:

    * an unanswered worker request, with the promise waiting for it
      (`routerRequests`, `transportRequests`, `updateRequests`),
    * the continuation of a settled promise, ready to run (`tasks`).

  Nothing fixes the order in which ready continuations run, so a statement
  about every run covers every delay of every continuation.

  JavaScript objects live in heaps addressed by their id; the tables of the
  subservices (`routers`, `transports`, `members`) hold ids.  An object
  outlives its table entry, as long as something refers to it.  A space is
  never deleted from the store, so the store is its heap.

  Ids come from `IIdGenerator.next()`, which promises ids unique within the
  generator's scope: a generator is the next id to be issued.
-/
import Twolk.Domain
import Twolk.Lib.JsNumber
import Twolk.Lib.Machine

namespace Twolk.Coordinator

open Twolk.Lib

/-! ## §1. `allocation-strategy.ts`. -/

/-- Stateful round-robin allocation strategy; `_counter` is a JavaScript
number. -/
structure RoundRobinStrategy where
  counter : Nat
  deriving DecidableEq, Repr

/-- Select one candidate and advance; no candidate is an error. -/
def RoundRobinStrategy.pick (s : RoundRobinStrategy) (ids : List Nat) :
    Except String (Nat × RoundRobinStrategy) :=
  match ids[s.counter % ids.length]? with
  | none => .error "no items available for allocation"
  | some id => .ok (id, ⟨JsNumber.add s.counter 1⟩)

/-! ## §2. Coordinator-side objects. -/

/-- `SpaceLifecyclePolicy`; the services construct one kind of it. -/
inductive SpaceLifecyclePolicy where
  | subscriptionDriven
  deriving DecidableEq, Repr

/-- Coordinator-side aggregate for one conferencing room. -/
structure Space where
  status : SpaceStatus
  policy : SpaceLifecyclePolicy
  primaryRouter : Option RouterId
  data : SpaceData
  members : JsSet MemberId

/-- Coordinator-side participant record.  A consumer-map value is `none`
where the source stored `undefined`. -/
structure Member where
  owningSpace : Uuid
  data : MemberData
  state : MemberState
  producer : Option TransportId
  memberToConsumerMap : JsMap MemberId (Option TransportId)

/-- Logical media router allocated to a space. -/
structure Router where
  owningSpace : Uuid
  rtpCapabilities : Option Json
  transports : JsSet TransportId

/-- Coordinator-side reference to a WebRTC transport. -/
structure Transport where
  owningMember : MemberId
  owningRouter : RouterId
  consumesFromTransportId : Option TransportId
  status : TransportStatus
  /-- `metadata.options`, set when the worker answers. -/
  options : Option Json

/-- Registered signaling server endpoint. -/
structure ServerEntry where
  id : ServerId
  url : String
  deriving DecidableEq, Repr

/-! ## §3. Promises. -/

section Promises

variable (κ : Type)

/-- What waits for the promise of `applyTransition`. -/
inductive AfterTransition where
  | subscribe (serverId : ServerId) (uuid : Uuid) (cb : κ)
  | unsubscribe (cb : κ)
  /-- `notifyMemberLeft` only logs a failure. -/
  | memberLeft
  deriving DecidableEq

/-- What waits for the promise of `RouterAllocator.allocate`. -/
inductive RouterWaiter where
  /-- `applyTransition(space, "running")`. -/
  | transition (uuid : Uuid) (k : AfterTransition κ)
  /-- `onAddMemberRequest`. -/
  | addMember (spaceUuid : Uuid) (memberData : MemberData)
      (memberState : MemberState) (cb : κ)
  deriving DecidableEq

/-- A ready continuation. -/
inductive Task where
  /-- `allocate` settled. -/
  | allocated (waiter : RouterWaiter κ) (result : Except String RouterId)
  /-- `await routerAllocator.remove(..)` in `applyTransition` returned. -/
  | routerRemoved (uuid : Uuid) (k : AfterTransition κ)
  /-- `applyTransition` settled. -/
  | transitioned (k : AfterTransition κ) (result : Except String Unit)
  /-- The promise of a producer transport was fulfilled. -/
  | producerAllocated (transport : TransportId)
  /-- A `.then` body threw; its `.catch` answers with `message`. -/
  | caught (cb : κ) (message : String)
  deriving DecidableEq

/-- An unanswered transport update, with what its callbacks captured. -/
structure UpdateRequest where
  transport : TransportId
  update : TransportUpdateC
  uuid : Uuid
  memberId : MemberId
  cb : κ

/-- What a stretch does towards the outside, and the points of the code the
statements refer to. -/
inductive Out where
  | ack (cb : κ) (resp : Response)
  | nack (cb : κ) (message : String)
  | newRouterRequest (assignedId : RouterId) (workerId : WorkerId)
  | newWebRtcTransportRequest (routerId : RouterId)
      (assignedId : TransportId) (isProducer : Bool)
  | transportUpdate (request : Nat) (id : TransportId)
      (update : TransportUpdateC) (cb : κ)
  | spaceUpdate (uuid : Uuid) (update : SpaceUpdateC)
  /-- An exception leaves the consumer and reaches the publisher. -/
  | thrown (message : String)
  | unhandledRejection (message : String)
  /-- `policy.onEnded(uuid)`. -/
  | onEnded (uuid : Uuid)
  /-- The promise of `RouterAllocator.allocate(space)` is fulfilled. -/
  | routerResolved (uuid : Uuid) (router : RouterId)
  /-- `RouterAllocator.remove` took the router out of the table. -/
  | routerRemoved (uuid : Uuid) (router : RouterId)
  /-- `space.primaryRouter = null`. -/
  | routerCleared (uuid : Uuid)
  /-- `transport.status = "allocated"`. -/
  | transportAllocated (transport : TransportId)
  /-- `MemberService.add`. -/
  | memberAdded (member : MemberId)
  /-- The consumer allocations of a new member start. -/
  | consumersAllocated (member : MemberId)
  deriving DecidableEq

/-- A signaling server hears it: an answer, or a space update. -/
def Out.heard {κ : Type} : Out κ → Bool
  | .ack .. | .nack .. | .spaceUpdate .. => true
  | _ => false

end Promises

/-! ## §4. The state. -/

/-- The state of the coordinator: the maps of its services, the objects they
refer to by id, the counters, the tasks that are ready, and what it has done in
the current stretch. -/
structure Coord (κ : Type) where
  -- SpaceService
  spaces : JsMap Uuid Space
  spaceSubscriptions : JsMap ServerId (JsSet Uuid)
  spaceToSubscribedMap : JsMap Uuid (JsSet ServerId)
  -- RouterAllocator
  workerIds : List WorkerId
  workerStrategy : RoundRobinStrategy
  routerIdGen : RouterId
  routerHeap : JsMap RouterId Router
  routers : JsSet RouterId
  routerRequests : JsMap RouterId (RouterWaiter κ)
  -- TransportAllocator
  transportIdGen : TransportId
  transportHeap : JsMap TransportId Transport
  transports : JsSet TransportId
  transportRequests : JsSet TransportId
  -- MemberService
  memberIdGen : MemberId
  memberHeap : JsMap MemberId Member
  members : JsSet MemberId
  -- SpaceUpdateDispatcher
  updateIdGen : Nat
  updateRequests : JsMap Nat (UpdateRequest κ)
  -- ChannelPreAllocator
  servers : List ServerEntry
  serverStrategy : RoundRobinStrategy
  -- promise continuations ready to run
  tasks : List (Task κ)
  -- outward effects of the current stretch
  out : List (Out κ)

namespace Coord

variable {κ : Type}

/-- The coordinator before its first event. -/
def initial : Coord κ where
  spaces := ∅
  spaceSubscriptions := ∅
  spaceToSubscribedMap := ∅
  workerIds := []
  workerStrategy := ⟨0⟩
  routerIdGen := 0
  routerHeap := ∅
  routers := ∅
  routerRequests := ∅
  transportIdGen := 0
  transportHeap := ∅
  transports := ∅
  transportRequests := ∅
  memberIdGen := 0
  memberHeap := ∅
  members := ∅
  updateIdGen := 0
  updateRequests := ∅
  servers := []
  serverStrategy := ⟨0⟩
  tasks := []
  out := []

/-- The coordinator does `o`. -/
def emit (c : Coord κ) (o : Out κ) : Coord κ := { c with out := c.out ++ [o] }

/-- Make a continuation ready. -/
def defer (c : Coord κ) (t : Task κ) : Coord κ :=
  { c with tasks := c.tasks ++ [t] }

/-- Nothing is under way: no unanswered worker request, no continuation. -/
def quiescent (c : Coord κ) : Prop :=
  c.routerRequests.keys = [] ∧ c.transportRequests.keys = [] ∧
    c.updateRequests.keys = [] ∧ c.tasks = []

instance (c : Coord κ) : Decidable c.quiescent :=
  inferInstanceAs (Decidable (_ ∧ _))

/-- The status of a space, as a reader of the store sees it. -/
def statusOf (c : Coord κ) (uuid : Uuid) : Option SpaceStatus :=
  (c.spaces.get? uuid).map Space.status

/-! ## §5. Answering a publisher. -/

section Answer

variable [Callback κ]

/-- `ack(resp)` called by a consumer while `publish` runs. -/
def ackSync (c : Coord κ) (cb : κ) (resp : Response) : Coord κ :=
  let c := c.emit (.ack cb resp)
  match Callback.ackThrows cb with
  | none => c
  | some e => c.emit (.thrown e)

/-- `nack(new Error(message))` called by a consumer while `publish` runs. -/
def nackSync (c : Coord κ) (cb : κ) (message : String) : Coord κ :=
  let c := c.emit (.nack cb message)
  match Callback.nackThrows cb message with
  | none => c
  | some e => c.emit (.thrown e)

/-- `ack(resp)` in a `.then` body whose `.catch` answers with `wrap e`. -/
def ackThen (c : Coord κ) (cb : κ) (resp : Response)
    (wrap : String → String) : Coord κ :=
  let c := c.emit (.ack cb resp)
  match Callback.ackThrows cb with
  | none => c
  | some e => c.defer (.caught cb (wrap e))

/-- `nack(new Error(message))` in a `.then` body whose `.catch` calls
`nack` again. -/
def nackThen (c : Coord κ) (cb : κ) (message : String) : Coord κ :=
  let c := c.emit (.nack cb message)
  match Callback.nackThrows cb message with
  | none => c
  | some e => c.defer (.caught cb e)

/-- `nack(e)` in a `.catch` body: nothing catches what it throws. -/
def nackCatch (c : Coord κ) (cb : κ) (message : String) : Coord κ :=
  let c := c.emit (.nack cb message)
  match Callback.nackThrows cb message with
  | none => c
  | some e => c.emit (.unhandledRejection e)

end Answer

end Coord

end Twolk.Coordinator
