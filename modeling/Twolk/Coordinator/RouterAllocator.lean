/-
  Twolk.Coordinator.RouterAllocator
  ─────────────────────────────────
  `router-allocator.ts`: the coordinator's routers and the SFU workers they
  are requested from.

  `allocate` tests `space.primaryRouter`, and sets it only in the ack of the
  request it publishes.  What happens to a caller in between is the subject
  of `Twolk.Coordinator.PrimaryRouter`.
-/
import Twolk.Coordinator.State

namespace Twolk.Coordinator.RouterAllocator

open Twolk.Lib

variable {κ : Type}

/-- `bus.onMediaWorkerConnected`. -/
def onMediaWorkerConnected (c : Coord κ) (workerId : WorkerId) : Coord κ :=
  { c with workerIds := c.workerIds ++ [workerId] }

/-- `bus.onMediaWorkerDisconnected`. -/
def onMediaWorkerDisconnected (c : Coord κ) (workerId : WorkerId) :
    Coord κ :=
  { c with workerIds := c.workerIds.filter (· ≠ workerId) }

/-- Record a new router of `uuid` and request it from a worker. -/
def request (c : Coord κ) (uuid : Uuid) (workerId : WorkerId)
    (strategy : RoundRobinStrategy) (w : RouterWaiter κ) : Coord κ :=
  let id := c.routerIdGen
  { c with
    workerStrategy := strategy
    routerIdGen := id + 1
    routerHeap := c.routerHeap.set id
      { owningSpace := uuid, rtpCapabilities := none, transports := ∅ }
    routers := JsSet.add c.routers id
    routerRequests := c.routerRequests.set id w
    out := c.out ++ [.newRouterRequest id workerId] }

/-- `allocate(space)`, called by `w`. -/
def allocate (c : Coord κ) (uuid : Uuid) (space : Space)
    (w : RouterWaiter κ) : Coord κ :=
  match space.primaryRouter with
  -- the test reads `primaryRouter`, which a pending request has not set yet
  | some router =>
      (c.emit (.routerResolved uuid router)).defer (.allocated w (.ok router))
  | none =>
      if c.workerIds.length = 0 then
        c.defer (.allocated w (.error "no media workers available"))
      else
        match c.workerStrategy.pick c.workerIds with
        | .error e => c.defer (.allocated w (.error e))
        | .ok (workerId, strategy) => request c uuid workerId strategy w

/-- The worker acks `newRouterRequest` for router `id`. -/
def onRouterAck (c : Coord κ) (id : RouterId) (w : RouterWaiter κ)
    (rtpCapabilities : Json) : Coord κ :=
  match c.routerHeap.get? id with
  -- a router that is gone leaves its request waiting
  | none => c
  | some router =>
      { c with
        routerRequests := c.routerRequests.delete id
        routerHeap := c.routerHeap.modify id fun r =>
          { r with rtpCapabilities := some rtpCapabilities }
        -- the space has a primary router only from this ack on
        spaces := c.spaces.modify router.owningSpace fun s =>
          { s with primaryRouter := some id }
        -- `resolve` puts the continuation of `allocate` at the end of the
        -- queue
        tasks := c.tasks ++ [.allocated w (.ok id)]
        out := c.out ++ [.routerResolved router.owningSpace id] }

/-- The worker nacks `newRouterRequest` for router `id`.  The router record
stays in the table. -/
def onRouterNack (c : Coord κ) (id : RouterId) (w : RouterWaiter κ)
    (message : String) : Coord κ :=
  { c with
    routerRequests := c.routerRequests.delete id
    tasks := c.tasks ++
      [.allocated w (.error ("newRouterRequest nacked: " ++ message))] }

/-- `remove(routerId)`: the router and its transport records. -/
def remove (c : Coord κ) (routerId : RouterId) : Coord κ :=
  if c.routers.has routerId then
    match c.routerHeap.get? routerId with
    | none => c
    | some router =>
        -- no message tells the worker to close the router
        { c with
          transports := router.transports.keys.foldl JsMap.delete c.transports
          routers := c.routers.delete routerId
          out := c.out ++ [.routerRemoved router.owningSpace routerId] }
  else c

end Twolk.Coordinator.RouterAllocator
