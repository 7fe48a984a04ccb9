/-
  Twolk.Coordinator.TransportAllocator
  ────────────────────────────────────
  `transport-allocator.ts`: transport records, the worker requests that
  allocate them, and the `C:transportParamsEvent` a fulfilled request
  publishes.

  The promise of a producer transport is awaited by `onAddMemberRequest`;
  the promise of a consumer transport only logs its failure, so nothing is
  recorded for it.
-/
import Twolk.Coordinator.State

namespace Twolk.Coordinator.TransportAllocator

open Twolk.Lib

variable {κ : Type}

/-- `hasSpaceSubscribers`, i.e. `SpaceService.hasSubscribers`. -/
def hasSpaceSubscribers (c : Coord κ) (uuid : Uuid) : Bool :=
  c.spaceToSubscribedMap.has uuid

/-- Record a transport and request it from the worker of `router`. -/
def request (c : Coord κ) (router : RouterId) (member : MemberId)
    (consumesFromTransportId : Option TransportId) : Coord κ :=
  let id := c.transportIdGen
  { c with
    transportIdGen := id + 1
    transportHeap := c.transportHeap.set id
      { owningMember := member, owningRouter := router,
        consumesFromTransportId, status := .unallocated, options := none }
    transports := JsSet.add c.transports id
    routerHeap := c.routerHeap.modify router fun r =>
      { r with transports := JsSet.add r.transports id }
    memberHeap :=
      -- only a producer transport is tracked as the member's producer
      if consumesFromTransportId.isNone then
        c.memberHeap.modify member fun m => { m with producer := some id }
      else c.memberHeap
    transportRequests := JsSet.add c.transportRequests id
    out := c.out ++
      [.newWebRtcTransportRequest router id consumesFromTransportId.isNone] }

/-- `allocate(router, member, consumesFromTransportId)`. -/
def allocate (c : Coord κ) (router : RouterId) (member : MemberId)
    (consumesFromTransportId : Option TransportId) : Coord κ :=
  match consumesFromTransportId with
  | none => request c router member none
  | some source =>
      -- "producing transport not found": the caller only logs it
      if c.transports.has source then request c router member (some source)
      else c

/-- `get(id)`: the transport registered under `id`. -/
def get (c : Coord κ) (id : TransportId) : Option Transport :=
  if c.transports.has id then c.transportHeap.get? id else none

/-- Publish `C:transportParamsEvent` for transport `t` when any server is
subscribed to its space. -/
def publishParams (c : Coord κ) (t : Transport) (options : Json) : Coord κ :=
  match c.routerHeap.get? t.owningRouter with
  | none => c
  | some router =>
      if hasSpaceSubscribers c router.owningSpace then
        c.emit (.spaceUpdate router.owningSpace (.transportParamsEvent
          t.owningMember
          ((t.consumesFromTransportId.bind (get c)).map
            Transport.owningMember)
          options))
      else c

/-- The worker acks `newWebRtcTransportRequest` for transport `id`.  When
the producing transport is gone, the callback throws after the status was
written, and the promise is rejected. -/
def onTransportAck (c : Coord κ) (id : TransportId) (options : Json) :
    Coord κ :=
  match c.transportHeap.get? id with
  | none => c
  | some t =>
      let c := { c with
        transportRequests := c.transportRequests.delete id
        transportHeap := c.transportHeap.modify id fun t =>
          { t with status := .allocated, options := some options }
        out := c.out ++ [.transportAllocated id] }
      match t.consumesFromTransportId with
      | none => publishParams (c.defer (.producerAllocated id)) t options
      | some source =>
          match get c source with
          -- `producerTransport.owningMember` of `undefined` throws
          | none => c
          | some producer =>
              -- `this.transports.get(id)!` of a transport removed meanwhile
              let entry := if c.transports.has id then some id else none
              let c := { c with
                memberHeap := c.memberHeap.modify t.owningMember fun m =>
                  { m with
                    memberToConsumerMap :=
                      m.memberToConsumerMap.set producer.owningMember entry } }
              publishParams c t options

/-- The worker nacks `newWebRtcTransportRequest` for transport `id`; both
kinds of caller only log the failure. -/
def onTransportNack (c : Coord κ) (id : TransportId) : Coord κ :=
  { c with transportRequests := c.transportRequests.delete id }

/-- `remove(transportId)`. -/
def remove (c : Coord κ) (id : TransportId) : Coord κ :=
  { c with transports := c.transports.delete id }

end Twolk.Coordinator.TransportAllocator
