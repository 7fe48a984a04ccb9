/-
  Twolk.Coordinator.Step
  ──────────────────────
  **THE COORDINATOR AS A MACHINE.**  One action is one synchronous stretch:
  a bus request, a worker coming or going, a worker's answer to an
  outstanding request, or one ready continuation — any of them, in any
  order.  A worker answers a request at most once.
-/
import Twolk.Coordinator.ChannelPreAllocator
import Twolk.Coordinator.MemberService
import Twolk.Coordinator.SpaceUpdateDispatcher

namespace Twolk.Coordinator

open Twolk.Lib

variable {κ : Type}

/-- What can happen to the coordinator next. -/
inductive Action (κ : Type) where
  /-- `uuid` is the value `randomUUID()` returns. -/
  | createSpaceRequest (uuid : Uuid) (data : SpaceData)
      (policyType : String) (cb : κ)
  | readSpaceRequest (uuid : Uuid) (cb : κ)
  | subscribeToSpaceRequest (serverId : ServerId) (uuid : Uuid) (cb : κ)
  | unsubscribeFromSpaceRequest (serverId : ServerId) (uuid : Uuid) (cb : κ)
  | addMemberRequest (serverId : ServerId) (spaceUuid : Uuid)
      (memberData : MemberData) (memberState : MemberState) (cb : κ)
  | removeMemberRequest (id : MemberId) (cb : κ)
  | spaceUpdateStream (uuid : Uuid) (update : SpaceUpdateS) (cb : κ)
  | tryJoinSpaceRequest (spaceUuid : Uuid) (cb : κ)
  | signalingServerConnected (serverId : ServerId) (serverUrl : String)
  | signalingServerDisconnected (serverId : ServerId)
  | mediaWorkerConnected (workerId : WorkerId)
  | mediaWorkerDisconnected (workerId : WorkerId)
  | routerAck (id : RouterId) (rtpCapabilities : Json)
  | routerNack (id : RouterId) (message : String)
  | transportAck (id : TransportId) (options : Json)
  | transportNack (id : TransportId) (message : String)
  | updateAck (id : Nat) (resp : TransportUpdateAck)
  | updateNack (id : Nat) (message : String)
  /-- Run the `i`-th ready continuation. -/
  | resume (i : Nat)
  deriving DecidableEq

variable [Callback κ]

/-- The continuation of `RouterAllocator.allocate`. -/
def resumeAllocated (c : Coord κ) :
    RouterWaiter κ → Except String RouterId → Coord κ
  -- `applyTransition` only awaits the router; it is the space's already
  | .transition uuid k, .ok _ => SpaceService.resumeRunning c uuid k
  | .transition _ k, .error e => SpaceService.settle c k (.error e)
  | .addMember spaceUuid memberData memberState cb, .ok router =>
      MemberService.resumeAddMember c spaceUuid memberData memberState cb
        router
  | .addMember _ _ _ cb, .error e =>
      c.nackCatch cb ("failed to allocate router: " ++ e)

/-- Run one ready continuation. -/
def resumeTask (c : Coord κ) : Task κ → Coord κ
  | .allocated waiter result => resumeAllocated c waiter result
  | .routerRemoved uuid k => SpaceService.resumeEnded c uuid k
  | .transitioned k result => SpaceService.resumeTransitioned c k result
  | .producerAllocated transport =>
      MemberService.allocateConsumers c transport
  | .caught cb message => c.nackCatch cb message

/-- One stretch, with an empty outbox at its start. -/
def Coord.act (c : Coord κ) : Action κ → Option (Coord κ)
  | .createSpaceRequest uuid data policyType cb =>
      -- `randomUUID()` returns no uuid twice
      if c.spaces.has uuid then none
      else some (SpaceService.onCreateSpaceRequest c uuid data policyType cb)
  | .readSpaceRequest uuid cb =>
      some (SpaceService.onReadSpaceRequest c uuid cb)
  | .subscribeToSpaceRequest serverId uuid cb =>
      some (SpaceService.onSubscribeToSpaceRequest c serverId uuid cb)
  | .unsubscribeFromSpaceRequest serverId uuid cb =>
      some (SpaceService.onUnsubscribeFromSpaceRequest c serverId uuid cb)
  | .addMemberRequest serverId spaceUuid memberData memberState cb =>
      some (MemberService.onAddMemberRequest c serverId spaceUuid memberData
        memberState cb)
  | .removeMemberRequest id cb =>
      some (MemberService.onRemoveMemberRequest c id cb)
  | .spaceUpdateStream uuid update cb =>
      some (SpaceUpdateDispatcher.onSpaceUpdate c uuid update cb)
  | .tryJoinSpaceRequest spaceUuid cb =>
      some (onTryJoinSpaceRequest c spaceUuid cb)
  | .signalingServerConnected serverId serverUrl =>
      some (ChannelPreAllocator.onServerConnected c serverId serverUrl)
  | .signalingServerDisconnected serverId =>
      some (ChannelPreAllocator.onServerDisconnected c serverId)
  | .mediaWorkerConnected workerId =>
      some (RouterAllocator.onMediaWorkerConnected c workerId)
  | .mediaWorkerDisconnected workerId =>
      some (RouterAllocator.onMediaWorkerDisconnected c workerId)
  -- a worker answers a request that is outstanding, and answers it once
  | .routerAck id rtpCapabilities => (c.routerRequests.get? id).map
      fun w => RouterAllocator.onRouterAck c id w rtpCapabilities
  | .routerNack id message => (c.routerRequests.get? id).map
      fun w => RouterAllocator.onRouterNack c id w message
  | .transportAck id options =>
      if c.transportRequests.has id then
        some (TransportAllocator.onTransportAck c id options)
      else none
  | .transportNack id _ =>
      if c.transportRequests.has id then
        some (TransportAllocator.onTransportNack c id)
      else none
  | .updateAck id resp => (c.updateRequests.get? id).map
      fun r => SpaceUpdateDispatcher.onUpdateAck c id r resp
  | .updateNack id message => (c.updateRequests.get? id).map
      fun r => SpaceUpdateDispatcher.onUpdateNack c id r message
  | .resume i => (c.tasks[i]?).map
      fun t => resumeTask { c with tasks := c.tasks.eraseIdx i } t

/-- The coordinator machine: started with nothing stored, observed through
its outbox. -/
def machine (κ : Type) [Callback κ] :
    Machine (Coord κ) (Action κ) (Out κ) where
  init c := c = Coord.initial
  step c a := (Coord.act { c with out := [] } a).map fun c' => (c', c'.out)

end Twolk.Coordinator
