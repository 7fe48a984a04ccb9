/-
  Twolk.Coordinator.ChannelPreAllocator
  ─────────────────────────────────────
  `channel-pre-allocator.ts`: the signaling servers a client may be sent to,
  and the join preflight of `coordinator.ts`.
-/
import Twolk.Coordinator.State

namespace Twolk.Coordinator

open Twolk.Lib

variable {κ : Type}

namespace ChannelPreAllocator

/-- `onServerConnected(serverId, serverUrl)`. -/
def onServerConnected (c : Coord κ) (serverId : ServerId)
    (serverUrl : String) : Coord κ :=
  { c with servers := c.servers ++ [⟨serverId, serverUrl⟩] }

/-- `onServerDisconnected(serverId)`. -/
def onServerDisconnected (c : Coord κ) (serverId : ServerId) : Coord κ :=
  { c with servers := c.servers.filter (·.id ≠ serverId) }

/-- `allocate()`: the URL of the selected server, and the strategy after
the pick. -/
def allocate (c : Coord κ) : Except String (String × RoundRobinStrategy) :=
  match c.serverStrategy.pick (c.servers.map ServerEntry.id) with
  | .error e => .error e
  | .ok (chosen, strategy) =>
      match c.servers.find? (·.id = chosen) with
      -- `this._servers.find(..)!.url`
      | none => .error "Cannot read properties of undefined (reading 'url')"
      | some s => .ok (s.url, strategy)

end ChannelPreAllocator

/-- `onTryJoinSpaceRequest`.  The ack stands inside the `try`, so what it
throws is answered with a nack. -/
def onTryJoinSpaceRequest [Callback κ] (c : Coord κ) (spaceUuid : Uuid)
    (cb : κ) : Coord κ :=
  match c.spaces.get? spaceUuid with
  | none => c.nackSync cb "space not found or not joinable"
  | some space =>
      -- a space that has ended is as good as unknown
      if space.status = .ended then
        c.nackSync cb "space not found or not joinable"
      else
        match ChannelPreAllocator.allocate c with
        | .error e => c.nackSync cb e
        | .ok (serverUrl, strategy) =>
            let c := { c with serverStrategy := strategy }.emit
              (.ack cb (.tryJoinSpace serverUrl))
            -- the callback is called inside the `try`, so that what it throws
            -- is nacked to the same request
            match Callback.ackThrows cb with
            | none => c
            | some e => c.nackSync cb e

end Twolk.Coordinator
