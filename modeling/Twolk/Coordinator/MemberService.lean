/-
  Twolk.Coordinator.MemberService
  ───────────────────────────────
  `member-service.ts`: member records, and the mesh of transports a new
  member starts.

  `onAddMemberRequest` runs in three stretches: the request, the
  continuation of the router promise (`resumeAddMember`: the member is
  added, its producer requested, the publisher acked), and the continuation
  of the producer promise (`allocateConsumers`: one consumer transport in
  each direction with every other member).
-/
import Twolk.Coordinator.SpaceService
import Twolk.Coordinator.TransportAllocator

namespace Twolk.Coordinator.MemberService

open Twolk.Lib

variable {κ : Type}

/-- `add(data, initialState, space)`: the new member is the one numbered
`c.memberIdGen`. -/
def add (c : Coord κ) (data : MemberData) (initialState : MemberState)
    (uuid : Uuid) : Coord κ :=
  let id := c.memberIdGen
  { c with
    memberIdGen := id + 1
    memberHeap := c.memberHeap.set id
      { owningSpace := uuid, data, state := initialState, producer := none,
        memberToConsumerMap := ∅ }
    -- the registry and the space hold the same object
    members := JsSet.add c.members id
    spaces := c.spaces.modify uuid fun s =>
      { s with members := JsSet.add s.members id }
    out := c.out ++ [.memberAdded id] }

/-- `remove(id)` for a member whose record is `member`. -/
def remove (c : Coord κ) (id : MemberId) (member : Member) : Coord κ :=
  { c with
    spaces := c.spaces.modify member.owningSpace fun s =>
      { s with members := s.members.delete id }
    members := c.members.delete id }

/-- One round of the `forEach` over the members: `other` consumes the new
member, and the new member consumes `other` once it has a producer. -/
def allocatePair (router : RouterId) (newMember : MemberId)
    (source : TransportId) (c : Coord κ) (other : MemberId) : Coord κ :=
  if other = newMember then c
  else
    let c := TransportAllocator.allocate c router other (some source)
    -- read after the first `allocate`, which leaves `producer` alone
    match (c.memberHeap.get? other).bind Member.producer with
    | none => c
    | some producer =>
        TransportAllocator.allocate c router newMember (some producer)

/-- The continuation of the producer promise of transport `id`. -/
def allocateConsumers (c : Coord κ) (id : TransportId) : Coord κ :=
  match c.transportHeap.get? id with
  | none => c
  | some t =>
      -- `newMember.producer = newMemberTransport`
      let c := { c with
        memberHeap := c.memberHeap.modify t.owningMember fun m =>
          { m with producer := some id } }
      let c := c.emit (.consumersAllocated t.owningMember)
      match (c.memberHeap.get? t.owningMember).bind fun m =>
          c.spaces.get? m.owningSpace with
      | none => c
      | some space =>
          -- whether the new member is still in the space is not checked
          space.members.keys.foldl
            (allocatePair t.owningRouter t.owningMember id) c

/-- Drop the records of a member's consumer transports.  `none` when the
loop meets an `undefined` entry, with what it had dropped before. -/
def removeConsumers : Coord κ → List (Option TransportId) → Coord κ × Bool
  | c, [] => (c, true)
  | c, some id :: rest => removeConsumers (TransportAllocator.remove c id) rest
  | c, none :: _ => (c, false)

section Handlers

variable [Callback κ]

/-- `onAddMemberRequest` up to the router promise. -/
def onAddMemberRequest (c : Coord κ) (serverId : ServerId)
    (spaceUuid : Uuid) (memberData : MemberData) (memberState : MemberState)
    (cb : κ) : Coord κ :=
  if SpaceService.isSubscribed c serverId spaceUuid then
    match c.spaces.get? spaceUuid with
    | none => c.nackSync cb "space not found"
    | some space =>
        RouterAllocator.allocate c spaceUuid space
          (.addMember spaceUuid memberData memberState cb)
  else c.nackSync cb "signaling server not subscribed to space"

/-- The `.then` body of `onAddMemberRequest`. -/
def resumeAddMember (c : Coord κ) (spaceUuid : Uuid)
    (memberData : MemberData) (memberState : MemberState) (cb : κ)
    (router : RouterId) : Coord κ :=
  let id := c.memberIdGen
  let c := add c memberData memberState spaceUuid
  let c := TransportAllocator.allocate c router id none
  c.ackThen cb (.addMember id) ("failed to allocate router: " ++ ·)

/-- `onRemoveMemberRequest`. -/
def onRemoveMemberRequest (c : Coord κ) (id : MemberId) (cb : κ) : Coord κ :=
  if c.members.has id then
    match c.memberHeap.get? id with
    | none => c
    | some member =>
        let c := match member.producer with
          | none => c
          | some producer => TransportAllocator.remove c producer
        match removeConsumers c
            (member.memberToConsumerMap.entries.map Prod.snd) with
        -- the handler throws: the member stays and nobody is answered
        | (c, false) => c.emit
            (.thrown "Cannot read properties of undefined (reading 'id')")
        | (c, true) =>
            let c := remove c id member
            let c := SpaceService.notifyMemberLeft c member.owningSpace
            c.ackSync cb .void
  else c.nackSync cb "member not found"

end Handlers

end Twolk.Coordinator.MemberService
