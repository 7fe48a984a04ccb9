/-
  Twolk.Signaling.Server
  ──────────────────────
  `server.ts`: the signaling server's mirror of spaces and members, and what
  it emits on the channels of its members.

  JavaScript objects again live in a heap: a mirrored space is addressed by
  its reference, `spaces` holds the reference stored under a uuid, and
  `members` the reference of `member.owningSpace`.  A space object outlives
  its entry in `spaces`.  A member object is in the members of its owning
  space, so its data and state are kept there.

  A server function that publishes returns the request; what its callbacks
  captured is a `Publisher`.
-/
import Twolk.Coordinator.Step

namespace Twolk.Signaling

open Twolk.Lib

/-! ## §1. Channels. -/

/-- `ServerToClientEvents`, with the member and space-wide events. -/
inductive ServerToClientEvent where
  | connectionSuccessful
  | connectionFailed (message : String)
  | spaceInit (receivingMemberId : MemberId) (routerRtpCapabilities : Json)
      (clientSideSpace : ClientSideSpace)
  | transportParams (memberId : MemberId) (options : Json)
  | memberJoin (member : ClientSideMember)
  | memberLeave (memberId : MemberId)
  | memberStateUpdate (memberId : MemberId) (newState : MemberState)
  | transportProducerConnectAck (cId : String)
  | transportProducerProduceAck (cId : String) (producerId : String)
  | transportConsumerConnectAck (cId : String)
  | transportConsumerConsumeAck (cId : String) (resp : TransportUpdateAck)
  | transportConsumerResumeAck (cId : String)
  | updateMemberStateAck (cId : String)
  deriving DecidableEq, Repr

/-- The client events a session forwards (`FORWARD_AND_ACK_LISTEN_EVENTS_MAP`)
with their data. -/
inductive ForwardedEvent where
  | transportProducerConnect (dtlsParameters : Json)
  | transportProducerProduce (kind rtpParameters : Json)
  | transportConsumerConnect (dtlsParameters : Json)
      (sourceMemberId : MemberId)
  | transportConsumerConsume (rtpCapabilities : Json)
      (sourceMemberId : MemberId)
  | transportConsumerResume (sourceMemberId : MemberId)
  deriving DecidableEq, Repr

/-- The `S:` update an event is forwarded as. -/
def ForwardedEvent.toUpdate (memberId : MemberId) :
    ForwardedEvent → SpaceUpdateS
  | .transportProducerConnect dtlsParameters =>
      .memberProducerConnectEvent memberId dtlsParameters
  | .transportProducerProduce kind rtpParameters =>
      .memberProducerProduceEvent memberId kind rtpParameters
  | .transportConsumerConnect dtlsParameters sourceMemberId =>
      .memberConsumerConnectEvent memberId dtlsParameters sourceMemberId
  | .transportConsumerConsume rtpCapabilities sourceMemberId =>
      .memberConsumerConsumeEvent memberId rtpCapabilities sourceMemberId
  | .transportConsumerResume sourceMemberId =>
      -- a resume carries nothing but whose track is resumed
      .memberConsumerResumeEvent memberId sourceMemberId

/-- What the session emits when the coordinator acks a forwarded event;
produce and consume require extra fields. -/
def ForwardedEvent.ackEvent (cId : String) :
    ForwardedEvent → Response → Option ServerToClientEvent
  | .transportProducerConnect _, _ => some (.transportProducerConnectAck cId)
  | .transportProducerProduce .., .spaceUpdate resp =>
      some (.transportProducerProduceAck cId resp.id)
  | .transportConsumerConnect .., _ => some (.transportConsumerConnectAck cId)
  | .transportConsumerConsume .., .spaceUpdate resp =>
      some (.transportConsumerConsumeAck cId resp)
  | .transportConsumerResume _, _ => some (.transportConsumerResumeAck cId)
  | _, _ => none

/-! ## §2. Publishers. -/

/-- The pair of callbacks a request is published with, as what it
captured. -/
inductive Publisher where
  | prepareSpace (serverId : ServerId) (session : SessionId) (uuid : Uuid)
  | prepareMember (serverId : ServerId) (session : SessionId)
      (spaceUuid : Uuid) (memberData : MemberData) (memberState : MemberState)
  | deleteMember (serverId : ServerId) (memberId : MemberId)
  | deleteSpace (serverId : ServerId) (spaceUuid : Uuid)
  | forward (serverId : ServerId) (session : SessionId)
      (event : ForwardedEvent) (cId : String)
  /-- Someone other than a signaling server. -/
  | external
  deriving DecidableEq, Repr

/-- Acks return; the nacks of the server's own requests throw. -/
instance : Callback Publisher where
  ackThrows _ := none
  nackThrows
    | .prepareSpace .., message => some ("failed to prepare space: " ++ message)
    | .prepareMember .., message =>
        some ("failed to prepare member: " ++ message)
    | .deleteMember .., message =>
        some ("failed to delete member: " ++ message)
    | .deleteSpace .., message => some ("failed to delete space: " ++ message)
    | .forward .., _ | .external, _ => none

/-- A request on the coordinator's queues. -/
abbrev Request := Coordinator.Action Publisher

/-! ## §3. The mirror. -/

/-- Signaling-server-local member mirror; its owning space holds it. -/
structure Member where
  data : MemberData
  state : MemberState
  deriving DecidableEq, Repr

/-- Signaling-server-local space mirror used for client snapshots. -/
structure Space where
  uuid : Uuid
  data : SpaceData
  members : JsMap MemberId Member
  routerRtpCapabilities : Json

/-- The reference of a mirrored space. -/
abbrev SpaceRef := Nat

/-- `channel.auth`. -/
structure Auth where
  spaceUuid : Uuid
  memberData : MemberData
  memberState : MemberState
  deriving DecidableEq, Repr

/-- Where `MemberSession.start` stands; the result of a settled promise is
read when the session resumes. -/
inductive Phase where
  /-- In `await this.server.prepareSpace(..)`. -/
  | preparingSpace (result : Option (Except String Unit))
  /-- In `await this.server.prepareMember(..)`. -/
  | preparingMember (result : Option (Except String MemberId))
  | joined
  | failed (error : String)

/-- A member session and its channel. -/
structure Session where
  auth : Auth
  isOpen : Bool
  /-- What was emitted on the channel, in order. -/
  emitted : List ServerToClientEvent
  memberId : Option MemberId
  phase : Phase
  /-- The member id the handlers of client messages captured. -/
  listening : Option MemberId
  /-- The stored space when the channel was registered. -/
  mirror : Option SpaceRef

/-- The state of a signaling server: the channels of its members, its mirrors
of spaces, and its sessions. -/
structure Server where
  memberIdToChannel : JsMap MemberId SessionId
  spaceHeap : JsMap SpaceRef Space
  spaceRefGen : SpaceRef
  spaces : JsMap Uuid SpaceRef
  members : JsMap MemberId SpaceRef
  sessions : JsMap SessionId Session
  sessionIdGen : SessionId

namespace Server

/-- A server with no channel. -/
def initial : Server where
  memberIdToChannel := ∅
  spaceHeap := ∅
  spaceRefGen := 0
  spaces := ∅
  members := ∅
  sessions := ∅
  sessionIdGen := 0

/-- `channel.emit(..)` on the channel of a session. -/
def emit (v : Server) (session : SessionId) (event : ServerToClientEvent) :
    Server :=
  { v with
    sessions := v.sessions.modify session fun x =>
      { x with emitted := x.emitted ++ [event] } }

/-- `memberIdToChannel.get(id)?.emit(..)`. -/
def emitTo (v : Server) (event : ServerToClientEvent) (id : MemberId) :
    Server :=
  match v.memberIdToChannel.get? id with
  | none => v
  | some session => v.emit session event

/-- Notify the registered channels among `ids`. -/
def broadcast (v : Server) (ids : List MemberId)
    (event : ServerToClientEvent) : Server :=
  ids.foldl (emitTo · event) v

/-- `getSpace(uuid)`: the mirror stored under `uuid`. -/
def getSpace (v : Server) (uuid : Uuid) : Option Space :=
  (v.spaces.get? uuid).bind v.spaceHeap.get?

/-- The ids of `space.members`. -/
def membersOf (v : Server) (ref : SpaceRef) : List MemberId :=
  ((v.spaceHeap.get? ref).map fun space => space.members.keys).getD []

/-- `_addSpace(..)`; the new space is the one numbered `v.spaceRefGen`. -/
def addSpace (v : Server) (uuid : Uuid) (data : SpaceData)
    (routerRtpCapabilities : Json) : Server :=
  { v with
    spaceRefGen := v.spaceRefGen + 1
    spaceHeap := v.spaceHeap.set v.spaceRefGen
      { uuid, data, members := ∅, routerRtpCapabilities }
    spaces := v.spaces.set uuid v.spaceRefGen }

/-- `_removeSpace(uuid)`. -/
def removeSpace (v : Server) (uuid : Uuid) : Server :=
  { v with spaces := v.spaces.delete uuid }

/-- `_addMember(id, space, data, initialState)`. -/
def addMember (v : Server) (id : MemberId) (space : SpaceRef)
    (data : MemberData) (initialState : MemberState) : Server :=
  { v with
    members := v.members.set id space
    spaceHeap := v.spaceHeap.modify space fun s =>
      { s with members := s.members.set id ⟨data, initialState⟩ } }

/-- `_removeMember(id)`. -/
def removeMember (v : Server) (id : MemberId) : Server :=
  match v.members.get? id with
  | none => v
  | some space =>
      { v with
        members := v.members.delete id
        spaceHeap := v.spaceHeap.modify space fun s =>
          { s with members := s.members.delete id } }

/-- `registerChannel(memberId, channel)`. -/
def registerChannel (v : Server) (memberId : MemberId)
    (session : SessionId) : Server :=
  { v with memberIdToChannel := v.memberIdToChannel.set memberId session }

/-- `unregisterChannel(memberId)`. -/
def unregisterChannel (v : Server) (memberId : MemberId) : Server :=
  { v with memberIdToChannel := v.memberIdToChannel.delete memberId }

/-- Write where a session stands. -/
def setPhase (v : Server) (session : SessionId) (phase : Phase) : Server :=
  { v with sessions := v.sessions.modify session fun x => { x with phase } }

/-- `getClientSideSpace(space)`. -/
def getClientSideSpace (space : Space) : ClientSideSpace where
  uuid := space.uuid
  data := space.data
  members := space.members.entries.map fun e => ⟨e.1, e.2.data, e.2.state⟩

/-! ## §4. Spaces. -/

/-- `prepareSpace(uuid)` called by `session`, up to its promise. -/
def prepareSpace (v : Server) (serverId : ServerId) (session : SessionId)
    (uuid : Uuid) : Server × Option Request :=
  if v.spaces.has uuid then
    (v.setPhase session (.preparingSpace (some (.ok ()))), none)
  else
    (v.setPhase session (.preparingSpace none),
      some (.subscribeToSpaceRequest serverId uuid
        (.prepareSpace serverId session uuid)))

/-- The ack of `prepareSpace`: mirror the space and its existing members. -/
def onSpacePrepared (v : Server) (session : SessionId) (uuid : Uuid)
    (clientSideSpace : ClientSideSpace) (routerRtpCapabilities : Json) :
    Server :=
  let v :=
    -- duplicate subscribe ack for a space this server already mirrors
    if v.spaces.has uuid then v
    else clientSideSpace.members.foldl
      (fun v' m => v'.addMember m.id v.spaceRefGen m.data m.state)
      (v.addSpace uuid clientSideSpace.data routerRtpCapabilities)
  v.setPhase session (.preparingSpace (some (.ok ())))

/-- `deleteSpace(spaceUuid)`; a space still not empty is an error, which its
caller only logs. -/
def deleteSpace (v : Server) (serverId : ServerId) (spaceUuid : Uuid) :
    Option Request :=
  match v.getSpace spaceUuid with
  | none => none
  | some space =>
      if space.members.size > 0 then none
      else some (.unsubscribeFromSpaceRequest serverId spaceUuid
        (.deleteSpace serverId spaceUuid))

/-! ## §5. Members. -/

/-- `prepareMember(..)` called by `session`, up to its promise. -/
def prepareMember (v : Server) (serverId : ServerId) (session : SessionId)
    (spaceUuid : Uuid) (memberData : MemberData)
    (memberState : MemberState) : Server × Option Request :=
  if v.spaces.has spaceUuid then
    (v.setPhase session (.preparingMember none),
      some (.addMemberRequest serverId spaceUuid memberData memberState
        (.prepareMember serverId session spaceUuid memberData memberState)))
  else
    (v.setPhase session (.preparingMember (some (.error "space not found"))),
      none)

/-- The ack of `prepareMember`: mirror the member and notify the other local
channels of the space. -/
def onMemberPrepared (v : Server) (session : SessionId) (spaceUuid : Uuid)
    (memberData : MemberData) (memberState : MemberState) (id : MemberId) :
    Server :=
  let v :=
    -- duplicate add-member ack for a member this server already mirrors
    if v.members.has id then v
    else match v.spaces.get? spaceUuid with
      -- late add-member ack after local space removal
      | none => v
      | some space =>
          let v := v.addMember id space memberData memberState
          v.broadcast ((v.membersOf space).filter (· ≠ id))
            (.memberJoin ⟨id, memberData, memberState⟩)
  v.setPhase session (.preparingMember (some (.ok id)))

/-- `updateMember(memberId, update)`, or `none` for "member not found". -/
def updateMember (v : Server) (memberId : MemberId)
    (update : MemberStateUpdate) : Option Server :=
  (v.members.get? memberId).bind fun space =>
    -- the registry names the space that holds the member
    ((v.spaceHeap.get? space).bind fun s => s.members.get? memberId).map
      fun member =>
        -- the broadcast carries the merged state, not the update
        let newState := member.state.merge update
        let v := { v with
          spaceHeap := v.spaceHeap.modify space fun s =>
            { s with
              members := s.members.modify memberId fun m =>
                { m with state := newState } } }
        v.broadcast (v.membersOf space) (.memberStateUpdate memberId newState)

/-- `deleteMember(memberId)`. -/
def deleteMember (v : Server) (serverId : ServerId) (memberId : MemberId) :
    Option Request :=
  if v.members.has memberId then
    some (.removeMemberRequest memberId (.deleteMember serverId memberId))
  else none

/-- The ack of `deleteMember`: remove the mirror, notify the other local
channels, and unsubscribe when no member is left in the space. -/
def onMemberDeleted (v : Server) (serverId : ServerId)
    (memberId : MemberId) : Server × Option Request :=
  match v.members.get? memberId with
  -- duplicate delete-member ack for a member already removed locally
  | none => (v, none)
  | some space =>
      let v := v.removeMember memberId
      let v := v.broadcast ((v.membersOf space).filter (· ≠ memberId))
        (.memberLeave memberId)
      match v.spaceHeap.get? space with
      | none => (v, none)
      | some s =>
          (v, if s.members.size = 0 then v.deleteSpace serverId s.uuid
            else none)

/-! ## §6. Updates of the coordinator. -/

/-- `onSpaceUpdate` for a `C:` update; the publisher ignores the answer. -/
def onSpaceUpdate (v : Server) (uuid : Uuid) :
    SpaceUpdateC → Server
  | .transportParamsEvent memberId consumesFromMemberId options =>
      if v.spaces.has uuid then
        -- own member id for producer transports, else the source member id
        v.emitTo (.transportParams (consumesFromMemberId.getD memberId)
          options) memberId
      else v
  | .producerConnectedEvent memberId =>
      if v.spaces.has uuid ∧ v.memberIdToChannel.has memberId then
        (v.updateMember memberId ⟨none, some true⟩).getD v
      else v

end Server

end Twolk.Signaling
