/-
  Twolk.Domain
  ────────────
  **THE SHARED VOCABULARY** of `domain.ts` and `bus.ts`: identifiers, the
  records services exchange, and the payloads of the update streams.

  Media values (RTP capabilities, DTLS parameters, transport options, …) are
  third-party JSON the services hand through unread; they are carried as
  their text.  Identifiers issued by the coordinator are natural numbers.
-/
import Twolk.Lib.JsMap

namespace Twolk

open Twolk.Lib

/-! ## §1. Identifiers and opaque values. -/

/-- Space uuid; compared for equality only. -/
abbrev Uuid := String
/-- `SignalingServer` ids. -/
abbrev ServerId := Nat
/-- Media worker ids. -/
abbrev WorkerId := Nat
/-- Router ids. -/
abbrev RouterId := Nat
/-- Transport ids. -/
abbrev TransportId := Nat
/-- Member ids. -/
abbrev MemberId := Nat
/-- The number of a client channel, and of the session that owns it. -/
abbrev SessionId := Nat
/-- A media value passed through unread. -/
abbrev Json := String

/-! ## §2. `domain.ts`. -/

/-- Metadata supplied by the creator of a space. -/
structure SpaceData where
  name : String
  description : String
  deriving DecidableEq, Repr

/-- Lifecycle state of a space. -/
inductive SpaceStatus where
  | initialized
  | running
  | ended
  deriving DecidableEq, Repr

/-- Immutable data supplied by the user. -/
structure MemberData where
  name : String
  deriving DecidableEq, Repr

/-- Mutable state of a member. -/
structure MemberState where
  /-- Client-controlled mute state. -/
  isMuted : Bool
  /-- Set after the producer transport completed its connection. -/
  transportIsConnected : Bool
  deriving DecidableEq, Repr

/-- `Partial<MemberState>`: the fields an update carries. -/
structure MemberStateUpdate where
  isMuted : Option Bool
  transportIsConnected : Option Bool
  deriving DecidableEq, Repr

/-- `{ ...state, ...update }`. -/
def MemberState.merge (state : MemberState) (update : MemberStateUpdate) :
    MemberState where
  isMuted := update.isMuted.getD state.isMuted
  transportIsConnected :=
    update.transportIsConnected.getD state.transportIsConnected

/-- The update that carries every field of `state`. -/
def MemberState.toUpdate (state : MemberState) : MemberStateUpdate :=
  ⟨some state.isMuted, some state.transportIsConnected⟩

/-- A full update replaces the state. -/
@[simp] theorem MemberState.merge_toUpdate (old new : MemberState) :
    old.merge new.toUpdate = new := rfl

/-- Allocation and connection status of a WebRTC transport. -/
inductive TransportStatus where
  | unallocated
  | allocated
  | connected
  deriving DecidableEq, Repr

/-- Member projection sent to clients. -/
structure ClientSideMember where
  id : MemberId
  data : MemberData
  state : MemberState
  deriving DecidableEq, Repr

/-- Space projection sent to clients. -/
structure ClientSideSpace where
  uuid : Uuid
  data : SpaceData
  members : List ClientSideMember
  deriving DecidableEq, Repr

/-! ## §3. `bus.ts`: update streams and responses. -/

/-- `S:` space updates, forwarded by a session to the coordinator. -/
inductive SpaceUpdateS where
  | memberProducerConnectEvent (memberId : MemberId) (dtlsParameters : Json)
  | memberProducerProduceEvent (memberId : MemberId)
      (kind rtpParameters : Json)
  | memberConsumerConnectEvent (memberId : MemberId) (dtlsParameters : Json)
      (sourceMemberId : MemberId)
  | memberConsumerConsumeEvent (memberId : MemberId)
      (rtpCapabilities : Json) (sourceMemberId : MemberId)
  | memberConsumerResumeEvent (memberId : MemberId)
      (sourceMemberId : MemberId)
  deriving DecidableEq, Repr

/-- `C:` space updates, sent by the coordinator to the signaling servers. -/
inductive SpaceUpdateC where
  | transportParamsEvent (memberId : MemberId)
      (consumesFromMemberId : Option MemberId) (options : Json)
  | producerConnectedEvent (memberId : MemberId)
  deriving DecidableEq, Repr

/-- `C:` transport updates, sent by the coordinator to the SFU workers. -/
inductive TransportUpdateC where
  | transportConnectEvent (dtlsParameters : Json)
  | transportProducerProduceEvent (kind rtpParameters : Json)
  | transportConsumerConsumeEvent (rtpCapabilities : Json)
      (producingTransportId : TransportId)
  | transportConsumerResumeEvent
  deriving DecidableEq, Repr

/-- The media data of an update-stream ack. -/
structure TransportUpdateAck where
  id : String
  producerId : Option String
  kind : Option Json
  rtpParameters : Option Json
  deriving DecidableEq, Repr

/-- What a coordinator consumer passes to `ack`. -/
inductive Response where
  | createSpace (uuid : Uuid)
  | readSpace (data : SpaceData) (status : SpaceStatus)
  | subscribeToSpace (clientSideSpace : ClientSideSpace)
      (routerRtpCapabilities : Json)
  | addMember (id : MemberId)
  | spaceUpdate (resp : TransportUpdateAck)
  | tryJoinSpace (serverUrl : String)
  | void
  deriving DecidableEq, Repr

/-- How a publisher's callbacks behave: the message of the exception the
ack (the nack) callback throws, or `none` when it returns.  A nack is given
the message of an error. -/
class Callback (κ : Type) where
  ackThrows : κ → Option String
  nackThrows : κ → String → Option String

/-- Callbacks that return. -/
instance : Callback Unit := ⟨fun _ => none, fun _ _ => none⟩

end Twolk
