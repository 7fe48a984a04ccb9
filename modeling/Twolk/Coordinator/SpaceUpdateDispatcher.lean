/-
  Twolk.Coordinator.SpaceUpdateDispatcher
  ───────────────────────────────────────
  `space-update-dispatcher.ts`: turns the `S:` space updates of a session
  into `C:` transport updates for the workers, and a worker's answer into
  the answer to the session.

  The five branches share one shape: find the member and one of its
  transports (`lookup`), check the status, publish.
-/
import Twolk.Coordinator.SpaceService

namespace Twolk.Coordinator.SpaceUpdateDispatcher

open Twolk.Lib

variable {κ : Type} [Callback κ]

/-- Publish a transport update and record what its callbacks captured. -/
def publish (c : Coord κ) (transport : TransportId)
    (update : TransportUpdateC) (uuid : Uuid) (memberId : MemberId)
    (cb : κ) : Coord κ :=
  let request := c.updateIdGen
  { c with
    updateIdGen := request + 1
    updateRequests := c.updateRequests.set request
      { transport, update, uuid, memberId, cb }
    out := c.out ++ [.transportUpdate request transport update cb] }

/-- The record of `memberId`, when it is a member of `space`. -/
def findMember (c : Coord κ) (space : Space) (memberId : MemberId) :
    Option Member :=
  if space.members.has memberId then c.memberHeap.get? memberId else none

/-- `member.memberToConsumerMap.get(sourceMemberId)`. -/
def consumerOf (member : Member) (sourceMemberId : MemberId) :
    Option TransportId :=
  (member.memberToConsumerMap.get? sourceMemberId).join

/-- Run `k` on the transport unless it is missing or unallocated. -/
def withAllocated (c : Coord κ) (transport : Option TransportId) (cb : κ)
    (k : TransportId → TransportStatus → Coord κ) : Coord κ :=
  match transport.bind fun id =>
      (c.transportHeap.get? id).map fun t => (id, t.status) with
  | none => c.nackSync cb "transport not allocated"
  | some (id, status) =>
      if status = .unallocated then c.nackSync cb "transport not allocated"
      else k id status

/-- Publish `C:transportConnectEvent` unless the transport is connected
already; a connected transport gets no answer at all. -/
def connect (c : Coord κ) (uuid : Uuid) (memberId : MemberId)
    (dtlsParameters : Json) (cb : κ) (id : TransportId)
    (status : TransportStatus) : Coord κ :=
  if status = .connected then c
  else publish c id (.transportConnectEvent dtlsParameters) uuid memberId cb

/-- `onSpaceUpdate` for an `S:` update. -/
def onSpaceUpdate (c : Coord κ) (uuid : Uuid) (update : SpaceUpdateS)
    (cb : κ) : Coord κ :=
  match c.spaces.get? uuid with
  | none => c.nackSync cb "space not found"
  | some space =>
    match update with
    | .memberProducerConnectEvent memberId dtlsParameters =>
        match findMember c space memberId with
        | none => c.nackSync cb "member not found"
        | some member => withAllocated c member.producer cb
            (connect c uuid memberId dtlsParameters cb)
    | .memberProducerProduceEvent memberId kind rtpParameters =>
        match findMember c space memberId with
        | none => c.nackSync cb "member not found"
        | some member => withAllocated c member.producer cb fun id _ =>
            publish c id (.transportProducerProduceEvent kind rtpParameters)
              uuid memberId cb
    | .memberConsumerConnectEvent memberId dtlsParameters sourceMemberId =>
        match findMember c space memberId with
        | none => c.nackSync cb "member not found"
        | some member => withAllocated c (consumerOf member sourceMemberId) cb
            (connect c uuid memberId dtlsParameters cb)
    | .memberConsumerConsumeEvent memberId rtpCapabilities sourceMemberId =>
        match findMember c space memberId with
        | none => c.nackSync cb "member not found"
        | some member =>
            match findMember c space sourceMemberId with
            | none => c.nackSync cb "source member not found"
            | some sourceMember =>
                withAllocated c (consumerOf member sourceMemberId) cb
                  fun id _ =>
                    -- `sourceMember.producer!.id`
                    match sourceMember.producer with
                    | none => c.emit (.thrown
                        "Cannot read properties of null (reading 'id')")
                    | some producer => publish c id
                        (.transportConsumerConsumeEvent rtpCapabilities
                          producer) uuid memberId cb
    | .memberConsumerResumeEvent memberId sourceMemberId =>
        match findMember c space memberId with
        | none => c.nackSync cb "member not found"
        | some member => withAllocated c (consumerOf member sourceMemberId) cb
            fun id _ =>
              publish c id .transportConsumerResumeEvent uuid memberId cb

/-- The text in front of a worker's error. -/
def nackPrefix : TransportUpdateC → String
  | .transportConnectEvent _ =>
      "transportUpdate for C:transportConnectEvent nacked: "
  | .transportProducerProduceEvent .. =>
      "transportUpdate for C:transportProducerProduceEvent nacked: "
  | .transportConsumerConsumeEvent .. =>
      "transportUpdate for C:transportConsumerConsumeEvent nacked: "
  | .transportConsumerResumeEvent =>
      "transportUpdate for C:transportConsumerResumeEvent nacked: "

/-- `nack` from the publish callback, inside the worker's `.catch`. -/
def answerNack (c : Coord κ) (r : UpdateRequest κ) (message : String) :
    Coord κ :=
  c.nackCatch r.cb (nackPrefix r.update ++ message)

/-- `ack` from the publish callback, inside the worker's `.then`: what it
throws reaches the worker's `.catch`, which nacks. -/
def answerAck (c : Coord κ) (r : UpdateRequest κ) (resp : Response)
    (k : Coord κ → Coord κ) : Coord κ :=
  let c := c.emit (.ack r.cb resp)
  match Callback.ackThrows r.cb with
  | none => k c
  | some e => answerNack c r e

/-- A worker acks transport update `id`; `resp` carries media data for
produce and consume. -/
def onUpdateAck (c : Coord κ) (id : Nat) (r : UpdateRequest κ)
    (resp : TransportUpdateAck) : Coord κ :=
  let c := { c with updateRequests := c.updateRequests.delete id }
  match r.update with
  | .transportConnectEvent _ =>
      -- the status is written even when the transport was removed meanwhile
      let c := { c with
        transportHeap := c.transportHeap.modify r.transport fun t =>
          { t with status := .connected } }
      answerAck c r .void fun c => c
  | .transportProducerProduceEvent .. =>
      answerAck c r (.spaceUpdate ⟨resp.id, none, none, none⟩) fun c =>
        -- other servers hear of the producer only after the answer
        if SpaceService.hasSubscribers c r.uuid then
          c.emit (.spaceUpdate r.uuid (.producerConnectedEvent r.memberId))
        else c
  | .transportConsumerConsumeEvent .. =>
      answerAck c r (.spaceUpdate resp) fun c => c
  | .transportConsumerResumeEvent => answerAck c r .void fun c => c

/-- A worker nacks transport update `id`. -/
def onUpdateNack (c : Coord κ) (id : Nat) (r : UpdateRequest κ)
    (message : String) : Coord κ :=
  answerNack { c with updateRequests := c.updateRequests.delete id } r message

end Twolk.Coordinator.SpaceUpdateDispatcher
