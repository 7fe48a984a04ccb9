/-
  Twolk.Signaling.System
  ──────────────────────
  **SIGNALING SERVERS AND THE COORDINATOR** joined by the queues of `bus.ts`.

  A server's request runs the coordinator's consumer at once, inside
  `publish`; an ack or a nack the consumer gives runs the server's callback
  at once too.  So one step is a stretch of the coordinator, then the
  callbacks it called in order, then the requests those published.  The
  publishing code has finished with its own state when it publishes, and the
  coordinator when it answers.

  A nack throws.  While `publish` runs, what it throws rejects the promise
  of the publishing function; later it reaches a `.catch` of the coordinator,
  and the promise of the server's function stays unsettled.

  The SFU workers are left out: what they answer is any action of the
  coordinator machine.
-/
import Twolk.Signaling.Session

namespace Twolk.Signaling

open Twolk.Lib Coordinator

/-! ## §1. The state. -/

/-- The coordinator and its signaling servers. -/
structure System where
  coordinator : Coord Publisher
  servers : JsMap ServerId Server
  -- what the coordinator did in the current step
  out : List (Out Publisher)

/-- What can happen next. -/
inductive SystemAction where
  /-- `new SignalingServer(..)` and `start`; configured server ids are
  pairwise distinct. -/
  | startServer (serverId : ServerId)
  /-- A client opens a channel to a server. -/
  | connect (serverId : ServerId) (auth : Auth)
  /-- The promise a session awaits is settled, and the session resumes. -/
  | resume (serverId : ServerId) (session : SessionId)
  /-- Either side closes the channel. -/
  | close (serverId : ServerId) (session : SessionId)
  | updateMemberState (serverId : ServerId) (session : SessionId)
      (newState : MemberStateUpdate) (cId : String)
  | forward (serverId : ServerId) (session : SessionId)
      (event : ForwardedEvent) (cId : String)
  /-- Something no signaling server asked for happens at the coordinator. -/
  | coordinator (a : Coordinator.Action Publisher)

/-- Requests only a signaling server publishes. -/
def ofServer : Coordinator.Action Publisher → Bool
  | .subscribeToSpaceRequest .. | .unsubscribeFromSpaceRequest .. |
    .addMemberRequest .. | .removeMemberRequest .. |
    .spaceUpdateStream .. => true
  | .createSpaceRequest _ _ _ cb | .readSpaceRequest _ cb |
    .tryJoinSpaceRequest _ cb => cb ≠ .external
  | _ => false

namespace System

/-- Nothing but a coordinator. -/
def initial : System where
  coordinator := Coord.initial
  servers := ∅
  out := []

/-! ## §2. Callbacks. -/

/-- A change of one server. -/
def modifyServer (s : System) (serverId : ServerId) (f : Server → Server) :
    System :=
  { s with servers := s.servers.modify serverId f }

/-- The coordinator calls an ack callback. -/
def onAck (s : System) :
    Publisher → Response → System × Option Request
  -- the acks of `prepareSpace` and `prepareMember` resolve the promise the
  -- session waits for
  | .prepareSpace serverId session uuid,
    .subscribeToSpace clientSideSpace routerRtpCapabilities =>
      (s.modifyServer serverId fun v => v.onSpacePrepared session uuid
        clientSideSpace routerRtpCapabilities, none)
  | .prepareMember serverId session spaceUuid memberData memberState,
    .addMember id =>
      (s.modifyServer serverId fun v => v.onMemberPrepared session spaceUuid
        memberData memberState id, none)
  -- the ack of a removal takes the member out of the mirror, and may
  -- unsubscribe
  | .deleteMember serverId memberId, .void =>
      (s.modifyServer serverId fun v =>
          (v.onMemberDeleted serverId memberId).1,
        (s.servers.get? serverId).bind fun v =>
          (v.onMemberDeleted serverId memberId).2)
  | .deleteSpace serverId spaceUuid, .void =>
      (s.modifyServer serverId fun v => v.removeSpace spaceUuid, none)
  -- the ack of an unsubscribe removes the mirror
  | .forward serverId session event cId, resp =>
      -- an ack goes back to the client that sent the message
      match event.ackEvent cId resp with
      | none => (s, none)
      | some e => (s.modifyServer serverId fun v => v.emit session e, none)
  -- no other callback listens to an ack
  | _, _ => (s, none)

/-- The coordinator calls a nack callback, `sync` while `publish` runs. -/
def onNack (s : System) (sync : Bool) (message : String) :
    Publisher → System
  | .prepareSpace serverId session _ =>
      if sync then s.modifyServer serverId fun v =>
        v.reject session ("failed to prepare space: " ++ message)
      else s
  | .prepareMember serverId session .. =>
      if sync then s.modifyServer serverId fun v =>
        v.reject session ("failed to prepare member: " ++ message)
      else s
  | _ => s

/-- One observation of the coordinator reaches the servers. -/
def deliver (sync : Bool) (s : System) :
    Out Publisher → System × Option Request
  | .ack p resp => s.onAck p resp
  | .nack p message => (s.onNack sync message p, none)
  | .spaceUpdate uuid update =>
      ({ s with
        servers := s.servers.mapVal fun _ v => v.onSpaceUpdate uuid update },
        none)
  | _ => (s, none)

/-- The observations of a stretch reach the servers in order; the requests
their callbacks publish are collected. -/
def deliverAll (sync : Bool) (s : System) (out : List (Out Publisher)) :
    System × List Request :=
  out.foldl (fun p o => ((p.1.deliver sync o).1,
    p.2 ++ (p.1.deliver sync o).2.toList)) (s, [])

/-- A stretch of the coordinator, with the callbacks it calls. -/
def stretch (sync : Bool) (s : System) (a : Coordinator.Action Publisher) :
    Option (System × List Request) :=
  (Coord.act { s.coordinator with out := [] } a).map fun c =>
    deliverAll sync
      { s with coordinator := c, out := s.out ++ c.out }
      (c.out.filter Out.heard)

/-- A request a callback publishes; it runs inside `publish`. -/
def publishInner (s : System) (a : Request) : System :=
  match s.stretch true a with
  | none => s
  | some (s, _) => s

/-- A stretch of the coordinator, with all that it starts at once. -/
def run (sync : Bool) (s : System) (a : Coordinator.Action Publisher) :
    Option System :=
  (s.stretch sync a).map fun p => p.2.foldl publishInner p.1

/-- A server function has run, and publishes its request. -/
def publish (s : System) (serverId : ServerId) :
    Server × Option Request → Option System
  | (v, none) => some { s with servers := s.servers.set serverId v }
  | (v, some a) =>
      run true { s with servers := s.servers.set serverId v } a

/-! ## §3. Steps. -/

/-- One step, with an empty outbox at its start. -/
def act (s : System) : SystemAction → Option System
  | .startServer serverId =>
      if s.servers.has serverId then none
      else some { s with servers := s.servers.set serverId .initial }
  -- `start` of a new session runs up to its first `await`
  | .connect serverId auth => (s.servers.get? serverId).bind fun v =>
      s.publish serverId (v.start serverId auth)
  | .resume serverId session => (s.servers.get? serverId).bind fun v =>
      (v.sessions.get? session).bind fun x =>
        (v.resume serverId session x).bind (s.publish serverId)
  -- a channel closes once
  | .close serverId session => (s.servers.get? serverId).bind fun v =>
      (v.sessions.get? session).bind fun x =>
        if x.isOpen then s.publish serverId (v.close serverId session x)
        else none
  | .updateMemberState serverId session newState cId =>
      (s.servers.get? serverId).bind fun v =>
        (v.sessions.get? session).bind fun x =>
          -- the handler of the channel is registered when the session has
          -- joined
          if x.isOpen then x.listening.bind fun memberId =>
            s.publish serverId
              (v.updateMemberState session memberId newState cId, none)
          else none
  | .forward serverId session event cId =>
      (s.servers.get? serverId).bind fun v =>
        (v.sessions.get? session).bind fun x =>
          if x.isOpen then x.listening.bind fun memberId =>
            s.publish serverId
              -- the update is published under the member the channel belongs
              -- to
              (v, some (.spaceUpdateStream x.auth.spaceUuid
                (event.toUpdate memberId)
                (.forward serverId session event cId)))
          else none
  -- requests of servers reach the coordinator through `publish` only
  | .coordinator a => if ofServer a then none else s.run false a

end System

/-- The signaling machine, observed through the coordinator's outbox. -/
def machine : Machine System SystemAction (Out Publisher) where
  init s := s = System.initial
  step s a := (System.act { s with out := [] } a).map fun s' => (s', s'.out)

/-- Two members join on one server, and the consumer of the first one is
allocated. -/
def twoMembers : List SystemAction :=
  -- a worker, a space and a server
  [.coordinator (.mediaWorkerConnected 1),
   .coordinator (.createSpaceRequest "room" ⟨"Room", ""⟩
     "subscription-driven" .external),
   -- Ann joins, and the router of the space is created
   .startServer 1, .connect 1 ⟨"room", ⟨"Ann"⟩, ⟨false, false⟩⟩,
   .coordinator (.routerAck 0 "caps"), .coordinator (.resume 0),
   .coordinator (.resume 0), .resume 1 0, .coordinator (.resume 0),
   -- her producer transport
   .resume 1 0, .coordinator (.transportAck 0 "options"),
   .coordinator (.resume 0),
   -- Ben joins, with a transport of his own and one for Ann
   .connect 1 ⟨"room", ⟨"Ben"⟩, ⟨false, false⟩⟩, .resume 1 1,
   .coordinator (.resume 0), .resume 1 1,
   .coordinator (.transportAck 1 "options"), .coordinator (.resume 0),
   .coordinator (.transportAck 2 "options")]

end Twolk.Signaling
