/-
  Twolk.Signaling.Session
  ───────────────────────
  `member-session.ts`: the join of a client, and the client's messages.

  `start` runs in three stretches: up to `await prepareSpace(..)` (`start`),
  up to `await prepareMember(..)` (`resumeSpace`), and the rest
  (`resumeMember`), which emits `spaceInit` and then registers the channel.
  The channel may close between any two of them; the close handler acts only
  when `memberId` is set, that is, after the last one.
-/
import Twolk.Signaling.Server

namespace Twolk.Signaling.Server

open Twolk.Lib

/-- `new MemberSession(..)` and `start()` for a new channel, up to the first
`await`. -/
def start (v : Server) (serverId : ServerId) (auth : Auth) :
    Server × Option Request :=
  let session := v.sessionIdGen
  { v with
    sessionIdGen := session + 1
    sessions := v.sessions.set session
      { auth, isOpen := true, emitted := [], memberId := none,
        phase := .preparingSpace none, listening := none,
        mirror := none } }.prepareSpace serverId session auth.spaceUuid

/-- The `catch` of `start`. -/
def failJoin (v : Server) (session : SessionId) (error : String) : Server :=
  (v.emit session (.connectionFailed "")).setPhase session (.failed error)

/-- `start` from the first `await` to the second. -/
def resumeSpace (v : Server) (serverId : ServerId) (session : SessionId)
    (auth : Auth) : Server × Option Request :=
  (v.emit session .connectionSuccessful).prepareMember serverId session
    auth.spaceUuid auth.memberData
    { auth.memberState with transportIsConnected := false }

/-- `start` after the second `await`: listen to the client, send the
snapshot, register the channel. -/
def resumeMember (v : Server) (session : SessionId) (auth : Auth)
    (memberId : MemberId) : Server :=
  let v := { v with
    sessions := v.sessions.modify session fun x =>
      { x with listening := some memberId } }
  match v.getSpace auth.spaceUuid with
  | none => v.failJoin session
      "Cannot read properties of undefined (reading 'routerRtpCapabilities')"
  | some space =>
      -- register after `spaceInit`, so that no broadcast arrives before it
      let v := v.emit session
        (.spaceInit memberId space.routerRtpCapabilities
          (getClientSideSpace space))
      { v with
        sessions := v.sessions.modify session fun x =>
          { x with
            memberId := some memberId
            phase := .joined
            mirror := v.spaces.get? auth.spaceUuid } }.registerChannel
        memberId session

/-- The next stretch of `start`, when the promise it awaits is settled. -/
def resume (v : Server) (serverId : ServerId) (session : SessionId)
    (x : Session) : Option (Server × Option Request) :=
  match x.phase with
  | .preparingSpace (some (.error e)) => some (v.failJoin session e, none)
  | .preparingSpace (some (.ok _)) =>
      some (v.resumeSpace serverId session x.auth)
  | .preparingMember (some (.error e)) => some (v.failJoin session e, none)
  | .preparingMember (some (.ok memberId)) =>
      some (v.resumeMember session x.auth memberId, none)
  | _ => none

/-- The close handler. -/
def close (v : Server) (serverId : ServerId) (session : SessionId)
    (x : Session) : Server × Option Request :=
  let v := { v with
    sessions := v.sessions.modify session fun x => { x with isOpen := false } }
  match x.memberId with
  | none => (v, none)
  | some memberId =>
      let v := v.unregisterChannel memberId
      (v, v.deleteMember serverId memberId)

/-- The client's `updateMemberState`; a failure is acknowledged as well. -/
def updateMemberState (v : Server) (session : SessionId)
    (memberId : MemberId) (newState : MemberStateUpdate) (cId : String) :
    Server :=
  ((v.updateMember memberId newState).getD v).emit session
    (.updateMemberStateAck cId)

/-- The promise of `prepareSpace` or `prepareMember` is rejected. -/
def reject (v : Server) (session : SessionId) (error : String) : Server :=
  { v with
    sessions := v.sessions.modify session fun x =>
      match x.phase with
      | .preparingSpace none =>
          { x with phase := .preparingSpace (some (.error error)) }
      | .preparingMember none =>
          { x with phase := .preparingMember (some (.error error)) }
      | _ => x }

end Twolk.Signaling.Server
