/-
  Twolk.Web.SignalingSocket
  ─────────────────────────
  `signaling.socket.ts` of the web client: how `SignalingSocketWrapper`
  learns the outcome of a connection.

  It listens for both outcomes once, and stops listening for either after
  the first one (`armConnectionOutcome`, `disarmConnectionOutcome`): only
  the first outcome event runs handlers (`receiveAll_armed`).
-/
import Twolk.Signaling.Channels

namespace Twolk.Web

open Twolk.Lib Signaling

/-! ## §1. The wrapper. -/

/-- `_status`. -/
inductive SocketStatus where
  | disconnected
  | connecting
  | connected
  deriving DecidableEq

/-- What the socket tells the wrapper. -/
inductive SocketEvent where
  | connect
  | disconnect
  | server (event : ServerToClientEvent)

/-- A round of calls to `connectedHandlers`, `disconnectedHandlers` or
`failedHandlers`. -/
inductive HandlersRun where
  | connected
  | disconnected
  | failed (message : String)
  deriving DecidableEq

/-- The wrapper, and which of the user's handlers have run. -/
structure SignalingSocketWrapper where
  status : SocketStatus
  /-- The handlers of both outcomes are attached to the socket. -/
  armed : Bool
  ran : List HandlersRun

namespace SignalingSocketWrapper

/-- `new SignalingSocketWrapper(..)`. -/
def initial : SignalingSocketWrapper where
  status := .disconnected
  armed := false
  ran := []

/-- `handleConnect`. -/
def handleConnect (w : SignalingSocketWrapper) : SignalingSocketWrapper :=
  { w with status := .connecting, armed := true }

/-- `handleDisconnect`. -/
def handleDisconnect (w : SignalingSocketWrapper) : SignalingSocketWrapper :=
  { status := .disconnected, armed := false, ran := w.ran ++ [.disconnected] }

/-- `handleConnectionSuccessful`. -/
def handleConnectionSuccessful (w : SignalingSocketWrapper) :
    SignalingSocketWrapper :=
  { status := .connected, armed := false, ran := w.ran ++ [.connected] }

/-- `handleConnectionFailed`. -/
def handleConnectionFailed (w : SignalingSocketWrapper) (message : String) :
    SignalingSocketWrapper :=
  { status := .disconnected, armed := false
    ran := w.ran ++ [.failed message] }

/-- The socket calls what is attached to it; the handlers of the other
events have no part in the outcome. -/
def receive (w : SignalingSocketWrapper) :
    SocketEvent → SignalingSocketWrapper
  | .connect => w.handleConnect
  | .disconnect => w.handleDisconnect
  | .server .connectionSuccessful =>
      if w.armed then w.handleConnectionSuccessful else w
  | .server (.connectionFailed message) =>
      if w.armed then w.handleConnectionFailed message else w
  | .server _ => w

/-- The events of a channel arrive in order. -/
def receiveAll (w : SignalingSocketWrapper)
    (events : List ServerToClientEvent) : SignalingSocketWrapper :=
  events.foldl (fun w e => w.receive (.server e)) w

/-! ## §2. The first outcome. -/

/-- An event that is no outcome runs no handler. -/
theorem receive_other (w : SignalingSocketWrapper) {e : ServerToClientEvent}
    (he : e.kind ≠ .outcome) : w.receive (.server e) = w := by
  cases e <;> first | rfl | exact absurd rfl he

theorem receive_disarmed {w : SignalingSocketWrapper} (hw : w.armed = false)
    (e : ServerToClientEvent) : w.receive (.server e) = w := by
  unfold receive
  split <;> simp_all

/-- After the first outcome the others are not listened for, by induction
on what else arrives. -/
theorem receiveAll_disarmed : ∀ (events : List ServerToClientEvent)
    {w : SignalingSocketWrapper}, w.armed = false → w.receiveAll events = w
  | [], _, _ => rfl
  | e :: events, w, hw => by
      show (w.receive (.server e)).receiveAll events = w
      rw [receive_disarmed hw, receiveAll_disarmed events hw]

theorem receive_outcome {w : SignalingSocketWrapper}
    {e : ServerToClientEvent} (he : e.kind = .outcome) :
    (w.receive (.server e)).armed = false := by
  cases hw : w.armed <;> cases e <;>
    simp_all [receive, ServerToClientEvent.kind,
      handleConnectionSuccessful, handleConnectionFailed]

/-- **Only the first outcome counts.**  By induction on the events up to
it. -/
theorem receiveAll_armed : ∀ {events : List ServerToClientEvent}
    (w : SignalingSocketWrapper),
    w.receiveAll events
      = w.receiveAll (events.find? (·.kind = .outcome)).toList
  | [], w => rfl
  | e :: events, w => by
      by_cases he : e.kind = .outcome
      · rw [List.find?_cons_of_pos (by simp [he])]
        show (w.receive (.server e)).receiveAll events
          = (w.receive (.server e)).receiveAll []
        rw [receiveAll_disarmed events (receive_outcome he)]
        rfl
      · rw [List.find?_cons_of_neg (by simp [he])]
        show (w.receive (.server e)).receiveAll events = _
        rw [receive_other w he, receiveAll_armed w]

end SignalingSocketWrapper

end Twolk.Web
