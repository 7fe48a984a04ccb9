/-
  Twolk.Web.Teardown
  ──────────────────
  **TEARDOWN AND RECONNECTION.**

  `init`, `cleanup` and the socket handlers of `space.ts`, over the sets of
  handlers `signaling.socket.ts` keeps and visits, and the socket below.

  User callbacks run inside the handlers and may call `init` and `cleanup`,
  and `socket.disconnect()` raises the disconnect event on the spot.  So the
  machine has the call stack: loops over a set of handlers, and callbacks.
  A callback runs until it returns; calls may be made while it runs, or
  while nothing runs.  The other methods of the space only call user code,
  or nothing, so what they can do to the connection are calls, too.

  A `forEach` over a `Set` visits what is added while it runs and passes
  over what is deleted.  The methods one `init` binds are named by a number
  that grows with each `init`, and are added to a set in that order.

  Main result: `stays_down` — a torn down space does not connect and has no
  handler on the socket, in every run whose disconnect callbacks return
  with the space not torn down and which cleans up only the handlers of the
  last `init`; a step of another kind breaks this at once.
-/
import Twolk.Lib.Machine

namespace Twolk.Web.Teardown

open Twolk.Lib

/-! ## §1. The space and its socket. -/

/-- What a space listens to. -/
inductive SocketEvent where
  | connected
  | disconnected
  | failed
  | memberJoin
  | memberLeave
  | memberStateUpdate
  | spaceClose
  | spaceInit
  | transportParams
  deriving DecidableEq, Repr

/-- The handlers of `init`, in order. -/
def socketEvents : List SocketEvent :=
  [.connected, .disconnected, .failed, .memberJoin, .memberLeave,
    .memberStateUpdate, .spaceClose, .spaceInit, .transportParams]

/-- An event of the channel, as against an outcome of the connection. -/
def SocketEvent.ofChannel : SocketEvent → Bool
  | connected | disconnected | failed => false
  | _ => true

/-- The user callbacks a handler runs. -/
inductive UserCallback where
  /-- `_connectedHandler`. -/
  | connected
  /-- `_disconnectedHandler`. -/
  | disconnected
  /-- `_failedHandler`. -/
  | failed
  /-- Those of `onMemberJoin` and the like, and of the snapshot. -/
  | other
  deriving DecidableEq, Repr

/-- What is on the call stack. -/
inductive Frame where
  /-- `forEach` over the handlers of an event; those bound under `next` or
  later have not been visited. -/
  | forEach (event : SocketEvent) (next : Nat)
  | callback (callback : UserCallback)
  deriving DecidableEq, Repr

/-- What is said of a run. -/
inductive Mark where
  | init
  | cleanup
  /-- `this._socket.connect()`. -/
  | connect
  deriving DecidableEq, Repr

/-- The space, as far as its handlers and connections go. -/
structure Space where
  /-- The methods bound by the last `init`. -/
  bound : Option Nat
  nextBound : Nat
  /-- `_connectedHandler`, `_disconnectedHandler` and `_failedHandler`. -/
  userHandlers : Bool
  -- of the socket and its wrapper
  handlers : List (SocketEvent × Nat)
  active : Bool
  connected : Bool
  /-- `connectionSuccessful` and `connectionFailed` are waited for. -/
  armed : Bool
  stack : List Frame
  deriving DecidableEq

namespace Space

/-- Before the first `init`. -/
def initial : Space where
  bound := none
  nextBound := 0
  userHandlers := false
  handlers := []
  active := false
  connected := false
  armed := false
  stack := []

/-- A call. -/
def push (w : Space) (frame : Frame) : Space :=
  { w with stack := frame :: w.stack }

/-- `this._socket.connect()`. -/
def connect (w : Space) : Space := { w with active := true }

/-- `init`. -/
def init (w : Space) : Space :=
  connect
    { w with
      bound := some w.nextBound
      nextBound := w.nextBound + 1
      handlers := w.handlers ++ socketEvents.map (·, w.nextBound)
      userHandlers := true }

/-- `handleDisconnect` of the wrapper. -/
def handleDisconnect (w : Space) : Space :=
  { w with armed := false }.push (.forEach .disconnected 0)

/-- `this._socket.disconnect()`: a connected socket raises the event. -/
def disconnect (w : Space) : Space :=
  if w.connected then
    { w with active := false, connected := false }.handleDisconnect
  else { w with active := false }

/-- `cleanup`. -/
def cleanup (w : Space) : Space :=
  disconnect
    { w with
      userHandlers := false
      handlers := w.handlers.filter fun p => some p.2 ≠ w.bound }

/-- The handler `forEach` visits next. -/
def nextHandler (w : Space) (event : SocketEvent) (next : Nat) :
    Option Nat :=
  (w.handlers.find? fun p => p.1 = event ∧ next ≤ p.2).map Prod.snd

/-- `onSocketConnected`, `onSocketDisconnected` or `onSocketFailed`, up to
the end of the user's callback. -/
def onSocket (w : Space) (callback : UserCallback) : Space :=
  if w.userHandlers then w.push (.callback callback) else w

/-- A handler is called.  `handleSpaceClose` cleans up first. -/
def handle (w : Space) : SocketEvent → Space × List Mark
  | .connected => (w.onSocket .connected, [])
  | .disconnected => (w.onSocket .disconnected, [])
  | .failed => (w.onSocket .failed, [])
  | .spaceClose => ((w.push (.callback .other)).cleanup, [.cleanup])
  | _ => (w.push (.callback .other), [])

/-- What a handler does after the user's callback. -/
def afterCallback (w : Space) : UserCallback → Space × List Mark
  | .disconnected => (w.connect, [.connect])
  | .failed => (w.cleanup, [.cleanup])
  | _ => (w, [])

/-- One turn of the `forEach` on top of the stack. -/
def visit (w : Space) (event : SocketEvent) (next : Nat)
    (rest : List Frame) : Space × List Mark :=
  match w.nextHandler event next with
  | none => ({ w with stack := rest }, [])
  | some bound =>
      handle { w with stack := .forEach event (bound + 1) :: rest } event

/-- User code runs: a callback, or anything while the stack is empty. -/
def userRuns (w : Space) : Bool :=
  match w.stack with
  | [] | .callback _ :: _ => true
  | .forEach _ _ :: _ => false

end Space

/-- What can happen next. -/
inductive Action where
  -- user code
  | init
  | cleanup
  /-- The callback on top of the stack returns. -/
  | return
  -- the socket
  | connect
  | disconnect (byServer : Bool)
  | connectionSuccessful
  | connectionFailed
  | emit (event : SocketEvent)
  /-- The `forEach` on top of the stack goes on. -/
  | next
  deriving DecidableEq

/-- The socket raises events while nothing runs. -/
def machine : Machine Space Action Mark where
  init w := w = Space.initial
  step w
    | .init => if w.userRuns then some (w.init, [.init, .connect]) else none
    | .cleanup => if w.userRuns then some (w.cleanup, [.cleanup]) else none
    -- a callback of the user ends, and the loop under it goes on
    | .return =>
        match w.stack with
        | .callback callback :: rest =>
            some ({ w with stack := rest }.afterCallback callback)
        | _ => none
    -- socket.io connects by itself as long as the socket is active
    | .connect =>
        if w.stack = [] ∧ w.active ∧ ¬ w.connected then
          some ({ w with connected := true, armed := true }, [])
        else none
    -- a disconnect by the server ends the reconnecting, a lost connection does
    -- not
    | .disconnect byServer =>
        if w.stack = [] ∧ w.connected then
          some ({ w with
            connected := false
            active := w.active && !byServer }.handleDisconnect, [])
        else none
    -- the outcome handlers are bound with `once`, and go together
    | .connectionSuccessful =>
        if w.stack = [] ∧ w.connected ∧ w.armed then
          some ({ w with armed := false }.push (.forEach .connected 0), [])
        else none
    | .connectionFailed =>
        if w.stack = [] ∧ w.connected ∧ w.armed then
          some ({ w with armed := false }.push (.forEach .failed 0), [])
        else none
    -- events of the channel reach what is bound to them
    | .emit event =>
        if w.stack = [] ∧ w.connected ∧ event.ofChannel then
          some (w.push (.forEach event 0), [])
        else none
    -- a loop over handlers takes the next one
    | .next =>
        match w.stack with
        | .forEach event next :: rest => some (w.visit event next rest)
        | _ => none

/-- `cleanup` has run, and `init` has not since. -/
def TornDown (tr : List Mark) : Prop := Since (· = .cleanup) (· = .init) tr

/-- The step runs `cleanup`. -/
def cleansUp (w : Space) : Action → Bool
  | .cleanup => true
  | .return => w.stack.head? = some (.callback .failed)
  | .next =>
      match w.stack with
      | .forEach .spaceClose next :: _ =>
          (w.nextHandler .spaceClose next).isSome
      | _ => false
  | _ => false

/-- A disconnect callback returns. -/
def reconnects (w : Space) : Action → Bool
  | .return => w.stack.head? = some (.callback .disconnected)
  | _ => false

/-- Cleaning up, the space has no handler of an earlier `init`; and a
disconnect callback returns with the space not torn down. -/
def tearsDown : Guard Space Action Mark := fun _ w a =>
  (cleansUp w a = true → ∀ p ∈ w.handlers, some p.2 = w.bound) ∧
    (reconnects w a = true → w.userHandlers = true)

instance (tr : List Mark) (w : Space) (a : Action) :
    Decidable (tearsDown tr w a) := inferInstanceAs (Decidable (_ ∧ _))

/-! ## §2. What a step can do. -/

/-- The space keeps its handlers, and those of the user. -/
structure Keeps (w w' : Space) : Prop where
  userHandlers : w'.userHandlers = w.userHandlers
  bound : w'.bound = w.bound
  handlers : w'.handlers = w.handlers

/-- A disconnect callback is called by a handler. -/
def Calls (w w' : Space) : Prop := .callback .disconnected ∈ w'.stack →
  .callback .disconnected ∈ w.stack ∨ w.handlers ≠ []

/-- What `cleanup` changes: the methods bound last come off, and the handlers
of the user are dropped. -/
structure CleansUp (w w' : Space) : Prop where
  userHandlers : w'.userHandlers = false
  bound : w'.bound = w.bound
  handlers : w'.handlers = w.handlers.filter fun p => some p.2 ≠ w.bound

variable {w w' : Space} {a : Action} {tr obs : List Mark}

theorem cleanup_cleansUp (w : Space) : CleansUp w w.cleanup := by
  unfold Space.cleanup Space.disconnect
  split <;> exact ⟨rfl, rfl, rfl⟩

/-- `cleanup` may start a loop, never a callback. -/
theorem callback_mem_cleanup {callback : UserCallback}
    (h : .callback callback ∈ w.cleanup.stack) :
    .callback callback ∈ w.stack := by
  unfold Space.cleanup Space.disconnect at h
  split at h
  · exact (List.mem_cons.mp h).resolve_left fun heq => by cases heq
  · exact h

/-- A step is quiet, or an `init`, or cleans up, or reconnects. -/
inductive Effect (w w' : Space) (a : Action) : List Mark → Prop
  | quiet : cleansUp w a = false → reconnects w a = false → Keeps w w' →
      Calls w w' → Effect w w' a []
  | init : cleansUp w a = false → reconnects w a = false → w' = w.init →
      Effect w w' a [.init, .connect]
  | cleanup : cleansUp w a = true → reconnects w a = false →
      CleansUp w w' → Calls w w' → Effect w w' a [.cleanup]
  | reconnect : cleansUp w a = false → reconnects w a = true →
      Keeps w w' → Calls w w' → .callback .disconnected ∈ w.stack →
      Effect w w' a [.connect]

theorem Keeps.refl (w : Space) : Keeps w w := ⟨rfl, rfl, rfl⟩

/-- The outcome handlers run the user's callback while there is one. -/
theorem onSocket_keeps (w : Space) (callback : UserCallback) :
    Keeps w (w.onSocket callback) := by
  unfold Space.onSocket
  split <;> exact ⟨rfl, rfl, rfl⟩

/-- Starting a loop over handlers calls nobody yet. -/
theorem Effect.ofLoop {event : SocketEvent} {next : Nat}
    (hc : cleansUp w a = false) (hr : reconnects w a = false)
    (hk : Keeps w w') (hs : w'.stack = .forEach event next :: w.stack) :
    Effect w w' a [] := by
  refine .quiet hc hr hk fun h => .inl ?_
  rw [hs] at h
  exact (List.mem_cons.mp h).resolve_left fun heq => by cases heq

/-- A callback that returns lets the loop under it go on. -/
theorem return_effect {rest : List Frame} {callback : UserCallback}
    (hstack : w.stack = .callback callback :: rest)
    (hs : { w with stack := rest }.afterCallback callback = (w', obs)) :
    Effect w w' .return obs := by
  have hmem : ∀ frame ∈ rest, frame ∈ w.stack := by
    intro frame h
    rw [hstack]
    exact List.mem_cons_of_mem _ h
  have hhead : w.stack.head? = some (.callback callback) := by
    rw [hstack]
    rfl
  cases callback with
  | disconnected =>
      cases hs
      refine .reconnect ?_ ?_ ⟨rfl, rfl, rfl⟩ (fun h => .inl (hmem _ h)) ?_
      · simp [cleansUp, hhead]
      · simp [reconnects, hhead]
      · rw [hstack]
        exact List.mem_cons_self
  | failed =>
      cases hs
      have hclean := cleanup_cleansUp { w with stack := rest }
      refine .cleanup ?_ ?_ ⟨hclean.1, hclean.2, hclean.3⟩ fun h => ?_
      · simp [cleansUp, hhead]
      · simp [reconnects, hhead]
      · exact .inl (hmem _ (callback_mem_cleanup h))
  | connected | other =>
      cases hs
      refine .quiet ?_ ?_ ⟨rfl, rfl, rfl⟩ fun h => .inl (hmem _ h)
      · simp [cleansUp, hhead]
      · simp [reconnects, hhead]

/-- A loop calls the next handler that is still bound, or ends. -/
theorem next_effect {rest : List Frame} {event : SocketEvent} {next : Nat}
    (hstack : w.stack = .forEach event next :: rest)
    (hs : w.visit event next rest = (w', obs)) : Effect w w' .next obs := by
  have hrec : reconnects w .next = false := rfl
  have hrest : ∀ frame ∈ rest, frame ∈ w.stack := by
    intro frame h
    rw [hstack]
    exact List.mem_cons_of_mem _ h
  unfold Space.visit at hs
  split at hs
  · rename_i hnone
    cases hs
    refine .quiet ?_ hrec ⟨rfl, rfl, rfl⟩ fun h => .inl (hrest _ h)
    unfold cleansUp
    rw [hstack]
    cases event <;> simp [hnone]
  · rename_i bound hsome
    -- a handler is visited, so there is one
    have hin : w.handlers ≠ [] := by
      intro hnil
      simp [Space.nextHandler, hnil] at hsome
    have hquiet : Keeps w w' → event ≠ .spaceClose → obs = [] →
        Effect w w' .next obs := by
      intro hk hne hobs
      rw [hobs]
      refine .quiet ?_ hrec hk fun _ => .inr hin
      unfold cleansUp
      rw [hstack]
      cases event <;> first | rfl | exact absurd rfl hne
    have hon : ∀ callback, Keeps w
        ({ w with stack := .forEach event (bound + 1) :: rest }.onSocket
          callback) := by
      intro callback
      have hk := onSocket_keeps
        { w with stack := .forEach event (bound + 1) :: rest } callback
      exact ⟨hk.1, hk.2, hk.3⟩
    cases event with
    | connected | disconnected | failed =>
        cases hs
        exact hquiet (hon _) (by simp) rfl
    | spaceClose =>
        cases hs
        have hclean := cleanup_cleansUp
          ({ w with stack := .forEach .spaceClose (bound + 1) :: rest }.push
            (.callback .other))
        refine .cleanup ?_ hrec ⟨hclean.1, hclean.2, hclean.3⟩
          fun _ => .inr hin
        unfold cleansUp
        rw [hstack]
        simp [hsome]
    | _ =>
        cases hs
        exact hquiet ⟨rfl, rfl, rfl⟩ (by simp) rfl

/-- Every step, by its kind. -/
theorem step_cases (hs : machine.step w a = some (w', obs)) :
    Effect w w' a obs := by
  cases a with
  | init =>
      simp only [machine] at hs
      split at hs
      · cases hs
        exact .init rfl rfl rfl
      · cases hs
  | cleanup =>
      simp only [machine] at hs
      split at hs
      · cases hs
        exact .cleanup rfl rfl (cleanup_cleansUp w)
          fun h => .inl (callback_mem_cleanup h)
      · cases hs
  | «return» =>
      simp only [machine] at hs
      split at hs
      · rename_i hstack
        exact return_effect hstack (Option.some.inj hs)
      · cases hs
  | connect =>
      simp only [machine] at hs
      split at hs
      · cases hs
        exact .quiet rfl rfl ⟨rfl, rfl, rfl⟩ fun h => .inl h
      · cases hs
  | next =>
      simp only [machine] at hs
      split at hs
      · rename_i hstack
        exact next_effect hstack (Option.some.inj hs)
      · cases hs
  | disconnect | connectionSuccessful | connectionFailed | emit =>
      simp only [machine] at hs
      split at hs
      · cases hs
        exact .ofLoop rfl rfl ⟨rfl, rfl, rfl⟩ rfl
      · cases hs

/-! ## §3. Teardown in a run. -/

/-- What a torn down space has given up, and when a space has. -/
structure Sound (w : Space) (tr : List Mark) : Prop where
  torn : TornDown tr → w.userHandlers = false ∧ w.handlers = []
  down : w.userHandlers = false → TornDown tr ∨ w.bound = none
  unbound : w.bound = none →
    w.handlers = [] ∧ .callback .disconnected ∉ w.stack

theorem tornDown_init (tr : List Mark) : ¬ TornDown (tr ++ [.init]) := by
  unfold TornDown
  rw [since_append]
  simp

theorem tornDown_cleanup (tr : List Mark) :
    TornDown (tr ++ [.cleanup]) :=
  since_append.mpr (.inl rfl)

theorem tornDown_connect : TornDown (tr ++ [.connect]) ↔ TornDown tr := by
  unfold TornDown
  rw [since_append]
  simp

/-- The space keeps its handlers, and nothing is said of teardown. -/
theorem Sound.keeps (h : Sound w tr) (hk : Keeps w w') (hc : Calls w w')
    (ht : TornDown (tr ++ obs) ↔ TornDown tr) : Sound w' (tr ++ obs) := by
  refine ⟨fun htorn => ?_, fun hdown => ?_, fun hb => ?_⟩
  · rw [hk.userHandlers, hk.handlers]
    exact h.torn (ht.mp htorn)
  · rw [hk.userHandlers] at hdown
    rw [hk.bound, ht]
    exact h.down hdown
  · rw [hk.bound] at hb
    obtain ⟨hnil, hnot⟩ := h.unbound hb
    refine ⟨hk.handlers.trans hnil, fun hin => ?_⟩
    rcases hc hin with hin | hne
    · exact hnot hin
    · exact hne hnil

/-- **One step** keeps what a torn down space has given up. -/
theorem step_sound (h : Sound w tr) (hg : tearsDown tr w a)
    (hs : machine.step w a = some (w', obs)) : Sound w' (tr ++ obs) := by
  cases step_cases hs with
  | quiet _ _ hk hc => exact h.keeps hk hc (by rw [List.append_nil])
  | reconnect _ _ hk hc => exact h.keeps hk hc tornDown_connect
  | init _ _ hw =>
      rw [hw]
      refine ⟨fun ht => ?_, fun hd => ?_, fun hb => ?_⟩
      · rw [List.append_cons, tornDown_connect] at ht
        exact absurd ht (tornDown_init tr)
      · cases hd
      · cases hb
  | cleanup hcl _ hk hc =>
      refine ⟨fun _ => ⟨hk.userHandlers, ?_⟩,
        fun _ => .inl (tornDown_cleanup tr), fun hb => ?_⟩
      · rw [hk.handlers, List.filter_eq_nil_iff]
        intro p hp
        simp [hg.1 hcl p hp]
      · rw [hk.bound] at hb
        obtain ⟨hnil, hnot⟩ := h.unbound hb
        refine ⟨by rw [hk.handlers, hnil]; rfl, fun hin => ?_⟩
        rcases hc hin with hin | hne
        · exact hnot hin
        · exact hne hnil

/-- No connection follows a teardown. -/
def NoConnect (tr : List Mark) : Prop :=
  ∀ pre post, tr = pre ++ .connect :: post → ¬ TornDown pre

theorem noConnect_append (h : NoConnect tr) {m : Mark}
    (hm : m = .connect → ¬ TornDown tr) : NoConnect (tr ++ [m]) := by
  intro pre post heq
  rcases List.eq_nil_or_concat' post with rfl | ⟨post', m', rfl⟩
  · obtain ⟨hpre, hlast⟩ := List.append_inj' heq rfl
    rw [← hpre]
    exact hm (List.singleton_inj.mp hlast)
  · rw [← List.cons_append, ← List.append_assoc] at heq
    exact h pre post' (List.append_inj' heq rfl).1

/-- A guarded step does not connect again after a cleanup. -/
theorem step_noConnect (h : Sound w tr) (hn : NoConnect tr)
    (hg : tearsDown tr w a) (hs : machine.step w a = some (w', obs)) :
    NoConnect (tr ++ obs) := by
  cases step_cases hs with
  | quiet => rwa [List.append_nil]
  | cleanup => exact noConnect_append hn fun heq => by cases heq
  | init =>
      have hinit := noConnect_append (m := .init) hn fun heq => by cases heq
      rw [List.append_cons]
      exact noConnect_append hinit fun _ => tornDown_init tr
  | reconnect _ hr =>
      refine noConnect_append hn fun _ ht => ?_
      have hset := hg.2 hr
      rw [(h.torn ht).1] at hset
      cases hset

theorem sound_initial : Sound Space.initial [] :=
  ⟨fun h => absurd h not_since_nil, fun _ => .inr rfl,
    fun _ => ⟨rfl, List.not_mem_nil⟩⟩

/-- In every guarded run no connection is made after the last cleanup. -/
theorem run_sound {past : List Space} (h : machine.Run tearsDown past w tr) :
    Sound w tr ∧ NoConnect tr := by
  refine h.invariant (fun w tr => Sound w tr ∧ NoConnect tr)
    (fun w hw => ?_) fun w tr a w' obs hI hg hs => ?_
  · have hw : w = Space.initial := hw
    rw [hw]
    refine ⟨sound_initial, fun pre post heq => ?_⟩
    cases pre <;> cases heq
  · exact ⟨step_sound hI.1 hg hs, step_noConnect hI.1 hI.2 hg hs⟩

/-- A step of another kind connects a torn down space, or leaves it a
handler. -/
theorem step_breaks (h : Sound w tr)
    (hs : machine.step w a = some (w', obs)) (hg : ¬ tearsDown tr w a) :
    ¬ NoConnect (tr ++ obs) ∨
      TornDown (tr ++ obs) ∧ w'.handlers ≠ [] := by
  cases step_cases hs with
  | quiet hc hr => exact absurd ⟨by simp [hc], by simp [hr]⟩ hg
  | init hc hr => exact absurd ⟨by simp [hc], by simp [hr]⟩ hg
  | cleanup hc hr hk =>
      refine .inr ⟨tornDown_cleanup tr, fun hnil => hg ⟨fun _ p hp => ?_,
        by simp [hr]⟩⟩
      rw [hk.handlers, List.filter_eq_nil_iff] at hnil
      simpa using hnil p hp
  | reconnect hc hr hk _ hin =>
      refine .inl fun hno => ?_
      have hdown : w.userHandlers = false := by
        by_contra hup
        exact hg ⟨by simp [hc], fun _ => by simpa using hup⟩
      rcases h.down hdown with ht | hb
      · exact hno tr [] rfl ht
      · exact (h.unbound hb).2 hin

/-- **No connection after teardown**, and no handler left, in every run in
which disconnect callbacks return with the space not torn down and cleaning
up finds only the handlers of the last `init`.  A step of another kind
breaks one or the other. -/
theorem stays_down {past : List Space}
    (h : machine.Run tearsDown past w tr) :
    NoConnect tr ∧ (TornDown tr → w.handlers = []) ∧
    ∀ a w' obs, machine.step w a = some (w', obs) → ¬ tearsDown tr w a →
      ¬ NoConnect (tr ++ obs) ∨
        TornDown (tr ++ obs) ∧ w'.handlers ≠ [] := by
  obtain ⟨hsound, hno⟩ := run_sound h
  exact ⟨hno, fun ht => (hsound.torn ht).2,
    fun a w' obs hs hg => step_breaks hsound hs hg⟩

/-- The connection is lost, and the space connects again.  This connection
fails, and the callback cleans up before the handler does. -/
def failedReconnection : List Action :=
  [.init, .connect, .disconnect false, .next, .return, .next, .connect,
    .connectionFailed, .next, .cleanup, .next, .return, .next]

theorem stays_down_failed : ∃ past w tr,
    machine.Run tearsDown past w tr ∧
      tr = [.init, .connect, .connect, .cleanup, .cleanup] ∧
      w.stack = [] ∧ NoConnect tr ∧ w.handlers = [] := by
  obtain ⟨past, w, tr, h, hp⟩ := Machine.Run.exists_of_exec
    (M := machine) (G := tearsDown) (l := failedReconnection)
    (s := Space.initial)
    (p := fun r => decide (r.2.1.stack = [] ∧
      r.2.2 = [.init, .connect, .connect, .cleanup, .cleanup]))
    rfl (by decide +kernel)
  obtain ⟨hstack, htr⟩ := of_decide_eq_true hp
  have hall := stays_down h
  have htr : tr = [.init, .connect, .connect, .cleanup, .cleanup] := htr
  refine ⟨past, w, tr, h, htr, hstack, hall.1, hall.2.1 ?_⟩
  rw [htr]
  exact tornDown_cleanup [.init, .connect, .connect, .cleanup]

/-- The disconnect callback cleans up; the handler connects after it. -/
theorem connects_torn_down : ∃ past w tr,
    machine.Run anyStep past w tr ∧
      tr = [.init, .connect, .cleanup, .connect] ∧ ¬ NoConnect tr := by
  obtain ⟨past, w, tr, h, hp⟩ := Machine.Run.exists_of_exec
    (M := machine) (G := anyStep)
    (l := [.init, .connect, .disconnect true, .next, .cleanup, .return])
    (s := Space.initial)
    (p := fun r => decide (r.2.2 = [.init, .connect, .cleanup, .connect]))
    rfl (by decide +kernel)
  have htr := of_decide_eq_true hp
  refine ⟨past, w, tr, h, htr, fun hno => ?_⟩
  exact hno [.init, .connect, .cleanup] [] htr
    (tornDown_cleanup [.init, .connect])

end Twolk.Web.Teardown
