/-
  Twolk.Media.Cluster
  ───────────────────
  **ONE COORDINATOR, ANY NUMBER OF SFU WORKERS**, joined by the queues of
  `bus.ts`.

  `publish` hands a message to every consumer of its queue while the
  coordinator's stretch runs; the workers' states are disjoint, so each
  worker takes the messages of the stretch in order, in the same step
  (`receiveAll`).  Every worker gets every message and ignores what it does
  not own; one that throws back into `publish` owns the message, so those
  behind it would have ignored it.

  An answer is on its way from the moment a worker gives it, and may arrive
  at any later time, in any order.  The coordinator's promise for a request
  is settled once: a later answer to it has no effect (a worker nacks after
  its ack callback threw).
-/
import Twolk.Coordinator.Step
import Twolk.Worker.SfuWorker

namespace Twolk.Media

open Twolk.Lib

/-! ## §1. The callbacks of a transport update. -/

/-- The callbacks the coordinator publishes a transport update with: the
number of the update, and the update and the session's callbacks, which they
use. -/
structure UpdateCallback (κ : Type) where
  request : Nat
  update : TransportUpdateC
  cb : κ
  deriving DecidableEq

instance {κ : Type} [Callback κ] : Callback (UpdateCallback κ) where
  ackThrows u := Callback.ackThrows u.cb
  nackThrows u message := Callback.nackThrows u.cb
    (Coordinator.SpaceUpdateDispatcher.nackPrefix u.update ++ message)

/-- A worker of the cluster, which answers the coordinator's requests. -/
abbrev SfuWorker (κ : Type) := Worker.SfuWorker (UpdateCallback κ)

variable {κ : Type}

/-- What a worker's answer does at the coordinator. -/
def answer : Worker.Out (UpdateCallback κ) → Option (Coordinator.Action κ)
  | .routerAck assignedId rtpCapabilities =>
      some (.routerAck assignedId rtpCapabilities)
  | .routerNack assignedId message => some (.routerNack assignedId message)
  | .transportAck assignedId options =>
      some (.transportAck assignedId options)
  | .transportNack assignedId message =>
      some (.transportNack assignedId message)
  | .ack caller resp =>
      -- `ack()` carries no media data
      some (.updateAck caller.cb.request (resp.getD ⟨"", none, none, none⟩))
  | .nack caller error => some (.updateNack caller.cb.request error.message)
  | _ => none

/-- The action is a worker's answer. -/
def isAnswer : Coordinator.Action κ → Bool
  | .routerAck .. | .routerNack .. | .transportAck .. | .transportNack .. |
    .updateAck .. | .updateNack .. => true
  | _ => false

/-- The action is a bus message. -/
def isMessage : Worker.Action κ → Bool
  | .newRouterRequest .. | .newWebRtcTransportRequest .. |
    .transportUpdate .. => true
  | .fulfilled .. | .rejected .. | .resume .. => false

/-! ## §2. The state. -/

/-- The coordinator, its workers, and the answers in flight. -/
structure Cluster (κ : Type) where
  coordinator : Coordinator.Coord κ
  workers : List (SfuWorker κ)
  /-- Answers on their way to the coordinator. -/
  answers : List (Coordinator.Action κ)

/-- An observation of one of the parties. -/
inductive Out (κ : Type) where
  | coordinator (o : Coordinator.Out κ)
  | worker (workerId : WorkerId) (o : Worker.Out (UpdateCallback κ))
  deriving DecidableEq

/-- What can happen next. -/
inductive Action (κ : Type) where
  /-- `new SfuWorker(..)` and `start`; configured worker ids are pairwise
  distinct. -/
  | startWorker (workerId : WorkerId)
  /-- Something other than a worker's answer happens at the coordinator. -/
  | coordinator (a : Coordinator.Action κ)
  /-- Something other than a message happens at the `i`-th worker. -/
  | worker (i : Nat) (a : Worker.Action (UpdateCallback κ))
  /-- The `i`-th answer arrives. -/
  | deliver (i : Nat)

namespace Cluster

/-- Nothing but a coordinator. -/
def initial : Cluster κ where
  coordinator := Coordinator.Coord.initial
  workers := []
  answers := []

section Receive

variable [Callback κ]

/-- A worker takes one message of the coordinator. -/
def receive (w : SfuWorker κ) : Coordinator.Out κ → SfuWorker κ
  | .newRouterRequest assignedId workerId =>
      w.onNewRouterRequest assignedId workerId
  | .newWebRtcTransportRequest routerId assignedId isProducer =>
      w.onNewWebRtcTransportRequest routerId assignedId isProducer
  | .transportUpdate request id update cb =>
      w.onTransportUpdate id update ⟨request, update, cb⟩
  | _ => w

/-- A worker takes the messages of one stretch, with an empty outbox. -/
def receiveAll (out : List (Coordinator.Out κ)) (w : SfuWorker κ) :
    SfuWorker κ :=
  out.foldl receive { w with out := [] }

end Receive

/-- What a worker has observed in the current step. -/
def observed (w : SfuWorker κ) : List (Out κ) :=
  w.out.map (.worker w.workerId)

/-- What a worker has answered in the current step. -/
def answered (w : SfuWorker κ) : List (Coordinator.Action κ) :=
  w.out.filterMap answer

variable [Callback κ]

/-- The coordinator has run a stretch to `c`; the workers take what it
published. -/
def publish (s : Cluster κ) (c : Coordinator.Coord κ) :
    Cluster κ × List (Out κ) :=
  let workers := s.workers.map (receiveAll c.out)
  ({ coordinator := c
     workers
     answers := s.answers ++ workers.flatMap answered },
    c.out.map .coordinator ++ workers.flatMap observed)

/-- One step. -/
def act (s : Cluster κ) : Action κ → Option (Cluster κ × List (Out κ))
  | .startWorker workerId =>
      if workerId ∈ s.workers.map Worker.SfuWorker.workerId then none
      else some ({ s with
        workers := s.workers ++ [Worker.SfuWorker.initial workerId] }, [])
  -- what a worker has answered is delivered only by `deliver`
  | .coordinator a =>
      if isAnswer a then none
      else (Coordinator.Coord.act { s.coordinator with out := [] } a).map
        s.publish
  -- messages come from the coordinator, not from outside
  | .worker i a =>
      if isMessage a then none
      else (s.workers[i]?).bind fun w =>
        (Worker.SfuWorker.act { w with out := [] } a).map fun w' =>
          ({ s with
              workers := s.workers.set i w'
              answers := s.answers ++ answered w' }, observed w')
  -- one answer arrives, in any order
  | .deliver i => (s.answers[i]?).map fun a =>
      let s := { s with answers := s.answers.eraseIdx i }
      match Coordinator.Coord.act { s.coordinator with out := [] } a with
      -- an answer to a request that is not waiting any more is dropped
      | none => (s, [])
      | some c => s.publish c

end Cluster

/-- The cluster machine. -/
def machine (κ : Type) [Callback κ] :
    Machine (Cluster κ) (Action κ) (Out κ) where
  init s := s = Cluster.initial
  step s a := s.act a

/-- The coordinator of a cluster runs as the coordinator machine. -/
theorem coordinator_projection [Callback κ] :
    (machine κ).Projection (Coordinator.machine κ)
      Cluster.coordinator where
  init s hs := by
    obtain rfl : s = Cluster.initial := hs
    exact rfl
  step s a s' obs h hr := by
    -- where the coordinator acts, its own machine does the same
    have hstep : ∀ {a : Coordinator.Action κ} {c : Coordinator.Coord κ},
        Coordinator.Coord.act { s.coordinator with out := [] } a = some c →
        (Coordinator.machine κ).Reachable c := by
      intro a c hc
      have hs : (Coordinator.machine κ).step s.coordinator a
        = some (c, c.out) := by
        simp [Coordinator.machine, hc]
      exact hr.step hs
    have h : s.act a = some (s', obs) := h
    cases a with
    -- the other actions leave the coordinator alone
    | startWorker workerId =>
        simp only [Cluster.act] at h
        split at h
        · cases h
        · cases h
          exact hr
    | coordinator a =>
        simp only [Cluster.act] at h
        split at h
        · cases h
        · obtain ⟨c, hc, hp⟩ := Option.map_eq_some_iff.mp h
          cases hp
          exact hstep hc
    | worker i a =>
        simp only [Cluster.act] at h
        split at h
        · cases h
        · obtain ⟨w, -, h⟩ := Option.bind_eq_some_iff.mp h
          obtain ⟨w', -, hp⟩ := Option.map_eq_some_iff.mp h
          cases hp
          exact hr
    -- an answer that is not waited for is dropped
    | deliver i =>
        obtain ⟨a, -, h⟩ := Option.map_eq_some_iff.mp h
        dsimp only at h
        split at h
        · cases h
          exact hr
        · rename_i c hc
          cases h
          exact hstep hc

end Twolk.Media
