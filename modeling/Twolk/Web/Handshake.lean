/-
  Twolk.Web.Handshake
  ───────────────────
  **THE MEDIA HANDSHAKE OF A CONSUMER TRANSPORT, AS THE CLIENT RUNS IT.**

  A worker finds a consumer to resume once the consume was acknowledged, and
  the mediasoup client consumes what the ack names.  So the client has to
  keep an order: consume, take the own ack, consume locally, resume, take the
  own ack, assign.

  `HandshakeStep` says once what a step of the page does to the socket and
  to the chains; the invariant follows from that.

  Main results:
    * `handshake_in_order`   — what is done for a transport is a beginning of
      the handshake, perhaps cut off by a failure, and every ack it goes on
      with is its own,
    * `raised_answered_once` — the callback of a `connect` or `produce` event
      gets what the own ack carries, or the own timeout, once.
-/
import Twolk.Web.Transport

namespace Twolk.Web.Transports

open Twolk.Lib Signaling

/-! ## §1. The statement. -/

/-- What is done for a consumer transport. -/
inductive Step where
  | consume
  | mediaConsume
  | mediaConsumed
  | resume
  | assigned
  | failed
  deriving DecidableEq, Repr

/-- The handshake. -/
def handshake : List Step :=
  [.consume, .mediaConsume, .mediaConsumed, .resume, .assigned]

/-- The step of transport `t` an observation is. -/
def Out.step (t : Nat) : Out → Option Step
  | .emit (.consumer t') (.transportConsumerConsume ..) _ =>
      if t' = t then some .consume else none
  | .emit (.consumer t') (.transportConsumerResume _) _ =>
      if t' = t then some .resume else none
  | .mediaConsume t' _ => if t' = t then some .mediaConsume else none
  | .mediaConsumed t' _ => if t' = t then some .mediaConsumed else none
  | .assigned t' _ => if t' = t then some .assigned else none
  | .failed (.consumer t') _ => if t' = t then some .failed else none
  | _ => none

/-- The steps of transport `t`, in order. -/
def steps (t : Nat) (tr : List Out) : List Step := tr.filterMap (Out.step t)

/-- A beginning of the handshake, perhaps cut off by a failure. -/
def InOrder (l : List Step) : Prop := ∃ k,
  l = handshake.take k ∨ 0 < k ∧ l = handshake.take k ++ [.failed]

/-- What must have been seen before an observation of a handshake. -/
def Out.backed (pre : List Out) : Out → Prop
  -- the member resumed is the one consumed
  | .emit (.consumer t) (.transportConsumerResume memberId) _ =>
      ∃ rtpCapabilities cId, .emit (.consumer t)
        (.transportConsumerConsume rtpCapabilities memberId) cId ∈ pre
  -- the local consume has the options of the own ack
  | .mediaConsume t options => ∃ rtpCapabilities memberId cId,
      .emit (.consumer t)
        (.transportConsumerConsume rtpCapabilities memberId) cId ∈ pre ∧
      .received ⟨.transportConsumerConsumeAck, cId, .consumed options⟩ ∈ pre
  -- what is assigned was consumed locally, and its resume acknowledged
  | .assigned t c => .mediaConsumed t c ∈ pre ∧ ∃ memberId cId value,
      .emit (.consumer t) (.transportConsumerResume memberId) cId ∈ pre ∧
      .received ⟨.transportConsumerResumeAck, cId, value⟩ ∈ pre
  | _ => True

/-- Every consumer transport keeps the order, and goes on with its own
acks. -/
structure Handshaken (tr : List Out) : Prop where
  order : ∀ t, InOrder (steps t tr)
  backed : Grounded Out.backed tr

/-- A message that is sent, and by whom. -/
def Out.sent : Out → Option (Owner × ForwardedEvent × String)
  | .emit owner message cId => some (owner, message, cId)
  | _ => none

/-- The messages sent so far; a request is named by its place. -/
def emits (tr : List Out) : List (Owner × ForwardedEvent × String) :=
  tr.filterMap Out.sent

/-- A message of a raised event. -/
def ofRaised : ForwardedEvent → Bool
  | .transportConsumerConsume .. | .transportConsumerResume _ => false
  | _ => true

/-- What must have been seen before the answer of a raised event. -/
def Out.answers (pre : List Out) : Out → Prop
  | .callback request value => ∃ owner message cId,
      (emits pre)[request]? = some (owner, message, cId) ∧
      ofRaised message = true ∧
      .received ⟨ackEventOf message, cId, value⟩ ∈ pre
  | .errback request e => ∃ owner message cId,
      (emits pre)[request]? = some (owner, message, cId) ∧
      ofRaised message = true ∧
      e = (ackEventOf message).timeoutMessage
  | _ => True

/-- The raised event an observation answers. -/
def Out.answered : Out → Option Nat
  | .callback request _ | .errback request _ => some request
  | _ => none

/-- The raised events that were answered, in order. -/
def answeredIn (tr : List Out) : List Nat := tr.filterMap Out.answered

/-! ## §2. What a step does. -/

namespace Page

/-- The member transport `t` is for, and the promise its chain is at. -/
def chainOf (w : Page) (t : Nat) : Option (MemberId × ConsumerChain) :=
  (w.consumers[t]?).map fun T => (T.sourceMemberId, T.chain)

end Page

/-- An observation that has no part in the handshakes. -/
def Out.quiet : Out → Bool
  | .produced .. | .trackEffect _ | .setTrack .. | .replaceTrack .. |
    .replaced .. | .failed (.producer _) _ | .thrown _ |
    .unhandledRejection _ => true
  | _ => false

/-- **What one step can do** to the socket and the chains. -/
inductive HandshakeStep (w : Page) : Page → List Out → Prop
  | quiet {w' : Page} {out : List Out} (hs : w'.socket = w.socket)
      (hr : w'.raised = w.raised) (hc : w'.chainOf = w.chainOf)
      (ho : ∀ o ∈ out, o.quiet = true) : HandshakeStep w w' out
  | received {w' : Page} (ack : Acks.Ack)
      (hs : w'.socket = w.socket.receive ack) (hr : w'.raised = w.raised)
      (hc : w'.chainOf = w.chainOf) : HandshakeStep w w' [.received ack]
  | timeout {w' : Page} {i : Nat} {r : Acks.Request}
      (hi : w.socket.requests[i]? = some r)
      (hs : w'.socket = w.socket.timeout i r) (hr : w'.raised = w.raised)
      (hc : w'.chainOf = w.chainOf) : HandshakeStep w w' []
  | created {w' : Page} {t : Nat} {caps : Json} {m : MemberId}
      {cId : String} {out : List Out} (hn : w.chainOf t = none)
      (hs : w'.socket
        = w.socket.request .transportConsumerConsumeAck cId)
      (hr : w'.raised = w.raised)
      (hc : w'.chainOf = Function.update w.chainOf t
        (some (m, .consuming w.socket.requests.length)))
      (ho : ∀ o ∈ out, o.quiet = true) :
      HandshakeStep w w'
        (.emit (.consumer t) (.transportConsumerConsume caps m) cId :: out)
  | acked {w' : Page} {t : Nat} {m : MemberId} {r : Nat}
      {options : TransportUpdateAck}
      (ht : w.chainOf t = some (m, .consuming r))
      (ho : w.outcomeOf r = some (.fulfilled (.consumed options)))
      (hs : w'.socket = w.socket) (hr : w'.raised = w.raised)
      (hc : w'.chainOf = Function.update w.chainOf t
        (some (m, .mediaConsume options))) :
      HandshakeStep w w' [.mediaConsume t options]
  | consumed {w' : Page} {t : Nat} {m : MemberId}
      {options : TransportUpdateAck} {c : MediasoupConsumer} {cId : String}
      (ht : w.chainOf t = some (m, .mediaConsume options))
      (hs : w'.socket
        = w.socket.request .transportConsumerResumeAck cId)
      (hr : w'.raised = w.raised)
      (hc : w'.chainOf = Function.update w.chainOf t
        (some (m, .resuming c w.socket.requests.length))) :
      HandshakeStep w w' [.mediaConsumed t c,
        .emit (.consumer t) (.transportConsumerResume m) cId]
  | assigned {w' : Page} {t : Nat} {m : MemberId} {r : Nat}
      {c : MediasoupConsumer} {value : Acks.AckValue}
      (ht : w.chainOf t = some (m, .resuming c r))
      (ho : w.outcomeOf r = some (.fulfilled value))
      (hs : w'.socket = w.socket) (hr : w'.raised = w.raised)
      (hc : w'.chainOf = Function.update w.chainOf t (some (m, .done))) :
      HandshakeStep w w' [.assigned t c]
  | assignedThrown {w' : Page} {t : Nat} {m : MemberId} {r : Nat}
      {c : MediasoupConsumer} {value : Acks.AckValue} {e : String}
      (ht : w.chainOf t = some (m, .resuming c r))
      (ho : w.outcomeOf r = some (.fulfilled value))
      (hs : w'.socket = w.socket) (hr : w'.raised = w.raised)
      (hc : w'.chainOf = Function.update w.chainOf t
        (some (m, .failed e))) :
      HandshakeStep w w' [.assigned t c, .failed (.consumer t) e]
  | failed {w' : Page} {t : Nat} {m : MemberId} {chain : ConsumerChain}
      {e : String} (ht : w.chainOf t = some (m, chain))
      (hlive : chain ≠ .done ∧ ∀ e', chain ≠ .failed e')
      (hs : w'.socket = w.socket) (hr : w'.raised = w.raised)
      (hc : w'.chainOf = Function.update w.chainOf t
        (some (m, .failed e))) :
      HandshakeStep w w' [.failed (.consumer t) e]
  | raised {w' : Page} {owner : Owner} {message : ForwardedEvent}
      {cId : String} (hm : ofRaised message = true)
      (hs : w'.socket = w.socket.request (ackEventOf message) cId)
      (hr : w'.raised = w.raised ++ [w.socket.requests.length])
      (hc : w'.chainOf = w.chainOf) :
      HandshakeStep w w' [.emit owner message cId]
  | answered {w' : Page} {r : Nat} {outcome : Acks.Outcome}
      (hin : r ∈ w.raised) (ho : w.outcomeOf r = some outcome)
      (hs : w'.socket = w.socket) (hr : w'.raised = w.raised.erase r)
      (hc : w'.chainOf = w.chainOf) :
      HandshakeStep w w' [Page.answerRaised r outcome]

namespace Page

variable {w w' : Page} {device : Json → Bool}

/-! ### What goes on beside the transports. -/

/-- Members come and go. -/
def SpaceOnly (w w' : Page) : Prop := ∃ space memberRef nextRef,
  w' = { w with space, memberRef, nextRef }

/-- The page plays something else. -/
def AudioOnly (w w' : Page) : Prop := ∃ consumerAudio,
  w' = { w with consumerAudio }

/-- The producing member's transports, and the user's track. -/
def ProducersOnly (w w' : Page) : Prop :=
  ∃ producers producerTransport userMediaTrack effectTrack trackHandlers,
    w' = { w with
      producers, producerTransport, userMediaTrack, effectTrack,
      trackHandlers }

theorem SpaceOnly.trans {w'' : Page} (h : SpaceOnly w w')
    (h' : SpaceOnly w' w'') : SpaceOnly w w'' := by
  obtain ⟨_, _, _, rfl⟩ := h
  obtain ⟨space, memberRef, nextRef, rfl⟩ := h'
  exact ⟨space, memberRef, nextRef, rfl⟩

theorem ProducersOnly.trans {w'' : Page} (h : ProducersOnly w w')
    (h' : ProducersOnly w' w'') : ProducersOnly w w'' := by
  obtain ⟨_, _, _, _, _, rfl⟩ := h
  obtain ⟨producers, producerTransport, userMediaTrack, effectTrack,
    trackHandlers, rfl⟩ := h'
  exact ⟨producers, producerTransport, userMediaTrack, effectTrack,
    trackHandlers, rfl⟩

theorem addInitial_spaceOnly (m : MemberId) (w : Page)
    (member : ClientSideMember) : SpaceOnly w (addInitial m w member) := by
  unfold addInitial
  split
  · exact ⟨w.space, w.memberRef, w.nextRef, rfl⟩
  · exact ⟨w.space, _, _, rfl⟩

/-- The members of a snapshot change the view only. By induction on them. -/
theorem foldl_addInitial_spaceOnly (m : MemberId) :
    ∀ (l : List ClientSideMember) (w : Page),
      SpaceOnly w (l.foldl (addInitial m) w)
  | [], w => ⟨w.space, w.memberRef, w.nextRef, rfl⟩
  | member :: l, w => (addInitial_spaceOnly m w member).trans
      (foldl_addInitial_spaceOnly m l (addInitial m w member))

theorem receiveSpace_spaceOnly (w : Page) (event : ServerToClientEvent) :
    SpaceOnly w (w.receiveSpace event) := by
  have hspace : SpaceOnly w { w with space := w.space.receive event } :=
    ⟨_, w.memberRef, w.nextRef, rfl⟩
  cases event with
  | spaceInit m caps clientSideSpace =>
      unfold receiveSpace
      dsimp only
      split
      · exact hspace
      · exact hspace.trans
          (foldl_addInitial_spaceOnly m clientSideSpace.members _)
  | memberJoin member =>
      unfold receiveSpace
      dsimp only
      split
      · exact hspace
      · exact ⟨_, _, _, rfl⟩
  | _ => exact hspace

/-- What `consumerReady` does when it does not throw: the member's track is
played. -/
theorem consumerReady_ok {handler : MemberRef × MemberId}
    (h : w.consumerReady handler = .ok w') :
    ∃ track, w.getConsumerTrack handler.2 = .ok track ∧
      w' = { w with
        consumerAudio := w.consumerAudio.set handler.2 track } := by
  unfold consumerReady at h
  cases htrack : w.getConsumerTrack handler.2 with
  | error e =>
      rw [htrack] at h
      cases h
  | ok track =>
      rw [htrack] at h
      exact ⟨track, rfl, (Except.ok.inj h).symm⟩

/-- Handlers of `transportReady` leave the transports alone. -/
theorem notifyConsumers_audioOnly :
    ∀ (l : List (MemberRef × MemberId)) (w : Page),
      AudioOnly w (w.notifyConsumers l).1
  | [], w => ⟨w.consumerAudio, rfl⟩
  | handler :: l, w => by
      unfold notifyConsumers
      cases h : w.consumerReady handler with
      | error e => exact ⟨w.consumerAudio, rfl⟩
      | ok w₁ =>
          obtain ⟨track, -, rfl⟩ := consumerReady_ok h
          obtain ⟨consumerAudio, hrest⟩ := notifyConsumers_audioOnly l
            { w with
              consumerAudio := w.consumerAudio.set handler.2 track }
          exact ⟨consumerAudio, hrest⟩

/-- Writing the chain of one transport leaves the others. -/
theorem chainOf_set {t : Nat} {T : ConsumerTransport}
    (hT : w.consumers[t]? = some T) (T' : ConsumerTransport)
    (h : w'.consumers = w.consumers.set t T') :
    w'.chainOf = Function.update w.chainOf t
      (some (T'.sourceMemberId, T'.chain)) := by
  funext t'
  rw [Function.update_apply]
  unfold chainOf
  rw [h, List.getElem?_set]
  obtain ⟨hlt, -⟩ := List.getElem?_eq_some_iff.mp hT
  by_cases heq : t' = t
  · subst heq
    rw [if_pos rfl, if_pos hlt, if_pos rfl]
    rfl
  · rw [if_neg (Ne.symm heq), if_neg heq]

/-- A transport that is created begins its own chain. -/
theorem chainOf_append (T : ConsumerTransport)
    (h : w'.consumers = w.consumers ++ [T]) :
    w'.chainOf = Function.update w.chainOf w.consumers.length
      (some (T.sourceMemberId, T.chain)) := by
  funext t'
  rw [Function.update_apply]
  unfold chainOf
  rw [h, Acks.getElem?_concat]
  split <;> rfl

/-- A chain is its source and its place in the handshake. -/
theorem chainOf_modify {t : Nat} {f : ConsumerTransport → ConsumerTransport}
    (hf : ∀ T, (f T).sourceMemberId = T.sourceMemberId ∧
      (f T).chain = T.chain)
    (h : w'.consumers = w.consumers.modify t f) :
    w'.chainOf = w.chainOf := by
  funext t'
  unfold chainOf
  rw [h, List.getElem?_modify]
  cases w.consumers[t']? with
  | none => rfl
  | some T =>
      show some _ = some _
      by_cases heq : t = t'
      · simp only [if_pos heq, (hf T).1, (hf T).2]
      · simp only [if_neg heq]

theorem chainOf_some {t : Nat} {T : ConsumerTransport}
    (hT : w.consumers[t]? = some T) :
    w.chainOf t = some (T.sourceMemberId, T.chain) := by
  rw [chainOf, hT]
  rfl

/-! ### The producing member. -/

/-- Nothing about consumers, seen or done. -/
def Quiet (w w' : Page) (out : List Out) : Prop :=
  ProducersOnly w w' ∧ ∀ o ∈ out, o.quiet = true

theorem Quiet.step {out : List Out} (h : Quiet w w' out) :
    HandshakeStep w w' out := by
  obtain ⟨⟨producers, producerTransport, userMediaTrack, effectTrack,
    trackHandlers, rfl⟩, ho⟩ := h
  exact .quiet rfl rfl rfl ho

theorem ProducersOnly.refl (w : Page) : ProducersOnly w w :=
  ⟨w.producers, w.producerTransport, w.userMediaTrack, w.effectTrack,
    w.trackHandlers, rfl⟩

/-- The transports of the producing member are all that changed. -/
theorem ProducersOnly.of_producers (w : Page)
    (producers : List ProducerTransport) :
    ProducersOnly w { w with producers } :=
  ⟨producers, w.producerTransport, w.userMediaTrack, w.effectTrack,
    w.trackHandlers, rfl⟩

theorem setProducerTrack_quiet {track : Track} {r : Page × List Out}
    (h : w.setProducerTrack track = .ok r) : Quiet w r.1 r.2 := by
  unfold setProducerTrack at h
  split at h
  · cases h
  · split at h
    · cases h
      exact ⟨.of_producers w _, by simp [Out.quiet]⟩
    · cases h
      exact ⟨.refl w, by simp [Out.quiet]⟩

/-- The listeners for a track say nothing of a handshake. By induction on them.
-/
theorem runTrackHandlers_quiet : ∀ (l : List Track) (w : Page),
    Quiet w (w.runTrackHandlers l).1 (w.runTrackHandlers l).2.1
  | [], w => ⟨.refl w, by simp [runTrackHandlers]⟩
  | track :: l, w => by
      unfold runTrackHandlers
      cases h : w.setProducerTrack track with
      | error e => exact ⟨.refl w, by simp⟩
      | ok r =>
          have hfirst := setProducerTrack_quiet h
          have hrest := runTrackHandlers_quiet l
            { r.1 with trackHandlers := r.1.trackHandlers.erase track }
          have herased : ProducersOnly r.1
              { r.1 with trackHandlers := r.1.trackHandlers.erase track } :=
            ⟨r.1.producers, r.1.producerTransport, r.1.userMediaTrack,
              r.1.effectTrack, _, rfl⟩
          refine ⟨(hfirst.1.trans herased).trans hrest.1, fun o ho => ?_⟩
          exact (List.mem_append.mp ho).elim (hfirst.2 o) (hrest.2 o)

/-- Nor do the handlers of a producer transport. By induction on them. -/
theorem notifyProducers_quiet : ∀ (l : List Unit) (w : Page),
    Quiet w (w.notifyProducers l).1 (w.notifyProducers l).2.1
  | [], w => ⟨.refl w, by simp [notifyProducers]⟩
  | () :: l, w => by
      have hfirst : Quiet w w.producerReady.1 w.producerReady.2.1 :=
        runTrackHandlers_quiet w.trackHandlers w
      unfold notifyProducers
      split
      · rename_i w₁ out e heq
        rw [heq] at hfirst
        exact hfirst
      · rename_i w₁ out heq
        rw [heq] at hfirst
        have hrest := notifyProducers_quiet l w₁
        refine ⟨hfirst.1.trans hrest.1, fun o ho => ?_⟩
        exact (List.mem_append.mp ho).elim (hfirst.2 o) (hrest.2 o)

theorem assignMediasoupProducer_quiet (w : Page) (t : Nat)
    (p : MediasoupProducer) :
    Quiet w (w.assignMediasoupProducer t p).1
      (w.assignMediasoupProducer t p).2 := by
  unfold assignMediasoupProducer
  dsimp only
  have hassigned : ProducersOnly w { w with
      producers := w.producers.modify t fun T =>
        { T with assigned := some p } } := .of_producers w _
  have hq := notifyProducers_quiet
    ((w.producers[t]?.map fun T => T.onceReadyHandlers).getD [])
    { w with producers := w.producers.modify t fun T =>
      { T with assigned := some p } }
  split
  · rename_i w₁ out heq
    rw [heq] at hq
    refine ⟨(hassigned.trans hq.1).trans (.of_producers w₁ _),
      fun o ho => ?_⟩
    rcases List.mem_cons.mp ho with rfl | ho
    · rfl
    · exact hq.2 o ho
  · rename_i w₁ out e heq
    rw [heq] at hq
    refine ⟨(hassigned.trans hq.1).trans (.of_producers w₁ _),
      fun o ho => ?_⟩
    rcases List.mem_append.mp ho with ho | ho
    · rcases List.mem_cons.mp ho with rfl | ho
      · rfl
      · exact hq.2 o ho
    · rw [List.mem_singleton.mp ho]
      rfl

theorem trackEffect_quiet (w : Page) (track : Track) :
    Quiet w (w.trackEffect track).1 (w.trackEffect track).2 := by
  have hseen : ProducersOnly w { w with effectTrack := some track } :=
    ⟨w.producers, w.producerTransport, w.userMediaTrack, some track,
      w.trackHandlers, rfl⟩
  unfold trackEffect
  dsimp only
  split
  · split
    · rename_i w₁ out heq
      have hset := setProducerTrack_quiet heq
      refine ⟨hseen.trans hset.1, fun o ho => ?_⟩
      rcases List.mem_cons.mp ho with rfl | ho
      · rfl
      · exact hset.2 o ho
    · exact ⟨hseen, by simp [Out.quiet]⟩
  · exact ⟨⟨w.producers, w.producerTransport, w.userMediaTrack, some track,
      _, rfl⟩, by simp [Out.quiet]⟩

/-! ### Consumer transports. -/

/-- The last `.then` of a chain ends it. -/
theorem assignMediasoupConsumer_step {t r : Nat} {T : ConsumerTransport}
    {c : MediasoupConsumer} {value : Acks.AckValue}
    (hT : w.consumers[t]? = some T) (hchain : T.chain = .resuming c r)
    (ho : w.outcomeOf r = some (.fulfilled value)) :
    HandshakeStep w (w.assignMediasoupConsumer t T c).1
      (w.assignMediasoupConsumer t T c).2 := by
  obtain ⟨consumerAudio, hm⟩ := notifyConsumers_audioOnly
    T.onceReadyHandlers
    { w with consumers := w.consumers.set t { T with assigned := some c } }
  have ht := chainOf_some hT
  rw [hchain] at ht
  unfold assignMediasoupConsumer
  dsimp only
  split
  · rename_i w₁ heq
    rw [heq] at hm
    subst hm
    refine .assigned ht ho rfl rfl (chainOf_set hT
      { T with
        assigned := some c
        onceReadyHandlers := []
        chain := .done } ?_)
    exact List.set_set _
  · rename_i w₁ e heq
    rw [heq] at hm
    subst hm
    refine .assignedThrown ht ho rfl rfl (chainOf_set hT
      { T with assigned := some c, chain := .failed e } ?_)
    exact List.set_set _

/-- An ack or a timeout moves its own chain on. -/
theorem continueConsumer_step {t r : Nat} {T : ConsumerTransport}
    {outcome : Acks.Outcome} {out : List Out}
    (hT : w.consumers[t]? = some T) (hr : T.chain.request = some r)
    (ho : w.outcomeOf r = some outcome)
    (h : w.continueConsumer t T outcome = some (w', out)) :
    HandshakeStep w w' out := by
  have ht := chainOf_some hT
  unfold continueConsumer at h
  split at h
  · rename_i r' options hchain
    rw [hchain] at hr ht
    cases hr
    cases h
    exact .acked ht ho rfl rfl
      (chainOf_set hT { T with chain := .mediaConsume options } rfl)
  · rename_i c r' value hchain
    rw [hchain] at hr
    cases hr
    have hstep := assignMediasoupConsumer_step hT hchain ho
    rw [Option.some.inj h] at hstep
    exact hstep
  · rename_i r' e hchain
    rw [hchain] at ht
    cases h
    exact .failed ht ⟨by simp, by simp⟩ rfl rfl
      (chainOf_set hT { T with chain := .failed e } rfl)
  · rename_i c r' e hchain
    rw [hchain] at ht
    cases h
    exact .failed ht ⟨by simp, by simp⟩ rfl rfl
      (chainOf_set hT { T with chain := .failed e } rfl)
  · cases h

/-- Creating a transport of either kind begins a handshake, or fails. -/
theorem runHandler_step (device : Json → Bool) (w : Page) (ran : List Nat)
    (caps : Json) (cId : String) (request : TransportRequest) :
    HandshakeStep w ({ w with ran }.runHandler device caps cId request).1
      ({ w with ran }.runHandler device caps cId request).2 := by
  cases request with
  | createProducer options =>
      unfold runHandler
      dsimp only
      split
      · exact .quiet rfl rfl rfl (by simp)
      · exact .quiet rfl rfl rfl (by simp [Out.quiet])
  | createConsumer options memberId =>
      have hnone : w.chainOf w.consumers.length = none := by
        rw [chainOf, List.getElem?_eq_none (Nat.le_refl _)]
        rfl
      have hcreated : ({ w with ran }.createConsumer options caps memberId
          cId).1.chainOf
          = Function.update w.chainOf w.consumers.length
            (some (memberId, .consuming w.socket.requests.length)) :=
        chainOf_append
          { options, assigned := none, onceReadyHandlers := [],
            sourceMemberId := memberId
            chain := .consuming w.socket.requests.length } rfl
      unfold runHandler
      dsimp only
      split
      · split
        · refine .created hnone rfl rfl ?_ (by simp)
          rw [← hcreated]
          exact chainOf_modify (f := fun T => { T with
            onceReadyHandlers := T.onceReadyHandlers ++
              [(w.memberRef memberId, memberId)] })
            (fun T => ⟨rfl, rfl⟩) rfl
        · exact .created hnone rfl rfl hcreated (by simp [Out.quiet])
      · exact .quiet rfl rfl rfl (by simp [Out.quiet])

/-- The consumer is there: a resume is next. -/
theorem mediaConsumed_step {t : Nat} {T : ConsumerTransport}
    {options : TransportUpdateAck} (c : MediasoupConsumer) (cId : String)
    (hT : w.consumers[t]? = some T)
    (hchain : T.chain = .mediaConsume options) :
    HandshakeStep w (w.mediaConsumed t T c cId).1
      (w.mediaConsumed t T c cId).2 := by
  have ht := chainOf_some hT
  rw [hchain] at ht
  exact .consumed ht rfl rfl (chainOf_set hT
    { T with chain := .resuming c w.socket.requests.length } rfl)

/-- A message is sent, with a listener for its ack. -/
theorem raise_step (w : Page) (owner : Owner) {message : ForwardedEvent}
    (hm : ofRaised message = true) (cId : String) :
    HandshakeStep w (w.raise owner message cId).1
      (w.raise owner message cId).2 :=
  .raised hm rfl rfl rfl

/-- **The step lemma**: what a step of the page does to its handshakes. -/
theorem step_cases {a : Action} {out : List Out}
    (h : w.step device a = some (w', out)) : HandshakeStep w w' out := by
  -- by the action: most say nothing of a handshake
  cases a with
  | receive event =>
      rw [step, receive] at h
      split at h
      · cases h
        exact .received _ rfl rfl rfl
      · cases h
        obtain ⟨space, memberRef, nextRef, heq⟩ :=
          receiveSpace_spaceOnly w event
        rw [heq]
        exact .quiet rfl rfl rfl (by simp)
  | disconnected =>
      cases h
      exact .quiet rfl rfl rfl (by simp)
  -- a handler that runs creates a transport, or throws
  | runHandler i caps cId =>
      rw [step] at h
      split at h
      · cases h
      · obtain ⟨request, -, heq⟩ := Option.map_eq_some_iff.mp h
        have hstep := runHandler_step device w (w.ran ++ [i]) caps cId request
        rw [heq] at hstep
        exact hstep
  | timeout i =>
      obtain ⟨r, hr, h⟩ := Option.bind_eq_some_iff.mp h
      split at h
      · cases h
        exact .timeout hr rfl rfl rfl
      · cases h
  -- a chain goes on by the outcome of its request
  | continueConsumer t =>
      obtain ⟨T, hT, h⟩ := Option.bind_eq_some_iff.mp h
      obtain ⟨outcome, ho, h⟩ := Option.bind_eq_some_iff.mp h
      obtain ⟨r, hr, ho⟩ := Option.bind_eq_some_iff.mp ho
      exact continueConsumer_step hT hr ho h
  -- these two settle the promise of mediasoup's `consume`
  | mediaConsumed t c cId =>
      obtain ⟨T, hT, h⟩ := Option.bind_eq_some_iff.mp h
      split at h
      · rename_i options hchain
        have hstep := mediaConsumed_step c cId hT hchain
        rw [Option.some.inj h] at hstep
        exact hstep
      · cases h
  | mediaConsumeRejected t message =>
      obtain ⟨T, hT, h⟩ := Option.bind_eq_some_iff.mp h
      split at h
      · rename_i options hchain
        have ht := chainOf_some hT
        rw [hchain] at ht
        cases h
        exact .failed ht ⟨by simp, by simp⟩ rfl rfl
          (chainOf_set hT { T with chain := .failed message } rfl)
      · cases h
  -- producers have no handshake to follow
  | produced t p =>
      obtain ⟨T, -, h⟩ := Option.bind_eq_some_iff.mp h
      split at h
      · have hq := assignMediasoupProducer_quiet w t p
        rw [Option.some.inj h] at hq
        exact hq.step
      · cases h
  | produceRejected t message =>
      obtain ⟨T, -, h⟩ := Option.bind_eq_some_iff.mp h
      split at h
      · cases h
        exact .quiet rfl rfl rfl (by simp [Out.quiet])
      · cases h
  | producerConnect t dtlsParameters cId =>
      obtain ⟨T, -, heq⟩ := Option.map_eq_some_iff.mp h
      cases heq
      exact raise_step w _ rfl cId
  | producerProduce t kind rtpParameters cId =>
      obtain ⟨T, -, heq⟩ := Option.map_eq_some_iff.mp h
      cases heq
      exact raise_step w _ rfl cId
  | consumerConnect t dtlsParameters cId =>
      obtain ⟨T, -, heq⟩ := Option.map_eq_some_iff.mp h
      cases heq
      exact raise_step w _ rfl cId
  -- a raised message is answered where its request has settled
  | answerRaised r =>
      rw [step] at h
      split at h
      · rename_i hin
        obtain ⟨outcome, ho, heq⟩ := Option.map_eq_some_iff.mp h
        cases heq
        exact .answered hin ho rfl rfl rfl
      · cases h
  | userMedia track =>
      cases h
      exact .quiet rfl rfl rfl (by simp)
  | trackEffect =>
      rw [step] at h
      split at h
      · cases h
      · obtain ⟨track, -, heq⟩ := Option.map_eq_some_iff.mp h
        have hq := trackEffect_quiet w track
        rw [heq] at hq
        exact hq.step
  | trackReplaced t i =>
      obtain ⟨T, -, h⟩ := Option.bind_eq_some_iff.mp h
      obtain ⟨track, -, heq⟩ := Option.map_eq_some_iff.mp h
      cases heq
      exact .quiet rfl rfl rfl (by simp [Out.quiet])
  | replaceTrackRejected t i message =>
      obtain ⟨T, -, h⟩ := Option.bind_eq_some_iff.mp h
      obtain ⟨track, -, heq⟩ := Option.map_eq_some_iff.mp h
      cases heq
      exact .quiet rfl rfl rfl (by simp [Out.quiet])

end Page

/-! ## §3. Requests and what settles them. -/

section Socket

open Acks Acks.Socket

variable {received received' : Ack → Prop} {w : Socket} {ack : Ack}
  {p : AckEvent × Nat}

/-- What a request waits for. -/
def keys (w : Socket) : List (AckEvent × String) :=
  w.requests.map fun r => (r.event, r.cId)

/-- A listener listens for the ack of its request. -/
def Listens (w : Socket) (p : AckEvent × Nat) : Prop :=
  ∃ r, w.requests[p.2]? = some r ∧ r.event = p.1

/-- What a promise may be settled with: an own ack that was received, or the
own timer. -/
def Owed (received : Ack → Prop) (r : Acks.Request) : Outcome → Prop
  | .fulfilled value => received ⟨r.event, r.cId, value⟩
  | .rejected e => e = r.event.timeoutMessage

/-- Every listener belongs to its request, and every promise is settled as it
may be. -/
structure Sound (received : Ack → Prop) (w : Socket) : Prop where
  listens : ∀ p ∈ w.listeners, Listens w p
  owed : ∀ (i : Nat) r o, w.requests[i]? = some r → r.outcome = some o →
    Owed received r o

theorem Owed.mono (hr : ∀ ack, received ack → received' ack)
    {r : Acks.Request} {o : Outcome} (h : Owed received r o) :
    Owed received' r o := by
  cases o with
  | fulfilled value => exact hr _ h
  | rejected e => exact h

theorem Sound.mono (h : Sound received w)
    (hr : ∀ ack, received ack → received' ack) : Sound received' w where
  listens := h.listens
  owed i r o hi ho := (h.owed i r o hi ho).mono hr

theorem Sound.request (h : Sound received w) (event : AckEvent)
    (cId : String) : Sound received (w.request event cId) := by
  have hsame : ∀ i : Nat, (w.request event cId).requests[i]?
      = if i = w.requests.length then some ⟨event, cId, none, true⟩
        else w.requests[i]? := getElem?_concat w.requests _
  refine ⟨fun p hp => ?_, fun i r o hi ho => ?_⟩
  · rcases List.mem_append.mp hp with hp | hp
    · obtain ⟨r, hr, hev⟩ := h.listens p hp
      obtain ⟨hlt, -⟩ := List.getElem?_eq_some_iff.mp hr
      refine ⟨r, ?_, hev⟩
      rw [hsame, if_neg (by omega)]
      exact hr
    · rw [List.mem_singleton.mp hp]
      refine ⟨⟨event, cId, none, true⟩, ?_, rfl⟩
      rw [hsame, if_pos rfl]
  · rw [hsame] at hi
    split at hi
    · cases hi
      cases ho
    · exact h.owed i r o hi ho

/-- Settling promises keeps the socket sound, if each is settled as it may be.
-/
theorem Sound.settled {w' : Socket} {f : Nat → Acks.Request → Acks.Request}
    (h : Sound received w)
    (hreq : ∀ j : Nat, w'.requests[j]? = w.requests[j]?.map (f j))
    (hlis : ∀ p ∈ w'.listeners, p ∈ w.listeners)
    (hkey : ∀ j r, (f j r).event = r.event ∧ (f j r).cId = r.cId)
    (howed : ∀ (j : Nat) r o, w.requests[j]? = some r →
      (f j r).outcome = some o → r.outcome = some o ∨ Owed received r o) :
    Sound received w' ∧ keys w' = keys w := by
  refine ⟨⟨fun p hp => ?_, fun j r o hj ho => ?_⟩,
    List.ext_getElem? fun j => ?_⟩
  · obtain ⟨r, hr, hev⟩ := h.listens p (hlis p hp)
    refine ⟨f p.2 r, ?_, (hkey p.2 r).1.trans hev⟩
    rw [hreq, hr]
    rfl
  · rw [hreq] at hj
    obtain ⟨r₀, hr₀, rfl⟩ := Option.map_eq_some_iff.mp hj
    have hr₀' : Owed received r₀ o :=
      (howed j r₀ o hr₀ ho).elim (h.owed j r₀ o hr₀) id
    cases o <;> simpa only [Owed, (hkey j r₀).1, (hkey j r₀).2] using hr₀'
  · unfold keys
    rw [List.getElem?_map, List.getElem?_map, hreq, Option.map_map]
    refine congrArg (fun g => Option.map g w.requests[j]?) (funext fun r => ?_)
    exact Prod.ext (hkey j r).1 (hkey j r).2

/-- A settled promise stays as it is. -/
theorem settle_outcome {r : Acks.Request} {outcome o : Outcome}
    (h : (r.settle outcome).outcome = some o) :
    r.outcome = some o ∨ o = outcome := by
  have h : r.outcome.or (some outcome) = some o := h
  cases hr : r.outcome with
  | none =>
      rw [hr] at h
      exact .inr (Option.some.inj h).symm
  | some o' =>
      rw [hr] at h
      exact .inl h

theorem Sound.handle (h : Sound received w) (hp : Listens w p)
    (hev : p.1 = ack.event) (hack : received ack) :
    Sound received (handle ack w p) ∧ keys (handle ack w p) = keys w := by
  refine h.settled (f := fun j r =>
    if p.2 = j ∧ r.cId = ack.cId then answered r (.fulfilled ack.value)
    else r) (handle_requests ack w p) (fun q hq => ?_) (fun j r => ?_)
    fun j r o hr ho => ?_
  · unfold Socket.handle at hq
    split at hq
    · exact List.mem_of_mem_erase hq
    · exact hq
  · split <;> exact ⟨rfl, rfl⟩
  · split at ho
    · rename_i hc
      refine (settle_outcome ho).imp_right fun heq => ?_
      -- the listener is called with the ack of its request
      obtain ⟨r', hr', hev'⟩ := hp
      rw [hc.1, hr] at hr'
      cases hr'
      rw [heq]
      show received ⟨r.event, r.cId, ack.value⟩
      rw [hev', hev, hc.2]
      exact hack
    · exact .inl ho

theorem handle_listens {q : AckEvent × Nat} (h : Listens w q) :
    Listens (handle ack w p) q := by
  obtain ⟨r, hr, hev⟩ := h
  unfold Listens
  rw [handle_requests, hr, Option.map_some]
  refine ⟨_, rfl, ?_⟩
  split <;> exact hev

/-- Delivering an ack to all its listeners keeps the socket sound. By induction
on the copy of the listeners. -/
theorem foldl_handle_sound (hack : received ack) :
    ∀ (l : List (AckEvent × Nat)) (w : Socket), Sound received w →
      (∀ p ∈ l, Listens w p ∧ p.1 = ack.event) →
      Sound received (l.foldl (Socket.handle ack) w) ∧
        keys (l.foldl (Socket.handle ack) w) = keys w
  | [], w, h, _ => ⟨h, rfl⟩
  | p :: l, w, h, hl => by
      have hp := hl p List.mem_cons_self
      obtain ⟨hsound, hkeys⟩ := h.handle hp.1 hp.2 hack
      obtain ⟨hsound', hkeys'⟩ := foldl_handle_sound hack l
        (Socket.handle ack w p) hsound fun q hq =>
          have hq := hl q (List.mem_cons_of_mem p hq)
          ⟨handle_listens hq.1, hq.2⟩
      exact ⟨hsound', hkeys'.trans hkeys⟩

/-- An ack that arrives keeps the socket sound. -/
theorem Sound.receive (h : Sound received w) (hack : received ack) :
    Sound received (w.receive ack) ∧ keys (w.receive ack) = keys w := by
  refine foldl_handle_sound hack _ w h fun p hp => ?_
  obtain ⟨hin, hev⟩ := List.mem_filter.mp hp
  exact ⟨h.listens p hin, of_decide_eq_true hev⟩

/-- So does a timer that runs out. -/
theorem Sound.timeout (h : Sound received w) {i : Nat} {r : Acks.Request}
    (hi : w.requests[i]? = some r) :
    Sound received (w.timeout i r) ∧ keys (w.timeout i r) = keys w := by
  refine h.settled (f := fun j r' =>
    if i = j then answered r' (.rejected r.event.timeoutMessage) else r')
    (fun j => ?_) (fun p hp => hp) (fun j r' => ?_) fun j r' o hr' ho => ?_
  · unfold Socket.timeout
    rw [settle_requests, stopTimer_requests, Option.map_map]
    refine congrArg (fun g => Option.map g w.requests[j]?) ?_
    funext r'
    by_cases heq : i = j
    · simp [heq, answered, Request.settle]
    · simp [heq]
  · split <;> exact ⟨rfl, rfl⟩
  · split at ho
    · rename_i hij
      rw [← hij, hi] at hr'
      cases hr'
      exact (settle_outcome ho).imp_right fun heq => by
        rw [heq]
        rfl
    · exact .inl ho

end Socket

/-- The socket has the requests that were sent. -/
structure Sent (socket : Acks.Socket) (tr : List Out) : Prop where
  sound : Sound (fun ack => .received ack ∈ tr) socket
  keys : keys socket
    = (emits tr).map fun s => (ackEventOf s.2.1, s.2.2)

section Sent

variable {w w' : Page} {tr out : List Out} {socket : Acks.Socket}

theorem emits_append (tr out : List Out) :
    emits (tr ++ out) = emits tr ++ emits out :=
  List.filterMap_append

theorem emits_getElem?_append {r : Nat}
    {s : Owner × ForwardedEvent × String} (h : (emits tr)[r]? = some s)
    (out : List Out) : (emits (tr ++ out))[r]? = some s := by
  obtain ⟨hlt, -⟩ := List.getElem?_eq_some_iff.mp h
  rw [emits_append, List.getElem?_append_left hlt]
  exact h

theorem emit_mem {owner : Owner} {message : ForwardedEvent} {cId : String}
    {r : Nat} (h : (emits tr)[r]? = some (owner, message, cId)) :
    .emit owner message cId ∈ tr := by
  obtain ⟨o, ho, hsent⟩ := List.mem_filterMap.mp (List.mem_of_getElem? h)
  cases o with
  | emit => cases hsent; exact ho
  | _ => cases hsent

theorem Sent.length_eq (h : Sent socket tr) :
    socket.requests.length = (emits tr).length := by
  have hlen := congrArg List.length h.keys
  unfold Transports.keys at hlen
  rwa [List.length_map, List.length_map] at hlen

/-- Where nothing is sent, each request is still one message. -/
theorem Sent.same (h : Sent socket tr) (ho : emits out = []) :
    Sent socket (tr ++ out) where
  sound := h.sound.mono fun _ hin => List.mem_append_left _ hin
  keys := by rw [emits_append, ho, List.append_nil, h.keys]

/-- Each message sent is one request of the socket. -/
theorem Sent.request (h : Sent socket tr) {owner : Owner}
    {message : ForwardedEvent} {cId : String}
    (ho : emits out = [(owner, message, cId)]) :
    Sent (socket.request (ackEventOf message) cId) (tr ++ out) where
  sound := (h.sound.request _ cId).mono fun _ hin =>
    List.mem_append_left _ hin
  keys := by
    rw [emits_append, ho, List.map_append, ← h.keys]
    exact List.map_append

theorem Sent.receive (h : Sent socket tr) (ack : Acks.Ack) :
    Sent (socket.receive ack) (tr ++ [.received ack]) := by
  have hsound : Sound (fun ack' => .received ack' ∈ tr ++ [.received ack])
      socket := h.sound.mono fun _ hin => List.mem_append_left _ hin
  obtain ⟨hsound, hkeys⟩ := hsound.receive
    (List.mem_append_right tr List.mem_cons_self)
  refine ⟨hsound, ?_⟩
  rw [hkeys, h.keys, emits_append]
  exact congrArg (List.map _) (List.append_nil _).symm

theorem Sent.timeout (h : Sent socket tr) {i : Nat} {r : Acks.Request}
    (hi : socket.requests[i]? = some r) : Sent (socket.timeout i r) tr := by
  obtain ⟨hsound, hkeys⟩ := h.sound.timeout hi
  exact ⟨hsound, hkeys.trans h.keys⟩

/-- **What a settled promise tells**: the own ack was received, or the own
timer fired. -/
theorem Sent.owed (h : Sent w.socket tr) {r : Nat} {o : Acks.Outcome}
    {owner : Owner} {message : ForwardedEvent} {cId : String}
    (hr : (emits tr)[r]? = some (owner, message, cId))
    (ho : w.outcomeOf r = some o) :
    Owed (fun ack => .received ack ∈ tr)
      ⟨ackEventOf message, cId, none, true⟩ o := by
  obtain ⟨q, hq, hout⟩ := Option.bind_eq_some_iff.mp ho
  have howed := h.sound.owed r q o hq hout
  have hkey : (Transports.keys w.socket)[r]?
      = some (ackEventOf message, cId) := by
    rw [h.keys, List.getElem?_map, hr]
    rfl
  unfold Transports.keys at hkey
  rw [List.getElem?_map, hq] at hkey
  obtain ⟨hevent, hcId⟩ := Prod.mk.inj (Option.some.inj hkey)
  rw [← hevent, ← hcId]
  cases o <;> exact howed

end Sent

/-! ## §4. The handshake. -/

/-- Where the handshake of transport `t` is, for each promise its chain may
be at. -/
def Stage (tr : List Out) (t : Nat) :
    Option (MemberId × ConsumerChain) → Prop
  -- a transport that was never created has taken no step
  | none => steps t tr = []
  -- it has asked to consume, and waits for the ack
  | some (m, .consuming r) => steps t tr = handshake.take 1 ∧
      ∃ caps cId, (emits tr)[r]?
        = some (.consumer t, .transportConsumerConsume caps m, cId)
  | some (m, .mediaConsume _) => steps t tr = handshake.take 2 ∧
      ∃ caps cId,
        .emit (.consumer t) (.transportConsumerConsume caps m) cId ∈ tr
  -- the consumer is there, and its resume is waited for
  | some (m, .resuming c r) => steps t tr = handshake.take 4 ∧
      .mediaConsumed t c ∈ tr ∧ ∃ cId, (emits tr)[r]?
        = some (.consumer t, .transportConsumerResume m, cId)
  | some (_, .done) => steps t tr = handshake
  -- a handshake that failed took some of the steps, in order
  | some (_, .failed _) => ∃ k, 0 < k ∧
      steps t tr = handshake.take k ++ [.failed]

/-- The invariant. -/
structure Handshaking (w : Page) (tr : List Out) : Prop where
  sent : Sent w.socket tr
  stage : ∀ t, Stage tr t (w.chainOf t)
  backed : Grounded Out.backed tr

section Handshaking

variable {w w' : Page} {tr out : List Out} {t : Nat}

/-- At every stage the steps so far are in order. -/
theorem Stage.inOrder {chain : Option (MemberId × ConsumerChain)}
    (h : Stage tr t chain) : InOrder (steps t tr) := by
  cases chain with
  | none => exact ⟨0, .inl h⟩
  | some p =>
      obtain ⟨m, chain⟩ := p
      cases chain with
      | consuming r => exact ⟨1, .inl h.1⟩
      | mediaConsume options => exact ⟨2, .inl h.1⟩
      | resuming c r => exact ⟨4, .inl h.1⟩
      | done => exact ⟨5, .inl h⟩
      | failed e =>
          obtain ⟨k, hk, h⟩ := h
          exact ⟨k, .inr ⟨hk, h⟩⟩

theorem steps_append (t : Nat) (tr out : List Out) :
    steps t (tr ++ out) = steps t tr ++ steps t out :=
  List.filterMap_append

theorem steps_eq_nil (h : ∀ o ∈ out, o.step t = none) : steps t out = [] :=
  List.filterMap_eq_nil_iff.mpr h

/-- What is done for others leaves a handshake where it is. -/
theorem Stage.frame {chain : Option (MemberId × ConsumerChain)}
    (h : Stage tr t chain) (ho : ∀ o ∈ out, o.step t = none) :
    Stage (tr ++ out) t chain := by
  have hsteps : steps t (tr ++ out) = steps t tr := by
    rw [steps_append, steps_eq_nil ho, List.append_nil]
  cases chain with
  | none => exact hsteps.trans h
  | some p =>
      obtain ⟨m, chain⟩ := p
      cases chain with
      | consuming r =>
          obtain ⟨hs, caps, cId, hr⟩ := h
          exact ⟨hsteps.trans hs, caps, cId, emits_getElem?_append hr out⟩
      | mediaConsume options =>
          obtain ⟨hs, caps, cId, hin⟩ := h
          exact ⟨hsteps.trans hs, caps, cId, List.mem_append_left _ hin⟩
      | resuming c r =>
          obtain ⟨hs, hc, cId, hr⟩ := h
          exact ⟨hsteps.trans hs, List.mem_append_left _ hc, cId,
            emits_getElem?_append hr out⟩
      | done => exact hsteps.trans h
      | failed e =>
          obtain ⟨k, hk, h⟩ := h
          exact ⟨k, hk, hsteps.trans h⟩

/-- When one handshake goes on, the others stay at their stages. -/
theorem Handshaking.stage_update {new : MemberId × ConsumerChain}
    (h : Handshaking w tr)
    (hc : w'.chainOf = Function.update w.chainOf t (some new))
    (ho : ∀ o ∈ out, ∀ t', t' ≠ t → o.step t' = none)
    (ht : Stage (tr ++ out) t (some new)) (t' : Nat) :
    Stage (tr ++ out) t' (w'.chainOf t') := by
  rw [hc]
  by_cases heq : t' = t
  · rw [heq, Function.update_self]
    exact ht
  · rw [Function.update_of_ne heq]
    exact (h.stage t').frame fun o hin => ho o hin t' heq

theorem Handshaking.stage_same (h : Handshaking w tr)
    (hc : w'.chainOf = w.chainOf) (ho : ∀ o ∈ out, ∀ t', o.step t' = none)
    (t' : Nat) : Stage (tr ++ out) t' (w'.chainOf t') := by
  rw [hc]
  exact (h.stage t').frame fun o hin => ho o hin t'

theorem Out.step_of_quiet {o : Out} (h : o.quiet = true) (t : Nat) :
    o.step t = none := by
  cases o with
  | failed owner message =>
      cases owner with
      | producer => rfl
      | consumer => cases h
  | produced | trackEffect | setTrack | replaceTrack | replaced | thrown |
    unhandledRejection => rfl
  | _ => cases h

theorem Out.sent_of_quiet {o : Out} (h : o.quiet = true) :
    o.sent = none := by
  cases o with
  | emit => cases h
  | _ => rfl

theorem Out.backed_of_quiet {o : Out} (h : o.quiet = true)
    (pre : List Out) : o.backed pre := by
  cases o with
  | failed | produced | trackEffect | setTrack | replaceTrack | replaced |
    thrown | unhandledRejection => trivial
  | _ => cases h

theorem emits_quiet (h : ∀ o ∈ out, o.quiet = true) : emits out = [] :=
  List.filterMap_eq_nil_iff.mpr fun o ho => Out.sent_of_quiet (h o ho)

/-- The messages of raised events are not of a handshake. -/
theorem step_emit_of_raised {message : ForwardedEvent}
    (h : ofRaised message = true) (owner : Owner) (cId : String) (t : Nat) :
    (Out.emit owner message cId).step t = none := by
  cases message with
  | transportConsumerConsume | transportConsumerResume => cases h
  | _ => cases owner <;> rfl

theorem backed_emit_of_raised {message : ForwardedEvent}
    (h : ofRaised message = true) (owner : Owner) (cId : String)
    (pre : List Out) : (Out.emit owner message cId).backed pre := by
  cases message with
  | transportConsumerConsume | transportConsumerResume => cases h
  | _ => cases owner <;> trivial

/-- A failure cuts a handshake off. -/
theorem Handshaking.failed (h : Handshaking w tr) {m : MemberId}
    {chain : ConsumerChain} {e : String}
    (ht : w.chainOf t = some (m, chain))
    (hlive : chain ≠ .done ∧ ∀ e', chain ≠ .failed e') :
    Stage (tr ++ [.failed (.consumer t) e]) t (some (m, .failed e)) := by
  have hstage := h.stage t
  rw [ht] at hstage
  have hsteps : ∀ {k : Nat}, steps t tr = handshake.take k → 0 < k →
      Stage (tr ++ [.failed (.consumer t) e]) t (some (m, .failed e)) := by
    intro k hk hpos
    refine ⟨k, hpos, ?_⟩
    rw [steps_append, hk]
    simp [steps, Out.step]
  cases chain with
  | consuming r => exact hsteps hstage.1 (by omega)
  | mediaConsume options => exact hsteps hstage.1 (by omega)
  | resuming c r => exact hsteps hstage.1 (by omega)
  | done => exact absurd rfl hlive.1
  | failed e' => exact absurd rfl (hlive.2 e')

/-- What the last `.then` of a chain goes on with. -/
theorem Handshaking.assigned_backed (h : Handshaking w tr) {m : MemberId}
    {c : MediasoupConsumer} {r : Nat} {value : Acks.AckValue}
    (ht : w.chainOf t = some (m, .resuming c r))
    (ho : w.outcomeOf r = some (.fulfilled value)) :
    (Out.assigned t c).backed tr ∧ steps t tr = handshake.take 4 := by
  have hstage := h.stage t
  rw [ht] at hstage
  obtain ⟨hsteps, hc, cId, hr⟩ := hstage
  exact ⟨⟨hc, m, cId, value, emit_mem hr, h.sent.owed hr ho⟩, hsteps⟩

/-- **A step of the page keeps the invariant.** -/
theorem Handshaking.step (h : Handshaking w tr)
    (hstep : HandshakeStep w w' out) : Handshaking w' (tr ++ out) := by
  -- by the kind of step: the messages, the stages, and what backs them
  cases hstep with
  | quiet hs hr hc ho =>
      refine ⟨?_, h.stage_same hc fun o hin t => Out.step_of_quiet (ho o hin) t,
        h.backed.append fun o hin => Out.backed_of_quiet (ho o hin)⟩
      rw [hs]
      exact h.sent.same (emits_quiet ho)
  | received ack hs hr hc =>
      refine ⟨?_, h.stage_same hc (by simp [Out.step]),
        grounded_concat.mpr ⟨h.backed, trivial⟩⟩
      rw [hs]
      exact h.sent.receive ack
  | timeout hi hs hr hc =>
      rw [List.append_nil]
      refine ⟨?_, fun t => ?_, h.backed⟩
      · rw [hs]
        exact h.sent.timeout hi
      · rw [hc]
        exact h.stage t
  -- a new transport: it is at the first stage
  | @created t caps m cId out hn hs hr hc ho =>
      have hbacked : Grounded Out.backed
          (tr ++ [.emit (.consumer t) (.transportConsumerConsume caps m) cId])
        := grounded_concat.mpr ⟨h.backed, trivial⟩
      have hemits : emits (.emit (.consumer t)
          (.transportConsumerConsume caps m) cId :: out)
          = [(.consumer t, .transportConsumerConsume caps m, cId)] :=
        congrArg (List.cons _) (emits_quiet ho)
      have hstage := h.stage t
      rw [hn] at hstage
      refine ⟨?_, h.stage_update hc (fun o hin t' hne => ?_) ⟨?_, caps, cId,
        ?_⟩, ?_⟩
      · rw [hs]
        exact h.sent.request hemits
      · rcases List.mem_cons.mp hin with rfl | hin
        · exact if_neg (Ne.symm hne)
        · exact Out.step_of_quiet (ho o hin) t'
      -- the first step of a handshake is its `consume`
      · rw [steps_append, hstage]
        have hfirst : (Out.emit (.consumer t)
            (.transportConsumerConsume caps m) cId).step t = some .consume :=
          if_pos rfl
        show steps t (_ :: out) = [.consume]
        rw [steps, List.filterMap_cons_some hfirst]
        exact congrArg (List.cons _)
          (steps_eq_nil fun o hin => Out.step_of_quiet (ho o hin) t)
      · rw [emits_append, hemits, h.sent.length_eq]
        exact List.getElem?_concat_length
      · rw [← List.singleton_append, ← List.append_assoc]
        exact hbacked.append fun o hin => Out.backed_of_quiet (ho o hin)
  -- the ack is there, and mediasoup is asked
  | @acked t m r options ht ho hs hr hc =>
      have hstage := h.stage t
      rw [ht] at hstage
      obtain ⟨hsteps, caps, cId, hr⟩ := hstage
      refine ⟨?_, h.stage_update hc (by simp [Out.step, eq_comm]) ⟨?_, caps,
        cId, List.mem_append_left _ (emit_mem hr)⟩,
        grounded_concat.mpr ⟨h.backed, caps, m, cId, emit_mem hr,
          h.sent.owed hr ho⟩⟩
      · rw [hs]
        exact h.sent.same rfl
      · rw [steps_append, hsteps]
        simp [steps, Out.step, handshake]
  -- the consumer is there, and its resume is sent
  | @consumed t m options c cId ht hs hr hc =>
      have hstage := h.stage t
      rw [ht] at hstage
      obtain ⟨hsteps, caps, cId', hin⟩ := hstage
      have hconsumed : Grounded Out.backed (tr ++ [.mediaConsumed t c]) :=
        grounded_concat.mpr ⟨h.backed, trivial⟩
      have hemits : emits [.mediaConsumed t c,
          .emit (.consumer t) (.transportConsumerResume m) cId]
          = [(.consumer t, .transportConsumerResume m, cId)] := rfl
      refine ⟨?_, h.stage_update hc (by simp [Out.step, eq_comm]) ⟨?_, ?_, cId,
        ?_⟩, ?_⟩
      · rw [hs]
        exact h.sent.request hemits
      · rw [steps_append, hsteps]
        simp [steps, Out.step, handshake]
      · exact List.mem_append_right _ List.mem_cons_self
      · rw [emits_append, h.sent.length_eq]
        exact List.getElem?_concat_length
      · have hresume := grounded_concat.mpr ⟨hconsumed,
          show (Out.emit (.consumer t) (.transportConsumerResume m) cId).backed
            (tr ++ [.mediaConsumed t c]) from
          ⟨caps, cId', List.mem_append_left _ hin⟩⟩
        rwa [List.append_assoc] at hresume
  -- the last step; what it rests on was said before
  | @assigned t m r c value ht ho hs hr hc =>
      obtain ⟨hbacked, hsteps⟩ := h.assigned_backed ht ho
      refine ⟨?_, h.stage_update hc (by simp [Out.step, eq_comm]) ?_,
        grounded_concat.mpr ⟨h.backed, hbacked⟩⟩
      · rw [hs]
        exact h.sent.same rfl
      · show steps t _ = _
        rw [steps_append, hsteps]
        simp [steps, Out.step, handshake]
  -- a handler that throws comes after the last step
  | @assignedThrown t m r c value e ht ho hs hr hc =>
      obtain ⟨hbacked, hsteps⟩ := h.assigned_backed ht ho
      refine ⟨?_, h.stage_update hc (by simp [Out.step, eq_comm]) ⟨5, by omega,
        ?_⟩, ?_⟩
      · rw [hs]
        exact h.sent.same rfl
      · rw [steps_append, hsteps]
        simp [steps, Out.step, handshake]
      · have hfailed := grounded_concat.mpr ⟨grounded_concat.mpr
          ⟨h.backed, hbacked⟩,
          show (Out.failed (.consumer t) e).backed _ from trivial⟩
        rwa [List.append_assoc] at hfailed
  -- a rejection ends the handshake where it stands
  | @failed t m chain e ht hlive hs hr hc =>
      refine ⟨?_, h.stage_update hc (by simp [Out.step, eq_comm])
        (h.failed ht hlive), grounded_concat.mpr ⟨h.backed, trivial⟩⟩
      rw [hs]
      exact h.sent.same rfl
  -- what mediasoup raises belongs to no stage
  | @raised owner message cId hm hs hr hc =>
      refine ⟨?_, h.stage_same hc fun o hin t => ?_,
        grounded_concat.mpr ⟨h.backed, backed_emit_of_raised hm owner cId tr⟩⟩
      · have hemits : emits [.emit owner message cId]
            = [(owner, message, cId)] := rfl
        rw [hs]
        exact h.sent.request hemits
      · rw [List.mem_singleton.mp hin]
        exact step_emit_of_raised hm owner cId t
  | @answered r outcome hin ho hs hr hc =>
      refine ⟨?_, h.stage_same hc fun o hin t => ?_,
        grounded_concat.mpr ⟨h.backed, ?_⟩⟩
      · rw [hs]
        exact h.sent.same (by cases outcome <;> rfl)
      · rw [List.mem_singleton.mp hin]
        cases outcome <;> rfl
      · cases outcome <;> trivial

end Handshaking

section Runs

variable {device : Json → Bool} {producerData : MemberData} {isMuted : Bool}
  {past : List Page} {w : Page} {tr : List Out}

theorem handshaking_initial :
    Handshaking (Page.initial producerData isMuted) [] where
  sent := ⟨⟨fun p hp => absurd hp List.not_mem_nil,
    fun i r o hi => by cases hi⟩, rfl⟩
  stage _ := rfl
  backed := grounded_nil

/-- **In every run** each handshake is at its stage. -/
theorem handshaking
    (h : (machine device producerData isMuted).Run anyStep past w tr) :
    Handshaking w tr :=
  h.invariant Handshaking
    (fun w hw => by rw [show w = _ from hw]; exact handshaking_initial)
    fun _ _ _ _ _ hI _ hs => hI.step (Page.step_cases hs)

/-- **The client keeps the handshake's order.**  What is done for a consumer
transport is a beginning of consume, own ack, local consume, resume, own
ack, assign; it may end in a failure, after which nothing follows.  Acks of
others, late acks, timers and lost members do not change that. -/
theorem handshake_in_order
    (h : (machine device producerData isMuted).Run anyStep past w tr) :
    Handshaken tr :=
  ⟨fun t => ((handshaking h).stage t).inOrder, (handshaking h).backed⟩

/-- A member whose consumer becomes ready. -/
def consumeRun : List Action :=
  -- the snapshot names Ben, and the params for him create a transport
  [.receive (.spaceInit 1 "router" ⟨"u", ⟨"space", ""⟩,
     [⟨2, ⟨"ben"⟩, ⟨false, true⟩⟩]⟩),
   .receive (.transportParams 2 "params"),
   .runHandler 0 "caps" "c1",
   -- the server answers `consume`, and mediasoup creates the consumer
   .receive (.transportConsumerConsumeAck "c1"
     ⟨"consumer", some "producer", some "audio", some "rtp"⟩),
   .continueConsumer 0,
   .mediaConsumed 0 ⟨"consumer", "producer", "audio", 7⟩ "c2",
   -- DTLS connects while the resume is on its way
   .consumerConnect 0 "dtls" "c3",
   .receive (.transportConsumerConnectAck "c3"),
   -- both acks arrive, and the track is there
   .receive (.transportConsumerResumeAck "c2"),
   .answerRaised 2,
   .continueConsumer 0]

/-- A whole handshake, up to its consumer. -/
theorem handshake_in_order_assigned :
    ∃ tr, Handshaken tr ∧ steps 0 tr = handshake := by
  obtain ⟨past, w, tr, h, hp⟩ := Machine.Run.exists_of_exec
    (M := machine (fun _ => true) ⟨"ann"⟩ false) (G := anyStep)
    (l := consumeRun) (p := fun r => decide (steps 0 r.2.2 = handshake)) rfl
    (by decide)
  exact ⟨tr, handshake_in_order h, of_decide_eq_true hp⟩

end Runs

/-! ## §5. Raised events. -/

/-- The raised events under way have not been answered. -/
structure Raising (w : Page) (tr : List Out) : Prop where
  nodup : (answeredIn tr ++ w.raised).Nodup
  sent : ∀ r ∈ w.raised, ∃ owner message cId,
    (emits tr)[r]? = some (owner, message, cId) ∧ ofRaised message = true
  bound : ∀ r ∈ answeredIn tr, r < (emits tr).length
  answers : Grounded Out.answers tr

section Raising

variable {w w' : Page} {tr out : List Out}

theorem Out.answers_of_not {o : Out} (h : o.answered = none)
    (pre : List Out) : o.answers pre := by
  cases o with
  | callback | errback => cases h
  | _ => trivial

/-- A step that answers nothing and raises nothing. -/
theorem Raising.same (h : Raising w tr) (hr : w'.raised = w.raised)
    (ho : ∀ o ∈ out, o.answered = none) : Raising w' (tr ++ out) := by
  have hanswered : answeredIn (tr ++ out) = answeredIn tr := by
    unfold answeredIn
    rw [List.filterMap_append, List.filterMap_eq_nil_iff.mpr ho,
      List.append_nil]
  refine ⟨?_, fun r hin => ?_, fun r hin => ?_,
    h.answers.append fun o hin => Out.answers_of_not (ho o hin)⟩
  · rw [hanswered, hr]
    exact h.nodup
  · rw [hr] at hin
    obtain ⟨owner, message, cId, hsent, hm⟩ := h.sent r hin
    exact ⟨owner, message, cId, emits_getElem?_append hsent out, hm⟩
  · rw [hanswered] at hin
    have hlt := h.bound r hin
    rw [emits_append, List.length_append]
    omega

/-- An event is raised; its request is a new one. -/
theorem Raising.raised (h : Raising w tr) {owner : Owner}
    {message : ForwardedEvent} {cId : String}
    (hm : ofRaised message = true)
    (hr : w'.raised = w.raised ++ [(emits tr).length]) :
    Raising w' (tr ++ [.emit owner message cId]) := by
  have hanswered : answeredIn (tr ++ [.emit owner message cId])
      = answeredIn tr := by
    unfold answeredIn
    rw [List.filterMap_append]
    exact List.append_nil _
  have hemits : emits (tr ++ [.emit owner message cId])
      = emits tr ++ [(owner, message, cId)] := emits_append tr _
  refine ⟨?_, fun r hin => ?_, fun r hin => ?_,
    grounded_concat.mpr ⟨h.answers, trivial⟩⟩
  · rw [hanswered, hr, ← List.append_assoc]
    refine List.nodup_append.mpr ⟨h.nodup, List.nodup_singleton _,
      fun r hin r' hin' => ?_⟩
    rw [List.mem_singleton.mp hin']
    have hlt : r < (emits tr).length := by
      rcases List.mem_append.mp hin with hin | hin
      · exact h.bound r hin
      · obtain ⟨_, _, _, hsent, _⟩ := h.sent r hin
        exact (List.getElem?_eq_some_iff.mp hsent).1
    omega
  · rw [hr] at hin
    rcases List.mem_append.mp hin with hin | hin
    · obtain ⟨owner', message', cId', hsent, hm'⟩ := h.sent r hin
      exact ⟨owner', message', cId', emits_getElem?_append hsent _, hm'⟩
    · rw [List.mem_singleton.mp hin, hemits]
      exact ⟨owner, message, cId, List.getElem?_concat_length, hm⟩
  · rw [hanswered] at hin
    have hlt := h.bound r hin
    rw [hemits, List.length_append]
    omega

/-- A raised event is answered; it is no longer under way. -/
theorem Raising.answered (h : Raising w tr) (hsent : Sent w.socket tr)
    {r : Nat} {outcome : Acks.Outcome} (hin : r ∈ w.raised)
    (ho : w.outcomeOf r = some outcome)
    (hr : w'.raised = w.raised.erase r) :
    Raising w' (tr ++ [Page.answerRaised r outcome]) := by
  obtain ⟨owner, message, cId, hr', hm⟩ := h.sent r hin
  have howed := hsent.owed hr' ho
  have hanswered : answeredIn (tr ++ [Page.answerRaised r outcome])
      = answeredIn tr ++ [r] := by
    unfold answeredIn
    rw [List.filterMap_append]
    cases outcome <;> rfl
  have hemits : emits (tr ++ [Page.answerRaised r outcome]) = emits tr := by
    rw [emits_append]
    cases outcome <;> exact List.append_nil _
  refine ⟨?_, fun r' hin' => ?_, fun r' hin' => ?_,
    grounded_concat.mpr ⟨h.answers, ?_⟩⟩
  · rw [hanswered, hr, List.append_assoc, List.singleton_append]
    exact ((List.perm_cons_erase hin).symm.append_left _).nodup_iff.mpr
      h.nodup
  · rw [hr] at hin'
    rw [hemits]
    exact h.sent r' (List.mem_of_mem_erase hin')
  · rw [hanswered] at hin'
    rw [hemits]
    rcases List.mem_append.mp hin' with hin' | hin'
    · exact h.bound r' hin'
    · rw [List.mem_singleton.mp hin']
      exact (List.getElem?_eq_some_iff.mp hr').1
  · cases outcome with
    | fulfilled value => exact ⟨owner, message, cId, hr', hm, howed⟩
    | rejected e => exact ⟨owner, message, cId, hr', hm, howed⟩

theorem Out.answered_of_quiet {o : Out} (h : o.quiet = true) :
    o.answered = none := by
  cases o with
  | callback | errback => cases h
  | _ => rfl

/-- One step keeps every raised message answered once. -/
theorem Raising.step (h : Raising w tr) (hsent : Sent w.socket tr)
    (hstep : HandshakeStep w w' out) : Raising w' (tr ++ out) := by
  cases hstep with
  | quiet hs hr hc ho =>
      exact h.same hr fun o hin => Out.answered_of_quiet (ho o hin)
  | created hn hs hr hc ho =>
      refine h.same hr fun o hin => ?_
      rcases List.mem_cons.mp hin with rfl | hin
      · rfl
      · exact Out.answered_of_quiet (ho o hin)
  | raised hm hs hr hc =>
      rw [hsent.length_eq] at hr
      exact h.raised hm hr
  | answered hin ho hs hr hc => exact h.answered hsent hin ho hr
  | received _ _ hr
  | timeout _ _ hr
  | acked _ _ _ hr
  | consumed _ _ hr
  | assigned _ _ _ hr
  | assignedThrown _ _ _ hr
  | failed _ _ _ hr =>
      exact h.same hr (by simp [Out.answered])

end Raising

section Runs

variable {device : Json → Bool} {producerData : MemberData} {isMuted : Bool}
  {past : List Page} {w : Page} {tr : List Out}

/-- **A raised event is answered at most once**: the callback gets what the
own ack carries, the errback the message of the own timer. -/
theorem raised_answered_once
    (h : (machine device producerData isMuted).Run anyStep past w tr) :
    (answeredIn tr).Nodup ∧ Grounded Out.answers tr := by
  have hinv := h.invariant (fun w tr => Handshaking w tr ∧ Raising w tr)
    (fun w hw => ?_) fun _ _ _ _ _ hI _ hs => ?_
  · exact ⟨hinv.2.nodup.of_append_left, hinv.2.answers⟩
  · rw [show w = _ from hw]
    exact ⟨handshaking_initial, List.nodup_nil,
      fun r hin => absurd hin List.not_mem_nil,
      fun r hin => absurd hin List.not_mem_nil, grounded_nil⟩
  · have hstep := Page.step_cases hs
    exact ⟨hI.1.step hstep, hI.2.step hI.1.sent hstep⟩

/-- A connect that is acked beside the handshake. -/
theorem raised_answered_once_connect : ∃ tr, .callback 2 .void ∈ tr ∧
    (answeredIn tr).Nodup ∧ Grounded Out.answers tr := by
  obtain ⟨past, w, tr, h, hp⟩ := Machine.Run.exists_of_exec
    (M := machine (fun _ => true) ⟨"ann"⟩ false) (G := anyStep)
    (l := consumeRun) (p := fun r => decide (.callback 2 .void ∈ r.2.2)) rfl
    (by decide)
  exact ⟨tr, of_decide_eq_true hp, raised_answered_once h⟩

end Runs

end Twolk.Web.Transports
