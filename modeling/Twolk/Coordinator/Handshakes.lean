/-
  Twolk.Coordinator.Handshakes
  ────────────────────────────
  **MEDIA HANDSHAKES: EVERY UPDATE ANSWERED, EVERY CONNECT ISSUED ONCE.**

  A connect of a connected transport falls through the dispatcher without an
  answer, and a transport stays `allocated` until its worker answered, so a
  second connect may overtake the first.  Without these two, an `S:` update
  is answered exactly once, and a transport has at most one connect that is
  under way or has succeeded (`handshakes_once`).

  A connected transport stays connected (`connected_act`): no record is
  written back to `allocated`.
-/
import Twolk.Coordinator.Answers

namespace Twolk.Coordinator

open Twolk.Lib

variable {κ : Type}

/-! ## §1. Connected transports stay connected. -/

/-- The status of a transport record. -/
def Coord.transportStatus (c : Coord κ) (t : TransportId) :
    Option TransportStatus :=
  (c.transportHeap.get? t).map Transport.status

section Connected

variable {base c c' : Coord κ} {t : TransportId}

/-- A connected transport stays connected when another is asked for. -/
theorem transportStatus_request (router : RouterId) (member : MemberId)
    (source : Option TransportId) (hlt : t < c.transportIdGen)
    (hc : c.transportStatus t = some .connected) :
    (TransportAllocator.request c router member source).transportStatus t
      = some .connected := by
  rw [Coord.transportStatus, transportHeap_request,
    if_neg (Nat.ne_of_lt hlt)]
  exact hc

/-- Or several others. -/
theorem transportStatus_requestAll (hI : TransportWF c) (router : RouterId)
    (edges : List (MemberId × TransportId))
    (hc : c.transportStatus t = some .connected) :
    (requestAll router c edges).transportStatus t = some .connected := by
  obtain ⟨T, hT, hst⟩ := Option.map_eq_some_iff.mp hc
  have hlt := hI.fresh t T hT
  rw [Coord.transportStatus,
    requestAll_heap router edges c fun _ h => hI.heap_next h,
    if_neg (Nat.not_le.mpr hlt)]
  exact hc

theorem onTransportAck_heap (c : Coord κ) (id : TransportId)
    (options : Json) (hne : t ≠ id) :
    (TransportAllocator.onTransportAck c id options).transportHeap.get? t
      = c.transportHeap.get? t := by
  have hparams : ∀ (c : Coord κ) (T : Transport),
      (TransportAllocator.publishParams c T options).transportHeap
        = c.transportHeap := by
    intro c T
    unfold TransportAllocator.publishParams
    split
    · rfl
    · split <;> rfl
  unfold TransportAllocator.onTransportAck
  split
  · rfl
  · dsimp only
    split
    · rw [hparams]
      exact JsMap.get?_modify_of_ne _ _ hne
    · split
      · exact JsMap.get?_modify_of_ne _ _ hne
      · rw [hparams]
        exact JsMap.get?_modify_of_ne _ _ hne

variable [Callback κ] {a : Action κ}

/-- The media services keep it connected. -/
theorem connected_media (hwf : CoordWF base) (h : MediaEffect base a c c')
    (hb : base.transportStatus t = some .connected)
    (hc : c.transportStatus t = some .connected) :
    c'.transportStatus t = some .connected := by
  cases h with
  | emit | answer | dropTransport => exact hc
  | transportNack | publishUpdate => exact hb
  | mesh ha ht =>
      obtain ⟨T, uuid, -, -, -, heq⟩ := mesh_eq hwf.transport hwf.member ht
      rw [heq]
      exact transportStatus_requestAll
        (c := (base.without _).emit (.consumersAllocated T.owningMember))
        { hwf.transport.without _ with } _ _ hb
  | @transportAck id options ha hm =>
      -- only an unallocated transport waits for its worker
      have hne : t ≠ id := by
        rintro rfl
        obtain ⟨T, hT, hst⟩ := hwf.transport.requested t hm
        rw [Coord.transportStatus, hT, Option.map_some, hst] at hb
        cases hb
      rw [Coord.transportStatus, onTransportAck_heap base id options hne]
      exact hb
  | @updateAck id r resp =>
      obtain ⟨heap, l, heq, -, hheap⟩ := onUpdateAck_eq base id r resp
      rw [heq]
      rcases hheap with rfl | rfl
      · exact hb
      · show ((base.transportHeap.modify r.transport _).get? t).map _ = _
        rw [JsMap.get?_modify]
        split
        · rename_i h
          obtain ⟨T, hT, -⟩ := Option.map_eq_some_iff.mp hb
          rw [← h, hT]
          rfl
        · exact hb
  | @updateNack id r message =>
      obtain ⟨l, heq, -⟩ := onUpdateNack_eq base id r message
      rw [heq]
      exact hb

/-- Once connected, a transport stays connected. -/
theorem connected_effect (hwf : CoordWF base) (h : Effect base a c c')
    (hb : base.transportStatus t = some .connected)
    (hc : c.transportStatus t = some .connected) :
    c'.transportStatus t = some .connected := by
  cases h with
  | media h => exact connected_media hwf h hb hc
  | createSpace | finishNow | removeMember => exact hc
  | subscribe | unsubscribe | workers | resolve | request | routerNack
    | take | run | finish => exact hb
  | routerAck =>
      unfold RouterAllocator.onRouterAck
      split
      · exact hb
      · exact hb
  | @beginEnd _ uuid space r =>
      obtain ⟨transports, routers, l, heq, -⟩ := remove_eq c r
      rw [heq]
      exact hc
  | join =>
      obtain ⟨T, hT, -⟩ := Option.map_eq_some_iff.mp hb
      exact transportStatus_request _ _ _ (hwf.transport.fresh t T hT) hb

/-- **A connected transport stays connected.** -/
theorem connected_act (hwf : CoordWF base) (h : base.act a = some c')
    (hb : base.transportStatus t = some .connected) :
    c'.transportStatus t = some .connected :=
  act_invariant (fun c => c.transportStatus t = some .connected) hb h
    fun _ _ he hc => connected_effect hwf he hb hc

end Connected

/-! ## §2. Connects of one transport. -/

section Connects

/-- The update under way is a connect of `t`. -/
def UpdateRequest.connects (t : TransportId) (r : UpdateRequest κ) : Bool :=
  r.transport = t ∧ r.update.isConnect = true

/-- The number of a connect published for `t`. -/
def Out.connects (t : TransportId) : Out κ → Option Nat
  | .transportUpdate request id update _ =>
      if id = t ∧ update.isConnect = true then some request else none
  | _ => none

/-- A worker nacks update `n`. -/
def Action.nacks (n : Nat) : Action κ → Bool
  | .updateNack id _ => id = n
  | _ => false

/-- The connects of `t` that are under way or have succeeded: those that
were published and not nacked. -/
def liveConnects (t : TransportId) (tr : List (Out κ))
    (log : List (Action κ)) : List Nat :=
  (tr.filterMap (Out.connects t)).filter fun n =>
    log.all fun a => !a.nacks n

/-- A connect of `t` does not overtake another one. -/
def connectsOnce (t : TransportId) :
    Guard (Coord κ) (Action κ) (Out κ)
  | _, c, .spaceUpdateStream uuid update _ =>
      update.isConnect = true ∧ c.targetOf uuid update = some t →
        ∀ e ∈ c.updateRequests.entries, e.2.connects t = false
  | _, _, _ => True

instance (t : TransportId) (tr : List (Out κ)) (c : Coord κ) :
    ∀ a, Decidable (connectsOnce t tr c a)
  | .spaceUpdateStream uuid update _ => inferInstanceAs (Decidable
      (update.isConnect = true ∧ c.targetOf uuid update = some t →
        ∀ e ∈ c.updateRequests.entries, e.2.connects t = false))
  | .createSpaceRequest .. | .readSpaceRequest .. |
    .subscribeToSpaceRequest .. | .unsubscribeFromSpaceRequest .. |
    .addMemberRequest .. | .removeMemberRequest .. | .tryJoinSpaceRequest .. |
    .signalingServerConnected .. | .signalingServerDisconnected _ |
    .mediaWorkerConnected _ | .mediaWorkerDisconnected _ | .routerAck .. |
    .routerNack .. | .transportAck .. | .transportNack .. | .updateAck .. |
    .updateNack .. | .resume _ => .isTrue trivial

/-- A live connect is under way, or the transport is connected. -/
structure ConnectInv (t : TransportId) (c : Coord κ)
    (log : List (Action κ)) (tr : List (Out κ)) : Prop where
  once : (liveConnects t tr log).length ≤ 1
  live : ∀ n ∈ liveConnects t tr log,
    c.transportStatus t = some .connected ∨
      ∃ r, c.updateRequests.get? n = some r ∧ r.connects t = true

/-- A connect is live when it has been published and not been nacked. -/
theorem mem_liveConnects {t : TransportId} {tr : List (Out κ)}
    {log : List (Action κ)} {n : Nat} :
    n ∈ liveConnects t tr log ↔ n ∈ tr.filterMap (Out.connects t) ∧
      ∀ a ∈ log, a.nacks n = false := by
  simp [liveConnects]

/-- A stretch that publishes no connect of `t` leaves no further one live. -/
theorem liveConnects_sublist {t : TransportId} {obs : List (Out κ)}
    (tr : List (Out κ)) (log : List (Action κ)) (a : Action κ)
    (hobs : obs.filterMap (Out.connects t) = []) :
    (liveConnects t (tr ++ obs) (log ++ [a])).Sublist
      (liveConnects t tr log) := by
  unfold liveConnects
  rw [List.filterMap_append, hobs, List.append_nil]
  refine List.monotone_filter_right _ fun n hn => ?_
  rw [List.all_append, Bool.and_eq_true] at hn
  exact hn.1

/-- Only a connect makes a connect. -/
theorem Coord.Forwards.isConnect {c : Coord κ} {uuid : Uuid}
    {status : TransportStatus} {update : SpaceUpdateS}
    {u : TransportUpdateC} (h : c.Forwards uuid status update u)
    (hu : u.isConnect = true) :
    update.isConnect = true ∧ status ≠ .connected := by
  cases h with
  | connect dtlsParameters hc hs => exact ⟨hc, hs⟩
  | produce | consume | resume => cases hu

variable [Callback κ]

/-- A worker that acks a connect has connected the transport. -/
theorem onUpdateAck_connected {c : Coord κ} {id : Nat}
    {r : UpdateRequest κ} (resp : TransportUpdateAck) {T : Transport}
    (hT : c.transportHeap.get? r.transport = some T)
    (hr : r.update.isConnect = true) :
    (SpaceUpdateDispatcher.onUpdateAck c id r resp).transportStatus
      r.transport = some .connected := by
  unfold SpaceUpdateDispatcher.onUpdateAck
  dsimp only
  split
  · obtain ⟨l, h, -⟩ := answerAck_eq { c with
      updateRequests := c.updateRequests.delete id
      transportHeap := c.transportHeap.modify r.transport fun t =>
        { t with status := .connected } } r .void (k := fun c => c)
      fun c => ⟨[], by simp, by simp⟩
    rw [h]
    simp [Coord.transportStatus, hT]
  · rename_i h
    rw [h] at hr
    cases hr
  · rename_i h
    rw [h] at hr
    cases hr
  · rename_i h
    rw [h] at hr
    cases hr

omit [Callback κ] in
/-- A stretch that issues no number publishes no connect. -/
theorem connects_eq_nil {base c : Coord κ} {a : Action κ}
    (h : Publishes base a c) (hgen : c.updateIdGen = base.updateIdGen)
    (t : TransportId) : c.out.filterMap (Out.connects t) = [] := by
  obtain ⟨k, hk, hout⟩ := h.updateIds
  obtain rfl : k = 0 := by omega
  refine List.filterMap_eq_nil_iff.mpr fun o ho => ?_
  have hsent := List.filterMap_eq_nil_iff.mp hout o ho
  cases o with
  | transportUpdate => cases hsent
  | _ => rfl

/-- What the worker's answer to update `id` does to a live connect. -/
theorem live_answered {c c' : Coord κ} {a : Action κ} {t : TransportId}
    {id n : Nat} {r : UpdateRequest κ} (hwf : CoordWF c)
    (hact : c.act a = some c') (hid : c.updateRequests.get? id = some r)
    (hr : c'.updateRequests = c.updateRequests.delete id)
    (ha : (∃ resp, a = .updateAck id resp) ∨
      ∃ message, a = .updateNack id message)
    (hn : a.nacks n = false)
    (hlive : ∃ r, c.updateRequests.get? n = some r ∧ r.connects t = true) :
    c'.transportStatus t = some .connected ∨
      ∃ r, c'.updateRequests.get? n = some r ∧ r.connects t = true := by
  obtain ⟨r', hr', hconn⟩ := hlive
  by_cases h : n = id
  · -- the connect itself is answered: acked, for it is not nacked
    subst h
    cases hid.symm.trans hr'
    rcases ha with ⟨resp, rfl⟩ | ⟨message, rfl⟩
    · obtain ⟨r'', hr'', rfl⟩ := Option.map_eq_some_iff.mp hact
      cases hid.symm.trans hr''
      obtain ⟨T, hT, -⟩ := hwf.transport.updated n r hid
      obtain ⟨rfl, hu⟩ := of_decide_eq_true hconn
      exact .inl (onUpdateAck_connected resp hT hu)
    · simp [Action.nacks] at hn
  · refine .inr ⟨r', ?_, hconn⟩
    rw [hr, JsMap.get?_delete, if_neg h]
    exact hr'

omit [Callback κ] in
/-- A connect is published when none is live, and is the live one then. -/
theorem connectInv_published {c : Coord κ} {t t' : TransportId}
    {T : Transport} {log : List (Action κ)} {tr : List (Out κ)}
    {uuid : Uuid} {update : SpaceUpdateS} {cb : κ} {u : TransportUpdateC}
    (hp : PromiseWF c) (hI : ConnectInv t c log tr) (hout : c.out = [])
    (hg : connectsOnce t tr c (.spaceUpdateStream uuid update cb))
    (htarget : c.targetOf uuid update = some t')
    (hT : c.transportHeap.get? t' = some T)
    (hu : c.Forwards uuid T.status update u) :
    ConnectInv t
      (SpaceUpdateDispatcher.publish c t' u uuid update.memberId cb)
      (log ++ [.spaceUpdateStream uuid update cb])
      (tr ++ (SpaceUpdateDispatcher.publish c t' u uuid update.memberId
        cb).out) := by
  have hobs : (SpaceUpdateDispatcher.publish c t' u uuid update.memberId
      cb).out = [.transportUpdate c.updateIdGen t' u cb] := by
    simp [SpaceUpdateDispatcher.publish, hout]
  rw [hobs]
  have hnack : ∀ n, (Action.spaceUpdateStream uuid update cb).nacks n
      = false := fun _ => rfl
  by_cases hc : t' = t ∧ u.isConnect = true
  · obtain ⟨rfl, hconn⟩ := hc
    obtain ⟨hupdate, hst⟩ := hu.isConnect hconn
    -- nothing was live before
    have hnil : liveConnects t' tr log = [] := by
      refine List.eq_nil_iff_forall_not_mem.mpr fun n hn => ?_
      rcases hI.live n hn with h | ⟨r, hr, hrc⟩
      · rw [Coord.transportStatus, hT, Option.map_some] at h
        exact hst (Option.some.inj h)
      · have hno := hg ⟨hupdate, htarget⟩ _ (JsMap.mem_entries.mpr hr)
        rw [hrc] at hno
        cases hno
    have hsub : (liveConnects t'
        (tr ++ [.transportUpdate c.updateIdGen t' u cb])
        (log ++ [.spaceUpdateStream uuid update cb])).Sublist
          (liveConnects t' tr log ++ [c.updateIdGen]) := by
      unfold liveConnects
      rw [List.filterMap_append, List.filter_append]
      refine List.Sublist.append ?_ ?_
      · simp [hnack]
      · refine List.filter_sublist.trans ?_
        simp [Out.connects, hconn]
    rw [hnil, List.nil_append] at hsub
    refine ⟨hsub.length_le, fun n hn => .inr ?_⟩
    rw [List.mem_singleton.mp (hsub.subset hn)]
    refine ⟨⟨t', u, uuid, update.memberId, cb⟩, ?_, ?_⟩
    · exact JsMap.get?_set_self _ _ _
    · simp [UpdateRequest.connects, hconn]
  · have hno : [Out.transportUpdate c.updateIdGen t' u cb].filterMap
        (Out.connects t) = [] := by
      simp [Out.connects, hc]
    have hsub := liveConnects_sublist tr log
      (Action.spaceUpdateStream uuid update cb) hno
    refine ⟨hsub.length_le.trans hI.once, fun n hn => ?_⟩
    refine (hI.live n (hsub.subset hn)).imp_right ?_
    rintro ⟨r, hr, hrc⟩
    have hne := Nat.ne_of_lt (hp.updates n r hr)
    exact ⟨r, (JsMap.get?_set_of_ne _ _ hne).trans hr, hrc⟩

/-- One stretch keeps the connects of `t` apart. -/
theorem connectInv_stretch {c c' : Coord κ} {a : Action κ}
    {t : TransportId} {log : List (Action κ)} {tr : List (Out κ)}
    (hwf : CoordWF c) (hp : PromiseWF c) (hout : c.out = [])
    (hact : c.act a = some c') (h : Stretch c a c')
    (hg : connectsOnce t tr c a) (hI : ConnectInv t c log tr) :
    ConnectInv t c' (log ++ [a]) (tr ++ c'.out) := by
  have hpub := publishes_act hwf hout hact
  cases updates_stretch h with
  | same hr hgen =>
      have hsub := liveConnects_sublist tr log a
        (connects_eq_nil hpub hgen t)
      refine ⟨hsub.length_le.trans hI.once, fun n hn => ?_⟩
      rw [hr]
      exact (hI.live n (hsub.subset hn)).imp_left (connected_act hwf hact)
  | published htarget ht hs hu =>
      exact connectInv_published hp hI hout hg htarget ht hu
  | answered hid hr hgen ha =>
      have hsub := liveConnects_sublist tr log a
        (connects_eq_nil hpub hgen t)
      refine ⟨hsub.length_le.trans hI.once, fun n hn => ?_⟩
      have hnack := (mem_liveConnects.mp hn).2 a (by simp)
      rcases hI.live n (hsub.subset hn) with hc | hlive
      · exact .inl (connected_act hwf hact hc)
      · exact live_answered hwf hact hid hr ha hnack hlive

/-! ## §3. Every run. -/

/-- In every guarded run the connects of a transport are accounted for. -/
theorem connectInv_run {t : TransportId} {s : Coord κ × List (Action κ)}
    {past : List (Coord κ × List (Action κ))} {tr : List (Out κ)}
    (h : (machine κ).recorded.Run (Machine.unrecorded (connectsOnce t)) past
      s tr) : ConnectInv t s.1 s.2 tr := by
  refine Machine.Run.recorded_invariant (ConnectInv t) (fun c hc => ?_)
    (fun c log tr a c' obs hr hI hg hs => ?_) h
  · exact ⟨Nat.zero_le _, fun _ hn => (by cases hn)⟩
  · have hstretch := (step_stretch hr hs).1
    obtain ⟨d, hd, heq⟩ := Option.map_eq_some_iff.mp hs
    cases heq
    have hwf := coordWF_reachable hr
    have hp := promiseWF_reachable hr
    have hg : connectsOnce t tr { c with out := [] } a := by
      cases a <;> exact hg
    exact connectInv_stretch (c := { c with out := [] })
      ⟨{ hwf.router with }, { hwf.member with }, { hwf.transport with }⟩
      ⟨hp.waiting, hp.updates⟩ rfl hd hstretch hg ⟨hI.once, hI.live⟩

/-- **Media handshakes.**  An `S:` update is answered exactly once, and a
transport has at most one connect that is under way or has succeeded. -/
theorem handshakes_once [DecidableEq κ] :
    (∀ (cb : κ) (uuid : Uuid) (update : SpaceUpdateS) (c : Coord κ)
      (log : List (Action κ)) (past : List (Coord κ × List (Action κ)))
      (tr : List (Out κ)),
      (machine κ).recorded.Run (Machine.unrecorded (answersOnce cb)) past
        (c, log) tr →
      log.filter (Action.publishes cb)
        = [.spaceUpdateStream uuid update cb] →
      tr.countP (Out.answersTo cb) ≤ 1 ∧
        (c.owed cb = 0 → tr.countP (Out.answersTo cb) = 1)) ∧
    ∀ (t : TransportId) (c : Coord κ) (log : List (Action κ))
      (past : List (Coord κ × List (Action κ))) (tr : List (Out κ)),
      (machine κ).recorded.Run (Machine.unrecorded (connectsOnce t)) past
        (c, log) tr →
      (liveConnects t tr log).length ≤ 1 := by
  constructor
  · intro cb uuid update c log past tr h hone
    have hlaw := answers_add_owed h
    rw [List.countP_eq_length_filter (p := Action.publishes cb), hone]
      at hlaw
    change tr.countP (Out.answersTo cb) + c.owed cb = 1 at hlaw
    omega
  · intro t c log past tr h
    exact (connectInv_run h).once

end Connects

/-! ## §4. Two connects. -/

section Overlap

/-- A member joins, and its producer transport is allocated. -/
def joined : List (Action Caller) :=
  [.mediaWorkerConnected 1,
   .createSpaceRequest "room" ⟨"Room", ""⟩ "subscription-driven" ⟨0⟩,
   .subscribeToSpaceRequest 1 "room" ⟨1⟩,
   .routerAck 0 "caps", .resume 0, .resume 0,
   .addMemberRequest 1 "room" ⟨"Ann"⟩ ⟨false, false⟩ ⟨2⟩,
   .resume 0, .transportAck 0 "options"]

/-- The first member connects its producer transport. -/
def connectProducer : SpaceUpdateS := .memberProducerConnectEvent 0 "dtls"

/-- Two connects overlap, and a third finds the transport connected. -/
def connectsOverlap : List (Action Caller) :=
  joined ++
    [.spaceUpdateStream "room" connectProducer ⟨3⟩,
     .spaceUpdateStream "room" connectProducer ⟨4⟩,
     .updateAck 0 ⟨"0", none, none, none⟩,
     .updateAck 1 ⟨"0", none, none, none⟩,
     .spaceUpdateStream "room" connectProducer ⟨5⟩]

/-- Two connects succeed, and the third one is never answered. -/
theorem connects_twice : ∃ past s tr,
    (machine Caller).recorded.Run anyStep past s tr ∧
      s.2.filter (Action.publishes ⟨5⟩)
        = [.spaceUpdateStream "room" connectProducer ⟨5⟩] ∧
      s.1.owed ⟨5⟩ = 0 ∧ tr.countP (Out.answersTo ⟨5⟩) = 0 ∧
      (liveConnects 0 tr s.2).length = 2 := by
  obtain ⟨past, s, tr, hr, hp⟩ := Machine.Run.exists_of_exec
    (M := (machine Caller).recorded) (G := anyStep) (l := connectsOverlap)
    (s := (Coord.initial, []))
    (p := fun r => decide (r.2.1.2.filter (Action.publishes ⟨5⟩)
        = [.spaceUpdateStream "room" connectProducer ⟨5⟩] ∧
      r.2.1.1.owed ⟨5⟩ = 0 ∧ r.2.2.countP (Out.answersTo ⟨5⟩) = 0 ∧
      (liveConnects 0 r.2.2 r.2.1.2).length = 2)) ⟨rfl, rfl⟩ (by decide)
  exact ⟨past, s, tr, hr, of_decide_eq_true hp⟩

/-- One connect, which is answered. -/
theorem handshakes_once_joined : ∃ past s tr,
    (machine Caller).recorded.Run
        (Machine.unrecorded (answersOnce ⟨3⟩)) past s tr ∧
      s.1.owed ⟨3⟩ = 0 ∧ tr.countP (Out.answersTo ⟨3⟩) = 1 ∧
      (liveConnects 0 tr s.2).length ≤ 1 := by
  obtain ⟨past, s, tr, hr, hp⟩ := Machine.Run.exists_of_exec
    (M := (machine Caller).recorded)
    (G := Machine.unrecorded fun tr c a =>
      answersOnce ⟨3⟩ tr c a ∧ connectsOnce 0 tr c a)
    (l := joined ++
      [.spaceUpdateStream "room" connectProducer ⟨3⟩,
       .updateAck 0 ⟨"0", none, none, none⟩])
    (s := (Coord.initial, []))
    (p := fun r => decide (r.2.1.2.filter (Action.publishes ⟨3⟩)
        = [.spaceUpdateStream "room" connectProducer ⟨3⟩] ∧
      r.2.1.1.owed ⟨3⟩ = 0)) ⟨rfl, rfl⟩ (by decide)
  obtain ⟨hone, howed⟩ := of_decide_eq_true hp
  have hr₁ := hr.mono fun _ _ _ h => h.1
  have hr₂ := hr.mono fun _ _ _ h => h.2
  exact ⟨past, s, tr, hr₁, howed,
    (handshakes_once.1 _ _ _ _ _ _ _ hr₁ hone).2 howed,
    handshakes_once.2 0 _ _ _ _ hr₂⟩

end Overlap

end Twolk.Coordinator
