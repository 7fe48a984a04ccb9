/-
  Twolk.Coordinator.Answers
  ─────────────────────────
  **REQUESTS ARE ANSWERED ONCE, UNLESS THE ACK THROWS OR NOBODY ANSWERS.**

  A request is published with callbacks `cb`.  It is answered while
  `publish` runs, or some promise owes the answer: `c.owed cb` counts these.
  What was answered and what is owed add up to what was requested
  (`answers_add_owed`), as long as no handler returns without an answer
  (`Coord.ignores`) and no ack or nack throws inside a `.then` body whose
  `.catch` answers again (`Coord.rethrows`).

  Main results:
    * `request_answered_once` — the seven request queues,
    * `update_answered_once`  — the space update stream, whose updates also
      connect a transport at most once.
-/
import Twolk.Coordinator.Published
import Twolk.Coordinator.Turns

namespace Twolk.Coordinator

open Twolk.Lib

variable {κ : Type}

/-! ## §1. Answers, and the promises that owe one. -/

/-- The action is one of the seven requests. -/
def Action.isRequest (a : Action κ) : Bool :=
  match a with
  | .spaceUpdateStream .. => false
  | a => a.callback.isSome

section Counts

variable [DecidableEq κ]

/-- The observation answers the request published with `cb`. -/
def Out.answersTo (cb : κ) : Out κ → Bool
  | .ack cb' _ | .nack cb' _ => cb' = cb
  | _ => false

/-- The action is the request published with `cb`. -/
def Action.publishes (cb : κ) (a : Action κ) : Bool :=
  a.callback = some cb

/-- The handler that waits is the one of `cb`. -/
def Waiting.waitsFor (cb : κ) (w : Waiting κ) : Bool := w.cb = cb

/-- How many promises still owe `cb` an answer. -/
def Coord.owed (c : Coord κ) (cb : κ) : Nat :=
  c.waiting.countP (Waiting.waitsFor cb) +
    c.updateRequests.entries.countP fun e => decide (e.2.cb = cb)

/-- What a turn answers is among what is heard of it. -/
theorem Turn.answers {c c' : Coord κ} {asked answered : List (Waiting κ)}
    {heard : List (Out κ)} (h : Turn c c' asked answered heard) (cb : κ) :
    c'.out.countP (Out.answersTo cb)
      = c.out.countP (Out.answersTo cb)
        + heard.countP (Out.answersTo cb) := by
  have hheard : ∀ l : List (Out κ), l.countP (Out.answersTo cb)
      = (l.filter Out.heard).countP (Out.answersTo cb) := by
    intro l
    rw [List.countP_filter]
    refine List.countP_congr fun o _ => ?_
    cases o <;> simp [Out.answersTo, Out.heard]
  have hsub : heard.countP (Out.answersTo cb)
      = (heard.filter Out.heard).countP (Out.answersTo cb) := hheard heard
  rw [hheard c'.out, hheard c.out, h.heard, List.countP_append]

/-- After a turn those are owed an answer who were, or asked in it, less those
it answered. -/
theorem Turn.owed {c c' : Coord κ} {asked answered : List (Waiting κ)}
    {heard : List (Out κ)} (h : Turn c c' asked answered heard) (cb : κ) :
    answered.countP (Waiting.waitsFor cb) + c'.owed cb
      = asked.countP (Waiting.waitsFor cb) + c.owed cb := by
  have hp := h.waiting.countP_eq (Waiting.waitsFor cb)
  rw [List.countP_append, List.countP_append] at hp
  unfold Coord.owed
  rw [h.updates]
  omega

/-- Announcements answer nobody. -/
theorem Announces.answers {heard : List (Out κ)} (h : Announces heard)
    (cb : κ) : heard.countP (Out.answersTo cb) = 0 := by
  refine List.countP_eq_zero.mpr fun o ho => ?_
  obtain ⟨uuid, update, rfl⟩ := h o ho
  simp [Out.answersTo]

end Counts

/-! ## §2. Callbacks that throw. -/

section Throws

variable [Callback κ]

/-- The stretch answers `cb` where a throwing callback is answered again:
in the `try` of the join preflight, in the worker's `.then`, or in a
continuation. -/
def Coord.rethrows (c : Coord κ) (cb : κ) : Action κ → Prop
  | .tryJoinSpaceRequest spaceUuid cb' => cb' = cb ∧
      Callback.ackThrows cb ≠ none ∧ c.joinable spaceUuid ∧ c.servers ≠ []
  | .updateAck id _ => ∃ r ∈ c.updateRequests.get? id, r.cb = cb ∧
      Callback.ackThrows cb ≠ none
  | .resume i => ∃ t ∈ c.tasks[i]?, t.rethrows c cb
  | _ => False

instance [DecidableEq κ] (c : Coord κ) (cb : κ) :
    ∀ a, Decidable (c.rethrows cb a)
  | .tryJoinSpaceRequest spaceUuid cb' => inferInstanceAs (Decidable
      (cb' = cb ∧ Callback.ackThrows cb ≠ none ∧ c.joinable spaceUuid ∧
        c.servers ≠ []))
  | .updateAck id _ => inferInstanceAs (Decidable
      (∃ r ∈ c.updateRequests.get? id, r.cb = cb ∧
        Callback.ackThrows cb ≠ none))
  | .resume i =>
      inferInstanceAs (Decidable (∃ t ∈ c.tasks[i]?, t.rethrows c cb))
  | .createSpaceRequest .. | .readSpaceRequest .. |
    .subscribeToSpaceRequest .. | .unsubscribeFromSpaceRequest .. |
    .addMemberRequest .. | .removeMemberRequest .. | .spaceUpdateStream .. |
    .signalingServerConnected .. | .signalingServerDisconnected _ |
    .mediaWorkerConnected _ | .mediaWorkerDisconnected _ | .routerAck .. |
    .routerNack .. | .transportAck .. | .transportNack .. | .updateNack .. =>
      .isFalse id

/-- No `.catch` is about to answer `cb` again. -/
def Coord.calm (c : Coord κ) (cb : κ) : Prop :=
  ∀ message, .caught cb message ∉ c.tasks

omit [Callback κ] in
/-- No exception of `cb` is waiting where none was added. -/
theorem Coord.calm.of_tasks {c c' : Coord κ} {cb : κ} (hI : c.calm cb)
    (h : ∀ t ∈ c'.tasks, t ∈ c.tasks ∨ ∀ message, t ≠ .caught cb message) :
    c'.calm cb := by
  intro message hm
  rcases h _ hm with hm | hm
  · exact hI message hm
  · exact hm message rfl

omit [Callback κ] in
theorem allocate_tasks (c : Coord κ) (router : RouterId) (member : MemberId)
    (source : Option TransportId) :
    (TransportAllocator.allocate c router member source).tasks = c.tasks := by
  unfold TransportAllocator.allocate
  split
  · rfl
  · split <;> rfl

omit [Callback κ] in
theorem allocatePair_tasks (router : RouterId) (newMember : MemberId)
    (source : TransportId) (c : Coord κ) (other : MemberId) :
    (MemberService.allocatePair router newMember source c other).tasks
      = c.tasks := by
  unfold MemberService.allocatePair
  split
  · rfl
  · have h := allocate_tasks c router other (some source)
    dsimp only
    split
    · exact h
    · exact (allocate_tasks _ router newMember _).trans h

omit [Callback κ] in
/-- The mesh of a new member makes no continuation ready. -/
theorem allocateConsumers_tasks (c : Coord κ) (id : TransportId) :
    (MemberService.allocateConsumers c id).tasks = c.tasks := by
  have hfold : ∀ (router : RouterId) (m : MemberId) (l : List MemberId)
      (c : Coord κ), (l.foldl (MemberService.allocatePair router m id)
        c).tasks = c.tasks := by
    intro router m l
    induction l with
    | nil => exact fun c => rfl
    | cons a l ih =>
      exact fun c => (ih _).trans (allocatePair_tasks router m id c a)
  unfold MemberService.allocateConsumers
  split
  · rfl
  · dsimp only
    split
    · rfl
    · exact hfold _ _ _ _

omit [Callback κ] in
/-- Publishing params leaves the ready continuations alone. -/
theorem publishParams_tasks (c : Coord κ) (t : Transport) (options : Json) :
    (TransportAllocator.publishParams c t options).tasks = c.tasks := by
  unfold TransportAllocator.publishParams
  split
  · rfl
  · split <;> rfl

omit [Callback κ] in
/-- A worker's answer makes a producer's continuation ready, at most. -/
theorem onTransportAck_tasks (c : Coord κ) (id : TransportId)
    (options : Json) {t : Task κ}
    (h : t ∈ (TransportAllocator.onTransportAck c id options).tasks) :
    t ∈ c.tasks ∨ t = .producerAllocated id := by
  unfold TransportAllocator.onTransportAck at h
  split at h
  · exact .inl h
  · dsimp only at h
    split at h
    · rw [publishParams_tasks] at h
      exact (List.mem_append.mp h).imp_right List.mem_singleton.mp
    · split at h
      · exact .inl h
      · rw [publishParams_tasks] at h
        exact .inl h

/-- The continuations after a change of the media layer: those before it, one
of a producer, or one that answers. -/
theorem MediaEffect.mem_tasks {base c c' : Coord κ} {a : Action κ}
    {t : Task κ} (h : MediaEffect base a c c') (ht : t ∈ c'.tasks) :
    t ∈ c.tasks ∨ (∃ id, t = .producerAllocated id) ∨
      t.answers = true ∧
      (∀ cb message, t = .caught cb message →
        ∃ i, a = .resume i ∧ ∃ t' ∈ base.tasks[i]?, t'.rethrows base cb) ∧
      (t.prompt ∨
        ∃ i, a = .resume i ∧ ∃ t' ∈ base.tasks[i]?, ¬ t'.prompt) := by
  cases h with
  | emit | dropTransport | transportNack | publishUpdate => exact .inl ht
  | answer _ ha hr hp =>
      refine (List.mem_append.mp ht).imp_right fun ht => .inr ?_
      rw [List.mem_singleton.mp ht]
      exact ⟨ha, hr, hp⟩
  | mesh =>
      rw [allocateConsumers_tasks] at ht
      exact .inl (List.mem_of_mem_eraseIdx ht)
  | @transportAck id options =>
      exact (onTransportAck_tasks base id options ht).imp_right
        fun heq => .inl ⟨id, heq⟩
  | @updateAck id r resp =>
      obtain ⟨heap, l, heq, -⟩ := onUpdateAck_eq base id r resp
      rw [heq] at ht
      exact .inl ht
  | @updateNack id r message =>
      obtain ⟨l, heq, -⟩ := onUpdateNack_eq base id r message
      rw [heq] at ht
      exact .inl ht

/-- A media stretch that does not answer a throwing `cb`. -/
theorem calm_mediaEffect {base c c' : Coord κ} {a : Action κ} {cb : κ}
    (hre : ¬ base.rethrows cb a) (h : MediaEffect base a c c')
    (hI : c.calm cb) : c'.calm cb := by
  refine hI.of_tasks fun t ht => (h.mem_tasks ht).imp_right fun ht => ?_
  rcases ht with ⟨id, rfl⟩ | ⟨-, hr, -⟩
  · exact fun message heq => nomatch heq
  · intro message heq
    obtain ⟨i, rfl, hcon⟩ := hr cb message heq
    exact hre hcon

omit [Callback κ] in
theorem Coord.calm.defer {c : Coord κ} {cb : κ} {t : Task κ}
    (hI : c.calm cb) (ht : ∀ message, t ≠ .caught cb message) :
    (c.defer t).calm cb := by
  refine hI.of_tasks fun t' hm => ?_
  refine (List.mem_append.mp hm).imp_right fun hm => ?_
  rwa [List.mem_singleton.mp hm]

omit [Callback κ] in
theorem Coord.calm.without {c : Coord κ} {cb : κ} {i : Nat}
    (hI : c.calm cb) : (c.without i).calm cb :=
  fun message hm => hI message (List.mem_of_mem_eraseIdx hm)

/-- **Only a throwing callback is answered again.** -/
theorem calm_effect {base c c' : Coord κ} {a : Action κ} {cb : κ}
    (hre : ¬ base.rethrows cb a) (hb : base.calm cb)
    (h : Effect base a c c') (hI : c.calm cb) : c'.calm cb := by
  cases h with
  | media h => exact calm_mediaEffect hre h hI
  | createSpace | finishNow | removeMember => exact hI
  | unsubscribe | workers | request => exact hb
  | subscribe | take | run | finish | join => exact hb.without
  | resolve => exact hb.defer fun _ heq => nomatch heq
  | routerAck =>
      unfold RouterAllocator.onRouterAck
      split
      · exact hb
      · exact hb.defer fun _ heq => nomatch heq
  | routerNack => exact hb.defer fun _ heq => nomatch heq
  | @beginEnd _ uuid space r k =>
      obtain ⟨transports, routers, l, heq, -⟩ := remove_eq c r
      rw [heq]
      exact Coord.calm.defer hI fun _ heq => nomatch heq

end Throws

/-! ## §3. Two invariants of the promises. -/

section Promises

/-- Subscribers wait for a stored space only. -/
def Waiting.knownIn (c : Coord κ) : Waiting κ → Prop
  | .subscribe _ uuid _ => c.statusOf uuid ≠ none
  | .unsubscribe _ | .addMember .. => True

/-- Waiting subscribers wait for stored spaces, and the updates under way
are numbered below the generator. -/
structure PromiseWF (c : Coord κ) : Prop where
  waiting : ∀ w ∈ c.waiting, w.knownIn c
  updates : ∀ id r, c.updateRequests.get? id = some r → id < c.updateIdGen

/-- A handler waits for a space that stays known. -/
theorem Waiting.knownIn.mono {c c' : Coord κ} {w : Waiting κ}
    (hk : ∀ uuid, c.statusOf uuid ≠ none → c'.statusOf uuid ≠ none)
    (h : w.knownIn c) : w.knownIn c' := by
  cases w with
  | subscribe serverId uuid cb => exact hk uuid h
  | unsubscribe | addMember => trivial

/-- A turn on top of `d`, which has the publishers of `c`. -/
theorem Turn.waitsKnown {c d c' : Coord κ} {asked answered :
    List (Waiting κ)} {heard : List (Out κ)}
    (h : Turn d c' asked answered heard)
    (hd : ∀ uuid, c.statusOf uuid ≠ none → d.statusOf uuid ≠ none)
    (hw : ∀ w ∈ d.waiting, w.knownIn c) (ha : ∀ w ∈ asked, w.knownIn c) :
    ∀ w ∈ c'.waiting, w.knownIn c' := by
  intro w hm
  have hmem := h.waiting.subset (List.mem_append_right answered hm)
  have hk : w.knownIn c :=
    (List.mem_append.mp hmem).elim (ha w) (hw w)
  exact hk.mono fun uuid hs => h.frame.members.known uuid (hd uuid hs)

variable [Callback κ]

/-- Who waits after a stretch waits for a stored space. -/
theorem waitsKnown_stretch {c c' : Coord κ} {a : Action κ}
    (h : Stretch c a c') (hI : ∀ w ∈ c.waiting, w.knownIn c) :
    ∀ w ∈ c'.waiting, w.knownIn c' := by
  have hid : ∀ uuid, c.statusOf uuid ≠ none → c.statusOf uuid ≠ none :=
    fun _ h => h
  have hnil : ∀ w ∈ ([] : List (Waiting κ)), w.knownIn c := by simp
  -- by the kind of stretch: who waits after it knows its space
  cases h with
  | silent _ _ h | served _ _ h | servedTwice _ _ _ h | refused _ _ h
    | ignored _ _ h | nacked h | dropped _ h | unsubscribed _ h
    | caught _ h => exact h.waitsKnown hid hI hnil
  -- the request that waits now was checked against the space
  | @asked _ _ w uuid hw hs hk h =>
      refine h.waitsKnown hid hI fun w' hm => ?_
      rw [List.mem_singleton.mp hm]
      cases a with
      | subscribeToSpaceRequest =>
          cases hw
          cases hs
          exact hk
      | addMemberRequest =>
          cases hw
          trivial
      | _ => cases hw
  | forwarded _ _ _ _ _ h => exact h.waitsKnown hid hI hnil
  | unsubscribing _ h =>
      refine h.waitsKnown hid hI fun w hm => ?_
      rw [List.mem_singleton.mp hm]
      trivial
  | subscribed _ h => exact h.waitsKnown hid hI hnil
  -- no space is forgotten when members come and go
  | removed _ _ h =>
      exact h.waitsKnown (fun uuid => (known_modify _ _ _ uuid).mpr) hI hnil
  | added _ h =>
      exact h.waitsKnown (fun uuid => (known_modify _ _ _ uuid).mpr) hI hnil
  | updated _ h =>
      rcases h with ⟨_, _, -, h⟩ | ⟨-, _, _, h⟩
      · exact h.waitsKnown hid hI hnil
      · exact h.waitsKnown hid hI hnil
  | updateNacked _ h => exact h.waitsKnown hid hI hnil

/-- The updates under way after a stretch: those before it, one more, or
one less. -/
inductive UpdatesAfter (c : Coord κ) : Action κ → Coord κ → Prop
  | same {a : Action κ} {c' : Coord κ}
      (hr : c'.updateRequests = c.updateRequests)
      (hgen : c'.updateIdGen = c.updateIdGen) : UpdatesAfter c a c'
  | published {uuid : Uuid} {update : SpaceUpdateS} {cb : κ}
      {t : TransportId} {T : Transport} {u : TransportUpdateC}
      (htarget : c.targetOf uuid update = some t)
      (ht : c.transportHeap.get? t = some T)
      (hs : T.status ≠ .unallocated)
      (hu : c.Forwards uuid T.status update u) :
      UpdatesAfter c (.spaceUpdateStream uuid update cb)
        (SpaceUpdateDispatcher.publish c t u uuid update.memberId cb)
  | answered {a : Action κ} {c' : Coord κ} {id : Nat}
      {r : UpdateRequest κ} (hid : c.updateRequests.get? id = some r)
      (hr : c'.updateRequests = c.updateRequests.delete id)
      (hgen : c'.updateIdGen = c.updateIdGen)
      (ha : (∃ resp, a = .updateAck id resp) ∨
        ∃ message, a = .updateNack id message) : UpdatesAfter c a c'

/-- After a stretch the open update requests are those before, and one more at
most. -/
theorem updates_stretch {c c' : Coord κ} {a : Action κ}
    (h : Stretch c a c') : UpdatesAfter c a c' := by
  cases h with
  | silent _ _ h | served _ _ h | servedTwice _ _ _ h | refused _ _ h
    | ignored _ _ h | nacked h | dropped _ h | unsubscribed _ h
    | caught _ h | asked _ _ _ h | unsubscribing _ h | subscribed _ h
    | removed _ _ h | added _ h => exact .same h.updates h.updateIdGen
  | forwarded htarget ht hs hu hp _ =>
      rw [hp]
      exact .published htarget ht hs hu
  | updated hr h =>
      rcases h with ⟨_, _, -, h⟩ | ⟨-, _, _, h⟩
      · exact .answered hr h.updates h.updateIdGen (.inl ⟨_, rfl⟩)
      · exact .answered hr h.updates h.updateIdGen (.inl ⟨_, rfl⟩)
  | updateNacked hr h =>
      exact .answered hr h.updates h.updateIdGen (.inr ⟨_, rfl⟩)

/-- A stretch keeps the promises well formed. -/
theorem promiseWF_stretch {c c' : Coord κ} {a : Action κ}
    (h : Stretch c a c') (hI : PromiseWF c) : PromiseWF c' := by
  refine ⟨waitsKnown_stretch h hI.waiting, fun id r hr => ?_⟩
  cases updates_stretch h with
  | same hr' hgen =>
      rw [hr'] at hr
      rw [hgen]
      exact hI.updates id r hr
  | @published uuid update cb t T u htarget ht hs hu =>
      have hr : (c.updateRequests.set c.updateIdGen _).get? id = some r := hr
      show id < c.updateIdGen + 1
      by_cases hid : id = c.updateIdGen
      · rw [hid]
        exact Nat.lt_succ_self _
      · rw [JsMap.get?_set_of_ne _ _ hid] at hr
        exact Nat.lt_succ_of_lt (hI.updates id r hr)
  | answered _ hr' hgen =>
      rw [hr'] at hr
      rw [hgen]
      exact hI.updates id r (JsMap.get?_of_get?_delete hr)

/-- In every reachable state the promises are in order. -/
theorem promiseWF_reachable {c : Coord κ} (h : (machine κ).Reachable c) :
    PromiseWF c := by
  refine (h.invariant (fun c => (machine κ).Reachable c ∧ PromiseWF c)
    (fun s hs => ?_) fun s a s' obs hI hs => ?_).2
  · obtain rfl : s = Coord.initial := hs
    exact ⟨⟨[], [], .init rfl⟩, fun _ h => (by cases h),
      fun _ _ h => (by cases h)⟩
  · refine ⟨hI.1.step hs, ?_⟩
    exact promiseWF_stretch (step_stretch hI.1 hs).1
      ⟨hI.2.waiting, hI.2.updates⟩

/-- A transport update is published alone, for a forwarded message, and is
what the dispatcher makes of it. -/
theorem transportUpdate_step {c c' : Coord κ} {a : Action κ}
    {obs : List (Out κ)} {n : Nat} {t : TransportId} {u : TransportUpdateC}
    {cb : κ} (hr : (machine κ).Reachable c)
    (hs : (machine κ).step c a = some (c', obs))
    (ho : .transportUpdate n t u cb ∈ obs) :
    obs = [.transportUpdate n t u cb] ∧
      ∃ uuid update T, a = .spaceUpdateStream uuid update cb ∧
        c.targetOf uuid update = some t ∧
        c.transportHeap.get? t = some T ∧ T.status ≠ .unallocated ∧
        c.Forwards uuid T.status update u := by
  obtain ⟨hstretch, rfl⟩ := step_stretch hr hs
  obtain ⟨d, hd, heq⟩ := Option.map_eq_some_iff.mp hs
  cases heq
  have hwf := coordWF_reachable hr
  have hpub : Publishes { c with out := [] } a c' := publishes_act
    ⟨{ hwf.router with }, { hwf.member with }, { hwf.transport with }⟩ rfl hd
  -- a stretch that issues no number publishes no update
  have hnone : c'.updateIdGen ≠ c.updateIdGen := by
    intro hgen
    obtain ⟨k, hk, hout⟩ := hpub.updateIds
    have hk : c'.updateIdGen = c.updateIdGen + k := hk
    obtain rfl : k = 0 := by omega
    have hsent := List.filterMap_eq_nil_iff.mp hout _ ho
    cases hsent
  cases updates_stretch hstretch with
  | same _ hgen => exact absurd hgen hnone
  | answered _ _ hgen => exact absurd hgen hnone
  | @published uuid update cb' t' T u' htarget ht hst hu =>
      have ho : Out.transportUpdate n t u cb
          ∈ [Out.transportUpdate c.updateIdGen t' u' cb'] := ho
      obtain heq := List.mem_singleton.mp ho
      cases heq
      exact ⟨rfl, uuid, update, T, rfl, htarget, ht, hst, hu.of_out⟩

end Promises

/-! ## §4. The law of one stretch. -/

section Law

variable [DecidableEq κ] [Callback κ]

/-- The step answers the request published with `cb`, when it is its
handler's, and does not let the `.catch` answer it again. -/
def answersOnce (cb : κ) : Guard (Coord κ) (Action κ) (Out κ)
  | _, c, a => (a.callback = some cb → ¬ c.ignores a) ∧ ¬ c.rethrows cb a

instance (cb : κ) (tr : List (Out κ)) (c : Coord κ) (a : Action κ) :
    Decidable (answersOnce cb tr c a) :=
  inferInstanceAs (Decidable (_ ∧ _))

omit [Callback κ]

/-- One request or one answer of `cb'`, counted for `cb`. -/
def tally (cb cb' : κ) : Nat := if cb' = cb then 1 else 0

@[simp] theorem tally_of_ne {cb cb' : κ} (h : cb' ≠ cb) :
    tally cb cb' = 0 := if_neg h

/-- A request counts for its own callback only. -/
theorem publishes_tally {a : Action κ} {cb' : κ}
    (h : a.callback = some cb') (cb : κ) :
    (if a.publishes cb then 1 else 0) = tally cb cb' := by
  simp [Action.publishes, h, tally]

@[simp] theorem answersTo_ack (cb cb' : κ) (resp : Response) :
    (if (Out.ack cb' resp).answersTo cb then 1 else 0) = tally cb cb' := by
  simp [Out.answersTo, tally]

@[simp] theorem answersTo_nack (cb cb' : κ) (message : String) :
    (if (Out.nack cb' message).answersTo cb then 1 else 0)
      = tally cb cb' := by
  simp [Out.answersTo, tally]

@[simp] theorem waitsFor_tally (cb : κ) (w : Waiting κ) :
    (if w.waitsFor cb then 1 else 0) = tally cb w.cb := by
  simp [Waiting.waitsFor, tally]

/-- What the stretch of `cb` answers, and what is then still owed to it, is
what was owed before and asked. -/
theorem Turn.conserves {d c' : Coord κ} {asked answered : List (Waiting κ)}
    {heard : List (Out κ)} {cb : κ} {n : Nat}
    (h : Turn d c' asked answered heard)
    (hout : d.out.countP (Out.answersTo cb) = 0)
    (hbal : heard.countP (Out.answersTo cb)
        + asked.countP (Waiting.waitsFor cb)
      = answered.countP (Waiting.waitsFor cb) + n) :
    c'.out.countP (Out.answersTo cb) + c'.owed cb = d.owed cb + n := by
  have hans := h.answers cb
  have howed := h.owed cb
  omega

/-- Forwarding an update leaves its answer owed. -/
theorem owed_set {c : Coord κ} {id : Nat} {r : UpdateRequest κ} (cb : κ)
    (hnew : c.updateRequests.get? id = none) :
    { c with updateRequests := c.updateRequests.set id r }.owed cb
      = c.owed cb + tally cb r.cb := by
  unfold Coord.owed
  rw [JsMap.entries_set_of_get?_eq_none r hnew, List.countP_append,
    Nat.add_assoc]
  simp [Coord.waiting, tally]

/-- The answer of a worker settles what was owed. -/
theorem owed_delete {c : Coord κ} {id : Nat} {r : UpdateRequest κ} (cb : κ)
    (hr : c.updateRequests.get? id = some r) :
    { c with updateRequests := c.updateRequests.delete id }.owed cb
      + tally cb r.cb = c.owed cb := by
  have hp := (JsMap.perm_entries_delete hr).countP_eq
    fun e => decide (e.2.cb = cb)
  rw [List.countP_cons] at hp
  unfold Coord.owed
  rw [← hp, Nat.add_assoc]
  simp [Coord.waiting, tally]

omit [DecidableEq κ] in
/-- The handler that begins to wait is the handler of the request. -/
theorem callback_of_asks {a : Action κ} {w : Waiting κ}
    (h : a.asks = some w) : a.callback = some w.cb := by
  cases a <;> cases h <;> rfl

variable [Callback κ]

/-- **Answered and owed is owed and requested.** -/
theorem answers_stretch {c c' : Coord κ} {a : Action κ} {cb : κ}
    (tr : List (Out κ)) (hwf : PromiseWF c) (hcalm : c.calm cb)
    (hout : c.out = []) (hg : answersOnce cb tr c a)
    (h : Stretch c a c') :
    c'.out.countP (Out.answersTo cb) + c'.owed cb
      = c.owed cb + if a.publishes cb then 1 else 0 := by
  have hout : c.out.countP (Out.answersTo cb) = 0 := by
    rw [hout, List.countP_nil]
  cases h with
  | silent hcb ha h =>
      refine h.conserves hout ?_
      rw [ha.answers]
      simp [Action.publishes, hcb]
  | served hcb _ h =>
      rw [publishes_tally hcb]
      exact h.conserves hout (by simp)
  | @servedTwice spaceUuid cb' _ resp message ht hj hn h =>
      have hne : cb' ≠ cb := fun heq => by
        subst heq
        exact hg.2 ⟨rfl, ht, hj, hn⟩
      rw [publishes_tally rfl]
      exact h.conserves hout (by simp [List.countP_cons, hne])
  | refused hcb _ h =>
      rw [publishes_tally hcb]
      exact h.conserves hout (by simp)
  | @ignored _ _ cb' hcb hi h =>
      have hne : cb' ≠ cb := fun heq => hg.1 (hcb.trans (by rw [heq])) hi
      rw [publishes_tally hcb]
      exact h.conserves hout (by simp [hne])
  | asked hw _ _ h =>
      rw [publishes_tally (callback_of_asks hw)]
      exact h.conserves hout (by simp)
  | forwarded _ _ _ _ _ h =>
      have hnew : c.updateRequests.get? c.updateIdGen = none := by
        by_contra hne
        obtain ⟨r, hr⟩ := Option.ne_none_iff_exists'.mp hne
        exact Nat.lt_irrefl _ (hwf.updates _ r hr)
      rw [publishes_tally rfl]
      refine (h.conserves (n := 0) hout (by simp)).trans ?_
      exact owed_set cb hnew
  | unsubscribing _ h =>
      rw [publishes_tally rfl]
      exact h.conserves hout (by simp [Waiting.cb])
  | removed _ _ h =>
      rw [publishes_tally rfl]
      exact h.conserves hout (by simp)
  | nacked h =>
      exact h.conserves hout (by simp [Action.publishes, Action.callback])
  | dropped hs h =>
      -- a waiting subscriber's space is stored
      have hm := h.waiting.subset (List.mem_append_left _
        (List.mem_singleton_self _))
      exact absurd hs (hwf.waiting _ hm)
  | subscribed _ h =>
      exact h.conserves hout
        (by simp [Action.publishes, Action.callback, Waiting.cb])
  | unsubscribed _ h =>
      exact h.conserves hout
        (by simp [Action.publishes, Action.callback, Waiting.cb])
  | added _ h =>
      refine h.conserves ?_
        (by simp [Action.publishes, Action.callback, Waiting.cb])
      simp [MemberService.add, hout, Out.answersTo]
  | @caught i cb' message _ ht h =>
      have hne : cb' ≠ cb := fun heq => by
        subst heq
        exact hcalm message (List.mem_of_getElem? ht)
      exact h.conserves hout (by simp [hne, Action.publishes,
        Action.callback])
  | @updated id resp r _ hr h =>
      rw [← owed_delete cb hr]
      rcases h with ⟨_, heard, ha, h⟩ | ⟨ht, _, _, h⟩
      · have hc := h.conserves (n := tally cb r.cb) hout
          (by simp [List.countP_cons, ha.answers])
        simpa [Action.publishes, Action.callback] using hc
      · have hne : r.cb ≠ cb := fun heq =>
          hg.2 ⟨r, by simpa using hr, heq, heq ▸ ht⟩
        have hc := h.conserves (n := tally cb r.cb) hout
          (by simp [List.countP_cons, hne])
        simpa [Action.publishes, Action.callback] using hc
  | @updateNacked id message r _ _ hr h =>
      rw [← owed_delete cb hr]
      have hc := h.conserves (n := tally cb r.cb) hout (by simp)
      simpa [Action.publishes, Action.callback] using hc

end Law

/-! ## §5. The law of a run. -/

section Runs

variable [DecidableEq κ] [Callback κ]

/-- **What was answered and what is owed is what was requested.** -/
theorem answers_add_owed {cb : κ} {s : Coord κ × List (Action κ)}
    {past : List (Coord κ × List (Action κ))} {tr : List (Out κ)}
    (h : (machine κ).recorded.Run (Machine.unrecorded (answersOnce cb)) past
      s tr) :
    tr.countP (Out.answersTo cb) + s.1.owed cb
      = s.2.countP (Action.publishes cb) := by
  refine (Machine.Run.recorded_invariant (fun c log tr => c.calm cb ∧
    tr.countP (Out.answersTo cb) + c.owed cb
      = log.countP (Action.publishes cb)) (fun c hc => ?_)
    (fun c log tr a c' obs hr hI hg hs => ?_) h).2
  · obtain rfl : c = Coord.initial := hc
    exact ⟨fun _ h => (by cases h), rfl⟩
  · obtain ⟨hcalm, hcount⟩ := hI
    have hpromise := promiseWF_reachable hr
    have hstretch := (step_stretch hr hs).1
    obtain ⟨c', hc', hp⟩ := Option.map_eq_some_iff.mp hs
    cases hp
    have hg' : answersOnce cb tr { c with out := [] } a := hg
    have hcalm' : Coord.calm { c with out := [] } cb := hcalm
    refine ⟨?_, ?_⟩
    · exact act_invariant (fun d => d.calm cb) hcalm' hc'
        fun d d' he hd => calm_effect hg'.2 hcalm' he hd
    · have hlaw := answers_stretch (c := { c with out := [] }) tr
        ⟨hpromise.waiting, hpromise.updates⟩ hcalm rfl hg' hstretch
      have hnow : Coord.owed { c with out := [] } cb = c.owed cb := rfl
      rw [hnow] at hlaw
      rw [List.countP_append, List.countP_append, List.countP_singleton]
      omega

/-- **Requests are answered exactly once**: at most once in total, and once
nothing owes the answer any more. -/
theorem request_answered_once {cb : κ} {a : Action κ} {c : Coord κ}
    {log : List (Action κ)} {past : List (Coord κ × List (Action κ))}
    {tr : List (Out κ)}
    (h : (machine κ).recorded.Run (Machine.unrecorded (answersOnce cb)) past
      (c, log) tr)
    (hone : log.filter (Action.publishes cb) = [a])
    (_hrequest : a.isRequest = true) :
    tr.countP (Out.answersTo cb) ≤ 1 ∧
      (c.owed cb = 0 → tr.countP (Out.answersTo cb) = 1) := by
  have hlaw := answers_add_owed h
  rw [List.countP_eq_length_filter (p := Action.publishes cb), hone] at hlaw
  change tr.countP (Out.answersTo cb) + c.owed cb = 1 at hlaw
  omega

end Runs

/-! ## §6. Requests that are answered twice, or never. -/

section Unanswered

/-- Numbered callbacks whose nack throws the error it is given. -/
structure Caller where
  id : Nat
  deriving DecidableEq

instance : Callback Caller := ⟨fun _ => none, fun _ message => some message⟩

/-- Server 1 unsubscribes from a running space, and server 2 subscribes
while its router is removed: the continuations run in the order in which
their promises were settled, and that of server 2 finds no router. -/
def subscribeTooLate : List (Action Caller) :=
  [.mediaWorkerConnected 1,
   .createSpaceRequest "room" ⟨"Room", ""⟩ "subscription-driven" ⟨0⟩,
   .subscribeToSpaceRequest 1 "room" ⟨1⟩,
   .routerAck 0 "caps", .resume 0, .resume 0,
   .unsubscribeFromSpaceRequest 1 "room" ⟨3⟩,
   .subscribeToSpaceRequest 2 "room" ⟨2⟩,
   .resume 0, .resume 0, .resume 0, .resume 0]

/-- A request to create a space of an unknown policy. -/
def unknownPolicy : Action Caller :=
  .createSpaceRequest "room" ⟨"Room", ""⟩ "scheduled" ⟨0⟩

/-- The nack of the `.then` body throws and the `.catch` nacks again; a
space of an unknown policy is not answered at all. -/
theorem answered_twice_or_never :
    (∃ past s tr, (machine Caller).recorded.Run anyStep past s tr ∧
      s.2.filter (Action.publishes ⟨2⟩)
        = [.subscribeToSpaceRequest 2 "room" ⟨2⟩] ∧
      tr.countP (Out.answersTo ⟨2⟩) = 2) ∧
    ∃ past s tr, (machine Caller).recorded.Run anyStep past s tr ∧
      s.2.filter (Action.publishes ⟨0⟩) = [unknownPolicy] ∧
      s.1.quiescent ∧ tr.countP (Out.answersTo ⟨0⟩) = 0 := by
  constructor
  · obtain ⟨past, s, tr, hr, hp⟩ := Machine.Run.exists_of_exec
      (M := (machine Caller).recorded) (G := anyStep) (l := subscribeTooLate)
      (s := (Coord.initial, []))
      (p := fun r => decide (r.2.1.2.filter (Action.publishes ⟨2⟩)
          = [.subscribeToSpaceRequest 2 "room" ⟨2⟩] ∧
        r.2.2.countP (Out.answersTo ⟨2⟩) = 2)) ⟨rfl, rfl⟩ (by decide)
    exact ⟨past, s, tr, hr, of_decide_eq_true hp⟩
  · obtain ⟨past, s, tr, hr, hp⟩ := Machine.Run.exists_of_exec
      (M := (machine Caller).recorded) (G := anyStep) (l := [unknownPolicy])
      (s := (Coord.initial, []))
      (p := fun r => decide (r.2.1.2.filter (Action.publishes ⟨0⟩)
          = [unknownPolicy] ∧ r.2.1.1.quiescent ∧
        r.2.2.countP (Out.answersTo ⟨0⟩) = 0)) ⟨rfl, rfl⟩ (by decide)
    exact ⟨past, s, tr, hr, of_decide_eq_true hp⟩

/-- Server 2 subscribes in time, and is answered once. -/
theorem request_answered_once_in_time : ∃ past s tr,
    (machine Caller).recorded.Run
        (Machine.unrecorded (answersOnce ⟨2⟩)) past s tr ∧
      s.1.owed ⟨2⟩ = 0 ∧ tr.countP (Out.answersTo ⟨2⟩) = 1 := by
  obtain ⟨past, s, tr, hr, hp⟩ := Machine.Run.exists_of_exec
    (M := (machine Caller).recorded)
    (G := Machine.unrecorded (answersOnce ⟨2⟩))
    (l := subscribeTooLate.take 6
      ++ [.subscribeToSpaceRequest 2 "room" ⟨2⟩, .resume 0])
    (s := (Coord.initial, []))
    (p := fun r => decide (r.2.1.2.filter (Action.publishes ⟨2⟩)
        = [.subscribeToSpaceRequest 2 "room" ⟨2⟩] ∧
      r.2.1.1.owed ⟨2⟩ = 0)) ⟨rfl, rfl⟩ (by decide)
  obtain ⟨hone, howed⟩ := of_decide_eq_true hp
  exact ⟨past, s, tr, hr, howed,
    (request_answered_once hr hone rfl).2 howed⟩

end Unanswered

end Twolk.Coordinator
