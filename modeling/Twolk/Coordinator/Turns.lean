/-
  Twolk.Coordinator.Turns
  ───────────────────────
  **WHO WAITS FOR AN ANSWER, AND WHAT A STRETCH ANSWERS.**

  A publisher whose request was not answered at once waits in some promise
  of the coordinator: a worker request, or a continuation.  `c.waiting`
  collects these publishers wherever they stand, so moving one from promise
  to promise is a permutation.

  `Turn c c' asked answered heard` is the law of a stretch: who waits
  afterwards is who waited before and who asked, less who was answered; and
  `heard` is what the signaling servers hear.  Stretches that change members
  or subscriptions are a turn on top of that one change, and `act_turn`
  lists them.

  Callbacks are assumed to return when they are acked.
-/
import Twolk.Coordinator.Forwarding

namespace Twolk.Coordinator

open Twolk.Lib

variable {κ : Type}

/-! ## §1. Waiting publishers. -/

/-- A publisher that waits for its answer. -/
inductive Waiting (κ : Type) where
  | subscribe (serverId : ServerId) (uuid : Uuid) (cb : κ)
  | unsubscribe (cb : κ)
  | addMember (spaceUuid : Uuid) (memberData : MemberData)
      (memberState : MemberState) (cb : κ)

/-- The handler that goes on after a transition. -/
def AfterTransition.waiting : AfterTransition κ → Option (Waiting κ)
  | .subscribe serverId uuid cb => some (.subscribe serverId uuid cb)
  | .unsubscribe cb => some (.unsubscribe cb)
  | .memberLeft => none

/-- The handler that goes on when a router is there. -/
def RouterWaiter.waiting : RouterWaiter κ → Option (Waiting κ)
  | .transition _ k => k.waiting
  | .addMember spaceUuid memberData memberState cb =>
      some (.addMember spaceUuid memberData memberState cb)

/-- The handler a ready continuation belongs to. -/
def Task.waiting : Task κ → Option (Waiting κ)
  | .allocated waiter _ => waiter.waiting
  | .routerRemoved _ k | .transitioned k _ => k.waiting
  | .producerAllocated _ | .caught .. => none

/-- Everyone who waits; a forwarded update waits in `updateRequests`. -/
def Coord.waiting (c : Coord κ) : List (Waiting κ) :=
  (c.routerRequests.entries.filterMap fun e => e.2.waiting) ++
    c.tasks.filterMap Task.waiting

/-! ## §2. Turns. -/

/-- `c'` has the members and the subscriptions of `c`. -/
structure TurnFrame (c c' : Coord κ) : Prop where
  members : MemberFrame c c'
  spaceSubscriptions : c'.spaceSubscriptions = c.spaceSubscriptions
  spaceToSubscribedMap : c'.spaceToSubscribedMap = c.spaceToSubscribedMap

theorem MemberFrame.trans {c c' c'' : Coord κ} (h : MemberFrame c c')
    (h' : MemberFrame c' c'') : MemberFrame c c'' where
  spaceOf m := (h'.spaceOf m).trans (h.spaceOf m)
  memberIdGen := h'.memberIdGen.trans h.memberIdGen
  members := h'.members.trans h.members
  membersOf uuid := (h'.membersOf uuid).trans (h.membersOf uuid)
  known uuid hs := h'.known uuid (h.known uuid hs)

namespace TurnFrame

variable {c c' c'' : Coord κ}

theorem refl (c : Coord κ) : TurnFrame c c := ⟨.refl c, rfl, rfl⟩

theorem trans (h : TurnFrame c c') (h' : TurnFrame c' c'') :
    TurnFrame c c'' :=
  ⟨h.members.trans h'.members,
    h'.spaceSubscriptions.trans h.spaceSubscriptions,
    h'.spaceToSubscribedMap.trans h.spaceToSubscribedMap⟩

end TurnFrame

theorem MediaFrame.turn {c c' : Coord κ} (h : MediaFrame c c') :
    TurnFrame c c' :=
  ⟨h.members_eq, h.spaceSubscriptions, h.spaceToSubscribedMap⟩

/-- A stretch from `c` to `c'`: who asked, who was answered, what was
heard. -/
structure Turn (c c' : Coord κ) (asked answered : List (Waiting κ))
    (heard : List (Out κ)) : Prop where
  frame : TurnFrame c c'
  waiting : (answered ++ c'.waiting).Perm (asked ++ c.waiting)
  updates : c'.updateRequests = c.updateRequests
  heard : c'.out.filter Out.heard = c.out.filter Out.heard ++ heard
  updateIdGen : c'.updateIdGen = c.updateIdGen := by rfl

namespace Turn

variable {c c' c'' : Coord κ} {asked asked' answered answered' :
  List (Waiting κ)} {heard heard' : List (Out κ)}

theorem refl (c : Coord κ) : Turn c c [] [] [] :=
  ⟨.refl c, .refl _, rfl, by simp, rfl⟩

/-- Two turns in a row are a turn. -/
theorem trans (h : Turn c c' asked answered heard)
    (h' : Turn c' c'' asked' answered' heard') :
    Turn c c'' (asked' ++ asked) (answered ++ answered')
      (heard ++ heard') where
  frame := h.frame.trans h'.frame
  waiting := by
    have h₁ := h'.waiting.append_left answered
    have h₂ := h.waiting.append_left asked'
    simpa only [List.append_assoc] using
      h₁.trans ((List.perm_append_comm_assoc _ _ _).trans h₂)
  updates := h'.updates.trans h.updates
  heard := by rw [h'.heard, h.heard, List.append_assoc]
  updateIdGen := h'.updateIdGen.trans h.updateIdGen

/-- A stretch that leaves waiting publishers and the outbox alone. -/
theorem of_frame (h : TurnFrame c c')
    (routerRequests : c'.routerRequests = c.routerRequests)
    (updateRequests : c'.updateRequests = c.updateRequests)
    (tasks : c'.tasks.filterMap Task.waiting
      = c.tasks.filterMap Task.waiting)
    (out : c'.out.filter Out.heard = c.out.filter Out.heard)
    (updateIdGen : c'.updateIdGen = c.updateIdGen) :
    Turn c c' [] [] [] where
  frame := h
  waiting := by
    simp only [Coord.waiting, routerRequests, tasks]
    exact .refl _
  updates := updateRequests
  heard := by rw [out, List.append_nil]
  updateIdGen := updateIdGen

end Turn

/-- What is emitted is heard, if anybody hears it. -/
theorem emit_turn (c : Coord κ) (o : Out κ) (hf : TurnFrame c (c.emit o)) :
    Turn c (c.emit o) [] [] ([o].filter Out.heard) where
  frame := hf
  waiting := .refl _
  updates := rfl
  heard := by simp [Coord.emit]
  updateIdGen := rfl

/-- A continuation waits with the handler it belongs to. -/
theorem defer_turn (c : Coord κ) (t : Task κ) :
    Turn c (c.defer t) t.waiting.toList [] [] where
  frame := ⟨⟨fun _ => rfl, rfl, rfl, fun _ => rfl, fun _ h => h⟩, rfl, rfl⟩
  waiting := by
    simp only [Coord.waiting, Coord.defer, List.filterMap_append]
    rw [List.nil_append, ← List.append_assoc]
    have h : [t].filterMap Task.waiting = t.waiting.toList := by
      cases h : t.waiting <;> simp [h]
    rw [h]
    exact List.perm_append_comm
  updates := rfl
  heard := by simp [Coord.defer]
  updateIdGen := rfl

/-- The continuation a stretch runs no longer waits. -/
theorem without_turn {c : Coord κ} {i : Nat} {t : Task κ}
    (ht : c.tasks[i]? = some t) :
    Turn c (c.without i) [] t.waiting.toList [] where
  frame := ⟨⟨fun _ => rfl, rfl, rfl, fun _ => rfl, fun _ h => h⟩, rfl, rfl⟩
  waiting := by
    have h := (perm_cons_eraseIdx ht).filterMap Task.waiting
    have h : (t.waiting.toList ++ (c.tasks.eraseIdx i).filterMap
        Task.waiting).Perm (c.tasks.filterMap Task.waiting) := by
      rw [List.filterMap_cons] at h
      cases ht : t.waiting <;> rw [ht] at h <;> exact h
    rw [List.nil_append]
    exact (List.perm_append_comm_assoc _ _ _).trans (h.append_left _)
  updates := rfl
  heard := by simp [Coord.without]
  updateIdGen := rfl

/-! ## §3. Answers. -/

section Answers

variable [Callback κ] (c : Coord κ) (cb : κ)

omit [Callback κ] in
/-- An ack answers its handler. -/
theorem ack_turn (resp : Response) :
    Turn c (c.emit (.ack cb resp)) [] [] [.ack cb resp] :=
  emit_turn c _ (emit_frame c rfl).turn

theorem ackSync_turn (resp : Response) :
    Turn c (c.ackSync cb resp) [] [] [.ack cb resp] := by
  unfold Coord.ackSync
  have h := ack_turn c cb resp
  split
  · exact h
  · exact h.trans (emit_turn _ _ (emit_frame _ rfl).turn)

theorem ackThen_turn (resp : Response) (wrap : String → String) :
    Turn c (c.ackThen cb resp wrap) [] [] [.ack cb resp] := by
  unfold Coord.ackThen
  have h := ack_turn c cb resp
  split
  · exact h
  · exact h.trans (defer_turn _ _)

omit [Callback κ] in
/-- So does a nack. -/
theorem nack_turn (message : String) :
    Turn c (c.emit (.nack cb message)) [] [] [.nack cb message] :=
  emit_turn c _ (emit_frame c rfl).turn

theorem nackSync_turn (message : String) :
    Turn c (c.nackSync cb message) [] [] [.nack cb message] := by
  unfold Coord.nackSync
  have h := nack_turn c cb message
  split
  · exact h
  · exact h.trans (emit_turn _ _ (emit_frame _ rfl).turn)

theorem nackThen_turn (message : String) :
    Turn c (c.nackThen cb message) [] [] [.nack cb message] := by
  unfold Coord.nackThen
  have h := nack_turn c cb message
  split
  · exact h
  · exact h.trans (defer_turn _ _)

theorem nackCatch_turn (message : String) :
    Turn c (c.nackCatch cb message) [] [] [.nack cb message] := by
  unfold Coord.nackCatch
  have h := nack_turn c cb message
  split
  · exact h
  · exact h.trans (emit_turn _ _ (emit_frame _ rfl).turn)

end Answers

/-! ## §4. Transitions. -/

/-- A change of a space record that keeps its members. -/
theorem modify_turnFrame (c : Coord κ) (uuid : Uuid) {f : Space → Space}
    (hf : ∀ s, (f s).members = s.members) (out : List (Out κ)) :
    TurnFrame c { c with spaces := c.spaces.modify uuid f, out } :=
  ⟨⟨fun _ => rfl, rfl, rfl, members_modify _ _ hf,
    fun uuid' => (known_modify _ _ _ uuid').mpr⟩, rfl, rfl⟩

/-- Settling a transition leaves its handler waiting. -/
theorem settle_turn (c : Coord κ) (k : AfterTransition κ)
    (result : Except String Unit) :
    Turn c (SpaceService.settle c k result) k.waiting.toList [] [] := by
  cases k with
  | memberLeft => exact .refl c
  | subscribe => exact defer_turn c _
  | unsubscribe => exact defer_turn c _

theorem setStatus_turn (c : Coord κ) (uuid : Uuid) (status : SpaceStatus) :
    Turn c (SpaceService.setStatus c uuid status) [] [] [] :=
  .of_frame (modify_turnFrame c uuid (fun _ => by rfl) c.out) rfl rfl rfl rfl
    rfl

theorem endSpace_turn (c : Coord κ) (uuid : Uuid) (k : AfterTransition κ) :
    Turn c (SpaceService.endSpace c uuid k) k.waiting.toList [] [] := by
  have he : TurnFrame c (c.emit (.onEnded uuid)) :=
    ⟨⟨fun _ => rfl, rfl, rfl, fun _ => rfl, fun _ h => h⟩, rfl, rfl⟩
  have h := (emit_turn c _ he).trans
    ((setStatus_turn _ uuid .ended).trans (settle_turn _ k (.ok ())))
  rwa [List.append_nil, List.append_nil] at h

theorem resumeEnded_turn (c : Coord κ) (uuid : Uuid)
    (k : AfterTransition κ) :
    Turn c (SpaceService.resumeEnded c uuid k) k.waiting.toList [] [] := by
  unfold SpaceService.resumeEnded
  have hf := modify_turnFrame c uuid
    (f := fun s => { s with primaryRouter := none }) (fun _ => by rfl)
    (c.out ++ [.routerCleared uuid])
  have h := (Turn.of_frame hf rfl rfl rfl (by simp [Out.heard]) rfl).trans
    (endSpace_turn _ uuid k)
  rwa [List.append_nil] at h

/-- A caller of `allocate` waits for it, wherever it has to. -/
theorem allocate_turn {c : Coord κ} (hwf : RouterWF c) (uuid : Uuid)
    (space : Space) (w : RouterWaiter κ) :
    Turn c (RouterAllocator.allocate c uuid space w) w.waiting.toList []
      [] := by
  unfold RouterAllocator.allocate
  split
  · rename_i router hr
    have he : TurnFrame c (c.emit (.routerResolved uuid router)) :=
      ⟨⟨fun _ => rfl, rfl, rfl, fun _ => rfl, fun _ h => h⟩, rfl, rfl⟩
    have h := (emit_turn c _ he).trans
      (defer_turn _ (.allocated w (.ok router)))
    rwa [List.append_nil] at h
  · split
    · exact defer_turn c _
    · split
      · exact defer_turn c _
      · rename_i workerId strategy _
        have hnew : c.routerRequests.get? c.routerIdGen = none := by
          by_contra h
          obtain ⟨w', hw'⟩ := Option.ne_none_iff_exists'.mp h
          exact absurd
            (hwf.fresh _ (by rw [hwf.requested _ _ hw']; simp))
            (Nat.lt_irrefl _)
        refine ⟨⟨⟨fun _ => rfl, rfl, rfl, fun _ => rfl, fun _ h => h⟩, rfl,
          rfl⟩, ?_, rfl, by simp [RouterAllocator.request, Out.heard], rfl⟩
        simp only [Coord.waiting, RouterAllocator.request,
          JsMap.entries_set_of_get?_eq_none w hnew, List.filterMap_append,
          List.nil_append, List.append_assoc]
        have hw : [(c.routerIdGen, w)].filterMap (fun e => e.2.waiting)
            = w.waiting.toList := by
          cases h : w.waiting <;> simp [h]
        rw [hw]
        exact List.perm_append_comm_assoc _ _ _

theorem remove_turn (c : Coord κ) (router : RouterId) :
    Turn c (RouterAllocator.remove c router) [] [] [] := by
  obtain ⟨transports, routers, l, heq, hl⟩ := remove_eq c router
  rw [heq]
  refine .of_frame ⟨⟨fun _ => rfl, rfl, rfl, fun _ => rfl, fun _ h => h⟩,
    rfl, rfl⟩ rfl rfl rfl ?_ rfl
  have hnil : l.filter Out.heard = [] := by
    refine List.filter_eq_nil_iff.mpr fun o ho => ?_
    obtain ⟨uuid, rfl⟩ := hl o ho
    simp [Out.heard]
  rw [List.filter_append, hnil, List.append_nil]

/-- A transition leaves its handler waiting, whichever way it goes. -/
theorem applyTransition_turn {c : Coord κ} (hwf : RouterWF c) (uuid : Uuid)
    (space : Space) (dest : SpaceStatus) (k : AfterTransition κ) :
    Turn c (SpaceService.applyTransition c uuid space dest k)
      k.waiting.toList [] [] := by
  unfold SpaceService.applyTransition
  split
  · exact settle_turn c k _
  · split
    · exact allocate_turn hwf uuid space (.transition uuid k)
    · split
      · split
        · rename_i router _
          have h := (remove_turn c router).trans
            (defer_turn _ (.routerRemoved uuid k))
          rwa [List.append_nil] at h
        · exact endSpace_turn c uuid k
      · exact settle_turn c k _

theorem transitionPromise_turn {c : Coord κ} (hwf : RouterWF c)
    (uuid : Uuid) (space : Space) (desired : Option SpaceStatus)
    (k : AfterTransition κ) :
    Turn c (SpaceService.transitionPromise c uuid space desired k)
      k.waiting.toList [] [] := by
  unfold SpaceService.transitionPromise
  split
  · exact applyTransition_turn hwf uuid space _ k
  · exact settle_turn c k _

/-- Nobody waits for a space to end after a leave. -/
theorem notifyMemberLeft_turn {c : Coord κ} (hwf : RouterWF c)
    (uuid : Uuid) :
    Turn c (SpaceService.notifyMemberLeft c uuid) [] [] [] := by
  unfold SpaceService.notifyMemberLeft
  split
  · exact .refl c
  · exact transitionPromise_turn hwf uuid _ _ .memberLeft

/-! ## §5. The media layer. -/

theorem request_turn (c : Coord κ) (router : RouterId) (member : MemberId)
    (source : Option TransportId) :
    Turn c (TransportAllocator.request c router member source) [] [] [] :=
  .of_frame (TransportAllocator.request_frame c router member source).turn
    rfl rfl rfl (by simp [TransportAllocator.request, Out.heard]) rfl

theorem transportAllocate_turn (c : Coord κ) (router : RouterId)
    (member : MemberId) (source : Option TransportId) :
    Turn c (TransportAllocator.allocate c router member source) [] []
      [] := by
  unfold TransportAllocator.allocate
  split
  · exact request_turn c router member none
  · split
    · exact request_turn c router member _
    · exact .refl c

theorem allocatePair_turn (router : RouterId) (newMember : MemberId)
    (source : TransportId) (c : Coord κ) (other : MemberId) :
    Turn c (MemberService.allocatePair router newMember source c other) []
      [] [] := by
  unfold MemberService.allocatePair
  split
  · exact .refl c
  · have h := transportAllocate_turn c router other (some source)
    dsimp only
    split
    · exact h
    · exact h.trans (transportAllocate_turn _ router newMember _)

/-- A loop in which nobody is answered. -/
theorem foldl_turn {α : Type} {f : Coord κ → α → Coord κ}
    (hf : ∀ c a, Turn c (f c a) [] [] []) (l : List α) :
    ∀ c, Turn c (l.foldl f c) [] [] [] := by
  induction l with
  | nil => exact .refl
  | cons a l ih => exact fun c => (hf c a).trans (ih (f c a))

theorem allocateConsumers_turn (c : Coord κ) (id : TransportId) :
    Turn c (MemberService.allocateConsumers c id) [] [] [] := by
  unfold MemberService.allocateConsumers
  split
  · exact .refl c
  · rename_i t _
    have h := (MemberService.setProducer_frame c t.owningMember id).trans
      (emit_frame _ (o := .consumersAllocated t.owningMember) rfl)
    have h := Turn.of_frame h.turn rfl rfl rfl
      (by simp [Coord.emit, Out.heard]) rfl
    dsimp only
    split
    · exact h
    · exact h.trans (foldl_turn (allocatePair_turn _ _ _) _ _)

/-- Removing transports answers nobody. -/
theorem removeConsumers_turn : ∀ (l : List (Option TransportId))
    (c : Coord κ), Turn c (MemberService.removeConsumers c l).1 [] [] []
  | [], c => .refl c
  | some id :: rest, c =>
      (Turn.of_frame (TransportAllocator.remove_frame c id).turn rfl rfl rfl
        rfl rfl).trans (removeConsumers_turn rest _)
  | none :: _, c => .refl c

/-- Only space updates are heard. -/
def Announces (heard : List (Out κ)) : Prop :=
  ∀ o ∈ heard, ∃ uuid update, o = .spaceUpdate uuid update

theorem announces_nil : Announces ([] : List (Out κ)) := by
  simp [Announces]

/-- Publishing params is heard as an announcement. -/
theorem publishParams_turn (c : Coord κ) (t : Transport) (options : Json) :
    ∃ heard, Announces heard ∧
      Turn c (TransportAllocator.publishParams c t options) [] []
        heard := by
  unfold TransportAllocator.publishParams
  split
  · exact ⟨[], by simp [Announces], .refl c⟩
  · split
    · exact ⟨_, by simp [Announces, Out.heard],
        emit_turn c _ (emit_frame c rfl).turn⟩
    · exact ⟨[], by simp [Announces], .refl c⟩

/-- A transport ack is heard as an announcement, or not at all. -/
theorem onTransportAck_turn (c : Coord κ) (id : TransportId)
    (options : Json) :
    ∃ heard, Announces heard ∧
      Turn c (TransportAllocator.onTransportAck c id options) [] []
        heard := by
  unfold TransportAllocator.onTransportAck
  split
  · exact ⟨[], by simp [Announces], .refl c⟩
  · rename_i t _
    have hf : MediaFrame c { c with
        transportRequests := c.transportRequests.delete id
        transportHeap := c.transportHeap.modify id fun t =>
          { t with status := .allocated, options := some options }
        out := c.out ++ [.transportAllocated id] } :=
      { MediaFrame.refl c with out := ⟨_, rfl, by simp [Out.media]⟩ }
    have h := Turn.of_frame hf.turn rfl rfl rfl (by simp [Out.heard]) rfl
    dsimp only
    split
    · obtain ⟨heard, ha, hp⟩ := publishParams_turn (Coord.defer { c with
          transportRequests := c.transportRequests.delete id
          transportHeap := c.transportHeap.modify id fun t =>
            { t with status := .allocated, options := some options }
          out := c.out ++ [.transportAllocated id] }
        (.producerAllocated id)) t options
      exact ⟨heard, ha, (h.trans (defer_turn _ _)).trans hp⟩
    · split
      · exact ⟨[], by simp [Announces], h⟩
      · rename_i producer _
        have h' := h.trans (Turn.of_frame
          (TransportAllocator.setConsumer_frame _ t.owningMember
            producer.owningMember
            (if c.transports.has id then some id else none)).turn rfl rfl
          rfl rfl rfl)
        obtain ⟨heard, ha, hp⟩ := publishParams_turn _ t options
        exact ⟨heard, ha, h'.trans hp⟩

/-- From `c` to `c'` an update is acked; when the callback throws, it is
nacked as well. -/
def AcksUpdate [Callback κ] (c c' : Coord κ) (cb : κ) : Prop :=
  (∃ resp heard, Announces heard ∧
    Turn c c' [] [] (.ack cb resp :: heard)) ∨
  Callback.ackThrows cb ≠ none ∧ ∃ resp message,
    Turn c c' [] [] [.ack cb resp, .nack cb message]

section Updates

variable [Callback κ]

/-- An update is acked after a step nobody hears. -/
theorem AcksUpdate.after {c d c' : Coord κ} {cb : κ}
    (h : Turn c d [] [] []) (ha : AcksUpdate d c' cb) :
    AcksUpdate c c' cb := by
  rcases ha with ⟨resp, heard, ha, h'⟩ | ⟨ht, resp, message, h'⟩
  · exact .inl ⟨resp, heard, ha, h.trans h'⟩
  · exact .inr ⟨ht, resp, message, h.trans h'⟩

/-- An update is acked once. -/
theorem answerAck_acks (c : Coord κ) (r : UpdateRequest κ)
    (resp : Response) {k : Coord κ → Coord κ}
    (hk : ∀ c, ∃ heard, Announces heard ∧ Turn c (k c) [] [] heard) :
    AcksUpdate c (SpaceUpdateDispatcher.answerAck c r resp k) r.cb := by
  unfold SpaceUpdateDispatcher.answerAck
  have h := ack_turn c r.cb resp
  dsimp only
  split
  · obtain ⟨heard, ha, hk⟩ := hk (c.emit (.ack r.cb resp))
    exact .inl ⟨resp, heard, ha, h.trans hk⟩
  · rename_i e he
    exact .inr ⟨by simp [he], resp, _, h.trans (nackCatch_turn _ _ _)⟩

/-- A worker's ack of update `id`, once the request is forgotten. -/
theorem onUpdateAck_acks (c : Coord κ) (id : Nat) (r : UpdateRequest κ)
    (resp : TransportUpdateAck) :
    AcksUpdate { c with updateRequests := c.updateRequests.delete id }
      (SpaceUpdateDispatcher.onUpdateAck c id r resp) r.cb := by
  have hnone : ∀ c : Coord κ, ∃ heard, Announces heard ∧
      Turn c c [] [] heard := fun c => ⟨[], by simp [Announces], .refl c⟩
  unfold SpaceUpdateDispatcher.onUpdateAck
  dsimp only
  split
  · refine AcksUpdate.after ?_ (answerAck_acks _ r .void hnone)
    exact .of_frame ⟨⟨fun _ => rfl, rfl, rfl, fun _ => rfl, fun _ h => h⟩,
      rfl, rfl⟩ rfl rfl rfl rfl rfl
  · refine answerAck_acks _ r _ fun c => ?_
    split
    · exact ⟨_, by simp [Announces, Out.heard],
        emit_turn c _ (emit_frame c rfl).turn⟩
    · exact hnone c
  · exact answerAck_acks _ r _ hnone
  · exact answerAck_acks _ r _ hnone

end Updates

/-! ## §6. Every stretch. -/

/-- The callback of a handler that waits. -/
def Waiting.cb : Waiting κ → κ
  | .subscribe _ _ cb | .unsubscribe cb | .addMember _ _ _ cb => cb

/-- The callbacks a request is published with. -/
def Action.callback : Action κ → Option κ
  | .createSpaceRequest _ _ _ cb | .readSpaceRequest _ cb
  | .subscribeToSpaceRequest _ _ cb | .unsubscribeFromSpaceRequest _ _ cb
  | .addMemberRequest _ _ _ _ cb | .removeMemberRequest _ cb
  | .spaceUpdateStream _ _ cb | .tryJoinSpaceRequest _ cb => some cb
  | _ => none

/-- Requests answered while `publish` runs. -/
def Action.isQuery : Action κ → Bool
  | .createSpaceRequest .. | .readSpaceRequest .. |
    .tryJoinSpaceRequest .. => true
  | _ => false

/-- Who waits after the request, when it is not refused. -/
def Action.asks : Action κ → Option (Waiting κ)
  | .subscribeToSpaceRequest serverId uuid cb =>
      some (.subscribe serverId uuid cb)
  | .addMemberRequest _ spaceUuid memberData memberState cb =>
      some (.addMember spaceUuid memberData memberState cb)
  | _ => none

/-- The space a request to wait for is about. -/
def Action.space : Action κ → Option Uuid
  | .subscribeToSpaceRequest _ uuid _ | .addMemberRequest _ uuid _ _ _ =>
      some uuid
  | _ => none

/-- Why a request is nacked while `publish` runs. -/
def Coord.refuses (c : Coord κ) : Action κ → Prop
  | .unsubscribeFromSpaceRequest _ uuid _ => c.statusOf uuid = none
  | .addMemberRequest serverId spaceUuid _ _ _ =>
      SpaceService.isSubscribed c serverId spaceUuid = false ∨
        c.statusOf spaceUuid = none
  | .removeMemberRequest id _ => id ∉ c.members.keys
  | _ => True

/-- The consumer returns from the request, or throws, without answering. -/
def Coord.ignores (c : Coord κ) : Action κ → Prop
  | .createSpaceRequest _ _ policyType _ =>
      (defaultPolicyFactory policyType).toOption = none
  | .removeMemberRequest id _ => id ∈ c.members.keys ∧
      ∃ member ∈ c.memberHeap.get? id,
        none ∈ member.memberToConsumerMap.entries.map Prod.snd
  | .spaceUpdateStream uuid update _ => update.isConnect = true ∧
      ∃ t ∈ c.targetOf uuid update, ∃ T ∈ c.transportHeap.get? t,
        T.status = .connected
  | _ => False

instance (c : Coord κ) : ∀ a, Decidable (c.ignores a)
  | .createSpaceRequest _ _ policyType _ => inferInstanceAs (Decidable
      ((defaultPolicyFactory policyType).toOption = none))
  | .removeMemberRequest id _ => inferInstanceAs (Decidable
      (id ∈ c.members.keys ∧ ∃ member ∈ c.memberHeap.get? id,
        none ∈ member.memberToConsumerMap.entries.map Prod.snd))
  | .spaceUpdateStream uuid update _ => inferInstanceAs (Decidable
      (update.isConnect = true ∧ ∃ t ∈ c.targetOf uuid update,
        ∃ T ∈ c.transportHeap.get? t, T.status = .connected))
  | .readSpaceRequest .. | .subscribeToSpaceRequest .. |
    .unsubscribeFromSpaceRequest .. | .addMemberRequest .. |
    .tryJoinSpaceRequest .. | .signalingServerConnected .. |
    .signalingServerDisconnected _ | .mediaWorkerConnected _ |
    .mediaWorkerDisconnected _ | .routerAck .. | .routerNack .. |
    .transportAck .. | .transportNack .. | .updateAck .. | .updateNack .. |
    .resume _ => .isFalse id

/-- Clients may join the space. -/
def Coord.joinable (c : Coord κ) (uuid : Uuid) : Prop :=
  c.statusOf uuid = some .initialized ∨ c.statusOf uuid = some .running

instance (c : Coord κ) (uuid : Uuid) : Decidable (c.joinable uuid) :=
  inferInstanceAs (Decidable (_ ∨ _))

/-- What the stretch of an action can be. -/
inductive Stretch [Callback κ] (c : Coord κ) :
    Action κ → Coord κ → Prop
  | silent {a : Action κ} {c' : Coord κ} {heard : List (Out κ)}
      (hcb : a.callback = none) (ha : Announces heard)
      (h : Turn c c' [] [] heard) : Stretch c a c'
  | served {a : Action κ} {c' : Coord κ} {cb : κ} {resp : Response}
      (hcb : a.callback = some cb) (hq : a.isQuery = true)
      (h : Turn c c' [] [] [.ack cb resp]) : Stretch c a c'
  /-- The ack stands inside a `try`, and throws. -/
  | servedTwice {spaceUuid : Uuid} {cb : κ} {c' : Coord κ}
      {resp : Response} {message : String}
      (ht : Callback.ackThrows cb ≠ none) (hj : c.joinable spaceUuid)
      (hn : c.servers ≠ [])
      (h : Turn c c' [] [] [.ack cb resp, .nack cb message]) :
      Stretch c (.tryJoinSpaceRequest spaceUuid cb) c'
  | refused {a : Action κ} {c' : Coord κ} {cb : κ} {message : String}
      (hcb : a.callback = some cb) (hr : c.refuses a)
      (h : Turn c c' [] [] [.nack cb message]) : Stretch c a c'
  | ignored {a : Action κ} {c' : Coord κ} {cb : κ}
      (hcb : a.callback = some cb) (hi : c.ignores a)
      (h : Turn c c' [] [] []) : Stretch c a c'
  | asked {a : Action κ} {c' : Coord κ} {w : Waiting κ} {uuid : Uuid}
      (hw : a.asks = some w) (hs : a.space = some uuid)
      (hk : c.statusOf uuid ≠ none) (h : Turn c c' [w] [] []) :
      Stretch c a c'
  | forwarded {uuid : Uuid} {update : SpaceUpdateS} {cb : κ}
      {c' : Coord κ} {t : TransportId} {T : Transport}
      {u : TransportUpdateC} (htarget : c.targetOf uuid update = some t)
      (ht : c.transportHeap.get? t = some T)
      (hs : T.status ≠ .unallocated)
      (hu : c.Forwards uuid T.status update u)
      (hp : c' = SpaceUpdateDispatcher.publish c t u uuid update.memberId cb)
      (h : Turn { c with
          updateIdGen := c.updateIdGen + 1
          updateRequests := c.updateRequests.set c.updateIdGen
            ⟨t, u, uuid, update.memberId, cb⟩ } c' [] [] []) :
      Stretch c (.spaceUpdateStream uuid update cb) c'
  | unsubscribing {serverId : ServerId} {uuid : Uuid} {cb : κ}
      {c' : Coord κ} (hk : c.statusOf uuid ≠ none)
      (h : Turn (SpaceService.unsubscribe c serverId uuid) c'
        [.unsubscribe cb] [] []) :
      Stretch c (.unsubscribeFromSpaceRequest serverId uuid cb) c'
  | removed {id : MemberId} {cb : κ} {member : Member} {c' : Coord κ}
      (hm : id ∈ c.members.keys) (hh : c.memberHeap.get? id = some member)
      (h : Turn (MemberService.remove c id member) c' [] []
        [.ack cb .void]) : Stretch c (.removeMemberRequest id cb) c'
  | nacked {i : Nat} {c' : Coord κ} {w : Waiting κ} {message : String}
      (h : Turn c c' [] [w] [.nack w.cb message]) :
      Stretch c (.resume i) c'
  | dropped {i : Nat} {serverId : ServerId} {uuid : Uuid} {cb : κ}
      {c' : Coord κ} (hs : c.statusOf uuid = none)
      (h : Turn c c' [] [.subscribe serverId uuid cb] []) :
      Stretch c (.resume i) c'
  | subscribed {i : Nat} {serverId : ServerId} {uuid : Uuid} {cb : κ}
      {space : Space} {rtpCapabilities : Json} {c' : Coord κ}
      (hs : c.spaces.get? uuid = some space)
      (h : Turn (SpaceService.subscribe c serverId uuid) c' []
        [.subscribe serverId uuid cb]
        [.ack cb (.subscribeToSpace ⟨uuid, space.data,
          SpaceService.clientSideMembers c space⟩ rtpCapabilities)]) :
      Stretch c (.resume i) c'
  | unsubscribed {i : Nat} {cb : κ} {c' : Coord κ}
      (hi : c.tasks[i]? = some (.transitioned (.unsubscribe cb) (.ok ())))
      (h : Turn c c' [] [.unsubscribe cb] [.ack cb .void]) :
      Stretch c (.resume i) c'
  | added {i : Nat} {uuid : Uuid} {data : MemberData}
      {state : MemberState} {cb : κ} {c' : Coord κ}
      (hk : c.statusOf uuid ≠ none)
      (h : Turn (MemberService.add c data state uuid) c' []
        [.addMember uuid data state cb]
        [.ack cb (.addMember c.memberIdGen)]) : Stretch c (.resume i) c'
  /-- A `.then` body threw, and its `.catch` nacks. -/
  | caught {i : Nat} {cb : κ} {message : String} {c' : Coord κ}
      (ht : c.tasks[i]? = some (.caught cb message))
      (h : Turn c c' [] [] [.nack cb message]) : Stretch c (.resume i) c'
  | updated {id : Nat} {resp : TransportUpdateAck} {r : UpdateRequest κ}
      {c' : Coord κ} (hr : c.updateRequests.get? id = some r)
      (h : AcksUpdate
        { c with updateRequests := c.updateRequests.delete id } c' r.cb) :
      Stretch c (.updateAck id resp) c'
  | updateNacked {id : Nat} {message : String} {r : UpdateRequest κ}
      {message' : String} {c' : Coord κ}
      (hr : c.updateRequests.get? id = some r)
      (h : Turn { c with updateRequests := c.updateRequests.delete id } c'
        [] [] [.nack r.cb message']) :
      Stretch c (.updateNack id message) c'

section Stretches

variable [Callback κ] {c : Coord κ}

/-- A creation is answered at once. -/
theorem createSpace_stretch {uuid : Uuid} (data : SpaceData)
    (policyType : String) (cb : κ) (hn : c.spaces.get? uuid = none) :
    Stretch c (.createSpaceRequest uuid data policyType cb)
      (SpaceService.onCreateSpaceRequest c uuid data policyType cb) := by
  unfold SpaceService.onCreateSpaceRequest
  split
  · rename_i e he
    refine .ignored rfl ?_ (emit_turn c _ (emit_frame c rfl).turn)
    rw [Coord.ignores, he]
    rfl
  · rename_i policy _
    have hf : TurnFrame c { c with
        spaces := c.spaces.set uuid
          { status := .initialized, policy, primaryRouter := none, data,
            members := ∅ } } := by
      refine ⟨⟨fun _ => rfl, rfl, rfl, fun uuid' => ?_, fun uuid' hs => ?_⟩,
        rfl, rfl⟩
      · simp only [Coord.membersOf, JsMap.get?_set]
        by_cases h : uuid' = uuid
        · rw [if_pos h, h, hn]
          rfl
        · rw [if_neg h]
      · simp only [Coord.statusOf, JsMap.get?_set]
        split
        · simp
        · exact hs
    exact .served rfl rfl
      ((Turn.of_frame hf rfl rfl rfl rfl rfl).trans (ackSync_turn _ cb _))

/-- So is a read. -/
theorem readSpace_stretch (uuid : Uuid) (cb : κ) :
    Stretch c (.readSpaceRequest uuid cb)
      (SpaceService.onReadSpaceRequest c uuid cb) := by
  unfold SpaceService.onReadSpaceRequest
  split
  · exact .refused rfl trivial (nackSync_turn c cb _)
  · exact .served rfl rfl (ackSync_turn c cb _)

omit [Callback κ] in
/-- Without a server there is no URL to hand out. -/
theorem servers_of_allocate {r : String × RoundRobinStrategy}
    (h : ChannelPreAllocator.allocate c = .ok r) : c.servers ≠ [] := by
  intro hn
  simp [ChannelPreAllocator.allocate, hn, RoundRobinStrategy.pick] at h

/-- And so is a question for a server. -/
theorem tryJoin_stretch (spaceUuid : Uuid) (cb : κ) :
    Stretch c (.tryJoinSpaceRequest spaceUuid cb)
      (onTryJoinSpaceRequest c spaceUuid cb) := by
  unfold onTryJoinSpaceRequest
  split
  · exact .refused rfl trivial (nackSync_turn c cb _)
  · rename_i space hs
    split
    · exact .refused rfl trivial (nackSync_turn c cb _)
    · rename_i hended
      split
      · exact .refused rfl trivial (nackSync_turn c cb _)
      · rename_i serverUrl strategy hok
        have hf : TurnFrame c { c with serverStrategy := strategy } :=
          ⟨⟨fun _ => rfl, rfl, rfl, fun _ => rfl, fun _ h => h⟩, rfl, rfl⟩
        have h := (Turn.of_frame hf rfl rfl rfl rfl rfl).trans
          (ack_turn _ cb (.tryJoinSpace serverUrl))
        dsimp only
        split
        · exact .served rfl rfl h
        · rename_i e he
          have hj : c.joinable spaceUuid := by
            unfold Coord.joinable Coord.statusOf
            rw [hs, Option.map_some]
            cases hst : space.status with
            | initialized => exact .inl rfl
            | running => exact .inr rfl
            | ended => exact absurd hst hended
          exact .servedTwice (by simp [he]) hj (servers_of_allocate hok)
            (h.trans (nackSync_turn _ cb e))

/-- A subscription is answered, or its handler waits. -/
theorem subscribe_stretch (hwf : RouterWF c) (serverId : ServerId)
    (uuid : Uuid) (cb : κ) :
    Stretch c (.subscribeToSpaceRequest serverId uuid cb)
      (SpaceService.onSubscribeToSpaceRequest c serverId uuid cb) := by
  unfold SpaceService.onSubscribeToSpaceRequest
  split
  · exact .refused rfl trivial (nackSync_turn c cb _)
  · rename_i space hs
    split
    · exact .refused rfl trivial (nackSync_turn c cb _)
    · exact .asked rfl rfl (by simp [Coord.statusOf, hs])
        (transitionPromise_turn hwf uuid space _ _)

/-- So is an unsubscription. -/
theorem unsubscribe_stretch (hwf : RouterWF c) (serverId : ServerId)
    (uuid : Uuid) (cb : κ) :
    Stretch c (.unsubscribeFromSpaceRequest serverId uuid cb)
      (SpaceService.onUnsubscribeFromSpaceRequest c serverId uuid cb) := by
  unfold SpaceService.onUnsubscribeFromSpaceRequest
  split
  · rename_i hs
    refine .refused rfl ?_ (nackSync_turn c cb _)
    simp [Coord.refuses, Coord.statusOf, hs]
  · rename_i space hs
    have hwf' : RouterWF (SpaceService.unsubscribe c serverId uuid) :=
      { hwf with }
    exact .unsubscribing (by simp [Coord.statusOf, hs])
      (transitionPromise_turn hwf' uuid space _ (.unsubscribe cb))

/-- So is the addition of a member. -/
theorem addMember_stretch (hwf : RouterWF c) (serverId : ServerId)
    (uuid : Uuid) (data : MemberData) (state : MemberState) (cb : κ) :
    Stretch c (.addMemberRequest serverId uuid data state cb)
      (MemberService.onAddMemberRequest c serverId uuid data state
        cb) := by
  unfold MemberService.onAddMemberRequest
  split
  · split
    · rename_i hs
      refine .refused rfl (.inr ?_) (nackSync_turn c cb _)
      simp [Coord.statusOf, hs]
    · rename_i space hs
      exact .asked rfl rfl (by simp [Coord.statusOf, hs])
        (allocate_turn hwf uuid space (.addMember uuid data state cb))
  · rename_i hsub
    exact .refused rfl (.inl (Bool.eq_false_of_not_eq_true hsub))
      (nackSync_turn c cb _)

omit [Callback κ] in
/-- The loop over the consumers stops at an `undefined` entry only. -/
theorem undefined_of_removeConsumers {l : List (Option TransportId)} :
    ∀ {c : Coord κ}, (MemberService.removeConsumers c l).2 = false →
      none ∈ l := by
  induction l with
  | nil =>
      intro c h
      cases h
  | cons e l ih =>
    intro c h
    cases e with
    | none => exact List.mem_cons_self
    | some t => exact List.mem_cons_of_mem _ (ih h)

omit [Callback κ] in
/-- Removing a member after its transports is removing it. -/
theorem remove_turn_of_media {d : Coord κ} (id : MemberId)
    (member : Member) (hf : MediaFrame c d) (h : Turn c d [] [] []) :
    Turn (MemberService.remove c id member)
      (MemberService.remove d id member) [] [] [] where
  frame := by
    refine ⟨⟨h.frame.members.spaceOf, h.frame.members.memberIdGen, ?_,
      fun uuid => ?_, fun uuid hs => ?_⟩, hf.spaceSubscriptions,
      hf.spaceToSubscribedMap⟩
    · show d.members.delete id = c.members.delete id
      rw [hf.members]
    · simp only [Coord.membersOf, MemberService.remove, hf.spaces]
    · simp only [Coord.statusOf, MemberService.remove, hf.spaces] at hs ⊢
      exact hs
  waiting := h.waiting
  updates := h.updates
  heard := h.heard
  updateIdGen := h.updateIdGen

/-- `onRemoveMemberRequest` from the loop over the consumers on. -/
theorem removeRest_stretch {d : Coord κ} {id : MemberId} {cb : κ}
    {member : Member} (hwf : RouterWF c) (hm : id ∈ c.members.keys)
    (hh : c.memberHeap.get? id = some member) (hf : MediaFrame c d)
    (h : Turn c d [] [] []) :
    Stretch c (.removeMemberRequest id cb)
      (match MemberService.removeConsumers d
          (member.memberToConsumerMap.entries.map Prod.snd) with
        | (c, false) => c.emit
            (.thrown "Cannot read properties of undefined (reading 'id')")
        | (c, true) =>
            let c := MemberService.remove c id member
            let c := SpaceService.notifyMemberLeft c member.owningSpace
            c.ackSync cb .void) := by
  have hf' := hf.trans (MemberService.removeConsumers_frame
    (member.memberToConsumerMap.entries.map Prod.snd) d)
  have h' := h.trans (removeConsumers_turn
    (member.memberToConsumerMap.entries.map Prod.snd) d)
  have hundef := undefined_of_removeConsumers
    (l := member.memberToConsumerMap.entries.map Prod.snd) (c := d)
  generalize MemberService.removeConsumers d
    (member.memberToConsumerMap.entries.map Prod.snd) = p at hf' h' hundef ⊢
  obtain ⟨e, done⟩ := p
  cases done with
  | false =>
      exact .ignored rfl ⟨hm, member, by simpa using hh, hundef rfl⟩
        (h'.trans (emit_turn _ _ (emit_frame _ rfl).turn))
  | true =>
      have hwf' : RouterWF (MemberService.remove e id member) := by
        refine RouterFrame.wf ?_ (hf'.routerFrame.wf hwf)
        exact .of_spaces rfl rfl rfl rfl rfl
          (fun uuid r hr =>
            (primaryRouter_modify _ _ (fun _ => by rfl) uuid).symm.trans hr)
          fun uuid => (known_modify _ _ _ uuid).mpr
      exact .removed hm hh ((remove_turn_of_media id member hf' h').trans
        ((notifyMemberLeft_turn hwf' member.owningSpace).trans
          (ackSync_turn _ cb .void)))

/-- A removal is answered at once. -/
theorem removeMember_stretch (hwf : RouterWF c) (hI : MemberWF c)
    (id : MemberId) (cb : κ) :
    Stretch c (.removeMemberRequest id cb)
      (MemberService.onRemoveMemberRequest c id cb) := by
  unfold MemberService.onRemoveMemberRequest
  split
  · rename_i hm
    rw [JsMap.has_eq_true_iff_mem] at hm
    split
    · rename_i hn
      exact absurd (by rw [Coord.spaceOf, hn]; rfl) (hI.stored id hm)
    · rename_i member hh
      cases member.producer with
      | none => exact removeRest_stretch hwf hm hh (.refl c) (.refl c)
      | some t =>
          have hf := TransportAllocator.remove_frame c t
          exact removeRest_stretch hwf hm hh hf
            (.of_frame hf.turn rfl rfl rfl rfl rfl)
  · rename_i hm
    rw [JsMap.has_eq_true_iff_mem] at hm
    exact .refused rfl hm (nackSync_turn c cb _)

omit [Callback κ] in
/-- Every member a message can name has a producer. -/
theorem namedSource_ne_null (hT : TransportWF c) (uuid : Uuid)
    (update : SpaceUpdateS) : c.namedSource uuid update ≠ some none := by
  intro h
  cases update with
  | memberConsumerConsumeEvent memberId rtpCapabilities source =>
      obtain ⟨member, hfind, hp⟩ := Option.map_eq_some_iff.mp h
      obtain ⟨-, hm⟩ := mem_of_findMember hfind
      obtain ⟨p, -, hp', -⟩ := hT.producer source member.owningSpace
        (by rw [Coord.spaceOf, hm]; rfl)
      rw [Coord.producerOf, hm, Option.bind_some, hp] at hp'
      cases hp'
  | memberProducerConnectEvent | memberProducerProduceEvent
    | memberConsumerConnectEvent | memberConsumerResumeEvent => cases h

/-- An update is answered, or its request is open. -/
theorem spaceUpdate_stretch (hT : TransportWF c) (uuid : Uuid)
    (update : SpaceUpdateS) (cb : κ) :
    Stretch c (.spaceUpdateStream uuid update cb)
      (SpaceUpdateDispatcher.onSpaceUpdate c uuid update cb) := by
  have hd := onSpaceUpdate_dispatched c uuid update cb
  generalize SpaceUpdateDispatcher.onSpaceUpdate c uuid update cb = c' at hd ⊢
  cases hd with
  | refused message => exact .refused rfl trivial (nackSync_turn c cb _)
  | @connected t T htarget ht hs hc =>
      refine .ignored rfl ⟨hc, t, ?_, T, ?_, hs⟩ (.refl c)
      · rw [htarget]
        exact Option.mem_some_self t
      · rw [ht]
        exact Option.mem_some_self T
  | thrown hn => exact absurd hn (namedSource_ne_null hT uuid update)
  | @published t T u htarget ht hs hu =>
      refine .forwarded htarget ht hs hu rfl ?_
      exact .of_frame ⟨⟨fun _ => rfl, rfl, rfl, fun _ => rfl,
        fun _ h => h⟩, rfl, rfl⟩ rfl rfl rfl
        (by simp [SpaceUpdateDispatcher.publish, Out.heard]) rfl

/-! ## §7. Every continuation. -/

/-- The handler of a subscription goes on, and answers. -/
theorem resumeSubscribe_stretch {i : Nat} {serverId : ServerId}
    {uuid : Uuid} {cb : κ} (ht : c.tasks[i]?
      = some (.transitioned (.subscribe serverId uuid cb) (.ok ()))) :
    Stretch c (.resume i)
      (SpaceService.resumeSubscribe (c.without i) serverId uuid cb) := by
  have h := without_turn ht
  unfold SpaceService.resumeSubscribe
  split
  · rename_i hs
    have hs : c.spaces.get? uuid = none := hs
    exact .dropped (by simp [Coord.statusOf, hs]) h
  · rename_i space hs
    split
    · exact .nacked (h.trans (nackThen_turn _ cb _))
    · rename_i rtpCapabilities _
      have h' : Turn (SpaceService.subscribe c serverId uuid)
          (SpaceService.subscribe (c.without i) serverId uuid) []
          [.subscribe serverId uuid cb] [] :=
        { h with
          frame := ⟨⟨fun _ => rfl, rfl, rfl, fun _ => rfl, fun _ h => h⟩,
            rfl, rfl⟩ }
      exact .subscribed hs (h'.trans (ackThen_turn _ cb _ _))

/-- The handler that waited for a transition goes on. -/
theorem resumeTransitioned_stretch {i : Nat} {k : AfterTransition κ}
    {result : Except String Unit}
    (ht : c.tasks[i]? = some (.transitioned k result)) :
    Stretch c (.resume i)
      (SpaceService.resumeTransitioned (c.without i) k result) := by
  have h := without_turn ht
  cases k with
  | memberLeft => exact .silent rfl (by simp [Announces]) h
  | subscribe serverId uuid cb =>
      cases result with
      | error e => exact .nacked (h.trans (nackCatch_turn _ cb e))
      | ok _ => exact resumeSubscribe_stretch ht
  | unsubscribe cb =>
      cases result with
      | error e => exact .nacked (h.trans (nackCatch_turn _ cb e))
      | ok _ => exact .unsubscribed ht (h.trans (ackThen_turn _ cb .void id))

omit [Callback κ] in
/-- Putting a publisher where it waited is no turn at all. -/
theorem Turn.back {c' d : Coord κ} {l : List (Waiting κ)}
    (h : Turn c d [] l []) (h' : Turn d c' l [] []) :
    Turn c c' [] [] [] where
  frame := h.frame.trans h'.frame
  waiting := h'.waiting.trans h.waiting
  updates := h'.updates.trans h.updates
  heard := by
    rw [h'.heard, h.heard, List.append_nil, List.append_nil]
  updateIdGen := h'.updateIdGen.trans h.updateIdGen

/-- The handler that waited for a router goes on. -/
theorem resumeAllocated_stretch (hwf : RouterWF c) {i : Nat}
    {w : RouterWaiter κ} {result : Except String RouterId}
    (ht : c.tasks[i]? = some (.allocated w result)) :
    Stretch c (.resume i) (resumeAllocated (c.without i) w result) := by
  have h := without_turn ht
  cases w with
  | transition uuid k =>
      refine .silent rfl announces_nil (h.back ?_)
      cases result with
      | error e => exact settle_turn _ k (.error e)
      | ok r =>
          have h' := (setStatus_turn (c.without i) uuid .running).trans
            (settle_turn _ k (.ok ()))
          rwa [List.append_nil] at h'
  | addMember uuid data state cb =>
      cases result with
      | error e => exact .nacked (h.trans (nackCatch_turn _ cb _))
      | ok r =>
          have hk := hwf.allocatedKnown _ _ (List.mem_of_getElem? ht)
          have h' : Turn (MemberService.add c data state uuid)
              (MemberService.add (c.without i) data state uuid) []
              [.addMember uuid data state cb] [] :=
            { frame := ⟨⟨fun _ => rfl, rfl, rfl, fun _ => rfl,
                fun _ h => h⟩, rfl, rfl⟩
              waiting := h.waiting
              updates := rfl
              heard := by simp [MemberService.add, Coord.without]
              updateIdGen := rfl }
          exact .added hk (h'.trans ((transportAllocate_turn _ r
            c.memberIdGen none).trans (ackThen_turn _ cb _ _)))

/-- **A continuation answers for the handler it belongs to**, or leaves it
waiting. -/
theorem resume_stretch (hwf : RouterWF c) {i : Nat} {t : Task κ}
    (ht : c.tasks[i]? = some t) :
    Stretch c (.resume i) (resumeTask (c.without i) t) := by
  have h := without_turn ht
  cases t with
  | allocated w result => exact resumeAllocated_stretch hwf ht
  | routerRemoved uuid k =>
      exact .silent rfl announces_nil
        (h.back (resumeEnded_turn _ uuid k))
  | transitioned k result => exact resumeTransitioned_stretch ht
  | producerAllocated id =>
      exact .silent rfl announces_nil
        (h.trans (allocateConsumers_turn _ id))
  | caught cb message => exact .caught ht (h.trans (nackCatch_turn _ cb _))

/-! ## §8. Every action. -/

omit [Callback κ] in
theorem tables_turn (c : Coord κ) (workerIds : List WorkerId)
    (servers : List ServerEntry) :
    Turn c { c with workerIds, servers } [] [] [] :=
  .of_frame ⟨⟨fun _ => rfl, rfl, rfl, fun _ => rfl, fun _ h => h⟩, rfl, rfl⟩
    rfl rfl rfl rfl rfl

omit [Callback κ] in
/-- A caller of `allocate` hears from its worker. -/
theorem answerRouter_turn {id : RouterId} {w : RouterWaiter κ}
    (hw : c.routerRequests.get? id = some w) {c' : Coord κ}
    {result : Except String RouterId} (hf : TurnFrame c c')
    (hr : c'.routerRequests = c.routerRequests.delete id)
    (hu : c'.updateRequests = c.updateRequests)
    (ht : c'.tasks = c.tasks ++ [.allocated w result])
    (ho : c'.out.filter Out.heard = c.out.filter Out.heard)
    (hgen : c'.updateIdGen = c.updateIdGen) :
    Turn c c' [] [] [] where
  frame := hf
  waiting := by
    have hp := (JsMap.perm_entries_delete hw).filterMap
      fun e => e.2.waiting
    have hw' : ∀ l : List (RouterId × RouterWaiter κ),
        ((id, w) :: l).filterMap (fun e => e.2.waiting)
          = w.waiting.toList ++ l.filterMap fun e => e.2.waiting := by
      intro l
      cases h : w.waiting <;> simp [h]
    have ht' : [Task.allocated w result].filterMap Task.waiting
        = w.waiting.toList := by
      show [Task.allocated w result].filterMap Task.waiting = _
      cases h : w.waiting <;> simp [Task.waiting, h]
    rw [hw'] at hp
    simp only [Coord.waiting, hr, ht, List.filterMap_append, ht',
      List.nil_append]
    rw [← List.append_assoc]
    exact List.perm_append_comm.trans
      ((List.append_assoc _ _ _) ▸ hp.append_right _)
  updates := hu
  heard := by rw [ho, List.append_nil]
  updateIdGen := hgen

/-- **Every stretch is one of these.** -/
theorem act_stretch {c' : Coord κ} {a : Action κ} (hwf : RouterWF c)
    (hI : MemberWF c) (hT : TransportWF c) (h : c.act a = some c') :
    Stretch c a c' := by
  have hnone : Announces ([] : List (Out κ)) := by simp [Announces]
  -- one stretch for each action, from the lemma of its handler
  cases a with
  | createSpaceRequest uuid data policyType cb =>
      simp only [Coord.act] at h
      split at h
      · cases h
      · rename_i hn
        rw [Bool.not_eq_true, JsMap.has_eq_false_iff] at hn
        cases h
        exact createSpace_stretch data policyType cb hn
  | readSpaceRequest uuid cb =>
      cases h
      exact readSpace_stretch uuid cb
  | subscribeToSpaceRequest serverId uuid cb =>
      cases h
      exact subscribe_stretch hwf serverId uuid cb
  | unsubscribeFromSpaceRequest serverId uuid cb =>
      cases h
      exact unsubscribe_stretch hwf serverId uuid cb
  | addMemberRequest serverId uuid data state cb =>
      cases h
      exact addMember_stretch hwf serverId uuid data state cb
  | removeMemberRequest id cb =>
      cases h
      exact removeMember_stretch hwf hI id cb
  | spaceUpdateStream uuid update cb =>
      cases h
      exact spaceUpdate_stretch hT uuid update cb
  | tryJoinSpaceRequest spaceUuid cb =>
      cases h
      exact tryJoin_stretch spaceUuid cb
  | signalingServerConnected | signalingServerDisconnected
    | mediaWorkerConnected | mediaWorkerDisconnected =>
      cases h
      exact .silent rfl hnone (tables_turn c _ _)
  -- the answer of a router wakes the continuation that waits for it
  | routerAck id caps =>
      obtain ⟨w, hw, rfl⟩ := Option.map_eq_some_iff.mp h
      refine .silent rfl hnone ?_
      rw [onRouterAck_eq hwf caps hw]
      refine answerRouter_turn hw ?_ rfl rfl rfl (by simp [Out.heard]) rfl
      exact ⟨⟨fun _ => rfl, rfl, rfl, members_modify _ _ fun _ => by rfl,
        fun uuid => (known_modify _ _ _ uuid).mpr⟩, rfl, rfl⟩
  | routerNack id message =>
      obtain ⟨w, hw, rfl⟩ := Option.map_eq_some_iff.mp h
      refine .silent rfl hnone (answerRouter_turn hw ?_ rfl rfl rfl rfl
        rfl)
      exact ⟨⟨fun _ => rfl, rfl, rfl, fun _ => rfl, fun _ h => h⟩, rfl, rfl⟩
  -- an ack is heard only while the request waits
  | transportAck id options =>
      simp only [Coord.act] at h
      split at h
      · cases h
        obtain ⟨heard, ha, ht⟩ := onTransportAck_turn c id options
        exact .silent rfl ha ht
      · cases h
  | transportNack id message =>
      simp only [Coord.act] at h
      split at h
      · cases h
        exact .silent rfl hnone (.of_frame
          (TransportAllocator.onTransportNack_frame c id).turn rfl rfl rfl
          rfl rfl)
      · cases h
  | updateAck id resp =>
      obtain ⟨r, hr, rfl⟩ := Option.map_eq_some_iff.mp h
      exact .updated hr (onUpdateAck_acks c id r resp)
  | updateNack id message =>
      obtain ⟨r, hr, rfl⟩ := Option.map_eq_some_iff.mp h
      exact .updateNacked hr (nackCatch_turn _ r.cb _)
  -- the continuation decides which stretch it is
  | resume i =>
      obtain ⟨t, ht, rfl⟩ := Option.map_eq_some_iff.mp h
      exact resume_stretch hwf ht

/-- A step of the machine is a stretch with an empty outbox. -/
theorem step_stretch {c' : Coord κ} {a : Action κ} {obs : List (Out κ)}
    (hr : (machine κ).Reachable c)
    (hs : (machine κ).step c a = some (c', obs)) :
    Stretch { c with out := [] } a c' ∧ obs = c'.out := by
  obtain ⟨d, hd, hp⟩ := Option.map_eq_some_iff.mp hs
  cases hp
  have hwf := coordWF_reachable hr
  exact ⟨act_stretch (c := { c with out := [] }) { hwf.router with }
    { hwf.member with } { hwf.transport with } hd, rfl⟩

end Stretches

end Twolk.Coordinator
