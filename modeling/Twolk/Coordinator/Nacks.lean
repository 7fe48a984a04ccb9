/-
  Twolk.Coordinator.Nacks
  ───────────────────────
  **WHERE THE EXCEPTION OF A NACK GOES.**

  A nack callback may throw.  While `publish` runs, the exception leaves the
  consumer and reaches the publisher (`.thrown`).  In a continuation it
  stays in the coordinator's code: a `.catch` takes it (`Task.catches`), or
  nobody does (`.unhandledRejection`).

  Main results:
    * `request_contained` — the requests of a signaling server leave nothing
      that was thrown in the coordinator,
    * `resumed_escapes`   — a nack in a continuation does the opposite,
    * `nacked_cases`      — there is no other nack of such a request.
-/
import Twolk.Coordinator.Answers

namespace Twolk.Coordinator

open Twolk.Lib

variable {κ : Type}

section Nacks

variable [DecidableEq κ]

/-- The continuation is a `.catch` with an exception of `cb`. -/
def Task.catches (cb : κ) : Task κ → Bool
  | .caught cb' _ => cb' = cb
  | _ => false

variable [Callback κ]

/-- What the nacks among `l` throw, reaches the publishers. -/
structure ThrownBack (l : List (Out κ)) : Prop where
  thrown : ∀ cb message e, .nack cb message ∈ l →
    Callback.nackThrows cb message = some e → .thrown e ∈ l
  unhandled : ∀ e, .unhandledRejection e ∉ l

/-- From `c` to `c'` no exception of `cb` stays in the coordinator's
code. -/
structure Contained (cb : κ) (c c' : Coord κ) : Prop where
  caught : c'.tasks.countP (Task.catches cb)
    = c.tasks.countP (Task.catches cb)
  out : ∃ l, c'.out = c.out ++ l ∧ ThrownBack l

omit [DecidableEq κ] in
theorem ThrownBack.nil : ThrownBack ([] : List (Out κ)) :=
  ⟨by simp, by simp⟩

omit [DecidableEq κ] in
/-- Two stretches that throw back do so together. -/
theorem ThrownBack.append {l l' : List (Out κ)} (h : ThrownBack l)
    (h' : ThrownBack l') : ThrownBack (l ++ l') where
  thrown cb message e hn he := by
    rcases List.mem_append.mp hn with hn | hn
    · exact List.mem_append_left _ (h.thrown cb message e hn he)
    · exact List.mem_append_right _ (h'.thrown cb message e hn he)
  unhandled e he :=
    (List.mem_append.mp he).elim (h.unhandled e) (h'.unhandled e)

omit [DecidableEq κ] in
theorem ThrownBack.single {o : Out κ} (hn : ∀ cb message, o ≠ .nack cb message)
    (hu : ∀ e, o ≠ .unhandledRejection e) : ThrownBack [o] where
  thrown cb message _ hm := absurd (List.mem_singleton.mp hm).symm
    (hn cb message)
  unhandled e he := hu e (List.mem_singleton.mp he).symm

namespace Contained

variable {cb : κ} {c c' c'' : Coord κ}

theorem of_eq (tasks : c'.tasks = c.tasks) (out : c'.out = c.out) :
    Contained cb c c' :=
  ⟨by rw [tasks], [], by rw [out, List.append_nil], .nil⟩

theorem refl (cb : κ) (c : Coord κ) : Contained cb c c := .of_eq rfl rfl

theorem trans (h : Contained cb c c') (h' : Contained cb c' c'') :
    Contained cb c c'' := by
  obtain ⟨l, hl, ht⟩ := h.out
  obtain ⟨l', hl', ht'⟩ := h'.out
  refine ⟨h'.caught.trans h.caught, l ++ l', ?_, ht.append ht'⟩
  rw [hl', hl, List.append_assoc]

theorem append {l : List (Out κ)} (tasks : c'.tasks = c.tasks)
    (out : c'.out = c.out ++ l) (hl : ThrownBack l) : Contained cb c c' :=
  ⟨by rw [tasks], l, out, hl⟩

theorem emit (c : Coord κ) {o : Out κ}
    (hn : ∀ cb message, o ≠ .nack cb message)
    (hu : ∀ e, o ≠ .unhandledRejection e) : Contained cb c (c.emit o) :=
  .append rfl rfl (.single hn hu)

theorem defer (c : Coord κ) {t : Task κ} (ht : t.catches cb = false) :
    Contained cb c (c.defer t) := by
  refine ⟨?_, [], (List.append_nil _).symm, .nil⟩
  simp [Coord.defer, List.countP_append, ht]

end Contained

/-! ## §1. Requests. -/

section Requests

variable {cb : κ} (c : Coord κ)

/-- A synchronous ack keeps no exception. -/
theorem ackSync_contained (cb' : κ) (resp : Response) :
    Contained cb c (c.ackSync cb' resp) := by
  unfold Coord.ackSync
  have h : Contained cb c (c.emit (.ack cb' resp)) :=
    .emit c (by simp) (by simp)
  split
  · exact h
  · exact h.trans (.emit _ (by simp) (by simp))

/-- A synchronous nack throws back what its callback throws. -/
theorem nackSync_contained (cb' : κ) (message : String) :
    Contained cb c (c.nackSync cb' message) := by
  unfold Coord.nackSync
  dsimp only
  split
  · rename_i hnone
    refine .append rfl rfl ⟨fun cb'' m e hm he => ?_, by simp⟩
    cases List.mem_singleton.mp hm
    rw [hnone] at he
    cases he
  · rename_i e hsome
    refine .append (l := [.nack cb' message, .thrown e]) rfl
      (List.append_assoc ..) ⟨fun cb'' m e' hm he => ?_, by simp⟩
    simp only [List.mem_cons, Out.nack.injEq, reduceCtorEq,
      List.not_mem_nil, or_false] at hm
    obtain ⟨rfl, rfl⟩ := hm
    rw [hsome] at he
    cases he
    simp

/-- Settling a transition keeps none. -/
theorem settle_contained (k : AfterTransition κ)
    (result : Except String Unit) :
    Contained cb c (SpaceService.settle c k result) := by
  unfold SpaceService.settle
  split
  · exact .refl cb c
  · exact .defer c rfl

theorem endSpace_contained (uuid : Uuid) (k : AfterTransition κ) :
    Contained cb c (SpaceService.endSpace c uuid k) := by
  have he : Contained cb c (c.emit (.onEnded uuid)) :=
    .emit c (by simp) (by simp)
  have hs : Contained cb (c.emit (.onEnded uuid))
      (SpaceService.setStatus (c.emit (.onEnded uuid)) uuid .ended) :=
    .of_eq rfl rfl
  exact (he.trans hs).trans (settle_contained _ k _)

theorem allocate_contained (uuid : Uuid) (space : Space)
    (w : RouterWaiter κ) :
    Contained cb c (RouterAllocator.allocate c uuid space w) := by
  unfold RouterAllocator.allocate
  split
  · rename_i router _
    have he : Contained cb c (c.emit (.routerResolved uuid router)) :=
      .emit c (by simp) (by simp)
    exact he.trans (.defer _ rfl)
  · split
    · exact .defer c rfl
    · split
      · exact .defer c rfl
      · exact .append rfl rfl (.single (by simp) (by simp))

theorem remove_contained (router : RouterId) :
    Contained cb c (RouterAllocator.remove c router) := by
  obtain ⟨transports, routers, l, heq, hl⟩ := remove_eq c router
  rw [heq]
  refine .append rfl rfl ⟨fun cb' m e he => ?_, fun e he => ?_⟩
  · obtain ⟨uuid, h⟩ := hl _ he
    cases h
  · obtain ⟨uuid, h⟩ := hl _ he
    cases h

/-- Nor does a transition. -/
theorem applyTransition_contained (uuid : Uuid) (space : Space)
    (dest : SpaceStatus) (k : AfterTransition κ) :
    Contained cb c
      (SpaceService.applyTransition c uuid space dest k) := by
  unfold SpaceService.applyTransition
  split
  · exact settle_contained c k _
  · split
    · exact allocate_contained c uuid space _
    · split
      · split
        · exact (remove_contained c _).trans (.defer _ rfl)
        · exact endSpace_contained c uuid k
      · exact settle_contained c k _

theorem transitionPromise_contained (uuid : Uuid) (space : Space)
    (desired : Option SpaceStatus) (k : AfterTransition κ) :
    Contained cb c
      (SpaceService.transitionPromise c uuid space desired k) := by
  unfold SpaceService.transitionPromise
  split
  · exact applyTransition_contained c uuid space _ k
  · exact settle_contained c k _

/-- By induction on the consumer transports to drop. -/
theorem removeConsumers_contained : ∀ (l : List (Option TransportId))
    (c : Coord κ), Contained cb c (MemberService.removeConsumers c l).1
  | [], c => .refl cb c
  | some id :: rest, c => by
      have h : Contained cb c (TransportAllocator.remove c id) :=
        .of_eq rfl rfl
      exact h.trans (removeConsumers_contained rest _)
  | none :: _, c => .refl cb c

/-- `onRemoveMemberRequest` from the loop over the consumers on. -/
theorem removeRest_contained {d : Coord κ} (id : MemberId) (cb' : κ)
    (member : Member) (h : Contained cb c d) :
    Contained cb c
      (match MemberService.removeConsumers d
          (member.memberToConsumerMap.entries.map Prod.snd) with
        | (c, false) => c.emit
            (.thrown "Cannot read properties of undefined (reading 'id')")
        | (c, true) =>
            let c := MemberService.remove c id member
            let c := SpaceService.notifyMemberLeft c member.owningSpace
            c.ackSync cb' .void) := by
  have h := h.trans (removeConsumers_contained
    (member.memberToConsumerMap.entries.map Prod.snd) d)
  generalize MemberService.removeConsumers d
    (member.memberToConsumerMap.entries.map Prod.snd) = p at h ⊢
  obtain ⟨e, done⟩ := p
  cases done with
  | false => exact h.trans (.emit _ (by simp) (by simp))
  | true =>
      have hr : Contained cb e (MemberService.remove e id member) :=
        .of_eq rfl rfl
      have hl : Contained cb (MemberService.remove e id member)
          (SpaceService.notifyMemberLeft (MemberService.remove e id member)
            member.owningSpace) := by
        unfold SpaceService.notifyMemberLeft
        split
        · exact .refl cb _
        · exact transitionPromise_contained _ _ _ _ _
      exact ((h.trans hr).trans hl).trans (ackSync_contained _ cb' _)

/-- Nor does a removal. -/
theorem onRemoveMember_contained (id : MemberId) (cb' : κ) :
    Contained cb c (MemberService.onRemoveMemberRequest c id cb') := by
  unfold MemberService.onRemoveMemberRequest
  split
  · split
    · exact .refl cb c
    · rename_i member _
      cases member.producer with
      | none => exact removeRest_contained c id cb' member (.refl cb c)
      | some t => exact removeRest_contained c id cb' member (.of_eq rfl rfl)
  · exact nackSync_contained c cb' _

/-- A request that only a signaling server makes of the spaces and their
members. -/
def Action.ofSpace : Action κ → Bool
  | .subscribeToSpaceRequest .. | .unsubscribeFromSpaceRequest .. |
    .addMemberRequest .. | .removeMemberRequest .. => true
  | _ => false

/-- **Nothing that a request throws stays in the coordinator.** -/
theorem request_contained {c c' : Coord κ} {a : Action κ}
    (ha : a.ofSpace = true) (h : c.act a = some c') :
    Contained cb c c' := by
  cases a with
  | subscribeToSpaceRequest serverId uuid cb' =>
      cases h
      unfold SpaceService.onSubscribeToSpaceRequest
      split
      · exact nackSync_contained c cb' _
      · split
        · exact nackSync_contained c cb' _
        · exact transitionPromise_contained c uuid _ _ _
  | unsubscribeFromSpaceRequest serverId uuid cb' =>
      cases h
      unfold SpaceService.onUnsubscribeFromSpaceRequest
      split
      · exact nackSync_contained c cb' _
      · have hu : Contained cb c (SpaceService.unsubscribe c serverId uuid) :=
          .of_eq rfl rfl
        exact hu.trans (transitionPromise_contained _ uuid _ _ _)
  | addMemberRequest serverId spaceUuid data state cb' =>
      cases h
      unfold MemberService.onAddMemberRequest
      split
      · split
        · exact nackSync_contained c cb' _
        · exact allocate_contained c spaceUuid _ _
      · exact nackSync_contained c cb' _
  | removeMemberRequest id cb' =>
      cases h
      exact onRemoveMember_contained c id cb'
  | _ => cases ha

end Requests

/-! ## §2. Continuations. -/

section Continuations

/-- An exception of `cb` stays in the coordinator's code. -/
def Escapes (cb : κ) (e : String) (c c' : Coord κ) : Prop :=
  .unhandledRejection e ∈ c'.out ∨
    c.tasks.countP (Task.catches cb) < c'.tasks.countP (Task.catches cb)

/-- Nobody was nacked. -/
def Coord.unnacked (c : Coord κ) : Prop :=
  ∀ cb message, .nack cb message ∉ c.out

omit [DecidableEq κ] [Callback κ] in
/-- A turn that hears no nack leaves none behind. -/
theorem Coord.unnacked.turn {c c' : Coord κ} {asked answered :
    List (Waiting κ)} {heard : List (Out κ)} (h : c.unnacked)
    (ht : Turn c c' asked answered heard)
    (hh : ∀ cb message, .nack cb message ∉ heard) : c'.unnacked := by
  intro cb message hn
  have hmem : .nack cb message ∈ c'.out.filter Out.heard :=
    List.mem_filter.mpr ⟨hn, rfl⟩
  rw [ht.heard] at hmem
  rcases List.mem_append.mp hmem with hmem | hmem
  · exact h cb message (List.mem_filter.mp hmem).1
  · exact hh cb message hmem

variable {c : Coord κ} {cb cb' : κ} {message message' e : String}

omit [DecidableEq κ] in
/-- Nothing catches what a `.catch` body throws. -/
theorem nackCatch_unhandled (h : c.unnacked)
    (hn : .nack cb message ∈ (c.nackCatch cb' message').out)
    (he : Callback.nackThrows cb message = some e) :
    .unhandledRejection e ∈ (c.nackCatch cb' message').out := by
  unfold Coord.nackCatch at hn ⊢
  dsimp only at hn ⊢
  split at hn
  · rename_i hnone
    rcases List.mem_append.mp hn with hn | hn
    · exact absurd hn (h cb message)
    · cases List.mem_singleton.mp hn
      rw [hnone] at he
      cases he
  · rename_i e' hsome
    rcases List.mem_append.mp hn with hn | hn
    · rcases List.mem_append.mp hn with hn | hn
      · exact absurd hn (h cb message)
      · cases List.mem_singleton.mp hn
        rw [hsome] at he
        cases he
        simp [Coord.emit]
    · cases List.mem_singleton.mp hn

/-- What a `.then` body throws is left to its `.catch`. -/
theorem nackThen_caught (h : c.unnacked)
    (hn : .nack cb message ∈ (c.nackThen cb' message').out)
    (he : Callback.nackThrows cb message = some e) :
    (c.nackThen cb' message').tasks.countP (Task.catches cb)
      = c.tasks.countP (Task.catches cb) + 1 := by
  unfold Coord.nackThen at hn ⊢
  dsimp only at hn ⊢
  split at hn
  · rename_i hnone
    rcases List.mem_append.mp hn with hn | hn
    · exact absurd hn (h cb message)
    · cases List.mem_singleton.mp hn
      rw [hnone] at he
      cases he
  · rename_i e' hsome
    rcases List.mem_append.mp hn with hn | hn
    · exact absurd hn (h cb message)
    · cases List.mem_singleton.mp hn
      simp [Coord.defer, Coord.emit, List.countP_append, Task.catches]

omit [DecidableEq κ] in
/-- What a nack in the continuation of `allocate` throws is caught by nobody. -/
theorem resumeAllocated_unhandled {w : RouterWaiter κ}
    {result : Except String RouterId} (h : c.unnacked)
    (hn : .nack cb message ∈ (resumeAllocated c w result).out)
    (he : Callback.nackThrows cb message = some e) :
    .unhandledRejection e ∈ (resumeAllocated c w result).out := by
  cases w with
  | transition uuid k =>
      cases result with
      | error error =>
          exact absurd hn (h.turn (settle_turn c k _) (by simp) cb message)
      | ok r =>
          have ht := (setStatus_turn c uuid .running).trans
            (settle_turn _ k (.ok ()))
          exact absurd hn (h.turn ht (by simp) cb message)
  | addMember uuid data state cb' =>
      cases result with
      | error error => exact nackCatch_unhandled h hn he
      | ok r =>
          have hadd : (MemberService.add c data state uuid).unnacked := by
            intro cb'' m hm
            rcases List.mem_append.mp hm with hm | hm
            · exact h cb'' m hm
            · cases List.mem_singleton.mp hm
          have hjoin := (hadd.turn (transportAllocate_turn _ r c.memberIdGen
            none) (by simp)).turn (ackThen_turn _ cb' (.addMember
              c.memberIdGen) ("failed to allocate router: " ++ ·)) (by simp)
          exact absurd hn (hjoin cb message)

/-- A nack of the continuation of `applyTransition`. -/
theorem resumeTransitioned_escapes {k : AfterTransition κ}
    {result : Except String Unit} (h : c.unnacked)
    (hn : .nack cb message
      ∈ (SpaceService.resumeTransitioned c k result).out)
    (he : Callback.nackThrows cb message = some e) :
    Escapes cb e c (SpaceService.resumeTransitioned c k result) := by
  cases k with
  | memberLeft => exact absurd hn (h cb message)
  | unsubscribe cb' =>
      cases result with
      | error error => exact .inl (nackCatch_unhandled h hn he)
      | ok r =>
          exact absurd hn
            (h.turn (ackThen_turn c cb' .void id) (by simp) cb message)
  | subscribe serverId uuid cb' =>
      cases result with
      | error error => exact .inl (nackCatch_unhandled h hn he)
      | ok r =>
          have heq : SpaceService.resumeTransitioned c
              (.subscribe serverId uuid cb') (.ok r)
                = SpaceService.resumeSubscribe c serverId uuid cb' := rfl
          rw [heq] at hn ⊢
          unfold SpaceService.resumeSubscribe at hn ⊢
          split at hn
          · exact absurd hn (h cb message)
          · split at hn
            · have hcaught := nackThen_caught h hn he
              exact .inr (hcaught ▸ Nat.lt_succ_self _)
            · have hs : (SpaceService.subscribe c serverId uuid).unnacked := h
              exact absurd hn
                (hs.turn (ackThen_turn _ cb' _ id) (by simp) cb message)

/-- **A nack in a continuation does not reach its publisher.** -/
theorem resumed_escapes {c c' : Coord κ} {i : Nat} (h : c.unnacked)
 (hact : c.act (.resume i) = some c')
    (hn : .nack cb message ∈ c'.out)
    (he : Callback.nackThrows cb message = some e) :
    Escapes cb e c c' := by
  obtain ⟨t, ht, rfl⟩ := Option.map_eq_some_iff.mp hact
  have hout : (c.without i).unnacked := h
  have hcount := countP_eraseIdx_add (Task.catches cb) ht
  cases t with
  | allocated w result =>
      exact .inl (resumeAllocated_unhandled hout hn he)
  | routerRemoved uuid k =>
      exact absurd hn
        (hout.turn (resumeEnded_turn _ uuid k) (by simp) cb message)
  | transitioned k result =>
      refine (resumeTransitioned_escapes hout hn he).imp_right fun hlt => ?_
      have hsame : (c.without i).tasks.countP (Task.catches cb)
          = c.tasks.countP (Task.catches cb) := hcount
      rw [hsame] at hlt
      exact hlt
  | producerAllocated id =>
      exact absurd hn
        (hout.turn (allocateConsumers_turn _ id) (by simp) cb message)
  | caught cb' message' => exact .inl (nackCatch_unhandled hout hn he)

end Continuations

/-! ## §3. Who is nacked. -/

omit [DecidableEq κ] in
/-- A nack answers the request that runs, or a publisher that waited for
the continuation or the worker that runs. -/
theorem nacked_cases {c c' : Coord κ} {a : Action κ} {cb : κ}
    {message : String} (hs : Stretch c a c') (hout : c.out = [])
    (hret : Callback.ackThrows cb = none) (hn : .nack cb message ∈ c'.out) :
    (a.callback = some cb ∧
      c'.out.filter Out.heard = [.nack cb message]) ∨
    (∃ i, a = .resume i) ∨
    (a.callback = none ∧
      ∃ n r, c.updateRequests.get? n = some r ∧ r.cb = cb) := by
  -- the nack is the only thing heard of the stretch in each case
  have hmem : .nack cb message ∈ c'.out.filter Out.heard :=
    List.mem_filter.mpr ⟨hn, rfl⟩
  have hheard : ∀ {d asked answered heard}, Turn d c' asked answered heard →
      d.out.filter Out.heard = [] → .nack cb message ∈ heard ∧
        c'.out.filter Out.heard = heard := by
    intro d asked answered heard ht hd
    have heq := ht.heard
    rw [hd, List.nil_append] at heq
    rw [heq] at hmem
    exact ⟨hmem, heq⟩
  have hnil : c.out.filter Out.heard = [] := by rw [hout]; rfl
  cases hs with
  -- by the kind of stretch, and what each one is heard to say
  | silent _ ha h =>
      obtain ⟨uuid, update, heq⟩ := ha _ (hheard h hnil).1
      cases heq
  | served _ _ h => cases List.mem_singleton.mp (hheard h hnil).1
  -- this nack follows a callback that threw, which `cb` does not
  | servedTwice ht hj hns h =>
      have hin := (hheard h hnil).1
      simp only [List.mem_cons, reduceCtorEq, Out.nack.injEq,
        List.not_mem_nil, or_false, false_or] at hin
      obtain ⟨rfl, -⟩ := hin
      exact absurd hret ht
  | refused hcb _ h =>
      obtain ⟨hin, heq⟩ := hheard h hnil
      cases List.mem_singleton.mp hin
      exact .inl ⟨hcb, heq⟩
  | ignored _ _ h => cases (hheard h hnil).1
  | asked _ _ _ h => cases (hheard h hnil).1
  | forwarded _ _ _ _ _ h => cases (hheard h hnil).1
  | unsubscribing _ h => cases (hheard h hnil).1
  | removed _ _ h => cases List.mem_singleton.mp (hheard h hnil).1
  -- continuations answer requests of other stretches
  | nacked => exact .inr (.inl ⟨_, rfl⟩)
  | dropped => exact .inr (.inl ⟨_, rfl⟩)
  | subscribed => exact .inr (.inl ⟨_, rfl⟩)
  | unsubscribed => exact .inr (.inl ⟨_, rfl⟩)
  | added => exact .inr (.inl ⟨_, rfl⟩)
  | caught => exact .inr (.inl ⟨_, rfl⟩)
  -- the answer of a worker goes to the callback of its update
  | @updated id _ r _ hr h =>
      refine .inr (.inr ⟨rfl, id, r, hr, ?_⟩)
      rcases h with ⟨resp, heard, ha, ht⟩ | ⟨_, resp, m, ht⟩
      · rcases List.mem_cons.mp (hheard ht hnil).1 with h | h
        · cases h
        · obtain ⟨uuid, update, heq⟩ := ha _ h
          cases heq
      · have hin := (hheard ht hnil).1
        simp only [List.mem_cons, reduceCtorEq, Out.nack.injEq,
          List.not_mem_nil, or_false, false_or] at hin
        exact hin.1.symm
  | @updateNacked id _ r _ _ hr ht =>
      have hin := (hheard ht hnil).1
      cases List.mem_singleton.mp hin
      exact .inr (.inr ⟨rfl, id, r, hr, rfl⟩)

end Nacks

end Twolk.Coordinator
