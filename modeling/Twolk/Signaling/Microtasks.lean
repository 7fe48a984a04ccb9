/-
  Twolk.Signaling.Microtasks
  ──────────────────────────
  **SERVERS AND COORDINATOR IN ONE EVENT LOOP.**

  The bus is in-process, so the continuations of the coordinator and of the
  sessions are microtasks of one queue, and run in the order in which their
  promises are settled.  The ack of an unsubscribe is two microtasks away
  from the request at most: the `await` of `RouterAllocator.remove`, then
  the `.then` of `onUnsubscribeFromSpaceRequest`.  A session comes at least
  two microtasks after the ack of `prepareMember`, which is `async` and
  returns a promise.  So a mirror that was empty when its unsubscribe was
  sent is removed before any channel is registered for it.

  Main results:
    * `step_unsubscribes`  — a step that makes an unsubscribe wait leaves an
      empty mirror,
    * `resume_unsubscribe` — what an unsubscribe has left to do,
    * `due_lt`             — a new unsubscribe is due before every session
      that is to register for its space,
    * `Unattending.step`   — while an unsubscribe waits, no channel is
      registered for its space,
    * `Loop.unattended`    — so a run of the loop is a run in which no mirror
      is removed of which channels are registered.
-/
import Twolk.Coordinator.Desertion
import Twolk.Lib.EventLoop
import Twolk.Signaling.Presence

namespace Twolk.Signaling

open Twolk.Lib Coordinator

/-! ## §1. The event loop. -/

/-- The continuation of a settled promise. -/
inductive Continuation where
  /-- A continuation of the coordinator. -/
  | task (t : Coordinator.Task Publisher)
  /-- `MemberSession.start` after `await prepareSpace(..)`, or in its
  `catch`. -/
  | session (serverId : ServerId) (session : SessionId)
  /-- `MemberSession.start` after `await prepareMember(..)`. -/
  | member (serverId : ServerId) (session : SessionId) (spaceUuid : Uuid)
  deriving DecidableEq

/-- How a session goes on, if the promise it awaits is settled. -/
def Session.continuation (x : Session) (serverId : ServerId)
    (session : SessionId) : Option Continuation :=
  match x.phase with
  | .preparingMember (some (.ok _)) =>
      some (.member serverId session x.auth.spaceUuid)
  | .preparingSpace (some _) | .preparingMember (some (.error _)) =>
      some (.session serverId session)
  | _ => none

/-- Which continuation a session waits for. -/
theorem Session.continuation_cases {x : Session} {serverId : ServerId}
    {session : SessionId} {k : Continuation}
    (h : x.continuation serverId session = some k) :
    k = .session serverId session ∨
      ∃ m, x.phase = .preparingMember (some (.ok m)) ∧
        k = .member serverId session x.auth.spaceUuid := by
  unfold Session.continuation at h
  split at h
  · rename_i m hp
    cases h
    exact .inr ⟨m, hp, rfl⟩
  · cases h
    exact .inl rfl
  · cases h
    exact .inl rfl
  · cases h

namespace System

/-- The sessions that can go on. -/
def resumable (s : System) : List Continuation :=
  s.servers.entries.flatMap fun e => e.2.sessions.entries.filterMap
    fun f => f.2.continuation e.1 f.1

/-- Every continuation whose promise is settled. -/
def ready (s : System) : List Continuation :=
  s.coordinator.tasks.map .task ++ s.resumable

/-- Where a continuation that can go on belongs. -/
theorem mem_resumable {s : System} {k : Continuation}
    (h : k ∈ s.resumable) : ∃ S v session x,
      s.servers.get? S = some v ∧ v.sessions.get? session = some x ∧
      x.continuation S session = some k := by
  obtain ⟨⟨S, v⟩, he, h⟩ := List.mem_flatMap.mp h
  obtain ⟨⟨session, x⟩, hf, hk⟩ := List.mem_filterMap.mp h
  exact ⟨S, v, session, x, JsMap.mem_entries.mp he, JsMap.mem_entries.mp hf,
    hk⟩

/-- The continuation an action resumes. -/
def resumes (s : System) : SystemAction → Option Continuation
  | .coordinator (.resume i) => (s.coordinator.tasks[i]?).map .task
  | .resume serverId session => (s.sessionOf serverId session).bind
      fun x => x.continuation serverId session
  | _ => none

end System

/-- The hops of a continuation whose promise was settled just now. -/
def admits : Continuation → Nat → Bool
  -- `await this.routerAllocator.remove(..)`, whose body has no `await`
  | .task (.routerRemoved ..), hops => hops = 0
  -- `transitionPromise.then(..)`
  | .task (.transitioned _ (.ok _)), hops => hops = 0
  -- the promise that `prepareMember` returns settles its own promise first
  | .member .., hops => 0 < hops
  | _, _ => true

/-- The microtasks of servers and coordinator. -/
def microtasks : EventLoop System SystemAction Continuation where
  ready := System.ready
  resumes := System.resumes
  admits := admits

/-- The signaling machine in an event loop. -/
def eventLoop :
    Machine (Queued System Continuation)
      (LoopAction SystemAction Continuation) (Out Publisher) :=
  microtasks.machine machine

/-! ## §2. Unsubscribes that wait. -/

/-- The publisher waits for the ack of its unsubscribe. -/
def ofUnsubscribe (serverId : ServerId) (uuid : Uuid) :
    Waiting Publisher → Bool
  | .unsubscribe cb => cb = .deleteSpace serverId uuid
  | _ => false

/-- The continuation is on the way to the ack of an unsubscribe. -/
def Continuation.unsubscribes (serverId : ServerId) (uuid : Uuid) :
    Continuation → Bool
  | .task t => t.waiting.any (ofUnsubscribe serverId uuid)
  | _ => false

/-- How many unsubscribes of a server wait for a space. -/
def Coord.unsubscribing (c : Coord Publisher) (serverId : ServerId)
    (uuid : Uuid) : Nat :=
  c.waiting.countP (ofUnsubscribe serverId uuid)

section Waiting

variable {c c' : Coord Publisher} {asked answered : List (Waiting Publisher)}
  {heard : List (Out Publisher)} {S : ServerId} {uuid : Uuid}

/-- A turn adds those who ask. -/
theorem unsubscribing_turn (S : ServerId) (uuid : Uuid)
    (h : Turn c c' asked answered heard) :
    Coord.unsubscribing c' S uuid ≤ Coord.unsubscribing c S uuid
      + asked.countP (ofUnsubscribe S uuid) := by
  have hcount := h.waiting.countP_eq (ofUnsubscribe S uuid)
  rw [List.countP_append, List.countP_append] at hcount
  unfold Coord.unsubscribing
  omega

/-- An unsubscribe waits in a continuation, not for a router. -/
theorem unsubscribing_eq (hw : Waiters c) :
    Coord.unsubscribing c S uuid
      = (c.tasks.map Continuation.task).countP
        (Continuation.unsubscribes S uuid) := by
  have hnone : (c.routerRequests.entries.filterMap
      fun e => e.2.waiting).countP (ofUnsubscribe S uuid) = 0 := by
    refine List.countP_eq_zero.mpr fun w hin => ?_
    obtain ⟨e, he, hwait⟩ := List.mem_filterMap.mp hin
    have hsub := hw.requested e.1 e.2 (JsMap.mem_entries.mp he)
    cases hk : e.2 with
    | addMember =>
        rw [hk] at hwait
        cases hwait
        simp [ofUnsubscribe]
    | transition =>
        rw [hk] at hsub hwait
        obtain ⟨_, _, rfl⟩ := hsub
        cases hwait
        simp [ofUnsubscribe]
  unfold Coord.unsubscribing Coord.waiting
  rw [List.countP_append, hnone, Nat.zero_add, List.countP_filterMap,
    List.countP_map]
  refine List.countP_congr fun t _ => ?_
  simp only [Function.comp_def, Continuation.unsubscribes]
  cases t.waiting <;> simp

end Waiting

/-! ## §3. Mirrors that are left. -/

namespace Server

variable {v v' : Server}

/-- The mirror stored under `uuid` has no member. -/
def Vacant (v : Server) (uuid : Uuid) : Prop :=
  ∃ ref, v.spaces.get? uuid = some ref ∧ ∀ m, m ∉ v.membersOf ref

/-- What leaves the mirrors alone keeps a space vacant. -/
theorem Vacant.frame {uuid : Uuid} (h : v.Vacant uuid)
    (hf : MirrorFrame v v') : v'.Vacant uuid := by
  obtain ⟨ref, href, hempty⟩ := h
  refine ⟨ref, ?_, fun m hm => hempty m ((hf.membersOf ref m).mp hm)⟩
  rw [hf.spaces]
  exact href

/-- A space that can be deleted has no member. -/
theorem deleteSpace_vacant {serverId : ServerId} {uuid : Uuid}
    {b : Request} (h : v.deleteSpace serverId uuid = some b) :
    b = .unsubscribeFromSpaceRequest serverId uuid
      (.deleteSpace serverId uuid) ∧ v.Vacant uuid := by
  unfold deleteSpace at h
  split at h
  · cases h
  · rename_i space hspace
    split at h
    · cases h
    · rename_i hsize
      cases h
      obtain ⟨ref, href, hheap⟩ := Option.bind_eq_some_iff.mp hspace
      refine ⟨rfl, ref, href, fun m hm => ?_⟩
      obtain ⟨space', hspace', hin⟩ := mem_membersOf.mp hm
      rw [hheap] at hspace'
      cases hspace'
      have hzero : space.members.size = 0 := by omega
      rw [JsMap.size_eq_length_keys] at hzero
      rw [List.eq_nil_of_length_eq_zero hzero] at hin
      cases hin

/-- **The last member of a mirror is gone when its server unsubscribes.** -/
theorem onMemberDeleted_vacant {serverId : ServerId} {memberId : MemberId}
    {b : Request} (h : (v.onMemberDeleted serverId memberId).2 = some b) :
    ∃ uuid, b = .unsubscribeFromSpaceRequest serverId uuid
      (.deleteSpace serverId uuid) ∧
        (v.onMemberDeleted serverId memberId).1.Vacant uuid := by
  cases href : v.members.get? memberId with
  | none =>
      unfold onMemberDeleted at h
      rw [href] at h
      cases h
  | some ref =>
      rw [onMemberDeleted_eq serverId href]
      unfold onMemberDeleted at h
      rw [href] at h
      dsimp only at h
      split at h
      · cases h
      · dsimp only at h
        split at h
        · exact ⟨_, deleteSpace_vacant h⟩
        · cases h

end Server

namespace System

variable {G : Guard System SystemAction (Out Publisher)}
  {s s' s₁ : System} {b : Request} {reqs reqs' : List Request}
  {S : ServerId} {uuid : Uuid}

/-- The mirror that `S` stores under `uuid` has no member. -/
def Vacant (s : System) (S : ServerId) (uuid : Uuid) : Prop :=
  ∃ v, s.servers.get? S = some v ∧ v.Vacant uuid

/-- A channel of `S` is registered for `uuid`. -/
def Watched (s : System) (S : ServerId) (uuid : Uuid) : Prop :=
  ∃ v m session x, s.servers.get? S = some v ∧ Registers v m session x ∧
    x.auth.spaceUuid = uuid

theorem unattended_of_not_watched (h : ¬ s.Watched S uuid) :
    s.Unattended S uuid :=
  fun v _ hv _ m session x hx heq => h ⟨v, m, session, x, hv, hx, heq⟩

/-- The session that joins next is among those that can go on. -/
theorem mem_resumable_member {session : SessionId}
    (h : .member S session uuid ∈ s.resumable) :
    ∃ v x m, s.servers.get? S = some v ∧
      v.sessions.get? session = some x ∧
      x.phase = .preparingMember (some (.ok m)) ∧
      x.auth.spaceUuid = uuid := by
  obtain ⟨S', v, session', x, hv, hx, hk⟩ := mem_resumable h
  rcases Session.continuation_cases hk with heq | ⟨m, hp, heq⟩
  · cases heq
  · cases heq
    exact ⟨v, x, m, hv, hx, hp, rfl⟩

/-- Only an unsubscribe makes an unsubscribe wait. -/
theorem Move.unsubscribing_le (hm : Move s b s' reqs) (S : ServerId)
    (uuid : Uuid) :
    Coord.unsubscribing s'.coordinator S uuid
        ≤ Coord.unsubscribing s.coordinator S uuid ∨
      b = .unsubscribeFromSpaceRequest S uuid (.deleteSpace S uuid) := by
  have hle : ∀ {c : Coord Publisher} {answered heard},
      Turn c s'.coordinator [] answered heard →
      c.waiting = s.coordinator.waiting →
      Coord.unsubscribing s'.coordinator S uuid
        ≤ Coord.unsubscribing s.coordinator S uuid := by
    intro c answered heard h hc
    have hturn := unsubscribing_turn S uuid h
    unfold Coord.unsubscribing at hturn ⊢
    rw [hc] at hturn
    exact hturn
  cases hm with
  | quiet _ h | announced _ _ h | rejected _ h | forwarded _ h
  | removed _ _ h | abandoned h | subscribed _ _ _ h | unsubscribed _ h
  | added _ _ _ h | updated _ _ _ h | updateNacked _ h =>
      exact .inl (hle h rfl)
  | @asked _ _ w _ hw _ _ h =>
      have hturn := unsubscribing_turn S uuid h
      have hnot : ofUnsubscribe S uuid w = false := by
        cases b <;> cases hw <;> rfl
      rw [List.countP_singleton, if_neg (by simp [hnot])] at hturn
      exact .inl hturn
  | @unsubscribing _ S' uuid' h =>
      by_cases heq : S' = S ∧ uuid' = uuid
      · obtain ⟨rfl, rfl⟩ := heq
        exact .inr rfl
      · have hturn := unsubscribing_turn S uuid h
        rw [List.countP_singleton, if_neg (by
          simp only [ofUnsubscribe, Publisher.deleteSpace.injEq,
            decide_eq_true_eq]
          exact heq)] at hturn
        exact .inl hturn

/-- A callback unsubscribes from an empty mirror. -/
theorem Move.vacates (hm : Move s b s' reqs)
    (hin : .unsubscribeFromSpaceRequest S uuid (.deleteSpace S uuid)
      ∈ reqs) : s'.Vacant S uuid := by
  cases hm with
  | @removed _ serverId memberId _ _ _ _ _ hv =>
      obtain ⟨v, hget, hreq⟩ :=
        Option.bind_eq_some_iff.mp (Option.mem_toList.mp hin)
      obtain ⟨uuid', heq, hvacant⟩ := Server.onMemberDeleted_vacant hreq
      cases heq
      refine ⟨_, ?_, hvacant⟩
      rw [hv, JsMap.get?_modify_self, hget]
      rfl
  | _ => cases hin

/-- An unsubscribe leaves the mirrors alone. -/
theorem Move.stays_vacant (hb : IsUnsubscribe b) (hm : Move s b s' reqs)
    (h : s.Vacant S uuid) : s'.Vacant S uuid := by
  obtain ⟨serverId, uuid', rfl⟩ := hb
  obtain ⟨v, hv, hvacant⟩ := h
  have hsame : s'.servers = s.servers → s'.Vacant S uuid := by
    intro heq
    exact ⟨v, heq ▸ hv, hvacant⟩
  have hmodify : ∀ {S' : ServerId} {f : Server → Server},
      (∀ v : Server, Server.MirrorFrame v (f v)) →
      ∃ v', (s.servers.modify S' f).get? S = some v' ∧ v'.Vacant uuid := by
    intro S' f hf
    rw [JsMap.get?_modify, hv]
    split
    · rename_i heq
      refine ⟨f v, ?_, hvacant.frame (hf v)⟩
      rw [← heq, hv]
      rfl
    · exact ⟨v, rfl, hvacant⟩
  have hannounce : ∀ {servers : JsMap ServerId Server}
      {heard : List (Out Publisher)},
      (∃ v', servers.get? S = some v' ∧ v'.Vacant uuid) →
      ∃ v', (announce servers heard).get? S = some v' ∧
        v'.Vacant uuid := by
    rintro servers heard ⟨v', hv', hvacant'⟩
    refine ⟨_, ?_, hvacant'.frame (Server.hears_mirrorFrame heard v')⟩
    rw [announce, JsMap.get?_mapVal, hv']
    rfl
  cases hm with
  | quiet _ _ heq | forwarded _ _ heq | unsubscribing _ heq
  | updateNacked _ _ heq => exact hsame heq
  | asked hw => cases hw
  | announced hb => cases hb
  | rejected _ _ heq =>
      unfold Vacant
      rw [heq]
      exact hmodify fun v => .of_eq rfl rfl rfl rfl
  | @updated _ _ _ _ serverId' session event cId resp heard _ _ _ _ heq =>
      unfold Vacant
      rw [heq]
      refine hannounce ?_
      cases event.ackEvent cId resp with
      | none => exact ⟨v, hv, hvacant⟩
      | some e => exact hmodify fun v => .of_eq rfl rfl rfl rfl

/-- What has come of the step from `s`: `reqs` unsubscribe from mirrors
that are empty, and so do the unsubscribes that wait anew. -/
structure Withdraws (s s₁ : System) (reqs : List Request) : Prop where
  requests : ∀ S uuid, .unsubscribeFromSpaceRequest S uuid
    (.deleteSpace S uuid) ∈ reqs → s₁.Vacant S uuid
  waiting : ∀ S uuid, s₁.Vacant S uuid ∨
    Coord.unsubscribing s₁.coordinator S uuid
      ≤ Coord.unsubscribing s.coordinator S uuid

/-- The first request of a step is no unsubscribe. -/
theorem Move.withdraws (hb : ¬ IsUnsubscribe b) (hm : Move s b s' reqs) :
    Withdraws s s' reqs where
  requests _ _ hin := hm.vacates hin
  waiting S uuid := by
    rcases hm.unsubscribing_le S uuid with hle | rfl
    · exact .inr hle
    · exact absurd ⟨S, uuid, rfl⟩ hb

/-- After an unsubscribe of the list is published, the rest of it still
withdraws. -/
theorem Withdraws.published (h : Withdraws s s₁ (b :: reqs))
    (hb : IsUnsubscribe b) (hm : Move s₁ b s' reqs') :
    Withdraws s s' reqs where
  requests S uuid hin :=
    hm.stays_vacant hb (h.requests S uuid (List.mem_cons_of_mem b hin))
  waiting S uuid := by
    rcases hm.unsubscribing_le S uuid with hle | rfl
    · rcases h.waiting S uuid with hvacant | hold
      · exact .inl (hm.stays_vacant hb hvacant)
      · exact .inr (Nat.le_trans hle hold)
    · exact .inl (hm.stays_vacant hb (h.requests S uuid List.mem_cons_self))

/-- What is published in the step from `s`: at most the request of a server
function, or unsubscribes. -/
def Publishing (s s₁ : System) (reqs : List Request) : Prop :=
  (s₁.coordinator = s.coordinator ∧ reqs.length ≤ 1 ∧
      ∀ b ∈ reqs, ¬ IsUnsubscribe b) ∨
    (∀ b ∈ reqs, IsUnsubscribe b) ∧ Withdraws s s₁ reqs

/-- The step is made from `s`. -/
def stepsFrom (s : System) : Guard System SystemAction (Out Publisher) :=
  fun _ s₁ _ => s₁ = s

/-- What is publishing stays so, by the parts of a step. -/
theorem Publishing.closed (s : System) :
    Closed (stepsFrom s) fun s₁ reqs =>
      Point anyStep s₁ reqs ∧ Publishing s s₁ reqs where
  linked h := h.1.linked
  reachable h := h.1.reachable
  flushed out h := ⟨h.1.flushed out, h.2.imp id fun h =>
    ⟨h.1, ⟨h.2.requests, h.2.waiting⟩⟩⟩
  -- a new server publishes nothing
  started := by
    rintro tr s₁ S ⟨h, -⟩ rfl hn
    exact ⟨h.started hn, .inl ⟨rfl, Nat.zero_le 1,
      fun _ hb => absurd hb List.not_mem_nil⟩⟩
  -- a call publishes one request, and no unsubscribe
  called := by
    rintro tr s₁ S v a p ⟨h, -⟩ rfl hv hc
    have hg : anyStep tr s₁ a := trivial
    refine ⟨h.called hg hv hc, .inl ⟨rfl, ?_, fun b hb => ?_⟩⟩
    · cases p.2 <;> simp
    · obtain ⟨v', req⟩ := p
      obtain rfl : req = some b := Option.mem_toList.mp hb
      rintro ⟨S', uuid, rfl⟩
      cases hc.requests
  published := by
    rintro s₁ s' b reqs reqs' ⟨h, hp⟩ hready hm ha
    refine ⟨h.published hready hm ha, .inr ?_⟩
    have hreqs := hm.requests
    rcases hp with ⟨heq, hlen, hnot⟩ | ⟨hall, hw⟩
    · -- the request of the server function
      obtain rfl : reqs = [] :=
        List.eq_nil_of_length_eq_zero (Nat.le_zero.mp
          (Nat.le_of_succ_le_succ hlen))
      rw [List.append_nil]
      have hmoved := hm.withdraws (hnot b List.mem_cons_self)
      refine ⟨hreqs, hmoved.requests, ?_⟩
      rw [← heq]
      exact hmoved.waiting
    -- what is left of a list that withdraws still does
    · have hb := hall b List.mem_cons_self
      rw [hm.requests_nil hb, List.nil_append]
      exact ⟨fun b' hb' => hall b' (List.mem_cons_of_mem b hb'),
        hw.published hb hm⟩
  -- the coordinator's own step may begin to withdraw
  coordinated := by
    rintro tr s₁ s' b reqs ⟨h, -⟩ rfl hready hm ha
    have hg : anyStep tr s₁ (SystemAction.coordinator b) := trivial
    refine ⟨h.coordinated hg hready hm ha, .inr ⟨hm.requests, ?_⟩⟩
    refine hm.withdraws ?_
    rintro ⟨S, uuid, rfl⟩
    cases hready with
    | coordinator ha => cases ha

/-- **A step that makes an unsubscribe wait leaves an empty mirror.** -/
theorem step_unsubscribes {a : SystemAction} {obs : List (Out Publisher)}
    (h : Point anyStep s []) (hs : machine.step s a = some (s', obs))
    (S : ServerId) (uuid : Uuid) :
    s'.Vacant S uuid ∨ Coord.unsubscribing s'.coordinator S uuid
      ≤ Coord.unsubscribing s.coordinator S uuid := by
  have hstart : Publishing s s [] :=
    .inl ⟨rfl, Nat.zero_le 1, fun _ hb => absurd hb List.not_mem_nil⟩
  have hg : stepsFrom s ([] : List (Out Publisher)) s a := rfl
  obtain ⟨-, hp⟩ := (Publishing.closed s).step ⟨h, hstart⟩ hg hs
  rcases hp with ⟨heq, -⟩ | ⟨-, hw⟩
  · rw [heq]
    exact .inr (Nat.le_refl _)
  · exact hw.waiting S uuid

/-- **Nobody watches an empty mirror**, or is about to. -/
theorem Point.vacant (h : Point G s reqs) (hvacant : s.Vacant S uuid) :
    ¬ s.Watched S uuid ∧
      ∀ session, .member S session uuid ∉ s.resumable := by
  obtain ⟨v, hv, ref, href, hempty⟩ := hvacant
  refine ⟨?_, fun session hin => ?_⟩
  · rintro ⟨v', m, session, x, hv', hx, rfl⟩
    rw [hv] at hv'
    cases hv'
    exact hempty m (h.registered_mirrored hv hx href)
  · obtain ⟨v', x, m, hv', hx, hp, rfl⟩ := mem_resumable_member hin
    rw [hv] at hv'
    cases hv'
    have hheld := Server.held_of_prepared hx hp
    have hpresent := h.present S v hv
    have hstage : v.stageOf session = some .preparingMember := by
      unfold Server.stageOf
      rw [hx, Option.map_some]
      simp [Session.stage, hp]
    exact hempty m (hpresent.mirrored session _ m ref hheld
      (hpresent.expected session _ m ⟨hheld, .inl hstage⟩) href)

end System

/-! ## §4. Continuations of unsubscribes. -/

/-- The transition still waits for the removal of the router. -/
def Continuation.removesRouter : Continuation → Bool
  | .task (.routerRemoved ..) => true
  | _ => false

/-- Where an unsubscribe waits. -/
theorem unsubscribes_cases {t : Coordinator.Task Publisher} (ht : t.prompt)
    {S : ServerId} {uuid : Uuid}
    (h : (Continuation.task t).unsubscribes S uuid = true) :
    (∃ uuid', t = .routerRemoved uuid'
      (.unsubscribe (.deleteSpace S uuid))) ∨
    t = .transitioned (.unsubscribe (.deleteSpace S uuid)) (.ok ()) := by
  have hof : ∀ {k : Coordinator.AfterTransition Publisher},
      k.waiting.any (ofUnsubscribe S uuid) = true →
      k = .unsubscribe (.deleteSpace S uuid) := by
    intro k hk
    cases k with
    | subscribe => cases hk
    | unsubscribe cb => rw [of_decide_eq_true hk]
    | memberLeft => cases hk
  cases t with
  | allocated w result =>
      cases w with
      | addMember => cases h
      | transition uuid' k =>
          obtain rfl := hof h
          obtain ⟨_, _, heq⟩ := ht
          cases heq
  | routerRemoved uuid' k =>
      obtain rfl := hof h
      exact .inl ⟨uuid', rfl⟩
  | transitioned k result =>
      obtain rfl := hof h
      cases result with
      | error => exact ht.elim
      | ok => exact .inr rfl
  | producerAllocated => cases h
  | caught => cases h

namespace System

variable {s s' : System} {S : ServerId} {uuid : Uuid}

/-- A step of the coordinator that removes no member is one stretch. -/
theorem step_coordinator {b : Request}
    (hb : ∀ id cb, b ≠ .removeMemberRequest id cb)
    {obs : List (Out Publisher)} (h : Point anyStep s [])
    (hs : machine.step s (.coordinator b) = some (s', obs)) :
    s.base.act b = some s'.coordinator := by
  obtain ⟨t, ht, heq⟩ := Option.map_eq_some_iff.mp hs
  cases heq
  cases act_acts ht with
  | called _ hc => cases hc
  | coordinator ha hrun =>
      obtain ⟨⟨t', reqs⟩, ht', rfl⟩ := Option.map_eq_some_iff.mp hrun
      have hm := stretch_move (h.linked.flushed []) h.reachable
        (.coordinator ha) ht'
      rw [hm.requests_nil_of_ne hb]
      exact (stretch_act ht').1

/-- **An unsubscribe is acked two continuations after it was sent** at most:
what takes the place of its continuation is not to remove a router. -/
theorem resume_unsubscribe {i : Nat} {t : Coordinator.Task Publisher}
    {obs : List (Out Publisher)} (h : Point anyStep s [])
    (hi : s.coordinator.tasks[i]? = some t)
    (ht : (Continuation.task t).unsubscribes S uuid = true)
    (hs : machine.step s (.coordinator (.resume i)) = some (s', obs)) :
    ∃ l, s'.coordinator.tasks = s.coordinator.tasks.eraseIdx i ++ l ∧
      ∀ t' ∈ l, (Continuation.task t').removesRouter = false ∧
        (Continuation.task t).removesRouter = true := by
  have hact := step_coordinator (fun _ _ h => by cases h) h hs
  unfold Coord.act at hact
  dsimp only at hact
  rw [show s.base.tasks = s.coordinator.tasks from rfl, hi,
    Option.map_some] at hact
  have hact := Option.some.inj hact
  have hprompt := (waiters_reachable h.reachable).prompt t
    (List.mem_of_getElem? hi)
  rcases unsubscribes_cases hprompt ht with ⟨uuid', rfl⟩ | rfl
  · refine ⟨[.transitioned (.unsubscribe (.deleteSpace S uuid)) (.ok ())],
      ?_, fun t' ht' => ?_⟩
    · rw [← hact]
      rfl
    · rw [List.mem_singleton.mp ht']
      exact ⟨rfl, rfl⟩
  · refine ⟨[], ?_, fun t' ht' => absurd ht' List.not_mem_nil⟩
    rw [← hact, List.append_nil]
    rfl

/-- The action that resumes a continuation of the coordinator. -/
theorem resumes_task {a : SystemAction} {t : Coordinator.Task Publisher}
    (h : s.resumes a = some (.task t)) :
    ∃ i, a = .coordinator (.resume i) ∧
      s.coordinator.tasks[i]? = some t := by
  unfold resumes at h
  split at h
  · rename_i i
    obtain ⟨t', hi, heq⟩ := Option.map_eq_some_iff.mp h
    cases heq
    exact ⟨i, rfl, hi⟩
  · obtain ⟨x, -, hk⟩ := Option.bind_eq_some_iff.mp h
    rcases Session.continuation_cases hk with heq | ⟨m, -, heq⟩
    · cases heq
    · cases heq
  · cases h

/-- The continuation that a session joins with. -/
theorem Joins.resumes {a : SystemAction} {session : SessionId}
    {y : Session} (h : s.Joins a S session y) :
    s.resumes a = some (.member S session y.auth.spaceUuid) := by
  obtain ⟨rfl, x, id, hx, hp, hauth⟩ := h
  unfold System.resumes
  dsimp only
  rw [hx, Option.bind_some, hauth]
  unfold Session.continuation
  rw [hp]

end System

/-! ## §5. Who is first. -/

/-- The ack of an unsubscribe comes before a session registers for the
space. -/
def comesFirst (k k' : Continuation) : Prop :=
  ∃ S session uuid, k' = .member S session uuid ∧
    k.unsubscribes S uuid = true

/-- How many jobs lie before the ack, or the registration. -/
def due (j : Job Continuation) : Nat :=
  j.hops + j.continuation.removesRouter.toNat

/-- Nobody is registered for a space while an unsubscribe from it waits, nor
will be before it is acked. -/
structure Unattending (q : Queued System Continuation) : Prop where
  ready : (q.jobs.map Job.continuation).Perm q.state.ready
  ordered : Ordered due comesFirst q.jobs
  soon : ∀ j ∈ q.jobs, ∀ S uuid,
    j.continuation.unsubscribes S uuid = true → j.hops = 0
  unattended : ∀ S uuid,
    0 < Coord.unsubscribing q.state.coordinator S uuid →
      ¬ q.state.Watched S uuid

section Order

variable {s s' : System} {jobs jobs' new : List (Job Continuation)}
  {j u : Job Continuation} {S : ServerId} {uuid : Uuid}

/-- A predicate of the coordinator's continuations. -/
structure OfTasks (p : Continuation → Bool) : Prop where
  session : ∀ S session, p (.session S session) = false
  member : ∀ S session uuid, p (.member S session uuid) = false

theorem ofTasks_unsubscribes (S : ServerId) (uuid : Uuid) :
    OfTasks (Continuation.unsubscribes S uuid) :=
  ⟨fun _ _ => rfl, fun _ _ _ => rfl⟩

theorem ofTasks_removesRouter : OfTasks Continuation.removesRouter :=
  ⟨fun _ _ => rfl, fun _ _ _ => rfl⟩

/-- What the queue holds of the coordinator are its tasks. -/
theorem countP_jobs {p : Continuation → Bool} (hp : OfTasks p)
    (hready : (jobs.map Job.continuation).Perm s.ready) :
    jobs.countP (fun j => p j.continuation)
      = s.coordinator.tasks.countP fun t => p (.task t) := by
  have hnone : s.resumable.countP p = 0 := by
    refine List.countP_eq_zero.mpr fun k hk => ?_
    obtain ⟨S', v, session', x, -, -, hk⟩ := System.mem_resumable hk
    rcases Session.continuation_cases hk with rfl | ⟨m, -, rfl⟩
    · simp [hp.session]
    · simp [hp.member]
  have hcount := hready.countP_eq p
  rw [List.countP_map, System.ready, List.countP_append, hnone, Nat.add_zero,
    List.countP_map] at hcount
  exact hcount

/-- The queue without its front holds the other tasks. -/
theorem countP_rest {p : Continuation → Bool} (hp : OfTasks p)
    {t : Coordinator.Task Publisher} {n i : Nat}
    (hready : ((⟨.task t, n⟩ :: jobs).map Job.continuation).Perm s.ready)
    (hi : s.coordinator.tasks[i]? = some t) :
    jobs.countP (fun j => p j.continuation)
      = (s.coordinator.tasks.eraseIdx i).countP fun t => p (.task t) := by
  have hall := countP_jobs hp hready
  rw [List.countP_cons,
    ← countP_eraseIdx_add (fun t => p (.task t)) hi] at hall
  exact Nat.add_right_cancel hall

/-- The unsubscribes that wait are in the queue. -/
theorem countP_unsubscribes (hw : Waiters s.coordinator)
    (hready : (jobs.map Job.continuation).Perm s.ready) :
    jobs.countP (fun j => j.continuation.unsubscribes S uuid)
      = Coord.unsubscribing s.coordinator S uuid := by
  rw [countP_jobs (ofTasks_unsubscribes S uuid) hready, unsubscribing_eq hw,
    List.countP_map]
  rfl

/-- Where there are no more than before, none is new. -/
theorem not_new {p : Job Continuation → Bool}
    (h : (jobs ++ new).countP p ≤ jobs.countP p) (hu : u ∈ new) :
    p u = false := by
  rw [List.countP_append] at h
  have hzero : new.countP p = 0 := by omega
  exact Bool.eq_false_iff.mpr (List.countP_eq_zero.mp hzero u hu)

/-- An unsubscribe that waits is settled at once. -/
theorem hops_of_unsubscribes (hw : Waiters s.coordinator)
    (hin : j.continuation ∈ s.ready)
    (hadmits : admits j.continuation j.hops = true)
    (hj : j.continuation.unsubscribes S uuid = true) : j.hops = 0 := by
  obtain ⟨k, n⟩ := j
  cases k with
  | session => cases hj
  | member => cases hj
  | task t =>
      have ht : t ∈ s.coordinator.tasks := by
        rcases List.mem_append.mp hin with hin | hin
        · obtain ⟨t', ht', heq⟩ := List.mem_map.mp hin
          cases heq
          exact ht'
        · obtain ⟨S', v, session', x, -, -, hk⟩ := System.mem_resumable hin
          rcases Session.continuation_cases hk with heq | ⟨m, -, heq⟩
          · cases heq
          · cases heq
      rcases unsubscribes_cases (hw.prompt t ht) hj with ⟨_, rfl⟩ | rfl
      · exact of_decide_eq_true hadmits
      · exact of_decide_eq_true hadmits

/-- **An unsubscribe that begins to wait is due before every session that
waits to register for its space.**  For its mirror is empty, so that there
is no such session, unless it was on the way to its ack before. -/
theorem due_lt {obs : List (Out Publisher)} {q : Queued System Continuation}
    {a : SystemAction} (hI : Unattending q)
    (hp : System.Point anyStep q.state [])
    (hs : machine.step q.state a = some (s', obs))
    (hrest : jobs = q.jobs ∨ ∃ k, q.jobs = ⟨k, 0⟩ :: jobs ∧
      q.state.resumes a = some k)
    (hq : microtasks.Enqueues s' jobs new jobs') (hu : u ∈ new)
    (hj : j ∈ jobs ++ new)
    (hfirst : comesFirst u.continuation j.continuation) :
    due u < due j := by
  obtain ⟨S, session, uuid, hmember, hunsub⟩ := hfirst
  have hp' := hp.step hs
  have hw := waiters_reachable hp.reachable
  have hw' := waiters_reachable hp'.reachable
  obtain ⟨rfl, hadmitted, hready⟩ := hq
  have hin : ∀ {i : Job Continuation}, i ∈ jobs ++ new →
      i.continuation ∈ s'.ready := fun hi =>
    hready.subset (List.mem_map_of_mem hi)
  have hmust : ∀ {jobs : List (Job Continuation)},
      ¬ (jobs ++ new).countP (fun j => j.continuation.unsubscribes S uuid)
        ≤ jobs.countP fun j => j.continuation.unsubscribes S uuid := by
    intro jobs hle
    have hnot := not_new hle hu
    rw [hunsub] at hnot
    cases hnot
  -- no more unsubscribes wait than before
  have hle : (jobs ++ new).countP
        (fun j => j.continuation.unsubscribes S uuid)
      ≤ q.jobs.countP fun j => j.continuation.unsubscribes S uuid := by
    rw [countP_unsubscribes hw' hready, countP_unsubscribes hw hI.ready]
    refine (System.step_unsubscribes hp hs S uuid).resolve_left
      fun hvacant => ?_
    have hjoins := hin hj
    rw [hmember] at hjoins
    rcases List.mem_append.mp hjoins with htask | hsession
    · obtain ⟨t, -, heq⟩ := List.mem_map.mp htask
      cases heq
    · exact (hp'.vacant hvacant).2 session hsession
  rcases hrest with rfl | ⟨k, hjobs, hresumes⟩
  · exact absurd hle hmust
  · -- so the continuation that ran was one of them
    have hordered := hI.ordered
    have hold := hI.ready
    rw [hjobs] at hle hordered hold
    have hk : k.unsubscribes S uuid = true := by
      by_contra hk
      rw [List.countP_cons, if_neg hk, Nat.add_zero] at hle
      exact hmust hle
    obtain ⟨t, rfl⟩ : ∃ t, k = .task t := by
      cases k with
      | task t => exact ⟨t, rfl⟩
      | session => cases hk
      | member => cases hk
    obtain ⟨i, rfl, hi⟩ := System.resumes_task hresumes
    obtain ⟨l, htasks, hl⟩ := System.resume_unsubscribe hp hi hk hs
    have hcount : ∀ {p : Continuation → Bool}, OfTasks p →
        (jobs ++ new).countP (fun j => p j.continuation)
          = jobs.countP (fun j => p j.continuation)
            + l.countP fun t => p (.task t) := by
      intro p hof
      rw [countP_jobs hof hready, htasks, List.countP_append,
        countP_rest hof hold hi]
    have hremoves : (Continuation.task t).removesRouter = true := by
      by_contra hnot
      obtain rfl : l = [] := List.eq_nil_iff_forall_not_mem.mpr
        fun t' ht' => hnot (hl t' ht').2
      exact hmust (Nat.le_of_eq (hcount (ofTasks_unsubscribes S uuid)))
    have hacked : u.continuation.removesRouter = false := by
      have hnone : l.countP (fun t => (Continuation.task t).removesRouter)
          = 0 := by
        refine List.countP_eq_zero.mpr fun t' ht' => ?_
        rw [(hl t' ht').1]
        exact Bool.false_ne_true
      have hsame := hcount ofTasks_removesRouter
      rw [hnone, Nat.add_zero] at hsame
      exact not_new (Nat.le_of_eq hsame) hu
    have hnow : due u = 0 := by
      unfold due
      rw [hacked, hops_of_unsubscribes hw'
        (hin (List.mem_append_right _ hu)) (hadmitted u hu) hunsub]
      rfl
    rw [hnow]
    rcases List.mem_append.mp hj with hj | hj
    · have hfront : due ⟨.task t, 0⟩ ≤ due j :=
        ((List.pairwise_cons.mp hordered).1 j hj).1
          ⟨S, session, uuid, hmember, hk⟩
      have hone : due ⟨.task t, 0⟩ = 1 := by
        unfold due
        rw [hremoves]
        rfl
      omega
    · have hhops := hadmitted j hj
      rw [hmember] at hhops
      have hhops : 0 < j.hops := of_decide_eq_true hhops
      unfold due
      omega

/-- What was queued before or is queued now keeps the order. -/
theorem ordered_enqueue {obs : List (Out Publisher)}
    {q : Queued System Continuation} {a : SystemAction}
    (hI : Unattending q) (hp : System.Point anyStep q.state [])
    (hs : machine.step q.state a = some (s', obs))
    (hrest : jobs = q.jobs ∨ ∃ k, q.jobs = ⟨k, 0⟩ :: jobs ∧
      q.state.resumes a = some k)
    (hq : microtasks.Enqueues s' jobs new jobs') :
    Ordered due comesFirst jobs' ∧ ∀ j ∈ jobs', ∀ S uuid,
      j.continuation.unsubscribes S uuid = true → j.hops = 0 := by
  have hlt := fun u hu j hj hfirst =>
    due_lt (u := u) (j := j) hI hp hs hrest hq hu hj hfirst
  have hw' := waiters_reachable (hp.step hs).reachable
  obtain ⟨rfl, hadmitted, hready⟩ := hq
  have hsub : ∀ j ∈ jobs, j ∈ q.jobs := by
    rcases hrest with rfl | ⟨k, hjobs, -⟩
    · exact fun _ hj => hj
    · rw [hjobs]
      exact fun _ hj => List.mem_cons_of_mem _ hj
  have hsoon : ∀ j ∈ jobs ++ new, ∀ S uuid,
      j.continuation.unsubscribes S uuid = true → j.hops = 0 := by
    intro j hj S uuid hunsub
    rcases List.mem_append.mp hj with hold | hnew
    · exact hI.soon j (hsub j hold) S uuid hunsub
    · exact hops_of_unsubscribes hw'
        (hready.subset (List.mem_map_of_mem hj)) (hadmitted j hnew) hunsub
  have hjobs : Ordered due comesFirst jobs := by
    rcases hrest with rfl | ⟨k, heq, -⟩
    · exact hI.ordered
    · have hordered := hI.ordered
      rw [heq] at hordered
      exact hordered.tail
  -- an unsubscribe is at most one job away, a session at least one
  have hle : ∀ a ∈ jobs ++ new, ∀ b ∈ new,
      comesFirst a.continuation b.continuation → due a ≤ due b := by
    rintro a ha b hb ⟨S, session, uuid, hmember, hunsub⟩
    have hhops := hadmitted b hb
    rw [hmember] at hhops
    have hhops : 0 < b.hops := of_decide_eq_true hhops
    have hzero := hsoon a ha S uuid hunsub
    have hone := Bool.toNat_le a.continuation.removesRouter
    unfold due
    omega
  refine ⟨hjobs.append (List.pairwise_of_forall_mem_list ?_) ?_, hsoon⟩
  · intro a ha b hb
    have ha' := List.mem_append_right jobs ha
    exact ⟨hle a ha' b hb, hlt b hb a ha'⟩
  · intro a ha b hb
    have ha' := List.mem_append_left new ha
    exact ⟨hle a ha' b hb, hlt b hb a ha'⟩

/-- **Nobody registers for a space while an unsubscribe from it waits.** -/
theorem unattended_step {obs : List (Out Publisher)}
    {q : Queued System Continuation} {a : SystemAction}
    (hI : Unattending q) (hp : System.Point anyStep q.state [])
    (hs : machine.step q.state a = some (s', obs))
    (hrun : q.state.resumes a = none ∨ ∃ k jobs, q.jobs = ⟨k, 0⟩ :: jobs ∧
      q.state.resumes a = some k)
    (hpos : 0 < Coord.unsubscribing s'.coordinator S uuid) :
    ¬ s'.Watched S uuid := by
  have hp' := hp.step hs
  rcases System.step_unsubscribes hp hs S uuid with hvacant | hle
  · exact (hp'.vacant hvacant).1
  · have hold : 0 < Coord.unsubscribing q.state.coordinator S uuid := by omega
    rintro ⟨v', m, session, y, hv', hy, rfl⟩
    rcases System.step_registers hp hs hv' hy with
      ⟨v, x, hv, hx, hxy, -⟩ | ⟨-, hjoins⟩
    · exact hI.unattended S _ hold ⟨v, m, session, x, hv, hx, by
        rw [hxy.1]⟩
    · -- its session had to wait for the unsubscribe
      rcases hrun with hnone | ⟨k, jobs, hjobs, hk⟩
      · rw [hjoins.resumes] at hnone
        cases hnone
      · rw [hjoins.resumes] at hk
        cases hk
        rw [← countP_unsubscribes (waiters_reachable hp.reachable) hI.ready,
          List.countP_pos_iff] at hold
        obtain ⟨u, hu, hunsub⟩ := hold
        have hordered := hI.ordered
        rw [hjobs] at hu hordered
        rcases List.mem_cons.mp hu with rfl | hu
        · cases hunsub
        · exact hordered.not_mem rfl hu ⟨S, session, _, rfl, hunsub⟩

end Order

/-- **One step of the loop** keeps spaces unattended while an unsubscribe from
them waits. -/
theorem Unattending.step {q q' : Queued System Continuation}
    {a : LoopAction SystemAction Continuation} {obs : List (Out Publisher)}
    (hI : Unattending q) (hp : System.Point anyStep q.state [])
    (hs : microtasks.Steps machine q a q' obs) : Unattending q' := by
  cases hs with
  | outside hr hs hq =>
      obtain ⟨hordered, hsoon⟩ := ordered_enqueue hI hp hs (.inl rfl) hq
      refine ⟨hq.ready, hordered, hsoon, fun S uuid => ?_⟩
      exact unattended_step hI hp hs (.inl hr)
  | run hj hr hs hq =>
      obtain ⟨hordered, hsoon⟩ :=
        ordered_enqueue hI hp hs (.inr ⟨_, hj, hr⟩) hq
      exact ⟨hq.ready, hordered, hsoon,
        fun S uuid => unattended_step hI hp hs (.inr ⟨_, _, hj, hr⟩)⟩
  | @pass k n jobs hj =>
      have hready := hI.ready
      have hordered := hI.ordered
      have hsoon := hI.soon
      rw [hj] at hready hordered hsoon
      refine ⟨?_, hordered.pass ?_, fun j hin S uuid hunsub => ?_,
        hI.unattended⟩
      · rw [List.map_append]
        exact List.perm_append_comm.trans hready
      · unfold due
        dsimp only
        omega
      · rcases List.mem_append.mp hin with hin | hin
        · exact hsoon j (List.mem_cons_of_mem _ hin) S uuid hunsub
        · -- an unsubscribe has no hop to spend
          rw [List.mem_singleton.mp hin] at hunsub
          cases hsoon ⟨k, n + 1⟩ List.mem_cons_self S uuid hunsub

/-- An unsubscribe that is acked has waited. -/
theorem Unattending.removes {q : Queued System Continuation}
    (hI : Unattending q) (tr : List (Out Publisher)) (a : SystemAction) :
    System.removesUnattended tr q.state a := by
  rintro i rfl ⟨S, uuid⟩ hp
  obtain ⟨t, hi, ht⟩ := Option.bind_eq_some_iff.mp hp
  have hwait : t.waiting = some (.unsubscribe (.deleteSpace S uuid)) := by
    unfold unsubscribes at ht
    split at ht
    · cases ht
      rfl
    · cases ht
  refine System.unattended_of_not_watched (hI.unattended S uuid ?_)
  refine List.countP_pos_iff.mpr
    ⟨.unsubscribe (.deleteSpace S uuid), ?_, by simp [ofUnsubscribe]⟩
  exact List.mem_append_right _
    (List.mem_filterMap.mpr ⟨t, List.mem_of_getElem? hi, hwait⟩)

/-- **No mirror is removed of which channels are registered**, in a run of
the event loop. -/
theorem Loop.unattended {G : Guard System SystemAction (Out Publisher)}
    {past : List (Queued System Continuation)}
    {q : Queued System Continuation} {tr : List (Out Publisher)}
    (h : eventLoop.Run (EventLoop.guarded G) past q tr) :
    Unattending q ∧ ∃ past, machine.Run (fun tr s a => G tr s a ∧
      System.removesUnattended tr s a) past q.state tr := by
  refine EventLoop.base_run Unattending ?_ ?_ ?_ h
  · rintro ⟨s, jobs⟩ ⟨hinit, hjobs, hready⟩
    cases hinit
    obtain rfl : jobs = [] := hjobs
    refine ⟨?_, List.Pairwise.nil, fun _ hj => absurd hj List.not_mem_nil,
      fun S uuid hpos => ?_⟩
    · exact .refl []
    · exact absurd hpos (Nat.lt_irrefl 0)
  · intro q tr a q' obs hI hrun _ hs
    obtain ⟨past, hrun⟩ := hrun
    exact hI.step (System.Run.point (hrun.mono fun _ _ _ _ => trivial)) hs
  · intro q tr a hI hg
    cases a with
    | outside b new => exact ⟨hg, hI.removes tr b⟩
    | run b new => exact ⟨hg, hI.removes tr b⟩
    | pass => trivial

end Twolk.Signaling
