/-
  Twolk.Signaling.Lifetimes
  ─────────────────────────
  **A SPACE DOES NOT OUTLIVE ITS MEMBERS.**

  A server subscribes to a space for the first client that joins it, and
  unsubscribes when its mirror of the space is empty.  But the mirror starts
  with the members the space has elsewhere, and nobody tells the server when
  they leave: then the last of its own clients leaves a mirror that is not
  empty, the server stays subscribed, and the space never ends.

  Main result: `space_ends` — while whoever leaves a server last leaves an
  empty mirror, no join fails on a server nobody else is on, and every
  accepted subscription is served, a space that has been running and has no
  members at rest has ended, and no server is subscribed to it.
-/
import Twolk.Coordinator.Desertion
import Twolk.Coordinator.Traces
import Twolk.Signaling.Connected
import Twolk.Signaling.Nacks
import Twolk.Signaling.Presence

namespace Twolk.Signaling

open Twolk.Lib Coordinator

/-! ## §1. What a server is subscribed for. -/

namespace Session

/-- `start` stands in an `await`. -/
def joins (x : Session) : Bool :=
  match x.phase with
  | .preparingSpace _ | .preparingMember _ => true
  | _ => false

/-- The session is joining `uuid`, or has a member there. -/
def claims (x : Session) (c : Coord Publisher) (uuid : Uuid) : Prop :=
  x.auth.spaceUuid = uuid ∧
    (x.joins = true ∨ ∃ m ∈ x.listening, m ∈ c.membersOf uuid)

instance (x : Session) (c : Coord Publisher) (uuid : Uuid) :
    Decidable (x.claims c uuid) :=
  inferInstanceAs (Decidable (_ ∧ _))

end Session

namespace Server

/-- Another session of the server claims `uuid`. -/
def claimedBesides (v : Server) (c : Coord Publisher) (session : SessionId)
    (uuid : Uuid) : Prop :=
  ∃ e ∈ v.sessions.entries, e.1 ≠ session ∧ e.2.claims c uuid

/-- The stored mirror of `uuid` has `m`, and nobody else. -/
def onlyMirrors (v : Server) (uuid : Uuid) (m : MemberId) : Prop :=
  ∃ ref ∈ v.spaces.get? uuid, v.members.get? m = some ref ∧
    ∀ m' ∈ v.membersOf ref, m' = m

instance (v : Server) (c : Coord Publisher) (session : SessionId)
    (uuid : Uuid) : Decidable (v.claimedBesides c session uuid) :=
  inferInstanceAs (Decidable (∃ e ∈ _, _))

instance (v : Server) (uuid : Uuid) (m : MemberId) :
    Decidable (v.onlyMirrors uuid m) :=
  inferInstanceAs (Decidable (∃ ref ∈ _, _))

/-- When the join of `x` fails and its server is subscribed, somebody else
claims the space. -/
def failsInCompany (v : Server) (c : Coord Publisher) (serverId : ServerId)
    (session : SessionId) (x : Session) : Prop :=
  x.rejected = true →
    SpaceService.isSubscribed c serverId x.auth.spaceUuid = true →
    v.claimedBesides c session x.auth.spaceUuid

/-- When the member `m` of `x` is removed and its server is subscribed,
somebody else claims the space, or the mirror has nobody else. -/
def leavesEmpty (v : Server) (c : Coord Publisher) (serverId : ServerId)
    (session : SessionId) (x : Session) (m : MemberId) : Prop :=
  v.members.has m = true →
    ¬ c.ignores (.removeMemberRequest m (.deleteMember serverId m)) →
    SpaceService.isSubscribed c serverId x.auth.spaceUuid = true →
    v.claimedBesides c session x.auth.spaceUuid ∨
      v.onlyMirrors x.auth.spaceUuid m

instance (v : Server) (c : Coord Publisher) (serverId : ServerId)
    (session : SessionId) (x : Session) :
    Decidable (v.failsInCompany c serverId session x) :=
  inferInstanceAs (Decidable (_ → _ → _))

instance (v : Server) (c : Coord Publisher) (serverId : ServerId)
    (session : SessionId) (x : Session) (m : MemberId) :
    Decidable (v.leavesEmpty c serverId session x m) :=
  inferInstanceAs (Decidable (_ → _ → _ → _))

end Server

namespace System

/-- Whoever leaves `uuid` last on a server leaves an empty mirror, and
nobody's join fails there alone. -/
def lastUnsubscribes (uuid : Uuid) :
    Guard System SystemAction (Out Publisher)
  | _, s, .resume serverId session => ∀ v ∈ s.servers.get? serverId,
      ∀ x ∈ v.sessions.get? session, x.auth.spaceUuid = uuid →
        v.failsInCompany s.coordinator serverId session x
  | _, s, .close serverId session => ∀ v ∈ s.servers.get? serverId,
      ∀ x ∈ v.sessions.get? session, x.auth.spaceUuid = uuid →
        ∀ m ∈ x.memberId, v.leavesEmpty s.coordinator serverId session x m
  | tr, s, .coordinator b => subscribesServed uuid tr s.coordinator b
  | _, _, _ => True

instance (uuid : Uuid) (tr : List (Out Publisher)) (s : System) :
    ∀ a, Decidable (lastUnsubscribes uuid tr s a)
  | .resume serverId session => inferInstanceAs (Decidable
      (∀ v ∈ s.servers.get? serverId, ∀ x ∈ v.sessions.get? session,
        x.auth.spaceUuid = uuid →
          v.failsInCompany s.coordinator serverId session x))
  | .close serverId session => inferInstanceAs (Decidable
      (∀ v ∈ s.servers.get? serverId, ∀ x ∈ v.sessions.get? session,
        x.auth.spaceUuid = uuid → ∀ m ∈ x.memberId,
          v.leavesEmpty s.coordinator serverId session x m))
  | .coordinator b => inferInstanceAs (Decidable
      (subscribesServed uuid tr s.coordinator b))
  | .startServer _ | .connect .. | .updateMemberState .. |
    .forward .. => .isTrue trivial

/-- Nothing is under way at the coordinator, and no session waits for a
promise. -/
def Settled (s : System) : Prop :=
  s.coordinator.quiescent ∧ ∀ e ∈ s.servers.entries,
    ∀ f ∈ e.2.sessions.entries, f.2.joins = false

instance (s : System) : Decidable s.Settled :=
  inferInstanceAs (Decidable (_ ∧ _))

end System

/-! ## §2. One session. -/

namespace Session

variable {x x' : Session} {c c' : Coord Publisher} {uuid : Uuid}

/-- Who joins waits for a space or for a member. -/
theorem joins_eq (x : Session) : x.joins = true ↔
    x.stage = .preparingSpace ∨ x.stage = .preparingMember := by
  unfold joins stage
  cases x.phase <;> simp

/-- A session that keeps its stage makes no new claim. -/
theorem claims_of_keeps (hk : x.Keeps x') (h : x.claims c uuid) :
    x'.claims c uuid := by
  obtain ⟨hu, h⟩ := h
  refine ⟨?_, h.imp (fun hj => ?_) fun hm => ?_⟩
  · rw [hk.rest]
    exact hu
  · rw [joins_eq, hk.stage]
    exact (joins_eq x).mp hj
  · rw [hk.listening]
    exact hm

/-- The coordinator keeps the member that `x` listens for. -/
theorem claims_of_members (hm : ∀ m ∈ x.listening, m ∈ c.membersOf uuid →
    m ∈ c'.membersOf uuid) (h : x.claims c uuid) : x.claims c' uuid := by
  refine ⟨h.1, h.2.imp_right ?_⟩
  rintro ⟨m, hl, hin⟩
  exact ⟨m, hl, hm m hl hin⟩

end Session

namespace Server

variable {v : Server} {c : Coord Publisher} {uuid : Uuid}

/-- Somebody else's claim outlasts what happens to one session. -/
theorem claimedBesides_iff (v : Server) (c : Coord Publisher)
    (session : SessionId) (uuid : Uuid) :
    v.claimedBesides c session uuid ↔ ∃ session' x,
      v.sessions.get? session' = some x ∧ session' ≠ session ∧
        x.claims c uuid := by
  constructor
  · rintro ⟨e, he, hne, h⟩
    exact ⟨e.1, e.2, JsMap.mem_entries.mp he, hne, h⟩
  · rintro ⟨session', x, hx, hne, h⟩
    exact ⟨(session', x), JsMap.mem_entries.mpr hx, hne, h⟩

/-- A claim of another session than the one that is put stays. -/
theorem claims_puts {u v' : Server} {session session₀ : SessionId}
    {x y : Session} (hputs : Puts u session₀ y v')
    (hsessions : u.sessions = v.sessions)
    (hself : session = session₀ → y.claims c uuid)
    (hx : v.sessions.get? session = some x) (h : x.claims c uuid) :
    ∃ session' x', v'.sessions.get? session' = some x' ∧
      x'.claims c uuid := by
  by_cases hs : session = session₀
  · exact ⟨session₀, y, hputs.self, hself hs⟩
  · refine ⟨session, x, ?_, h⟩
    rw [hputs.others session hs, hsessions, hx]

/-- Whoever resumes goes on claiming its space, unless its promise was
rejected. -/
theorem claims_resume {serverId : ServerId} {p : Server × Option Request}
    (hpresent : Present c v) {session session₀ : SessionId}
    {x x₀ : Session} (hx₀ : v.sessions.get? session₀ = some x₀)
    (hres : v.resume serverId session₀ x₀ = some p)
    (hg : x₀.auth.spaceUuid = uuid → x₀.rejected = true →
      v.claimedBesides c session₀ uuid)
    (hx : v.sessions.get? session = some x) (h : x.claims c uuid) :
    ∃ session' x', p.1.sessions.get? session' = some x' ∧
      x'.claims c uuid := by
  have hspace : session = session₀ → x₀.auth.spaceUuid = uuid := by
    rintro rfl
    rw [hx] at hx₀
    cases hx₀
    exact h.1
  -- the member it is given is there, so it can claim the space by it
  have hgiven : ∀ {memberId}, session = session₀ →
      x₀.phase = .preparingMember (some (.ok memberId)) →
      memberId ∈ c.membersOf uuid := by
    intro memberId hs hp
    rw [← hspace hs]
    refine hpresent.expected session₀ _ _
      ⟨held_of_prepared hx₀ hp, .inl ?_⟩
    unfold stageOf
    rw [hx₀, Option.map_some]
    simp [Session.stage, hp]
  cases resumes_of_resume hx₀ hres with
  | rejected hp hputs =>
      by_cases hs : session = session₀
      · have hr : x₀.rejected = true := by
          unfold Session.rejected
          rcases hp with hp | hp
          · rw [hp]
          · rw [hp]
        obtain ⟨session', y, hy, hne, hclaims⟩ :=
          (v.claimedBesides_iff c session₀ uuid).mp (hg (hspace hs) hr)
        exact ⟨session', y, (hputs.others session' hne).trans hy, hclaims⟩
      · exact claims_puts hputs rfl (fun heq => absurd heq hs) hx h
  | spacePrepared _ _ hputs =>
      exact claims_puts hputs rfl (fun hs => ⟨hspace hs, .inl rfl⟩) hx h
  | spaceGone _ _ hputs =>
      exact claims_puts hputs rfl (fun hs => ⟨hspace hs, .inl rfl⟩) hx h
  | @unmirrored _ memberId _ hp _ hputs =>
      exact claims_puts hputs rfl (fun hs =>
        ⟨hspace hs, .inr ⟨memberId, rfl, hgiven hs hp⟩⟩) hx h
  | @joined _ memberId _ hp _ hputs =>
      exact claims_puts hputs rfl (fun hs =>
        ⟨hspace hs, .inr ⟨memberId, rfl, hgiven hs hp⟩⟩) hx h

/-- Who closes goes on listening for its member. -/
theorem claims_close {serverId : ServerId} {session session₀ : SessionId}
    {x x₀ : Session} (hx₀ : v.sessions.get? session₀ = some x₀)
    (hx : v.sessions.get? session = some x) (h : x.claims c uuid) :
    ∃ session' x', (v.close serverId session₀ x₀).1.sessions.get? session'
      = some x' ∧ x'.claims c uuid := by
  have hself : session = session₀ →
      Session.claims { x₀ with isOpen := false } c uuid := by
    rintro rfl
    rw [hx] at hx₀
    cases hx₀
    exact h
  cases hid : x₀.memberId with
  | none =>
      exact claims_puts (close_eq_none serverId hx₀ hid).1 rfl hself hx h
  | some memberId =>
      exact claims_puts (close_eq_some serverId hx₀ hid).1 rfl hself hx h

/-- **A claim outlasts every server function**, but the last one's failed
join. -/
theorem claims_call {serverId : ServerId} {a : SystemAction}
    {p : Server × Option Request} (hchannels : v.Channels)
    (hpresent : Present c v)
    (hfresh : ∀ session x, v.sessions.get? session = some x →
      session < v.sessionIdGen) (hc : System.ServerCall serverId v a p)
    (hg : ∀ session x, a = .resume serverId session →
      v.sessions.get? session = some x → x.auth.spaceUuid = uuid →
      x.rejected = true → v.claimedBesides c session uuid)
    {session : SessionId} {x : Session}
    (hx : v.sessions.get? session = some x) (h : x.claims c uuid) :
    ∃ session' x', p.1.sessions.get? session' = some x' ∧
      x'.claims c uuid := by
  cases hc with
  | connect auth =>
      exact ⟨session, x, start_old serverId auth (hfresh session x hx) hx, h⟩
  | @resume session₀ x₀ _ hx₀ hres =>
      exact claims_resume hpresent hx₀ hres (hg session₀ x₀ rfl hx₀) hx h
  | close hx₀ => exact claims_close hx₀ hx h
  | @updateMemberState session₀ x₀ memberId newState cId _ _ _ =>
      have hk := updateMemberState_keeps hchannels.registered session₀
        memberId newState cId
      obtain ⟨x', hx', hxx⟩ := hk.after hx
      exact ⟨session, x', hx', Session.claims_of_keeps hxx h⟩
  | forward => exact ⟨session, x, hx, h⟩

/-- The last member of a mirror leaves: the server unsubscribes. -/
theorem onMemberDeleted_unsubscribes (hw : Mirrored v) (serverId : ServerId)
    {m : MemberId} (h : v.onlyMirrors uuid m) :
    (v.onMemberDeleted serverId m).2
      = some (.unsubscribeFromSpaceRequest serverId uuid
        (.deleteSpace serverId uuid)) := by
  obtain ⟨ref, href, hmember, hall⟩ := h
  have huuid := hw.spaces uuid ref href
  obtain ⟨space, hspace, rfl⟩ := Option.map_eq_some_iff.mp huuid
  have hempty : (space.members.delete m).size = 0 := by
    rw [JsMap.size_eq_zero_iff]
    intro k
    by_cases hk : k = m
    · rw [hk, JsMap.get?_delete_self]
    · rw [JsMap.get?_delete, if_neg hk]
      refine JsMap.get?_eq_none_iff.mpr fun hin => hk (hall k ?_)
      exact mem_membersOf.mpr ⟨space, hspace, hin⟩
  obtain ⟨sessions, heq, -⟩ := (v.removeMember m).broadcast_eq
    (.memberLeave m) (((v.removeMember m).membersOf ref).filter (· ≠ m))
  have hheap : (v.removeMember m).spaceHeap.get? ref
      = some { space with members := space.members.delete m } := by
    unfold removeMember
    rw [hmember]
    show (v.spaceHeap.modify ref _).get? ref = _
    rw [JsMap.get?_modify_self, hspace]
    rfl
  have hspaces : (v.removeMember m).spaces = v.spaces := by
    unfold removeMember
    rw [hmember]
  unfold onMemberDeleted
  rw [hmember]
  dsimp only
  rw [heq]
  dsimp only
  rw [hheap]
  dsimp only
  rw [if_pos hempty]
  unfold deleteSpace getSpace
  dsimp only
  rw [hspaces, href, Option.bind_some, hheap]
  dsimp only
  rw [hempty, if_neg (Nat.lt_irrefl 0)]

end Server

/-! ## §3. What a move does to subscriptions. -/

/-- After it has unsubscribed, a server is not subscribed. -/
theorem unsubscribed_of_act {c c' : Coord Publisher} (hwf : CoordWF c)
    {S : ServerId} {uuid : Uuid} {cb : Publisher}
    (h : c.act (.unsubscribeFromSpaceRequest S uuid cb) = some c')
    (hk : c.statusOf uuid ≠ none) : ¬ c'.subscribed S uuid := by
  cases act_stretch hwf.router hwf.member hwf.transport h with
  | silent hcb => cases hcb
  | served _ hq => cases hq
  | refused _ hr => exact absurd hr hk
  | ignored _ hi => exact hi.elim
  | asked hw => cases hw
  | unsubscribing _ h =>
      intro hS
      rw [Coord.subscribed, h.frame.spaceToSubscribedMap] at hS
      exact (subscribed_unsubscribe.mp hS).2 ⟨rfl, rfl⟩

namespace System

/-- Whoever is subscribed was, or has a session that waits for it. -/
theorem Move.subscriptions {s s' : System} {b : Request}
    {reqs : List Request} (hm : Move s b s' reqs) {S : ServerId} {uuid : Uuid}
    (hS : s'.coordinator.subscribed S uuid) :
    s.coordinator.subscribed S uuid ∨ ∃ session x,
      s.sessionOf S session = some x ∧ x.phase = .preparingSpace none ∧
        x.auth.spaceUuid = uuid := by
  have hsame : ∀ {c : Coord Publisher}, s'.coordinator.spaceToSubscribedMap
      = c.spaceToSubscribedMap → c.subscribed S uuid := by
    intro c hmap
    rw [Coord.subscribed, hmap] at hS
    exact hS
  cases hm with
  | quiet _ h | announced _ _ h | rejected _ h | asked _ _ _ h
    | forwarded _ h | removed _ _ h | abandoned h | unsubscribed _ h
    | added _ _ _ h | updated _ _ _ h | updateNacked _ h =>
      exact .inl (hsame h.frame.spaceToSubscribedMap)
  | unsubscribing h =>
      have hold := hsame h.frame.spaceToSubscribedMap
      exact .inl (subscribed_unsubscribe.mp hold).1
  | @subscribed i _ serverId session x _ _ _ hx hp _ h =>
      have hold := hsame h.frame.spaceToSubscribedMap
      rcases subscribed_subscribe.mp hold with hold | ⟨rfl, rfl⟩
      · exact .inl hold
      · exact .inr ⟨session, x, hx, hp, rfl⟩

/-- What the removal of a member publishes. -/
theorem Move.removed_requests {s s' : System} {S : ServerId} {m : MemberId}
    {reqs : List Request}
    (hm : Move s (.removeMemberRequest m (.deleteMember S m)) s' reqs)
    (hgone : s'.coordinator.members ≠ s.coordinator.members) :
    reqs = ((s.servers.get? S).bind fun v =>
      (v.onMemberDeleted S m).2).toList := by
  cases hm with
  | removed => rfl
  | quiet _ h | announced _ _ h | rejected _ h | asked _ _ _ h
    | forwarded _ h | updated _ _ _ h | updateNacked _ h =>
      exact absurd h.frame.members.members hgone

/-! ## §4. Every point of a run. -/

/-- Whoever is subscribed to `uuid` has a reason, or is about to
unsubscribe. -/
structure Claimed (uuid : Uuid) (s : System) (reqs : List Request) :
    Prop where
  claimed : ∀ S, s.coordinator.subscribed S uuid →
    (∃ session x, s.sessionOf S session = some x ∧
      x.claims s.coordinator uuid) ∨
    .unsubscribeFromSpaceRequest S uuid (.deleteSpace S uuid) ∈ reqs
  /-- A removal is published alone, by the server of the member; when it
  goes through, somebody else claims the space, or the mirror has nobody
  else. -/
  removing : ∀ S m, .removeMemberRequest m (.deleteMember S m) ∈ reqs →
    reqs = [.removeMemberRequest m (.deleteMember S m)] ∧
      (∃ session x, s.sessionOf S session = some x ∧ x.memberId = some m) ∧
      (s.coordinator.spaceOf m = some uuid →
        s.coordinator.subscribed S uuid →
        ¬ s.coordinator.ignores (.removeMemberRequest m
          (.deleteMember S m)) →
        ∀ v, s.servers.get? S = some v →
          (∃ session x, v.sessions.get? session = some x ∧
            x.listening ≠ some m ∧ x.claims s.coordinator uuid) ∨
          v.onlyMirrors uuid m)

variable {G : Guard System SystemAction (Out Publisher)} {uuid : Uuid}

/-- Who listens for a member holds it. -/
theorem Point.holds_of_listening {s : System} {reqs : List Request}
    (h : Point G s reqs) {S : ServerId} {session : SessionId} {x : Session}
    {m : MemberId} (hx : s.sessionOf S session = some x)
    (hm : x.listening = some m) :
    s.Holds S session x.auth.spaceUuid m := by
  obtain ⟨v, hv, hx⟩ := Option.bind_eq_some_iff.mp hx
  unfold Holds held
  rw [hv]
  exact Server.held_of_listening (h.prepares S v hv) hx hm

/-- Who has joined holds its member. -/
theorem Point.holds_of_memberId {s : System} {reqs : List Request}
    (h : Point G s reqs) {S : ServerId} {session : SessionId} {x : Session}
    {m : MemberId} (hx : s.sessionOf S session = some x)
    (hm : x.memberId = some m) : s.Holds S session x.auth.spaceUuid m := by
  obtain ⟨v, hv, hx⟩ := Option.bind_eq_some_iff.mp hx
  unfold Holds held
  rw [hv]
  exact held_of_memberId (h.channels hv) hx hm

/-- A removal that goes through is not ignored. -/
theorem not_ignored_of_gone {s s' : System} {S : ServerId} {m : MemberId}
    (ha : s.base.act (.removeMemberRequest m (.deleteMember S m))
      = some s'.coordinator) (hin : m ∈ s.coordinator.members.keys)
    (hgone : m ∉ s'.coordinator.members.keys) :
    ¬ s.coordinator.ignores
      (.removeMemberRequest m (.deleteMember S m)) := by
  intro hi
  have hsame : (MemberService.onRemoveMemberRequest s.base m
      (.deleteMember S m)).members = s.base.members := ignored_members hi
  have hact := Option.some.inj ha
  rw [hact] at hsame
  rw [hsame] at hgone
  exact hgone hin

/-- **When a member is removed**, its server keeps another reason, or
unsubscribes. -/
theorem Move.removed_claimed {s s' : System} {S : ServerId} {m : MemberId}
    {reqs later later' : List Request} (hpoint : Point G s later')
    (hm : Move s (.removeMemberRequest m (.deleteMember S m)) s' reqs)
    (hi : ¬ s.coordinator.ignores
      (.removeMemberRequest m (.deleteMember S m)))
    (hgone : s'.coordinator.members ≠ s.coordinator.members)
    (hS : s.coordinator.subscribed S uuid)
    {session : SessionId} {x : Session}
    (hx : s.sessionOf S session = some x) (hu : x.auth.spaceUuid = uuid)
    (hl : x.listening = some m)
    (h : Claimed uuid s
      (.removeMemberRequest m (.deleteMember S m) :: later)) :
    (∃ session y, s.sessionOf S session = some y ∧ y.listening ≠ some m ∧
      y.claims s.coordinator uuid) ∨
    .unsubscribeFromSpaceRequest S uuid (.deleteSpace S uuid) ∈ reqs := by
  obtain ⟨v, hv, hxv⟩ := Option.bind_eq_some_iff.mp hx
  obtain ⟨-, -, hleaves⟩ := h.removing S m List.mem_cons_self
  have hspace := hpoint.owners.space S session _ _
    (hpoint.holds_of_listening hx hl)
  rw [hu] at hspace
  rcases hleaves hspace hS hi v hv with ⟨session', y, hy, hne, hclaims⟩ | honly
  · refine .inl ⟨session', y, ?_, hne, hclaims⟩
    rw [sessionOf_eq hv, hy]
  · right
    rw [hm.removed_requests hgone, hv, Option.bind_some,
      Server.onMemberDeleted_unsubscribes (hpoint.mirrored S v hv) S honly]
    exact List.mem_singleton_self _

/-- **Whoever stays subscribed keeps a reason.** -/
theorem Move.claimed {sync : Bool} {s s' : System} {b : Request}
    {reqs later later' : List Request} (hpoint : Point G s later')
    (hready : Ready s sync b) (hm : Move s b s' reqs)
    (ha : s.base.act b = some s'.coordinator)
    (h : Claimed uuid s (b :: later)) : Claimed uuid s' (reqs ++ later) := by
  -- a session with a claim keeps it, unless its member leaves
  have hkept : ∀ {S session x}, s.sessionOf S session = some x →
      x.claims s.coordinator uuid → (∀ m ∈ x.listening,
        m ∈ s.coordinator.membersOf uuid →
        m ∈ s'.coordinator.membersOf uuid) →
      ∃ session x', s'.sessionOf S session = some x' ∧
        x'.claims s'.coordinator uuid := by
    intro S session x hx hclaims hin
    obtain ⟨x', hx', hk⟩ := hm.keeps_session hpoint hready hx
    exact ⟨session, x', hx', Session.claims_of_keeps hk
      (Session.claims_of_members hin hclaims)⟩
  have hI := (coordWF_reachable hpoint.reachable).member
  -- a subscription is older, or comes from a session that has asked for it
  refine ⟨fun S hS => ?_, fun S m hin => ?_⟩
  · rcases hm.subscriptions hS with hold | ⟨session, x, hx, hp, hu⟩
    · rcases h.claimed S hold with ⟨session, x, hx, hclaims⟩ | hin
      -- either nobody leaves, or one joins, or one leaves
      · cases hm.transfers hready with
        | relayed hf hv =>
            refine .inl (hkept hx hclaims fun m _ hin => ?_)
            rw [hf.membersOf]
            exact hin
        | @added _ S₀ session₀ x₀ _ _ hk hf _ =>
            refine .inl (hkept hx hclaims fun m _ hin => ?_)
            rw [hf.membersOf]
            exact (membersOf_add _ _ _ _ hk m).mpr (.inl hin)
        | @removed S₀ memberId member hmem hh hn hf hv =>
            have hothers : ∀ {session y}, s.sessionOf S session = some y →
                y.listening ≠ some memberId →
                y.claims s.coordinator uuid → ∃ session x',
                  s'.sessionOf S session = some x' ∧
                    x'.claims s'.coordinator uuid := by
              intro session y hy hne hclaims
              refine hkept hy hclaims fun m hlisten hin => ?_
              rw [hf.membersOf]
              refine (membersOf_remove uuid m).mpr ⟨hin, ?_⟩
              rintro ⟨rfl, -⟩
              exact hne hlisten
            by_cases hl : x.listening = some memberId
            · -- it is the one that leaves, so `S` asks for the removal
              obtain ⟨-, ⟨session₀, x₀, hx₀, hid₀⟩, -⟩ :=
                h.removing S₀ memberId List.mem_cons_self
              obtain ⟨rfl, -⟩ := hpoint.owners.unique _ _ _ _ _ _ memberId
                (hpoint.holds_of_listening hx hl)
                (hpoint.holds_of_memberId hx₀ hid₀)
              have hgone : memberId ∉ s'.coordinator.members.keys := by
                rw [hf.members]
                exact fun hin => (JsMap.mem_keys_delete.mp hin).1 rfl
              have hi := not_ignored_of_gone ha hmem hgone
              have hne : s'.coordinator.members ≠ s.coordinator.members := by
                intro heq
                rw [heq] at hgone
                exact hgone hmem
              rcases hm.removed_claimed hpoint hi hne hold hx hclaims.1 hl h
                with ⟨session', y, hy, hyl, hyclaims⟩ | hunsub
              · exact .inl (hothers hy hyl hyclaims)
              · exact .inr (List.mem_append_left _ hunsub)
            · exact .inl (hothers hx hl hclaims)
      -- an unsubscribe is under way: it is served now, or waits still
      · rcases List.mem_cons.mp hin with rfl | hin
        · have hknown := subscribed_known hpoint.reachable hold
          exact absurd hS (unsubscribed_of_act hpoint.baseWF ha hknown)
        · exact .inr (List.mem_append_right _ hin)
    · -- it is subscribed for the session that waited for it
      obtain ⟨x', hx', hk⟩ := hm.keeps_session hpoint hready hx
      refine .inl ⟨session, x', hx', Session.claims_of_keeps hk ⟨hu, .inl ?_⟩⟩
      unfold Session.joins
      rw [hp]
  -- a removal is the last request of its call: none waits behind `b`
  · rcases List.mem_append.mp hin with hin | hin
    · obtain ⟨_, _, heq⟩ := hm.requests _ hin
      cases heq
    · obtain ⟨heq, -⟩ := h.removing S m (List.mem_cons_of_mem _ hin)
      cases heq
      cases hin

theorem ServerCall.of_close {S : ServerId} {v : Server}
    {session : SessionId} {x : Session} {p : Server × Option Request}
    (h : ServerCall S v (.close S session) p)
    (hx : v.sessions.get? session = some x) : p = v.close S session x := by
  cases h with
  | close hx' _ =>
      rw [hx] at hx'
      cases hx'
      rfl

/-- What the close handler publishes keeps the server's reason, or leaves
the mirror to one member. -/
theorem Point.closing {s : System} (h : Point G s []) {S : ServerId}
    {v : Server} (hv : s.servers.get? S = some v) {session : SessionId}
    {x : Session} (hx : v.sessions.get? session = some x) {m : MemberId}
    (hid : x.memberId = some m) (hm : v.members.has m = true)
    (hg : x.auth.spaceUuid = uuid → v.leavesEmpty s.coordinator S session x m)
    (hspace : s.coordinator.spaceOf m = some uuid)
    (hS : s.coordinator.subscribed S uuid)
    (hi : ¬ s.coordinator.ignores
      (.removeMemberRequest m (.deleteMember S m))) :
    (∃ session' y, (v.close S session x).1.sessions.get? session' = some y ∧
      y.listening ≠ some m ∧ y.claims s.coordinator uuid) ∨
    (v.close S session x).1.onlyMirrors uuid m := by
  have hx' : s.sessionOf S session = some x := by
    rw [sessionOf_eq hv, hx]
  have hholds := h.holds_of_memberId hx' hid
  have hu : x.auth.spaceUuid = uuid := by
    have howner := h.owners.space S session _ m hholds
    rw [hspace] at howner
    exact (Option.some.inj howner).symm
  have hsub := subWF_reachable h.reachable
  rcases hg hu hm hi (by rw [hu]; exact (isSubscribed_iff hsub).mpr hS)
    with hbesides | honly
  · left
    obtain ⟨session', y, hy, hne, hclaims⟩ :=
      (v.claimedBesides_iff _ _ _).mp hbesides
    rw [hu] at hclaims
    refine ⟨session', y, ?_, fun hl => ?_, hclaims⟩
    · rw [(Server.close_eq_some S hx hid).1.others session' hne]
      exact hy
    · have hy' : s.sessionOf S session' = some y := by
        rw [sessionOf_eq hv, hy]
      exact hne (h.owners.unique _ _ _ _ _ _ m
        (h.holds_of_listening hy' hl) hholds).2
  · right
    rw [hu] at honly
    obtain ⟨table, heq⟩ := (Server.close_eq_some S hx hid).1.rest
    rw [heq]
    exact honly

/-- A server function keeps the reasons of its server. -/
theorem Claimed.called {tr : List (Out Publisher)} {s : System}
    {serverId : ServerId} {v : Server} {a : SystemAction}
    {p : Server × Option Request} (ih : Claimed uuid s [])
    (h : Point (lastUnsubscribes uuid) s [])
    (hg : lastUnsubscribes uuid tr s a)
    (hv : s.servers.get? serverId = some v) (hc : ServerCall serverId v a p) :
    Claimed uuid { s with servers := s.servers.set serverId p.1 }
      p.2.toList := by
  have hsession : ∀ {session x}, p.1.sessions.get? session = some x →
      sessionOf { s with servers := s.servers.set serverId p.1 } serverId
        session = some x := by
    intro session x hx
    rw [sessionOf_set_self, hx]
  refine ⟨fun S hS => .inl ?_, fun S m hb => ?_⟩
  -- the server's own subscriptions are claimed as its call leaves them
  · obtain ⟨session, x, hx, hclaims⟩ :=
      (ih.claimed S hS).resolve_right List.not_mem_nil
    by_cases hs : S = serverId
    · subst hs
      rw [sessionOf_eq hv] at hx
      -- the guard: who fails has company, where the server is subscribed
      have hfails : ∀ session₀ x₀, a = .resume S session₀ →
          v.sessions.get? session₀ = some x₀ →
          x₀.auth.spaceUuid = uuid → x₀.rejected = true →
          v.claimedBesides s.coordinator session₀ uuid := by
        rintro session₀ x₀ rfl hx₀ hu₀ hr
        have hcompany := hg v hv x₀ hx₀ hu₀ hr
        rw [hu₀] at hcompany
        exact hcompany
          ((isSubscribed_iff (subWF_reachable h.reachable)).mpr hS)
      obtain ⟨session', x', hx', hclaims'⟩ := Server.claims_call
        (h.channels hv) (h.present S v hv)
        (fun session x => h.linked.fresh S v session x hv) hc hfails hx
        hclaims
      exact ⟨session', x', hsession hx', hclaims'⟩
    · refine ⟨session, x, ?_, hclaims⟩
      rw [sessionOf_set_of_ne _ _ _ hs, hx]
  -- the request of the call is the removal of the session's own member
  · obtain ⟨v', req⟩ := p
    obtain rfl : req = some _ := Option.mem_toList.mp hb
    cases hc.requests with
    | @removeMember session x _ hx hid =>
        have hclose := hc.of_close hx
        have hm : v.members.has m = true := by
          have hreq := (Server.close_eq_some serverId hx hid).2
          rw [← hclose] at hreq
          unfold Server.deleteMember at hreq
          split at hreq
          · assumption
          · cases hreq
        refine ⟨rfl, ?_, fun hspace hS hi w hw => ?_⟩
        · have hself := (Server.close_eq_some serverId hx hid).1.self
          rw [← hclose] at hself
          exact ⟨session, _, hsession hself, hid⟩
        · have hw : (s.servers.set serverId v').get? serverId
              = some w := hw
          rw [JsMap.get?_set_self] at hw
          cases hw
          have hleaves := h.closing hv hx hid hm
            (fun hu => hg v hv x hx hu m hid) hspace hS hi
          rw [← hclose] at hleaves
          exact hleaves

/-- **Whoever is subscribed has a reason**, while the last one on a server
leaves an empty mirror. -/
theorem Point.claimed {s : System} {reqs : List Request}
    (h : Point (lastUnsubscribes uuid) s reqs) : Claimed uuid s reqs := by
  induction h with
  | initial =>
      refine ⟨?_, fun _ _ hb => nomatch hb⟩
      rintro S ⟨servers, hs, -⟩
      cases hs
  | flushed _ _ ih => exact ⟨ih.claimed, ih.removing⟩
  | @started s serverId _ hn ih =>
      refine ⟨fun S hS => ?_, fun _ _ hb => nomatch hb⟩
      left
      obtain ⟨session, x, hx, hclaims⟩ :=
        (ih.claimed S hS).resolve_right List.not_mem_nil
      exact ⟨session, x, sessionOf_start hn hx, hclaims⟩
  | called h hg hv hc ih => exact ih.called h hg hv hc
  | published h hready hm ha ih => exact hm.claimed h hready ha ih
  | @coordinated tr s s' b reqs h _ hready hm ha ih =>
      have hb : Claimed uuid s [b] := by
        refine ⟨fun S hS => .inl ?_, fun S m hb => ?_⟩
        · exact (ih.claimed S hS).resolve_right List.not_mem_nil
        · obtain rfl := List.mem_singleton.mp hb
          cases hready with
          | coordinator hof => cases hof
      have hnext := hm.claimed h hready ha hb
      rwa [List.append_nil] at hnext

/-- Who publishes a request resumes nobody. -/
theorem Ready.subscribesServed {s : System} {b : Request}
    (h : Ready s true b) {tr : List (Out Publisher)}
    {c : Coord Publisher} : subscribesServed uuid tr c b := by
  cases h <;> trivial

/-- **A deserted space that runs is about to end.** -/
theorem Point.winds {s : System} {reqs : List Request}
    (h : Point (lastUnsubscribes uuid) s reqs) :
    Winds uuid s.coordinator := by
  induction h with
  | initial => exact fun hrun => nomatch hrun
  | flushed _ _ ih => exact ih
  | started _ _ ih => exact ih
  | called _ _ _ _ ih => exact ih
  | @published s _ _ _ _ h hready hm ha ih =>
      have hw := waiters_reachable h.reachable
      have hg : Coordinator.subscribesServed uuid [] s.base _ :=
        hready.subscribesServed
      exact winds_act h.baseWF ⟨hw.requested, hw.prompt⟩ hg ha ih
  | @coordinated tr s _ b _ h hg hready hm ha ih =>
      have hw := waiters_reachable h.reachable
      have hg : Coordinator.subscribesServed uuid tr s.base b := by
        cases b <;> exact hg
      exact winds_act h.baseWF ⟨hw.requested, hw.prompt⟩ hg ha ih

/-- A step leaves a space that has run so. -/
theorem ran_step {s s' : System} {a : SystemAction}
    {obs : List (Out Publisher)} (h : Point anyStep s [])
    (hran : s.coordinator.ran uuid)
    (hs : machine.step s a = some (s', obs)) : s'.coordinator.ran uuid := by
  have hclosed : Closed anyStep fun s reqs =>
      Point anyStep s reqs ∧ s.coordinator.ran uuid := by
    refine ⟨⟨fun h => h.1.linked, fun h => h.1.reachable,
      fun h hready hm ha => ?_⟩, fun out h => ?_, fun h _ hn => ?_,
      fun h hg hv hc => ?_, fun h hg hready hm ha => ?_⟩
    · exact ⟨h.1.published hready hm ha, ran_act ha h.2⟩
    · exact ⟨h.1.flushed out, h.2⟩
    · exact ⟨h.1.started hn, h.2⟩
    · exact ⟨h.1.called hg hv hc, h.2⟩
    · exact ⟨h.1.coordinated hg hready hm ha, ran_act ha h.2⟩
  have hg : anyStep ([] : List (Out Publisher)) s a := trivial
  exact (hclosed.step ⟨h, hran⟩ hg hs).2

/-- **A space that was running has run.** -/
theorem Run.ran {past : List System} {s : System}
    {tr : List (Out Publisher)} (h : machine.Run anyStep past s tr)
    (hran : ∃ t ∈ past ++ [s],
      t.coordinator.statusOf uuid = some .running) :
    s.coordinator.ran uuid := by
  induction h with
  | init _ =>
      obtain ⟨t, ht, hrun⟩ := hran
      obtain rfl := List.mem_singleton.mp ht
      exact .inl hrun
  | step h hg hs ih =>
      obtain ⟨t, ht, hrun⟩ := hran
      rcases List.mem_append.mp ht with ht | ht
      · exact ran_step (Run.point h) (ih ⟨t, ht, hrun⟩) hs
      · obtain rfl := List.mem_singleton.mp ht
        exact .inl hrun

end System

/-! ## §5. The end of a space. -/

/-- **Spaces do not outlive their members**: in every run in which whoever
leaves a server last leaves an empty mirror, no join fails on a server that
nobody else is on, and every accepted subscription is served, a space that
has been running and has no members at rest has no subscribers and has
ended. -/
theorem space_ends {uuid : Uuid} {past : List System} {s : System}
    {tr : List (Out Publisher)}
    (h : machine.Run (System.lastUnsubscribes uuid) past s tr)
    (hq : s.Settled)
    (hran : ∃ t ∈ past ++ [s],
      t.coordinator.statusOf uuid = some .running)
    (hm : s.coordinator.membersOf uuid = []) :
    (∀ S, SpaceService.isSubscribed s.coordinator S uuid = false) ∧
      s.coordinator.statusOf uuid = some .ended := by
  have hpoint := System.Run.point h
  have hnobody : ∀ S, ¬ s.coordinator.subscribed S uuid := by
    intro S hS
    obtain ⟨session, x, hx, -, hclaims⟩ :=
      (hpoint.claimed.claimed S hS).resolve_right List.not_mem_nil
    rcases hclaims with hjoins | ⟨m, -, hin⟩
    · obtain ⟨v, hv, hx⟩ := Option.bind_eq_some_iff.mp hx
      have hrest := hq.2 (S, v) (JsMap.mem_entries.mpr hv) (session, x)
        (JsMap.mem_entries.mpr hx)
      rw [hjoins] at hrest
      cases hrest
    · rw [hm] at hin
      cases hin
  refine ⟨fun S => ?_, ?_⟩
  · have hsub := subWF_reachable hpoint.reachable
    rw [← Bool.not_eq_true, isSubscribed_iff hsub]
    exact hnobody S
  · rcases System.Run.ran (h.mono fun _ _ _ _ => trivial) hran with hrun | hend
    · obtain ⟨t, ht, -⟩ := hpoint.winds hrun hnobody hm
      rw [hq.1.2.2.2] at ht
      cases ht
    · exact hend

/-- Ann has joined on one server when Ben joins on another; Ann leaves, and
Ben leaves. -/
def annThenBen : List SystemAction :=
  twoMembers.take 12 ++
    [.startServer 2, .connect 2 ⟨"room", ⟨"Ben"⟩, ⟨false, false⟩⟩,
     .coordinator (.resume 0), .resume 2 0, .coordinator (.resume 0),
     .resume 2 0, .coordinator (.transportAck 1 "options"),
     .coordinator (.resume 0), .coordinator (.transportAck 2 "options"),
     .coordinator (.transportAck 3 "options"), .close 1 0, .close 2 0,
     .coordinator (.resume 0)]

/-- Nobody is left, and the space runs: Ben's server still mirrors Ann. -/
theorem space_outlives : ∃ past s tr, machine.Run anyStep past s tr ∧
    s.Settled ∧
    (∃ t ∈ past ++ [s], t.coordinator.statusOf "room" = some .running) ∧
    s.coordinator.membersOf "room" = [] ∧
    SpaceService.isSubscribed s.coordinator 2 "room" = true ∧
    s.coordinator.statusOf "room" = some .running := by
  obtain ⟨past, s, tr, hr, hp⟩ := Machine.Run.exists_of_exec (M := machine)
    (G := anyStep) (l := annThenBen) (p := fun r => decide
      (r.2.1.Settled ∧ r.2.1.coordinator.membersOf "room" = [] ∧
        SpaceService.isSubscribed r.2.1.coordinator 2 "room" = true ∧
        r.2.1.coordinator.statusOf "room" = some .running)) rfl
    (by decide +kernel)
  obtain ⟨hq, hm, hsub, hrun⟩ := of_decide_eq_true hp
  exact ⟨past, s, tr, hr, hq, ⟨s, by simp, hrun⟩, hm, hsub, hrun⟩

/-- Ann and Ben join on two servers at once, and leave. -/
def bothLeave : List SystemAction :=
  twoMembers.take 7 ++
    -- a second server, on which Ben joins
    [.startServer 2, .connect 2 ⟨"room", ⟨"Ben"⟩, ⟨false, false⟩⟩,
     .coordinator (.resume 0), .resume 1 0, .resume 2 0,
     .coordinator (.resume 0), .coordinator (.resume 0), .resume 1 0,
     -- Ben's session goes on in turn with the coordinator
     .resume 2 0, .coordinator (.transportAck 0 "options"),
     .coordinator (.transportAck 1 "options"), .coordinator (.resume 0),
     .coordinator (.resume 0), .coordinator (.transportAck 2 "options"),
     .coordinator (.transportAck 3 "options"),
     .coordinator (.transportAck 4 "options"),
     -- Ann leaves, then Ben; each server unsubscribes on its own
     .coordinator (.transportAck 5 "options"), .close 1 0,
     .coordinator (.resume 0), .close 2 0, .coordinator (.resume 0),
     .coordinator (.resume 0)]

/-- Two members join and leave, and the space ends. -/
theorem space_ends_two : ∃ past s tr,
    machine.Run (System.lastUnsubscribes "room") past s tr ∧ s.Settled ∧
      (∃ t ∈ past ++ [s], t.coordinator.membersOf "room" = [0, 1]) ∧
      s.coordinator.membersOf "room" = [] ∧
      (∀ S, SpaceService.isSubscribed s.coordinator S "room" = false) ∧
      s.coordinator.statusOf "room" = some .ended := by
  obtain ⟨past, s, tr, hr, hp⟩ := Machine.Run.exists_of_exec (M := machine)
    (G := System.lastUnsubscribes "room") (l := bothLeave)
    (p := fun r => decide (r.2.1.Settled ∧
      (∃ t ∈ r.1, t.coordinator.membersOf "room" = [0, 1]) ∧
      (∃ t ∈ r.1, t.coordinator.statusOf "room" = some .running) ∧
      r.2.1.coordinator.membersOf "room" = [])) rfl (by decide +kernel)
  obtain ⟨hq, ⟨t, ht, hboth⟩, ⟨t', ht', hrun⟩, hm⟩ := of_decide_eq_true hp
  have hin : ∀ {t}, t ∈ past → t ∈ past ++ [s] := List.mem_append_left _
  exact ⟨past, s, tr, hr, hq, ⟨t, hin ht, hboth⟩, hm,
    space_ends hr hq ⟨t', hin ht', hrun⟩ hm⟩

end Twolk.Signaling
