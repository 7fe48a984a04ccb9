/-
  Twolk.Signaling.Deliveries
  ──────────────────────────
  **TRANSPORT PARAMETERS ARE NOT LOST.**

  The coordinator requests the producer transport of a member before it
  accepts the member, and the parameters of a transport are announced when
  its worker acks it.  The channel of the member is registered at the end of
  `start`, and parameters that come before that are dropped.

  Main result: `params_delivered` — while no transport of a member is acked
  before its `start` has run to its end, nor after its channel has closed,
  and what an ack announces finds its source and the mirror of the space,
  the channel of whoever has joined carries the parameters of each of its
  allocated transports once.
-/
import Twolk.Coordinator.Allocated
import Twolk.Coordinator.Subscriptions
import Twolk.Signaling.Params

namespace Twolk.Signaling

open Twolk.Lib Coordinator

/-! ## §1. What a channel has delivered. -/

/-- The options of transport parameters. -/
def ServerToClientEvent.params : ServerToClientEvent → Option Json
  | .transportParams _ options => some options
  | _ => none

/-- The channel of `x` has carried the options of each allocated transport
of `m`, and those of no other. -/
def Delivered (c : Coord Publisher) (m : MemberId) (x : Session) : Prop :=
  ∃ ids : List TransportId, ids.Nodup ∧
    (∀ id, id ∈ ids ↔ ∃ options, c.allocated id = some (m, options)) ∧
    ids.map c.allocated
      = (x.emitted.filterMap ServerToClientEvent.params).map
        fun options => some (m, some options)

namespace Server

/-- The session has joined as `m`, and its channel was open then: a channel
that closes after the join is not registered any more. -/
def JoinedOpen (v : Server) (session : SessionId) (x : Session)
    (m : MemberId) : Prop :=
  x.memberId = some m ∧
    (x.isOpen = true ∨ v.memberIdToChannel.get? m ≠ some session)

/-- If `start` is about to join with an open channel, no transport of its
member has been allocated. -/
def joinsUnserved (v : Server) (c : Coord Publisher) (x : Session) : Prop :=
  match x.phase with
  | .preparingMember (some (.ok m)) => x.isOpen = true →
      (v.getSpace x.auth.spaceUuid).isSome = true →
      ∀ t ∈ c.transportHeap.keys, ∀ p ∈ c.allocated t, p.1 ≠ m
  | _ => True

/-- The parameters of `T`, a transport of the member of `x`, reach the
channel, unless it was closed when `x` joined. -/
def reaches (v : Server) (c : Coord Publisher) (serverId : ServerId)
    (session : SessionId) (x : Session) (T : Transport) : Prop :=
  (x.isOpen = false →
    v.memberIdToChannel.get? T.owningMember = some session) ∧
  (x.isOpen = true → c.consumesFromMember T ≠ none ∧
    SpaceService.isSubscribed c serverId x.auth.spaceUuid = true ∧
    v.spaces.has x.auth.spaceUuid = true)

instance (v : Server) (c : Coord Publisher) :
    ∀ x, Decidable (v.joinsUnserved c x)
  | ⟨auth, isOpen, _, _, .preparingMember (some (.ok m)), _, _⟩ =>
      inferInstanceAs (Decidable (isOpen = true →
        (v.getSpace auth.spaceUuid).isSome = true →
        ∀ t ∈ c.transportHeap.keys, ∀ p ∈ c.allocated t, p.1 ≠ m))
  | ⟨_, _, _, _, .preparingMember (some (.error _)), _, _⟩
  | ⟨_, _, _, _, .preparingMember none, _, _⟩
  | ⟨_, _, _, _, .preparingSpace _, _, _⟩
  | ⟨_, _, _, _, .joined, _, _⟩
  | ⟨_, _, _, _, .failed _, _, _⟩ => .isTrue trivial

instance (v : Server) (c : Coord Publisher) (serverId : ServerId)
    (session : SessionId) (x : Session) (T : Transport) :
    Decidable (v.reaches c serverId session x T) :=
  inferInstanceAs (Decidable (_ ∧ _))

end Server

namespace System

/-- No transport is acked before its member has joined, and what an ack
announces reaches the member. -/
def deliversParams : Guard System SystemAction (Out Publisher)
  | _, s, .resume serverId session => ∀ v ∈ s.servers.get? serverId,
      ∀ x ∈ v.sessions.get? session, v.joinsUnserved s.coordinator x
  | _, s, .coordinator (.transportAck id _) =>
      ∀ T ∈ s.coordinator.transportHeap.get? id, ∀ e ∈ s.servers.entries,
        ∀ f ∈ e.2.sessions.entries, f.2.memberId = some T.owningMember →
          e.2.reaches s.coordinator e.1 f.1 f.2 T
  | _, _, _ => True

instance (tr : List (Out Publisher)) (s : System) :
    ∀ a, Decidable (deliversParams tr s a)
  | .resume serverId session => inferInstanceAs (Decidable
      (∀ v ∈ s.servers.get? serverId, ∀ x ∈ v.sessions.get? session,
        v.joinsUnserved s.coordinator x))
  | .coordinator (.transportAck id _) => inferInstanceAs (Decidable
      (∀ T ∈ s.coordinator.transportHeap.get? id, ∀ e ∈ s.servers.entries,
        ∀ f ∈ e.2.sessions.entries, f.2.memberId = some T.owningMember →
          e.2.reaches s.coordinator e.1 f.1 f.2 T))
  | .startServer _ | .connect .. | .close .. | .updateMemberState .. |
    .forward .. => .isTrue trivial
  | .coordinator (.createSpaceRequest ..)
  | .coordinator (.readSpaceRequest ..)
  | .coordinator (.subscribeToSpaceRequest ..)
  | .coordinator (.unsubscribeFromSpaceRequest ..)
  | .coordinator (.addMemberRequest ..)
  | .coordinator (.removeMemberRequest ..)
  | .coordinator (.spaceUpdateStream ..)
  | .coordinator (.tryJoinSpaceRequest ..)
  | .coordinator (.signalingServerConnected ..)
  | .coordinator (.signalingServerDisconnected _)
  | .coordinator (.mediaWorkerConnected _)
  | .coordinator (.mediaWorkerDisconnected _)
  | .coordinator (.routerAck ..) | .coordinator (.routerNack ..)
  | .coordinator (.transportNack ..) | .coordinator (.updateAck ..)
  | .coordinator (.updateNack ..) | .coordinator (.resume _) =>
      .isTrue trivial

end System

/-! ## §2. Channels. -/

/-- Other events carry no params. -/
theorem params_eq_none {e : ServerToClientEvent} :
    e.params = none ↔ e.isParams = false := by
  cases e <;> simp [ServerToClientEvent.params,
    ServerToClientEvent.isParams]

/-- Other events do not count. -/
theorem filterMap_params_append {l l' : List ServerToClientEvent}
    (h : ∀ e ∈ l', e.isParams = false) :
    (l ++ l').filterMap ServerToClientEvent.params
      = l.filterMap ServerToClientEvent.params := by
  have hnil : l'.filterMap ServerToClientEvent.params = [] :=
    List.filterMap_eq_nil_iff.mpr fun e he => params_eq_none.mpr (h e he)
  rw [List.filterMap_append, hnil, List.append_nil]

/-- A session that has not joined was sent no parameters. -/
theorem Session.Orderly.params_eq_nil {x : Session} (h : x.Orderly)
    (hs : x.stage = .preparingMember) :
    x.emitted.filterMap ServerToClientEvent.params = [] := by
  unfold Session.Orderly at h
  rw [hs] at h
  obtain ⟨-, hout⟩ := h
  apply List.filterMap_eq_nil_iff.mpr
  intro e he
  by_contra hne
  have hin : e ∈ outline x.emitted := by
    refine List.mem_filter.mpr ⟨he, ?_⟩
    cases e <;> first | rfl | exact absurd rfl hne
  rw [hout, List.mem_singleton] at hin
  rw [hin] at hne
  exact hne rfl

namespace Delivered

variable {c c' : Coord Publisher} {m : MemberId} {x x' : Session}

/-- What has been delivered stays so where nothing new is allocated or carried.
-/
theorem frame (h : Delivered c m x)
    (hc : ∀ t, c'.allocated t = c.allocated t)
    (hx : x'.emitted.filterMap ServerToClientEvent.params
      = x.emitted.filterMap ServerToClientEvent.params) :
    Delivered c' m x' := by
  obtain ⟨ids, hn, hmem, heq⟩ := h
  refine ⟨ids, hn, fun id => ?_, ?_⟩
  · rw [hc]
    exact hmem id
  · rw [hx, ← heq]
    exact List.map_congr_left fun id _ => hc id

/-- So it does when the transport of another member is allocated. -/
theorem other (h : Delivered c m x) {t : TransportId} {m' : MemberId}
    {options : Option Json} (hne : m' ≠ m)
    (hold : c.allocated t = none)
    (hnew : c'.allocated t = some (m', options))
    (hc : ∀ t', t' ≠ t → c'.allocated t' = c.allocated t')
    (hx : x'.emitted.filterMap ServerToClientEvent.params
      = x.emitted.filterMap ServerToClientEvent.params) :
    Delivered c' m x' := by
  obtain ⟨ids, hn, hmem, heq⟩ := h
  have hnot : t ∉ ids := by
    intro hin
    obtain ⟨o, ho⟩ := (hmem t).mp hin
    rw [hold] at ho
    cases ho
  refine ⟨ids, hn, fun id => ?_, ?_⟩
  · by_cases hid : id = t
    · subst hid
      refine ⟨fun hin => absurd hin hnot, ?_⟩
      intro ⟨o, ho⟩
      rw [hnew] at ho
      cases ho
      exact absurd rfl hne
    · rw [hc id hid]
      exact hmem id
  · rw [hx, ← heq]
    apply List.map_congr_left
    intro id hin
    apply hc
    rintro rfl
    exact hnot hin

/-- A transport of `m` is allocated, and the channel carries its
parameters. -/
theorem one (h : Delivered c m x) {t : TransportId} {options : Json}
    (hold : c.allocated t = none)
    (hnew : c'.allocated t = some (m, some options))
    (hc : ∀ t', t' ≠ t → c'.allocated t' = c.allocated t')
    (hx : x'.emitted.filterMap ServerToClientEvent.params
      = x.emitted.filterMap ServerToClientEvent.params ++ [options]) :
    Delivered c' m x' := by
  obtain ⟨ids, hn, hmem, heq⟩ := h
  have hnot : t ∉ ids := by
    intro hin
    obtain ⟨o, ho⟩ := (hmem t).mp hin
    rw [hold] at ho
    cases ho
  have hsame : ids.map c'.allocated = ids.map c.allocated := by
    apply List.map_congr_left
    intro id hin
    apply hc
    rintro rfl
    exact hnot hin
  refine ⟨ids ++ [t], ?_, fun id => ?_, ?_⟩
  · rw [List.nodup_append]
    refine ⟨hn, List.nodup_singleton t, ?_⟩
    intro a ha b hb
    rw [List.mem_singleton.mp hb]
    rintro rfl
    exact hnot ha
  · rw [List.mem_append, List.mem_singleton]
    by_cases hid : id = t
    · subst hid
      exact ⟨fun _ => ⟨_, hnew⟩, fun _ => .inr rfl⟩
    · rw [hc id hid, ← hmem id]
      exact ⟨fun hin => hin.resolve_right hid, .inl⟩
  · rw [List.map_append, List.map_singleton, hsame, hnew, hx, heq,
      List.map_append, List.map_singleton]

end Delivered

/-! ## §3. Who has joined stays so. -/

namespace System

open Server

variable {G : Guard System SystemAction (Out Publisher)} {s s' : System}
  {S : ServerId} {v v' : Server} {session : SessionId} {x x' : Session}
  {m : MemberId}

/-- A joined client with an open channel stays one. -/
theorem joinedOpen_keeps (hk : x.Keeps x')
    (hchannels : v'.memberIdToChannel = v.memberIdToChannel) :
    v'.JoinedOpen session x' m ↔ v.JoinedOpen session x m := by
  have hopen : x'.isOpen = x.isOpen := by
    rw [hk.rest]
  unfold JoinedOpen
  rw [hchannels, hk.memberId, hopen]

/-- A channel of another member is registered, or is not any more. -/
theorem joinedOpen_other (h : v'.memberIdToChannel.get? m
      = v.memberIdToChannel.get? m) :
    v'.JoinedOpen session x m ↔ v.JoinedOpen session x m := by
  unfold JoinedOpen
  rw [h]

/-- Another session changes, and the registration of `m` does not. -/
theorem joinedOpen_puts {u v' : Server} {session₀ : SessionId} {y : Session}
    (hputs : Puts u session₀ y v') (hne : session ≠ session₀)
    (hsessions : u.sessions = v.sessions)
    (hmap : u.memberIdToChannel.get? m = v.memberIdToChannel.get? m)
    (hx : v.sessions.get? session = some x) :
    ∃ x', v'.sessions.get? session = some x' ∧
      (v'.JoinedOpen session x' m ↔ v.JoinedOpen session x m) := by
  refine ⟨x, ?_, joinedOpen_other ?_⟩
  · rw [hputs.others session hne, hsessions, hx]
  · obtain ⟨table, rfl⟩ := hputs.rest
    exact hmap

/-- Whoever resumes has not joined yet, and joins as somebody else. -/
theorem Point.resume_joined (h : Point G s [])
    (hv : s.servers.get? S = some v) {session₀ : SessionId} {x₀ : Session}
    {p : Server × Option Request} (hx₀ : v.sessions.get? session₀ = some x₀)
    (hres : v.resume S session₀ x₀ = some p)
    (hx : v.sessions.get? session = some x) (hid : x.memberId = some m) :
    ∃ x', p.1.sessions.get? session = some x' ∧
      (p.1.JoinedOpen session x' m ↔ v.JoinedOpen session x m) := by
  have hchannels := h.channels hv
  have hne : session ≠ session₀ := by
    rintro rfl
    rw [hx] at hx₀
    cases hx₀
    rw [Server.resume, (hchannels.orderly session x hx).phase_eq hid] at hres
    cases hres
  cases resumes_of_resume hx₀ hres with
  | rejected _ hputs => exact joinedOpen_puts hputs hne rfl rfl hx
  | spacePrepared _ _ hputs => exact joinedOpen_puts hputs hne rfl rfl hx
  | spaceGone _ _ hputs => exact joinedOpen_puts hputs hne rfl rfl hx
  | unmirrored _ _ hputs => exact joinedOpen_puts hputs hne rfl rfl hx
  | @joined _ memberId _ hp _ hputs =>
      have hids : m ≠ memberId := by
        rintro rfl
        exact hne (h.held_inj hv (held_of_memberId hchannels hx hid)
          (held_of_prepared hx₀ hp))
      exact joinedOpen_puts hputs hne rfl (JsMap.get?_set_of_ne _ _ hids) hx

/-- Whoever closes had an open channel, and is registered no more. -/
theorem Point.close_joined (h : Point G s [])
    (hv : s.servers.get? S = some v) {session₀ : SessionId} {x₀ : Session}
    (hx₀ : v.sessions.get? session₀ = some x₀) (ho : x₀.isOpen = true)
    (hx : v.sessions.get? session = some x) (hid : x.memberId = some m) :
    ∃ x', (v.close S session₀ x₀).1.sessions.get? session = some x' ∧
      ((v.close S session₀ x₀).1.JoinedOpen session x' m ↔
        v.JoinedOpen session x m) := by
  have hchannels := h.channels hv
  cases hid₀ : x₀.memberId with
  | none =>
      have hne : session ≠ session₀ := by
        rintro rfl
        rw [hx] at hx₀
        cases hx₀
        rw [hid] at hid₀
        cases hid₀
      exact joinedOpen_puts (close_eq_none S hx₀ hid₀).1 hne rfl rfl hx
  | some memberId =>
      have hputs := (close_eq_some S hx₀ hid₀).1
      by_cases hs : session = session₀
      · subst hs
        rw [hx] at hx₀
        cases hx₀
        rw [hid] at hid₀
        cases hid₀
        -- it counts as joined before, being open, and after, unregistered
        refine ⟨_, hputs.self, fun _ => ⟨hid, .inl ho⟩, fun _ => ?_⟩
        refine ⟨hid, .inr ?_⟩
        obtain ⟨table, heq⟩ := hputs.rest
        rw [heq]
        show (v.memberIdToChannel.delete m).get? m ≠ _
        rw [JsMap.get?_delete_self]
        simp
      · have hids : m ≠ memberId := by
          rintro rfl
          exact hs (h.held_inj hv (held_of_memberId hchannels hx hid)
            (held_of_memberId hchannels hx₀ hid₀))
        refine joinedOpen_puts hputs hs rfl ?_ hx
        show (v.memberIdToChannel.delete memberId).get? m = _
        rw [JsMap.get?_delete, if_neg hids]

/-- **A server function leaves alone who has joined.** -/
theorem Point.call_joined (h : Point G s [])
    (hv : s.servers.get? S = some v) {a : SystemAction}
    {p : Server × Option Request} (hc : ServerCall S v a p)
    (hx : v.sessions.get? session = some x) (hid : x.memberId = some m) :
    ∃ x', p.1.sessions.get? session = some x' ∧
      (p.1.JoinedOpen session x' m ↔ v.JoinedOpen session x m) := by
  cases hc with
  | connect auth =>
      have hfresh := h.linked.fresh S v session x hv hx
      refine ⟨x, start_old S auth hfresh hx, joinedOpen_other ?_⟩
      rw [start_memberIdToChannel]
  | resume hx₀ hres => exact h.resume_joined hv hx₀ hres hx hid
  | close hx₀ ho => exact h.close_joined hv hx₀ ho hx hid
  | @updateMemberState session₀ _ memberId newState cId =>
      have hk := updateMemberState_keeps (h.channels hv).registered session₀
        memberId newState cId
      obtain ⟨x', hx', hxx⟩ := hk.after hx
      exact ⟨x', hx', joinedOpen_keeps hxx hk.channels⟩
  | forward => exact ⟨x, hx, Iff.rfl⟩

/-- **Who joins in a server function** resumes with its member, and is
registered. -/
theorem call_new (hchannels : v.Channels) {a : SystemAction}
    {p : Server × Option Request} (hc : ServerCall S v a p)
    (hx' : p.1.sessions.get? session = some x')
    (hid : x'.memberId = some m) :
    (∃ x, v.sessions.get? session = some x ∧ x.memberId = some m) ∨
    ∃ x, a = .resume S session ∧ v.sessions.get? session = some x ∧
      x.phase = .preparingMember (some (.ok m)) ∧ x'.isOpen = x.isOpen ∧
      (v.getSpace x.auth.spaceUuid).isSome = true ∧
      p.1.memberIdToChannel.get? m = some session := by
  -- most calls write one session, whose member stays
  have hputs : ∀ {u v' : Server} {session₀ : SessionId} {x₀ y : Session},
      Puts u session₀ y v' → u.sessions = v.sessions →
      v.sessions.get? session₀ = some x₀ → y.memberId = x₀.memberId →
      v'.sessions.get? session = some x' →
      ∃ x, v.sessions.get? session = some x ∧ x.memberId = some m := by
    intro u v' session₀ x₀ y hputs hu hx₀ hsame hget
    by_cases hs : session = session₀
    · subst hs
      rw [hputs.self] at hget
      cases hget
      exact ⟨x₀, hx₀, hsame ▸ hid⟩
    · rw [hputs.others session hs, hu] at hget
      exact ⟨x', hget, hid⟩
  -- only a session that goes on can get a member
  cases hc with
  | connect auth =>
      rcases start_sessions hx' with hx' | ⟨result, rfl⟩
      · exact .inl ⟨x', hx', hid⟩
      · cases hid
  | @resume session₀ x₀ _ hx₀ hres =>
      cases resumes_of_resume hx₀ hres with
      | rejected _ h => exact .inl (hputs h rfl hx₀ rfl hx')
      | spacePrepared _ _ h => exact .inl (hputs h rfl hx₀ rfl hx')
      | spaceGone _ _ h => exact .inl (hputs h rfl hx₀ rfl hx')
      | unmirrored _ _ h => exact .inl (hputs h rfl hx₀ rfl hx')
      | @joined _ memberId space hp hspace h =>
          -- the session that joins: its member was prepared, and is registered
          -- now
          by_cases hs : session = session₀
          · subst hs
            rw [h.self] at hx'
            cases hx'
            cases hid
            refine .inr ⟨x₀, rfl, hx₀, hp, rfl, ?_, ?_⟩
            · rw [hspace]
              rfl
            · obtain ⟨table, rfl⟩ := h.rest
              exact JsMap.get?_set_self _ _ _
          · rw [h.others session hs] at hx'
            exact .inl ⟨x', hx', hid⟩
  -- a session that closes keeps its member, or has none
  | @close session₀ x₀ hx₀ _ =>
      left
      cases hid₀ : x₀.memberId with
      | none => exact hputs (close_eq_none S hx₀ hid₀).1 rfl hx₀ rfl hx'
      | some memberId =>
          refine hputs (close_eq_some S hx₀ hid₀).1 ?_ hx₀ rfl hx'
          rfl
  | @updateMemberState session₀ x₀ memberId newState cId _ _ _ =>
      have hk := updateMemberState_keeps hchannels.registered session₀
        memberId newState cId
      left
      obtain ⟨x, hx, hxy⟩ := hk.before hx'
      exact ⟨x, hx, hxy.memberId ▸ hid⟩
  | forward => exact .inl ⟨x', hx', hid⟩

/-! ## §4. What a step delivers. -/

/-- Whoever has joined was delivered what its member was allocated. -/
def Delivers (s : System) : Prop :=
  ∀ S v session x m, s.servers.get? S = some v →
    v.sessions.get? session = some x → v.JoinedOpen session x m →
    Delivered s.coordinator m x

variable {b : Request} {reqs later : List Request}

/-- What a silent channel has carried. -/
theorem params_of_silent (h : v.Silent v')
    (hx : v.sessions.get? session = some x)
    (hx' : v'.sessions.get? session = some x') :
    x'.emitted.filterMap ServerToClientEvent.params
      = x.emitted.filterMap ServerToClientEvent.params := by
  obtain ⟨l, hl, hno⟩ := h session
  rw [emittedOn_of_get? hx, emittedOn_of_get? hx'] at hl
  rw [hl]
  exact filterMap_params_append hno

/-- **A server function**, if no transport of whoever joins was acked. -/
theorem Point.delivers_called (h : Point G s []) {a : SystemAction}
    {tr : List (Out Publisher)} {p : Server × Option Request}
    (hv : s.servers.get? S = some v) (hg : deliversParams tr s a)
    (hc : ServerCall S v a p) (hI : s.Delivers) :
    Delivers { s with servers := s.servers.set S p.1 } := by
  have hchannels := h.channels hv
  have hsilent := call_silent (h.linked.next_session hv) hc
  intro S' v' session x' m hv' hx' hjoined
  have hv' : (s.servers.set S p.1).get? S' = some v' := hv'
  rw [JsMap.get?_set] at hv'
  split at hv'
  · cases hv'
    rcases call_new hchannels hc hx' hjoined.1 with ⟨x, hx, hid⟩
      | ⟨x, rfl, hx, hp, hopen, hspace, hreg⟩
    · obtain ⟨x'', hx'', hiff⟩ := h.call_joined hv hc hx hid
      rw [hx'] at hx''
      cases hx''
      have hold := hI S v session x m hv hx (hiff.mp hjoined)
      exact hold.frame (fun _ => rfl) (params_of_silent hsilent hx hx')
    · -- it has just joined, and nothing has been allocated for it
      have ho : x.isOpen = true := by
        rw [← hopen]
        exact hjoined.2.resolve_right fun hne => hne hreg
      have hunserved : v.joinsUnserved s.coordinator x := hg v hv x hx
      unfold joinsUnserved at hunserved
      rw [hp] at hunserved
      have hnone := hunserved ho hspace
      have hnil := (hchannels.orderly session x hx).params_eq_nil
        (by simp [Session.stage, hp])
      refine ⟨[], List.nodup_nil, fun id => ?_, ?_⟩
      · refine ⟨fun hin => absurd hin List.not_mem_nil, ?_⟩
        rintro ⟨options, hid⟩
        obtain ⟨T, hT, -⟩ := Option.bind_eq_some_iff.mp hid
        have hin := JsMap.mem_keys_of_get? hT
        exact absurd rfl (hnone id hin _ hid)
      · rw [params_of_silent hsilent hx hx', hnil]
        rfl
  · exact hI S' v' session x' m hv' hx' hjoined

/-- **A move that is not the ack of a transport.** -/
theorem Move.delivers {sync : Bool} (hpoint : Point G s later)
    (hready : Ready s sync b) (hm : Move s b s' reqs)
    (ha : s.base.act b = some s'.coordinator)
    (hn : ∀ id options, b ≠ .transportAck id options)
    (hI : s.Delivers) : s'.Delivers := by
  intro S v' session x' m hv' hx' hjoined
  obtain ⟨v, hv, hsends⟩ := hm.params hpoint ha hv'
  obtain ⟨u, hu, hcall⟩ := hm.callback hready hv'
  rw [hv] at hu
  cases hu
  have hkeeps := callback_keeps (hpoint.channels hv).registered hcall
  obtain ⟨x, hx, hxy⟩ := hkeeps.before hx'
  cases hsends with
  | params hack => exact absurd hack.action (hn _ _)
  | silent hsilent =>
      have hold := hI S v session x m hv hx
        ((joinedOpen_keeps hxy hkeeps.channels).mp hjoined)
      refine hold.frame (fun t => ?_) (params_of_silent hsilent hx hx')
      have hsame : s'.coordinator.allocated t = s.base.allocated t :=
        allocated_act hpoint.baseWF ha fun options => hn t options
      exact hsame

/-! ## §5. The ack of a transport. -/

/-- What the servers hear of the ack of `T`. -/
def paramsHeard (c : Coord Publisher) (T : Transport) (options : Json) :
    List (Out Publisher) :=
  match c.consumesFromMember T with
  | none => []
  | some source => c.paramsEvents T source options

/-- The params of a transport are announced once, or not at all. -/
theorem paramsHeard_cases (c : Coord Publisher) (T : Transport)
    (options : Json) : paramsHeard c T options = [] ∨
      ∃ source uuid, paramsHeard c T options
        = [.spaceUpdate uuid (paramsUpdate T source options)] := by
  unfold paramsHeard
  split
  · exact .inl rfl
  · unfold Coord.paramsEvents
    split
    · exact .inl rfl
    · split
      · exact .inr ⟨_, _, rfl⟩
      · exact .inl rfl

/-- The parameters are announced when the source is there and somebody is
subscribed. -/
theorem paramsHeard_eq {c : Coord Publisher} {T : Transport} {uuid : Uuid}
    (options : Json) (hs : c.consumesFromMember T ≠ none)
    (hr : c.routerOwner T.owningRouter = some uuid)
    (hsub : SpaceService.hasSubscribers c uuid = true) :
    ∃ source, paramsHeard c T options
      = [.spaceUpdate uuid (paramsUpdate T source options)] := by
  obtain ⟨source, hsource⟩ := Option.ne_none_iff_exists'.mp hs
  refine ⟨source, ?_⟩
  unfold paramsHeard Coord.paramsEvents
  rw [hsource]
  dsimp only
  rw [hr]
  exact if_pos hsub

/-- **The step of an ack**: the servers hear what it announces, and nothing
else happens to them. -/
theorem step_transportAck {id : TransportId} {options : Json}
    {obs : List (Out Publisher)} (hwf : CoordWF s.base)
    (hs : machine.step s (.coordinator (.transportAck id options))
      = some (s', obs)) :
    ∃ T, s.coordinator.transportHeap.get? id = some T ∧
      s.base.act (.transportAck id options) = some s'.coordinator ∧
      s'.servers = announce s.servers
        (paramsHeard s.coordinator T options) := by
  obtain ⟨t, ht, heq⟩ := Option.map_eq_some_iff.mp hs
  cases heq
  cases act_acts ht with
  | called _ hc _ => cases hc
  | coordinator _ hrun =>
      obtain ⟨⟨t', reqs⟩, hstretch, rfl⟩ := Option.map_eq_some_iff.mp hrun
      obtain ⟨c, hc, heq⟩ := Option.map_eq_some_iff.mp hstretch
      obtain ⟨T, -, hT, hheard⟩ := heard_transportAck hwf rfl hc
      have hheard : c.out.filter Out.heard
          = paramsHeard s.coordinator T options := hheard
      have hall : Announces (paramsHeard s.coordinator T options) := by
        intro o ho
        rcases paramsHeard_cases s.coordinator T options with hnil
          | ⟨source, uuid, hone⟩
        · rw [hnil] at ho
          cases ho
        · rw [hone] at ho
          exact ⟨uuid, _, List.mem_singleton.mp ho⟩
      rw [hheard] at heq
      unfold deliverAll at heq
      rw [deliverAll_announces false hall] at heq
      cases heq
      exact ⟨T, hT, hc, rfl⟩

/-- Only the channel registered for the owner carries parameters. -/
theorem onSpaceUpdate_params (v : Server) (uuid : Uuid) (T : Transport)
    (source : Option MemberId) (options : Json) :
    (v.onSpaceUpdate uuid (paramsUpdate T source options)).memberIdToChannel
      = v.memberIdToChannel ∧
    ∀ session, (v.onSpaceUpdate uuid
        (paramsUpdate T source options)).sessions.get? session
      = (v.sessions.get? session).map fun x => x.hear
        (if v.spaces.has uuid = true ∧
            v.memberIdToChannel.get? T.owningMember = some session then
          [.transportParams (source.getD T.owningMember) options]
        else []) := by
  have hnone : ∀ session, (v.sessions.get? session).map
      (fun x => x.hear []) = v.sessions.get? session := by
    intro session
    cases v.sessions.get? session with
    | none => rfl
    | some x =>
        rw [Option.map_some, Session.hear, List.append_nil]
  unfold paramsUpdate Server.onSpaceUpdate
  dsimp only
  by_cases hhas : v.spaces.has uuid = true
  · rw [if_pos hhas]
    unfold emitTo
    cases hreg : v.memberIdToChannel.get? T.owningMember with
    | none =>
        refine ⟨rfl, fun session => ?_⟩
        rw [if_neg (by simp)]
        exact (hnone session).symm
    | some session₀ =>
        refine ⟨rfl, fun session => ?_⟩
        refine (v.emit_get session₀ _ session).trans ?_
        by_cases hs : session = session₀
        · subst hs
          rw [if_pos rfl, if_pos ⟨hhas, rfl⟩]
        · rw [if_neg hs, if_neg]
          intro h
          exact hs (Option.some.inj h.2).symm
  · rw [if_neg hhas]
    refine ⟨rfl, fun session => ?_⟩
    rw [if_neg fun h => hhas h.1]
    exact (hnone session).symm

/-- What a session hears of the ack: nothing, if it is not registered for
the owner. -/
theorem heard_session {c : Coord Publisher} {T : Transport} {options : Json}
    (hv' : (paramsHeard c T options).foldl hears v = v')
    (hx' : v'.sessions.get? session = some x') :
    v'.memberIdToChannel = v.memberIdToChannel ∧ ∃ x l,
      v.sessions.get? session = some x ∧ x' = x.hear l ∧
      (v.memberIdToChannel.get? T.owningMember ≠ some session → l = []) := by
  rcases paramsHeard_cases c T options with hnil | ⟨source, uuid, hone⟩
  · rw [hnil] at hv'
    obtain rfl : v = v' := hv'
    refine ⟨rfl, x', [], hx', ?_, fun _ => rfl⟩
    rw [Session.hear, List.append_nil]
  · rw [hone] at hv'
    obtain ⟨hmap, hget⟩ := onSpaceUpdate_params v uuid T source options
    have hv' : v.onSpaceUpdate uuid (paramsUpdate T source options) = v' := hv'
    rw [hv'] at hmap hget
    rw [hget] at hx'
    obtain ⟨x, hx, rfl⟩ := Option.map_eq_some_iff.mp hx'
    refine ⟨hmap, x, _, hx, rfl, fun hreg => ?_⟩
    exact if_neg fun h => hreg h.2

/-- Hearing events closes no channel. -/
theorem joinedOpen_hear {l : List ServerToClientEvent}
    (h : v'.memberIdToChannel = v.memberIdToChannel) :
    v'.JoinedOpen session (x.hear l) m ↔ v.JoinedOpen session x m := by
  unfold JoinedOpen
  rw [h]
  rfl

/-- The owner of an acked transport hears its options. -/
theorem Point.hears_options (h : Point G s []) {id : TransportId}
    {T : Transport} {options : Json}
    (hT : s.coordinator.transportHeap.get? id = some T)
    (hv : s.servers.get? S = some v)
    (hx : v.sessions.get? session = some x)
    (hjoined : v.JoinedOpen session x T.owningMember)
    (hreaches : v.reaches s.coordinator S session x T)
    (hv' : (paramsHeard s.coordinator T options).foldl hears v = v')
    (hx' : v'.sessions.get? session = some x') :
    x'.emitted.filterMap ServerToClientEvent.params
      = x.emitted.filterMap ServerToClientEvent.params ++ [options] := by
  have ho : x.isOpen = true := by
    by_contra hclosed
    have hreg := hreaches.1 (Bool.eq_false_iff.mpr hclosed)
    rcases hjoined.2 with ho | hne
    · exact hclosed ho
    · exact hne hreg
  obtain ⟨hsource, hsub, hspace⟩ := hreaches.2 ho
  have hreg := h.attached S v hv session x T.owningMember hx ho hjoined.1
  have hrouter : s.coordinator.routerOwner T.owningRouter
      = some x.auth.spaceUuid := by
    have hheld := held_of_memberId (h.channels hv) hx hjoined.1
    have howner := (h.sound hv).owner _ _ _ hheld
    obtain ⟨uuid, hu, hr⟩ :=
      (coordWF_reachable h.reachable).transport.owned id T hT
    rw [howner] at hu
    cases hu
    exact hr
  have hSub := subWF_reachable h.reachable
  obtain ⟨source, hone⟩ := paramsHeard_eq options hsource hrouter
    ((hasSubscribers_iff hSub).mpr ⟨S, (isSubscribed_iff hSub).mp hsub⟩)
  rw [hone] at hv'
  obtain ⟨-, hget⟩ :=
    onSpaceUpdate_params v x.auth.spaceUuid T source options
  have hv' : v.onSpaceUpdate x.auth.spaceUuid
      (paramsUpdate T source options) = v' := hv'
  rw [hv'] at hget
  rw [hget, hx, Option.map_some, if_pos ⟨hspace, hreg⟩] at hx'
  cases hx'
  exact List.filterMap_append

/-- **The ack of a transport**, if its parameters reach the owner. -/
theorem Point.delivers_acked (h : Point G s []) {id : TransportId}
    {options : Json} {tr obs : List (Out Publisher)}
    (hg : deliversParams tr s (.coordinator (.transportAck id options)))
    (hs : machine.step s (.coordinator (.transportAck id options))
      = some (s', obs)) (hI : s.Delivers) : s'.Delivers := by
  obtain ⟨T, hT, hact, hservers⟩ := step_transportAck h.baseWF hs
  obtain ⟨hold, hnew⟩ := allocated_transportAck h.baseWF hT hact
  have hrest : ∀ t, t ≠ id →
      s'.coordinator.allocated t = s.base.allocated t := by
    intro t ht
    refine allocated_act h.baseWF hact fun o heq => ?_
    cases heq
    exact ht rfl
  intro S v' session x' m hv' hx' hjoined
  rw [hservers, announce, JsMap.get?_mapVal] at hv'
  obtain ⟨v, hv, hv'⟩ := Option.map_eq_some_iff.mp hv'
  obtain ⟨hmap, x, l, hx, heq, hl⟩ := heard_session hv' hx'
  have hjoined' : v.JoinedOpen session x m := by
    rw [heq] at hjoined
    exact (joinedOpen_hear hmap).mp hjoined
  have hdelivered := hI S v session x m hv hx hjoined'
  by_cases hm : m = T.owningMember
  · subst hm
    have hreaches := hg T hT (S, v) (JsMap.mem_entries.mpr hv) (session, x)
      (JsMap.mem_entries.mpr hx) hjoined'.1
    exact hdelivered.one hold hnew hrest
      (h.hears_options hT hv hx hjoined' hreaches hv' hx')
  · -- the channel is registered for somebody else, or for nobody
    have hreg : v.memberIdToChannel.get? T.owningMember ≠ some session := by
      intro hreg
      obtain ⟨y, hy, -, hid⟩ := (h.channels hv).registered _ _ hreg
      rw [hx] at hy
      cases hy
      rw [hjoined'.1] at hid
      exact hm (Option.some.inj hid)
    refine hdelivered.other (Ne.symm hm) hold hnew hrest ?_
    rw [heq, hl hreg, Session.hear, List.append_nil]

/-! ## §6. Runs. -/

/-- A step of a run is the ack of a transport, or is made of parts that
deliver what is there. -/
theorem Point.delivers_step (h : Point anyStep s []) {a : SystemAction}
    {tr obs : List (Out Publisher)} (hg : deliversParams tr s a)
    (hs : machine.step s a = some (s', obs)) (hI : s.Delivers) :
    s'.Delivers := by
  by_cases hack : ∃ id options, a = .coordinator (.transportAck id options)
  · obtain ⟨id, options, rfl⟩ := hack
    exact h.delivers_acked hg hs hI
  · have hany : ∀ (s : System) (a : SystemAction),
        anyStep ([] : List (Out Publisher)) s a := fun _ _ => trivial
    have hclosed : Closed (fun tr s a => deliversParams tr s a ∧
        ∀ id options, a ≠ .coordinator (.transportAck id options))
        fun s reqs => Point anyStep s reqs ∧ s.Delivers := by
      refine ⟨⟨fun h => h.1.linked, fun h => h.1.reachable,
        fun h hready hm ha => ?_⟩, fun out h => ?_, fun h hg hn => ?_,
        fun h hg hv hc => ?_, fun h hg hready hm ha => ?_⟩
      · refine ⟨h.1.published hready hm ha, hm.delivers h.1 hready ha ?_ h.2⟩
        rintro id options rfl
        cases hready
      · exact ⟨h.1.flushed out, h.2⟩
      · refine ⟨h.1.started hn, ?_⟩
        intro S' v session x m hv hx hjoined
        have hv : (JsMap.set _ _ Server.initial).get? S' = some v := hv
        rw [JsMap.get?_set] at hv
        split at hv
        · cases hv
          cases hx
        · exact h.2 S' v session x m hv hx hjoined
      · exact ⟨h.1.called (hany _ _) hv hc,
          h.1.delivers_called hv hg.1 hc h.2⟩
      · refine ⟨h.1.coordinated (hany _ _) hready hm ha,
          hm.delivers h.1 hready ha ?_ h.2⟩
        rintro id options rfl
        exact hg.2 id options rfl
    refine (hclosed.step ⟨h, hI⟩ ⟨hg, ?_⟩ hs).2
    intro id options heq
    exact hack ⟨id, options, heq⟩

/-- The session has joined as `m` with an open channel. -/
def JoinedAs (s : System) (S : ServerId) (session : SessionId)
    (m : MemberId) : Prop :=
  ∃ v x, s.servers.get? S = some v ∧ v.sessions.get? session = some x ∧
    v.JoinedOpen session x m

/-- A move leaves alone who has joined. -/
theorem Move.joinedAs {sync : Bool} (hpoint : Point G s later)
    (hready : Ready s sync b) (hm : Move s b s' reqs)
    (hI : s.JoinedAs S session m) : s'.JoinedAs S session m := by
  obtain ⟨v, x, hv, hx, hjoined⟩ := hI
  obtain ⟨v', hv', hcall⟩ := hm.callback_of hready hv
  have hkeeps := callback_keeps (hpoint.channels hv).registered hcall
  obtain ⟨x', hx', hxx⟩ := hkeeps.after hx
  exact ⟨v', x', hv', hx', (joinedOpen_keeps hxx hkeeps.channels).mpr
    hjoined⟩

/-- **Whoever has joined with an open channel has from then on.** -/
theorem Point.joinedAs_step (h : Point anyStep s []) {a : SystemAction}
    {obs : List (Out Publisher)} (hs : machine.step s a = some (s', obs))
    (hI : s.JoinedAs S session m) : s'.JoinedAs S session m := by
  have hany : ∀ (s : System) (a : SystemAction),
      anyStep ([] : List (Out Publisher)) s a := fun _ _ => trivial
  have hclosed : Closed anyStep fun s reqs =>
      Point anyStep s reqs ∧ s.JoinedAs S session m := by
    refine ⟨⟨fun h => h.1.linked, fun h => h.1.reachable,
      fun h hready hm ha => ?_⟩, fun out h => ?_, fun h hg hn => ?_,
      fun {tr s₁ S' u a p} h hg hu hc => ?_, fun h hg hready hm ha => ?_⟩
    · exact ⟨h.1.published hready hm ha, hm.joinedAs h.1 hready h.2⟩
    · exact ⟨h.1.flushed out, h.2⟩
    · refine ⟨h.1.started hn, ?_⟩
      obtain ⟨v, x, hv, hrest⟩ := h.2
      exact ⟨v, x, servers_start hn hv, hrest⟩
    · refine ⟨h.1.called hg hu hc, ?_⟩
      obtain ⟨v, x, hv, hx, hjoined⟩ := h.2
      by_cases heq : S = S'
      · subst heq
        rw [hu] at hv
        cases hv
        obtain ⟨x', hx', hiff⟩ := h.1.call_joined hu hc hx hjoined.1
        refine ⟨p.1, x', ?_, hx', hiff.mpr hjoined⟩
        exact JsMap.get?_set_self _ _ _
      · refine ⟨v, x, ?_, hx, hjoined⟩
        exact (JsMap.get?_set_of_ne _ _ heq).trans hv
    · exact ⟨h.1.coordinated hg hready hm ha, hm.joinedAs h.1 hready h.2⟩
  exact (hclosed.step ⟨h, hI⟩ (hany s a) hs).2

/-- In every guarded run what has been acked has been delivered. By induction
on the run. -/
theorem Run.delivers {past : List System} {tr : List (Out Publisher)}
    (h : machine.Run deliversParams past s tr) : s.Delivers ∧
      ∀ t ∈ past ++ [s], t.JoinedAs S session m →
        s.JoinedAs S session m := by
  induction h with
  | init h =>
      cases h
      constructor
      · intro _ _ _ _ _ hv
        cases hv
      · intro t ht hj
        rwa [← List.mem_singleton.mp ht]
  | step h hg hs ih =>
      have hpoint : Point anyStep _ [] :=
        Run.point (h.mono fun _ _ _ _ => trivial)
      refine ⟨hpoint.delivers_step hg hs ih.1, fun t ht hj => ?_⟩
      rcases List.mem_append.mp ht with ht | ht
      · exact hpoint.joinedAs_step hs (ih.2 t ht hj)
      · rwa [← List.mem_singleton.mp ht]

end System

/-- **No transport parameters are lost**: in every run in which no transport
is acked before its member has joined, and what is announced reaches its
member, the channel of whoever has been in the space with an open channel
carries the parameters of each transport allocated for it, once. -/
theorem params_delivered {past : List System} {s t : System}
    {tr : List (Out Publisher)}
    (h : machine.Run System.deliversParams past s tr)
    (ht : t ∈ past ++ [s]) {S : ServerId} {session : SessionId}
    {y : Session} {m : MemberId} (hy : t.sessionOf S session = some y)
    (ho : y.isOpen = true) (hid : y.memberId = some m) :
    ∃ x, s.sessionOf S session = some x ∧ Delivered s.coordinator m x := by
  obtain ⟨u, hu, hy⟩ := Option.bind_eq_some_iff.mp hy
  obtain ⟨hdelivers, hjoined⟩ := System.Run.delivers h
  obtain ⟨v, x, hv, hx, hopen⟩ :=
    hjoined t ht ⟨u, y, hu, hy, hid, .inl ho⟩
  refine ⟨x, ?_, hdelivers S v session x m hv hx hopen⟩
  exact Option.bind_eq_some_iff.mpr ⟨v, hv, hx⟩

/-- Ann's producer is allocated before `start` has run to its end. -/
def ackedEarly : List SystemAction :=
  twoMembers.take 9 ++
    [.coordinator (.transportAck 0 "options"), .resume 1 0,
     .coordinator (.resume 0)]

/-- She has joined, and never hears of it. -/
theorem params_lost : ∃ past s tr, machine.Run anyStep past s tr ∧
    s.coordinator.quiescent ∧ ∃ x, s.sessionOf 1 0 = some x ∧
      x.isOpen = true ∧ x.memberId = some 0 ∧
      SpaceService.isSubscribed s.coordinator 1 x.auth.spaceUuid = true ∧
      ¬ Delivered s.coordinator 0 x := by
  obtain ⟨past, s, tr, hr, hp⟩ := Machine.Run.exists_of_exec (M := machine)
    (G := anyStep) (l := ackedEarly) (p := fun r => decide
      (r.2.1.coordinator.quiescent ∧
        r.2.1.coordinator.allocated 0 = some (0, some "options") ∧
        ∃ x ∈ r.2.1.sessionOf 1 0, x.isOpen = true ∧ x.memberId = some 0 ∧
          SpaceService.isSubscribed r.2.1.coordinator 1 x.auth.spaceUuid
            = true ∧
          x.emitted.filterMap ServerToClientEvent.params = [])) rfl
    (by decide +kernel)
  obtain ⟨hq, hallocated, x, hx, ho, hid, hsub, hnone⟩ :=
    of_decide_eq_true hp
  refine ⟨past, s, tr, hr, hq, x, hx, ho, hid, hsub, ?_⟩
  rintro ⟨ids, -, hmem, heq⟩
  have hin := (hmem 0).mpr ⟨_, hallocated⟩
  rw [hnone] at heq
  rw [List.map_eq_nil_iff.mp heq] at hin
  cases hin

/-- Ann and Ben hear of a producer and a consumer each. -/
theorem params_delivered_two : ∃ past s tr x,
    machine.Run System.deliversParams past s tr ∧
    s.sessionOf 1 0 = some x ∧
    x.emitted.filterMap ServerToClientEvent.params
      = ["producer", "consumer"] ∧
    Delivered s.coordinator 0 x := by
  obtain ⟨past, s, tr, hr, hp⟩ := Machine.Run.exists_of_exec (M := machine)
    (G := System.deliversParams)
    (l := twoMembers.take 10 ++
      [.coordinator (.transportAck 0 "producer"), .coordinator (.resume 0),
       .connect 1 ⟨"room", ⟨"Ben"⟩, ⟨false, false⟩⟩, .resume 1 1,
       .coordinator (.resume 0), .resume 1 1,
       .coordinator (.transportAck 1 "options"), .coordinator (.resume 0),
       .coordinator (.transportAck 2 "consumer"),
       .coordinator (.transportAck 3 "options")])
    (p := fun r => decide (∃ x ∈ r.2.1.sessionOf 1 0, x.isOpen = true ∧
      x.memberId = some 0 ∧
      x.emitted.filterMap ServerToClientEvent.params
        = ["producer", "consumer"])) rfl (by decide +kernel)
  obtain ⟨x, hx, ho, hid, hheard⟩ := of_decide_eq_true hp
  obtain ⟨x', hx', hdelivered⟩ := params_delivered hr
    (List.mem_append_right past (List.mem_singleton_self s)) hx ho hid
  rw [hx] at hx'
  cases hx'
  exact ⟨past, s, tr, x, hr, hx, hheard, hdelivered⟩

end Twolk.Signaling
