/-
  Twolk.Signaling.Params
  ──────────────────────
  **TRANSPORT PARAMETERS ARE DECODED AS THEY WERE ENCODED.**

  The coordinator sends `consumesFromMemberId ?? memberId` with the options
  of a transport, and the client takes its own id for its producer and any
  other id for the member that the transport consumes from.

  Events with transport parameters come with the ack of a transport and go
  to the channel of its owner (`Move.params`).  With one signaling server
  the source is in the mirror that this channel shows, as long as no mirror
  is removed of which channels are registered (`Run.decodes`).  In the event
  loop none is.

  Main result: `params_decoded`.
-/
import Twolk.Coordinator.Sources
import Twolk.Signaling.Connected
import Twolk.Signaling.Microtasks

namespace Twolk.Signaling

open Twolk.Lib Coordinator

/-! ## §1. Channels that carry no transport parameters. -/

namespace Server

variable {v v' v'' : Server}

/-- What the channel of a session has carried. -/
def emittedOn (v : Server) (session : SessionId) :
    List ServerToClientEvent :=
  ((v.sessions.get? session).map Session.emitted).getD []

/-- What a session has emitted is read off its channel. -/
theorem emittedOn_of_get? {session : SessionId} {x : Session}
    (hx : v.sessions.get? session = some x) :
    v.emittedOn session = x.emitted := by
  rw [emittedOn, hx]
  rfl

/-- Every channel has carried more, but no transport parameters. -/
def Silent (v v' : Server) : Prop :=
  ∀ session, ∃ l, v'.emittedOn session = v.emittedOn session ++ l ∧
    ∀ e ∈ l, e.isParams = false

theorem Silent.of_eq (h : v'.sessions = v.sessions) : Silent v v' := by
  intro session
  refine ⟨[], ?_, fun _ he => absurd he List.not_mem_nil⟩
  rw [emittedOn, h, List.append_nil]
  rfl

theorem Silent.refl (v : Server) : Silent v v := .of_eq rfl

theorem Silent.trans (h : Silent v v') (h' : Silent v' v'') :
    Silent v v'' := by
  intro session
  obtain ⟨l, hl, hno⟩ := h session
  obtain ⟨l', hl', hno'⟩ := h' session
  refine ⟨l ++ l', ?_, fun e he => ?_⟩
  · rw [hl', hl, List.append_assoc]
  · exact (List.mem_append.mp he).elim (hno e) (hno' e)

/-- Every session has heard something else than params. -/
theorem Silent.of_map {f : SessionId → Session → Session}
    (get : ∀ session, v'.sessions.get? session
      = (v.sessions.get? session).map (f session))
    (hf : ∀ session x, ∃ l, (f session x).emitted = x.emitted ++ l ∧
      ∀ e ∈ l, e.isParams = false) : Silent v v' := by
  intro session
  unfold emittedOn
  rw [get]
  cases v.sessions.get? session with
  | none => exact ⟨[], rfl, fun _ he => absurd he List.not_mem_nil⟩
  | some x => exact hf session x

/-- One session has heard something else than params. -/
theorem Puts.silent {u : Server} {session : SessionId} {x x' : Session}
    (hp : Puts u session x' v') (hu : u.sessions = v.sessions)
    (hx : v.sessions.get? session = some x)
    (he : ∃ l, x'.emitted = x.emitted ++ l ∧ ∀ e ∈ l, e.isParams = false) :
    Silent v v' := by
  intro session'
  by_cases heq : session' = session
  · rw [heq, emittedOn_of_get? hp.self, emittedOn_of_get? hx]
    exact he
  · refine ⟨[], ?_, fun _ he => absurd he List.not_mem_nil⟩
    rw [emittedOn, hp.others session' heq, hu, List.append_nil]
    rfl

/-- A broadcast of other events carries no params. -/
theorem broadcast_silent (v : Server) (ids : List MemberId)
    {event : ServerToClientEvent} (he : event.isParams = false) :
    Silent v (v.broadcast ids event) := by
  obtain ⟨sessions, heq, hget⟩ := v.broadcast_eq event ids
  rw [heq]
  refine .of_map hget fun session x => ⟨_, rfl, fun e hin => ?_⟩
  rw [(List.mem_replicate.mp hin).2, he]

theorem emit_silent (v : Server) (session : SessionId)
    {event : ServerToClientEvent} (he : event.isParams = false) :
    Silent v (v.emit session event) := by
  refine .of_map (v.emit_get session event) fun session' x =>
    ⟨_, rfl, fun e hin => ?_⟩
  split at hin
  · rw [List.mem_singleton.mp hin, he]
  · cases hin

theorem modify_silent (v : Server) (session : SessionId)
    {f : Session → Session} (hf : ∀ x, (f x).emitted = x.emitted) :
    Silent v { v with sessions := v.sessions.modify session f } := by
  refine .of_map (f := fun session' x => if session' = session then f x
    else x) (fun session' => ?_) fun session' x => ⟨[], ?_, ?_⟩
  · rw [JsMap.get?_modify]
    by_cases h : session' = session
    · simp [h]
    · simp [h]
  · rw [List.append_nil]
    split
    · exact hf x
    · rfl
  · exact fun _ he => absurd he List.not_mem_nil

/-- Nor does the update of a member. -/
theorem updateMember_silent {memberId : MemberId}
    {update : MemberStateUpdate}
    (h : v.updateMember memberId update = some v') : Silent v v' := by
  obtain ⟨ref, space, member, -, -, -, rfl⟩ := updateMember_eq h
  exact .trans (.of_eq rfl) (broadcast_silent _ _ rfl)

/-- By induction on the updates, all of them of connected producers. -/
theorem hears_silent (heard : List (Out Publisher))
    (h : ∀ uuid update, .spaceUpdate uuid update ∈ heard →
      ∃ m, update = .producerConnectedEvent m) :
    ∀ v : Server, Silent v (heard.foldl System.hears v) := by
  induction heard with
  | nil => exact fun v => .refl v
  | cons o heard ih =>
      intro v
      have hrest := ih fun uuid update hin =>
        h uuid update (List.mem_cons_of_mem o hin)
      refine Silent.trans ?_ (hrest _)
      cases o with
      | spaceUpdate uuid update =>
          obtain ⟨m, rfl⟩ := h uuid update List.mem_cons_self
          show Silent v (v.onSpaceUpdate uuid (.producerConnectedEvent m))
          unfold onSpaceUpdate
          dsimp only
          split
          · cases hu : v.updateMember m ⟨none, some true⟩ with
            | none => exact .refl v
            | some v' => exact updateMember_silent hu
          · exact .refl v
      | _ => exact .refl v

/-- Nor does a space that has been prepared. -/
theorem onSpacePrepared_silent (v : Server) (session : SessionId)
    (uuid : Uuid) (clientSideSpace : ClientSideSpace) (caps : Json) :
    Silent v (v.onSpacePrepared session uuid clientSideSpace caps) := by
  rw [onSpacePrepared_eq]
  refine Silent.trans ?_ (modify_silent _ session fun _ => rfl)
  split
  · exact .refl v
  · exact .of_eq (mirror_sessions uuid clientSideSpace caps v).1

theorem onMemberPrepared_silent (v : Server) (session : SessionId)
    (uuid : Uuid) (data : MemberData) (state : MemberState)
    (id : MemberId) :
    Silent v (v.onMemberPrepared session uuid data state id) := by
  unfold onMemberPrepared
  dsimp only
  refine Silent.trans ?_ (modify_silent _ session fun _ => rfl)
  split
  · exact .refl v
  · split
    · exact .refl v
    · exact .trans (.of_eq rfl) (broadcast_silent _ _ rfl)

/-- Nor does a member who is deleted. -/
theorem onMemberDeleted_silent (v : Server) (serverId : ServerId)
    (memberId : MemberId) :
    Silent v (v.onMemberDeleted serverId memberId).1 := by
  cases href : v.members.get? memberId with
  | none =>
      unfold onMemberDeleted
      rw [href]
      exact .refl v
  | some ref =>
      rw [onMemberDeleted_eq serverId href]
      exact .trans (.of_eq (v.removeMember_eq memberId).1)
        (broadcast_silent _ _ rfl)

theorem reject_silent (v : Server) (session : SessionId) (error : String) :
    Silent v (v.reject session error) := by
  refine modify_silent v session fun x => ?_
  split
  · rfl
  · rfl
  · rfl

/-- **A server function sends no transport parameters.** -/
theorem call_silent (hfresh : v.sessions.get? v.sessionIdGen = none)
    {serverId : ServerId} {a : SystemAction} {p : Server × Option Request}
    (hc : System.ServerCall serverId v a p) : Silent v p.1 := by
  -- each of these events is no params
  have hone : ∀ {l : List ServerToClientEvent} {e : ServerToClientEvent},
      e.isParams = false → ∃ l', l ++ [e] = l ++ l' ∧
        ∀ e ∈ l', e.isParams = false := by
    intro l e he
    refine ⟨[e], rfl, fun e' hin => ?_⟩
    rw [List.mem_singleton.mp hin, he]
  -- by the call: it emits other events, or nothing
  cases hc with
  | connect auth =>
      obtain ⟨result, table, heq, hget, -⟩ := v.start_eq serverId auth
      rw [heq]
      intro session
      refine ⟨[], ?_, fun _ he => absurd he List.not_mem_nil⟩
      show ((table.get? session).map Session.emitted).getD [] = _
      rw [hget, List.append_nil]
      split
      · rename_i hs
        rw [emittedOn, hs, hfresh]
        rfl
      · rfl
  -- a session that goes on hears an outcome or the snapshot
  | @resume session x _ hx hres =>
      cases resumes_of_resume hx hres with
      | rejected _ hputs => exact hputs.silent rfl hx (hone rfl)
      | spacePrepared _ _ hputs => exact hputs.silent rfl hx (hone rfl)
      | spaceGone _ _ hputs => exact hputs.silent rfl hx (hone rfl)
      | unmirrored _ _ hputs => exact hputs.silent rfl hx (hone rfl)
      | joined _ _ hputs => exact hputs.silent (by rfl) hx (hone rfl)
  | @close session x hx _ =>
      have hnil : ∃ l, x.emitted = x.emitted ++ l ∧
          ∀ e ∈ l, e.isParams = false :=
        ⟨[], (List.append_nil _).symm, fun _ he => absurd he List.not_mem_nil⟩
      cases hid : x.memberId with
      | none =>
          exact (close_eq_none serverId hx hid).1.silent rfl hx hnil
      | some memberId =>
          exact (close_eq_some serverId hx hid).1.silent (by rfl) hx hnil
  -- the ack follows the broadcast of the new state
  | @updateMemberState session x memberId newState cId _ _ _ =>
      unfold updateMemberState
      refine Silent.trans ?_ (emit_silent _ session rfl)
      cases hu : v.updateMember memberId newState with
      | none => exact .refl v
      | some v' => exact updateMember_silent hu
  | forward => exact .refl v

end Server

namespace System

/-! ## §2. Where transport parameters come from. -/

/-- Request `b` is the ack of transport `id`, for which the coordinator
names `source` to the servers of `uuid`. -/
structure Acks (c : Coord Publisher) (b : Request) (id : TransportId)
    (T : Transport) (source : Option MemberId) (uuid : Uuid)
    (options : Json) : Prop where
  action : b = .transportAck id options
  requested : id ∈ c.transportRequests.keys
  stored : c.transportHeap.get? id = some T
  source : c.consumesFromMember T = some source
  space : c.routerOwner T.owningRouter = some uuid

/-- The update an ack is announced with. -/
def paramsUpdate (T : Transport) (source : Option MemberId)
    (options : Json) : SpaceUpdateC :=
  .transportParamsEvent T.owningMember source options

/-- What a move may do to a server, as far as transport parameters go. -/
inductive Sends (c : Coord Publisher) (b : Request) (v : Server) :
    Server → Prop
  | silent {v' : Server} (h : v.Silent v') : Sends c b v v'
  | params {id : TransportId} {T : Transport} {source : Option MemberId}
      {uuid : Uuid} {options : Json} (h : Acks c b id T source uuid options) :
      Sends c b v (v.onSpaceUpdate uuid (paramsUpdate T source options))

variable {G : Guard System SystemAction (Out Publisher)} {s s' : System}
  {b : Request} {reqs later : List Request}

/-- **A move sends transport parameters only when it is the ack of a
transport**, and then to the channel of its owner. -/
theorem Move.params (hpoint : Point G s later) (hm : Move s b s' reqs)
    (ha : s.base.act b = some s'.coordinator) {S : ServerId} {v' : Server}
    (hv' : s'.servers.get? S = some v') :
    ∃ v, s.servers.get? S = some v ∧ Sends s.coordinator b v v' := by
  have hannounced := announcement_act hpoint.baseWF rfl ha
  have hsame : s'.servers = s.servers →
      ∃ v, s.servers.get? S = some v ∧ Sends s.coordinator b v v' := by
    intro hv
    rw [hv] at hv'
    exact ⟨v', hv', .silent (.refl v')⟩
  have hmodify : ∀ {S' : ServerId} {f : Server → Server},
      s'.servers = s.servers.modify S' f →
      (∀ v : Server, v.Silent (f v)) →
      ∃ v, s.servers.get? S = some v ∧ Sends s.coordinator b v v' := by
    intro S' f hv hf
    rw [hv] at hv'
    rcases JsMap.get?_modify_cases hv' with ⟨rfl, v, hget, rfl⟩ | ⟨-, hget⟩
    · exact ⟨v, hget, .silent (hf v)⟩
    · exact ⟨v', hget, .silent (.refl v')⟩
  -- what is heard is of connected producers, unless a transport is acked
  have hheard : ∀ {d : Coord Publisher} {asked answered}
      {heard heard' : List (Out Publisher)},
      Turn d s'.coordinator asked answered heard' → d.out = [] →
      (∀ o ∈ heard, o ∈ heard') →
      (∀ id options, b ≠ .transportAck id options) →
      ∀ v : Server, v.Silent (heard.foldl hears v) := by
    intro d asked answered heard heard' hturn hout hsub hb
    refine Server.hears_silent heard fun uuid update hin => ?_
    cases announced_of_heard hturn hout hannounced (hsub _ hin) with
    | params => exact absurd rfl (hb _ _)
    | connected => exact ⟨_, rfl⟩
  cases hm with
  | quiet _ _ hv | asked _ _ _ _ hv | forwarded _ _ hv | unsubscribing _ hv
  | abandoned _ hv | updateNacked _ _ hv => exact hsame hv
  | rejected _ _ hv => exact hmodify hv fun v => v.reject_silent _ _
  | removed _ _ _ hv => exact hmodify hv fun v => v.onMemberDeleted_silent _ _
  | subscribed _ _ _ _ hv =>
      exact hmodify hv fun v => v.onSpacePrepared_silent _ _ _ _
  | unsubscribed _ _ hv => exact hmodify hv fun v => Server.Silent.of_eq rfl
  | added _ _ _ _ hv =>
      exact hmodify hv fun v => v.onMemberPrepared_silent _ _ _ _ _
  | @announced _ _ heard _ _ hturn hv =>
      rw [hv, announce, JsMap.get?_mapVal] at hv'
      obtain ⟨v, hget, rfl⟩ := Option.map_eq_some_iff.mp hv'
      refine ⟨v, hget, ?_⟩
      by_cases hb : ∃ id options, b = .transportAck id options
      · obtain ⟨id, options, rfl⟩ := hb
        obtain ⟨T, hreq, hT, hout⟩ := heard_transportAck hpoint.baseWF rfl ha
        have heq := hturn.heard
        rw [show s.base.out = [] from rfl, List.filter_nil, List.nil_append,
          hout] at heq
        rw [← heq]
        cases hs : s.base.consumesFromMember T with
        | none => exact .silent (.refl v)
        | some source =>
            dsimp only
            unfold Coord.paramsEvents
            cases hu : s.base.routerOwner T.owningRouter with
            | none => exact .silent (.refl v)
            | some uuid =>
                dsimp only
                split
                · exact .params ⟨rfl, hreq, hT, hs, hu⟩
                · exact .silent (.refl v)
      · exact .silent (hheard hturn rfl (fun _ ho => ho)
          (fun id options h => hb ⟨id, options, h⟩) v)
  | @updated _ _ _ r serverId session event cId resp heard _ hcb _ hturn hv =>
      rw [hv, announce, JsMap.get?_mapVal] at hv'
      obtain ⟨v₁, hget, rfl⟩ := Option.map_eq_some_iff.mp hv'
      have hb : ∀ id options, b ≠ .transportAck id options := by
        rintro id options rfl
        obtain ⟨T, -, -, hout⟩ := heard_transportAck hpoint.baseWF rfl ha
        have hin : .ack r.cb resp ∈ s'.coordinator.out.filter Out.heard := by
          rw [hturn.heard]
          exact List.mem_append_right _ List.mem_cons_self
        rw [hout] at hin
        split at hin
        · cases hin
        · unfold Coord.paramsEvents at hin
          split at hin
          · cases hin
          · split at hin
            · cases List.mem_singleton.mp hin
            · cases hin
      have hsilent := hheard hturn rfl
        (fun _ ho => List.mem_cons_of_mem _ ho) hb v₁
      split at hget
      · exact ⟨v₁, hget, .silent hsilent⟩
      · rename_i e he
        have hno : e.isParams = false := by
          have hkind := kind_ackEvent he
          cases e <;> first | rfl | cases hkind
        rcases JsMap.get?_modify_cases hget with ⟨rfl, v, hv, rfl⟩ | ⟨-, hv⟩
        · exact ⟨v, hv, .silent ((v.emit_silent session hno).trans hsilent)⟩
        · exact ⟨v₁, hv, .silent hsilent⟩

/-! ## §3. What they decode to. -/

/-- The client of member `c`, in view `w`, takes `memberId` for what
transport `id` is. -/
structure Decodes (coord : Coord Publisher) (c : MemberId)
    (id : TransportId) (memberId : MemberId) (w : Web.Space) : Prop where
  /-- The transport is the member's own; what it consumes from is the
  producer of the member named. -/
  owned : ∃ T, coord.transportHeap.get? id = some T ∧ T.owningMember = c ∧
    (memberId ≠ c → ∃ p, T.consumesFromTransportId = some p ∧
      coord.producerOf memberId = some p)
  own : memberId = c ↔ coord.producerOf c = some id
  self : w.producerMemberId = some c
  /-- Another member has been announced, and has not left since. -/
  announced : memberId ≠ c → w.consumerMembers.has memberId = true

/-- A client that can decode its params knows whose they are. -/
theorem Decodes.knows {coord : Coord Publisher} {c memberId : MemberId}
    {id : TransportId} {w : Web.Space}
    (h : Decodes coord c id memberId w) : w.Knows memberId := by
  by_cases heq : memberId = c
  · left
    rw [heq]
    exact h.self
  · right
    exact h.announced heq

/-- There is at most one server. -/
def Single (s : System) : Prop :=
  ∀ S S' v v', s.servers.get? S = some v → s.servers.get? S' = some v' →
    S = S'

/-- With one server, everybody in the space of a registered channel is in
its mirror. -/
theorem Point.mirrors_member (h : Point removesUnattended s later)
    (hone : s.Single) {S : ServerId} {v : Server}
    (hv : s.servers.get? S = some v) {c m : MemberId} {session : SessionId}
    {x : Session} {ref : SpaceRef} (hcur : v.Current c session x ref)
    (hm : m ∈ s.coordinator.members.keys)
    (hspace : s.coordinator.spaceOf m = s.coordinator.spaceOf c) :
    m ∈ v.membersOf ref := by
  have hchannels := h.channels hv
  obtain ⟨y, hy, -, hid⟩ := hchannels.registered c session hcur.registered
  rw [hcur.session] at hy
  cases hy
  have hc := (h.sound hv).owner _ _ _
    (held_of_memberId hchannels hcur.session hid)
  -- the member was given to a session of this server
  obtain ⟨S', session', uuid, hholds⟩ := h.owned m hm
  obtain ⟨v', hv', hheld⟩ := Option.bind_eq_some_iff.mp hholds
  obtain rfl := hone S' S v' v hv' hv
  rw [hv] at hv'
  cases hv'
  have hu := (h.sound hv).owner _ _ _ hheld
  obtain rfl : uuid = x.auth.spaceUuid := by
    rw [hspace, hc] at hu
    exact (Option.some.inj hu).symm
  have hin := ((coordWF_reachable h.reachable).member.mem _ m).mpr ⟨hm, hu⟩
  exact (h.present _ v hv).mirrored session' x.auth.spaceUuid m ref hheld hin
    hcur.stored

/-- **What the ack of a transport says decodes**, on the channel of its
owner. -/
theorem Point.decodes (h : Point removesUnattended s later) (hone : s.Single)
    {S : ServerId} {v : Server} (hv : s.servers.get? S = some v)
    {id : TransportId} {T : Transport} {source : Option MemberId}
    {uuid : Uuid} {options : Json}
    (hack : Acks s.coordinator b id T source uuid options)
    {session : SessionId} {x : Session}
    (hx : Registers v T.owningMember session x) (data : MemberData)
    (isMuted : Bool) :
    Decodes s.coordinator T.owningMember id
      (source.getD T.owningMember) (x.view data isMuted) := by
  have hwf := coordWF_reachable h.reachable
  obtain ⟨ref, hcur⟩ := h.current hv hx
  obtain ⟨space, hspace, hshows⟩ := h.viewed S v hv _ _ _ ref hcur data
    isMuted
  cases source with
  | none =>
      have hnone := producer_of_unsourced hack.source
      have hprod := hwf.transport.isProducer id T hack.stored hnone
      refine ⟨⟨T, hack.stored, rfl, fun hne => absurd rfl hne⟩, ?_,
        hshows.self, fun hne => absurd rfl hne⟩
      exact ⟨fun _ => hprod, fun _ => rfl⟩
  | some m =>
      obtain ⟨hne, hm, hsame, p, hsource, hprod⟩ := source_member hwf
        (producing_reachable h.reachable) hack.stored hack.source
      refine ⟨⟨T, hack.stored, rfl, fun _ => ⟨p, hsource, hprod⟩⟩, ?_,
        hshows.self, fun _ => ?_⟩
      · refine ⟨fun heq => absurd heq hne, fun hp => ?_⟩
        -- a transport with a source is nobody's producer
        obtain ⟨M, hM, -⟩ := Option.bind_eq_some_iff.mp hp
        obtain ⟨q, P, hq, hP, -, hnone⟩ := hwf.transport.producer
          T.owningMember M.owningSpace (by rw [Coord.spaceOf, hM]; rfl)
        rw [hp] at hq
        cases hq
        rw [hack.stored] at hP
        cases hP
        rw [hnone] at hsource
        cases hsource
      · refine (hshows.has_iff hne).mpr ?_
        obtain ⟨space', hspace', hin⟩ := Server.mem_membersOf.mp
          (h.mirrors_member hone hv hcur hm hsame)
        rw [hspace] at hspace'
        cases hspace'
        exact hin

/-! ## §4. The news of a step. -/

/-- A channel has carried what it had carried in `old`, and what transport
parameters came in addition came with `a` and decode. -/
structure News (coord : Coord Publisher) (a : SystemAction)
    (old : List ServerToClientEvent) (x : Session) : Prop where
  kept : old <+: x.emitted
  decodes : ∀ i memberId options, old.length ≤ i →
    x.emitted[i]? = some (.transportParams memberId options) →
    ∃ id c, a = .coordinator (.transportAck id options) ∧
      x.memberId = some c ∧ ∀ data isMuted,
        Decodes coord c id memberId ((Web.Space.initial data
          isMuted).receiveAll (x.emitted.take i))

section News

variable {coord : Coord Publisher} {a : SystemAction}
  {old : List ServerToClientEvent} {x x' : Session}

/-- A channel that carried other events only has no news. -/
theorem News.of_silent {l : List ServerToClientEvent}
    (hx : x.emitted = old ++ l) (hl : ∀ e ∈ l, e.isParams = false) :
    News coord a old x where
  kept := ⟨l, hx.symm⟩
  decodes i memberId options hi he := by
    rw [hx, List.getElem?_append_right hi] at he
    have hno := hl _ (List.mem_of_getElem? he)
    cases hno

/-- Other events after the news leave it the last. -/
theorem News.silent (h : News coord a old x)
    {l : List ServerToClientEvent} (hx : x'.emitted = x.emitted ++ l)
    (hl : ∀ e ∈ l, e.isParams = false) (hid : x'.memberId = x.memberId) :
    News coord a old x' where
  kept := by
    rw [hx]
    exact h.kept.trans (List.prefix_append _ _)
  decodes i memberId options hi he := by
    rw [hx] at he ⊢
    rw [hid]
    by_cases hlt : i < x.emitted.length
    · rw [List.getElem?_append_left hlt] at he
      rw [List.take_append_of_le_length (Nat.le_of_lt hlt)]
      exact h.decodes i memberId options hi he
    · rw [List.getElem?_append_right (Nat.le_of_not_lt hlt)] at he
      have hno := hl _ (List.mem_of_getElem? he)
      cases hno

/-- One event is all the news there is. -/
theorem News.one {id : TransportId} {c memberId : MemberId}
    {options : Json} (ha : a = .coordinator (.transportAck id options))
    (hid : x.memberId = some c)
    (hdecodes : ∀ data isMuted, Decodes coord c id memberId
      ((Web.Space.initial data isMuted).receiveAll old))
    (hx : x.emitted = old ++ [.transportParams memberId options]) :
    News coord a old x where
  kept := ⟨_, hx.symm⟩
  decodes i memberId' options' hi he := by
    rw [hx, List.getElem?_append_right hi] at he
    obtain ⟨hlt, heq⟩ := List.getElem?_eq_some_iff.mp he
    have hzero : i - old.length = 0 := by
      have hlt : i - old.length < 1 := hlt
      omega
    have hlen : i = old.length := by omega
    simp only [hzero, List.getElem_cons_zero] at heq
    cases heq
    refine ⟨id, c, ha, hid, ?_⟩
    rw [hx, hlen, List.take_left]
    exact hdecodes

end News

/-- What the channels have carried since `s`. -/
def Newer (s : System) (a : SystemAction) (s₁ : System) : Prop :=
  ∀ S v, s₁.servers.get? S = some v → ∀ session x,
    v.sessions.get? session = some x →
    News s.coordinator a
      (((s.servers.get? S).map fun v => v.emittedOn session).getD []) x

/-- Nothing has been carried since `s`. -/
theorem newer_self (s : System) (a : SystemAction) : Newer s a s := by
  intro S v hv session x hx
  rw [hv, Option.map_some, Option.getD_some, Server.emittedOn_of_get? hx]
  exact .of_silent (List.append_nil _).symm
    fun _ he => absurd he List.not_mem_nil

/-- What a session has carried in addition. -/
theorem emitted_of_silent {v v' : Server} (h : v.Silent v')
    {session : SessionId} {x' : Session}
    (hx' : v'.sessions.get? session = some x') :
    ∃ l, x'.emitted = v.emittedOn session ++ l ∧
      ∀ e ∈ l, e.isParams = false := by
  obtain ⟨l, hl, hno⟩ := h session
  rw [Server.emittedOn_of_get? hx'] at hl
  exact ⟨l, hl, hno⟩

/-- **One move of the coordinator** carries params only as news. -/
theorem Move.newer (hpoint : Point removesUnattended s later)
    (hone : s.Single) (hm : Move s b s' reqs)
    (ha : s.base.act b = some s'.coordinator) :
    Newer s (.coordinator b) s' := by
  intro S v' hv' session x' hx'
  obtain ⟨v, hv, hsends⟩ := hm.params hpoint ha hv'
  rw [hv, Option.map_some, Option.getD_some]
  cases hsends with
  | silent h =>
      obtain ⟨l, hl, hno⟩ := emitted_of_silent h hx'
      exact .of_silent hl hno
  | @params id T source uuid options hack =>
      have hsame : v.sessions.get? session = some x' →
          News s.coordinator (.coordinator b) (v.emittedOn session) x' := by
        intro hx
        rw [Server.emittedOn_of_get? hx]
        exact .of_silent (List.append_nil _).symm
          fun _ he => absurd he List.not_mem_nil
      unfold paramsUpdate Server.onSpaceUpdate at hx'
      dsimp only at hx'
      split at hx'
      · unfold Server.emitTo at hx'
        split at hx'
        · exact hsame hx'
        · rename_i session' hreg
          rw [Server.emit_get] at hx'
          obtain ⟨x, hx, rfl⟩ := Option.map_eq_some_iff.mp hx'
          by_cases heq : session = session'
          · subst heq
            obtain ⟨y, hy, -, hid⟩ := (hpoint.channels hv).registered _ _
              hreg
            rw [hx] at hy
            cases hy
            rw [Server.emittedOn_of_get? hx, if_pos rfl]
            refine .one (congrArg _ hack.action) hid (fun data isMuted => ?_)
              rfl
            exact hpoint.decodes hone hv hack ⟨hreg, hx⟩ data isMuted
          · rw [if_neg heq, Server.emittedOn_of_get? hx]
            exact .of_silent rfl fun _ he => absurd he List.not_mem_nil
      · exact hsame hx'

/-- A move of a published request adds other events only. -/
theorem Newer.published {s₀ : System} {a : SystemAction}
    (h : Newer s₀ a s) (hpoint : Point removesUnattended s later)
    (hready : Ready s true b) (hm : Move s b s' reqs)
    (ha : s.base.act b = some s'.coordinator) : Newer s₀ a s' := by
  intro S v' hv' session x' hx'
  obtain ⟨v, hv, hsends⟩ := hm.params hpoint ha hv'
  cases hsends with
  | params hack =>
      obtain rfl := hack.action
      cases hready
  | silent hsilent =>
      obtain ⟨u, hu, hcall⟩ := hm.callback hready hv'
      rw [hv] at hu
      cases hu
      have hkeeps := Server.callback_keeps
        (hpoint.channels hv).registered hcall
      obtain ⟨x, hx, hxy⟩ := hkeeps.before hx'
      obtain ⟨l, hl, hno⟩ := emitted_of_silent hsilent hx'
      rw [Server.emittedOn_of_get? hx] at hl
      exact (h S v hv session x hx).silent hl hno hxy.memberId

/-- A server function adds other events only. -/
theorem newer_called {S : ServerId} {v : Server} {a : SystemAction}
    {p : Server × Option Request} (hL : Linked s)
    (hv : s.servers.get? S = some v) (hc : ServerCall S v a p) :
    Newer s a { s with servers := s.servers.set S p.1 } := by
  refine JsMap.forall_set (newer_self s a) ?_
  intro session x hx
  rw [hv, Option.map_some, Option.getD_some]
  have hsilent := Server.call_silent (hL.next_session hv) hc
  obtain ⟨l, hl, hno⟩ := emitted_of_silent hsilent hx
  exact .of_silent hl hno

/-! ## §5. Runs with one server. -/

/-- No second server starts. -/
def startsAlone : Guard System SystemAction (Out Publisher) :=
  fun _ s a => match a with
  | .startServer _ => s.servers.size = 0
  | _ => True

/-- One server, which removes no mirror of which channels are registered. -/
def oneServer : Guard System SystemAction (Out Publisher) :=
  fun tr s a => startsAlone tr s a ∧ removesUnattended tr s a

instance (tr : List (Out Publisher)) (s : System) (a : SystemAction) :
    Decidable (startsAlone tr s a) := by
  unfold startsAlone
  split <;> infer_instance

/-- A move starts no server. -/
theorem Move.single (hm : Move s b s' reqs) (h : s.Single) : s'.Single := by
  have hsome : ∀ {S v}, s'.servers.get? S = some v →
      ∃ u, s.servers.get? S = some u := by
    intro S v hv
    have hserves := hm.serves S
    rw [hv] at hserves
    exact Option.isSome_iff_exists.mp hserves.symm
  intro S S' v v' hv hv'
  obtain ⟨u, hu⟩ := hsome hv
  obtain ⟨u', hu'⟩ := hsome hv'
  exact h S S' u u' hu hu'

/-- A point of a run with one server. -/
def AtOne (s : System) (reqs : List Request) : Prop :=
  Point removesUnattended s reqs ∧ s.Single

/-- What a step of such a run adds to the channels came with its action. -/
theorem AtOne.closed (s : System) (a : SystemAction) :
    Closed (fun tr s₁ a₁ => oneServer tr s₁ a₁ ∧ s₁ = s ∧ a₁ = a)
      fun s₁ reqs => AtOne s₁ reqs ∧ Newer s a s₁ where
  linked h := h.1.1.linked
  reachable h := h.1.1.reachable
  flushed out h := ⟨⟨h.1.1.flushed out, h.1.2⟩, h.2⟩
  started := by
    intro tr s₁ S h hg hn
    refine ⟨⟨h.1.1.started hn, ?_⟩, ?_⟩
    · -- there was no server before
      have hempty : ∀ S v, s₁.servers.get? S ≠ some v := by
        intro S v hv
        have hsize : s₁.servers.size = 0 := hg.1.1
        have hin := JsMap.mem_keys_of_get? hv
        rw [JsMap.keys, List.eq_nil_of_length_eq_zero hsize] at hin
        cases hin
      intro S' S'' v v' hv hv'
      rw [JsMap.get?_set] at hv hv'
      split at hv
      · rename_i heq
        split at hv'
        · rename_i heq'
          rw [heq, heq']
        · exact absurd hv' (hempty S'' v')
      · exact absurd hv (hempty S' v)
    -- a new server has no channel
    · refine JsMap.forall_set h.2 ?_
      intro _ _ hx
      cases hx
  -- a call is made to the one server there is
  called := by
    intro tr s₁ S v b p h hg hv hc
    obtain ⟨hg, rfl, rfl⟩ := hg
    refine ⟨⟨h.1.1.called hg.2 hv hc, ?_⟩, newer_called h.1.1.linked hv hc⟩
    have hold : ∀ {S' u}, (s₁.servers.set S p.1).get? S' = some u →
        ∃ u', s₁.servers.get? S' = some u' := by
      intro S' u hu
      rw [JsMap.get?_set] at hu
      split at hu
      · rename_i heq
        exact ⟨v, heq ▸ hv⟩
      · exact ⟨u, hu⟩
    intro S' S'' u u' hu hu'
    obtain ⟨w, hw⟩ := hold hu
    obtain ⟨w', hw'⟩ := hold hu'
    exact h.1.2 S' S'' w w' hw hw'
  -- what is published adds no server
  published h hready hm ha :=
    ⟨⟨h.1.1.published hready hm ha, hm.single h.1.2⟩,
      h.2.published h.1.1 hready hm ha⟩
  -- nor does what the coordinator does on its own
  coordinated := by
    intro tr s₁ s' b reqs h hg hready hm ha
    obtain ⟨hg, rfl, rfl⟩ := hg
    exact ⟨⟨h.1.1.coordinated hg.2 hready hm ha, hm.single h.1.2⟩,
      hm.newer h.1.1 h.1.2 ha⟩

/-- **A step** keeps one server at work, and what channels carry in addition is
news of its action. -/
theorem AtOne.step {a : SystemAction} {tr obs : List (Out Publisher)}
    (h : AtOne s []) (hg : oneServer tr s a)
    (hs : machine.step s a = some (s', obs)) :
    AtOne s' [] ∧ Newer s a s' :=
  (AtOne.closed s a).step ⟨h, newer_self s a⟩ ⟨hg, rfl, rfl⟩ hs

/-- A client knows the member of all the transport parameters that its
channel has carried. -/
def Heeds (x : Session) : Prop :=
  ∀ i memberId options,
    x.emitted[i]? = some (.transportParams memberId options) →
    ∀ data isMuted, ((Web.Space.initial data isMuted).receiveAll
      (x.emitted.take i)).Knows memberId

/-- In every such run clients know the members of all params their channel
carried. By induction on the run. -/
theorem Run.heeds {past : List System} {tr : List (Out Publisher)}
    (h : machine.Run oneServer past s tr) :
    AtOne s [] ∧ ∀ S v, s.servers.get? S = some v → ∀ session x,
      v.sessions.get? session = some x → Heeds x := by
  induction h with
  | init h =>
      cases h
      exact ⟨⟨.initial, fun _ _ _ _ hv => nomatch hv⟩,
        fun _ _ hv => nomatch hv⟩
  | @step past s s' tr obs a _ hg hs ih =>
      obtain ⟨hone, hheeds⟩ := ih
      obtain ⟨hone', hnewer⟩ := hone.step hg hs
      refine ⟨hone', fun S v' hv' session x' hx' => ?_⟩
      have hnews := hnewer S v' hv' session x' hx'
      generalize hold : ((s.servers.get? S).map fun v =>
        v.emittedOn session).getD [] = old at hnews
      intro i memberId options he data isMuted
      by_cases hi : old.length ≤ i
      · obtain ⟨id, c, -, -, hdecodes⟩ := hnews.decodes i memberId options hi
          he
        exact (hdecodes data isMuted).knows
      · -- carried before the step
        obtain ⟨l, hl⟩ := hnews.kept
        have hlt := Nat.lt_of_not_le hi
        rw [← hl, List.getElem?_append_left hlt] at he
        rw [← hl, List.take_append_of_le_length (Nat.le_of_lt hlt)]
        cases hv : s.servers.get? S with
        | none =>
            rw [hv] at hold
            rw [← hold] at he
            cases he
        | some v =>
            rw [hv, Option.map_some, Option.getD_some] at hold
            cases hx : v.sessions.get? session with
            | none =>
                rw [Server.emittedOn, hx] at hold
                rw [← hold] at he
                cases he
            | some x =>
                rw [Server.emittedOn_of_get? hx] at hold
                rw [← hold] at he ⊢
                exact hheeds S v hv session x hx i memberId options he data
                  isMuted

/-- Every client knows whom its channel spoke of. -/
theorem Run.unwarned {past : List System} {tr : List (Out Publisher)}
    (h : machine.Run oneServer past s tr) {S : ServerId}
    {session : SessionId} {x : Session}
    (hx : s.sessionOf S session = some x) (data : MemberData)
    (isMuted : Bool) (m : MemberId) :
    .transportParams m ∉ (x.view data isMuted).warnings := by
  obtain ⟨v, hv, hget⟩ := Option.bind_eq_some_iff.mp hx
  obtain ⟨-, hheeds⟩ := Run.heeds h
  intro hin
  have hnone := Web.Space.receiveAll_params_warning
    (Web.Space.initial data isMuted) x.emitted
    (fun i memberId options he => hheeds S v hv session x hget i memberId
      options he data isMuted) hin
  cases hnone

/-- **The news of a step decode**, and no client ever warns of an unknown
member. -/
theorem Run.decodes {past : List System} {a : SystemAction}
    {tr obs : List (Out Publisher)} (h : machine.Run oneServer past s tr)
    (hg : oneServer tr s a) (hs : machine.step s a = some (s', obs))
    {S : ServerId} {session : SessionId} {x' : Session}
    (hx' : s'.sessionOf S session = some x') :
    (∀ i memberId options,
      (∀ x, s.sessionOf S session = some x → x.emitted.length ≤ i) →
      x'.emitted[i]? = some (.transportParams memberId options) →
      ∃ id c, a = .coordinator (.transportAck id options) ∧
        x'.memberId = some c ∧ ∀ data isMuted,
          Decodes s.coordinator c id memberId
            ((Web.Space.initial data isMuted).receiveAll
              (x'.emitted.take i))) ∧
      ∀ data isMuted m,
        .transportParams m ∉ (x'.view data isMuted).warnings := by
  obtain ⟨v', hv', hget⟩ := Option.bind_eq_some_iff.mp hx'
  obtain ⟨hone, -⟩ := Run.heeds h
  obtain ⟨-, hnewer⟩ := hone.step hg hs
  refine ⟨fun i memberId options hi he => ?_,
    fun data isMuted => Run.unwarned (h.step hg hs) hx' data isMuted⟩
  refine (hnewer S v' hv' session x' hget).decodes i memberId options ?_ he
  cases hv : s.servers.get? S with
  | none => exact Nat.zero_le i
  | some v =>
      rw [Option.map_some, Option.getD_some]
      cases hx : v.sessions.get? session with
      | none =>
          rw [Server.emittedOn, hx]
          exact Nat.zero_le i
      | some x =>
          rw [Server.emittedOn_of_get? hx]
          exact hi x (Option.bind_eq_some_iff.mpr ⟨v, hv, hx⟩)

end System

/-- **Transport parameters are decoded as they were encoded.**  In every run
of the event loop with one server: whatever transport parameters the channel
of a session carries after a step that it had not carried before (from
position `i` on) come with the ack of a transport of its member, and its
client, in the view it has then, takes them for that; so no client ever
warns of an unknown member. -/
theorem params_decoded {past : List (Queued System Continuation)}
    {q q' : Queued System Continuation} {tr obs : List (Out Publisher)}
    {a : LoopAction SystemAction Continuation}
    (h : eventLoop.Run (EventLoop.guarded System.startsAlone) past q tr)
    (hg : EventLoop.guarded System.startsAlone tr q a)
    (hs : eventLoop.step q a = some (q', obs)) {S : ServerId}
    {session : SessionId} {x' : Session}
    (hx' : q'.state.sessionOf S session = some x') :
    (∀ i memberId options,
      (∀ x, q.state.sessionOf S session = some x → x.emitted.length ≤ i) →
      x'.emitted[i]? = some (.transportParams memberId options) →
      ∃ id c new, a = .outside (.coordinator (.transportAck id options)) new ∧
        x'.memberId = some c ∧ ∀ data isMuted,
          System.Decodes q.state.coordinator c id memberId
            ((Web.Space.initial data isMuted).receiveAll
              (x'.emitted.take i))) ∧
      ∀ data isMuted m,
        .transportParams m ∉ (x'.view data isMuted).warnings := by
  obtain ⟨hI, past', hrun⟩ := Loop.unattended h
  have hsteps := EventLoop.step_cases hs
  cases hsteps with
  | @outside b new _ _ hr hb hq =>
      obtain ⟨hnews, hwarn⟩ :=
        System.Run.decodes hrun ⟨hg, hI.removes tr b⟩ hb hx'
      refine ⟨fun i memberId options hi he => ?_, hwarn⟩
      obtain ⟨id, c, rfl, hid, hdecodes⟩ := hnews i memberId options hi he
      exact ⟨id, c, new, rfl, hid, hdecodes⟩
  | @run b k jobs new _ _ hj hr hb hq =>
      obtain ⟨hnews, hwarn⟩ :=
        System.Run.decodes hrun ⟨hg, hI.removes tr b⟩ hb hx'
      refine ⟨fun i memberId options hi he => ?_, hwarn⟩
      -- a continuation is not the ack of a transport
      obtain ⟨id, c, rfl, -⟩ := hnews i memberId options hi he
      cases hr
  | pass hj =>
      refine ⟨fun i memberId options hi he => ?_,
        System.Run.unwarned hrun hx'⟩
      have hlt := (List.getElem?_eq_some_iff.mp he).1
      exact absurd (hi x' hx') (Nat.not_le_of_lt hlt)

section Two

/-- A continuation that is ready at once. -/
def soon (k : Continuation) : List (Job Continuation) := [⟨k, 0⟩]

/-- `onAddMemberRequest` has its router. -/
def adds (session : SessionId) (name : String) : Continuation :=
  .task (.allocated (.addMember "room" ⟨name⟩ ⟨false, false⟩
    (.prepareMember 1 session "room" ⟨name⟩ ⟨false, false⟩)) (.ok 0))

/-- Ann subscribes for the server. -/
def annSubscribes : Coordinator.AfterTransition Publisher :=
  .subscribe 1 "room" (.prepareSpace 1 0 "room")

/-- `twoMembers`, with the queue. -/
def twoMembersQueued : List (LoopAction SystemAction Continuation) :=
  -- a worker, a space and a server
  [.outside (.coordinator (.mediaWorkerConnected 1)) [],
   .outside (.coordinator (.createSpaceRequest "room" ⟨"Room", ""⟩
     "subscription-driven" .external)) [],
   .outside (.startServer 1) [],
   -- Ann joins, and the router of the space is created
   .outside (.connect 1 ⟨"room", ⟨"Ann"⟩, ⟨false, false⟩⟩) [],
   .outside (.coordinator (.routerAck 0 "caps"))
     (soon (.task (.allocated (.transition "room" annSubscribes) (.ok 0)))),
   .run (.coordinator (.resume 0))
     (soon (.task (.transitioned annSubscribes (.ok ())))),
   .run (.coordinator (.resume 0)) (soon (.session 1 0)),
   .run (.resume 1 0) (soon (adds 0 "Ann")),
   -- the ack of the addition reaches her session one tick later
   .run (.coordinator (.resume 0)) [⟨.member 1 0 "room", 1⟩],
   .pass,
   .run (.resume 1 0) [],
   -- her transport is created while she listens already
   .outside (.coordinator (.transportAck 0 "options"))
     (soon (.task (.producerAllocated 0))),
   .run (.coordinator (.resume 0)) [],
   -- Ben joins the same space, whose router is there
   .outside (.connect 1 ⟨"room", ⟨"Ben"⟩, ⟨false, false⟩⟩)
     (soon (.session 1 1)),
   .run (.resume 1 1) (soon (adds 1 "Ben")),
   .run (.coordinator (.resume 0)) [⟨.member 1 1 "room", 1⟩],
   .pass,
   .run (.resume 1 1) [],
   -- so is his transport
   .outside (.coordinator (.transportAck 1 "options"))
     (soon (.task (.producerAllocated 1))),
   .run (.coordinator (.resume 0)) []]

/-- Ann is allocated a consumer of Ben, and knows him. -/
theorem params_decoded_two : ∃ past q q' tr obs x',
    eventLoop.Run (EventLoop.guarded System.startsAlone) past q tr ∧
    eventLoop.step q (.outside (.coordinator (.transportAck 2 "options")) [])
      = some (q', obs) ∧
    q'.state.sessionOf 1 0 = some x' ∧
    x'.emitted[4]? = some (.transportParams 1 "options") ∧
    ∃ id c, x'.memberId = some c ∧ ∀ data isMuted,
      System.Decodes q.state.coordinator c id 1
        ((Web.Space.initial data isMuted).receiveAll
          (x'.emitted.take 4)) := by
  obtain ⟨past, q, tr, hr, hp⟩ := Machine.Run.exists_of_exec
    (M := eventLoop) (G := EventLoop.guarded System.startsAlone)
    (s := ⟨.initial, []⟩) (l := twoMembersQueued)
    (p := fun r => decide ((∀ x ∈ r.2.1.state.sessionOf 1 0,
        x.emitted.length = 4) ∧
      ∃ t ∈ eventLoop.step r.2.1
          (.outside (.coordinator (.transportAck 2 "options")) []),
        ∃ x ∈ t.1.state.sessionOf 1 0,
          x.emitted[4]?
            = some (ServerToClientEvent.transportParams 1 "options")))
    ⟨rfl, rfl, rfl⟩ (by decide +kernel)
  obtain ⟨hlen, ⟨q', obs⟩, hs, x', hx', he⟩ := of_decide_eq_true hp
  have hg : EventLoop.guarded System.startsAlone tr q
    (.outside (.coordinator (.transportAck 2 "options")) []) := trivial
  obtain ⟨id, c, _, -, hid, hdecodes⟩ := (params_decoded hr hg hs hx').1 4 1
    "options" (fun x hx => Nat.le_of_eq (hlen x hx)) he
  exact ⟨past, q, q', tr, obs, x', hr, hs, hx', he, id, c, hid, hdecodes⟩

end Two

end Twolk.Signaling
