/-
  Twolk.Web.Joining
  ─────────────────
  **THE SPACE PAGE AGAINST THE API.**

  The two requests of the page's effect reach the HTTP server at two
  moments, in either order, with anything happening at the coordinator in
  between.  What the page then shows is put in terms of the coordinator's
  state at these moments.

  Main result: `access_served`.
-/
import Twolk.Web.Access
import Twolk.Http.FrontendFacingHttpServer
import Twolk.Coordinator.Allocation

namespace Twolk.Web.Page

open Twolk.Lib Http Coordinator

/-! ## §1. Responses. -/

/-- `encodeURIComponent` and `new URL` undo each other: the target is parsed
as this path with the uuid as its only parameter. -/
def Targets (env : Env) (pathname : String) (uuid : Uuid)
    (target : String) : Prop :=
  env.newUrl target = some ⟨pathname, [("uuid", uuid)]⟩

/-- The status and the body of the response to `GET target`. -/
def respond (env : Env) (target : String) (c : Coord HttpCallback) :
    List Nat × List (Option Payload) :=
  let w := (handleRequest env ⟨"GET", some target⟩).runUncaught (.initial c)
  (w.res.heads.map Prod.fst, w.res.ends)

/-- `space.status` in JSON. -/
def statusText : SpaceStatus → String
  | .initialized => "initialized"
  | .running => "running"
  | .ended => "ended"

/-- The body as the page reads it. -/
def bodyOf : Payload → Body
  | .space _ status => ⟨.string (statusText status), .undefined⟩
  | .serverUrl url => ⟨.undefined, .string url⟩
  | .error _ | .created _ => ⟨.undefined, .undefined⟩

variable {env : Env} {uuid : Uuid} {target : String} {c : Coord HttpCallback}

/-- After the CORS headers. -/
def headed (env : Env) (c : Coord HttpCallback) : Exchange :=
  { Exchange.initial c with
    res := ⟨[("Access-Control-Allow-Origin", env.allowedOrigin),
      ("Access-Control-Allow-Methods", "GET, POST, OPTIONS"),
      ("Access-Control-Allow-Headers", "Content-Type")], [], []⟩ }

/-- The request is routed by its path. -/
theorem runOn_handleRequest (hv : validHeaderValue env.allowedOrigin = true)
    {url : Url} (ht : env.newUrl target = some url) :
    (handleRequest env ⟨"GET", some target⟩).runOn (.initial c) =
      (if url.pathname = "/space" then handleReadSpace url
      else if url.pathname = "/space/try-join" then handleTryJoinSpace url
      else sendJson 404 (.error "not found")).runOn (headed env c) := by
  unfold handleRequest
  rw [runOn_bind_ok ((runOn_setHeader ⟨rfl, rfl⟩ _ _).trans (if_pos hv)),
    runOn_bind_ok ((runOn_setHeader ⟨rfl, rfl⟩ _ _).trans
      (if_pos (by decide))),
    runOn_bind_ok ((runOn_setHeader ⟨rfl, rfl⟩ _ _).trans
      (if_pos (by decide)))]
  have hparse : (parseUrl env ⟨"GET", some target⟩).runOn (headed env c) =
      (.ok url, headed env c) := by
    have hurl : env.newUrl (Option.getD (some target) "/") = some url := ht
    unfold parseUrl
    dsimp only
    rw [hurl]
    rfl
  show (if "GET" = "OPTIONS" then _ else _ : Handler Unit).runOn _ = _
  rw [if_neg (by decide)]
  refine (runOn_bind_ok hparse).trans ?_
  simp

/-- The consumer answers within `publish`. -/
theorem runOn_publish {consume : Coord HttpCallback → HttpCallback →
      Coord HttpCallback} {onAck : Response → Handler Unit}
    {onNack : String → Handler Unit} :
    (publish consume onAck onNack).runOn (headed env c) =
      (deliver onAck onNack (consume { c with out := [] } ⟨false⟩).out).runOn
        { headed env c with
          coord := consume { c with out := [] } ⟨false⟩ } :=
  rfl

/-- What `GET /space` is answered with. -/
theorem respond_read (hv : validHeaderValue env.allowedOrigin = true)
    (ht : Targets env "/space" uuid target) : respond env target c =
      match c.spaces.get? uuid with
      | none => ([404], [some (.error "space not found")])
      | some space => ([200], [some (.space space.data space.status)]) := by
  have hrun : (handleRequest env ⟨"GET", some target⟩).runOn (.initial c) =
      (handleReadSpace ⟨"/space", [("uuid", uuid)]⟩).runOn (headed env c) :=
    (runOn_handleRequest hv ht).trans rfl
  unfold respond Handler.runUncaught
  rw [hrun]
  have hget : Url.get ⟨"/space", [("uuid", uuid)]⟩ "uuid" = some uuid := rfl
  unfold handleReadSpace
  rw [hget]
  dsimp only
  rw [runOn_publish]
  cases hs : c.spaces.get? uuid with
  | none =>
      have hout : (SpaceService.onReadSpaceRequest { c with out := [] } uuid
          ⟨false⟩).out = [.nack ⟨false⟩ "space not found"] := by
        unfold SpaceService.onReadSpaceRequest
        rw [show ({ c with out := [] } : Coord HttpCallback).spaces.get? uuid =
          none from hs]
        rfl
      rw [hout]
      rfl
  | some space =>
      have hout : (SpaceService.onReadSpaceRequest { c with out := [] } uuid
          ⟨false⟩).out =
            [.ack ⟨false⟩ (.readSpace space.data space.status)] := by
        unfold SpaceService.onReadSpaceRequest
        rw [show ({ c with out := [] } : Coord HttpCallback).spaces.get? uuid =
          some space from hs]
        rfl
      rw [hout]
      rfl

/-- The space is there and has not ended, and a server can be chosen. -/
def Joins (c : Coord HttpCallback) (uuid : Uuid) : Prop :=
  (∃ space, c.spaces.get? uuid = some space ∧ space.status ≠ .ended) ∧
    c.servers ≠ []

/-- A join preflight is acked exactly when the space can be joined. -/
theorem onTryJoinSpaceRequest_answers (c : Coord HttpCallback) (uuid : Uuid) :
    (Joins c uuid ∧ ∃ server ∈ c.servers,
      (onTryJoinSpaceRequest { c with out := [] } uuid ⟨false⟩).out =
        [.ack ⟨false⟩ (.tryJoinSpace server.url)]) ∨
    (¬ Joins c uuid ∧ ∃ message,
      (onTryJoinSpaceRequest { c with out := [] } uuid ⟨false⟩).out =
        [.nack ⟨false⟩ message]) := by
  unfold onTryJoinSpaceRequest
  dsimp only
  cases hs : c.spaces.get? uuid with
  | none =>
      refine .inr ⟨fun h => ?_, _, rfl⟩
      obtain ⟨⟨space, hspace, -⟩, -⟩ := h
      rw [hs] at hspace
      cases hspace
  | some space =>
      dsimp only
      by_cases hended : space.status = .ended
      · rw [if_pos hended]
        refine .inr ⟨fun h => ?_, _, rfl⟩
        obtain ⟨⟨space', hspace, hne⟩, -⟩ := h
        rw [hs] at hspace
        cases hspace
        exact hne hended
      · rw [if_neg hended]
        have hspec := ChannelPreAllocator.allocate_spec { c with out := [] }
        by_cases hnone : c.servers = []
        · rw [if_pos hnone] at hspec
          obtain ⟨e, he⟩ := hspec
          rw [he]
          exact .inr ⟨fun h => h.2 hnone, _, rfl⟩
        · rw [if_neg hnone] at hspec
          obtain ⟨server, hserver, strategy, -, hallocate⟩ := hspec
          rw [hallocate]
          exact .inl ⟨⟨⟨space, hs, hended⟩, hnone⟩, server, hserver, rfl⟩

/-- What `GET /space/try-join` is answered with. -/
theorem respond_tryJoin (hv : validHeaderValue env.allowedOrigin = true)
    (ht : Targets env "/space/try-join" uuid target) :
    (Joins c uuid ∧ ∃ server ∈ c.servers, respond env target c =
      ([200], [some (.serverUrl server.url)])) ∨
    (¬ Joins c uuid ∧ ∃ message, respond env target c =
      ([404], [some (.error message)])) := by
  have hrun : (handleRequest env ⟨"GET", some target⟩).runOn (.initial c) =
      (handleTryJoinSpace ⟨"/space/try-join", [("uuid", uuid)]⟩).runOn
        (headed env c) :=
    (runOn_handleRequest hv ht).trans rfl
  have hget : Url.get ⟨"/space/try-join", [("uuid", uuid)]⟩ "uuid" =
      some uuid := rfl
  unfold respond Handler.runUncaught
  rw [hrun]
  unfold handleTryJoinSpace
  rw [hget]
  dsimp only
  rw [runOn_publish]
  rcases onTryJoinSpaceRequest_answers c uuid with
    ⟨hjoins, server, hserver, hout⟩ | ⟨hnot, message, hout⟩
  · rw [hout]
    exact .inl ⟨hjoins, server, hserver, rfl⟩
  · rw [hout]
    exact .inr ⟨hnot, message, rfl⟩

/-! ## §2. The page. -/

/-- The page has received this response; its body, as far as it has been
read, was read in full. -/
structure Received (response : List Nat × List (Option Payload))
    (res : Option (Settled FetchResponse))
    (body : Option (Settled (Option Body))) : Prop where
  res : ∃ status, response.1 = [status] ∧
    res = some (.fulfilled ⟨status⟩)
  body : ∀ b, body = some b → ∃ payload, response.2 = [some payload] ∧
    b = .fulfilled (some (bodyOf payload))

/-- What the page is to show, and where it is to connect, by what the
coordinator knows when it reads the space, and when it is asked for a
server. -/
inductive Shows (read tryJoin : Coord HttpCallback) (uuid : Uuid) :
    Assignment → Prop
  | missing : read.spaces.get? uuid = none →
      Shows read tryJoin uuid ⟨.missing, none⟩
  | ended {space : Space} : read.spaces.get? uuid = some space →
      space.status = .ended → Shows read tryJoin uuid ⟨.ended, none⟩
  | available {space : Space} {server : ServerEntry} :
      read.spaces.get? uuid = some space → space.status ≠ .ended →
      Joins tryJoin uuid → server ∈ tryJoin.servers →
      Shows read tryJoin uuid ⟨.available, some (.string server.url)⟩
  | error {space : Space} : read.spaces.get? uuid = some space →
      space.status ≠ .ended → ¬ Joins tryJoin uuid →
      Shows read tryJoin uuid ⟨.error, none⟩

theorem statusText_eq_ended {status : SpaceStatus} :
    Field.string (statusText status) = .string "ended" ↔ status = .ended := by
  cases status <;> simp [statusText]

/-- What two responses of the server make the page show. -/
theorem verdict_served (hv : validHeaderValue env.allowedOrigin = true)
    {e : AccessEffect} {spaceTarget joinTarget : String}
    (hspace : Targets env "/space" uuid spaceTarget)
    (hjoin : Targets env "/space/try-join" uuid joinTarget)
    {read tryJoin : Coord HttpCallback}
    (hread : Received (respond env spaceTarget read) e.spaceRes e.spaceBody)
    (htryJoin : Received (respond env joinTarget tryJoin) e.tryJoinRes
      e.tryJoinBody) {x : Assignment} (hx : e.verdict = some x) :
    Shows read tryJoin uuid x := by
  obtain ⟨⟨status, hstatus, hres⟩, hbody⟩ := hread
  obtain ⟨⟨status', hstatus', hres'⟩, hbody'⟩ := htryJoin
  -- both fetches were answered, so the effect goes on to the bodies
  have hfetches : e.fetches = some (.fulfilled (⟨status⟩, ⟨status'⟩)) := by
    unfold AccessEffect.fetches
    rw [hres, hres']
  unfold AccessEffect.verdict at hx
  rw [hfetches] at hx
  dsimp only at hx
  -- the answer of `GET /space` is what the coordinator said of the space
  rw [respond_read hv hspace] at hstatus hbody
  cases hs : read.spaces.get? uuid with
  | none =>
      rw [hs] at hstatus
      cases hstatus
      cases hx
      exact .missing hs
  | some space =>
      rw [hs] at hstatus hbody
      cases hstatus
      rw [if_neg (by decide), if_neg (by decide)] at hx
      unfold AccessEffect.bodyVerdict at hx
      -- the body was read, and is the space's
      cases hb : e.spaceBody with
      | none =>
          rw [hb] at hx
          cases hx
      | some b =>
          obtain ⟨payload, hpayload, rfl⟩ := hbody b hb
          cases hpayload
          rw [hb] at hx
          have hx : (if Field.string (statusText space.status) = .string "ended"
            then some (⟨.ended, none⟩ : Assignment)
            else if !FetchResponse.ok ⟨status'⟩ then some ⟨.error, none⟩
            else e.joinVerdict) = some x := hx
          -- only a space that has not ended lets the effect go on
          by_cases hended : space.status = .ended
          · rw [if_pos (statusText_eq_ended.mpr hended)] at hx
            cases hx
            exact .ended hs hended
          · rw [if_neg fun h => hended (statusText_eq_ended.mp h)] at hx
            -- the second answer is a server's URL, or an error
            rcases respond_tryJoin (c := tryJoin) hv hjoin with
              ⟨hjoins, server, hserver, hresponse⟩ | ⟨hnot, message, hresponse⟩
            · rw [hresponse] at hstatus' hbody'
              cases hstatus'
              rw [if_neg (by decide)] at hx
              unfold AccessEffect.joinVerdict at hx
              cases hb' : e.tryJoinBody with
              | none =>
                  rw [hb'] at hx
                  cases hx
              | some b' =>
                  obtain ⟨payload', hpayload', rfl⟩ := hbody' b' hb'
                  cases hpayload'
                  rw [hb'] at hx
                  cases hx
                  exact .available hs hended hjoins hserver
            · rw [hresponse] at hstatus'
              cases hstatus'
              rw [if_pos (by decide)] at hx
              cases hx
              exact .error hs hended hnot

/-- **The page against the API.**  In every run of the page: when it changes
what it shows on two responses of the server, made in any two states of the
coordinator, it shows the space of its uuid as missing, as ended or as one
that can be joined as the coordinator had it when it answered. -/
theorem access_served {p p' : SpacePage} {a : PageAction}
    {tr obs : List PageMark} {past : List SpacePage}
    (h : accessMachine.Run anyStep past p tr)
    (hs : p.step a = some (p', obs)) {i : Nat} {x : Assignment}
    (hx : .assigned i x ∈ obs)
    (hv : validHeaderValue env.allowedOrigin = true)
    {spaceTarget joinTarget : String}
    (hspace : Targets env "/space" p.spaceUuid spaceTarget)
    (hjoin : Targets env "/space/try-join" p.spaceUuid joinTarget)
    {read tryJoin : Coord HttpCallback}
    (hreceived : ∀ e, p.effects[i]? = some e →
      Received (respond env spaceTarget read) e.spaceRes e.spaceBody ∧
        Received (respond env joinTarget tryJoin) e.tryJoinRes
          e.tryJoinBody) :
    p'.accessState = x.accessState ∧ Shows read tryJoin p.spaceUuid x := by
  obtain ⟨-, -, -, hshown, -, e, he, -, hverdict⟩ :=
    (Current.run h).assigned hs hx
  obtain ⟨hread, htryJoin⟩ := hreceived e he
  exact ⟨hshown, verdict_served hv hspace hjoin hread htryJoin hverdict⟩

section Served

/-- A server whose `URL` knows the two targets of the page. -/
def serving : Env where
  allowedOrigin := "https://localhost"
  newUrl target :=
    if target = "/space?uuid=room" then
      some ⟨"/space", [("uuid", "room")]⟩
    else if target = "/space/try-join?uuid=room" then
      some ⟨"/space/try-join", [("uuid", "room")]⟩
    else none
  parseJson _ := none
  toText _ := some ""

/-- The space has been created, and a signaling server has connected. -/
def created : Coord HttpCallback :=
  ChannelPreAllocator.onServerConnected
    (SpaceService.onCreateSpaceRequest .initial "room" ⟨"room", ""⟩
      "subscription-driven" ⟨false⟩) 0 "ws://localhost:3000"

/-- The answers of `created`, after the visit of another space. -/
def answered : List PageAction :=
  [.navigate "room", .tryJoinFetched 1 (.fulfilled ⟨200⟩),
   .spaceFetched 1 (.fulfilled ⟨200⟩), .resume 1,
   .spaceBodyRead 1 (.fulfilled (some ⟨.string "initialized", .undefined⟩)),
   .resume 1, .tryJoinBodyRead 1
     (.fulfilled (some ⟨.undefined, .string "ws://localhost:3000"⟩))]

/-- The second run of the effect, its last body read. -/
def lastRead : AccessEffect :=
  ⟨"room", false, some (.fulfilled ⟨200⟩), some (.fulfilled ⟨200⟩),
    some (.fulfilled (some ⟨.string "initialized", .undefined⟩)),
    some (.fulfilled (some ⟨.undefined, .string "ws://localhost:3000"⟩)),
    .tryJoinBody⟩

theorem access_served_created : ∃ p p' obs x,
    SpacePage.step p (.resume 1) = some (p', obs) ∧ .assigned 1 x ∈ obs ∧
    p'.accessState = x.accessState ∧ Shows created created "room" x := by
  obtain ⟨past, p, tr, hr, hp⟩ := Machine.Run.exists_of_exec
    (M := accessMachine) (G := anyStep) (s := .mount "hall") (l := answered)
    (p := fun r => decide (r.2.1.spaceUuid = "room" ∧
      r.2.1.effects[1]? = some lastRead ∧
      (r.2.1.step (.resume 1)).map Prod.snd = some [.assigned 1
        ⟨.available, some (.string "ws://localhost:3000")⟩]))
    ⟨"hall", rfl⟩ (by decide)
  obtain ⟨huuid, heffect, hstep⟩ := of_decide_eq_true hp
  obtain ⟨⟨p', obs⟩, hs, hobs⟩ := Option.map_eq_some_iff.mp hstep
  cases hobs
  have hspace : respond serving "/space?uuid=room" created =
      ([200], [some (.space ⟨"room", ""⟩ .initialized)]) := by decide
  have hjoin : respond serving "/space/try-join?uuid=room" created =
      ([200], [some (.serverUrl "ws://localhost:3000")]) := by decide
  have hreceived : ∀ e, p.effects[1]? = some e →
      Received (respond serving "/space?uuid=room" created) e.spaceRes
          e.spaceBody ∧
        Received (respond serving "/space/try-join?uuid=room" created)
          e.tryJoinRes e.tryJoinBody := by
    intro e he
    rw [heffect] at he
    cases he
    rw [hspace, hjoin]
    refine ⟨⟨⟨200, rfl, rfl⟩, fun b hb => ?_⟩, ⟨200, rfl, rfl⟩, fun b hb => ?_⟩
    · cases hb
      exact ⟨_, rfl, rfl⟩
    · cases hb
      exact ⟨_, rfl, rfl⟩
  have htarget : Targets serving "/space" p.spaceUuid "/space?uuid=room" := by
    rw [huuid]
    rfl
  have htarget' : Targets serving "/space/try-join" p.spaceUuid
      "/space/try-join?uuid=room" := by
    rw [huuid]
    rfl
  obtain ⟨hshown, hshows⟩ := access_served hr hs List.mem_cons_self (by decide)
    htarget htarget' hreceived
  rw [huuid] at hshows
  exact ⟨p, p', _, _, hs, List.mem_cons_self, hshown, hshows⟩

end Served

end Twolk.Web.Page
