/-
  Twolk.Http.FrontendFacingHttpServer
  ───────────────────────────────────
  **THE HTTP API** of `http-server.ts`: one request, from its arrival to the
  end of its response.

  `handleRequest` runs on arrival.  Of the routes, `POST /space` reads the
  body first: what follows are the events of the request, the body of
  `.then` and that of `.catch`, each a stretch of its own, with the
  coordinator changing in between.  The bus calls the coordinator's handlers
  on the spot (`Twolk.Coordinator`).

  An exception that reaches no `catch`, and a rejection that reaches no
  `.catch`, escape.

  Of Node and the language there are `new URL`, `JSON.parse` and the
  decoding of a body, each of which may throw; they are parameters.

  Main result: `one_response` — nothing escapes and the request is answered
  once exactly when the allowed origin is a header value and the request is
  a preflight or its target is a URL.
-/
import Twolk.Coordinator.SpaceService
import Twolk.Coordinator.ChannelPreAllocator

namespace Twolk.Http

open Twolk.Lib Coordinator

/-! ## §1. Requests and responses. -/

/-- A `URL`. -/
structure Url where
  pathname : String
  searchParams : List (String × String)
  deriving DecidableEq, Repr

/-- `url.searchParams.get(name)`. -/
def Url.get (url : Url) (name : String) : Option String :=
  url.searchParams.lookup name

/-- What `JSON.parse` returns; an object by its properties. -/
inductive JsonValue where
  | null
  | boolean (value : Bool)
  | number (text : String)
  | string (value : String)
  | array (items : List JsonValue)
  | object (properties : List (String × JsonValue))

/-- `http.IncomingMessage`, without its body. -/
structure IncomingMessage where
  method : String
  url : Option String
  deriving DecidableEq, Repr

/-- The server, and what it uses of Node and the language. -/
structure Env where
  allowedOrigin : String
  /-- `new URL(target, base)`, `none` when it throws. -/
  newUrl : String → Option Url
  /-- `JSON.parse(text)`, `none` when it throws. -/
  parseJson : String → Option JsonValue
  /-- `Buffer.concat(chunks).toString("utf-8")` on the bytes of the body,
  `none` when it throws: a string has a maximal length. -/
  toText : List UInt8 → Option String

/-- What `sendJson` serializes. -/
inductive Payload where
  | error (message : String)
  | created (uuid : Uuid)
  | space (data : SpaceData) (status : SpaceStatus)
  | serverUrl (url : String)
  deriving DecidableEq, Repr

/-- `http.ServerResponse`, as the calls of its methods. -/
structure ServerResponse where
  headers : List (String × String)
  /-- `writeHead(status, headers)`. -/
  heads : List (Nat × List (String × String))
  /-- `end(payload)`. -/
  ends : List (Option Payload)
  deriving DecidableEq, Repr

/-- `res.headersSent`. -/
def ServerResponse.headersSent (res : ServerResponse) : Bool :=
  !res.heads.isEmpty

/-- The ack and the nack callback of a `publish`. -/
structure HttpCallback where
  /-- The headers have been sent when `publish` is called. -/
  headersSent : Bool
  deriving DecidableEq

/-- `ERR_HTTP_HEADERS_SENT`. -/
def writeAfterSent : String :=
  "Cannot write headers after they are sent to the client"

/-- Both callbacks are a `sendJson`. -/
instance : Callback HttpCallback where
  ackThrows cb := if cb.headersSent then some writeAfterSent else none
  nackThrows cb _ := if cb.headersSent then some writeAfterSent else none

/-- The promise of `readBody`, and what waits for it. -/
inductive Reading where
  /-- Nothing waits. -/
  | idle
  | reading (chunks : List (List UInt8))
  /-- The promise is settled. -/
  | settled (result : Except String String)
  /-- The promise, or the body of `.then`, is rejected. -/
  | rejected (message : String)

/-- A request that has arrived. -/
structure Exchange where
  res : ServerResponse
  coord : Coord HttpCallback
  body : Reading
  /-- Uncaught exceptions and unhandled rejections. -/
  escaped : List String

/-- Before the request is handled. -/
def Exchange.initial (coord : Coord HttpCallback) : Exchange where
  res := ⟨[], [], []⟩
  coord := coord
  body := .idle
  escaped := []

/-- Code that may throw. -/
abbrev Handler (α : Type) := ExceptT String (StateM Exchange) α

/-- Run it: how it ends, and what it has done by then. -/
def Handler.runOn {α : Type} (h : Handler α) (w : Exchange) :
    Except String α × Exchange := StateT.run (ExceptT.run h) w

/-! ## §2. The handlers. -/

/-- A call on `res`. -/
def modifyResponse (f : ServerResponse → ServerResponse) : Handler Unit :=
  modify fun w => { w with res := f w.res }

/-- The characters Node takes in a header value. -/
def validHeaderChar (c : Char) : Bool :=
  c.val == 9 || (32 ≤ c.val && c.val ≤ 255 && c.val != 127)

/-- The check of `setHeader` on a value. -/
def validHeaderValue (value : String) : Bool :=
  value.toList.all validHeaderChar

/-- `res.setHeader(name, value)`. -/
def setHeader (name value : String) : Handler Unit := do
  if (← get).res.headersSent then
    throw "Cannot set headers after they are sent to the client"
  if validHeaderValue value then
    modifyResponse fun res =>
      { res with headers := res.headers ++ [(name, value)] }
  else throw ("Invalid character in header content [\"" ++ name ++ "\"]")

/-- `res.writeHead(status, headers)`. -/
def writeHead (status : Nat) (headers : List (String × String)) :
    Handler Unit := do
  if (← get).res.headersSent then throw writeAfterSent
  modifyResponse fun res =>
    { res with heads := res.heads ++ [(status, headers)] }

/-- `res.end(payload)`. -/
def endResponse (payload : Option Payload) : Handler Unit :=
  modifyResponse fun res => { res with ends := res.ends ++ [payload] }

/-- Writes a JSON response with the given status code. -/
def sendJson (status : Nat) (body : Payload) : Handler Unit := do
  writeHead status [("Content-Type", "application/json")]
  endResponse (some body)

/-- What a consumer does to the publisher, in order.  What an ack or a nack
throws goes to the consumer. -/
def deliver (onAck : Response → Handler Unit)
    (onNack : String → Handler Unit) :
    List (Out HttpCallback) → Handler Unit
  | [] => pure ()
  -- what the callback of an ack throws is caught by the service that calls it
  | .ack _ resp :: out => do
      tryCatch (onAck resp) fun _ => pure ()
      deliver onAck onNack out
  | .nack _ message :: out => do
      tryCatch (onNack message) fun _ => pure ()
      deliver onAck onNack out
  -- what escapes the coordinator escapes the request as well
  | .thrown e :: _ => throw e
  | _ :: out => deliver onAck onNack out

/-- `this.bus.publish(..)` to a handler of the coordinator. -/
def publish (consume : Coord HttpCallback → HttpCallback →
      Coord HttpCallback)
    (onAck : Response → Handler Unit) (onNack : String → Handler Unit) :
    Handler Unit := do
  let w ← get
  let coord := consume { w.coord with out := [] } ⟨w.res.headersSent⟩
  set { w with coord := coord }
  deliver onAck onNack coord.out

/-- Parses and validates request JSON as `SpaceData`. -/
def parseSpaceData (env : Env) (body : String) : Except String SpaceData :=
  match env.parseJson body with
  | none => .error "invalid JSON body"
  | some (.object properties) =>
      match properties.lookup "name", properties.lookup "description" with
      | some (.string name), some (.string description) =>
          .ok ⟨name, description⟩
      | _, _ => .error "name and description must be strings"
  | some (.array _) => .error "name and description must be strings"
  | some _ => .error "body must be a SpaceData object"

/-- The body of `.then` in `handleCreateSpace`; `uuid` is the value of
`randomUUID()`. -/
def createSpace (env : Env) (uuid : Uuid) (body : String) : Handler Unit :=
  match parseSpaceData env body with
  | .error message => sendJson 400 (.error message)
  | .ok data =>
      publish (SpaceService.onCreateSpaceRequest · uuid data
          "subscription-driven" ·)
        (fun
          | .createSpace uuid => sendJson 201 (.created uuid)
          | _ => pure ())
        fun message => sendJson 500 (.error message)

/-- Handles `POST /space`: reads the body. -/
def handleCreateSpace : Handler Unit :=
  modify fun w => { w with body := .reading [] }

/-- Handles `GET /space` by reading public coordinator space state. -/
def handleReadSpace (url : Url) : Handler Unit :=
  match url.get "uuid" with
  | none => sendJson 400 (.error "missing uuid query parameter")
  | some uuid =>
      publish (SpaceService.onReadSpaceRequest · uuid ·)
        (fun
          | .readSpace data status => sendJson 200 (.space data status)
          | _ => pure ())
        fun _ => sendJson 404 (.error "space not found")

/-- Handles `GET /space/try-join` by allocating a signaling server URL. -/
def handleTryJoinSpace (url : Url) : Handler Unit :=
  match url.get "uuid" with
  | none => sendJson 400 (.error "missing uuid query parameter")
  | some spaceUuid =>
      publish (onTryJoinSpaceRequest · spaceUuid ·)
        (fun
          | .tryJoinSpace serverUrl => sendJson 200 (.serverUrl serverUrl)
          | _ => pure ())
        fun message => sendJson 404 (.error message)

/-- `new URL(req.url ?? "/", base)`. -/
def parseUrl (env : Env) (req : IncomingMessage) : Handler Url :=
  match env.newUrl (req.url.getD "/") with
  | none => throw "Invalid URL"
  | some url => pure url

/-- Routes one incoming HTTP request. -/
def handleRequest (env : Env) (req : IncomingMessage) : Handler Unit := do
  setHeader "Access-Control-Allow-Origin" env.allowedOrigin
  setHeader "Access-Control-Allow-Methods" "GET, POST, OPTIONS"
  setHeader "Access-Control-Allow-Headers" "Content-Type"
  -- a preflight is answered before the target is parsed
  if req.method = "OPTIONS" then
    writeHead 204 []
    endResponse none
  else
    let url ← parseUrl env req
    if req.method = "POST" ∧ url.pathname = "/space" then
      handleCreateSpace
    else if req.method = "GET" ∧ url.pathname = "/space" then
      handleReadSpace url
    else if req.method = "GET" ∧ url.pathname = "/space/try-join" then
      handleTryJoinSpace url
    else sendJson 404 (.error "not found")

/-! ## §3. The machine. -/

/-- Code that nothing catches for runs. -/
def Handler.runUncaught (h : Handler Unit) (w : Exchange) : Exchange :=
  match h.runOn w with
  | (.ok (), w) => w
  | (.error e, w) => { w with escaped := w.escaped ++ [e] }

/-- What can happen to an exchange next. -/
inductive Action where
  | data (chunk : List UInt8)
  | endOfData
  | error (message : String)
  /-- The body of `.then` runs; `uuid` is what `randomUUID()` gives. -/
  | thenBody (uuid : Uuid)
  | catchBody
  /-- Anything else happens to the coordinator. -/
  | coordinator (coord : Coord HttpCallback)

/-- The run of a request that arrives in some state of the coordinator. -/
def machine (env : Env) (req : IncomingMessage) :
    Machine Exchange Action Unit where
  init w := ∃ coord,
    w = (handleRequest env req).runUncaught (.initial coord)
  step w
    | .data chunk =>
        match w.body with
        | .reading chunks =>
            some ({ w with body := .reading (chunks ++ [chunk]) }, [])
        | _ => none
    -- the text is built in the listener of `end`, outside any handler
    | .endOfData =>
        match w.body with
        | .reading chunks =>
            match env.toText chunks.flatten with
            | some text => some ({ w with body := .settled (.ok text) }, [])
            | none => some ({ w with
                body := .idle
                escaped := w.escaped ++
                  ["Cannot create a string longer than 0x1fffffe8 characters"]
                }, [])
        | _ => none
    | .error message =>
        match w.body with
        | .reading _ =>
            some ({ w with body := .settled (.error message) }, [])
        | _ => none
    -- the continuation after the body, whose exceptions the `.catch` answers
    | .thenBody uuid =>
        match w.body with
        | .settled (.error e) => some ({ w with body := .rejected e }, [])
        | .settled (.ok text) =>
            match (createSpace env uuid text).runOn w with
            | (.ok (), w) => some ({ w with body := .idle }, [])
            | (.error e, w) => some ({ w with body := .rejected e }, [])
        | _ => none
    | .catchBody =>
        match w.body with
        -- an exception of this handler escapes: nothing is chained to the
        -- `.catch`
        | .rejected e => some ((sendJson 400 (.error e)).runUncaught
            { w with body := .idle }, [])
        | _ => none
    | .coordinator coord => some ({ w with coord := coord }, [])

/-! ## §4. Runs of a handler. -/

section RunOn

variable {α β : Type} (h : Handler α) (f : α → Handler β) (w : Exchange)

theorem runOn_get (g : Exchange → Handler β) :
    (get >>= g).runOn w = (g w).runOn w := rfl

theorem runOn_bind : (h >>= f).runOn w = match h.runOn w with
    | (.ok a, w') => (f a).runOn w'
    | (.error e, w') => (.error e, w') := by
  show (match StateT.run (ExceptT.run h) w with
    | (r, w') => StateT.run (ExceptT.bindCont f r) w') = _
  unfold Handler.runOn
  cases StateT.run (ExceptT.run h) w with
  | mk r w' => cases r <;> rfl

variable {h f w}

/-- The first of two handlers returns. -/
theorem runOn_bind_ok {a : α} {w' : Exchange}
    (hr : h.runOn w = (.ok a, w')) :
    (h >>= f).runOn w = (f a).runOn w' := by
  rw [runOn_bind, hr]

/-- The first of two handlers throws. -/
theorem runOn_bind_error {e : String} {w' : Exchange}
    (hr : h.runOn w = (.error e, w')) :
    (h >>= f).runOn w = (.error e, w') := by
  rw [runOn_bind, hr]

/-- Where nothing is thrown nothing is caught. -/
theorem runOn_tryCatch {g : Handler α} {a : α} {w' : Exchange}
    {c : String → Handler α} (hr : g.runOn w = (.ok a, w')) :
    (tryCatch g c).runOn w = (.ok a, w') := by
  unfold Handler.runOn at hr ⊢
  rw [ExceptT.run_tryCatch, StateT.run_bind, hr]
  rfl

end RunOn

/-! ## §5. Answering once. -/

/-- Nothing of the response has been written. -/
structure Unanswered (w : Exchange) : Prop where
  heads : w.res.heads = []
  ends : w.res.ends = []

/-- One response has been written and ended. -/
structure Answered (w : Exchange) : Prop where
  heads : w.res.heads.length = 1
  ends : w.res.ends.length = 1

/-- The handler returns, having answered the request. -/
def Replies (h : Handler Unit) (w : Exchange) : Prop :=
  ∃ w', h.runOn w = (.ok (), w') ∧ Answered w' ∧ w'.body = w.body ∧
    w'.escaped = w.escaped

variable {env : Env} {req : IncomingMessage} {w : Exchange}

/-- A request without a response has no headers sent. -/
theorem Unanswered.headersSent (h : Unanswered w) :
    w.res.headersSent = false := by
  unfold ServerResponse.headersSent
  rw [h.heads]
  rfl

/-- `writeHead` succeeds, once. -/
theorem runOn_writeHead (h : Unanswered w) (status : Nat)
    (headers : List (String × String)) :
    (writeHead status headers).runOn w = (.ok (),
      { w with
        res := { w.res with
          heads := w.res.heads ++ [(status, headers)] } }) := by
  unfold writeHead
  rw [runOn_get, h.headersSent]
  rfl

/-- A head and an end answer a request that has no response. -/
theorem writeHead_replies (h : Unanswered w) (status : Nat)
    (headers : List (String × String)) (payload : Option Payload) :
    Replies (do writeHead status headers; endResponse payload) w := by
  refine ⟨_, (runOn_bind_ok (runOn_writeHead h status headers)).trans rfl,
    ⟨?_, ?_⟩, rfl, rfl⟩
  · show (w.res.heads ++ [_]).length = 1
    rw [h.heads]
    rfl
  · show (w.res.ends ++ [_]).length = 1
    rw [h.ends]
    rfl

/-- `sendJson` answers a request that has no response. -/
theorem sendJson_replies (h : Unanswered w) (status : Nat)
    (body : Payload) : Replies (sendJson status body) w :=
  writeHead_replies h status _ (some body)

/-- A consumer acks or nacks once, and the callback answers. -/
theorem publish_replies {consume : Coord HttpCallback → HttpCallback →
      Coord HttpCallback}
    {onAck : Response → Handler Unit} {onNack : String → Handler Unit}
    (h : Unanswered w)
    (hnack : ∀ message w, Unanswered w → Replies (onNack message) w)
    (hout : (∃ message, (consume { w.coord with out := [] } ⟨false⟩).out
        = [.nack ⟨false⟩ message]) ∨
      ∃ resp, (consume { w.coord with out := [] } ⟨false⟩).out
        = [.ack ⟨false⟩ resp] ∧
        ∀ w, Unanswered w → Replies (onAck resp) w) :
    Replies (publish consume onAck onNack) w := by
  have hrun : (publish consume onAck onNack).runOn w
      = (deliver onAck onNack
          (consume { w.coord with out := [] } ⟨false⟩).out).runOn
          { w with coord := consume { w.coord with out := [] } ⟨false⟩ } := by
    unfold publish
    rw [runOn_get, h.headersSent]
    rfl
  have hun : Unanswered
      { w with coord := consume { w.coord with out := [] } ⟨false⟩ } :=
    ⟨h.heads, h.ends⟩
  -- the callback answers, and there is nothing after it
  have hlast : ∀ {g : Handler Unit} {v : Exchange}, Replies g v →
      Replies (do tryCatch g (fun _ => pure ()); pure ()) v := by
    intro g v ⟨v', hv, hrest⟩
    refine ⟨v', ?_, hrest⟩
    rw [runOn_bind_ok (runOn_tryCatch hv)]
    rfl
  obtain ⟨w', hw, ha, hb, he⟩ : Replies (deliver onAck onNack
      (consume { w.coord with out := [] } ⟨false⟩).out)
      { w with coord := consume { w.coord with out := [] } ⟨false⟩ } := by
    rcases hout with ⟨message, heq⟩ | ⟨resp, heq, hack⟩
    · rw [heq]
      exact hlast (hnack message _ hun)
    · rw [heq]
      exact hlast (hack _ hun)
  exact ⟨w', hrun.trans hw, ha, hb, he⟩

/-! ## §6. The coordinator answers. -/

theorem onCreateSpaceRequest_out (c : Coord HttpCallback) (uuid : Uuid)
    (data : SpaceData) :
    (SpaceService.onCreateSpaceRequest { c with out := [] } uuid data
      "subscription-driven" ⟨false⟩).out
      = [.ack ⟨false⟩ (.createSpace uuid)] := rfl

/-- The coordinator answers at once, with the space or a refusal. -/
theorem onReadSpaceRequest_out (c : Coord HttpCallback) (uuid : Uuid) :
    (∃ message, (SpaceService.onReadSpaceRequest { c with out := [] } uuid
      ⟨false⟩).out = [.nack ⟨false⟩ message]) ∨
    ∃ data status, (SpaceService.onReadSpaceRequest { c with out := [] }
      uuid ⟨false⟩).out = [.ack ⟨false⟩ (.readSpace data status)] := by
  unfold SpaceService.onReadSpaceRequest
  split
  · exact .inl ⟨_, rfl⟩
  · exact .inr ⟨_, _, rfl⟩

/-- The coordinator answers at once, with a URL or a refusal. -/
theorem onTryJoinSpaceRequest_out (c : Coord HttpCallback) (uuid : Uuid) :
    (∃ message, (onTryJoinSpaceRequest { c with out := [] } uuid
      ⟨false⟩).out = [.nack ⟨false⟩ message]) ∨
    ∃ url, (onTryJoinSpaceRequest { c with out := [] } uuid ⟨false⟩).out
      = [.ack ⟨false⟩ (.tryJoinSpace url)] := by
  unfold onTryJoinSpaceRequest
  split
  · exact .inl ⟨_, rfl⟩
  · split
    · exact .inl ⟨_, rfl⟩
    · split
      · exact .inl ⟨_, rfl⟩
      · exact .inr ⟨_, rfl⟩

/-! ## §7. The routes. -/

/-- The body of `.then` of `POST /space` answers it. -/
theorem createSpace_replies (env : Env) (h : Unanswered w) (uuid : Uuid)
    (body : String) : Replies (createSpace env uuid body) w := by
  unfold createSpace
  split
  · exact sendJson_replies h _ _
  · refine publish_replies h (fun _ _ hv => sendJson_replies hv _ _) ?_
    exact .inr ⟨_, onCreateSpaceRequest_out _ _ _,
      fun _ hv => sendJson_replies hv _ _⟩

/-- `GET /space` is answered, whatever its query. -/
theorem handleReadSpace_replies (h : Unanswered w) (url : Url) :
    Replies (handleReadSpace url) w := by
  unfold handleReadSpace
  split
  · exact sendJson_replies h _ _
  · rename_i uuid _
    refine publish_replies h (fun _ _ hv => sendJson_replies hv _ _) ?_
    refine (onReadSpaceRequest_out w.coord uuid).imp_right ?_
    intro ⟨_, _, hout⟩
    exact ⟨_, hout, fun _ hv => sendJson_replies hv _ _⟩

/-- So is `GET /space/try-join`. -/
theorem handleTryJoinSpace_replies (h : Unanswered w) (url : Url) :
    Replies (handleTryJoinSpace url) w := by
  unfold handleTryJoinSpace
  split
  · exact sendJson_replies h _ _
  · rename_i uuid _
    refine publish_replies h (fun _ _ hv => sendJson_replies hv _ _) ?_
    refine (onTryJoinSpaceRequest_out w.coord uuid).imp_right ?_
    intro ⟨_, hout⟩
    exact ⟨_, hout, fun _ hv => sendJson_replies hv _ _⟩

/-- Nothing has escaped; the request is answered when nothing waits, and
has not been answered when something does. -/
structure Sound (w : Exchange) : Prop where
  escaped : w.escaped = []
  idle : w.body = .idle → Answered w
  waits : w.body ≠ .idle → Unanswered w

/-- The allowed origin is a header value, and the request is a preflight or
its target is a URL. -/
def accepts (env : Env) (req : IncomingMessage) : Prop :=
  validHeaderValue env.allowedOrigin = true ∧ (req.method = "OPTIONS" ∨
    (env.newUrl (req.url.getD "/")).isSome = true)

instance (env : Env) (req : IncomingMessage) : Decidable (accepts env req) :=
  inferInstanceAs (Decidable (_ ∧ _))

/-- A header is set, or its value is refused. -/
theorem runOn_setHeader (h : Unanswered w) (name value : String) :
    (setHeader name value).runOn w =
      if validHeaderValue value then
        (.ok (), { w with
          res := { w.res with
            headers := w.res.headers ++ [(name, value)] } })
      else (.error ("Invalid character in header content [\"" ++ name
        ++ "\"]"), w) := by
  unfold setHeader
  rw [runOn_get, h.headersSent]
  by_cases hv : validHeaderValue value = true
  · rw [if_pos hv, if_pos hv]
    rfl
  · rw [if_neg hv, if_neg hv]
    rfl

/-- A handler that answers lets nothing escape. -/
theorem replies_sound {g : Handler Unit} (hr : Replies g w)
    (he : w.escaped = []) (hb : w.body = .idle) :
    Sound (g.runUncaught w) := by
  obtain ⟨w', hw, ha, hbody, hesc⟩ := hr
  unfold Handler.runUncaught
  rw [hw]
  exact ⟨hesc.trans he, fun _ => ha, fun hn => absurd (hbody.trans hb) hn⟩

/-- Two handlers that run alike let the same things escape. -/
theorem runUncaught_congr {g g' : Handler Unit} {v : Exchange}
    (h : g.runOn w = g'.runOn v) : g.runUncaught w = g'.runUncaught v := by
  unfold Handler.runUncaught
  rw [h]

/-- A header is set, and the request goes on. -/
theorem setHeader_then (h : Unanswered w) (name value : String)
    (hv : validHeaderValue value = true) (he : w.escaped = [])
    (hb : w.body = .idle) : ∃ w', Unanswered w' ∧ w'.escaped = [] ∧
      w'.body = .idle ∧ ∀ g : Handler Unit,
        (do setHeader name value; g).runOn w = g.runOn w' := by
  have hset := (runOn_setHeader h name value).trans (if_pos hv)
  refine ⟨_, ?_, ?_, ?_, fun g => (runOn_bind_ok hset)⟩
  · exact ⟨h.heads, h.ends⟩
  · exact he
  · exact hb

/-- What a request goes on with once its CORS headers are set. -/
theorem headers_set (hv : validHeaderValue env.allowedOrigin = true)
    (req : IncomingMessage) (coord : Coord HttpCallback) : ∃ w,
    Unanswered w ∧ w.escaped = [] ∧ w.body = .idle ∧
    (handleRequest env req).runUncaught (.initial coord)
      = Handler.runUncaught (if req.method = "OPTIONS" then do
          writeHead 204 []
          endResponse none
        else do
          let url ← parseUrl env req
          if req.method = "POST" ∧ url.pathname = "/space" then
            handleCreateSpace
          else if req.method = "GET" ∧ url.pathname = "/space" then
            handleReadSpace url
          else if req.method = "GET" ∧ url.pathname = "/space/try-join" then
            handleTryJoinSpace url
          else sendJson 404 (.error "not found")) w := by
  obtain ⟨w₁, h₁, he₁, hb₁, hr₁⟩ := setHeader_then
    (w := .initial coord) ⟨rfl, rfl⟩ "Access-Control-Allow-Origin" _ hv rfl
    rfl
  obtain ⟨w₂, h₂, he₂, hb₂, hr₂⟩ := setHeader_then h₁
    "Access-Control-Allow-Methods" "GET, POST, OPTIONS" (by decide) he₁ hb₁
  obtain ⟨w₃, h₃, he₃, hb₃, hr₃⟩ := setHeader_then h₂
    "Access-Control-Allow-Headers" "Content-Type" (by decide) he₂ hb₂
  refine ⟨w₃, h₃, he₃, hb₃, runUncaught_congr ?_⟩
  unfold handleRequest
  rw [hr₁, hr₂, hr₃]

/-- The request is routed; a preflight is answered before. -/
theorem start_sound (h : accepts env req) (coord : Coord HttpCallback) :
    Sound ((handleRequest env req).runUncaught (.initial coord)) := by
  obtain ⟨horigin, htarget⟩ := h
  obtain ⟨w, hw, he, hb, hr⟩ := headers_set horigin req coord
  rw [hr]
  by_cases hopt : req.method = "OPTIONS"
  · rw [if_pos hopt]
    exact replies_sound (writeHead_replies hw 204 [] none) he hb
  · rw [if_neg hopt]
    obtain ⟨url, hurl⟩ :=
      Option.isSome_iff_exists.mp (htarget.resolve_left hopt)
    have hparse : (parseUrl env req).runOn w = (.ok url, w) := by
      unfold parseUrl
      rw [hurl]
      rfl
    rw [runUncaught_congr (runOn_bind_ok hparse)]
    split
    · -- the body is read first
      refine ⟨he, fun hn => ?_, fun _ => ⟨hw.heads, hw.ends⟩⟩
      cases hn
    · split
      · exact replies_sound (handleReadSpace_replies hw url) he hb
      · split
        · exact replies_sound (handleTryJoinSpace_replies hw url) he hb
        · exact replies_sound (sendJson_replies hw 404 _) he hb

/-- An exception has escaped, and nothing waits. -/
structure Lost (w : Exchange) : Prop where
  escaped : w.escaped ≠ []
  idle : w.body = .idle

/-- What a handler throws escapes, and nothing waits. -/
theorem throws_lost {g : Handler Unit} {v : Exchange} {e : String}
    (hg : g.runOn w = (.error e, v)) (hb : v.body = .idle) :
    Lost (g.runUncaught w) := by
  unfold Handler.runUncaught
  rw [hg]
  exact ⟨List.append_ne_nil_of_right_ne_nil _ (List.cons_ne_nil _ _), hb⟩

/-- A request that is not accepted is lost at once: the origin is refused as a
header value, or the target as a URL. -/
theorem start_lost (h : ¬ accepts env req) (coord : Coord HttpCallback) :
    Lost ((handleRequest env req).runUncaught (.initial coord)) := by
  by_cases hv : validHeaderValue env.allowedOrigin = true
  · obtain ⟨w, _, _, hb, hr⟩ := headers_set hv req coord
    obtain ⟨hopt, hurl⟩ : req.method ≠ "OPTIONS" ∧
        env.newUrl (req.url.getD "/") = none := by
      refine ⟨fun hopt => h ⟨hv, .inl hopt⟩, ?_⟩
      by_contra hurl
      exact h ⟨hv, .inr (Option.isSome_iff_ne_none.mpr hurl)⟩
    have hparse : (parseUrl env req).runOn w = (.error "Invalid URL", w) := by
      unfold parseUrl
      rw [hurl]
      rfl
    rw [hr, if_neg hopt]
    exact throws_lost (runOn_bind_error hparse) hb
  · have hset := (runOn_setHeader (w := .initial coord) ⟨rfl, rfl⟩
      "Access-Control-Allow-Origin" env.allowedOrigin).trans (if_neg hv)
    exact throws_lost (runOn_bind_error hset) rfl

/-! ## §8. Runs. -/

/-- The bytes read so far. -/
def Reading.bytes : Reading → List UInt8
  | .reading chunks => chunks.flatten
  | _ => []

/-- A body that is read to its end fits into a string. -/
def readable (env : Env) : Guard Exchange Action Unit := fun _ w a =>
  match a with
  | .endOfData => (env.toText w.body.bytes).isSome = true
  | _ => True

instance (tr : List Unit) (w : Exchange) :
    ∀ a, Decidable (readable env tr w a)
  | .endOfData =>
      inferInstanceAs (Decidable ((env.toText w.body.bytes).isSome = true))
  | .data _ | .error _ | .thenBody _ | .catchBody | .coordinator _ =>
      .isTrue trivial

variable {w' : Exchange} {a : Action} {tr obs : List Unit}

/-- Whatever happens to an accepted request, by its kind. -/
theorem step_sound (h : Sound w) (hg : readable env tr w a)
    (hs : (machine env req).step w a = some (w', obs)) : Sound w' := by
  -- while the body is read, or waited for, the response stays unsent
  have hwaits : ∀ {body body' : Reading}, w.body = body → body ≠ .idle →
      body' ≠ .idle → Sound { w with body := body' } := by
    intro body body' hb hne hne'
    have hw := h.waits (hb ▸ hne)
    exact ⟨h.escaped, fun hn => absurd hn hne', fun _ => ⟨hw.heads, hw.ends⟩⟩
  cases a with
  | data chunk =>
      simp only [machine] at hs
      split at hs
      · rename_i hb
        cases hs
        exact hwaits hb (by simp) (by simp)
      · cases hs
  | endOfData =>
      simp only [machine] at hs
      split at hs
      · rename_i chunks hb
        -- the guard: the bytes are a string that can be built
        have hread : (env.toText chunks.flatten).isSome = true := by
          have hg : (env.toText w.body.bytes).isSome = true := hg
          rw [hb] at hg
          exact hg
        obtain ⟨text, htext⟩ := Option.isSome_iff_exists.mp hread
        rw [htext] at hs
        cases hs
        exact hwaits hb (by simp) (by simp)
      · cases hs
  | error message =>
      simp only [machine] at hs
      split at hs
      · rename_i hb
        cases hs
        exact hwaits hb (by simp) (by simp)
      · cases hs
  | thenBody uuid =>
      simp only [machine] at hs
      split at hs
      · rename_i hb
        cases hs
        exact hwaits hb (by simp) (by simp)
      · rename_i text hb
        -- `createSpace` answers, and nothing waits after that
        have hw := h.waits (by rw [hb]; simp)
        obtain ⟨v, hv, ha, _, he⟩ :=
          createSpace_replies env hw uuid text
        rw [hv] at hs
        cases hs
        exact ⟨he.trans h.escaped, fun _ => ⟨ha.heads, ha.ends⟩,
          fun hn => absurd rfl hn⟩
      · cases hs
  | catchBody =>
      simp only [machine] at hs
      split at hs
      · rename_i e hb
        -- so does the `.catch`
        have hw := h.waits (by rw [hb]; simp)
        cases hs
        refine replies_sound (sendJson_replies ?_ 400 _) h.escaped rfl
        exact ⟨hw.heads, hw.ends⟩
      · cases hs
  | coordinator coord =>
      cases hs
      refine ⟨h.escaped, fun hn => ?_, fun hn => ?_⟩
      · have ha := h.idle hn
        exact ⟨ha.heads, ha.ends⟩
      · have hw := h.waits hn
        exact ⟨hw.heads, hw.ends⟩

/-- Nothing runs any more for a request that was lost. -/
theorem step_lost (h : Lost w)
    (hs : (machine env req).step w a = some (w', obs)) : Lost w' := by
  obtain ⟨he, hb⟩ := h
  cases a with
  | coordinator coord =>
      cases hs
      exact ⟨he, hb⟩
  | data | endOfData | error | thenBody | catchBody =>
      simp only [machine, hb] at hs
      cases hs

/-- In every run of an accepted request it is answered once nothing waits. -/
theorem run_sound {past : List Exchange} (hacc : accepts env req)
    (h : (machine env req).Run (readable env) past w tr) : Sound w := by
  refine h.invariant (fun w _ => Sound w) (fun w hw => ?_)
    fun w tr a w' obs hI hg hs => step_sound hI hg hs
  obtain ⟨coord, rfl⟩ := hw
  exact start_sound hacc coord

/-- In every run of a request that is not accepted an exception has escaped. -/
theorem run_lost {past : List Exchange} (hacc : ¬ accepts env req)
    (h : (machine env req).Run (readable env) past w tr) : Lost w := by
  refine h.invariant (fun w _ => Lost w) (fun w hw => ?_)
    fun w tr a w' obs hI _ hs => step_lost hI hs
  obtain ⟨coord, rfl⟩ := hw
  exact start_lost hacc coord

/-- The body is too long for a string: what `toString` throws escapes. -/
theorem unreadable_escapes (hg : ¬ readable env tr w a)
    (hs : (machine env req).step w a = some (w', obs)) :
    w'.escaped ≠ [] := by
  cases a with
  | endOfData =>
      simp only [machine] at hs
      split at hs
      · rename_i chunks hb
        have hnone : env.toText chunks.flatten = none := by
          by_contra hne
          refine hg ?_
          show (env.toText w.body.bytes).isSome = true
          rw [hb]
          exact Option.isSome_iff_ne_none.mpr hne
        rw [hnone] at hs
        cases hs
        exact List.append_ne_nil_of_right_ne_nil _ (List.cons_ne_nil _ _)
      · cases hs
  | data | error | thenBody | catchBody | coordinator =>
      exact absurd trivial hg

/-- **One response**: nothing escapes, and one response has been written and
ended when nothing is waited for, if and only if the allowed origin is a
header value and the request is a preflight or its target a URL.  This is of
the runs whose body, if it is read to its end, fits into a string; when one
does not, an exception escapes. -/
theorem one_response {past : List Exchange}
    (h : (machine env req).Run (readable env) past w tr) :
    (w.escaped = [] ∧ (w.body = .idle →
      w.res.heads.length = 1 ∧ w.res.ends.length = 1) ↔ accepts env req) ∧
    ∀ a w' obs, (machine env req).step w a = some (w', obs) →
      ¬ readable env tr w a → w'.escaped ≠ [] := by
  refine ⟨⟨fun ⟨he, _⟩ => ?_, fun hacc => ?_⟩,
    fun a w' obs hs hg => unreadable_escapes hg hs⟩
  · by_contra hacc
    exact (run_lost hacc h).escaped he
  · have hsound := run_sound hacc h
    refine ⟨hsound.escaped, fun hb => ?_⟩
    have ha := hsound.idle hb
    exact ⟨ha.heads, ha.ends⟩

/-- A server, with Node as it does on the requests below. -/
def localServer : Env where
  allowedOrigin := "http://localhost:5173"
  newUrl target :=
    if target = "/space" then some ⟨"/space", []⟩ else none
  parseJson text :=
    if text = "[]" then some (.array []) else none
  toText bytes := some (String.ofList (bytes.map fun b => Char.ofNat b.toNat))

/-- `[]` is posted, in two chunks. -/
theorem one_response_post : ∃ past w tr,
    (machine localServer ⟨"POST", some "/space"⟩).Run (readable localServer)
      past w tr ∧
    w.escaped = [] ∧ w.res.heads.length = 1 ∧
    w.res.ends =
      [some (.error "name and description must be strings")] := by
  obtain ⟨past, w, tr, h, hp⟩ := Machine.Run.exists_of_exec
    (M := machine localServer ⟨"POST", some "/space"⟩)
    (G := readable localServer)
    (l := [.data [91], .data [93], .endOfData, .thenBody "u"])
    (s := (handleRequest localServer ⟨"POST", some "/space"⟩).runUncaught
      (.initial Coord.initial))
    (p := fun r => decide (r.2.1.res.ends =
        [some (.error "name and description must be strings")]) &&
      match r.2.1.body with
      | .idle => true
      | _ => false)
    ⟨_, rfl⟩ (by decide +kernel)
  rw [Bool.and_eq_true] at hp
  obtain ⟨he, hone⟩ := (one_response h).1.mpr (by decide)
  refine ⟨past, w, tr, h, he, (hone ?_).1, of_decide_eq_true hp.1⟩
  have hb := hp.2
  split at hb
  · assumption
  · cases hb

/-- The target `//` is not a URL. -/
theorem invalid_target_escapes : ∃ past w tr,
    (machine localServer ⟨"GET", some "//"⟩).Run anyStep past w tr ∧
    w.escaped = ["Invalid URL"] ∧ w.res.heads = [] ∧ w.res.ends = [] := by
  obtain ⟨past, w, tr, h, hp⟩ := Machine.Run.exists_of_exec
    (M := machine localServer ⟨"GET", some "//"⟩) (G := anyStep) (l := [])
    (s := (handleRequest localServer ⟨"GET", some "//"⟩).runUncaught
      (.initial Coord.initial))
    (p := fun r => decide (r.2.1.escaped = ["Invalid URL"] ∧
      r.2.1.res.heads = [] ∧ r.2.1.res.ends = []))
    ⟨_, rfl⟩ (by decide +kernel)
  exact ⟨past, w, tr, h, of_decide_eq_true hp⟩

end Twolk.Http
