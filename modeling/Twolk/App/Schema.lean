/-
  Twolk.App.Schema
  ────────────────
  **WHAT THE CONFIGURATION PARSER ACCEPTS.**

  `Conforms` is the schema of the document as a relation, and what the
  document stands for; nothing in it says in which order fields are read.

  Main results:
    * `parseAppConfig_ok_iff` — what is accepted is what conforms to the
      schema, and exactly the TLS files of a production document are read,
    * `parseAppConfig_toRaw`  — the configuration written out with its
      values parses to itself, whatever the environment.
-/
import Twolk.App.Config

namespace Twolk.App

open Twolk.Lib Code

variable {N : Type}

/-! ## §1. The schema. -/

/-- A scalar string: a literal, or the value of a variable. -/
inductive StringValue (host : Host N) : Option (Raw N) → String → Prop
  | literal (value : String) : StringValue host (some (.string value)) value
  | env {name value : String} : host.env name = some value →
      StringValue host (some (.object [("env", .string name)])) value

/-- A scalar number: a literal, or the number a variable spells. -/
inductive NumberValue (host : Host N) : Option (Raw N) → N → Prop
  | literal (value : N) : NumberValue host (some (.number value)) value
  | env {name text : String} {value : N} : host.env name = some text →
      host.toNumber text = some value →
      NumberValue host (some (.object [("env", .string name)])) value

/-- A string with a default. -/
def OptionalString (host : Host N) (raw : Option (Raw N))
    (defaultValue value : String) : Prop :=
  if absent raw then value = defaultValue else StringValue host raw value

/-- An entry of `signalingServers`. -/
def SignalingServerValue (host : Host N) (raw : Raw N)
    (cfg : SignalingServerConfig N) : Prop :=
  ∃ r, raw = .object r ∧ NumberValue host (r.lookup "id") cfg.id ∧
    NumberValue host (r.lookup "port") cfg.port

/-- An entry of `sfuWorkers`. -/
def SfuWorkerValue (host : Host N) (raw : Raw N) (cfg : SfuWorkerConfig N) :
    Prop :=
  ∃ r, raw = .object r ∧ NumberValue host (r.lookup "id") cfg.id ∧
    NumberValue host (r.lookup "portMin") cfg.portRange.min ∧
    NumberValue host (r.lookup "portMax") cfg.portRange.max

/-- The `tls` field, and what is done for it. -/
inductive TlsValue (host : Host N) (configDir environment : String)
    (raw : Option (Raw N)) : Option TlsOptions → List Effect → Prop
  | plain : absent raw = true → environment ≠ "production" →
      TlsValue host configDir environment raw none []
  | missing : absent raw = true → environment = "production" →
      TlsValue host configDir environment raw none [.warn tlsMissing]
  | ignored : absent raw = false → environment ≠ "production" →
      TlsValue host configDir environment raw none [.warn tlsIgnored]
  | files {r : List (String × Raw N)} {keyPath certPath key cert : String} :
      environment = "production" → raw = some (.object r) →
      StringValue host (r.lookup "keyPath") keyPath →
      StringValue host (r.lookup "certPath") certPath →
      host.readFile (host.resolve configDir keyPath) = .ok key →
      host.readFile (host.resolve configDir certPath) = .ok cert →
      TlsValue host configDir environment raw (some ⟨key, cert⟩)
        [.read (host.resolve configDir keyPath),
          .read (host.resolve configDir certPath)]

/-- The document conforms to the schema and stands for `cfg`. -/
structure Conforms (host : Host N) (raw : Raw N) (configDir : String)
    (cfg : AppConfig N) (effects : List Effect)
    (r : List (String × Raw N)) : Prop where
  root : raw = .object r
  webOrigin : StringValue host (r.lookup "webOrigin") cfg.webOrigin
  environment : OptionalString host (r.lookup "environment") "development"
    cfg.environment
  channelAllocationStrategy : OptionalString host
    (r.lookup "channelAllocationStrategy") "round-robin"
    cfg.channelAllocationStrategy
  workerAllocationStrategy : OptionalString host
    (r.lookup "workerAllocationStrategy") "round-robin"
    cfg.workerAllocationStrategy
  signalingServers : ∃ entries, entries ≠ [] ∧
    r.lookup "signalingServers" = some (.array entries) ∧
    List.Forall₂ (SignalingServerValue host) entries cfg.signalingServers
  httpServer : ∃ properties,
    r.lookup "httpServer" = some (.object properties) ∧
    NumberValue host (properties.lookup "port") cfg.httpServer.port
  tls : TlsValue host configDir cfg.environment (r.lookup "tls") cfg.tls
    effects
  sfuWorkers : ∃ entries, entries ≠ [] ∧
    r.lookup "sfuWorkers" = some (.array entries) ∧
    List.Forall₂ (SfuWorkerValue host) entries cfg.sfuWorkers

/-! ## §2. What a helper accepts. -/

variable {host : Host N} {raw : Option (Raw N)} {field : String}

/-- An `EnvSpec` has `env` as its only property. -/
theorem isEnvSpec_eq_some {name : String} : isEnvSpec raw = some name ↔
    raw = some (.object [("env", .string name)]) := by
  constructor
  · intro h
    unfold isEnvSpec at h
    split at h
    · split at h
      · rename_i hkey
        cases h
        rw [hkey]
      · cases h
    · cases h
  · rintro rfl
    rfl

/-- When a string field is accepted, and as what. -/
theorem resolveString_eq_ok {value : String} :
    resolveString host raw field = .ok value ↔
      StringValue host raw value := by
  constructor
  · intro h
    unfold resolveString at h
    split at h
    · cases h
      exact .literal _
    · split at h
      · rename_i name hname
        rw [isEnvSpec_eq_some.mp hname]
        split at h
        · cases h
        · rename_i val hval
          cases h
          exact .env hval
      · cases h
  · intro h
    cases h with
    | literal => rfl
    | env hval => simp [resolveString, isEnvSpec, hval]

/-- When a number field is accepted, and as what. -/
theorem resolveNumber_eq_ok {value : N} :
    resolveNumber host raw field = .ok value ↔
      NumberValue host raw value := by
  constructor
  · intro h
    unfold resolveNumber at h
    split at h
    · cases h
      exact .literal _
    · split at h
      · rename_i name hname
        rw [isEnvSpec_eq_some.mp hname]
        split at h
        · cases h
        · rename_i text htext
          split at h
          · cases h
          · rename_i n hn
            cases h
            exact .env htext hn
      · cases h
  · intro h
    cases h with
    | literal => rfl
    | env htext hn => simp [resolveNumber, isEnvSpec, htext, hn]

/-- A field with a default is accepted as it, or like any string field. -/
theorem resolveOptionalString_eq_ok {defaultValue value : String} :
    resolveOptionalString host raw field defaultValue = .ok value ↔
      OptionalString host raw defaultValue value := by
  unfold resolveOptionalString OptionalString
  split
  · exact ⟨fun h => (Except.ok.inj h).symm, fun h => congrArg _ h.symm⟩
  · exact resolveString_eq_ok

theorem asObject_eq_ok {r : List (String × Raw N)} :
    asObject raw field = .ok r ↔ raw = some (.object r) := by
  constructor
  · intro h
    unfold asObject at h
    split at h
    · cases h
      rfl
    · cases h
  · rintro rfl
    rfl

theorem asNonEmptyArray_eq_ok {entries : List (Raw N)} :
    asNonEmptyArray raw field = .ok entries ↔
      entries ≠ [] ∧ raw = some (.array entries) := by
  constructor
  · intro h
    unfold asNonEmptyArray at h
    split at h
    · cases h
      exact ⟨List.cons_ne_nil _ _, rfl⟩
    · cases h
  · rintro ⟨hne, rfl⟩
    cases entries with
    | nil => exact absurd rfl hne
    | cons _ _ => rfl

/-- When an entry of `signalingServers` is accepted, and as what. -/
theorem buildSignalingServerEntry_eq_ok {entry : Raw N} {i : Nat}
    {cfg : SignalingServerConfig N} :
    buildSignalingServerEntry host entry i = .ok cfg ↔
      SignalingServerValue host entry cfg := by
  unfold buildSignalingServerEntry SignalingServerValue
  simp only [bind_eq_ok, asObject_eq_ok, resolveNumber_eq_ok,
    Option.some.injEq]
  constructor
  · rintro ⟨r, hr, id, hid, port, hport, h⟩
    cases h
    exact ⟨r, hr, hid, hport⟩
  · rintro ⟨r, hr, hid, hport⟩
    exact ⟨r, hr, _, hid, _, hport, rfl⟩

/-- All entries are accepted, each as its own value. -/
theorem signalingServers_eq_ok {entries : List (Raw N)} {i : Nat}
    {cfgs : List (SignalingServerConfig N)} :
    mapIdxFrom (buildSignalingServerEntry host) i entries = .ok cfgs ↔
      List.Forall₂ (SignalingServerValue host) entries cfgs :=
  mapIdxFrom_eq_ok (fun _ _ _ => buildSignalingServerEntry_eq_ok) _ _ _

/-- When an entry of `sfuWorkers` is accepted, and as what. -/
theorem buildSfuWorkerEntry_eq_ok {entry : Raw N} {i : Nat}
    {cfg : SfuWorkerConfig N} :
    buildSfuWorkerEntry host entry i = .ok cfg ↔
      SfuWorkerValue host entry cfg := by
  unfold buildSfuWorkerEntry SfuWorkerValue
  simp only [bind_eq_ok, asObject_eq_ok, resolveNumber_eq_ok,
    Option.some.injEq]
  constructor
  · rintro ⟨r, hr, id, hid, min, hmin, max, hmax, h⟩
    cases h
    exact ⟨r, hr, hid, hmin, hmax⟩
  · rintro ⟨r, hr, hid, hmin, hmax⟩
    exact ⟨r, hr, _, hid, _, hmin, _, hmax, rfl⟩

theorem sfuWorkers_eq_ok {entries : List (Raw N)} {i : Nat}
    {cfgs : List (SfuWorkerConfig N)} :
    mapIdxFrom (buildSfuWorkerEntry host) i entries = .ok cfgs ↔
      List.Forall₂ (SfuWorkerValue host) entries cfgs :=
  mapIdxFrom_eq_ok (fun _ _ _ => buildSfuWorkerEntry_eq_ok) _ _ _

/-- When the `httpServer` field is accepted, and as what. -/
theorem buildHttpServer_eq_ok {cfg : HttpServerConfig N} :
    buildHttpServer host raw = .ok cfg ↔ ∃ properties,
      raw = some (.object properties) ∧
        NumberValue host (properties.lookup "port") cfg.port := by
  unfold buildHttpServer
  simp only [bind_eq_ok, asObject_eq_ok, resolveNumber_eq_ok]
  constructor
  · rintro ⟨r, hr, port, hport, h⟩
    cases h
    exact ⟨r, hr, hport⟩
  · rintro ⟨r, hr, hport⟩
    exact ⟨r, hr, _, hport, rfl⟩

/-! ## §3. Runs of the parser. -/

/-- A file is read, and the log says so. -/
theorem run_readFileSync_eq_ok {path text : String} {log log' : List Effect} :
    (readFileSync host path).runFrom log = (.ok text, log') ↔
      host.readFile path = .ok text ∧ log' = log ++ [.read path] := by
  show (host.readFile path, log ++ [.read path]) = _ ↔ _
  rw [Prod.mk.injEq, @eq_comm _ log']

/-- When a `tls` object is accepted, as what, and what is read on the way. -/
theorem run_buildTls_eq_ok {configDir : String} {options : TlsOptions}
    {log log' : List Effect} :
    (buildTls host raw configDir).runFrom log = (.ok options, log') ↔
      ∃ r keyPath certPath, raw = some (.object r) ∧
        StringValue host (r.lookup "keyPath") keyPath ∧
        StringValue host (r.lookup "certPath") certPath ∧
        host.readFile (host.resolve configDir keyPath) = .ok options.key ∧
        host.readFile (host.resolve configDir certPath) = .ok options.cert ∧
        log' = log ++ [.read (host.resolve configDir keyPath),
          .read (host.resolve configDir certPath)] := by
  unfold buildTls
  simp only [run_check_bind_eq_ok, asObject_eq_ok, resolveString_eq_ok]
  simp only [run_bind_eq_ok, run_readFileSync_eq_ok, run_pure]
  constructor
  · rintro ⟨r, hr, keyPath, hkey, certPath, hcert, key, log₁, ⟨hk, rfl⟩, cert,
      log₂, ⟨hc, rfl⟩, h⟩
    cases h
    exact ⟨r, keyPath, certPath, hr, hkey, hcert, hk, hc,
      List.append_assoc _ _ _⟩
  · rintro ⟨r, keyPath, certPath, hr, hkey, hcert, hk, hc, rfl⟩
    refine ⟨r, hr, keyPath, hkey, certPath, hcert, _, _, ⟨hk, rfl⟩, _, _,
      ⟨hc, rfl⟩, ?_⟩
    rw [List.append_assoc]
    rfl

/-- When the `tls` field is accepted, as what, and what it does besides. -/
theorem run_parseTls_eq_ok {configDir environment : String}
    {tls : Option TlsOptions} {log log' : List Effect} :
    (parseTls host raw environment configDir).runFrom log = (.ok tls, log') ↔
      ∃ effects, TlsValue host configDir environment raw tls effects ∧
        log' = log ++ effects := by
  unfold parseTls
  constructor
  -- the parser's own branches name the constructor
  · intro h
    split at h
    · rename_i hpresent
      split at h
      · -- not in production
        rename_i henv
        cases h
        exact ⟨_, .ignored hpresent henv, rfl⟩
      · rename_i henv
        obtain ⟨options, log₁, hb, hp⟩ := run_bind_eq_ok.mp h
        cases hp
        obtain ⟨r, keyPath, certPath, hr, hkey, hcert, hk, hc, rfl⟩ :=
          run_buildTls_eq_ok.mp hb
        exact ⟨_, .files (not_not.mp henv) hr hkey hcert hk hc, rfl⟩
    · rename_i hmissing
      have hmissing : absent raw = true := (Bool.not_eq_false _).mp hmissing
      split at h
      · rename_i henv
        cases h
        exact ⟨_, .missing hmissing henv, rfl⟩
      · rename_i henv
        cases h
        exact ⟨[], .plain hmissing henv, (List.append_nil _).symm⟩
  -- the constructor decides every condition of the parser
  · rintro ⟨effects, h, rfl⟩
    cases h with
    | plain hmissing henv =>
        rw [if_neg (by simp [hmissing]), if_neg henv, List.append_nil]
        rfl
    | missing hmissing henv =>
        rw [if_neg (by simp [hmissing]), if_pos henv]
        rfl
    | ignored hpresent henv =>
        rw [if_pos hpresent, if_pos henv]
        rfl
    | @files r keyPath certPath key cert henv hr hkey hcert hk hc =>
        have hpresent : absent raw = false := by
          rw [hr]
          rfl
        rw [if_pos hpresent, if_neg (not_not.mpr henv)]
        refine run_bind_eq_ok.mpr ⟨⟨key, cert⟩, _, ?_, rfl⟩
        exact run_buildTls_eq_ok.mpr
          ⟨r, keyPath, certPath, hr, hkey, hcert, hk, hc, rfl⟩

/-- **Acceptance.**  The parser accepts exactly the documents that conform to
the schema, returns what they stand for, and does exactly what the `tls`
field asks for: two files are read in production, at most one warning is
printed otherwise. -/
theorem parseAppConfig_ok_iff {raw : Raw N} {configDir : String}
    {cfg : AppConfig N} {effects : List Effect} :
    (parseAppConfig host raw configDir).runFrom [] = (.ok cfg, effects) ↔
      ∃ r, Conforms host raw configDir cfg effects r := by
  -- each parser of a field is replaced by what its success means
  unfold parseAppConfig
  simp only [run_check_bind_eq_ok, asObject_eq_ok, resolveString_eq_ok,
    resolveOptionalString_eq_ok, asNonEmptyArray_eq_ok,
    signalingServers_eq_ok, buildHttpServer_eq_ok]
  constructor
  · rintro ⟨r, hr, webOrigin, horigin, environment, henv, channel, hchannel,
      worker, hworker, servers, ⟨hne, hservers⟩, serverCfgs, hall, http, hhttp,
      h⟩
    -- `tls` is the one parser with effects, so it is taken apart by hand
    obtain ⟨tls, log₁, htls, h⟩ := run_bind_eq_ok.mp h
    obtain ⟨effects, htls, rfl⟩ := run_parseTls_eq_ok.mp htls
    simp only [run_check_bind_eq_ok, asNonEmptyArray_eq_ok,
      sfuWorkers_eq_ok] at h
    obtain ⟨workers, ⟨hne', hworkers⟩, workerCfgs, hall', h⟩ := h
    cases h
    exact ⟨r, Option.some.inj hr, horigin, henv, hchannel, hworker,
      ⟨servers, hne, hservers, hall⟩, hhttp, htls,
      ⟨workers, hne', hworkers, hall'⟩⟩
  · rintro ⟨r, h⟩
    obtain ⟨servers, hne, hservers, hall⟩ := h.signalingServers
    obtain ⟨workers, hne', hworkers, hall'⟩ := h.sfuWorkers
    refine ⟨r, congrArg some h.root, _, h.webOrigin, _, h.environment, _,
      h.channelAllocationStrategy, _, h.workerAllocationStrategy, servers,
      ⟨hne, hservers⟩, _, hall, _, h.httpServer, ?_⟩
    refine run_bind_eq_ok.mpr ⟨cfg.tls, effects, ?_, ?_⟩
    · exact run_parseTls_eq_ok.mpr ⟨effects, h.tls, rfl⟩
    · simp only [run_check_bind_eq_ok, asNonEmptyArray_eq_ok,
        sfuWorkers_eq_ok]
      exact ⟨workers, ⟨hne', hworkers⟩, _, hall', rfl⟩

/-! ## §4. Written out. -/

/-- A document without references that stands for the configuration. -/
def AppConfig.toRaw (cfg : AppConfig N) : Raw N :=
  .object
    [("webOrigin", .string cfg.webOrigin),
     ("environment", .string cfg.environment),
     ("channelAllocationStrategy", .string cfg.channelAllocationStrategy),
     ("signalingServers", .array (cfg.signalingServers.map fun server =>
        .object [("id", .number server.id), ("port", .number server.port)])),
     ("httpServer", .object [("port", .number cfg.httpServer.port)]),
     ("workerAllocationStrategy", .string cfg.workerAllocationStrategy),
     ("sfuWorkers", .array (cfg.sfuWorkers.map fun worker =>
        .object [("id", .number worker.id),
          ("portMin", .number worker.portRange.min),
          ("portMax", .number worker.portRange.max)]))]

/-- A list related to a nonempty list is not empty. -/
theorem ne_nil_of_forall₂ {α β : Type} {P : α → β → Prop} {xs : List α}
    {ys : List β} (h : List.Forall₂ P xs ys) (hne : xs ≠ []) : ys ≠ [] := by
  cases h with
  | nil => exact absurd rfl hne
  | cons _ _ => exact List.cons_ne_nil _ _

theorem forall₂_toRaw {α : Type} {P : Raw N → α → Prop} {f : α → Raw N}
    (h : ∀ x, P (f x) x) (xs : List α) : List.Forall₂ P (xs.map f) xs :=
  List.forall₂_map_left_iff.mpr (List.forall₂_same.mpr fun x _ => h x)

/-- A configuration conforms to the document it is written as. -/
theorem conforms_toRaw (host : Host N) (configDir : String)
    {cfg : AppConfig N} (hservers : cfg.signalingServers ≠ [])
    (hworkers : cfg.sfuWorkers ≠ []) (htls : cfg.tls = none) :
    ∃ effects r, Conforms host cfg.toRaw configDir cfg effects r := by
  have hvalue : ∃ effects, TlsValue host configDir cfg.environment none none
      effects := by
    by_cases henv : cfg.environment = "production"
    · exact ⟨_, .missing rfl henv⟩
    · exact ⟨_, .plain rfl henv⟩
  obtain ⟨effects, hvalue⟩ := hvalue
  refine ⟨effects, _, rfl, .literal _, .literal _, .literal _, .literal _,
    ⟨_, ?_, rfl, forall₂_toRaw (fun x => ?_) _⟩, ⟨_, rfl, .literal _⟩, ?_,
    ⟨_, ?_, rfl, forall₂_toRaw (fun x => ?_) _⟩⟩
  · exact fun h => hservers (List.map_eq_nil_iff.mp h)
  · exact ⟨_, rfl, .literal _, .literal _⟩
  · rw [htls]
    exact hvalue
  · exact fun h => hworkers (List.map_eq_nil_iff.mp h)
  · exact ⟨_, rfl, .literal _, .literal _, .literal _⟩

/-- **Written out, the configuration parses to itself**, from any directory
and under any environment, unless it holds TLS files: whatever references
and defaults the document had, the configuration keeps their values. -/
theorem parseAppConfig_toRaw {raw : Raw N} {configDir : String}
    {cfg : AppConfig N}
    (h : ((parseAppConfig host raw configDir).runFrom []).1 = .ok cfg)
    (htls : cfg.tls = none) (host' : Host N) (configDir' : String) :
    ((parseAppConfig host' cfg.toRaw configDir').runFrom []).1 = .ok cfg := by
  have hrun : (parseAppConfig host raw configDir).runFrom [] =
      (.ok cfg, ((parseAppConfig host raw configDir).runFrom []).2) :=
    Prod.ext h rfl
  obtain ⟨r, hconforms⟩ := parseAppConfig_ok_iff.mp hrun
  obtain ⟨_, hne, _, hservers⟩ := hconforms.signalingServers
  obtain ⟨_, hne', _, hworkers⟩ := hconforms.sfuWorkers
  obtain ⟨effects, r', hout⟩ := conforms_toRaw host' configDir'
    (ne_nil_of_forall₂ hservers hne) (ne_nil_of_forall₂ hworkers hne') htls
  rw [parseAppConfig_ok_iff.mpr ⟨r', hout⟩]

section Deployed

/-- Two variables are set, and there are no files. -/
def deployment : Host Nat where
  env name :=
    if name = "ORIGIN" then some "https://twolk"
    else if name = "PORT" then some "8000" else none
  toNumber text := if text = "8000" then some 8000 else none
  numberText n := toString n
  resolve _ path := path
  readFile _ := .error "ENOENT: no such file or directory"

/-- The origin and a port come from the environment. -/
def deployed : Raw Nat :=
  .object
    [("webOrigin", .object [("env", .string "ORIGIN")]),
     ("signalingServers",
        .array [.object [("id", .number 0), ("port", .number 3000)]]),
     ("httpServer",
        .object [("port", .object [("env", .string "PORT")])]),
     ("sfuWorkers", .array [.object [("id", .number 0),
        ("portMin", .number 10000), ("portMax", .number 11000)]])]

/-- What the document of `deployment` is parsed to. -/
def deployedConfig : AppConfig Nat :=
  ⟨"https://twolk", "development", [⟨0, 3000⟩], "round-robin", "round-robin",
    ⟨8000⟩, none, [⟨0, ⟨10000, 11000⟩⟩]⟩

/-- Without the variables, the configuration of the document still parses. -/
theorem parseAppConfig_toRaw_deployed :
    ((parseAppConfig { deployment with env := fun _ => none }
      deployedConfig.toRaw "/").runFrom []).1 = .ok deployedConfig := by
  have hparsed : ((parseAppConfig deployment deployed ".").runFrom []).1 =
      .ok deployedConfig := rfl
  exact parseAppConfig_toRaw hparsed rfl _ _

end Deployed

end Twolk.App
