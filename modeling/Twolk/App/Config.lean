/-
  Twolk.App.Config
  ────────────────
  **THE CONFIGURATION PARSER.**

  Embeds `config.ts`: a parsed YAML document is read field by field, in a
  fixed order, and the first field at fault ends it with an error that names
  it.  A scalar is a literal or `{ env: NAME }`, resolved from the
  environment; TLS files are read only in production.

  Of the YAML package, Node and the language there are the document,
  `process.env`, `path.resolve`, `readFileSync` and `Number`; they are
  parameters, and so is the type of numbers.
-/
import Twolk.Lib.Checks

namespace Twolk.App

open Twolk.Lib Code

/-! ## §1. Documents. -/

/-- What `parseYaml` returns; an object by its properties, in order. -/
inductive Raw (N : Type) where
  | null
  | boolean (value : Bool)
  | number (value : N)
  | string (value : String)
  | array (items : List (Raw N))
  | object (properties : List (String × Raw N))

/-- The process and the file system the parser runs in. -/
structure Host (N : Type) where
  /-- `process.env[name]`. -/
  env : String → Option String
  /-- `Number(text)`, `none` for `NaN`. -/
  toNumber : String → Option N
  /-- `JSON.stringify` of a number. -/
  numberText : N → String
  /-- `path.resolve(baseDir, path)`. -/
  resolve : String → String → String
  /-- `readFileSync(path, "utf-8")`, or the message of what it throws. -/
  readFile : String → Except String String

/-- A character of a JSON string. -/
def escapeChar (c : Char) : List Char :=
  if c = '"' then ['\\', '"']
  else if c = '\\' then ['\\', '\\']
  else if c.val = 8 then ['\\', 'b']
  else if c.val = 9 then ['\\', 't']
  else if c.val = 10 then ['\\', 'n']
  else if c.val = 12 then ['\\', 'f']
  else if c.val = 13 then ['\\', 'r']
  -- the other control characters have no short form
  else if c.val < 32 then
    ['\\', 'u', '0', '0', Nat.digitChar (c.toNat / 16),
      Nat.digitChar (c.toNat % 16)]
  else [c]

/-- A JSON string. -/
def quote (s : String) : String :=
  "\"" ++ String.ofList (s.toList.flatMap escapeChar) ++ "\""

variable {N : Type}

mutual

/-- `JSON.stringify(raw)`. -/
def stringify (host : Host N) : Raw N → String
  | .null => "null"
  | .boolean value => if value then "true" else "false"
  | .number value => host.numberText value
  | .string value => quote value
  | .array items => "[" ++ ",".intercalate (stringifyItems host items) ++ "]"
  | .object properties =>
      "\x7b" ++ ",".intercalate (stringifyProperties host properties) ++ "\x7d"

/-- The items of an array, each in JSON. -/
def stringifyItems (host : Host N) : List (Raw N) → List String
  | [] => []
  | item :: items => stringify host item :: stringifyItems host items

/-- The properties of an object, each in JSON. -/
def stringifyProperties (host : Host N) :
    List (String × Raw N) → List String
  | [] => []
  | (key, value) :: properties =>
      (quote key ++ ":" ++ stringify host value) ::
        stringifyProperties host properties

end

/-- What `JSON.stringify(raw)` leaves in a message; `none` is `undefined`. -/
def shown (host : Host N) : Option (Raw N) → String
  | none => "undefined"
  | some raw => stringify host raw

/-! ## §2. Resolution helpers. -/

/-- The variable an `EnvSpec` refers to. -/
def isEnvSpec : Option (Raw N) → Option String
  | some (.object [(key, .string name)]) =>
      if key = "env" then some name else none
  | _ => none

/-- Every message starts with the field. -/
def message (field text : String) : String :=
  "config: " ++ field ++ ": " ++ text

/-- The message for a variable that is not set. -/
def notSet (field name : String) : String :=
  message field ("env var \"" ++ name ++ "\" is not set")

/-- A literal string, or the value of the variable an `EnvSpec` names. -/
def resolveString (host : Host N) (raw : Option (Raw N)) (field : String) :
    Except String String :=
  match raw with
  | some (.string value) => .ok value
  -- anything that is no string may still name an environment variable
  | _ =>
      match isEnvSpec raw with
      | some name =>
          match host.env name with
          | none => .error (notSet field name)
          | some val => .ok val
      | none => .error (message field
          ("expected a string or \x7b env: VAR \x7d, got " ++ shown host raw))

/-- A literal number, or the number the value of a variable spells. -/
def resolveNumber (host : Host N) (raw : Option (Raw N)) (field : String) :
    Except String N :=
  match raw with
  | some (.number value) => .ok value
  -- a string is not converted: only an `env` spec or a number is accepted
  | _ =>
      match isEnvSpec raw with
      | some name =>
          match host.env name with
          | none => .error (notSet field name)
          | some str =>
              match host.toNumber str with
              | none => .error (message field ("env var \"" ++ name ++
                  "\" value \"" ++ str ++ "\" is not a valid number"))
              | some n => .ok n
      | none => .error (message field
          ("expected a number or \x7b env: VAR \x7d, got " ++ shown host raw))

/-- `undefined` or `null`. -/
def absent : Option (Raw N) → Bool
  | none => true
  | some .null => true
  | _ => false

/-- The default stands for a field that is absent or `null`. -/
def resolveOptionalString (host : Host N) (raw : Option (Raw N))
    (field defaultValue : String) : Except String String :=
  if absent raw then .ok defaultValue else resolveString host raw field

/-- The properties of an object; anything else is at fault. -/
def asObject (raw : Option (Raw N)) (field : String) :
    Except String (List (String × Raw N)) :=
  match raw with
  | some (.object properties) => .ok properties
  | _ => .error (message field "expected an object")

/-- The test of the two array fields. -/
def asNonEmptyArray (raw : Option (Raw N)) (field : String) :
    Except String (List (Raw N)) :=
  match raw with
  | some (.array (item :: items)) => .ok (item :: items)
  | _ => .error (message field "expected a non-empty array")

/-! ## §3. Builder parsers. -/

/-- The contents of the two TLS files. -/
structure TlsOptions where
  key : String
  cert : String
deriving DecidableEq, Repr

/-- The ports of one media worker. -/
structure PortRange (N : Type) where
  min : N
  max : N
deriving DecidableEq, Repr

/-- An entry of `sfuWorkers`. -/
structure SfuWorkerConfig (N : Type) where
  id : N
  portRange : PortRange N
deriving DecidableEq, Repr

/-- An entry of `signalingServers`. -/
structure SignalingServerConfig (N : Type) where
  id : N
  port : N
deriving DecidableEq, Repr

/-- The `httpServer` field. -/
structure HttpServerConfig (N : Type) where
  port : N
deriving DecidableEq, Repr

/-- Parsed application configuration consumed by `app.ts`. -/
structure AppConfig (N : Type) where
  webOrigin : String
  environment : String
  signalingServers : List (SignalingServerConfig N)
  channelAllocationStrategy : String
  workerAllocationStrategy : String
  httpServer : HttpServerConfig N
  tls : Option TlsOptions
  sfuWorkers : List (SfuWorkerConfig N)
deriving DecidableEq, Repr

/-- What the parser does besides: `console.warn`, `readFileSync`. -/
inductive Effect where
  | warn (text : String)
  | read (path : String)
deriving DecidableEq, Repr

/-- Code that throws messages and keeps a log of its effects. -/
abbrev Parser (α : Type) := Code (List Effect) String α

/-- `console.warn(text)`. -/
def warn (text : String) : Parser Unit :=
  modify fun log => log ++ [.warn text]

/-- `readFileSync(path, "utf-8")`. -/
def readFileSync (host : Host N) (path : String) : Parser String := do
  modify fun log => log ++ [.read path]
  check (host.readFile path)

/-- Reads TLS certificate files relative to the config file directory. -/
def buildTls (host : Host N) (raw : Option (Raw N)) (baseDir : String) :
    Parser TlsOptions := do
  let r ← check (asObject raw "tls")
  let keyPath ← check (resolveString host (r.lookup "keyPath") "tls.keyPath")
  let certPath ←
    check (resolveString host (r.lookup "certPath") "tls.certPath")
  let key ← readFileSync host (host.resolve baseDir keyPath)
  let cert ← readFileSync host (host.resolve baseDir certPath)
  return ⟨key, cert⟩

/-- `${field}[${i}]`. -/
def entryField (field : String) (i : Nat) : String :=
  field ++ "[" ++ toString i ++ "]"

/-- The `i`-th entry of `sfuWorkers`. -/
def buildSfuWorkerEntry (host : Host N) (raw : Raw N) (i : Nat) :
    Except String (SfuWorkerConfig N) := do
  let field := entryField "sfuWorkers" i
  let r ← asObject (some raw) field
  let id ← resolveNumber host (r.lookup "id") (field ++ ".id")
  let min ← resolveNumber host (r.lookup "portMin") (field ++ ".portMin")
  let max ← resolveNumber host (r.lookup "portMax") (field ++ ".portMax")
  return ⟨id, ⟨min, max⟩⟩

/-- The `i`-th entry of `signalingServers`. -/
def buildSignalingServerEntry (host : Host N) (raw : Raw N) (i : Nat) :
    Except String (SignalingServerConfig N) := do
  let field := entryField "signalingServers" i
  let r ← asObject (some raw) field
  let id ← resolveNumber host (r.lookup "id") (field ++ ".id")
  let port ← resolveNumber host (r.lookup "port") (field ++ ".port")
  return ⟨id, port⟩

/-- The `httpServer` field. -/
def buildHttpServer (host : Host N) (raw : Option (Raw N)) :
    Except String (HttpServerConfig N) := do
  let r ← asObject raw "httpServer"
  let port ← resolveNumber host (r.lookup "port") "httpServer.port"
  return ⟨port⟩

/-! ## §4. The parser. -/

/-- The warning outside production. -/
def tlsIgnored : String :=
  "config: tls section present but environment is not production — TLS ignored"

/-- The warning in production. -/
def tlsMissing : String :=
  "config: environment is production but no tls section provided — " ++
    "serving over HTTP"

/-- The `tls` field. -/
def parseTls (host : Host N) (raw : Option (Raw N))
    (environment configDir : String) : Parser (Option TlsOptions) := do
  if absent raw = false then
    if environment ≠ "production" then
      warn tlsIgnored
      return none
    else return some (← buildTls host raw configDir)
  else if environment = "production" then
    warn tlsMissing
    return none
  else return none

/-- Parses already-loaded YAML data into `AppConfig`. -/
def parseAppConfig (host : Host N) (raw : Raw N) (configDir : String) :
    Parser (AppConfig N) := do
  let r ← check (asObject (some raw) "<root>")
  let webOrigin ←
    check (resolveString host (r.lookup "webOrigin") "webOrigin")
  -- the optional strings come before the lists, each with its default
  let environment ← check (resolveOptionalString host
    (r.lookup "environment") "environment" "development")
  let channelAllocationStrategy ← check (resolveOptionalString host
    (r.lookup "channelAllocationStrategy") "channelAllocationStrategy"
    "round-robin")
  let workerAllocationStrategy ← check (resolveOptionalString host
    (r.lookup "workerAllocationStrategy") "workerAllocationStrategy"
    "round-robin")
  let entries ←
    check (asNonEmptyArray (r.lookup "signalingServers") "signalingServers")
  let signalingServers ←
    check (mapIdxFrom (buildSignalingServerEntry host) 0 entries)
  let httpServer ← check (buildHttpServer host (r.lookup "httpServer"))
  -- the files of `tls` are read here, between the servers and the workers
  let tls ← parseTls host (r.lookup "tls") environment configDir
  let entries ← check (asNonEmptyArray (r.lookup "sfuWorkers") "sfuWorkers")
  let sfuWorkers ← check (mapIdxFrom (buildSfuWorkerEntry host) 0 entries)
  return ⟨webOrigin, environment, signalingServers, channelAllocationStrategy,
    workerAllocationStrategy, httpServer, tls, sfuWorkers⟩

/-- Loads, parses, and resolves a YAML config file from disk. -/
def loadConfig (host : Host N) (parseYaml : String → Except String (Raw N))
    (absoluteDirname : String → String) (configPath : String) :
    Parser (AppConfig N) := do
  let content ← readFileSync host configPath
  let raw ← check (parseYaml content)
  parseAppConfig host raw (absoluteDirname configPath)

end Twolk.App
