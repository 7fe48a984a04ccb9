/-
  Twolk.App.Faults
  ────────────────
  **WHAT THE CONFIGURATION PARSER REPORTS.**

  The parser stops at the first field at fault.  `documentFaults` looks at
  every field on its own and keeps all the faults, in the order of the
  schema; only the `tls` field depends on another one, the environment.

  Main result: `parseAppConfig_error_iff` — the parser reports the first of
  them, and its message starts with the path of the field.
-/
import Twolk.App.Schema

namespace Twolk.App

open Twolk.Lib Code

variable {N : Type} {host : Host N} {raw : Option (Raw N)} {field : String}

/-! ## §1. Faults. -/

/-- A fault: the field, and the message. -/
abbrev Fault := String × String

/-- What the check of a field finds. -/
def faultOf {α : Type} (field : String) (r : Except String α) : List Fault :=
  (errorOf r).toList.map (Prod.mk field)

/-- The faults of an object, or that there is none. -/
def objectFaults (raw : Option (Raw N)) (field : String)
    (faults : List (String × Raw N) → List Fault) : List Fault :=
  match raw with
  | some (.object r) => faults r
  | _ => faultOf field (asObject raw field)

/-- The faults of the entries of an array, or that there is none. -/
def arrayFaults (raw : Option (Raw N)) (field : String)
    (faults : Raw N → Nat → List Fault) : List Fault :=
  match raw with
  | some (.array (entry :: entries)) =>
      errorsFrom faults 0 (entry :: entries)
  | _ => faultOf field (asNonEmptyArray raw field)

/-- The fault of a number field. -/
def numberFault (host : Host N) (r : List (String × Raw N)) (key : String)
    (field : String) : List Fault :=
  faultOf field (resolveNumber host (r.lookup key) field)

/-- The fault of a string field. -/
def stringFault (host : Host N) (r : List (String × Raw N)) (key : String)
    (field : String) : List Fault :=
  faultOf field (resolveString host (r.lookup key) field)

/-- The fault of a field that has a default. -/
def optionalStringFault (host : Host N) (r : List (String × Raw N))
    (field defaultValue : String) : List Fault :=
  faultOf field
    (resolveOptionalString host (r.lookup field) field defaultValue)

/-- The fault of a file a path names. -/
def fileFault (host : Host N) (r : List (String × Raw N))
    (key field configDir : String) : List Fault :=
  match resolveString host (r.lookup key) field with
  | .ok path => faultOf field (host.readFile (host.resolve configDir path))
  | .error _ => []

/-- The faults of the `i`-th entry of `signalingServers`. -/
def signalingServerFaults (host : Host N) (raw : Raw N) (i : Nat) :
    List Fault :=
  let field := entryField "signalingServers" i
  objectFaults (some raw) field fun r =>
    numberFault host r "id" (field ++ ".id") ++
      numberFault host r "port" (field ++ ".port")

/-- The faults of the `i`-th entry of `sfuWorkers`. -/
def sfuWorkerFaults (host : Host N) (raw : Raw N) (i : Nat) : List Fault :=
  let field := entryField "sfuWorkers" i
  objectFaults (some raw) field fun r =>
    numberFault host r "id" (field ++ ".id") ++
      (numberFault host r "portMin" (field ++ ".portMin") ++
        numberFault host r "portMax" (field ++ ".portMax"))

/-- The `tls` field is looked at in production only. -/
def tlsFaults (host : Host N) (raw : Option (Raw N))
    (environment configDir : String) : List Fault :=
  if absent raw = false ∧ environment = "production" then
    objectFaults raw "tls" fun r =>
      stringFault host r "keyPath" "tls.keyPath" ++
        (stringFault host r "certPath" "tls.certPath" ++
          (fileFault host r "keyPath" "tls.keyPath" configDir ++
            fileFault host r "certPath" "tls.certPath" configDir))
  else []

/-- All the faults of a document, each field looked at on its own. -/
def documentFaults (host : Host N) (raw : Raw N) (configDir : String) :
    List Fault :=
  objectFaults (some raw) "<root>" fun r =>
    stringFault host r "webOrigin" "webOrigin" ++
    (optionalStringFault host r "environment" "development" ++
    (optionalStringFault host r "channelAllocationStrategy" "round-robin" ++
    (optionalStringFault host r "workerAllocationStrategy" "round-robin" ++
    (arrayFaults (r.lookup "signalingServers") "signalingServers"
      (signalingServerFaults host) ++
    (objectFaults (r.lookup "httpServer") "httpServer"
      (fun r => numberFault host r "port" "httpServer.port") ++
    -- `tls` is looked at only where the environment it depends on is known
    ((match resolveOptionalString host (r.lookup "environment") "environment"
          "development" with
      | .ok environment =>
          tlsFaults host (r.lookup "tls") environment configDir
      | .error _ => []) ++
    arrayFaults (r.lookup "sfuWorkers") "sfuWorkers"
      (sfuWorkerFaults host)))))))

/-! ## §2. The first of them. -/

/-- The messages. -/
def messages (faults : List Fault) : List String := faults.map Prod.snd

theorem messages_append (faults faults' : List Fault) :
    messages (faults ++ faults') = messages faults ++ messages faults' :=
  List.map_append

theorem messages_faultOf {α : Type} (r : Except String α) :
    messages (faultOf field r) = (errorOf r).toList := by
  unfold messages faultOf
  rw [List.map_map]
  exact List.map_id _

theorem reports_self {α : Type} (r : Except String α) :
    Reports r (messages (faultOf field r)) := by
  rw [messages_faultOf]
  exact .self r

/-- A field that has to be an object reports that it is none, or the first
fault of its properties. -/
theorem reports_object {α : Type} {f : List (String × Raw N) → Except String α}
    {faults : List (String × Raw N) → List Fault}
    (hf : ∀ r, raw = some (.object r) → Reports (f r) (messages (faults r))) :
    Reports (asObject raw field >>= f)
      (messages (objectFaults raw field faults)) := by
  unfold objectFaults
  split
  · exact hf _ rfl
  · rename_i hnot
    exact (reports_self _).bind_nil fun r hr =>
      absurd (asObject_eq_ok.mp hr) (hnot r)

/-- The same for a field read in code that goes on afterwards. -/
theorem reports_object_code {α : Type}
    {k : List (String × Raw N) → Parser α}
    {faults : List (String × Raw N) → List Fault}
    (hk : ∀ r, raw = some (.object r) →
      Code.Reports (k r) (messages (faults r))) :
    Code.Reports (check (asObject raw field) >>= k)
      (messages (objectFaults raw field faults)) := by
  unfold objectFaults
  split
  · exact hk _ rfl
  · rename_i hnot
    exact .check_bind_nil (reports_self _) fun r hr =>
      absurd (asObject_eq_ok.mp hr) (hnot r)

/-- An array field reports that it is none, or the first fault of its entries,
and only then what comes after it. -/
theorem reports_array {α β : Type} {f : Raw N → Nat → Except String α}
    {k : List α → Parser β} {faults : Raw N → Nat → List Fault}
    {more : List String}
    (hf : ∀ entry i, Lib.Reports (f entry i) (messages (faults entry i)))
    (hk : ∀ xs, Code.Reports (k xs) more) :
    Code.Reports (do
      let entries ← check (asNonEmptyArray raw field)
      let xs ← check (mapIdxFrom f 0 entries)
      k xs) (messages (arrayFaults raw field faults) ++ more) := by
  unfold arrayFaults
  split
  · rename_i entry entries
    show Code.Reports (check (mapIdxFrom f 0 (entry :: entries)) >>= k) _
    rw [messages, map_errorsFrom]
    exact Code.Reports.check_bind (.mapIdxFrom hf _ _) fun xs _ => hk xs
  · rename_i hnot
    refine Code.Reports.check_bind (reports_self _) fun entries hentries => ?_
    obtain ⟨hne, hraw⟩ := asNonEmptyArray_eq_ok.mp hentries
    cases entries with
    | nil => exact absurd rfl hne
    | cons entry entries => exact absurd hraw (hnot entry entries)

/-- Of the faults of an entry the parser reports the first. -/
theorem buildSignalingServerEntry_reports (entry : Raw N) (i : Nat) :
    Lib.Reports (buildSignalingServerEntry host entry i)
      (messages (signalingServerFaults host entry i)) := by
  refine reports_object fun r _ => ?_
  rw [messages_append]
  exact (reports_self _).bind fun _ _ => (reports_self _).map _

theorem buildSfuWorkerEntry_reports (entry : Raw N) (i : Nat) :
    Lib.Reports (buildSfuWorkerEntry host entry i)
      (messages (sfuWorkerFaults host entry i)) := by
  refine reports_object fun r _ => ?_
  rw [messages_append, messages_append]
  refine (reports_self _).bind fun _ _ => (reports_self _).bind fun _ _ => ?_
  exact (reports_self _).map _

/-- The same for the `httpServer` field. -/
theorem buildHttpServer_reports :
    Lib.Reports (buildHttpServer host raw)
      (messages (objectFaults raw "httpServer"
        fun r => numberFault host r "port" "httpServer.port")) :=
  reports_object fun _ _ => (reports_self _).map _

theorem readFileSync_reports (path : String) :
    Code.Reports (readFileSync host path)
      (messages (faultOf field (host.readFile path))) :=
  fun _ => reports_self (host.readFile path)

/-- The files come after both paths, in the order in which they are read. -/
theorem buildTls_reports {configDir : String} :
    Code.Reports (buildTls host raw configDir)
      (messages (objectFaults raw "tls" fun r =>
        stringFault host r "keyPath" "tls.keyPath" ++
          (stringFault host r "certPath" "tls.certPath" ++
            (fileFault host r "keyPath" "tls.keyPath" configDir ++
              fileFault host r "certPath" "tls.certPath" configDir)))) := by
  refine reports_object_code fun r _ => ?_
  simp only [messages_append]
  refine .check_bind (reports_self _) fun keyPath hkey => ?_
  refine .check_bind (reports_self _) fun certPath hcert => ?_
  unfold fileFault
  rw [hkey, hcert]
  refine .bind (readFileSync_reports _) fun key _ _ _ => ?_
  exact .bind_nil (readFileSync_reports _) fun _ _ _ _ => .pure _

/-- The `tls` field has faults in production only. -/
theorem parseTls_reports {environment configDir : String} :
    Code.Reports (parseTls host raw environment configDir)
      (messages (tlsFaults host raw environment configDir)) := by
  unfold parseTls tlsFaults
  split
  · rename_i hpresent
    split
    · rename_i henv
      rw [if_neg fun h => henv h.2]
      exact fun _ => .ok _
    · rename_i henv
      rw [if_pos ⟨hpresent, not_not.mp henv⟩]
      exact .bind_nil buildTls_reports fun _ _ _ _ => .pure _
  · rename_i hmissing
    have hnone : ¬ (absent raw = false ∧ environment = "production") :=
      fun h => hmissing h.1
    rw [if_neg hnone]
    split
    · exact fun _ => .ok _
    · exact .pure none

/-- **The parser reports the first fault of the document**, whatever the log.
-/
theorem parseAppConfig_reports {raw : Raw N} {configDir : String} :
    Code.Reports (parseAppConfig host raw configDir)
      (messages (documentFaults host raw configDir)) := by
  refine reports_object_code fun r _ => ?_
  simp only [messages_append]
  refine .check_bind (reports_self _) fun webOrigin _ => ?_
  refine .check_bind (reports_self _) fun environment henv => ?_
  refine .check_bind (reports_self _) fun channelStrategy _ => ?_
  refine .check_bind (reports_self _) fun workerStrategy _ => ?_
  refine reports_array buildSignalingServerEntry_reports fun servers => ?_
  refine .check_bind buildHttpServer_reports fun httpServer _ => ?_
  rw [henv]
  refine .bind parseTls_reports fun tls _ _ _ => ?_
  rw [← List.append_nil (messages (arrayFaults _ _ _))]
  exact reports_array buildSfuWorkerEntry_reports fun _ => .pure _

/-! ## §3. Messages. -/

/-- A TLS field of the document names a file: it resolves to a path, which
is taken from the directory of the configuration file. -/
def NamesFile (host : Host N) (document : Raw N)
    (configDir field file : String) : Prop :=
  ∃ properties r key path, document = .object properties ∧
    properties.lookup "tls" = some (.object r) ∧
    (key, field) ∈ [("keyPath", "tls.keyPath"), ("certPath", "tls.certPath")] ∧
    resolveString host (r.lookup key) field = .ok path ∧
    file = host.resolve configDir path

/-- The message of a fault begins with the field it is about, or is what
reading the file that the field names threw. -/
def Names (host : Host N) (document : Raw N) (configDir : String)
    (fault : Fault) : Prop :=
  (∃ text, fault.2 = message fault.1 text) ∨
    ∃ file, NamesFile host document configDir fault.1 file ∧
      host.readFile file = .error fault.2

variable {document : Raw N} {configDir : String}

/-- A check whose errors all name the field. -/
theorem names_faultOf {α : Type} {r : Except String α}
    (h : ∀ e, r = .error e → Names host document configDir (field, e)) :
    ∀ fault ∈ faultOf field r, Names host document configDir fault := by
  intro fault hfault
  cases r with
  | error e =>
      rw [List.mem_singleton.mp hfault]
      exact h e rfl
  | ok a => cases hfault

/-- Every error of `resolveString` names its field. -/
theorem names_resolveString {e : String}
    (h : resolveString host raw field = .error e) :
    Names host document configDir (field, e) := by
  unfold resolveString at h
  split at h
  · cases h
  · split at h
    · split at h
      · cases h
        exact .inl ⟨_, rfl⟩
      · cases h
    · cases h
      exact .inl ⟨_, rfl⟩

theorem names_resolveNumber {e : String}
    (h : resolveNumber host raw field = .error e) :
    Names host document configDir (field, e) := by
  unfold resolveNumber at h
  split at h
  · cases h
  · split at h
    · split at h
      · cases h
        exact .inl ⟨_, rfl⟩
      · split at h
        · cases h
          exact .inl ⟨_, rfl⟩
        · cases h
    · cases h
      exact .inl ⟨_, rfl⟩

theorem names_resolveOptionalString {defaultValue e : String}
    (h : resolveOptionalString host raw field defaultValue = .error e) :
    Names host document configDir (field, e) := by
  unfold resolveOptionalString at h
  split at h
  · cases h
  · exact names_resolveString h

/-- A field that is no object, or the faults of its properties. -/
theorem names_objectFaults {faults : List (String × Raw N) → List Fault}
    (h : ∀ r, raw = some (.object r) →
      ∀ fault ∈ faults r, Names host document configDir fault) :
    ∀ fault ∈ objectFaults raw field faults,
      Names host document configDir fault := by
  unfold objectFaults
  split
  · exact h _ rfl
  · refine names_faultOf fun e he => ?_
    unfold asObject at he
    split at he
    · cases he
    · cases he
      exact .inl ⟨_, rfl⟩

/-- A field that is no array, or the faults of its entries. -/
theorem names_arrayFaults {faults : Raw N → Nat → List Fault}
    (h : ∀ entry i, ∀ fault ∈ faults entry i,
      Names host document configDir fault) :
    ∀ fault ∈ arrayFaults raw field faults,
      Names host document configDir fault := by
  unfold arrayFaults
  split
  · intro fault hfault
    obtain ⟨entry, i, hin⟩ := mem_errorsFrom hfault
    exact h entry i fault hin
  · refine names_faultOf fun e he => ?_
    unfold asNonEmptyArray at he
    split at he
    · cases he
    · cases he
      exact .inl ⟨_, rfl⟩

theorem names_numberFault (r : List (String × Raw N)) (key field : String) :
    ∀ fault ∈ numberFault host r key field,
      Names host document configDir fault :=
  names_faultOf fun _ => names_resolveNumber

theorem names_stringFault (r : List (String × Raw N)) (key field : String) :
    ∀ fault ∈ stringFault host r key field,
      Names host document configDir fault :=
  names_faultOf fun _ => names_resolveString

/-- The file of a path in the `tls` object of the document. -/
theorem names_fileFault {properties r : List (String × Raw N)}
    (hdocument : document = .object properties)
    (htls : properties.lookup "tls" = some (.object r)) {key : String}
    (hkey : (key, field) ∈
      [("keyPath", "tls.keyPath"), ("certPath", "tls.certPath")]) :
    ∀ fault ∈ fileFault host r key field configDir,
      Names host document configDir fault := by
  unfold fileFault
  split
  · rename_i path hpath
    exact names_faultOf fun e he => .inr
      ⟨_, ⟨properties, r, key, path, hdocument, htls, hkey, hpath, rfl⟩, he⟩
  · exact fun _ hin => absurd hin List.not_mem_nil

/-- Two lists of faults, all of which name their fields. -/
theorem names_append {faults faults' : List Fault}
    (h : ∀ fault ∈ faults, Names host document configDir fault)
    (h' : ∀ fault ∈ faults', Names host document configDir fault) :
    ∀ fault ∈ faults ++ faults', Names host document configDir fault :=
  fun fault hin => (List.mem_append.mp hin).elim (h fault) (h' fault)

/-- The faults of the `tls` object, its two files among them. -/
theorem names_tlsFaults {properties : List (String × Raw N)}
    (hdocument : document = .object properties) (environment : String) :
    ∀ fault ∈ tlsFaults host (properties.lookup "tls") environment configDir,
      Names host document configDir fault := by
  unfold tlsFaults
  split
  · refine names_objectFaults fun r htls => ?_
    refine names_append (names_stringFault _ _ _) ?_
    refine names_append (names_stringFault _ _ _) ?_
    exact names_append
      (names_fileFault hdocument htls List.mem_cons_self)
      (names_fileFault hdocument htls
        (List.mem_cons_of_mem _ List.mem_cons_self))
  · exact fun _ hin => absurd hin List.not_mem_nil

/-- Every fault of a document. -/
theorem names_documentFaults :
    ∀ fault ∈ documentFaults host document configDir,
      Names host document configDir fault := by
  refine names_objectFaults fun r hr => ?_
  have hoptional : ∀ field defaultValue,
      ∀ fault ∈ optionalStringFault host r field defaultValue,
        Names host document configDir fault :=
    fun _ _ => names_faultOf fun _ => names_resolveOptionalString
  refine names_append (names_stringFault _ _ _) ?_
  refine names_append (hoptional _ _) (names_append (hoptional _ _)
    (names_append (hoptional _ _) ?_))
  refine names_append (names_arrayFaults fun entry i => ?_) ?_
  · refine names_objectFaults fun r _ => ?_
    exact names_append (names_numberFault _ _ _) (names_numberFault _ _ _)
  refine names_append
    (names_objectFaults fun r _ => names_numberFault _ _ _) ?_
  refine names_append ?_ (names_arrayFaults fun entry i => ?_)
  · split
    · exact names_tlsFaults (Option.some.inj hr) _
    · exact fun _ hin => absurd hin List.not_mem_nil
  · refine names_objectFaults fun r _ => ?_
    exact names_append (names_numberFault _ _ _)
      (names_append (names_numberFault _ _ _) (names_numberFault _ _ _))

/-- **The first fault.**  The parser fails exactly when some field is at
fault, with the message of the first field that is, in the order of the
schema; a message starts with the path of its field unless it is what reading
the file that the field names threw. -/
theorem parseAppConfig_error_iff (host : Host N) (raw : Raw N)
    (configDir : String) :
    (∀ e, ((parseAppConfig host raw configDir).runFrom []).1 = .error e ↔
      ∃ field, (documentFaults host raw configDir).head? = some (field, e)) ∧
    ∀ fault ∈ documentFaults host raw configDir,
      Names host raw configDir fault := by
  refine ⟨fun e => ?_, names_documentFaults⟩
  rw [(parseAppConfig_reports []).iff, messages, List.head?_map,
    Option.map_eq_some_iff]
  constructor
  · rintro ⟨⟨field, e⟩, hhead, rfl⟩
    exact ⟨field, hhead⟩
  · rintro ⟨field, hhead⟩
    exact ⟨(field, e), hhead, rfl⟩

-- two fields are at fault
example : ((parseAppConfig deployment (.object
    [("webOrigin", .string "https://twolk"), ("environment", .number 1),
     ("signalingServers", .array [])]) ".").runFrom []).1 = .error
      ("config: environment: expected a string or \x7b env: VAR \x7d, " ++
        "got 1") := by
  rfl

end Twolk.App
